import Cap.Proto

/-!
Standard protobuf decoding, as lenient as the language allows: varints may be longer than they
need to be, of a repeated singular scalar the last value stays, a repeated singular message is
merged into the first, a second member of a oneof takes the place of the first, and unknown fields
are kept aside, except in the entries of a map. Byte slices are shorter than 2^63 bytes.
-/
namespace Cap.Proto
open Cap.Text Cap.Varint Cap.Wire

/-- A field number and wire type, and the size of the tag. -/
def readTag (raw : Bytes) : Option (Nat × Nat × Nat) :=
  match readShifted 10 0 0 raw with
  | none => none
  | some (tag,size) => if 1 ≤ tag / 8 ∧ tag / 8 < 2 ^ 29 then some (tag / 8,tag % 8,size) else none

variable {size wireType : Nat} {raw : Bytes} {value : Value}

theorem readTag_eq_some {number : Nat} :
    readTag raw = some (number,wireType,size) ↔ readShifted 10 0 0 raw = some (number * 8 + wireType,size) ∧
      wireType < 8 ∧ 1 ≤ number ∧ number < 2 ^ 29 := by
  unfold readTag
  cases read : readShifted 10 0 0 raw with
  | none => simp
  | some found =>
    obtain ⟨tag,count⟩ := found
    dsimp only
    constructor
    · intro tagged
      split at tagged
      · next valid =>
        cases tagged
        refine ⟨?_,Nat.mod_lt _ (by omega),valid⟩
        rw [show tag / 8 * 8 + tag % 8 = tag by omega]
      · cases tagged
    · rintro ⟨same,type,valid⟩
      cases same
      rw [show (number * 8 + wireType) / 8 = number by omega,show (number * 8 + wireType) % 8 = wireType by omega,
        if_pos valid]

/-- A value of a wire type and the bytes it takes; the form of its varint is of no concern. -/
def readValue (wireType : Nat) (raw : Bytes) : Option (Value × Nat) :=
  match wireType with
  | 0 => (readShifted 10 0 0 raw).map fun (n,size) => (.varint n,size)
  | 1 => if 8 ≤ raw.length then some (.fixed64 (raw.take 8),8) else none
  | 2 => (readShifted 10 0 0 raw).bind fun (length,size) =>
      if size + length ≤ raw.length then some (.bytes ((raw.drop size).take length),size + length) else none
  | 5 => if 4 ≤ raw.length then some (.fixed32 (raw.take 4),4) else none
  | _ => none

theorem readValue_wireType
    (read : readValue wireType raw = some (value,size)) : value.wireType = wireType := by
  unfold readValue at read
  split at read
  · obtain ⟨_,-,same⟩ := Option.map_eq_some_iff.mp read
    cases same
    rfl
  · split at read <;> cases read
    rfl
  · obtain ⟨_,-,bounded⟩ := Option.bind_eq_some_iff.mp read
    dsimp only at bounded
    split at bounded <;> cases bounded
    rfl
  · split at read <;> cases read
    rfl
  · cases read

theorem readValue_payload {payload : Bytes}
    (read : readValue wireType raw = some (.bytes payload,size)) : payload.length ≤ raw.length := by
  obtain rfl : 2 = wireType := readValue_wireType read
  simp only [readValue,Option.bind_eq_some_iff,Prod.exists] at read
  obtain ⟨length,count,-,bounded⟩ := read
  split at bounded
  · cases bounded
    rw [List.length_take]
    omega
  · cases bounded

/-- The integers of a type keep their low bits. -/
def Scalar.narrow (type : Scalar) (n : Nat) : Nat :=
  match type with
  | .bool => min n 1
  | .enum | .int32 => if n % 2 ^ 32 < 2 ^ 31 then n % 2 ^ 32 else n % 2 ^ 32 + (2 ^ 64 - 2 ^ 32)
  | .uint32 | .sint32 => n % 2 ^ 32
  | _ => n

def Scalar.decode (type : Scalar) : Value → Option Val
  | .varint n => if n < 2 ^ 64 then some (.varint (type.narrow n)) else none
  | .fixed64 data => some (.fixed64 data)
  | .fixed32 data => some (.fixed32 data)
  | .bytes data => if type = .string then (String.fromUTF8? ⟨data.toArray⟩).map .text else some (.bytes data)

def Scalar.zero (type : Scalar) : Val :=
  match type.wireType with
  | 0 => .varint 0
  | 1 => .fixed64 (List.replicate 8 0)
  | 5 => .fixed32 (List.replicate 4 0)
  | _ => if type = .string then .text "" else .bytes []

/-- The values of a packed list. -/
def unpack (type : Scalar) : Nat → Bytes → Option (List Val)
  | _,[] => some []
  | 0,_ :: _ => none
  | fuel + 1,byte :: bytes => do
    let (value,size) ← readValue type.wireType (byte :: bytes)
    let first ← type.decode value
    let rest ← unpack type fuel ((byte :: bytes).drop size)
    some (first :: rest)

def plainSize (wireType : Nat) (raw : Bytes) : Option Nat :=
  match readValue wireType raw with
  | some (.varint n,size) => if n < 2 ^ 64 then some size else none
  | some (_,size) => some size
  | none => none

/-- The size of a group up to the end tag of its number. -/
def groupSize : Nat → Nat → Bytes → Option Nat
  | 0,_,_ => none
  | fuel + 1,number,raw => do
    let (inner,wireType,tagSize) ← readTag raw
    if wireType = 4 then
      if inner = number then some tagSize else none
    else
      let size ← if wireType = 3 then groupSize fuel inner (raw.drop tagSize) else plainSize wireType (raw.drop tagSize)
      let rest ← groupSize fuel number ((raw.drop tagSize).drop size)
      some (tagSize + size + rest)

/-- The size of the value of a field that is not known. -/
def skipValue (number wireType : Nat) (raw : Bytes) : Option Nat :=
  if wireType = 3 then groupSize raw.length number raw else plainSize wireType raw

namespace Msg

/-- A scalar replaces the scalar that the field has. -/
def setScalar (number : Nat) (value : Val) : Msg → Msg
  | .done unknown => .field number value (.done unknown)
  | .field other (.message inner) rest => .field other (.message inner) (rest.setScalar number value)
  | .field other old rest =>
    if other = number then .field other value rest else .field other old (rest.setScalar number value)

def inner? (number : Nat) : Msg → Option Msg
  | .done _ => none
  | .field other (.message inner) rest => if other = number then some inner else rest.inner? number
  | .field _ _ rest => rest.inner? number

/-- A message replaces the message that the field has. -/
def setInner (number : Nat) (value : Msg) : Msg → Msg
  | .done unknown => .field number (.message value) (.done unknown)
  | .field other (.message inner) rest =>
    if other = number then .field other (.message value) rest
    else .field other (.message inner) (setInner number value rest)
  | .field other old rest => .field other old (setInner number value rest)

def addAll (number : Nat) (values : List Val) (m : Msg) : Msg :=
  values.foldl (fun m value => m.add number value) m

def addUnknown (bytes : Bytes) : Msg → Msg
  | .done unknown => .done (unknown ++ bytes)
  | .field number value rest => .field number value (rest.addUnknown bytes)

end Msg

/-- The wire types of a field. Lists of numbers may be packed or not. -/
def FieldDesc.reads {σ : Type} (field : FieldDesc σ) (wireType : Nat) : Bool :=
  match field.label,field.kind with
  | .map _,_ | _,.message _ => wireType == 2
  | .repeated _,.scalar type => wireType == type.wireType || wireType == 2
  | .singular,.scalar type => wireType == type.wireType

/-- The field's new value in the message, with the decoders of a message into another and
    of a map entry. -/
def FieldDesc.store {σ : Type} (decodeInto : σ → Msg → Bytes → Option Msg)
    (decodeEntry : Scalar → Kind σ → Bytes → Option (Val × Val)) (field : FieldDesc σ) (m : Msg) :
    Value → Option Msg
  | .bytes payload => match field.label,field.kind with
    | .map key,kind => (decodeEntry key kind payload).map fun (key,value) =>
        m.add field.number (.message (.field 1 key (.field 2 value (.done []))))
    | .singular,.message name =>
      (decodeInto name ((m.inner? field.number).getD (.done [])) payload).map fun inner => Msg.setInner field.number inner m
    | .repeated _,.message name =>
      (decodeInto name (.done []) payload).map fun inner => m.add field.number (.message inner)
    | .singular,.scalar type => (type.decode (.bytes payload)).map fun value => m.setScalar field.number value
    | .repeated _,.scalar type =>
      if type.wireType = 2 then (type.decode (.bytes payload)).map fun value => m.add field.number value
      else (unpack type payload.length payload).map fun values => m.addAll field.number values
  | value => match field.label,field.kind with
    | .singular,.scalar type => (type.decode value).map fun value => m.setScalar field.number value
    | .repeated _,.scalar type => (type.decode value).map fun value => m.add field.number value
    | _,_ => none

def Kind.zero {σ : Type} : Kind σ → Val
  | .scalar type => type.zero
  | .message _ => .message (.done [])

/-- The new value of a map entry, over the one read before. -/
def Kind.store {σ : Type} (decodeInto : σ → Msg → Bytes → Option Msg) (kind : Kind σ) (old : Val) (value : Value) :
    Option Val :=
  match kind,old,value with
  | .scalar type,_,value => type.decode value
  | .message name,.message inner,.bytes payload => (decodeInto name inner payload).map .message
  | .message _,_,_ => none

section
variable {σ : Type} (schema : Schema σ) (skip : Nat → Nat → Bytes → Option Nat)

/-- The members of the field's oneof other than the field. -/
def Schema.rivals (name : σ) (field : FieldDesc σ) : List Nat :=
  match field.oneof with
  | none => []
  | some oneof => ((schema name).filter fun other => other.oneof == some oneof && other.number != field.number).map
      FieldDesc.number

def Msg.clearAll (numbers : List Nat) (m : Msg) : Msg := numbers.foldl (fun m number => m.clear number) m

mutual

/-- Decodes the fields of the bytes into a message; `skip` is the size of a value of an
    unknown field, from its number and wire type. -/
def decodeInto : Nat → σ → Msg → Bytes → Option Msg
  | _,_,m,[] => some m
  | 0,_,_,_ :: _ => none
  | fuel + 1,name,m,byte :: bytes => do
    let (number,wireType,tagSize) ← readTag (byte :: bytes)
    match (schema.field name number).filter (·.reads wireType) with
    | none =>
      let size ← skip number wireType ((byte :: bytes).drop tagSize)
      decodeInto fuel name (m.addUnknown ((byte :: bytes).take (tagSize + size))) (((byte :: bytes).drop tagSize).drop size)
    | some field =>
      let (value,size) ← readValue wireType ((byte :: bytes).drop tagSize)
      let next ← field.store (fun inner m raw => decodeInto fuel inner m raw)
        (fun key kind raw => decodeEntry fuel key kind key.zero kind.zero raw)
        (m.clearAll (schema.rivals name field)) value
      decodeInto fuel name next (((byte :: bytes).drop tagSize).drop size)

def decodeEntry : Nat → Scalar → Kind σ → Val → Val → Bytes → Option (Val × Val)
  | _,_,_,first,second,[] => some (first,second)
  | 0,_,_,_,_,_ :: _ => none
  | fuel + 1,key,kind,first,second,byte :: bytes => do
    let (number,wireType,tagSize) ← readTag (byte :: bytes)
    if number = 1 ∧ wireType = key.wireType then
      let (value,size) ← readValue wireType ((byte :: bytes).drop tagSize)
      let first ← key.decode value
      decodeEntry fuel key kind first second (((byte :: bytes).drop tagSize).drop size)
    else if number = 2 ∧ wireType = kind.wireType then
      let (value,size) ← readValue wireType ((byte :: bytes).drop tagSize)
      let second ← kind.store (fun inner m raw => decodeInto fuel inner m raw) second value
      decodeEntry fuel key kind first second (((byte :: bytes).drop tagSize).drop size)
    else
      let size ← skip number wireType ((byte :: bytes).drop tagSize)
      decodeEntry fuel key kind first second (((byte :: bytes).drop tagSize).drop size)

end

def unmarshal (name : σ) (raw : Bytes) : Option Msg := decodeInto schema skip raw.length name (.done []) raw

end

/-! ### What storing does to unknown fields -/

namespace Msg

theorem closed_add (number : Nat) (value : Val) (m : Msg) : (m.add number value).closed = (value.closed && m.closed) := by
  induction m with
  | done unknown => rfl
  | field other first rest ih => simp [add,Msg.closed,ih,Bool.and_left_comm]

variable {number : Nat}

theorem closed_addAll {values : List Val} (closed : ∀ value ∈ values, value.closed = true) (m : Msg) :
    (m.addAll number values).closed = m.closed := by
  induction values generalizing m with
  | nil => rfl
  | cons value rest ih =>
    show ((m.add number value).addAll number rest).closed = m.closed
    rw [ih (fun v mem => closed v (.tail _ mem)),closed_add,closed value (.head _),Bool.true_and]

theorem closed_setScalar {value : Val} (closed : value.closed = true) (m : Msg) :
    (m.setScalar number value).closed = m.closed := by
  induction m with
  | done unknown => simp [setScalar,Msg.closed,closed]
  | field other old rest ih =>
    cases old with
    | message inner => simp only [setScalar,Msg.closed,ih]
    | _ => by_cases same : other = number <;> simp [setScalar,same,Msg.closed,Val.closed,closed,ih]

theorem closed_setInner {value m : Msg} {fine : Prop}
    (merged : value.closed = true ↔ ((m.inner? number).getD (.done [])).closed = true ∧ fine) :
    (setInner number value m).closed = true ↔ m.closed = true ∧ fine := by
  induction m with
  | done unknown => simp_all [setInner,Msg.closed,Val.closed,inner?,and_comm]
  | field other old rest ih =>
    cases old with
    | message inner =>
      by_cases same : other = number
      · simp only [inner?,if_pos same] at merged
        simp only [setInner,if_pos same,Msg.closed,Bool.and_eq_true]
        tauto
      · simp only [inner?,if_neg same] at merged
        simp [setInner,if_neg same,Msg.closed,ih merged,and_assoc]
    | _ =>
      simp [setInner,Msg.closed,ih merged,and_assoc]

theorem closed_inner {m : Msg} (closed : m.closed = true) :
    ((m.inner? number).getD (.done [])).closed = true := by
  induction m with
  | done unknown => rfl
  | field other old rest ih =>
    simp only [Msg.closed,Bool.and_eq_true] at closed
    cases old with
    | message inner =>
      by_cases same : other = number
      · simp only [inner?,if_pos same]
        exact closed.1
      · simpa [inner?,same] using ih closed.2
    | _ => exact ih closed.2

theorem closed_addUnknown {bytes : Bytes} (some : bytes ≠ []) (m : Msg) : (m.addUnknown bytes).closed = false := by
  induction m with
  | done unknown => simp [addUnknown,Msg.closed,some]
  | field number value rest ih => simp [addUnknown,Msg.closed,ih]

end Msg

theorem Scalar.decode_closed {type : Scalar} {v : Val} (read : type.decode value = some v) :
    v.closed = true := by
  cases value with
  | bytes data =>
    simp only [Scalar.decode] at read
    split at read
    · obtain ⟨s,-,rfl⟩ := Option.map_eq_some_iff.mp read
      rfl
    · cases read
      rfl
  | varint n =>
    simp only [Scalar.decode] at read
    split at read
    · cases read
      rfl
    · cases read
  | _ =>
    cases read
    rfl

theorem unpack_closed {type : Scalar} {fuel : Nat} {bytes : Bytes} {values : List Val}
    (read : unpack type fuel bytes = some values) : ∀ value ∈ values, value.closed = true := by
  induction fuel generalizing bytes values with
  | zero =>
    cases bytes with
    | nil => cases read; simp
    | cons byte bytes => cases read
  | succ fuel ih =>
    cases bytes with
    | nil => cases read; simp
    | cons byte bytes =>
      simp only [unpack,Option.bind_eq_bind,Option.bind_eq_some_iff] at read
      obtain ⟨⟨value,size⟩,-,first,decoded,rest,unpacked,same⟩ := read
      cases same
      intro v mem
      rcases List.mem_cons.mp mem with rfl | later
      · exact Scalar.decode_closed decoded
      · exact ih unpacked v later

/-! ### The fields that storing adds -/

namespace Msg

variable {m : Msg} {added number : Nat}

theorem mem_numbers_add {value : Val} :
    number ∈ (m.add added value).numbers ↔ number = added ∨ number ∈ m.numbers := by
  induction m with
  | done unknown => simp [add,numbers]
  | field other first rest ih => simp only [add,numbers,List.mem_cons]; tauto

theorem numbers_addAll {values : List Val}
    (mem : number ∈ (m.addAll added values).numbers) : number = added ∨ number ∈ m.numbers := by
  induction values generalizing m with
  | nil => exact .inr mem
  | cons value rest ih =>
    rcases ih mem with same | before
    · exact .inl same
    · exact mem_numbers_add.mp before

theorem numbers_setScalar {value : Val}
    (mem : number ∈ (m.setScalar added value).numbers) : number = added ∨ number ∈ m.numbers := by
  induction m with
  | done unknown => simpa [setScalar,numbers] using mem
  | field other old rest ih =>
    cases old with
    | message inner => simp only [setScalar,numbers,List.mem_cons] at mem ⊢; tauto
    | _ =>
      by_cases same : other = added
      · simp only [setScalar,if_pos same] at mem ⊢
        tauto
      · simp only [setScalar,if_neg same,numbers,List.mem_cons] at mem ⊢
        tauto

theorem numbers_setInner {value : Msg}
    (mem : number ∈ (setInner added value m).numbers) : number = added ∨ number ∈ m.numbers := by
  induction m with
  | done unknown => simpa [setInner,numbers] using mem
  | field other old rest ih =>
    cases old with
    | message inner =>
      by_cases same : other = added
      · simp only [setInner,if_pos same] at mem ⊢
        tauto
      · simp only [setInner,if_neg same,numbers,List.mem_cons] at mem ⊢
        tauto
    | _ => simp only [setInner,numbers,List.mem_cons] at mem ⊢; tauto

theorem get?_of_not_mem (absent : number ∉ m.numbers) : m.get? number = none := by
  induction m with
  | done unknown => rfl
  | field other value rest ih =>
    simp only [numbers,List.mem_cons,not_or] at absent
    simp [get?,if_neg (Ne.symm absent.1),ih absent.2]

theorem clearAll_of_not_mem {numbers : List Nat} (absent : ∀ number ∈ numbers, number ∉ m.numbers) :
    m.clearAll numbers = m := by
  induction numbers with
  | nil => rfl
  | cons number rest ih =>
    show (m.clear number).clearAll rest = m
    rw [clear_of_get?_eq_none (get?_of_not_mem (absent number (.head _))),ih fun n mem => absent n (.tail _ mem)]

end Msg

theorem FieldDesc.numbers_store {σ : Type} {decodeInto : σ → Msg → Bytes → Option Msg}
    {decodeEntry : Scalar → Kind σ → Bytes → Option (Val × Val)} {field : FieldDesc σ} {m next : Msg}
    (stored : field.store decodeInto decodeEntry m value = some next) {number : Nat} (mem : number ∈ next.numbers) :
    number = field.number ∨ number ∈ m.numbers := by
  -- every branch stores by one of the four operations, or not at all
  unfold FieldDesc.store at stored
  split at stored
  all_goals split at stored
  all_goals try split at stored
  all_goals first
    | cases stored
    | obtain ⟨_,-,rfl⟩ := Option.map_eq_some_iff.mp stored
  all_goals first
    | exact Msg.mem_numbers_add.mp mem
    | exact Msg.numbers_addAll mem
    | exact Msg.numbers_setScalar mem
    | exact Msg.numbers_setInner mem

end Cap.Proto
