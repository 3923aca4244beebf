import Cap.ClosedWire
import Cap.Packets
import Cap.Unmarshal

/-!
The structural stage of the verification of a production packet. Go decodes the unsigned bytes and
then looks for unknown fields, Node walks over the bytes. `inspect` reads the bytes as leniently
as protobuf allows and marks what only one of the two minds: Go broken values, Node everything
that is written loosely.
-/
namespace Cap.NestedWire
open Cap.Text Cap.Varint Cap.Wire Cap.Proto Cap.Checks Cap.ClosedWire

/-! ### What the two stages mind -/

/-- `loose`: a varint that is not shortest, a singular field for the second time, or an
    entry of a map with another field, with a field of another type or with one twice.
    `broken`: an integer of more than 64 bits, a text that is no UTF-8, or a packed list
    that cannot be taken apart. -/
structure Marks where
  loose : Bool
  broken : Bool
deriving DecidableEq

def Marks.join (a b : Marks) : Marks := ⟨a.loose || b.loose,a.broken || b.broken⟩

def brokenScalar (type : Scalar) : Value → Bool
  | .varint n => decide (2 ^ 64 ≤ n)
  | .bytes data => type == .string && (String.fromUTF8? ⟨data.toArray⟩).isNone
  | _ => false

def longForm (number wireType tagSize : Nat) (value : Value) (size : Nat) (raw : Bytes) : Bool :=
  !(encodeTag number wireType == raw.take tagSize && encodeValue value == (raw.drop tagSize).take size)

section
variable {σ : Type}

/-- The marks inside a value, with those of a message and of a map entry. -/
def inspectField (inspectMessage : σ → Bytes → Option Marks) (inspectEntry : Scalar → Kind σ → Bytes → Option Marks)
    (field : FieldDesc σ) : Value → Option Marks
  | .bytes payload => match field.label,field.kind with
    | .map key,kind => inspectEntry key kind payload
    | _,.message name => inspectMessage name payload
    | .singular,.scalar type => some ⟨false,brokenScalar type (.bytes payload)⟩
    | .repeated _,.scalar type =>
      if type.wireType = 2 then some ⟨false,brokenScalar type (.bytes payload)⟩
      else some ⟨false,(unpack type payload.length payload).isNone⟩
  | value => match field.label,field.kind with
    | .singular,.scalar type | .repeated _,.scalar type => some ⟨false,brokenScalar type value⟩
    | _,_ => none

def inspectEntryField (inspectMessage : σ → Bytes → Option Marks) (key : Scalar) (kind : Kind σ) (number : Nat)
    (value : Value) : Option Marks :=
  if number = 1 then some ⟨false,brokenScalar key value⟩
  else match kind,value with
    | .scalar type,value => some ⟨false,brokenScalar type value⟩
    | .message name,.bytes payload => inspectMessage name payload
    | .message _,_ => none

variable (schema : Schema σ) (skip : Nat → Nat → Bytes → Option Nat)

mutual

/-- The marks of a message; nothing when the bytes are cut short, when a field is unknown
    or when it has another type. -/
def inspectMessage : Nat → Bool → σ → List Nat → Bytes → Option Marks
  | _,_,_,_,[] => some ⟨false,false⟩
  | 0,_,_,_,_ :: _ => none
  | fuel + 1,nested,name,seen,byte :: bytes => do
    let (number,wireType,tagSize) ← readTag (byte :: bytes)
    let field ← (schema.field name number).filter (·.reads wireType)
    let (value,size) ← readValue wireType ((byte :: bytes).drop tagSize)
    let content ← inspectField (fun inner raw => inspectMessage fuel true inner [] raw)
      (fun key kind raw => inspectEntry fuel key kind [] raw) field value
    let rest ← inspectMessage fuel nested name (number :: seen) (((byte :: bytes).drop tagSize).drop size)
    let again := nested && Label.isSingular field.label && seen.contains number
    some (Marks.join ⟨longForm number wireType tagSize value size (byte :: bytes) || again,false⟩ (content.join rest))

def inspectEntry : Nat → Scalar → Kind σ → List Nat → Bytes → Option Marks
  | _,_,_,_,[] => some ⟨false,false⟩
  | 0,_,_,_,_ :: _ => none
  | fuel + 1,key,kind,seen,byte :: bytes => do
    let (number,wireType,tagSize) ← readTag (byte :: bytes)
    if number = 1 ∧ wireType = key.wireType ∨ number = 2 ∧ wireType = kind.wireType then
      let (value,size) ← readValue wireType ((byte :: bytes).drop tagSize)
      let content ← inspectEntryField (fun inner raw => inspectMessage fuel true inner [] raw) key kind number value
      let rest ← inspectEntry fuel key kind (number :: seen) (((byte :: bytes).drop tagSize).drop size)
      some (Marks.join ⟨longForm number wireType tagSize value size (byte :: bytes) || seen.contains number,false⟩
        (content.join rest))
    else
      let size ← skip number wireType ((byte :: bytes).drop tagSize)
      let rest ← inspectEntry fuel key kind seen (((byte :: bytes).drop tagSize).drop size)
      some (Marks.join ⟨true,false⟩ rest)

end

def inspect (name : σ) (raw : Bytes) : Option Marks := inspectMessage schema skip raw.length false name [] raw

def sound (read : Option Marks) : Bool := read.any fun marks => !marks.broken

def tidy (read : Option Marks) : Bool := read.any fun marks => !marks.loose

/-- What both stages rely on in a schema: below the outer message there are no oneofs and
    the outer message does not occur, maps have scalar values, lists are packed and field
    numbers are valid. -/
def ordinary [DecidableEq σ] (root name : σ) (field : FieldDesc σ) : Bool :=
  (name == root || field.oneof.isNone) &&
  (match field.label,field.kind with
    | .map _,.message _ => false
    | .repeated packed,.scalar _ => packed
    | _,.message inner => inner != root
    | _,.scalar _ => true) &&
  decide (1 ≤ field.number ∧ field.number < 2 ^ 29)

end

theorem sound_some (marks : Marks) : sound (some marks) = !marks.broken := rfl
theorem sound_bind_join (first : Marks) (fine : first.broken = false) (content rest : Option Marks) :
    sound (content.bind fun content => rest.bind fun rest => some (first.join (content.join rest))) =
      (sound content && sound rest) := by
  cases content <;> cases rest <;> simp [sound,Marks.join,fine]

theorem decode_any_closed (type : Scalar) (value : Value) :
    (type.decode value).any Val.closed = !brokenScalar type value := by
  cases value with
  | varint n =>
    simp only [Scalar.decode,brokenScalar]
    by_cases wide : n < 2 ^ 64
    · rw [if_pos wide,decide_eq_false (by omega)]
      rfl
    · rw [if_neg wide,decide_eq_true (by omega)]
      rfl
  | bytes data =>
    by_cases string : type = .string
    · cases read : String.fromUTF8? ⟨data.toArray⟩ <;> simp [Scalar.decode,brokenScalar,string,read,Val.closed]
    · simp [Scalar.decode,brokenScalar,string,Val.closed]
  | _ => rfl

section
variable {σ : Type} {schema : Schema σ} {skip : Nat → Nat → Bytes → Option Nat}

private theorem any_bind_closed {stored : Option Msg} {later : Msg → Option Msg} {fine : Bool}
    (keeps : ∀ next, stored = some next → (later next).any Msg.closed = (next.closed && fine)) :
    (stored.bind later).any Msg.closed = (stored.any Msg.closed && fine) := by
  cases stored with
  | none => rfl
  | some next => exact keeps next rfl

private theorem any_map_closed {α : Type} {read : Option α} {store : α → Msg} {m : Msg} {closed : α → Bool}
    (keeps : ∀ a, read = some a → (store a).closed = (m.closed && closed a)) :
    (read.map store).any Msg.closed = (m.closed && read.any closed) := by
  cases read with
  | none => simp
  | some a => simpa using keeps a rfl

private theorem zero_closed (type : Scalar) : type.zero.closed = true := by cases type <;> rfl

private theorem take_ne_nil {byte : UInt8} {bytes : Bytes} {number wireType tagSize : Nat}
    (tag : readTag (byte :: bytes) = some (number,wireType,tagSize)) (size : Nat) :
    (byte :: bytes).take (tagSize + size) ≠ [] := by
  have positive := readShifted_pos (readTag_eq_some.mp tag).1
  obtain ⟨rest,same⟩ : ∃ rest, tagSize + size = rest + 1 := ⟨tagSize + size - 1,by omega⟩
  simp [same]

private theorem decode_bind_any {α : Type} {type : Scalar} {value : Value} {later : Val → Option α} {fits : α → Bool}
    {fine : Bool} (keeps : ∀ v : Val, v.closed = true → (later v).any fits = fine) :
    ((type.decode value).bind later).any fits = (sound (some ⟨false,brokenScalar type value⟩) && fine) := by
  rw [sound_some,← decode_any_closed]
  cases read : type.decode value with
  | none => rfl
  | some v =>
    have closed := Scalar.decode_closed read
    rw [Option.bind_some,Option.any_some,closed,Bool.true_and,keeps v closed]

theorem decodeEntry_any_closed (key type : Scalar) (fuel : Nat) {first second : Val} (seen : List Nat) (bytes : Bytes)
    (closed : first.closed = true) (closed' : second.closed = true) :
    (decodeEntry schema skip fuel key (.scalar type) first second bytes).any
      (fun pair => pair.1.closed && pair.2.closed) =
    sound (inspectEntry schema skip fuel key (.scalar type) seen bytes) := by
  induction fuel generalizing first second seen bytes with
  | zero => cases bytes <;> simp [decodeEntry,inspectEntry,sound,closed,closed']
  | succ fuel ih =>
    cases bytes with
    | nil => simp [decodeEntry,inspectEntry,sound,closed,closed']
    | cons byte bytes =>
      simp only [decodeEntry,inspectEntry,Option.bind_eq_bind]
      cases readTag (byte :: bytes) with
      | none => simp [sound]
      | some read =>
        obtain ⟨number,wireType,tagSize⟩ := read
        simp only [Option.bind_some]
        by_cases first? : number = 1 ∧ wireType = key.wireType
        · rw [if_pos first?,if_pos (.inl first?)]
          cases readValue wireType ((byte :: bytes).drop tagSize) with
          | none => simp [sound]
          | some read =>
            simp only [Option.bind_some]
            rw [sound_bind_join _ rfl,inspectEntryField,if_pos first?.1]
            exact decode_bind_any fun v fine => ih (number :: seen) _ fine closed'
        · by_cases second? : number = 2 ∧ wireType = (Kind.scalar type : Kind σ).wireType
          · rw [if_neg first?,if_pos second?,if_pos (.inr second?)]
            cases readValue wireType ((byte :: bytes).drop tagSize) with
            | none => simp [sound]
            | some read =>
              simp only [Option.bind_some]
              rw [sound_bind_join _ rfl,inspectEntryField,if_neg (by omega)]
              exact decode_bind_any fun v fine => ih (number :: seen) _ closed fine
          · rw [if_neg first?,if_neg second?,if_neg (not_or.mpr ⟨first?,second?⟩)]
            -- what the entry does not know is dropped, and marked as loose only
            cases skip number wireType ((byte :: bytes).drop tagSize) with
            | none => rfl
            | some size =>
              simp only [Option.bind_some]
              rw [ih seen _ closed closed']
              cases inspectEntry schema skip fuel key (.scalar type) seen _ <;> rfl

variable [DecidableEq σ] {root name : σ} {field : FieldDesc σ}

theorem ordinary_message {other : σ} (flat : ordinary root name field = true) (kind : field.kind = .message other) :
    other ≠ root := by
  obtain ⟨number,_,label,oneof⟩ := field
  cases label <;> simp_all [ordinary]

theorem ordinary_alone (flat : ordinary root name field = true) (below : name ≠ root) : field.oneof = none := by
  simp only [ordinary,Bool.and_eq_true,Bool.or_eq_true,beq_iff_eq,below,false_or,Option.isNone_iff_eq_none] at flat
  exact flat.1.1

theorem store_any_closed {decodeInto : σ → Msg → Bytes → Option Msg}
    {decodeEntry : Scalar → Kind σ → Bytes → Option (Val × Val)} {message : σ → Bytes → Option Marks}
    {entry : Scalar → Kind σ → Bytes → Option Marks} (flat : ordinary root name field = true)
    (inner : ∀ inner, inner ≠ root → ∀ m raw,
      (decodeInto inner m raw).any Msg.closed = (m.closed && sound (message inner raw)))
    (entries : ∀ key type raw, (decodeEntry key (.scalar type) raw).any (fun pair => pair.1.closed && pair.2.closed) =
      sound (entry key (.scalar type) raw)) (m : Msg) (value : Value) :
    (field.store decodeInto decodeEntry m value).any Msg.closed = (m.closed && sound (inspectField message entry field value)) := by
  obtain ⟨number,kind,label,oneof⟩ := field
  have stored : ∀ {store : Val → Msg} (type value), (∀ v : Val, v.closed = true → (store v).closed = m.closed) →
      ((Scalar.decode type value).map store).any Msg.closed = (m.closed && sound (some ⟨false,brokenScalar type value⟩)) := by
    intro store type value keeps
    rw [Option.map_eq_bind,Bool.and_comm]
    exact decode_bind_any keeps
  have listed : ∀ v : Val, v.closed = true → (m.add number v).closed = m.closed := by
    intro v closed
    rw [Msg.closed_add,closed,Bool.true_and]
  cases label with
  | map key =>
    cases kind with
    | message other => simp [ordinary] at flat
    | scalar type =>
      cases value with
      | bytes payload =>
        simp only [inspectField,← entries]
        exact any_map_closed fun pair _ => by
          simp [Msg.closed_add,Msg.closed,Val.closed,Bool.and_comm]
      | _ => simp [FieldDesc.store,inspectField,sound]
  | singular =>
    cases kind with
    | scalar type =>
      cases value <;>
        simp only [FieldDesc.store] <;> exact stored type _ fun v closed => Msg.closed_setScalar closed m
    | message other =>
      have below := ordinary_message flat rfl
      cases value with
      | bytes payload =>
        simp only [FieldDesc.store,inspectField]
        have merged := inner other below ((m.inner? number).getD (.done [])) payload
        cases read : decodeInto other ((m.inner? number).getD (.done [])) payload with
        | none =>
          rw [read] at merged
          cases closed : m.closed with
          | false => rfl
          | true =>
            rw [Msg.closed_inner closed] at merged
            simp [← merged]
        | some new =>
          rw [read,Bool.eq_iff_iff,Bool.and_eq_true] at merged
          rw [Bool.eq_iff_iff,Bool.and_eq_true]
          exact Msg.closed_setInner merged
      | _ => simp [FieldDesc.store,inspectField,sound]
  | repeated packed =>
    cases kind with
    | scalar type =>
      cases value with
      | bytes payload =>
        simp only [FieldDesc.store,inspectField]
        split
        · exact stored type _ listed
        · rw [sound_some]
          cases read : unpack type payload.length payload with
          | none => simp
          | some values => simp [Msg.closed_addAll (unpack_closed read)]
      | _ =>
        simp only [FieldDesc.store]
        exact stored type _ listed
    | message other =>
      have below := ordinary_message flat rfl
      cases value with
      | bytes payload =>
        simp only [inspectField]
        have fresh := inner other below (.done []) payload
        rw [show (Msg.done []).closed = true from rfl,Bool.true_and] at fresh
        rw [← fresh]
        exact any_map_closed fun new _ => by rw [Msg.closed_add,Bool.and_comm]; rfl
      | _ => simp [FieldDesc.store,inspectField,sound]

private theorem decodeField_any_closed {fuel : Nat} {later : Msg → Option Msg} {m : Msg}
    {value : Value} {first : Marks} {rest : Option Marks} (flat : ordinary root name field = true)
    (messages : ∀ inner, inner ≠ root → ∀ m raw, (decodeInto schema skip fuel inner m raw).any Msg.closed =
      (m.closed && sound (inspectMessage schema skip fuel true inner [] raw))) (fine : first.broken = false)
    (keeps : ∀ next, field.store (decodeInto schema skip fuel)
      (fun key kind raw => decodeEntry schema skip fuel key kind key.zero kind.zero raw) m value = some next →
        (later next).any Msg.closed = (next.closed && sound rest)) :
    ((field.store (decodeInto schema skip fuel)
      (fun key kind raw => decodeEntry schema skip fuel key kind key.zero kind.zero raw) m value).bind later).any Msg.closed =
    (m.closed && sound ((inspectField (inspectMessage schema skip fuel true · [] ·)
      (inspectEntry schema skip fuel · · [] ·) field value).bind fun content =>
        rest.bind fun rest => some (first.join (content.join rest)))) := by
  rw [any_bind_closed keeps,sound_bind_join _ fine,← Bool.and_assoc]
  congr 1
  refine store_any_closed flat messages ?_ m value
  exact fun key type raw => decodeEntry_any_closed key type fuel [] raw (zero_closed key) (zero_closed type)

/-- Decoding a message below the outer one succeeds without unknown fields exactly on bytes
    that the inspection reads and finds nothing broken in; what was unknown before stays so. -/
theorem decodeInto_any_closed (flat : ∀ name, ∀ field ∈ schema name, ordinary root name field = true)
    (below : name ≠ root) (fuel : Nat) (nested : Bool) (seen : List Nat) (m : Msg) (bytes : Bytes) :
    (decodeInto schema skip fuel name m bytes).any Msg.closed =
      (m.closed && sound (inspectMessage schema skip fuel nested name seen bytes)) := by
  induction fuel generalizing name nested seen m bytes with
  | zero => cases bytes <;> simp [decodeInto,inspectMessage,sound]
  | succ fuel ih =>
    cases bytes with
    | nil => simp [decodeInto,inspectMessage,sound]
    | cons byte bytes =>
      simp only [decodeInto,inspectMessage,Option.bind_eq_bind]
      cases tag : readTag (byte :: bytes) with
      | none => simp [sound]
      | some read =>
        obtain ⟨number,wireType,tagSize⟩ := read
        simp only [Option.bind_some]
        cases known : (schema.field name number).filter (·.reads wireType) with
        | none =>
          cases skip number wireType ((byte :: bytes).drop tagSize) with
          | none => simp [sound]
          | some size =>
            simp only [Option.bind_some,ih below nested seen]
            simp [Msg.closed_addUnknown (take_ne_nil tag size),sound]
        | some field =>
          obtain ⟨found,-⟩ := Option.filter_eq_some_iff.mp known
          have plain := flat name field (List.mem_of_find?_eq_some found)
          have alone : schema.rivals name field = [] := by simp [Schema.rivals,ordinary_alone plain below]
          cases readValue wireType ((byte :: bytes).drop tagSize) with
          | none => simp [sound]
          | some read =>
            simp only [alone]
            exact decodeField_any_closed plain (fun inner under m raw => ih under true [] m raw) rfl
              fun next _ => ih below nested (number :: seen) next _

end

variable {number size wireType : Nat} {raw : Bytes}

theorem readVarint_eq_ok {v : Nat} :
    ClosedWire.readVarint raw = .ok (v,size) ↔ readShifted 10 0 0 raw = some (v,size) ∧ encodeVarint v = raw.take size := by
  unfold ClosedWire.readVarint ProductionWire.readVarint
  cases readShifted 10 0 0 raw with
  | none => simp
  | some read =>
    obtain ⟨value,count⟩ := read
    by_cases shortest : encodeVarint value = raw.take count
    · simp only [if_pos shortest,Except.ok.injEq,Option.some.injEq,Prod.mk.injEq]
      constructor
      · rintro ⟨rfl,rfl⟩
        exact ⟨⟨rfl,rfl⟩,shortest⟩
      · exact fun h => h.1
    · simp only [if_neg shortest,reduceCtorEq,false_iff]
      rintro ⟨⟨rfl,rfl⟩,short⟩
      exact shortest short

private theorem encodeValue_bytes_eq {count length : Nat} (fits : count + length ≤ raw.length) :
    encodeValue (.bytes ((raw.drop count).take length)) = raw.take (count + length) ↔
      encodeVarint length = raw.take count := by
  have whole : ((raw.drop count).take length).length = length := by
    rw [List.length_take,List.length_drop]
    omega
  rw [encodeValue,whole,List.take_add,List.append_left_inj]

private theorem boundedValue_eq_ok {width : Nat} {payload : Option Bytes} {make : Bytes → Value}
    (plain : ∀ data, encodeValue (make data) = data ∧ payload? (make data) = none) :
    boundedValue raw width = .ok (size,payload) ↔ ∃ value,
      (if width ≤ raw.length then some (make (raw.take width),width) else none) = some (value,size) ∧
        encodeValue value = raw.take size ∧ payload? value = payload := by
  unfold boundedValue
  by_cases room : width ≤ raw.length
  · simp only [if_neg (Nat.not_lt.mpr room),if_pos room,Except.ok.injEq,Option.some.injEq,Prod.mk.injEq]
    constructor
    · rintro ⟨rfl,rfl⟩
      exact ⟨_,⟨rfl,rfl⟩,plain _⟩
    · rintro ⟨_,⟨rfl,rfl⟩,-,rfl⟩
      exact ⟨rfl,(plain _).2.symm⟩
  · simp [if_pos (Nat.lt_of_not_le room),room]

/-- The strict reader of values is the lenient one on values in their shortest form. -/
theorem readWireValue_eq_ok {payload : Option Bytes} (short : raw.length < 2 ^ 53) :
    readWireValue raw wireType = .ok (size,payload) ↔ ∃ value, readValue wireType raw = some (value,size) ∧
      encodeValue value = raw.take size ∧ payload? value = payload := by
  unfold readWireValue readValue
  split
  · simp only [bind_eq_ok,Prod.exists,readVarint_eq_ok,pure_eq_ok,Prod.mk.injEq,Option.map_eq_some_iff]
    constructor
    · rintro ⟨v,count,⟨read,shortest⟩,rfl,rfl⟩
      exact ⟨.varint v,⟨v,count,read,rfl,rfl⟩,shortest,rfl⟩
    · rintro ⟨_,⟨v,count,read,rfl,rfl⟩,shortest,rfl⟩
      exact ⟨v,count,⟨read,shortest⟩,rfl,rfl⟩
  · exact boundedValue_eq_ok fun _ => ⟨rfl,rfl⟩
  · exact boundedValue_eq_ok fun _ => ⟨rfl,rfl⟩
  · simp only [bind_eq_ok,Prod.exists,readVarint_eq_ok,Option.bind_eq_some_iff]
    constructor
    · rintro ⟨length,count,⟨read,shortest⟩,bounded⟩
      split at bounded
      · cases bounded
      · split at bounded
        · cases bounded
        · cases bounded
          refine ⟨.bytes ((raw.drop count).take length),⟨length,count,read,if_pos (by omega)⟩,?_,rfl⟩
          exact (encodeValue_bytes_eq (by omega)).mpr shortest
    · rintro ⟨value,⟨length,count,read,bounded⟩,shortest,rfl⟩
      split at bounded
      · next fits =>
        cases bounded
        refine ⟨length,count,⟨read,(encodeValue_bytes_eq fits).mp shortest⟩,?_⟩
        rw [if_neg (by omega),if_neg (by omega)]
        rfl
      · cases bounded
  · simp

/-- A field at the front of the bytes, its tag and its value in their shortest form. -/
def ShortField (raw : Bytes) (number wireType tagSize : Nat) (value : Value) (size : Nat) : Prop :=
  readTag raw = some (number,wireType,tagSize) ∧ readValue wireType (raw.drop tagSize) = some (value,size) ∧
    longForm number wireType tagSize value size raw = false

theorem longForm_eq_false {tagSize : Nat} {value : Value} :
    longForm number wireType tagSize value size raw = false ↔
      encodeTag number wireType = raw.take tagSize ∧ encodeValue value = (raw.drop tagSize).take size := by
  simp [longForm]

private theorem drop_short (short : raw.length < 2 ^ 53) (n : Nat) : (raw.drop n).length < 2 ^ 53 := by
  rw [List.length_drop]
  omega

/-- Node's readers see a short field, as long as its number is one that a schema can have. -/
theorem shortField_iff {tagSize : Nat} {payload : Option Bytes}
    (short : raw.length < 2 ^ 53) :
    (∃ tag, ClosedWire.readVarint raw = .ok (tag,tagSize) ∧ tag / 8 = number ∧ tag % 8 = wireType ∧
      (1 ≤ number ∧ number < 2 ^ 29) ∧ readWireValue (raw.drop tagSize) wireType = .ok (size,payload)) ↔
    ∃ value, ShortField raw number wireType tagSize value size ∧ payload? value = payload := by
  simp only [ShortField,longForm_eq_false,readTag_eq_some,readWireValue_eq_ok (drop_short short _),readVarint_eq_ok]
  constructor
  · rintro ⟨tag,⟨read,shortest⟩,rfl,rfl,valid,value,found,short,same⟩
    have whole : tag / 8 * 8 + tag % 8 = tag := by omega
    refine ⟨value,⟨⟨?_,Nat.mod_lt _ (by omega),valid⟩,found,?_,short⟩,same⟩
    · rw [whole,read]
    · rw [encodeTag,whole,shortest]
  · rintro ⟨value,⟨⟨read,type,valid⟩,found,shortest,short⟩,same⟩
    exact ⟨number * 8 + wireType,⟨read,shortest⟩,by omega,by omega,valid,value,found,short,same⟩

section
variable {σ : Type} {schema : Schema σ} {skip : Nat → Nat → Bytes → Option Nat}

variable {bytes : Bytes} {byte : UInt8} {seen : List Nat} {fuel : Nat} {name : σ} {nested : Bool}
  {field : FieldDesc σ}

private theorem walkMapEntry_cons {key type : Scalar}
    (short : (byte :: bytes).length < 2 ^ 53) :
    walkMapEntry schema (fuel + 1) key (.scalar type) seen (byte :: bytes) = .ok () ↔
      ∃ number wireType tagSize value size, ShortField (byte :: bytes) number wireType tagSize value size ∧
        number ∉ seen ∧ (number = 1 ∧ wireType = key.wireType ∨ number = 2 ∧ wireType = type.wireType) ∧
        walkMapEntry schema fuel key (.scalar type) (number :: seen) (((byte :: bytes).drop tagSize).drop size) = .ok () := by
  simp only [walkMapEntry,bind_eq_ok,Prod.exists]
  constructor
  · rintro ⟨tag,tagSize,read,checked⟩
    by_cases foreign : (tag / 8 ≠ 1 ∧ tag / 8 ≠ 2) ∨ tag / 8 ∈ seen
    · rw [if_pos foreign] at checked
      cases checked
    · rw [if_neg foreign] at checked
      by_cases mistyped : tag % 8 ≠ if tag / 8 = 1 then key.wireType else (Kind.scalar type : Kind σ).wireType
      · rw [if_pos mistyped] at checked
        cases checked
      · rw [if_neg mistyped] at checked
        simp only [bind_eq_ok,Prod.exists] at checked
        obtain ⟨size,payload,found,-,-,later⟩ := checked
        have valid : 1 ≤ tag / 8 ∧ tag / 8 < 2 ^ 29 := by omega
        obtain ⟨value,field,-⟩ := (shortField_iff short).mp ⟨tag,read,rfl,rfl,valid,found⟩
        refine ⟨_,_,_,value,size,field,by tauto,?_,later⟩
        by_cases first : tag / 8 = 1
        · exact .inl ⟨first,by simpa [first] using mistyped⟩
        · exact .inr ⟨by tauto,by simpa [first,Kind.wireType] using mistyped⟩
  · rintro ⟨number,wireType,tagSize,value,size,field,new,which,later⟩
    obtain ⟨tag,read,rfl,rfl,valid,found⟩ := (shortField_iff short).mpr ⟨value,field,rfl⟩
    refine ⟨tag,tagSize,read,?_⟩
    rw [if_neg (by tauto),if_neg ?typed]
    case typed => rcases which with ⟨first,same⟩ | ⟨second,same⟩ <;> simp_all [Kind.wireType]
    rw [found]
    simp only [Except.bind,bind]
    cases payload? value <;> exact later

private theorem tidy_inspectEntry_cons {key type : Scalar} :
    tidy (inspectEntry schema skip (fuel + 1) key (.scalar type) seen (byte :: bytes)) = true ↔
      ∃ number wireType tagSize value size, ShortField (byte :: bytes) number wireType tagSize value size ∧
        number ∉ seen ∧ (number = 1 ∧ wireType = key.wireType ∨ number = 2 ∧ wireType = type.wireType) ∧
        tidy (inspectEntry schema skip fuel key (.scalar type) (number :: seen)
          (((byte :: bytes).drop tagSize).drop size)) = true := by
  simp only [inspectEntry,tidy,Option.any_eq_true,Option.bind_eq_bind,Option.bind_eq_some_iff,Prod.exists,ShortField,
    Kind.wireType]
  constructor
  · rintro ⟨_,⟨number,wireType,tagSize,tag,read⟩,fine⟩
    by_cases which : number = 1 ∧ wireType = key.wireType ∨ number = 2 ∧ wireType = type.wireType
    · rw [if_pos which] at read
      simp only [Option.bind_eq_some_iff,Prod.exists] at read
      obtain ⟨value,size,found,_,-,rest,later,⟨⟩⟩ := read
      simp only [Marks.join,Bool.not_eq_true',Bool.or_eq_false_iff] at fine
      exact ⟨number,wireType,tagSize,value,size,⟨tag,found,fine.1.1⟩,by simpa using fine.1.2,which,rest,later,
        by simpa using fine.2.2⟩
    · -- what the entry does not know is loose
      rw [if_neg which] at read
      simp only [Option.bind_eq_some_iff] at read
      obtain ⟨_,-,_,-,⟨⟩⟩ := read
      cases fine
  · rintro ⟨number,wireType,tagSize,value,size,⟨tag,found,shortest⟩,new,which,rest,later,fine⟩
    obtain ⟨content,inside,plain⟩ : ∃ content, inspectEntryField (inspectMessage schema skip fuel true · [] ·) key
        (.scalar type) number value = some content ∧ content.loose = false := by
      unfold inspectEntryField
      split <;> exact ⟨_,rfl,rfl⟩
    refine ⟨_,⟨number,wireType,tagSize,tag,(if_pos which).trans (Option.bind_eq_some_iff.mpr ⟨_,found,
      Option.bind_eq_some_iff.mpr ⟨_,inside,Option.bind_eq_some_iff.mpr ⟨_,later,rfl⟩⟩⟩)⟩,?_⟩
    simpa [Marks.join,shortest,new,plain] using fine

theorem walkMapEntry_iff (key type : Scalar) (fuel : Nat) (seen : List Nat) (short : bytes.length < 2 ^ 53) :
    walkMapEntry schema fuel key (.scalar type) seen bytes = .ok () ↔
      tidy (inspectEntry schema skip fuel key (.scalar type) seen bytes) = true := by
  induction fuel generalizing seen bytes with
  | zero => cases bytes <;> simp [walkMapEntry,inspectEntry,tidy]
  | succ fuel ih =>
    cases bytes with
    | nil => simp [walkMapEntry,inspectEntry,tidy]
    | cons byte bytes =>
      rw [walkMapEntry_cons short,tidy_inspectEntry_cons]
      simp only [ih _ (drop_short (drop_short short _) _)]

private theorem tidy_inspectMessage_cons :
    tidy (inspectMessage schema skip (fuel + 1) nested name seen (byte :: bytes)) = true ↔
      ∃ number wireType tagSize value size field, ShortField (byte :: bytes) number wireType tagSize value size ∧
        schema.field name number = some field ∧ field.reads wireType = true ∧
        (nested && Label.isSingular field.label && seen.contains number) = false ∧
        tidy (inspectField (inspectMessage schema skip fuel true · [] ·)
          (inspectEntry schema skip fuel · · [] ·) field value) = true ∧
        tidy (inspectMessage schema skip fuel nested name (number :: seen)
          (((byte :: bytes).drop tagSize).drop size)) = true := by
  simp only [inspectMessage,tidy,Option.any_eq_true,Option.bind_eq_bind,Option.bind_eq_some_iff,Prod.exists,
    Option.filter_eq_some_iff,ShortField]
  constructor
  · rintro ⟨_,⟨number,wireType,tagSize,tag,field,⟨found,reads⟩,value,size,read,content,inside,rest,later,⟨⟩⟩,fine⟩
    simp only [Marks.join,Bool.not_eq_true',Bool.or_eq_false_iff] at fine
    obtain ⟨⟨shortest,new⟩,plain,plain'⟩ := fine
    exact ⟨number,wireType,tagSize,value,size,field,⟨tag,read,shortest⟩,found,reads,new,⟨content,inside,by simpa using plain⟩,
      rest,later,by simpa using plain'⟩
  · rintro ⟨number,wireType,tagSize,value,size,field,⟨tag,read,shortest⟩,found,reads,new,⟨content,inside,plain⟩,rest,later,
      plain'⟩
    refine ⟨_,⟨number,wireType,tagSize,tag,field,⟨found,reads⟩,value,size,read,content,inside,rest,later,rfl⟩,?_⟩
    simp only [Bool.not_eq_true'] at plain plain'
    simp only [Marks.join,shortest,new,plain,plain',Bool.or_self,Bool.not_false]

variable [DecidableEq σ] {root : σ}

theorem allowedWireTypes_contains (flat : ordinary root name field = true) (wireType : Nat) :
    (allowedWireTypes field).contains wireType = field.reads wireType := by
  obtain ⟨number,kind,label,oneof⟩ := field
  rw [Bool.eq_iff_iff]
  cases label with
  | map key | singular => cases kind <;> simp [allowedWireTypes,FieldDesc.reads]
  | repeated packed =>
    cases kind with
    | message inner => simp [allowedWireTypes,FieldDesc.reads]
    | scalar type =>
      simp only [ordinary,Bool.and_eq_true] at flat
      simp only [allowedWireTypes,FieldDesc.reads,flat.1.2]
      cases type <;> simp [Scalar.wireType]

theorem validateOccurrence_iff {number wireType : Nat}
    {oneofs : List String} (flat : ordinary root name field = true) (below : nested = true → name ≠ root) :
    validateOccurrence field number wireType seen oneofs nested = .ok () ↔ field.reads wireType = true ∧
      (nested && Label.isSingular field.label && seen.contains number) = false := by
  have single : (nested && field.oneof.toList.any oneofs.contains) = false := by
    cases nested with
    | false => rfl
    | true => simp [ordinary_alone flat (below rfl)]
  simp only [validateOccurrence,allowedWireTypes_contains flat,single]
  cases field.reads wireType with
  | false => simp
  | true =>
    simp only [Bool.not_true,Bool.false_eq_true,if_false,true_and]
    split
    · next again => simp only [again,reduceCtorEq]
    · next again => simp only [Bool.not_eq_true] at again; simp only [again]

theorem validateNestedValue_iff {value : Value}
    (flat : ordinary root name field = true) (reads : field.reads value.wireType = true)
    (short : ∀ payload, value = .bytes payload → payload.length < 2 ^ 53)
    (messages : ∀ inner, inner ≠ root → ∀ raw, raw.length < 2 ^ 53 →
      (walkMessage schema fuel true inner [] [] raw = .ok () ↔
        tidy (inspectMessage schema skip fuel true inner [] raw) = true)) :
    validateNestedValue (walkMapEntry schema fuel · · [] ·)
      (walkMessage schema fuel true · [] [] ·) field (payload? value) = .ok () ↔
    tidy (inspectField (inspectMessage schema skip fuel true · [] ·)
      (inspectEntry schema skip fuel · · [] ·) field value) = true := by
  obtain ⟨number,kind,label,oneof⟩ := field
  cases value with
  | bytes payload =>
    have fits := short payload rfl
    cases label with
    | map key =>
      cases kind with
      | message inner => simp [ordinary] at flat
      | scalar type => exact walkMapEntry_iff key type fuel [] fits
    | singular =>
      cases kind with
      | scalar type => simp [payload?,validateNestedValue,inspectField,tidy]
      | message inner => exact messages inner (ordinary_message flat rfl) payload fits
    | repeated packed =>
      cases kind with
      | scalar type =>
        simp only [payload?,validateNestedValue,inspectField,true_iff]
        split <;> rfl
      | message inner => exact messages inner (ordinary_message flat rfl) payload fits
  | _ =>
    -- only scalars are read from the other wire types
    cases label <;> cases kind <;>
      simp_all [FieldDesc.reads,Value.wireType,payload?,validateNestedValue,inspectField,tidy]

private theorem walkMessage_cons (flat : ∀ name, ∀ field ∈ schema name, ordinary root name field = true)
    {oneofs : List String}
    (below : nested = true → name ≠ root) (short : (byte :: bytes).length < 2 ^ 53) :
    walkMessage schema (fuel + 1) nested name seen oneofs (byte :: bytes) = .ok () ↔
      ∃ number wireType tagSize value size field, ShortField (byte :: bytes) number wireType tagSize value size ∧
        schema.field name number = some field ∧ field.reads wireType = true ∧
        (nested && Label.isSingular field.label && seen.contains number) = false ∧
        validateNestedValue (walkMapEntry schema fuel · · [] ·)
          (walkMessage schema fuel true · [] [] ·) field (payload? value) = .ok () ∧
        walkMessage schema fuel nested name (number :: seen) (field.oneof.toList ++ oneofs)
          (((byte :: bytes).drop tagSize).drop size) = .ok () := by
  simp only [walkMessage,bind_eq_ok,Prod.exists]
  constructor
  · rintro ⟨tag,tagSize,read,checked⟩
    cases found : schema.field name (tag / 8) with
    | none => simp [found] at checked
    | some field =>
      simp only [found,bind_eq_ok,Prod.exists] at checked
      obtain ⟨_,occurs,size,payload,value?,_,inside,later⟩ := checked
      have plain := flat name field (List.mem_of_find?_eq_some found)
      have valid : 1 ≤ tag / 8 ∧ tag / 8 < 2 ^ 29 := by
        have number : field.number = tag / 8 := by simpa using List.find?_some found
        simp only [ordinary,Bool.and_eq_true,decide_eq_true_eq,number] at plain
        exact plain.2
      obtain ⟨value,shortest,rfl⟩ := (shortField_iff short).mp ⟨tag,read,rfl,rfl,valid,value?⟩
      obtain ⟨reads,new⟩ := (validateOccurrence_iff plain below).mp occurs
      exact ⟨_,_,_,value,size,field,shortest,found,reads,new,inside,later⟩
  · rintro ⟨number,wireType,tagSize,value,size,field,shortest,found,reads,new,inside,later⟩
    obtain ⟨tag,read,rfl,rfl,-,value?⟩ := (shortField_iff short).mpr ⟨value,shortest,rfl⟩
    have plain := flat name field (List.mem_of_find?_eq_some found)
    refine ⟨tag,tagSize,read,?_⟩
    simp only [found,bind_eq_ok,Prod.exists]
    exact ⟨(),(validateOccurrence_iff plain below).mpr ⟨reads,new⟩,size,_,value?,(),inside,later⟩

theorem walkMessage_iff (flat : ∀ name, ∀ field ∈ schema name, ordinary root name field = true) (fuel : Nat)
    (below : nested = true → name ≠ root) (seen : List Nat) (oneofs : List String)
    (short : bytes.length < 2 ^ 53) :
    walkMessage schema fuel nested name seen oneofs bytes = .ok () ↔
      tidy (inspectMessage schema skip fuel nested name seen bytes) = true := by
  induction fuel generalizing nested name seen oneofs bytes with
  | zero => cases bytes <;> simp [walkMessage,inspectMessage,tidy]
  | succ fuel ih =>
    cases bytes with
    | nil => simp [walkMessage,inspectMessage,tidy]
    | cons byte bytes =>
      rw [walkMessage_cons flat below short,tidy_inspectMessage_cons]
      refine exists_congr fun number => exists₅_congr fun wireType tagSize value size field => ?_
      refine and_congr_right fun shortest => and_congr_right fun found => and_congr_right fun reads =>
        and_congr_right fun _ => and_congr ?_ (ih below _ _ (drop_short (drop_short short _) _))
      refine validateNestedValue_iff (flat name field (List.mem_of_find?_eq_some found))
        (by rw [readValue_wireType shortest.2.1]; exact reads) ?_ fun inner under raw fits => ih (fun _ => under) [] [] fits
      rintro payload rfl
      have := readValue_payload shortest.2.1
      rw [List.length_drop] at this
      omega

end

open Cap.ProductionWire (Protowire Walk admitField busPacketWireType productionPayloadField maxProductionRawBytes)

theorem schema_ordinary : ∀ name, ∀ field ∈ Packets.schema name, ordinary .busPacket name field = true := by
  have every : ∀ name, (Packets.schema name).all (ordinary .busPacket name) = true := by
    intro name
    cases name <;> decide
  exact fun name => List.all_eq_true.mp (every name)

/-- The unsigned fields that the extraction keeps: known fields of their type, with no
    payload after another. -/
def Outermost : Bool → List Field → Prop
  | _,[] => True
  | payloadSeen,field :: rest => busPacketWireType field.number = some field.value.wireType ∧
      (field.number = 4 → field.value = .varint 1) ∧ ¬ (productionPayloadField field.number = true ∧ payloadSeen = true) ∧
      Outermost (payloadSeen || productionPayloadField field.number) rest

theorem outermost_of_run {w last : Walk} {fields : List Field} (ran : Runs.run admitField w fields = some last) :
    ∃ kept, last.unsigned = w.unsigned ++ encodeFields kept ∧ (encodeFields kept).length ≤ (encodeFields fields).length ∧
      Outermost w.outer.payloadSeen kept := by
  induction fields generalizing w with
  | nil =>
    cases ran
    exact ⟨[],by simp,by simp,trivial⟩
  | cons field rest ih =>
    obtain ⟨next,admitted,ran⟩ := Runs.run_cons_eq_some.mp ran
    obtain ⟨outer,⟨known,-,single,rfl⟩,version,stored⟩ := ProductionWire.admitField_eq_some.mp admitted
    obtain ⟨kept,unsigned,shorter,outermost⟩ := ih ran
    simp only [encodeFields_cons,List.length_append]
    rcases stored with ⟨signature,data,-,-,rfl⟩ | ⟨-,rfl⟩
    · -- the signature is taken out, and it is no payload
      refine ⟨kept,unsigned,by omega,?_⟩
      simpa [signature,productionPayloadField] using outermost
    · refine ⟨field :: kept,?_,?_,known,version,single,outermost⟩
      · rw [unsigned,encodeFields_cons,List.append_assoc]
      · rw [encodeFields_cons,List.length_append]
        omega

private theorem rivals_payload {field : FieldDesc Packets.Name} (known : field ∈ Packets.schema .busPacket)
    (rival : number ∈ Packets.schema.rivals .busPacket field) :
    productionPayloadField field.number = true ∧ productionPayloadField number = true := by
  have every : (Packets.schema .busPacket).all (fun field => (Packets.schema.rivals .busPacket field).all fun number =>
      productionPayloadField field.number && productionPayloadField number) = true := by decide
  simpa using List.all_eq_true.mp (List.all_eq_true.mp every field known) number rival

private theorem readField_encoded {field : Field} (rest : Bytes)
    (known : busPacketWireType field.number = some field.value.wireType)
    (version : field.number = 4 → field.value = .varint 1) (short : (encodeField field).length ≤ maxProductionRawBytes) :
    ∃ tagSize size, readTag (encodeField field ++ rest) = some (field.number,field.value.wireType,tagSize) ∧
      readValue field.value.wireType ((encodeField field ++ rest).drop tagSize) = some (field.value,size) ∧
      ((encodeField field ++ rest).drop tagSize).drop size = rest := by
  obtain ⟨number,value⟩ := field
  obtain ⟨positive,small,type⟩ := ProductionWire.known_small known
  simp only at *
  have shifted : ∀ {n : Nat} (more : Bytes), n < 128 ^ 10 →
      readShifted 10 0 0 (encodeVarint n ++ more) = some (n,(encodeVarint n).length) := by
    intro n more fits
    simpa using readShifted_encodeVarint 10 0 0 n more (by simp) (ProductionWire.encodeVarint_length_le_ten fits)
  have tag : readTag (encodeField ⟨number,value⟩ ++ rest) =
      some (number,value.wireType,(encodeTag number value.wireType).length) := by
    rw [encodeField,List.append_assoc,readTag_eq_some]
    exact ⟨shifted _ (by norm_num; omega),wireType_lt value,by omega,by omega⟩
  have after : (encodeField ⟨number,value⟩ ++ rest).drop (encodeTag number value.wireType).length =
      encodeValue value ++ rest := by
    simp [encodeField]
  refine ⟨_,(encodeValue value).length,tag,?_,by rw [after]; simp⟩
  rw [after]
  rcases type with ⟨four,-⟩ | ⟨-,bytes⟩
  · rw [version four]
    rfl
  · cases value with
    | bytes data =>
      have fits : data.length < 128 ^ 10 := by
        simp only [encodeField,encodeValue,List.length_append,maxProductionRawBytes] at short
        omega
      simp only [Value.wireType,readValue,encodeValue,List.append_assoc,shifted _ fits,Option.bind_some]
      rw [if_pos (by simp),List.length_append]
      simp
    | _ => simp [Value.wireType] at bytes

private theorem field_known (known : busPacketWireType number = some wireType) :
    ∃ field, Packets.schema.field .busPacket number = some field ∧ field.reads wireType = true := by
  unfold busPacketWireType at known
  split at known <;> cases known <;> exact ⟨_,rfl,rfl⟩

variable {skip : Nat → Nat → Bytes → Option Nat}

theorem outer_any_closed {fields : List Field} {payloadSeen : Bool} (outermost : Outermost payloadSeen fields)
    (short : (encodeFields fields).length ≤ maxProductionRawBytes) {m : Msg}
    (held : ∀ number ∈ m.numbers, productionPayloadField number = true → payloadSeen = true)
    (fuel : Nat) (nested : Bool) (seen : List Nat) :
    (decodeInto Packets.schema skip fuel .busPacket m (encodeFields fields)).any Msg.closed =
      (m.closed && sound (inspectMessage Packets.schema skip fuel nested .busPacket seen (encodeFields fields))) := by
  induction fields generalizing payloadSeen m fuel seen with
  | nil => cases fuel <;> simp [decodeInto,inspectMessage,sound]
  | cons field rest ih =>
    obtain ⟨known,version,single,outermost⟩ := outermost
    rw [encodeFields_cons,List.length_append] at short
    obtain ⟨tagSize,size,tag,read,after⟩ := readField_encoded (encodeFields rest) known version (by omega)
    have positive := encodeField_length_pos field
    rw [encodeFields_cons]
    cases whole : encodeField field ++ encodeFields rest with
    | nil =>
      have lengths := congrArg List.length whole
      simp only [List.length_append,List.length_nil] at lengths
      omega
    | cons byte bytes =>
      rw [whole] at tag read after
      cases fuel with
      | zero => simp [decodeInto,inspectMessage,sound]
      | succ fuel =>
        obtain ⟨desc,found,reads⟩ := field_known known
        have mem := List.mem_of_find?_eq_some found
        have number : desc.number = field.number := by simpa using List.find?_some found
        have alone : m.clearAll (Packets.schema.rivals .busPacket desc) = m := by
          refine Msg.clearAll_of_not_mem fun rival among present => ?_
          obtain ⟨own,other⟩ := rivals_payload mem among
          exact single ⟨number ▸ own,held rival present other⟩
        have filtered : (Packets.schema.field .busPacket field.number).filter (·.reads field.value.wireType) = some desc := by
          simp [found,reads]
        simp only [decodeInto,inspectMessage,Option.bind_eq_bind,tag,Option.bind_some,filtered,read,alone,after]
        refine decodeField_any_closed (schema_ordinary _ desc mem)
          (fun inner under m raw => decodeInto_any_closed schema_ordinary under fuel true [] m raw) rfl fun next stored => ?_
        refine ih outermost (by omega) (fun n present payload => ?_) fuel _
        rcases FieldDesc.numbers_store stored present with rfl | before
        · rw [← number,payload,Bool.or_true]
        · rw [held n before payload,Bool.true_or]

def Go.structural (skip : Nat → Nat → Bytes → Option Nat) (unsigned : Bytes) : Bool :=
  (unmarshal Packets.schema skip .busPacket unsigned).any Msg.closed

def Node.structural (unsigned : Bytes) : Bool :=
  (assertClosedNestedWire Packets.schema .busPacket unsigned).isOk

section
variable {pw : Protowire} {raw unsigned signature : Bytes}

section
variable (extracted : ProductionWire.extractSignatureField pw raw = .ok (unsigned,signature))
include extracted

private theorem extracted_outermost :
    ∃ kept, unsigned = encodeFields kept ∧ unsigned.length ≤ maxProductionRawBytes ∧ Outermost false kept := by
  obtain ⟨last,⟨short,fields,rfl,ran⟩,rfl,-⟩ := (ProductionWire.extractSignatureField_eq_ok pw).mp extracted
  obtain ⟨kept,same,shorter,outermost⟩ := outermost_of_run ran
  have whole : last.unsigned = encodeFields kept := same
  exact ⟨kept,whole,by rw [whole]; omega,outermost⟩

theorem Go.structural_eq :
    Go.structural skip unsigned = sound (inspect Packets.schema skip .busPacket unsigned) := by
  obtain ⟨kept,rfl,short,outermost⟩ := extracted_outermost extracted
  refine (outer_any_closed outermost short (fun number present => ?_) _ false []).trans (Bool.true_and _)
  cases present

theorem Node.structural_eq (skip : Nat → Nat → Bytes → Option Nat) :
    Node.structural unsigned = tidy (inspect Packets.schema skip .busPacket unsigned) := by
  obtain ⟨-,-,short,-⟩ := extracted_outermost extracted
  have walked : assertClosedNestedWire Packets.schema .busPacket unsigned = .ok () ↔
      tidy (inspect Packets.schema skip .busPacket unsigned) = true :=
    walkMessage_iff schema_ordinary unsigned.length (by simp) [] []
      (by simp only [maxProductionRawBytes] at short; omega)
  rw [Bool.eq_iff_iff,← walked,Node.structural]
  cases assertClosedNestedWire Packets.schema .busPacket unsigned <;> simp [Except.toBool]

end

/-- The structural stages of Go and Node agree on a packet exactly when it has both marks
    or neither: when it is cut short or has a foreign field both refuse it, and otherwise it
    must be written loosely if and only if it has a broken value. -/
theorem structural_stages_agree_iff (skip : Nat → Nat → Bytes → Option Nat)
    (extracted : ProductionWire.extractSignatureField pw raw = .ok (unsigned,signature)) :
    (Go.structural skip unsigned = true ↔ Node.structural unsigned = true) ↔
      ∀ marks, inspect Packets.schema skip .busPacket unsigned = some marks → marks.loose = marks.broken := by
  rw [Go.structural_eq extracted,Node.structural_eq extracted skip]
  cases inspect Packets.schema skip .busPacket unsigned with
  | none => simp [sound,tidy]
  | some marks =>
    obtain ⟨loose,broken⟩ := marks
    cases loose <;> cases broken <;> simp [sound,tidy]

end

/-! ### Packets on which they differ -/

namespace Samples

def request : Bytes := [0x20,0x01,0x52,0x03,0x0a,0x01,0x61]

/-- The same with a second job id inside it, b. -/
def twice : Bytes := [0x20,0x01,0x52,0x06,0x0a,0x01,0x61,0x0a,0x01,0x62]

def signed (unsigned : Bytes) : Bytes := unsigned ++ [0x72,0x01,0x01]

theorem request_stages_agree :
    ProductionWire.extractSignatureField ProductionWire.protowire (signed request) = .ok (request,[0x01]) ∧
      (Go.structural skipValue request = true ↔ Node.structural request = true) := by
  have extracted : ProductionWire.extractSignatureField ProductionWire.protowire (signed request) =
      .ok (request,[0x01]) := by decide +kernel
  refine ⟨extracted,(structural_stages_agree_iff skipValue extracted).mpr fun marks read => ?_⟩
  cases read
  rfl

/-- A nested singular field may come twice in Go, where the second value wins, not in Node. -/
theorem nested_duplicate_divides :
    ProductionWire.extractSignatureField ProductionWire.protowire (signed twice) = .ok (twice,[0x01]) ∧
      Go.structural skipValue twice = true ∧ Node.structural twice = false := by
  decide +kernel

end Samples

end Cap.NestedWire
