import Cap.Wire

/-!
Protobuf messages and their schemas. A message lists the values of its fields in the order in
which they are written and ends in the bytes of its unknown fields; a statement about every
message covers every order.
-/
namespace Cap.Proto
open Cap.Text Cap.Varint Cap.Wire

inductive Scalar where
  | bool | enum | int32 | int64 | sint32 | sint64 | uint32 | uint64
  | double | fixed64 | sfixed64
  | bytes | string
  | fixed32 | float | sfixed32
deriving DecidableEq

def Scalar.wireType : Scalar → Nat
  | .bool | .enum | .int32 | .int64 | .sint32 | .sint64 | .uint32 | .uint64 => 0
  | .double | .fixed64 | .sfixed64 => 1
  | .bytes | .string => 2
  | .fixed32 | .float | .sfixed32 => 5

/-- The type of one value of a field; `σ` are the names of the message types. -/
inductive Kind (σ : Type) where
  | scalar (type : Scalar)
  | message (name : σ)

inductive Label where
  | singular
  | repeated (packed : Bool)
  | map (key : Scalar)

structure FieldDesc (σ : Type) where
  number : Nat
  kind : Kind σ
  label : Label
  oneof : Option String

def Schema (σ : Type) : Type := σ → List (FieldDesc σ)

def Schema.field {σ : Type} (schema : Schema σ) (name : σ) (number : Nat) : Option (FieldDesc σ) :=
  (schema name).find? fun desc => desc.number == number

def Kind.wireType {σ : Type} : Kind σ → Nat
  | .scalar type => type.wireType
  | .message _ => 2

mutual

/-- The value of a field. Integers are their 64-bit patterns. -/
inductive Val where
  | varint (n : Nat)
  | fixed64 (data : Bytes)
  | fixed32 (data : Bytes)
  | text (s : String)
  | bytes (data : Bytes)
  | packed (ns : List Nat)
  | message (m : Msg)

/-- A message: its fields, then the bytes of the unknown ones. -/
inductive Msg where
  | done (unknown : Bytes)
  | field (number : Nat) (value : Val) (rest : Msg)

end

deriving instance DecidableEq for Val
deriving instance DecidableEq for Msg

mutual

def Val.wire : Val → Value
  | .varint n => .varint n
  | .fixed64 data => .fixed64 data
  | .fixed32 data => .fixed32 data
  | .text s => .bytes (utf8 s)
  | .bytes data => .bytes data
  | .packed ns => .bytes (ns.flatMap encodeVarint)
  | .message m => .bytes m.encode

def Msg.encode : Msg → Bytes
  | .done unknown => unknown
  | .field number value rest => encodeField ⟨number,value.wire⟩ ++ rest.encode

end

mutual

/-- There are no unknown fields in the message or in those inside it. -/
def Msg.closed : Msg → Bool
  | .done unknown => unknown.isEmpty
  | .field _ value rest => value.closed && rest.closed

def Val.closed : Val → Bool
  | .message m => m.closed
  | _ => true

end

mutual

/-- The message without the unknown fields in it and inside it. -/
def Msg.discardUnknown : Msg → Msg
  | .done _ => .done []
  | .field number value rest => .field number value.discardUnknown rest.discardUnknown

def Val.discardUnknown : Val → Val
  | .message m => .message m.discardUnknown
  | value => value

end

namespace Msg

def get? (number : Nat) : Msg → Option Val
  | .done _ => none
  | .field other value rest => if other = number then some value else rest.get? number

def text (number : Nat) (m : Msg) : String :=
  match m.get? number with
  | some (.text s) => s
  | _ => ""

def data (number : Nat) (m : Msg) : Bytes :=
  match m.get? number with
  | some (.bytes data) => data
  | _ => []

def int (number : Nat) (m : Msg) : Int :=
  match m.get? number with
  | some (.varint n) => if n < 2 ^ 63 then n else (n : Int) - 2 ^ 64
  | _ => 0

def sub? (number : Nat) (m : Msg) : Option Msg :=
  match m.get? number with
  | some (.message inner) => some inner
  | _ => none

def numbers : Msg → List Nat
  | .done _ => []
  | .field number _ rest => number :: rest.numbers

def clear (number : Nat) : Msg → Msg
  | .done unknown => .done unknown
  | .field other value rest => if other = number then rest.clear number else .field other value (rest.clear number)

def add (number : Nat) (value : Val) : Msg → Msg
  | .done unknown => .field number value (.done unknown)
  | .field other first rest => .field other first (rest.add number value)

def wireFields : Msg → List Field
  | .done _ => []
  | .field number value rest => ⟨number,value.wire⟩ :: rest.wireFields

end Msg

/-- The values of a scalar type. Negative 32-bit integers are sign-extended. -/
def Scalar.holds : Scalar → Val → Bool
  | .bool,.varint n => n ≤ 1
  | .enum,.varint n | .int32,.varint n => n < 2 ^ 31 || (2 ^ 64 - 2 ^ 31 ≤ n && n < 2 ^ 64)
  | .uint32,.varint n | .sint32,.varint n => n < 2 ^ 32
  | .int64,.varint n | .uint64,.varint n | .sint64,.varint n => n < 2 ^ 64
  | .double,.fixed64 data | .fixed64,.fixed64 data | .sfixed64,.fixed64 data => data.length == 8
  | .float,.fixed32 data | .fixed32,.fixed32 data | .sfixed32,.fixed32 data => data.length == 4
  | .bytes,.bytes _ => true
  | .string,.text _ => true
  | _,_ => false

variable {σ : Type} (schema : Schema σ)

mutual

/-- The message has known fields of the right type; singular fields and the members of a
    oneof come once, also with regard to those seen before. -/
def Msg.conforms (name : σ) (seen : List Nat) (oneofs : List String) : Msg → Bool
  | .done _ => true
  | .field number value rest =>
    match schema.field name number with
    | none => false
    | some desc =>
      value.fits desc.kind desc.label &&
        (match desc.label with
          | .singular => !seen.contains number
          | _ => true) &&
        desc.oneof.toList.all (!oneofs.contains ·) &&
        rest.conforms name (number :: seen) (desc.oneof.toList ++ oneofs)

/-- The value has the type of the field. -/
def Val.fits (kind : Kind σ) (label : Label) : Val → Bool
  | .message m =>
    match label,kind with
    | .map key,_ => m.isEntry key kind
    | _,.message name => m.conforms name [] []
    | _,_ => false
  | .packed ns =>
    match label,kind with
    | .repeated true,.scalar type => type.wireType == 0 && ns.all fun n => type.holds (.varint n)
    | _,_ => false
  | value =>
    match label,kind with
    | .map _,_ => false
    | _,.scalar type => type.holds value
    | _,_ => false

def Msg.isEntry (key : Scalar) (kind : Kind σ) : Msg → Bool
  | .field 1 first (.field 2 second (.done [])) => key.holds first && second.fits kind .singular
  | _ => false

end

variable {schema} in
theorem isEntry_eq {m : Msg} {key : Scalar} {kind : Kind σ} (entry : m.isEntry schema key kind = true) :
    ∃ first second, m = .field 1 first (.field 2 second (.done [])) ∧ key.holds first = true ∧
      second.fits schema kind .singular = true := by
  unfold Msg.isEntry at entry
  split at entry
  · rw [Bool.and_eq_true] at entry
    exact ⟨_,_,rfl,entry⟩
  · cases entry

/-- Induction along the fields of a message, without going into them. -/
@[elab_as_elim, induction_eliminator]
theorem Msg.spine {motive : Msg → Prop} (done : ∀ unknown, motive (.done unknown))
    (field : ∀ number value rest, motive rest → motive (.field number value rest)) : ∀ m, motive m
  | .done unknown => done unknown
  | .field number value rest => field number value rest (Msg.spine done field rest)

theorem Msg.encode_eq_encodeFields {m : Msg} (closed : m.closed = true) : m.encode = encodeFields m.wireFields := by
  induction m with
  | done unknown =>
    simp only [Msg.closed,List.isEmpty_iff] at closed
    rw [closed]
    rfl
  | field number value rest ih =>
    simp only [Msg.closed,Bool.and_eq_true] at closed
    simp [Msg.encode,Msg.wireFields,ih closed.2]

/-! ### Clearing and adding a field -/

namespace Msg

theorem get?_clear_self (number : Nat) (m : Msg) : (m.clear number).get? number = none := by
  induction m with
  | done unknown => rfl
  | field other value rest ih =>
    by_cases same : other = number
    · simp [clear,same,ih]
    · simp [clear,same,get?,ih]

theorem get?_clear {cleared number : Nat} (different : number ≠ cleared) (m : Msg) :
    (m.clear cleared).get? number = m.get? number := by
  induction m with
  | done unknown => rfl
  | field other value rest ih =>
    by_cases same : other = cleared
    · subst same
      simp [clear,get?,ih,Ne.symm different]
    · simp [clear,same,get?,ih]

theorem get?_add {added number : Nat} (different : number ≠ added) (value : Val) (m : Msg) :
    (m.add added value).get? number = m.get? number := by
  induction m with
  | done unknown => simp [add,get?,Ne.symm different]
  | field other first rest ih => simp [add,get?,ih]

theorem clear_of_get?_eq_none {number : Nat} {m : Msg} (absent : m.get? number = none) : m.clear number = m := by
  induction m with
  | done unknown => rfl
  | field other value rest ih =>
    by_cases same : other = number
    · simp [get?,same] at absent
    · simp only [get?,same] at absent
      simp [clear,same,ih absent]

theorem clear_add (number : Nat) (value : Val) (m : Msg) : (m.add number value).clear number = m.clear number := by
  induction m with
  | done unknown => simp [add,clear]
  | field other first rest ih => simp [add,clear,ih]

theorem closed_clear {number : Nat} {m : Msg} (closed : m.closed = true) : (m.clear number).closed = true := by
  induction m with
  | done unknown => exact closed
  | field other value rest ih =>
    simp only [Msg.closed,Bool.and_eq_true] at closed
    by_cases same : other = number
    · simp [clear,same,ih closed.2]
    · simp [clear,same,Msg.closed,closed.1,ih closed.2]

theorem conforms_mono {σ : Type} {schema : Schema σ} {name : σ} {m : Msg} {seen fewer : List Nat}
    {oneofs others : List String} (within : ∀ n ∈ fewer, n ∈ seen) (inside : ∀ o ∈ others, o ∈ oneofs)
    (conforms : m.conforms schema name seen oneofs = true) : m.conforms schema name fewer others = true := by
  induction m generalizing seen fewer oneofs others with
  | done unknown => rfl
  | field number value rest ih =>
    cases found : schema.field name number with
    | none => simp [Msg.conforms,found] at conforms
    | some desc =>
      simp only [Msg.conforms,found,Bool.and_eq_true] at conforms ⊢
      obtain ⟨⟨⟨fits,new⟩,free⟩,later⟩ := conforms
      refine ⟨⟨⟨fits,?_⟩,?_⟩,ih ?_ ?_ later⟩
      · cases label : desc.label with
        | singular =>
          simp only [label,Bool.not_eq_true',List.contains_eq_mem,decide_eq_false_iff_not] at new ⊢
          exact fun old => new (within number old)
        | _ => rfl
      · simp only [List.all_eq_true,Bool.not_eq_true',List.contains_eq_mem,decide_eq_false_iff_not] at free ⊢
        exact fun oneof member old => free oneof member (inside oneof old)
      · intro n member
        rcases List.mem_cons.mp member with rfl | old
        · exact List.mem_cons_self
        · exact List.mem_cons_of_mem _ (within n old)
      · intro o member
        rcases List.mem_append.mp member with here | old
        · exact List.mem_append_left _ here
        · exact List.mem_append_right _ (inside o old)

theorem conforms_clear {σ : Type} {schema : Schema σ} {name : σ} {m : Msg} {seen : List Nat} {oneofs : List String}
    (number : Nat) (conforms : m.conforms schema name seen oneofs = true) :
    (m.clear number).conforms schema name seen oneofs = true := by
  induction m generalizing seen oneofs with
  | done unknown => rfl
  | field other value rest ih =>
    cases found : schema.field name other with
    | none => simp [Msg.conforms,found] at conforms
    | some desc =>
      simp only [Msg.conforms,found,Bool.and_eq_true] at conforms
      obtain ⟨⟨⟨fits,new⟩,free⟩,later⟩ := conforms
      by_cases same : other = number
      · rw [clear,if_pos same]
        refine conforms_mono ?_ ?_ (ih later)
        · exact fun n member => List.mem_cons_of_mem _ member
        · exact fun o member => List.mem_append_right _ member
      · rw [clear,if_neg same]
        simp only [Msg.conforms,found,Bool.and_eq_true]
        exact ⟨⟨⟨fits,new⟩,free⟩,ih later⟩

end Msg

/-! ### Unknown fields take room -/

private theorem wireType_discardUnknown (value : Val) : value.discardUnknown.wire.wireType = value.wire.wireType := by
  cases value <;> rfl

private theorem bytes_length_le {small large : Bytes} (le : small.length ≤ large.length) :
    (encodeValue (.bytes small)).length ≤ (encodeValue (.bytes large)).length := by
  have := encodeVarint_length_mono le
  simp only [encodeValue,List.length_append]
  omega

mutual

private theorem length_discardUnknown : ∀ m : Msg, m.discardUnknown.encode.length ≤ m.encode.length
  | .done unknown => by simp [Msg.discardUnknown,Msg.encode]
  | .field number value rest => by
    have first := length_wire_discardUnknown value
    have later := length_discardUnknown rest
    simp only [Msg.discardUnknown,Msg.encode,encodeField,wireType_discardUnknown,List.length_append]
    omega

private theorem length_wire_discardUnknown : ∀ value : Val,
    (encodeValue value.discardUnknown.wire).length ≤ (encodeValue value.wire).length
  | .message m => bytes_length_le (length_discardUnknown m)
  | .varint _ | .fixed64 _ | .fixed32 _ | .text _ | .bytes _ | .packed _ => le_rfl

end

mutual

private theorem closed_of_length : ∀ m : Msg, m.encode.length ≤ m.discardUnknown.encode.length → m.closed = true
  | .done unknown,long => by
    simpa [Msg.discardUnknown,Msg.encode,Msg.closed] using long
  | .field number value rest,long => by
    have first := length_wire_discardUnknown value
    have later := length_discardUnknown rest
    simp only [Msg.discardUnknown,Msg.encode,encodeField,wireType_discardUnknown,List.length_append] at long
    rw [Msg.closed,closed_of_length_wire value (by omega),closed_of_length rest (by omega)]
    rfl

private theorem closed_of_length_wire : ∀ value : Val,
    (encodeValue value.wire).length ≤ (encodeValue value.discardUnknown.wire).length → value.closed = true
  | .message m,long => by
    have le := length_discardUnknown m
    have prefixes := encodeVarint_length_mono le
    simp only [Val.wire,Val.discardUnknown,encodeValue,List.length_append] at long
    exact closed_of_length m (by omega)
  | .varint _,_ | .fixed64 _,_ | .fixed32 _,_ | .text _,_ | .bytes _,_ | .packed _,_ => rfl

end

mutual

private theorem discardUnknown_closed : ∀ m : Msg, m.closed = true → m.discardUnknown = m
  | .done unknown,closed => by
    simp only [Msg.closed,List.isEmpty_iff] at closed
    rw [Msg.discardUnknown,closed]
  | .field number value rest,closed => by
    simp only [Msg.closed,Bool.and_eq_true] at closed
    rw [Msg.discardUnknown,discardUnknown_closed_value value closed.1,discardUnknown_closed rest closed.2]

private theorem discardUnknown_closed_value : ∀ value : Val, value.closed = true → value.discardUnknown = value
  | .message m,closed => congrArg Val.message (discardUnknown_closed m closed)
  | .varint _,_ | .fixed64 _,_ | .fixed32 _,_ | .text _,_ | .bytes _,_ | .packed _,_ => rfl

end

theorem Msg.encode_discardUnknown_iff (m : Msg) : m.encode = m.discardUnknown.encode ↔ m.closed = true := by
  constructor
  · intro same
    exact closed_of_length m (by rw [same])
  · intro closed
    rw [discardUnknown_closed m closed]

end Cap.Proto
