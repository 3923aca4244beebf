import Cap.Records
import Cap.RoundTrip

/-!
Reading records. A record is read off the fields of a message by number, and a field that is not
there reads as its default.
-/
namespace Cap.Records
open Cap.Text Cap.Wire Cap.Proto

def all (number : Nat) : Msg → List Val
  | .done _ => []
  | .field other value rest => if other = number then value :: all number rest else all number rest

def unknownBytes : Msg → Bytes
  | .done unknown => unknown
  | .field _ _ rest => unknownBytes rest

theorem get?_prepend (fields : Fields) (rest : Msg) (number : Nat) :
    (prepend fields rest).get? number = (fields.lookup number).or (rest.get? number) := by
  induction fields with
  | nil => simp [prepend]
  | cons field fields ih =>
    obtain ⟨other,value⟩ := field
    show (Msg.field other value (prepend fields rest)).get? number = _
    by_cases same : other = number
    · simp [Msg.get?,same]
    · have apart : (number == other) = false := by simpa using Ne.symm same
      simp [Msg.get?,same,ih,List.lookup_cons,apart]

theorem all_prepend (fields : Fields) (rest : Msg) (number : Nat) :
    all number (prepend fields rest) = (fields.filter (·.1 = number)).map Prod.snd ++ all number rest := by
  induction fields with
  | nil => rfl
  | cons field fields ih =>
    obtain ⟨other,value⟩ := field
    show all number (Msg.field other value (prepend fields rest)) = _
    by_cases same : other = number <;> simp [all,same,ih]

@[simp] theorem get?_message (fields : Fields) (unknown : Bytes) (number : Nat) :
    (message fields unknown).get? number = fields.lookup number := by
  rw [message,get?_prepend]
  simp [Msg.get?]

@[simp] theorem all_message (fields : Fields) (unknown : Bytes) (number : Nat) :
    all number (message fields unknown) = (fields.filter (·.1 = number)).map Prod.snd := by
  rw [message,all_prepend]
  simp [all]

@[simp] theorem unknownBytes_message (fields : Fields) (unknown : Bytes) : unknownBytes (message fields unknown) = unknown := by
  induction fields with
  | nil => rfl
  | cons field fields ih => exact ih

@[simp] theorem lookup_entry (number other : Nat) (value : Option Val) :
    (entry other value).lookup number = if other = number then value else none := by
  cases value with
  | none => simp [entry]
  | some v =>
    by_cases same : other = number
    · simp [entry,same]
    · have apart : (number == other) = false := by simpa using Ne.symm same
      simp [entry,same,List.lookup_cons,apart]

@[simp] theorem filter_entry (number other : Nat) (value : Option Val) :
    (entry other value).filter (fun field => decide (field.1 = number)) = if other = number then entry other value else [] := by
  cases value with
  | none => simp [entry]
  | some v => by_cases same : other = number <;> simp [entry,same]

variable {number : Nat} {field : α → Nat × Val} {items : List α} {α : Type} {m : Msg}

theorem lookup_map {other : Nat} (own : ∀ a, (field a).1 = other)
    (apart : other ≠ number) : (items.map field).lookup number = none := by
  rw [List.lookup_eq_none_iff]
  intro f member
  obtain ⟨a,-,rfl⟩ := List.mem_map.mp member
  rw [own a]
  simpa using apart.symm

theorem filter_map {other : Nat} (own : ∀ a, (field a).1 = other)
    (number : Nat) : (items.map field).filter (fun f => decide (f.1 = number)) = if other = number then items.map field else [] := by
  split
  · next same =>
    rw [List.filter_eq_self]
    intro f member
    obtain ⟨a,-,rfl⟩ := List.mem_map.mp member
    exact decide_eq_true ((own a).trans same)
  · next apart =>
    rw [List.filter_eq_nil_iff]
    intro f member
    obtain ⟨a,-,rfl⟩ := List.mem_map.mp member
    rw [own a]
    simpa using apart

def signed (n : Nat) : Int := if n < 2 ^ 63 then n else (n : Int) - 2 ^ 64

theorem signed_bits {n : Int} (low : -2 ^ 63 ≤ n) (high : n < 2 ^ 63) : signed (bits n) = n := by
  unfold signed bits
  split <;> omega

theorem text_of_get? {s : String} (found : m.get? number = text s) : m.text number = s := by
  unfold Msg.text
  rw [found]
  by_cases empty : s = "" <;> simp [text,empty]

theorem data_of_get? {bytes : Bytes} (found : m.get? number = data bytes) : m.data number = bytes := by
  unfold Msg.data
  rw [found]
  by_cases empty : bytes = [] <;> simp [data,empty]

theorem int32_of_get? {n : Int32} (found : m.get? number = int32 n) :
    Int32.ofInt (m.int number) = n := by
  have low := n.le_toInt
  have high := n.toInt_lt
  have read := @signed_bits n.toInt (by omega) (by omega)
  unfold signed at read
  unfold Msg.int
  rw [found]
  by_cases zero : n = 0
  · simp [int32,zero]
  · simp only [int32,if_neg zero,read]
    exact Int32.ofInt_toInt n

theorem int64_of_get? {n : Int64} (found : m.get? number = int64 n) :
    Int64.ofInt (m.int number) = n := by
  have read := signed_bits n.le_toInt n.toInt_lt
  unfold signed at read
  unfold Msg.int
  rw [found]
  by_cases zero : n = 0
  · simp [int64,zero]
  · simp only [int64,if_neg zero,read]
    exact Int64.ofInt_toInt n

theorem flag_of_get? {b : Bool} (found : m.get? number = flag b) :
    decide (m.int number ≠ 0) = b := by
  unfold Msg.int
  rw [found]
  cases b <;> simp [flag]

theorem sub_of_get? {inner : Option Msg} (found : m.get? number = sub inner) :
    m.sub? number = inner := by
  unfold Msg.sub?
  rw [found]
  cases inner <;> rfl

/-- A field with the numbers of a packed list one by one. -/
def unpackField (field : Nat × Val) : Fields := field.2.unpacked.map fun value => (field.1,value)

theorem unpacked_prepend (fields : Fields) (rest : Msg) :
    (prepend fields rest).unpacked = prepend (fields.flatMap unpackField) rest.unpacked := by
  have several : ∀ (number : Nat) (values : List Val) (m : Msg),
      Msg.several number values m = prepend (values.map fun value => (number,value)) m := by
    intro number values m
    induction values with
    | nil => rfl
    | cons value values ih => rw [Msg.several_cons,ih]; rfl
  induction fields with
  | nil => rfl
  | cons field fields ih =>
    show (Msg.field field.1 field.2 (prepend fields rest)).unpacked = _
    rw [Msg.unpacked,ih,several,List.flatMap_cons,prepend_append]
    rfl

theorem unpacked_message (fields : Fields) (unknown : Bytes) :
    (message fields unknown).unpacked = message (fields.flatMap unpackField) unknown := by
  rw [message,unpacked_prepend]
  rfl

section

variable (number : Nat)

@[simp] theorem unpack_text (s : String) : (entry number (text s)).flatMap unpackField = entry number (text s) := by
  by_cases empty : s = "" <;> simp [text,empty,entry,unpackField,Val.unpacked]

@[simp] theorem unpack_data (bytes : Bytes) : (entry number (data bytes)).flatMap unpackField = entry number (data bytes) := by
  by_cases empty : bytes = [] <;> simp [data,empty,entry,unpackField,Val.unpacked]

@[simp] theorem unpack_int32 (n : Int32) : (entry number (int32 n)).flatMap unpackField = entry number (int32 n) := by
  by_cases zero : n = 0 <;> simp [int32,zero,entry,unpackField,Val.unpacked]

@[simp] theorem unpack_int64 (n : Int64) : (entry number (int64 n)).flatMap unpackField = entry number (int64 n) := by
  by_cases zero : n = 0 <;> simp [int64,zero,entry,unpackField,Val.unpacked]

@[simp] theorem unpack_flag (b : Bool) : (entry number (flag b)).flatMap unpackField = entry number (flag b) := by
  cases b <;> simp [flag,entry,unpackField,Val.unpacked]

@[simp] theorem unpack_sub (inner : Option Msg) :
    (entry number (sub inner)).flatMap unpackField = entry number (sub (inner.map Msg.unpacked)) := by
  cases inner <;> simp [sub,entry,unpackField,Val.unpacked]

end

theorem unpack_map (plain : ∀ a, unpackField (field a) = [field a]) :
    (items.map field).flatMap unpackField = items.map field := by
  induction items with
  | nil => rfl
  | cons item items ih => rw [List.map_cons,List.flatMap_cons,plain,ih]; rfl

section

variable {σ : Type} {schema : Schema σ} {name : σ} {number : Nat} {desc : FieldDesc σ} {seen : List Nat}
  {oneofs : List String} {rest : Msg}

theorem conforms_entry {value : Option Val} (found : schema.field name number = some desc)
    (single : desc.label = .singular) (fits : ∀ v ∈ value, v.fits schema desc.kind .singular = true) (new : number ∉ seen)
    (free : ∀ o ∈ desc.oneof, o ∉ oneofs)
    (later : rest.conforms schema name (number :: seen) (desc.oneof.toList ++ oneofs) = true) :
    (prepend (entry number value) rest).conforms schema name seen oneofs = true := by
  cases value with
  | none => exact Msg.conforms_mono (fun n old => List.mem_cons_of_mem _ old) (fun o old => List.mem_append_right _ old) later
  | some v =>
    have fitting := fits v rfl
    show (Msg.field number v rest).conforms schema name seen oneofs = true
    simp only [Msg.conforms,found,single,fitting,later,Bool.and_true,Bool.and_eq_true]
    refine ⟨by simpa using new,?_⟩
    cases group : desc.oneof with
    | none => rfl
    | some o => simpa using free o group

theorem conforms_singular {kind : Kind σ} {value : Option Val}
    (found : schema.field name number = some ⟨number,kind,.singular,none⟩)
    (fits : ∀ v ∈ value, v.fits schema kind .singular = true) (new : number ∉ seen)
    (later : rest.conforms schema name (number :: seen) oneofs = true) :
    (prepend (entry number value) rest).conforms schema name seen oneofs = true :=
  conforms_entry found rfl fits new (by simp) later

theorem conforms_several {values : List Val} (found : schema.field name number = some desc)
    (multiple : desc.label ≠ .singular) (alone : desc.oneof = none)
    (fits : ∀ v ∈ values, v.fits schema desc.kind desc.label = true)
    (later : rest.conforms schema name (number :: seen) oneofs = true) :
    (prepend (values.map fun value => (number,value)) rest).conforms schema name seen oneofs = true := by
  induction values generalizing seen with
  | nil => exact Msg.conforms_mono (fun n old => List.mem_cons_of_mem _ old) (fun o old => old) later
  | cons v values ih =>
    have fitting := fits v List.mem_cons_self
    have again : rest.conforms schema name (number :: number :: seen) oneofs = true := by
      refine Msg.conforms_mono (fun n old => ?_) (fun o old => old) later
      simpa using old
    show (Msg.field number v (prepend (values.map fun value => (number,value)) rest)).conforms schema name seen oneofs = true
    simp [Msg.conforms,found,fitting,alone,
      ih (fun w member => fits w (List.mem_cons_of_mem _ member)) again]

variable (schema)

theorem fits_text (s : String) : ∀ v ∈ text s, v.fits schema (.scalar .string) .singular = true := by
  simp [text,Val.fits,Scalar.holds]

theorem fits_data (bytes : Bytes) : ∀ v ∈ data bytes, v.fits schema (.scalar .bytes) .singular = true := by
  simp [data,Val.fits,Scalar.holds]

theorem bits_int32 (n : Int32) : bits n.toInt < 2 ^ 31 ∨ 2 ^ 64 - 2 ^ 31 ≤ bits n.toInt ∧ bits n.toInt < 2 ^ 64 := by
  have low := n.le_toInt
  have high := n.toInt_lt
  unfold bits
  omega

theorem fits_int32 {type : Scalar} (kind : type = .int32 ∨ type = .enum) (n : Int32) :
    ∀ v ∈ int32 n, v.fits schema (.scalar type) .singular = true := by
  have range := bits_int32 n
  rcases kind with rfl | rfl
  all_goals simpa [int32,Val.fits,Scalar.holds] using fun _ => range

theorem fits_int64 (n : Int64) : ∀ v ∈ int64 n, v.fits schema (.scalar .int64) .singular = true := by
  have range : bits n.toInt < 2 ^ 64 := by
    unfold bits
    omega
  simpa [int64,Val.fits,Scalar.holds] using fun _ => range

theorem fits_flag (b : Bool) : ∀ v ∈ flag b, v.fits schema (.scalar .bool) .singular = true := by
  simp [flag,Val.fits,Scalar.holds]

variable {schema}

theorem fits_sub {α : Type} {inner : σ} {write : α → Msg} {record : Option α}
    (conforms : ∀ a, (write a).conforms schema inner [] [] = true) :
    ∀ v ∈ sub (record.map write), v.fits schema (.message inner) .singular = true := by
  simp [sub,Val.fits,conforms]

end

end Cap.Records
