import Cap.Proto

/-!
Messages of typed records. A record writes its fields one after another; a scalar of default value
is not written, a message is written when it is there.
-/
namespace Cap.Records
open Cap.Text Cap.Varint Cap.Wire Cap.Proto

/-- The 64-bit pattern of a signed integer; negative ones are sign-extended. -/
def bits (n : Int) : Nat := (n % 2 ^ 64).toNat

def text (s : String) : Option Val := if s = "" then none else some (.text s)
def data (bytes : Bytes) : Option Val := if bytes = [] then none else some (.bytes bytes)
def int32 (n : Int32) : Option Val := if n = 0 then none else some (.varint (bits n.toInt))
def int64 (n : Int64) : Option Val := if n = 0 then none else some (.varint (bits n.toInt))
def flag (b : Bool) : Option Val := if b then some (.varint 1) else none
def sub (m : Option Msg) : Option Val := m.map .message

abbrev Fields := List (Nat × Val)

def entry (number : Nat) (value : Option Val) : Fields := value.toList.map fun value => (number,value)

def prepend (fields : Fields) (rest : Msg) : Msg := fields.foldr (fun field rest => .field field.1 field.2 rest) rest

def message (fields : Fields) (unknown : Bytes) : Msg := prepend fields (.done unknown)

theorem prepend_append (xs ys : Fields) (rest : Msg) : prepend (xs ++ ys) rest = prepend xs (prepend ys rest) :=
  List.foldr_append

def wire (fields : Fields) : List Field := fields.map fun field => ⟨field.1,field.2.wire⟩

@[simp] theorem wire_append (xs ys : Fields) : wire (xs ++ ys) = wire xs ++ wire ys := List.map_append

theorem encode_message (fields : Fields) (unknown : Bytes) :
    (message fields unknown).encode = encodeFields (wire fields) ++ unknown := by
  induction fields with
  | nil => rfl
  | cons field rest ih =>
    show encodeField _ ++ (message rest unknown).encode = _
    rw [ih]
    simp [wire]

theorem closed_message (fields : Fields) (unknown : Bytes) :
    (message fields unknown).closed = (fields.all (·.2.closed) && unknown.isEmpty) := by
  induction fields with
  | nil => rfl
  | cons field rest ih =>
    show (field.2.closed && (message rest unknown).closed) = _
    rw [ih,List.all_cons,Bool.and_assoc]

def find (number : Nat) (fields : List Field) : Option Value :=
  (fields.find? (·.number == number)).map (·.value)

@[simp] theorem find_entry_append {number other : Nat} (value : Option Val) (rest : List Field) :
    find number (wire (entry other value) ++ rest) =
      if other = number then (value.map Val.wire).or (find number rest) else find number rest := by
  cases value with
  | none => simp [entry,wire]
  | some value =>
    by_cases same : other = number <;> simp [entry,wire,find,same]

@[simp] theorem find_entry {number other : Nat} (value : Option Val) :
    find number (wire (entry other value)) = if other = number then value.map Val.wire else none := by
  have := @find_entry_append number other value []
  simpa [find] using this

/-- No value has a fixed width, so that every one of them is written with its length. -/
def Plain (fields : Fields) : Prop := ∀ field ∈ wire fields, field.value.Sized

@[simp] theorem plain_append {xs ys : Fields} : Plain (xs ++ ys) ↔ Plain xs ∧ Plain ys := by
  unfold Plain
  rw [wire_append]
  exact List.forall_mem_append

theorem plain_entry {number : Nat} {value : Option Val} (sized : ∀ v ∈ value, v.wire.Sized) :
    Plain (entry number value) := by
  intro field member
  cases value with
  | none => simp [entry,wire] at member
  | some value =>
    obtain rfl : field = ⟨number,value.wire⟩ := by simpa [entry,wire] using member
    exact sized value rfl

section

variable (number : Nat)

@[simp] theorem plain_text (s : String) : Plain (entry number (text s)) :=
  plain_entry (by simp [text,Val.wire,Value.Sized])

@[simp] theorem plain_data (bytes : Bytes) : Plain (entry number (data bytes)) :=
  plain_entry (by simp [data,Val.wire,Value.Sized])

@[simp] theorem plain_int32 (n : Int32) : Plain (entry number (int32 n)) :=
  plain_entry (by simp [int32,Val.wire,Value.Sized])

@[simp] theorem plain_int64 (n : Int64) : Plain (entry number (int64 n)) :=
  plain_entry (by simp [int64,Val.wire,Value.Sized])

@[simp] theorem plain_flag (b : Bool) : Plain (entry number (flag b)) :=
  plain_entry (by simp [flag,Val.wire,Value.Sized])

@[simp] theorem plain_sub (m : Option Msg) : Plain (entry number (sub m)) :=
  plain_entry (by simp [sub,Val.wire,Value.Sized])

end

theorem find_eq_of_encode_eq {fs gs : Fields} (plainF : Plain fs) (plainG : Plain gs)
    (same : (message fs []).encode = (message gs []).encode) (number : Nat) :
    find number (wire fs) = find number (wire gs) := by
  simp only [encode_message,List.append_nil] at same
  rw [encodeFields_inj plainF plainG same]

/-! ### Messages without unknown fields -/

@[simp] theorem all_closed_entry (number : Nat) (value : Option Val) :
    (entry number value).all (·.2.closed) = value.all Val.closed := by
  cases value <;> simp [entry]

@[simp] theorem all_closed_text (s : String) : (text s).all Val.closed = true := by
  by_cases empty : s = "" <;> simp [text,empty,Val.closed]

@[simp] theorem all_closed_data (bytes : Bytes) : (data bytes).all Val.closed = true := by
  by_cases empty : bytes = [] <;> simp [data,empty,Val.closed]

@[simp] theorem all_closed_int32 (n : Int32) : (int32 n).all Val.closed = true := by
  by_cases zero : n = 0 <;> simp [int32,zero,Val.closed]

@[simp] theorem all_closed_int64 (n : Int64) : (int64 n).all Val.closed = true := by
  by_cases zero : n = 0 <;> simp [int64,zero,Val.closed]

@[simp] theorem all_closed_flag (b : Bool) : (flag b).all Val.closed = true := by
  cases b <;> simp [flag,Val.closed]

@[simp] theorem all_closed_sub (m : Option Msg) : (sub m).all Val.closed = m.all Msg.closed := by
  cases m <;> simp [sub,Val.closed]

/-! ### Values are told apart by their bytes -/

theorem utf8_inj {s t : String} (same : utf8 s = utf8 t) : s = t := by
  apply String.toByteArray_inj.mp
  exact ByteArray.ext (Array.toList_inj.mp same)

theorem text_inj {s t : String} (same : (text s).map Val.wire = (text t).map Val.wire) : s = t := by
  by_cases emptyS : s = "" <;> by_cases emptyT : t = "" <;> simp [text,emptyS,emptyT,Val.wire] at same
  · rw [emptyS,emptyT]
  · exact utf8_inj same

theorem data_inj {s t : Bytes} (same : (data s).map Val.wire = (data t).map Val.wire) : s = t := by
  by_cases emptyS : s = [] <;> by_cases emptyT : t = [] <;> simp [data,emptyS,emptyT,Val.wire] at same
  · rw [emptyS,emptyT]
  · exact same

theorem flag_inj {s t : Bool} (same : (flag s).map Val.wire = (flag t).map Val.wire) : s = t := by
  cases s <;> cases t <;> simp [flag] at same ⊢

theorem bits_inj {m n : Int} (lowM : -2 ^ 63 ≤ m) (highM : m < 2 ^ 63) (lowN : -2 ^ 63 ≤ n) (highN : n < 2 ^ 63)
    (same : bits m = bits n) : m = n := by
  unfold bits at same
  omega

theorem int64_inj {s t : Int64} (same : (int64 s).map Val.wire = (int64 t).map Val.wire) : s = t := by
  by_cases zeroS : s = 0 <;> by_cases zeroT : t = 0 <;> simp [int64,zeroS,zeroT,Val.wire] at same
  · rw [zeroS,zeroT]
  · apply Int64.toInt_inj.mp
    exact bits_inj s.le_toInt s.toInt_lt t.le_toInt t.toInt_lt same

theorem int32_inj {s t : Int32} (same : (int32 s).map Val.wire = (int32 t).map Val.wire) : s = t := by
  by_cases zeroS : s = 0 <;> by_cases zeroT : t = 0 <;> simp [int32,zeroS,zeroT,Val.wire] at same
  · rw [zeroS,zeroT]
  · have lowS := s.le_toInt
    have highS := s.toInt_lt
    have lowT := t.le_toInt
    have highT := t.toInt_lt
    apply Int32.toInt_inj.mp
    exact bits_inj (by omega) (by omega) (by omega) (by omega) same

theorem sub_inj {s t : Option Msg} (same : (sub s).map Val.wire = (sub t).map Val.wire) :
    s.map Msg.encode = t.map Msg.encode := by
  cases s <;> cases t <;> simp [sub,Val.wire] at same ⊢
  exact same

end Cap.Records
