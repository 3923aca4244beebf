import Cap.Varint

/-!
The protobuf wire format in its strict form: a message is a sequence of fields, each a tag
varint and a value, with every varint in its shortest form. A byte string is the encoding
of at most one sequence of fields.
-/
namespace Cap.Wire
open Cap.Text Cap.Varint

/-- A value as the wire shows it; fixed-width values keep their bytes. -/
inductive Value where
  | varint (n : Nat)
  | fixed64 (data : Bytes)
  | bytes (data : Bytes)
  | fixed32 (data : Bytes)
deriving DecidableEq

structure Field where
  number : Nat
  value : Value
deriving DecidableEq

def Value.wireType : Value → Nat
  | .varint _ => 0
  | .fixed64 _ => 1
  | .bytes _ => 2
  | .fixed32 _ => 5

/-- Fixed-width values have their width. -/
def Value.Sized : Value → Prop
  | .varint _ => True
  | .fixed64 data => data.length = 8
  | .bytes _ => True
  | .fixed32 data => data.length = 4

def encodeValue : Value → Bytes
  | .varint n => encodeVarint n
  | .fixed64 data => data
  | .bytes data => encodeVarint data.length ++ data
  | .fixed32 data => data

def encodeTag (number wireType : Nat) : Bytes := encodeVarint (number * 8 + wireType)

def encodeField (field : Field) : Bytes := encodeTag field.number field.value.wireType ++ encodeValue field.value

def encodeFields (fields : List Field) : Bytes := fields.flatMap encodeField

@[simp] theorem encodeFields_nil : encodeFields [] = [] := rfl
@[simp] theorem encodeFields_cons (field : Field) (rest : List Field) :
    encodeFields (field :: rest) = encodeField field ++ encodeFields rest := rfl
@[simp] theorem encodeFields_append (xs ys : List Field) :
    encodeFields (xs ++ ys) = encodeFields xs ++ encodeFields ys := by
  simp [encodeFields]

theorem wireType_lt (value : Value) : value.wireType < 8 := by
  cases value <;> simp [Value.wireType]

theorem encodeTag_append_inj {a b v w : Nat} {x y : Bytes} (smallV : v < 8) (smallW : w < 8)
    (same : encodeTag a v ++ x = encodeTag b w ++ y) : a = b ∧ v = w ∧ x = y := by
  obtain ⟨tags,rest⟩ := encodeVarint_append_inj same
  exact ⟨by omega,by omega,rest⟩

theorem encodeValue_append_inj {a b : Value} {x y : Bytes} (sizedA : a.Sized) (sizedB : b.Sized)
    (type : a.wireType = b.wireType) (same : encodeValue a ++ x = encodeValue b ++ y) : a = b ∧ x = y := by
  cases a with
  | varint n =>
    cases b <;> simp only [Value.wireType] at type <;> try omega
    obtain ⟨values,rest⟩ := encodeVarint_append_inj same
    exact ⟨by rw [values],rest⟩
  | fixed64 data =>
    cases b <;> simp only [Value.wireType] at type <;> try omega
    obtain ⟨values,rest⟩ := List.append_inj same (sizedA.trans sizedB.symm)
    exact ⟨congrArg Value.fixed64 values,rest⟩
  | bytes data =>
    cases b <;> simp only [Value.wireType] at type <;> try omega
    simp only [encodeValue,List.append_assoc] at same
    obtain ⟨lengths,rest⟩ := encodeVarint_append_inj same
    obtain ⟨values,rest⟩ := List.append_inj rest lengths
    exact ⟨congrArg Value.bytes values,rest⟩
  | fixed32 data =>
    cases b <;> simp only [Value.wireType] at type <;> try omega
    obtain ⟨values,rest⟩ := List.append_inj same (sizedA.trans sizedB.symm)
    exact ⟨congrArg Value.fixed32 values,rest⟩

theorem encodeField_append_inj {f g : Field} {x y : Bytes} (sizedF : f.value.Sized) (sizedG : g.value.Sized)
    (same : encodeField f ++ x = encodeField g ++ y) : f = g ∧ x = y := by
  simp only [encodeField,List.append_assoc] at same
  obtain ⟨numbers,types,values⟩ := encodeTag_append_inj (wireType_lt _) (wireType_lt _) same
  obtain ⟨values,rest⟩ := encodeValue_append_inj sizedF sizedG types values
  cases f; cases g
  simp only at numbers values
  exact ⟨by rw [numbers,values],rest⟩

theorem encodeField_length_pos (field : Field) : 0 < (encodeField field).length := by
  have := encodeVarint_length_pos (field.number * 8 + field.value.wireType)
  simp only [encodeField,encodeTag,List.length_append]
  omega

theorem encodeFields_inj {fs gs : List Field} (sizedF : ∀ f ∈ fs, f.value.Sized) (sizedG : ∀ g ∈ gs, g.value.Sized)
    (same : encodeFields fs = encodeFields gs) : fs = gs := by
  induction fs generalizing gs with
  | nil =>
    cases gs with
    | nil => rfl
    | cons g rest =>
      have lengths := congrArg List.length same
      have positive := encodeField_length_pos g
      simp only [encodeFields_nil,encodeFields_cons,List.length_append,List.length_nil] at lengths
      omega
  | cons f fs ih =>
    cases gs with
    | nil =>
      have lengths := congrArg List.length same
      have positive := encodeField_length_pos f
      simp only [encodeFields_nil,encodeFields_cons,List.length_append,List.length_nil] at lengths
      omega
    | cons g gs =>
      obtain ⟨heads,tails⟩ := encodeField_append_inj (sizedF f (by simp)) (sizedG g (by simp)) same
      rw [heads,ih (fun f member => sizedF f (by simp [member])) (fun g member => sizedG g (by simp [member])) tails]

end Cap.Wire
