import Mathlib.Tactic.Ring
import Mathlib.Data.List.DropRight

/-!
Byte strings and texts. A text is a sequence of Unicode scalar values, as protobuf
strings are; each SDK language has its own notion of white space, and the checks on
identifiers go through it.
-/
namespace Cap.Text

abbrev Bytes := List UInt8

def utf8 (s : String) : Bytes := s.toUTF8.data.toList

/-- Four bytes, most significant first, as `binary.BigEndian.PutUint32` writes a length. -/
def bigEndian32 (n : Nat) : Bytes :=
  [UInt8.ofNat (n / 2^24),UInt8.ofNat (n / 2^16),UInt8.ofNat (n / 2^8),UInt8.ofNat n]

/-- White space that Go, JavaScript and Python agree on. -/
def commonSpace (c : Char) : Bool :=
  let n := c.toNat
  (9 ≤ n && n ≤ 13) || n == 0x20 || n == 0xa0 || n == 0x1680 || (0x2000 ≤ n && n ≤ 0x200a) ||
    n == 0x2028 || n == 0x2029 || n == 0x202f || n == 0x205f || n == 0x3000

/-- Go's `unicode.IsSpace`, which `strings.TrimSpace` strips. -/
def goSpace (c : Char) : Bool := commonSpace c || c.toNat == 0x85

/-- What JavaScript's `String.prototype.trim` strips. -/
def jsSpace (c : Char) : Bool := commonSpace c || c.toNat == 0xfeff

/-- What Python's `str.strip` strips. -/
def pySpace (c : Char) : Bool := commonSpace c || c.toNat == 0x85 || (0x1c ≤ c.toNat && c.toNat ≤ 0x1f)

def trimBy (space : Char → Bool) (cs : List Char) : List Char := (cs.dropWhile space).rdropWhile space

def trim (space : Char → Bool) (s : String) : String := String.ofList (trimBy space s.toList)

@[simp] theorem trim_empty (space : Char → Bool) : trim space "" = "" := rfl

def trimmed (space : Char → Bool) (s : String) : Bool := trimBy space s.toList == s.toList

def blank (space : Char → Bool) (s : String) : Bool := (trimBy space s.toList).isEmpty

def lexLe : List Nat → List Nat → Bool
  | [],_ => true
  | _ :: _,[] => false
  | x :: xs,y :: ys => x < y || (x == y && lexLe xs ys)

theorem utf8_eq_flatMap (s : String) : utf8 s = s.toList.flatMap String.utf8EncodeChar := by
  unfold utf8
  rw [String.toUTF8_eq_toByteArray,← String.utf8Encode_toList,List.utf8Encode]
  simp

theorem utf8_append (a b : String) : utf8 (a ++ b) = utf8 a ++ utf8 b := by
  simp [utf8_eq_flatMap]

private theorem utf8EncodeChar_ascii {c : Char} (ascii : c.toNat < 128) :
    String.utf8EncodeChar c = [UInt8.ofNat c.toNat] := by
  have low : c.toNat ≤ 127 := by omega
  unfold String.utf8EncodeChar
  simp [low]

theorem utf8_ascii {s : String} (ascii : ∀ c ∈ s.toList, c.toNat < 128) :
    (utf8 s).map UInt8.toNat = s.toList.map Char.toNat := by
  rw [utf8_eq_flatMap]
  generalize s.toList = cs at ascii
  induction cs with
  | nil => rfl
  | cons c rest ih =>
    have small : c.toNat < 128 := ascii c (by simp)
    rw [List.flatMap_cons,utf8EncodeChar_ascii small,List.map_append,ih fun d member => ascii d (by simp [member])]
    simp only [List.map_cons,UInt8.toNat_ofNat']
    rw [Nat.mod_eq_of_lt (by omega)]
    rfl

theorem ascii_of_utf8 {s : String} (ascii : ∀ byte ∈ utf8 s, byte < 128) : ∀ c ∈ s.toList, c.toNat < 128 := by
  intro c member
  have bytes : ∀ byte ∈ String.utf8EncodeChar c, byte < 128 := by
    intro byte inside
    exact ascii byte (by rw [utf8_eq_flatMap]; exact List.mem_flatMap.mpr ⟨c,member,inside⟩)
  by_contra high
  unfold String.utf8EncodeChar at bytes
  have notLow : ¬ c.val.toNat ≤ 127 := by
    have : c.val.toNat = c.toNat := rfl
    omega
  simp only [notLow] at bytes
  split_ifs at bytes
  all_goals
    have first := UInt8.lt_iff_toNat_lt.mp (bytes _ (List.mem_cons_self ..))
    simp only [UInt8.toNat_ofNat',UInt8.reduceToNat] at first
    omega

theorem mem_of_utf8 {s : String} {byte : UInt8} (member : byte ∈ utf8 s) (ascii : byte < 128) :
    ∃ c ∈ s.toList, c.toNat = byte.toNat := by
  rw [utf8_eq_flatMap] at member
  obtain ⟨c,among,inside⟩ := List.mem_flatMap.mp member
  refine ⟨c,among,?_⟩
  have low := UInt8.lt_iff_toNat_lt.mp ascii
  simp only [UInt8.reduceToNat] at low
  by_cases small : c.toNat < 128
  · rw [utf8EncodeChar_ascii small,List.mem_singleton] at inside
    rw [inside,UInt8.toNat_ofNat',Nat.mod_eq_of_lt (by omega)]
  · have notLow : ¬ c.val.toNat ≤ 127 := by
      have : c.val.toNat = c.toNat := rfl
      omega
    unfold String.utf8EncodeChar at inside
    dsimp only at inside
    -- every byte of a longer encoding is marked as such
    split_ifs at inside
    all_goals
      simp only [List.mem_cons,List.not_mem_nil,or_false] at inside
      rcases inside with rfl | rfl | rfl | rfl
    all_goals
      simp only [UInt8.toNat_ofNat'] at low
      omega

end Cap.Text
