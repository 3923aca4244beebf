import Mathlib.Data.Nat.Digits.Lemmas
import Mathlib.Tactic.NormNum

/-!
Two integers in ASN.1. What an encoding denotes is read under the basic rules, where an integer may
carry redundant octets and a length may be written in several ways; the distinguished rules pick one
encoding for each pair.
-/
namespace Cap.Der

/-- The octets as a number, most significant first. -/
def unsigned (octets : List UInt8) : Nat := Nat.ofDigits 256 (octets.reverse.map UInt8.toNat)

/-- The octets as a number in two's complement. -/
def value (octets : List UInt8) : Int :=
  if octets.head?.any (0x80 ≤ ·) then unsigned octets - 256 ^ octets.length else unsigned octets

def digits (n : Nat) : List UInt8 := ((Nat.digits 256 n).map UInt8.ofNat).reverse

/-- The fewest octets that are the number in two's complement. -/
def contents (n : Nat) : List UInt8 := if (digits n).head?.any (· < 0x80) then digits n else 0 :: digits n

def lengthOctets (n : Nat) : List UInt8 :=
  if n < 128 then [UInt8.ofNat n] else UInt8.ofNat (128 + (digits n).length) :: digits n

def tlv (tag : UInt8) (octets : List UInt8) : List UInt8 := tag :: (lengthOctets octets.length ++ octets)

def integer (n : Nat) : List UInt8 := tlv 2 (contents n)

/-- The sequence of two integers under the distinguished rules. -/
def pair (r s : Nat) : List UInt8 := tlv 0x30 (integer r ++ integer s)

/-! ### Numbers and their octets -/

theorem unsigned_cons_zero (octets : List UInt8) : unsigned (0 :: octets) = unsigned octets := by
  simp [unsigned]

theorem unsigned_digits (n : Nat) : unsigned (digits n) = n := by
  have small : (Nat.digits 256 n).map (UInt8.toNat ∘ UInt8.ofNat) = Nat.digits 256 n := by
    refine (List.map_congr_left ?_).trans (List.map_id _)
    intro digit member
    exact UInt8.toNat_ofNat_of_lt (Nat.digits_lt_base (by norm_num) member)
  rw [unsigned,digits,List.reverse_reverse,List.map_map,small,Nat.ofDigits_digits]

theorem unsigned_contents (n : Nat) : unsigned (contents n) = n := by
  unfold contents
  split
  · exact unsigned_digits n
  · rw [unsigned_cons_zero,unsigned_digits]

variable {octets : List UInt8}

theorem digits_unsigned (leading : octets.head? ≠ some 0) : digits (unsigned octets) = octets := by
  have bounded : ∀ digit ∈ octets.reverse.map UInt8.toNat,digit < 256 := by
    intro digit member
    obtain ⟨octet,_,rfl⟩ := List.mem_map.mp member
    exact octet.toNat_lt
  have top : ∀ nonempty : octets.reverse.map UInt8.toNat ≠ [],(octets.reverse.map UInt8.toNat).getLast nonempty ≠ 0 := by
    intro nonempty zero
    cases octets with
    | nil => exact nonempty rfl
    | cons first rest =>
      apply leading
      have : first.toNat = 0 := by simpa using zero
      rw [List.head?_cons,UInt8.toNat_inj.mp (this.trans UInt8.toNat_zero.symm)]
  rw [digits,unsigned,Nat.digits_ofDigits 256 (by norm_num) _ bounded top]
  simp [Function.comp_def]

theorem head_digits (n : Nat) : (digits n).head? ≠ some 0 := by
  intro zero
  have nonzero : n ≠ 0 := by
    rintro rfl
    simp [digits] at zero
  have present : Nat.digits 256 n ≠ [] := Nat.digits_ne_nil_iff_ne_zero.mpr nonzero
  have last := Nat.getLast_digit_ne_zero 256 nonzero
  have bounded := Nat.digits_lt_base (by norm_num : 1 < 256) (List.getLast_mem present)
  rw [digits,List.head?_reverse,List.getLast?_map,List.getLast?_eq_some_getLast present] at zero
  have same : UInt8.ofNat ((Nat.digits 256 n).getLast present) = 0 := by simpa using zero
  apply last
  have read : (UInt8.ofNat ((Nat.digits 256 n).getLast present)).toNat = _ := UInt8.toNat_ofNat_of_lt bounded
  rw [← read,same]
  rfl

def Minimal : List UInt8 → Prop
  | [] => False
  | [first] => first < 0x80
  | first :: second :: _ => first < 0x80 ∧ ¬ (first = 0 ∧ second < 0x80)

theorem minimal_cons {first : UInt8} {rest : List UInt8} :
    Minimal (first :: rest) ↔ first < 0x80 ∧ ¬ (first = 0 ∧ rest.head?.any (· < 0x80)) := by
  cases rest <;> simp [Minimal]

theorem contents_minimal (n : Nat) : Minimal (contents n) := by
  have leading := head_digits n
  unfold contents
  cases octets : digits n with
  | nil => simp [Minimal]
  | cons first rest =>
    rw [octets] at leading
    simp only [List.head?_cons,ne_eq,Option.some.injEq] at leading
    by_cases low : first < 0x80
    · cases rest with
      | nil => simp [Minimal,low]
      | cons second rest => simp [Minimal,low,leading]
    · simp [Minimal,low]

theorem contents_unsigned (minimal : Minimal octets) : contents (unsigned octets) = octets := by
  unfold contents
  match octets,minimal with
  | [first],low =>
    rcases eq_or_ne first 0 with rfl | nonzero
    · decide
    · have low : first < 0x80 := low
      rw [digits_unsigned (by simpa using nonzero)]
      simp [low]
  | first :: second :: rest,⟨low,needed⟩ =>
    rcases eq_or_ne first 0 with rfl | nonzero
    · have high : ¬ second < 0x80 := fun low => needed ⟨rfl,low⟩
      have leading : second ≠ 0 := by
        rintro rfl
        exact high (by decide)
      rw [unsigned_cons_zero,digits_unsigned (by simpa using leading)]
      simp [high]
    · rw [digits_unsigned (by simpa using nonzero)]
      simp [low]

theorem value_contents (n : Nat) : value (contents n) = n := by
  have minimal := contents_minimal n
  have nonnegative : ((contents n).head?.any (0x80 ≤ ·)) = false := by
    match contents n,minimal with
    | [first],low => simpa [Minimal] using low
    | first :: second :: rest,⟨low,_⟩ => simpa using low
  rw [value,nonnegative,unsigned_contents]
  rfl

theorem length_contents_le {n k : Nat} (small : n < 256 ^ k) : (contents n).length ≤ k + 1 := by
  have few : (digits n).length ≤ k := by simpa [digits] using (Nat.digits_length_le_iff (by norm_num) n).mpr small
  unfold contents
  split
  · omega
  · simpa using few

/-- The octets are a length under the basic rules, in short or in long form. -/
def Length (octets : List UInt8) (n : Nat) : Prop :=
  (n < 128 ∧ octets = [UInt8.ofNat n]) ∨
    ∃ more : List UInt8,1 ≤ more.length ∧ more.length < 128 ∧ unsigned more = n ∧
      octets = UInt8.ofNat (128 + more.length) :: more

def Tlv (tag : UInt8) (value octets : List UInt8) : Prop :=
  ∃ length,Length length value.length ∧ octets = tag :: (length ++ value)

/-- The octets are a sequence of the two integers under the basic rules. -/
def Denotes (octets : List UInt8) (r s : Int) : Prop :=
  ∃ x y first second,x ≠ [] ∧ y ≠ [] ∧ value x = r ∧ value y = s ∧ Tlv 2 x first ∧ Tlv 2 y second ∧
    Tlv 0x30 (first ++ second) octets

theorem Length.unique {a b x y : List UInt8} {n m : Nat} (one : Length a n) (other : Length b m)
    (same : a ++ x = b ++ y) : n = m ∧ x = y := by
  obtain ⟨short,rfl⟩ | ⟨more,_,bounded,rfl,rfl⟩ := one <;> obtain ⟨short',rfl⟩ | ⟨more',_,bounded',rfl,rfl⟩ := other
  · obtain ⟨octet,rest⟩ := List.cons.inj same
    have := congrArg UInt8.toNat octet
    simp only [UInt8.toNat_ofNat'] at this
    exact ⟨by omega,rest⟩
  · have := congrArg UInt8.toNat (List.cons.inj same).1
    simp only [UInt8.toNat_ofNat'] at this
    omega
  · have := congrArg UInt8.toNat (List.cons.inj same).1
    simp only [UInt8.toNat_ofNat'] at this
    omega
  · obtain ⟨octet,rest⟩ := List.cons.inj same
    have := congrArg UInt8.toNat octet
    simp only [UInt8.toNat_ofNat'] at this
    obtain ⟨rfl,rfl⟩ := List.append_inj rest (by omega)
    exact ⟨rfl,rfl⟩

variable {tag : UInt8}

theorem Tlv.unique {v w a b x y : List UInt8} (one : Tlv tag v a) (other : Tlv tag w b)
    (same : a ++ x = b ++ y) : v = w ∧ x = y := by
  obtain ⟨length,counts,rfl⟩ := one
  obtain ⟨length',counts',rfl⟩ := other
  simp only [List.cons_append,List.append_assoc,List.cons.injEq,true_and] at same
  obtain ⟨count,rest⟩ := counts.unique counts' same
  exact List.append_inj rest count

theorem Tlv.value_unique {v w : List UInt8} (one : Tlv tag v octets) (other : Tlv tag w octets) :
    v = w := (one.unique other (congrArg (· ++ []) rfl)).1

theorem Denotes.unique {r s r' s' : Int} (one : Denotes octets r s)
    (other : Denotes octets r' s') : r = r' ∧ s = s' := by
  obtain ⟨x,y,first,second,_,_,rfl,rfl,one,two,sequence⟩ := one
  obtain ⟨x',y',first',second',_,_,rfl,rfl,one',two',sequence'⟩ := other
  obtain ⟨rfl,rfl⟩ := one.unique one' (sequence.value_unique sequence')
  obtain rfl := two.value_unique two'
  exact ⟨rfl,rfl⟩

theorem tlv_short (short : octets.length < 128) :
    tlv tag octets = tag :: UInt8.ofNat octets.length :: octets := by
  simp [tlv,lengthOctets,short]

theorem tlv_denotes (short : octets.length < 128) : Tlv tag octets (tlv tag octets) :=
  ⟨[UInt8.ofNat octets.length],.inl ⟨short,rfl⟩,tlv_short short⟩

theorem contents_ne_nil (n : Nat) : contents n ≠ [] := by
  intro empty
  have := contents_minimal n
  rw [empty] at this
  exact this

theorem pair_denotes {r s : Nat} (first : (contents r).length + (contents s).length < 124) : Denotes (pair r s) r s := by
  have short : (integer r ++ integer s).length < 128 := by
    rw [integer,integer,tlv_short (by omega),tlv_short (by omega)]
    simp only [List.length_append,List.length_cons]
    omega
  exact ⟨contents r,contents s,integer r,integer s,contents_ne_nil r,contents_ne_nil s,value_contents r,value_contents s,
    tlv_denotes (by omega),tlv_denotes (by omega),tlv_denotes short⟩

end Cap.Der
