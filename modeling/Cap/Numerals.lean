import Mathlib.Data.Nat.Digits.Lemmas
import Cap.Text

/-!
Decimal numerals without leading zeros. A longer numeral denotes a larger number, and numerals of one
length are ordered as their digits are, one by one, so that numbers of any size are compared
without being computed.
-/
namespace Cap.Numerals
open Cap.Text

/-- The number that the digits denote, the most significant first. -/
def value (cs : List Char) : Nat := Nat.ofDigits 10 (cs.reverse.map fun c => c.toNat - 48)

/-- Digits, of which the first is not zero unless it is the only one. -/
structure Canonical (cs : List Char) : Prop where
  nonempty : cs ≠ []
  digits : ∀ c ∈ cs, 48 ≤ c.toNat ∧ c.toNat ≤ 57
  leading : cs.head? = some '0' → cs = ['0']

theorem value_cons (c : Char) (cs : List Char) : value (c :: cs) = (c.toNat - 48) * 10 ^ cs.length + value cs := by
  simp only [value,List.reverse_cons,List.map_append,List.map_cons,List.map_nil,Nat.ofDigits_append,Nat.ofDigits_singleton,
    List.length_map,List.length_reverse]
  rw [Nat.add_comm,Nat.mul_comm]

private theorem digit_lt {cs : List Char} (digits : ∀ c ∈ cs, 48 ≤ c.toNat ∧ c.toNat ≤ 57) :
    ∀ digit ∈ cs.reverse.map fun c => c.toNat - 48, digit < 10 := by
  intro digit member
  obtain ⟨c,among,rfl⟩ := List.mem_map.mp member
  have := digits c (List.mem_reverse.mp among)
  omega

theorem value_lt {cs : List Char} (digits : ∀ c ∈ cs, 48 ≤ c.toNat ∧ c.toNat ≤ 57) : value cs < 10 ^ cs.length := by
  simpa [value] using Nat.ofDigits_lt_base_pow_length (by decide) (digit_lt digits)

theorem le_value {c : Char} {cs : List Char} (first : 48 < c.toNat) : 10 ^ cs.length ≤ value (c :: cs) := by
  rw [value_cons]
  have positive : 1 ≤ c.toNat - 48 := by omega
  calc 10 ^ cs.length = 1 * 10 ^ cs.length := (Nat.one_mul _).symm
    _ ≤ (c.toNat - 48) * 10 ^ cs.length := Nat.mul_le_mul_right _ positive
    _ ≤ _ := Nat.le_add_right _ _

theorem value_lt_of_length {a b : List Char} (digits : ∀ c ∈ a, 48 ≤ c.toNat ∧ c.toNat ≤ 57) (canonical : Canonical b)
    (shorter : a.length < b.length) (nonempty : a ≠ []) : value a < value b := by
  cases b with
  | nil => exact absurd rfl canonical.nonempty
  | cons c cs =>
    have count : 0 < a.length := List.length_pos_iff.mpr nonempty
    have first : 48 < c.toNat := by
      have bounds := canonical.digits c List.mem_cons_self
      rcases Nat.lt_or_eq_of_le bounds.1 with less | zero
      · exact less
      · have isZero : c = '0' := Char.toNat_inj.mp zero.symm
        have alone := canonical.leading (by rw [isZero]; rfl)
        rw [alone] at shorter
        simp only [List.length_cons,List.length_nil] at shorter
        omega
    rw [List.length_cons] at shorter
    calc value a < 10 ^ a.length := value_lt digits
      _ ≤ 10 ^ cs.length := Nat.pow_le_pow_right (by decide) (by omega)
      _ ≤ value (c :: cs) := le_value first

theorem lexLe_iff_value_le {a b : List Char} (digitsA : ∀ c ∈ a, 48 ≤ c.toNat ∧ c.toNat ≤ 57)
    (digitsB : ∀ c ∈ b, 48 ≤ c.toNat ∧ c.toNat ≤ 57) (same : a.length = b.length) :
    lexLe (a.map Char.toNat) (b.map Char.toNat) = true ↔ value a ≤ value b := by
  induction a generalizing b with
  | nil =>
    obtain rfl := List.length_eq_zero_iff.mp same.symm
    simp [lexLe]
  | cons x xs ih =>
    cases b with
    | nil => simp at same
    | cons y ys =>
      have later := ih (fun c member => digitsA c (List.mem_cons_of_mem _ member))
        (fun c member => digitsB c (List.mem_cons_of_mem _ member)) (by simpa using same)
      have smallX := value_lt fun c member => digitsA c (List.mem_cons_of_mem _ member)
      have smallY := value_lt fun c member => digitsB c (List.mem_cons_of_mem _ member)
      have boundsX := digitsA x List.mem_cons_self
      have boundsY := digitsB y List.mem_cons_self
      have sizes : xs.length = ys.length := by simpa using same
      simp only [List.map_cons,lexLe,Bool.or_eq_true,Bool.and_eq_true,decide_eq_true_eq,beq_iff_eq,value_cons,later,sizes]
      rw [sizes] at smallX
      rcases Nat.lt_trichotomy x.toNat y.toNat with less | equal | more
      · -- one more of the first digit outweighs the rest
        have step : (x.toNat - 48 + 1) * 10 ^ ys.length ≤ (y.toNat - 48) * 10 ^ ys.length :=
          Nat.mul_le_mul_right _ (by omega)
        rw [Nat.add_mul] at step
        omega
      · rw [equal]
        simp
      · have step : (y.toNat - 48 + 1) * 10 ^ ys.length ≤ (x.toNat - 48) * 10 ^ ys.length :=
          Nat.mul_le_mul_right _ (by omega)
        rw [Nat.add_mul] at step
        constructor
        · rintro (less | ⟨equal,-⟩)
          · omega
          · omega
        · omega

theorem value_inj {a b : List Char} (canonicalA : Canonical a) (canonicalB : Canonical b) (same : value a = value b) :
    a = b := by
  have sizes : a.length = b.length := by
    rcases Nat.lt_trichotomy a.length b.length with less | equal | more
    · have := value_lt_of_length canonicalA.digits canonicalB less canonicalA.nonempty
      omega
    · exact equal
    · have := value_lt_of_length canonicalB.digits canonicalA more canonicalB.nonempty
      omega
  have reversed := Nat.ofDigits_inj_of_len_eq (by decide) (by simpa using sizes) (digit_lt canonicalA.digits)
    (digit_lt canonicalB.digits) same
  -- a digit is its character again
  have restored : ∀ {cs : List Char}, Canonical cs →
      (cs.reverse.map fun c => c.toNat - 48).map (fun digit => Char.ofNat (digit + 48)) = cs.reverse := by
    intro cs canonical
    rw [List.map_map]
    refine (List.map_congr_left ?_).trans (List.map_id _)
    intro c member
    have bounds := canonical.digits c (List.mem_reverse.mp member)
    simp [Nat.sub_add_cancel bounds.1]
  rw [← List.reverse_inj,← restored canonicalA,← restored canonicalB,reversed]

end Cap.Numerals
