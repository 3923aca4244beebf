import Mathlib.Data.Nat.Bitwise
import Mathlib.Tactic.Linarith
import Mathlib.Tactic.Ring
import Cap.Text

/-!
Base-128 varints in their shortest form: seven bits a byte, lowest first, the high bit set on
every byte but the last. Every number has one such encoding, and no encoding is the beginning of
another.
-/
namespace Cap.Varint
open Cap.Text

/-- The encoding with a bound on its length; any bound from the number itself on will do. -/
def encodeWithin : Nat → Nat → Bytes
  | 0,n => [UInt8.ofNat n]
  | fuel + 1,n => if n < 128 then [UInt8.ofNat n] else UInt8.ofNat (n % 128 + 128) :: encodeWithin fuel (n / 128)

/-- The shortest varint of a number. -/
def encodeVarint (n : Nat) : Bytes := encodeWithin n n

private theorem encodeWithin_eq (fuel more n : Nat) (enough : n ≤ fuel) (also : n ≤ more) :
    encodeWithin fuel n = encodeWithin more n := by
  induction fuel generalizing more n with
  | zero =>
    obtain rfl : n = 0 := by omega
    cases more <;> simp [encodeWithin]
  | succ fuel ih =>
    cases more with
    | zero =>
      obtain rfl : n = 0 := by omega
      simp [encodeWithin]
    | succ more =>
      simp only [encodeWithin]
      split
      · rfl
      · rw [ih more (n / 128) (by omega) (by omega)]

theorem encodeVarint_eq (n : Nat) :
    encodeVarint n = if n < 128 then [UInt8.ofNat n] else UInt8.ofNat (n % 128 + 128) :: encodeVarint (n / 128) := by
  cases n with
  | zero => rfl
  | succ n =>
    simp only [encodeVarint,encodeWithin]
    split
    · rfl
    · rw [encodeWithin_eq n ((n + 1) / 128) _ (by omega) (by omega)]

theorem encodeVarint_small {n : Nat} (small : n < 128) : encodeVarint n = [UInt8.ofNat n] := by
  rw [encodeVarint_eq,if_pos small]

theorem encodeVarint_large {n : Nat} (large : ¬ n < 128) :
    encodeVarint n = UInt8.ofNat (n % 128 + 128) :: encodeVarint (n / 128) := by
  rw [encodeVarint_eq,if_neg large]

theorem toNat_low {n : Nat} (small : n < 128) : (UInt8.ofNat n).toNat = n := by
  simp only [UInt8.toNat_ofNat']
  omega

theorem toNat_high (n : Nat) : (UInt8.ofNat (n % 128 + 128)).toNat = n % 128 + 128 := by
  simp only [UInt8.toNat_ofNat']
  omega

theorem encodeVarint_length_pos (n : Nat) : 0 < (encodeVarint n).length := by
  by_cases small : n < 128
  · simp [encodeVarint_small small]
  · simp [encodeVarint_large small]

theorem encodeVarint_length_le {n k : Nat} (below : n < 128 ^ (k + 1)) : (encodeVarint n).length ≤ k + 1 := by
  induction k generalizing n with
  | zero => simp [encodeVarint_small (by simpa using below)]
  | succ k ih =>
    by_cases small : n < 128
    · simp [encodeVarint_small small]
    · have shorter := ih (n := n / 128) (by rw [Nat.div_lt_iff_lt_mul (by omega)]; exact below)
      simp [encodeVarint_large small]
      omega

theorem encodeVarint_length_mono {m n : Nat} (le : m ≤ n) : (encodeVarint m).length ≤ (encodeVarint n).length := by
  induction n using Nat.strong_induction_on generalizing m with
  | _ n ih =>
    by_cases small : m < 128
    · rw [encodeVarint_small small]
      exact encodeVarint_length_pos n
    · rw [encodeVarint_large small,encodeVarint_large (n := n) (by omega)]
      simp only [List.length_cons]
      have := ih (n / 128) (by omega) (Nat.div_le_div_right le)
      omega

theorem encodeVarint_append_inj {a b : Nat} {x y : Bytes} (same : encodeVarint a ++ x = encodeVarint b ++ y) :
    a = b ∧ x = y := by
  induction a using Nat.strongRecOn generalizing b with
  | ind a ih =>
    by_cases smallA : a < 128
    · rw [encodeVarint_small smallA] at same
      by_cases smallB : b < 128
      · rw [encodeVarint_small smallB] at same
        simp only [List.cons_append,List.cons.injEq] at same
        have heads := congrArg UInt8.toNat same.1
        rw [toNat_low smallA,toNat_low smallB] at heads
        exact ⟨heads,same.2⟩
      · rw [encodeVarint_large smallB] at same
        simp only [List.cons_append,List.cons.injEq] at same
        have heads := congrArg UInt8.toNat same.1
        rw [toNat_low smallA,toNat_high] at heads
        omega
    · rw [encodeVarint_large smallA] at same
      by_cases smallB : b < 128
      · rw [encodeVarint_small smallB] at same
        simp only [List.cons_append,List.cons.injEq] at same
        have heads := congrArg UInt8.toNat same.1
        rw [toNat_low smallB,toNat_high] at heads
        omega
      · rw [encodeVarint_large smallB] at same
        simp only [List.cons_append,List.cons.injEq] at same
        have heads := congrArg UInt8.toNat same.1
        rw [toNat_high,toNat_high] at heads
        obtain ⟨quotients,tails⟩ := ih (a / 128) (by omega) same.2
        exact ⟨by omega,tails⟩

/-- Reads at most `fuel` bytes, adding seven bits at a time above the `7 * index` read so far.
    Returns the value and the number of bytes read in all. -/
def readShifted : Nat → Nat → Nat → Bytes → Option (Nat × Nat)
  | 0,_,_,_ => none
  | _ + 1,_,_,[] => none
  | fuel + 1,index,value,byte :: rest =>
    let value := value ||| ((byte.toNat &&& 0x7f) <<< (index * 7))
    if byte.toNat < 0x80 then some (value,index + 1) else readShifted fuel (index + 1) value rest

private theorem or_shifted {value digit index : Nat} (below : value < 2 ^ (index * 7)) :
    value ||| (digit <<< (index * 7)) = value + digit * 2 ^ (index * 7) := by
  have := Nat.two_pow_add_eq_or_of_lt below digit
  rw [Nat.shiftLeft_eq,Nat.or_comm,Nat.mul_comm digit,← this]
  omega

private theorem pow_next (index : Nat) : 2 ^ ((index + 1) * 7) = 2 ^ (index * 7) * 128 := by
  rw [show (index + 1) * 7 = index * 7 + 7 by omega,pow_add]
  norm_num

private theorem low_bits (n : Nat) : n &&& 0x7f = n % 128 := Nat.and_two_pow_sub_one_eq_mod n 7

theorem readShifted_encodeVarint (fuel index value n : Nat) (rest : Bytes) (below : value < 2 ^ (index * 7))
    (room : (encodeVarint n).length ≤ fuel) :
    readShifted fuel index value (encodeVarint n ++ rest) =
      some (value + n * 2 ^ (index * 7),index + (encodeVarint n).length) := by
  induction fuel generalizing index value n with
  | zero => have := encodeVarint_length_pos n; omega
  | succ fuel ih =>
    by_cases small : n < 128
    · rw [encodeVarint_small small]
      simp [readShifted,toNat_low small,low_bits,or_shifted below,small]
    · rw [encodeVarint_large small] at room ⊢
      have digit : (n % 128 + 128) % 128 = n % 128 := by omega
      have next : value + n % 128 * 2 ^ (index * 7) < 2 ^ ((index + 1) * 7) := by
        have bound : n % 128 < 128 := Nat.mod_lt n (by omega)
        rw [pow_next]
        nlinarith
      simp only [List.cons_append,readShifted,toNat_high,low_bits,digit,or_shifted below]
      rw [ih (index + 1) _ (n / 128) next (by simpa using room)]
      have value' : value + n % 128 * 2 ^ (index * 7) + n / 128 * 2 ^ ((index + 1) * 7) =
          value + n * 2 ^ (index * 7) := by
        have whole : n % 128 + 128 * (n / 128) = n := Nat.mod_add_div n 128
        calc value + n % 128 * 2 ^ (index * 7) + n / 128 * 2 ^ ((index + 1) * 7)
            = value + (n % 128 + 128 * (n / 128)) * 2 ^ (index * 7) := by rw [pow_next]; ring
          _ = value + n * 2 ^ (index * 7) := by rw [whole]
      simp
      omega

theorem readShifted_count {fuel index value v n : Nat} {bytes : Bytes}
    (read : readShifted fuel index value bytes = some (v,n)) : n ≤ index + fuel ∧ n ≤ index + bytes.length := by
  induction fuel generalizing index value bytes with
  | zero => cases read
  | succ fuel ih =>
    cases bytes with
    | nil => cases read
    | cons byte rest =>
      simp only [readShifted] at read
      split at read
      · cases read; simp
      · have := ih read
        simp only [List.length_cons]
        omega

theorem readShifted_pos {fuel index value v n : Nat} {bytes : Bytes}
    (read : readShifted fuel index value bytes = some (v,n)) : index < n := by
  induction fuel generalizing index value bytes with
  | zero => cases read
  | succ fuel ih =>
    cases bytes with
    | nil => cases read
    | cons byte rest =>
      simp only [readShifted] at read
      split at read
      · cases read; omega
      · have := ih read
        omega

end Cap.Varint
