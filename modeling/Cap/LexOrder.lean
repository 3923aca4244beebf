import Mathlib.Data.List.Pairwise
import Mathlib.Data.List.Sort
import Cap.Text

/-!
Lexicographic orders of encoded words. When an encoding gives each symbol a code that differs from
the codes of smaller symbols at some unit, the encoded words are ordered as the words of the
symbols' ranks are.
-/
namespace Cap.LexOrder
open Cap.Text

theorem lexLe_cons {x y : Nat} {xs ys : List Nat} :
    lexLe (x :: xs) (y :: ys) = true ↔ x < y ∨ x = y ∧ lexLe xs ys = true := by
  simp [lexLe]

theorem lexLe_total (xs ys : List Nat) : lexLe xs ys = true ∨ lexLe ys xs = true := by
  induction xs generalizing ys with
  | nil => exact .inl rfl
  | cons x xs ih =>
    cases ys with
    | nil => exact .inr rfl
    | cons y ys =>
      rw [lexLe_cons,lexLe_cons]
      rcases Nat.lt_trichotomy x y with less | rfl | more
      · exact .inl (.inl less)
      · rcases ih ys with le | ge
        · exact .inl (.inr ⟨rfl,le⟩)
        · exact .inr (.inr ⟨rfl,ge⟩)
      · exact .inr (.inl more)

theorem lexLe_antisymm {xs ys : List Nat} (le : lexLe xs ys = true) (ge : lexLe ys xs = true) : xs = ys := by
  induction xs generalizing ys with
  | nil =>
    cases ys with
    | nil => rfl
    | cons y ys => simp [lexLe] at ge
  | cons x xs ih =>
    cases ys with
    | nil => simp [lexLe] at le
    | cons y ys =>
      rw [lexLe_cons] at le ge
      obtain rfl : x = y := by omega
      have later : lexLe xs ys = true := by simpa using le
      have sooner : lexLe ys xs = true := by simpa using ge
      rw [ih later sooner]

theorem lexLe_trans {xs ys zs : List Nat} (first : lexLe xs ys = true) (second : lexLe ys zs = true) :
    lexLe xs zs = true := by
  induction xs generalizing ys zs with
  | nil => rfl
  | cons x xs ih =>
    cases ys with
    | nil => simp [lexLe] at first
    | cons y ys =>
      cases zs with
      | nil => simp [lexLe] at second
      | cons z zs =>
        rw [lexLe_cons] at first second ⊢
        rcases first with less | ⟨rfl,le⟩
        · exact .inl (by omega)
        · rcases second with less | ⟨rfl,le'⟩
          · exact .inl less
          · exact .inr ⟨rfl,ih le le'⟩

section
variable {α : Type}

/-- The words have a common part, after which the first goes on with `x` and the second with `y`. -/
def Splits (xs ys : List α) (x y : α) : Prop := ∃ common rest rest', xs = common ++ x :: rest ∧ ys = common ++ y :: rest' ∧ x ≠ y

theorem splits_cons {z x y : α} {xs ys : List α} : Splits (z :: xs) (z :: ys) x y ↔ Splits xs ys x y := by
  constructor
  · rintro ⟨common,rest,rest',left,right,different⟩
    cases common with
    | nil =>
      cases left
      cases right
      exact absurd rfl different
    | cons c common =>
      simp only [List.cons_append,List.cons.injEq] at left right
      exact ⟨common,rest,rest',left.2,right.2,different⟩
  · rintro ⟨common,rest,rest',rfl,rfl,different⟩
    exact ⟨z :: common,rest,rest',rfl,rfl,different⟩

theorem splits_of_ne {z w : α} (different : z ≠ w) {x y : α} {xs ys : List α} :
    Splits (z :: xs) (w :: ys) x y ↔ x = z ∧ y = w := by
  constructor
  · rintro ⟨common,rest,rest',left,right,-⟩
    cases common with
    | nil =>
      cases left
      cases right
      exact ⟨rfl,rfl⟩
    | cons c common =>
      simp only [List.cons_append,List.cons.injEq] at left right
      exact absurd (left.1.trans right.1.symm) different
  · rintro ⟨rfl,rfl⟩
    exact ⟨[],xs,ys,rfl,rfl,different⟩

theorem Splits.unique {xs ys : List α} {x y x' y' : α} (first : Splits xs ys x y) (second : Splits xs ys x' y') :
    x' = x ∧ y' = y := by
  induction xs generalizing ys with
  | nil =>
    obtain ⟨common,_,_,left,-⟩ := first
    simp at left
  | cons z xs ih =>
    cases ys with
    | nil =>
      obtain ⟨common,_,_,-,right,-⟩ := first
      simp at right
    | cons w ys =>
      by_cases equal : z = w
      · subst equal
        rw [splits_cons] at first second
        exact ih first second
      · rw [splits_of_ne equal] at first second
        exact ⟨second.1.trans first.1.symm,second.2.trans first.2.symm⟩

theorem map_le_iff {rank : α → Nat} (injective : Function.Injective rank) (xs ys : List α) :
    lexLe (xs.map rank) (ys.map rank) = true ↔ xs <+: ys ∨ ∃ x y, Splits xs ys x y ∧ rank x < rank y := by
  induction xs generalizing ys with
  | nil => simp [lexLe]
  | cons x xs ih =>
    cases ys with
    | nil =>
      simp only [List.map_cons,List.map_nil,lexLe,List.prefix_nil,reduceCtorEq,false_or,false_iff]
      rintro ⟨_,_,⟨common,_,_,-,right,-⟩,-⟩
      simp at right
    | cons y ys =>
      rw [List.map_cons,List.map_cons,lexLe_cons]
      by_cases same : x = y
      · subst same
        simp [ih,splits_cons]
      · have ranks : rank x ≠ rank y := fun equal => same (injective equal)
        simp only [ranks,false_and,or_false,List.cons_prefix_cons,same,splits_of_ne same,false_or]
        constructor
        · exact fun less => ⟨x,y,⟨rfl,rfl⟩,less⟩
        · rintro ⟨_,_,⟨rfl,rfl⟩,less⟩
          exact less

theorem map_le_map_iff {rank other : α → Nat} (injective : Function.Injective rank)
    (injective' : Function.Injective other) (xs ys : List α) :
    (lexLe (xs.map rank) (ys.map rank) = true → lexLe (xs.map other) (ys.map other) = true) ↔
      ¬∃ x y, Splits xs ys x y ∧ rank x < rank y ∧ other y < other x := by
  rw [map_le_iff injective,map_le_iff injective']
  constructor
  · rintro agree ⟨x,y,splits,less,more⟩
    rcases agree (.inr ⟨x,y,splits,less⟩) with starts | ⟨x',y',splits',less'⟩
    · obtain ⟨common,rest,rest',rfl,rfl,different⟩ := splits
      obtain ⟨tail,whole⟩ := starts
      simp only [List.append_assoc,List.cons_append,List.append_cancel_left_eq,List.cons.injEq] at whole
      exact different whole.1
    · obtain ⟨rfl,rfl⟩ := splits.unique splits'
      omega
  · rintro none (starts | ⟨x,y,splits,less⟩)
    · exact .inl starts
    · refine .inr ⟨x,y,splits,?_⟩
      have different : other x ≠ other y := fun equal => by
        obtain ⟨_,_,_,-,-,ne⟩ := splits
        exact ne (injective' equal)
      by_contra notLess
      exact none ⟨x,y,splits,less,by omega⟩

/-- The first code is smaller at a unit up to which the two agree. -/
def Before (code code' : List Nat) : Prop := ∃ unit unit', Splits code code' unit unit' ∧ unit < unit'

/-- Codes of symbols that are ordered as the symbols' ranks are, whatever follows them. -/
structure Ranked (code : α → List Nat) (rank : α → Nat) : Prop where
  injective : Function.Injective rank
  before : ∀ x y, rank x < rank y → Before (code x) (code y)
  filled : ∀ x, code x ≠ []

theorem Before.append {code code' : List Nat} (before : Before code code') (rest rest' : List Nat) :
    lexLe (code ++ rest) (code' ++ rest') = true ∧ lexLe (code' ++ rest') (code ++ rest) = false := by
  obtain ⟨unit,unit',⟨common,tail,tail',rfl,rfl,-⟩,less⟩ := before
  induction common with
  | nil =>
    constructor
    · exact lexLe_cons.mpr (.inl less)
    · rw [← Bool.not_eq_true]
      intro le
      rcases lexLe_cons.mp le with more | ⟨same,-⟩ <;> omega
  | cons c common ih =>
    constructor
    · exact lexLe_cons.mpr (.inr ⟨rfl,ih.1⟩)
    · rw [← Bool.not_eq_true]
      intro le
      rcases lexLe_cons.mp le with more | ⟨-,later⟩
      · omega
      · exact absurd later (by simpa using ih.2)

private theorem lexLe_append_left (common xs ys : List Nat) : lexLe (common ++ xs) (common ++ ys) = lexLe xs ys := by
  induction common with
  | nil => rfl
  | cons c common ih => simp [lexLe,ih]

/-- Encoded words are ordered as the words of their ranks. -/
theorem Ranked.flatMap_le {code : α → List Nat} {rank : α → Nat} (ranked : Ranked code rank) (xs ys : List α) :
    lexLe (xs.flatMap code) (ys.flatMap code) = lexLe (xs.map rank) (ys.map rank) := by
  induction xs generalizing ys with
  | nil => simp [lexLe]
  | cons x xs ih =>
    cases ys with
    | nil =>
      obtain ⟨unit,units,nonempty⟩ := List.exists_cons_of_ne_nil (ranked.filled x)
      simp [nonempty,lexLe]
    | cons y ys =>
      rw [List.flatMap_cons,List.flatMap_cons]
      rcases Nat.lt_trichotomy (rank x) (rank y) with less | equal | more
      · rw [((ranked.before x y less).append _ _).1]
        simp [lexLe,less]
      · obtain rfl := ranked.injective equal
        rw [lexLe_append_left,ih]
        simp [lexLe]
      · rw [((ranked.before y x more).append _ _).2]
        simp [lexLe,Nat.not_lt_of_lt more,Nat.ne_of_gt more]

theorem insertionSort_eq_iff {r s : α → α → Prop} [DecidableRel r] [DecidableRel s] [Std.Total r] [IsTrans α r]
    [Std.Total s] [IsTrans α s] (antisymm : ∀ a b, r a b → r b a → a = b) (antisymm' : ∀ a b, s a b → s b a → a = b)
    (l : List α) : l.insertionSort r = l.insertionSort s ↔ ∀ a ∈ l, ∀ b ∈ l, r a b → s a b := by
  have sorted : (l.insertionSort r).Pairwise r := List.pairwise_insertionSort r l
  have sorted' : (l.insertionSort s).Pairwise s := List.pairwise_insertionSort s l
  have reflexive : ∀ a, r a a ∧ s a a := by
    intro a
    exact ⟨(Std.Total.total (r := r) a a).elim id id,(Std.Total.total (r := s) a a).elim id id⟩
  have members : ∀ {a}, a ∈ l.insertionSort r ↔ a ∈ l := (List.perm_insertionSort r l).mem_iff
  constructor
  · intro same a memA b memB before
    rw [← same] at sorted'
    -- one of the two comes first in the list that both orders sort
    have placed : (l.insertionSort r).Pairwise fun x y => (r x y ∧ s x y) ∨ (r y x ∧ s y x) :=
      (sorted.and sorted').imp fun both => .inl both
    have symmetric : Std.Symm fun x y => (r x y ∧ s x y) ∨ (r y x ∧ s y x) := ⟨fun _ _ => Or.symm⟩
    rcases placed.forall_of_forall (fun x _ => .inl (reflexive x)) (members.mpr memA) (members.mpr memB) with
      first | second
    · exact first.2
    · obtain rfl := antisymm a b before second.1
      exact (reflexive a).2
  · intro agree
    refine List.Perm.eq_of_pairwise (fun a b _ _ => antisymm' a b) ?_ sorted'
      ((List.perm_insertionSort r l).trans (List.perm_insertionSort s l).symm)
    exact sorted.imp_of_mem fun memA memB before => agree _ (members.mp memA) _ (members.mp memB) before

end

theorem before_head {unit unit' : Nat} (less : unit < unit') (rest rest' : List Nat) :
    Before (unit :: rest) (unit' :: rest') :=
  ⟨unit,unit',⟨[],rest,rest',rfl,rfl,by omega⟩,less⟩

theorem before_tail {unit unit' : Nat} {rest rest' : List Nat} (same : unit = unit') (before : Before rest rest') :
    Before (unit :: rest) (unit' :: rest') := by
  subst same
  obtain ⟨first,second,splits,less⟩ := before
  exact ⟨first,second,splits_cons.mpr splits,less⟩

private theorem utf8_code (c : Char) : (String.utf8EncodeChar c).map UInt8.toNat =
    if c.toNat ≤ 127 then [c.toNat]
    else if c.toNat ≤ 2047 then [c.toNat / 64 + 192,c.toNat % 64 + 128]
    else if c.toNat ≤ 65535 then [c.toNat / 4096 + 224,c.toNat / 64 % 64 + 128,c.toNat % 64 + 128]
    else [c.toNat / 262144 + 240,c.toNat / 4096 % 64 + 128,c.toNat / 64 % 64 + 128,c.toNat % 64 + 128] := by
  have bounded : c.val.toNat < 0x110000 := c.valid.elim (fun low => by omega) fun high => high.2
  unfold String.utf8EncodeChar Char.toNat
  generalize c.val.toNat = n at bounded ⊢
  dsimp only
  split_ifs <;> simp only [List.map_cons,List.map_nil,UInt8.toNat_ofNat'] <;> congr <;> omega

theorem utf8_ranked : Ranked (fun c => (String.utf8EncodeChar c).map UInt8.toNat) Char.toNat where
  injective _ _ same := Char.toNat_inj.mp same
  before x y less := by
    rw [utf8_code,utf8_code]
    generalize x.toNat = m at less ⊢
    generalize y.toNat = n at less ⊢
    split_ifs
    -- the leading bytes grow with the length, so that only codes of one length go on
    all_goals try exact before_head (by omega) _ _
    · by_cases high : m / 64 = n / 64
      · exact before_tail (by omega) (before_head (by omega) _ _)
      · exact before_head (by omega) _ _
    · by_cases high : m / 4096 = n / 4096
      · refine before_tail (by omega) ?_
        by_cases middle : m / 64 = n / 64
        · exact before_tail (by omega) (before_head (by omega) _ _)
        · exact before_head (by omega) _ _
      · exact before_head (by omega) _ _
    · by_cases high : m / 262144 = n / 262144
      · refine before_tail (by omega) ?_
        by_cases middle : m / 4096 = n / 4096
        · refine before_tail (by omega) ?_
          by_cases low : m / 64 = n / 64
          · exact before_tail (by omega) (before_head (by omega) _ _)
          · exact before_head (by omega) _ _
        · exact before_head (by omega) _ _
      · exact before_head (by omega) _ _
  filled c := by
    unfold String.utf8EncodeChar
    dsimp only
    split_ifs <;> simp

theorem utf8_le (s t : String) : lexLe ((utf8 s).map UInt8.toNat) ((utf8 t).map UInt8.toNat) =
    lexLe (s.toList.map Char.toNat) (t.toList.map Char.toNat) := by
  rw [utf8_eq_flatMap,utf8_eq_flatMap,List.map_flatMap,List.map_flatMap]
  exact utf8_ranked.flatMap_le _ _

end Cap.LexOrder
