import Mathlib.Data.List.Chain
import Mathlib.Data.List.DropRight

/-!
Collapsing of runs. Every symbol is a gap, is dropped or is kept; what is left of a list is its
kept symbols, with one blank where there are gaps between two of them.
-/
namespace Cap.Squeeze

inductive Fate where
  | space
  | drop
  | keep
deriving DecidableEq

/-- Nothing kept so far, the last symbol kept was not followed by a gap, or it was. -/
inductive Gap where
  | start
  | tight
  | pending
deriving DecidableEq

def Gap.widen : Gap → Gap
  | start => start
  | _ => pending

variable {α : Type} (blank : α) (cls : α → Fate)

def Gap.fill : Gap → List α
  | pending => [blank]
  | _ => []

def squeeze : Gap → List α → List α
  | _,[] => []
  | gap,c :: rest =>
    match cls c with
    | .space => squeeze gap.widen rest
    | .drop => squeeze gap rest
    | .keep => gap.fill blank ++ c :: squeeze .tight rest

/-- The loop with a flag that says whether the last symbol written was a blank. -/
def collapse : Bool → List α → List α
  | _,[] => []
  | last,c :: rest =>
    match cls c with
    | .space => if last then collapse true rest else blank :: collapse true rest
    | .drop => collapse last rest
    | .keep => c :: collapse false rest

variable {blank} {cls}

section
variable {gap : Gap} {c : α} {rest s : List α}

theorem squeeze_space (h : cls c = .space) : squeeze blank cls gap (c :: rest) = squeeze blank cls gap.widen rest := by
  rw [squeeze,h]

theorem squeeze_drop (h : cls c = .drop) : squeeze blank cls gap (c :: rest) = squeeze blank cls gap rest := by
  rw [squeeze,h]

theorem squeeze_keep (h : cls c = .keep) :
    squeeze blank cls gap (c :: rest) = gap.fill blank ++ c :: squeeze blank cls .tight rest := by
  rw [squeeze,h]

theorem mem_squeeze_of_keep (member : c ∈ s) (kept : cls c = .keep) : c ∈ squeeze blank cls gap s := by
  induction s generalizing gap with
  | nil => cases member
  | cons d rest ih =>
    rcases List.mem_cons.mp member with rfl | later
    · rw [squeeze_keep kept]
      simp
    · cases h : cls d with
      | space => rw [squeeze_space h]; exact ih later
      | drop => rw [squeeze_drop h]; exact ih later
      | keep =>
        rw [squeeze_keep h]
        exact List.mem_append_right _ (List.mem_cons_of_mem _ (ih later))

theorem keep_of_mem_squeeze (member : c ∈ squeeze blank cls gap s) : c = blank ∨ c ∈ s ∧ cls c = .keep := by
  induction s generalizing gap with
  | nil => cases member
  | cons d rest ih =>
    cases h : cls d with
    | space =>
      rw [squeeze_space h] at member
      exact (ih member).imp_right fun found => ⟨List.mem_cons_of_mem _ found.1,found.2⟩
    | drop =>
      rw [squeeze_drop h] at member
      exact (ih member).imp_right fun found => ⟨List.mem_cons_of_mem _ found.1,found.2⟩
    | keep =>
      rw [squeeze_keep h,List.mem_append,List.mem_cons] at member
      rcases member with filled | rfl | later
      · cases gap with
        | pending => exact .inl (List.mem_singleton.mp filled)
        | start | tight => cases filled
      · exact .inr ⟨List.mem_cons_self,h⟩
      · exact (ih later).imp_right fun found => ⟨List.mem_cons_of_mem _ found.1,found.2⟩

end

/-! ### Comparison of two classes -/

section
variable {other : α → Fate}

variable {s : List α}

theorem squeeze_congr (same : ∀ c ∈ s, cls c = other c) (gap : Gap) :
    squeeze blank cls gap s = squeeze blank other gap s := by
  induction s generalizing gap with
  | nil => rfl
  | cons c rest ih =>
    have here := same c List.mem_cons_self
    have later := ih fun d member => same d (List.mem_cons_of_mem _ member)
    simp [squeeze,← here,later]

variable {gap : Gap} {c : α} {p : List α}

theorem prefix_fill {rest : List α} (part : p <+: gap.fill blank ++ c :: rest) (some : p ≠ [])
    (last : ∀ d ∈ p.getLast?, d ≠ blank) : ∃ more, p = gap.fill blank ++ c :: more ∧ more <+: rest := by
  cases p with
  | nil => exact absurd rfl some
  | cons d more =>
    cases gap with
    | start | tight =>
      obtain ⟨rfl,within⟩ := List.cons_prefix_cons.mp part
      exact ⟨more,rfl,within⟩
    | pending =>
      obtain ⟨rfl,within⟩ := List.cons_prefix_cons.mp part
      cases more with
      | nil => exact absurd rfl (last d rfl)
      | cons e more =>
        obtain ⟨rfl,inside⟩ := List.cons_prefix_cons.mp within
        exact ⟨more,rfl,inside⟩

private theorem getLast?_tail {front more : List α} {d : α} (h : d ∈ more.getLast?) : d ∈
    (front ++ c :: more).getLast? := by
  cases more with
  | nil => cases h
  | cons e more => simpa using h

theorem exists_first {wished : α → Prop} (member : c ∈ s) (bad : ¬ wished c) :
    ∃ front d, front ++ [d] <+: s ∧ (∀ e ∈ front, wished e) ∧ ¬ wished d := by
  induction s with
  | nil => cases member
  | cons a rest ih =>
    by_cases here : wished a
    · have later : c ∈ rest := by
        rcases List.mem_cons.mp member with rfl | later
        · exact absurd here bad
        · exact later
      obtain ⟨front,d,part,good,bad⟩ := ih later
      refine ⟨a :: front,d,List.cons_prefix_cons.mpr ⟨rfl,part⟩,?_,bad⟩
      intro e among
      rcases List.mem_cons.mp among with rfl | later
      · exact here
      · exact good e later
    · exact ⟨[],a,⟨rest,rfl⟩,by simp,here⟩

theorem prefix_squeeze (spaces : ∀ c, other c = .space → cls c = .space)
    (drops : ∀ c, other c ≠ .drop) (isBlank : other blank = .space) (part : p <+: squeeze blank other gap s)
    (last : ∀ c ∈ p.getLast?, c ≠ blank) (kept : ∀ c ∈ p, c = blank ∨ cls c = .keep) :
    p <+: squeeze blank cls gap s := by
  by_cases some : p = []
  · rw [some]
    exact List.nil_prefix
  induction s generalizing gap p with
  | nil => exact absurd (List.prefix_nil.mp part) some
  | cons c rest ih =>
    cases h : other c with
    | drop => exact absurd h (drops c)
    | space =>
      rw [squeeze_space h] at part
      rw [squeeze_space (spaces c h)]
      exact ih part last kept some
    | keep =>
      rw [squeeze_keep h] at part
      obtain ⟨more,rfl,within⟩ := prefix_fill part some last
      have here : cls c = .keep := by
        refine (kept c (by simp)).resolve_left ?_
        rintro rfl
        rw [isBlank] at h
        contradiction
      rw [squeeze_keep here,List.prefix_append_right_inj,List.cons_prefix_cons]
      refine ⟨rfl,?_⟩
      by_cases none : more = []
      · rw [none]
        exact List.nil_prefix
      · exact ih within (fun d found => last d (getLast?_tail found)) (fun d member => kept d (by simp [member])) none

end

/-- No gap at the ends, and no two of them side by side. -/
structure Spaced (space : α → Bool) (s : List α) : Prop where
  front : ∀ c ∈ s.head?, space c = false
  back : ∀ c ∈ s.getLast?, space c = false
  apart : s.IsChain fun a b => ¬ (space a = true ∧ space b = true)

variable {space : α → Bool}

theorem Spaced.mono {less : α → Bool} (spaced : Spaced space s)
    (fewer : ∀ c, less c = true → space c = true) : Spaced less s := by
  have clear : ∀ c, space c = false → less c = false := by
    intro c none
    rw [Bool.eq_false_iff] at none ⊢
    exact fun isLess => none (fewer c isLess)
  refine ⟨fun c found => clear c (spaced.front c found),fun c found => clear c (spaced.back c found),?_⟩
  exact spaced.apart.imp fun a b apart both => apart ⟨fewer a both.1,fewer b both.2⟩

theorem Spaced.trimmed (spaced : Spaced space s) :
    (s.dropWhile space).rdropWhile space = s := by
  have front : s.dropWhile space = s := by
    cases s with
    | nil => rfl
    | cons c rest =>
      refine List.dropWhile_cons_of_neg ?_
      rw [spaced.front c rfl]
      decide
  rw [front,List.rdropWhile_eq_self_iff]
  intro some
  rw [spaced.back _ (List.getLast?_eq_some_getLast some)]
  decide

/-- The kept symbols stand between the blanks. -/
private theorem squeeze_spaced (isSpace : ∀ c, space c = true ↔ cls c = .space) (s : List α) (gap : Gap) :
    (gap = .start → ∀ c ∈ (squeeze blank cls gap s).head?, space c = false) ∧
      (∀ c ∈ (squeeze blank cls gap s).getLast?, space c = false) ∧
      (squeeze blank cls gap s).IsChain fun a b => ¬ (space a = true ∧ space b = true) := by
  induction s generalizing gap with
  | nil => simp [squeeze]
  | cons c rest ih =>
    cases h : cls c with
    | space =>
      rw [squeeze_space h]
      refine ⟨?_,(ih gap.widen).2⟩
      rintro rfl
      exact (ih .start).1 rfl
    | drop =>
      rw [squeeze_drop h]
      exact ih gap
    | keep =>
      have kept : space c = false := by
        rw [Bool.eq_false_iff,Ne,isSpace,h]
        decide
      rw [squeeze_keep h]
      obtain ⟨-,back,apart⟩ := ih .tight
      have chained : (c :: squeeze blank cls .tight rest).IsChain fun a b => ¬ (space a = true ∧ space b = true) := by
        refine List.isChain_cons.mpr ⟨?_,apart⟩
        intro d _ both
        rw [kept] at both
        exact absurd both.1 (by decide)
      refine ⟨?_,?_,?_⟩
      · rintro rfl d found
        obtain rfl := Option.some.inj found
        exact kept
      · intro d found
        cases more : squeeze blank cls .tight rest with
        | nil =>
          rw [more,List.getLast?_append,List.getLast?_singleton] at found
          obtain rfl := Option.some.inj found
          exact kept
        | cons e es =>
          rw [more] at back
          exact back d (by simpa [more] using found)
      · cases gap with
        | start | tight => exact chained
        | pending =>
          refine List.isChain_cons.mpr ⟨?_,chained⟩
          intro d found both
          obtain rfl := Option.some.inj found
          rw [kept] at both
          exact absurd both.2 (by decide)

theorem spaced_squeeze (isSpace : ∀ c, space c = true ↔ cls c = .space) (s : List α) :
    Spaced space (squeeze blank cls .start s) :=
  let ⟨front,back,apart⟩ := squeeze_spaced isSpace s .start
  ⟨front rfl,back,apart⟩

/-- A beginning of a squeezed list that does not end in a blank is squeezed. -/
theorem squeeze_part (isBlank : cls blank = .space) (part : p <+: squeeze blank cls gap s)
    (last : ∀ c ∈ p.getLast?, c ≠ blank) :
    squeeze blank cls (if gap = .start then .start else .tight) p = p := by
  by_cases some : p = []
  · rw [some,squeeze]
  induction s generalizing gap p with
  | nil => exact absurd (List.prefix_nil.mp part) some
  | cons c rest ih =>
    cases h : cls c with
    | space =>
      rw [squeeze_space h] at part
      have later := ih part last some
      cases gap with
      | start | tight | pending => exact later
    | drop =>
      rw [squeeze_drop h] at part
      exact ih part last some
    | keep =>
      rw [squeeze_keep h] at part
      obtain ⟨more,rfl,within⟩ := prefix_fill part some last
      have later : squeeze blank cls .tight more = more := by
        by_cases none : more = []
        · rw [none,squeeze]
        · exact ih within (fun d found => last d (getLast?_tail found)) none
      cases gap with
      | start | tight => exact (squeeze_keep h).trans (by rw [later]; rfl)
      | pending => exact (squeeze_space isBlank).trans ((squeeze_keep h).trans (by rw [later]; rfl))

/-! ### The same list by other means -/

theorem squeeze_append_space (isGap : cls c = .space) (s : List α) (gap : Gap) :
    squeeze blank cls gap (s ++ [c]) = squeeze blank cls gap s := by
  induction s generalizing gap with
  | nil => rw [List.nil_append,squeeze_space isGap,squeeze,squeeze]
  | cons d rest ih => simp [squeeze,ih]

theorem rdropWhile_append_cons (kept : space c = false) (front s : List α) :
    (front ++ c :: s).rdropWhile space = front ++ c :: s.rdropWhile space := by
  simp only [List.rdropWhile,List.reverse_append,List.reverse_cons,List.append_assoc,List.dropWhile_append]
  by_cases none : (s.reverse.dropWhile space).isEmpty
  · simp [kept]
  · simp [none]

theorem intercalate_cons_flatMap (sep : α) (word : List α) (words : List (List α)) :
    [sep].intercalate (word :: words) = word ++ words.flatMap (sep :: ·) := by
  induction words generalizing word with
  | nil => simp
  | cons next words ih =>
    rw [List.intercalate_cons_cons,ih]
    simp

section
variable {space : α → Bool} (isSpace : ∀ c, space c = true ↔ cls c = .space)
include isSpace

/-- The loop with the flag leaves at most a blank too much at the end. -/
theorem rdropWhile_collapse (blankSpace : space blank = true) (s : List α) :
    (collapse blank cls false s).rdropWhile space = squeeze blank cls .tight s ∧
      (blank :: collapse blank cls true s).rdropWhile space = squeeze blank cls .pending s ∧
      (collapse blank cls true s).rdropWhile space = squeeze blank cls .start s := by
  induction s with
  | nil => simp [collapse,squeeze,blankSpace]
  | cons c rest ih =>
    obtain ⟨tight,pending,start⟩ := ih
    cases h : cls c with
    | space =>
      simp only [squeeze_space h,collapse,h]
      exact ⟨pending,pending,start⟩
    | drop =>
      simp only [squeeze_drop h,collapse,h]
      exact ⟨tight,pending,start⟩
    | keep =>
      have kept : space c = false := by
        rw [Bool.eq_false_iff,Ne,isSpace,h]
        decide
      have plain := rdropWhile_append_cons kept [] (collapse blank cls false rest)
      have blanked := rdropWhile_append_cons kept [blank] (collapse blank cls false rest)
      simp only [List.nil_append,List.singleton_append] at plain blanked
      simp [squeeze_keep h,collapse,h,Gap.fill,plain,blanked,tight]

/-- The loop writes at most a blank too much at the front. -/
theorem dropWhile_collapse (blankSpace : space blank = true) (s : List α) :
    (collapse blank cls false s).dropWhile space = collapse blank cls true s ∧
      (collapse blank cls true s).dropWhile space = collapse blank cls true s := by
  induction s with
  | nil => exact ⟨rfl,rfl⟩
  | cons c rest ih =>
    cases h : cls c with
    | space => simpa [collapse,h,blankSpace] using ih.2
    | drop => simpa [collapse,h] using ih
    | keep =>
      have kept : space c = false := by
        rw [Bool.eq_false_iff,Ne,isSpace,h]
        decide
      simp [collapse,h,kept]

theorem trim_collapse (blankSpace : space blank = true) (s : List α) :
    ((collapse blank cls false s).dropWhile space).rdropWhile space = squeeze blank cls .start s := by
  rw [(dropWhile_collapse isSpace blankSpace s).1,(rdropWhile_collapse isSpace blankSpace s).2.2]

theorem squeeze_dropWhile (s : List α) : squeeze blank cls .start (s.dropWhile space) = squeeze blank cls .start s := by
  induction s with
  | nil => rfl
  | cons c rest ih =>
    by_cases h : space c = true
    · rw [List.dropWhile_cons_of_pos h,squeeze_space ((isSpace c).mp h)]
      exact ih
    · rw [List.dropWhile_cons_of_neg h]

theorem squeeze_rdropWhile (s : List α) (gap : Gap) :
    squeeze blank cls gap (s.rdropWhile space) = squeeze blank cls gap s := by
  induction s using List.reverseRecOn with
  | nil => rfl
  | append_singleton s c ih =>
    by_cases h : space c = true
    · rw [List.rdropWhile_concat_pos _ _ _ h,ih,squeeze_append_space ((isSpace c).mp h)]
    · rw [List.rdropWhile_concat_neg _ _ _ h]

private theorem words_joined (filler : α) (drops : ∀ c, cls c ≠ .drop) (s : List α) :
    ∃ word words, s.splitOnP space = word :: words ∧
      word ++ (words.filter (!·.isEmpty)).flatMap (filler :: ·) = squeeze filler cls .tight s ∧
      ((word :: words).filter (!·.isEmpty)).flatMap (filler :: ·) = squeeze filler cls .pending s ∧
      [filler].intercalate ((word :: words).filter (!·.isEmpty)) = squeeze filler cls .start s := by
  induction s with
  | nil => exact ⟨[],[],rfl,rfl,rfl,rfl⟩
  | cons c rest ih =>
    obtain ⟨word,words,split,tight,pending,start⟩ := ih
    rw [List.splitOnP_cons_eq_if_modifyHead,split]
    cases h : cls c with
    | drop => exact absurd h (drops c)
    | space =>
      rw [if_pos ((isSpace c).mpr h)]
      refine ⟨[],word :: words,rfl,?_,?_,?_⟩
      · rw [squeeze_space h]
        exact pending
      · rw [squeeze_space h]
        exact pending
      · rw [squeeze_space h]
        exact start
    | keep =>
      have kept : ¬ space c = true := by
        rw [isSpace,h]
        decide
      rw [if_neg kept]
      refine ⟨c :: word,words,rfl,?_,?_,?_⟩
      · rw [squeeze_keep h,← tight]
        rfl
      · rw [squeeze_keep h,← tight]
        rfl
      · rw [squeeze_keep h,← tight]
        exact intercalate_cons_flatMap filler (c :: word) _

theorem intercalate_words (drops : ∀ c, cls c ≠ .drop) (s : List α) :
    [blank].intercalate ((s.splitOnP space).filter (!·.isEmpty)) = squeeze blank cls .start s := by
  obtain ⟨word,words,split,-,-,start⟩ := words_joined isSpace blank drops s
  rw [split,start]

end

end Cap.Squeeze
