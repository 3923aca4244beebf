import Cap.Text

/-!
Lines of a byte string. Splitting at line feeds and joining with them are inverse to each other as
long as no line holds a line feed; the other styles of line ends are brought to line feeds first.
-/
namespace Cap.Lines
open Cap.Text

def lf : UInt8 := 10

def cr : UInt8 := 13

def splitLines (s : Bytes) : List Bytes := s.splitOn lf

def joinLines (ls : List Bytes) : Bytes := [lf].intercalate ls

@[simp] theorem joinLines_splitLines (s : Bytes) : joinLines (splitLines s) = s := List.intercalate_splitOn ..

theorem splitLines_joinLines {ls : List Bytes} (plain : ∀ line ∈ ls, lf ∉ line) (nonempty : ls ≠ []) :
    splitLines (joinLines ls) = ls := List.splitOn_intercalate lf plain nonempty

theorem splitLines_ne_nil (s : Bytes) : splitLines s ≠ [] := List.splitOn_ne_nil lf s

theorem splitLines_cons (b : UInt8) (s : Bytes) :
    splitLines (b :: s) = if b = lf then [] :: splitLines s else (splitLines s).modifyHead (b :: ·) := by
  simp [splitLines,List.splitOn_cons_eq_if_modifyHead]

theorem joinLines_cons {line : Bytes} {ls : List Bytes} (more : ls ≠ []) :
    joinLines (line :: ls) = line ++ lf :: joinLines ls := by
  rw [joinLines,List.intercalate_cons_of_ne_nil more,joinLines]
  simp

/-- Parts that may hold line feeds themselves are split one by one. -/
theorem splitLines_joinLines_parts {parts : List Bytes} (nonempty : parts ≠ []) :
    splitLines (joinLines parts) = parts.flatMap splitLines := by
  induction parts with
  | nil => exact absurd rfl nonempty
  | cons part rest ih =>
    by_cases last : rest = []
    · subst last
      simp [joinLines]
    · rw [joinLines_cons last,splitLines,List.splitOn_append_cons_self,List.flatMap_cons,← ih last]
      rfl

theorem lf_not_mem {s line : Bytes} (member : line ∈ splitLines s) : lf ∉ line := by
  induction s generalizing line with
  | nil =>
    obtain rfl := List.mem_singleton.mp member
    exact List.not_mem_nil
  | cons b s ih =>
    rw [splitLines_cons] at member
    split_ifs at member with feed
    · rcases List.mem_cons.mp member with rfl | later
      · exact List.not_mem_nil
      · exact ih later
    · obtain ⟨first,rest,lines⟩ := List.exists_cons_of_ne_nil (splitLines_ne_nil s)
      rw [lines] at member
      rcases List.mem_cons.mp member with rfl | later
      · have inside : lf ∉ first := ih (by rw [lines]; exact List.mem_cons_self)
        simpa [Ne.symm feed] using inside
      · exact ih (by rw [lines]; exact List.mem_cons_of_mem _ later)

theorem mem_joinLines {b : UInt8} {ls : List Bytes} (other : b ≠ lf) : b ∈ joinLines ls ↔ ∃ line ∈ ls, b ∈ line := by
  induction ls with
  | nil => simp [joinLines]
  | cons line rest ih =>
    by_cases last : rest = []
    · subst last
      simp [joinLines]
    · rw [joinLines_cons last,List.mem_append,List.mem_cons,ih]
      simp [other]

theorem mem_iff_line {b : UInt8} {s : Bytes} (other : b ≠ lf) : b ∈ s ↔ ∃ line ∈ splitLines s, b ∈ line := by
  rw [← mem_joinLines other,joinLines_splitLines]

/-- `strings.ReplaceAll(s, "\r\n", "\n")` -/
def crlfToLf : Bytes → Bytes
  | a :: b :: rest => if a = cr ∧ b = lf then lf :: crlfToLf rest else a :: crlfToLf (b :: rest)
  | short => short

/-- `strings.ReplaceAll(s, "\r", "\n")` -/
def crToLf (s : Bytes) : Bytes := s.map fun b => if b = cr then lf else b

theorem cr_not_mem_crToLf (s : Bytes) : cr ∉ crToLf s := by
  intro member
  obtain ⟨b,-,same⟩ := List.mem_map.mp member
  split_ifs at same with isCr
  · exact absurd same (by decide)
  · exact isCr same

theorem crToLf_eq_self {s : Bytes} (none : cr ∉ s) : crToLf s = s := by
  refine (List.map_congr_left ?_).trans (List.map_id s)
  intro b member
  have other : b ≠ cr := by
    rintro rfl
    exact none member
  exact if_neg other

theorem crlfToLf_eq_self {s : Bytes} (none : cr ∉ s) : crlfToLf s = s := by
  induction s with
  | nil => rfl
  | cons a rest ih =>
    have later := ih fun member => none (List.mem_cons_of_mem _ member)
    cases rest with
    | nil => rfl
    | cons b rest =>
      have other : a ≠ cr := by
        rintro rfl
        exact none List.mem_cons_self
      rw [crlfToLf,if_neg fun both => other both.1,later]

end Cap.Lines
