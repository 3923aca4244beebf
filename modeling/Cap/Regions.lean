import Mathlib.Data.List.Basic
import Mathlib.Tactic.Common

/-!
Documents with protected regions. A document is well marked when it is made of plain lines and of
regions, each an opening line, plain lines and a closing line.
-/
namespace Cap.Regions

inductive Kind (ι : Type) where
  | opening (id : ι)
  | closing
  | plain
deriving DecidableEq

inductive Segment (α ι : Type) where
  | line (text : α)
  | region (first : α) (id : ι) (inner : List α) (last : α)

variable {α ι : Type}

namespace Segment

def lines : Segment α ι → List α
  | line text => [text]
  | region first _ inner last => first :: (inner ++ [last])

def id? : Segment α ι → Option ι
  | line _ => none
  | region _ id _ _ => some id

/-- The lines are of the kinds that their places say. -/
def Sound (kind : α → Kind ι) : Segment α ι → Prop
  | line text => kind text = .plain
  | region first id inner last =>
    kind first = .opening id ∧ (∀ text ∈ inner, kind text = .plain) ∧ kind last = .closing

def refill (fill : ι → List α) : Segment α ι → Segment α ι
  | line text => line text
  | region first id _ last => region first id (fill id) last

end Segment

def flatten (doc : List (Segment α ι)) : List α := doc.flatMap Segment.lines

def ids (doc : List (Segment α ι)) : List ι := doc.filterMap Segment.id?

/-- Well marked, each name naming one region. -/
structure WellMarked (kind : α → Kind ι) (doc : List (Segment α ι)) : Prop where
  sound : ∀ segment ∈ doc, segment.Sound kind
  distinct : (ids doc).Nodup

def refillAll (fill : ι → List α) (doc : List (Segment α ι)) : List (Segment α ι) := doc.map (Segment.refill fill)

/-- The document without the contents of its regions. -/
def frames (doc : List (Segment α ι)) : List (Segment α ι) := refillAll (fun _ => []) doc

variable {kind : α → Kind ι} {fill : ι → List α} {doc : List (Segment α ι)} {segment : Segment α ι}

@[simp] theorem flatten_nil : flatten ([] : List (Segment α ι)) = [] := rfl

@[simp] theorem flatten_cons : flatten (segment :: doc) = segment.lines ++ flatten doc := rfl

@[simp] theorem flatten_append {more : List (Segment α ι)} : flatten (doc ++ more) = flatten doc ++ flatten more :=
  List.flatMap_append

@[simp] theorem ids_nil : ids ([] : List (Segment α ι)) = [] := rfl

@[simp] theorem ids_line {text : α} : ids (.line text :: doc) = ids doc := rfl

@[simp] theorem ids_region {first last : α} {id : ι} {inner : List α} :
    ids (.region first id inner last :: doc) = id :: ids doc := rfl

@[simp] theorem ids_append {more : List (Segment α ι)} : ids (doc ++ more) = ids doc ++ ids more := List.filterMap_append

@[simp] theorem Segment.refill_refill : (segment.refill fill).refill fill = segment.refill fill := by
  cases segment with
  | line text | region first id inner last => rfl

@[simp] theorem refillAll_refillAll : refillAll fill (refillAll fill doc) = refillAll fill doc := by
  simp [refillAll]

@[simp] theorem ids_refillAll : ids (refillAll fill doc) = ids doc := by
  induction doc with
  | nil => rfl
  | cons segment doc ih =>
    cases segment with
    | line text => exact ih
    | region first id inner last => exact congrArg (id :: ·) ih

@[simp] theorem frames_refillAll : frames (refillAll fill doc) = frames doc := by
  rw [frames,refillAll,refillAll,List.map_map]
  refine List.map_congr_left fun segment _ => ?_
  cases segment with
  | line text | region first id inner last => rfl

@[simp] theorem flatten_eq_nil : flatten doc = [] ↔ doc = [] := by
  cases doc with
  | nil => simp
  | cons segment doc => cases segment <;> simp [Segment.lines]

@[simp] theorem refillAll_eq_nil : refillAll fill doc = [] ↔ doc = [] := List.map_eq_nil_iff

theorem mem_refillAll {text : α} (member : text ∈ flatten (refillAll fill doc)) :
    text ∈ flatten doc ∨ ∃ id ∈ ids doc, text ∈ fill id := by
  obtain ⟨new,among,inside⟩ := List.mem_flatMap.mp member
  obtain ⟨old,member,rfl⟩ := List.mem_map.mp among
  cases old with
  | line text => exact .inl (List.mem_flatMap.mpr ⟨_,member,inside⟩)
  | region first id inner last =>
    simp only [Segment.refill,Segment.lines,List.mem_cons,List.mem_append,List.not_mem_nil,or_false] at inside
    rcases inside with rfl | new | rfl
    · exact .inl (List.mem_flatMap.mpr ⟨_,member,by simp [Segment.lines]⟩)
    · exact .inr ⟨id,List.mem_filterMap.mpr ⟨_,member,rfl⟩,new⟩
    · exact .inl (List.mem_flatMap.mpr ⟨_,member,by simp [Segment.lines]⟩)

theorem mem_refillAll_of_fill {id : ι} {text : α} (named : id ∈ ids doc) (member : text ∈ fill id) :
    text ∈ flatten (refillAll fill doc) := by
  obtain ⟨segment,among,name⟩ := List.mem_filterMap.mp named
  refine List.mem_flatMap.mpr ⟨segment.refill fill,List.mem_map_of_mem among,?_⟩
  cases segment with
  | line text => cases name
  | region first other inner last =>
    obtain rfl := Option.some.inj name
    simp [Segment.refill,Segment.lines,member]

theorem WellMarked.refillAll (marked : WellMarked kind doc) (plain : ∀ id ∈ ids doc, ∀ text ∈ fill id, kind text = .plain) :
    WellMarked kind (refillAll fill doc) := by
  refine ⟨?_,by rw [ids_refillAll]; exact marked.distinct⟩
  intro segment member
  obtain ⟨old,among,rfl⟩ := List.mem_map.mp member
  have sound := marked.sound old among
  cases old with
  | line text => exact sound
  | region first id inner last =>
    have named : id ∈ ids doc := List.mem_filterMap.mpr ⟨_,among,rfl⟩
    exact ⟨sound.1,plain id named,sound.2.2⟩

theorem mem_ids_iff (sound : ∀ segment ∈ doc, segment.Sound kind) {id : ι} :
    id ∈ ids doc ↔ ∃ text ∈ flatten doc, kind text = .opening id := by
  induction doc with
  | nil => simp
  | cons segment doc ih =>
    have later := ih fun s member => sound s (List.mem_cons_of_mem _ member)
    have here := sound segment List.mem_cons_self
    cases segment with
    | line text =>
      have plain : kind text = .plain := here
      simp [Segment.lines,later,plain]
    | region first name inner last =>
      obtain ⟨opens,plain,closes⟩ := here
      have none : ¬ ∃ text ∈ inner, kind text = .opening id := by
        rintro ⟨text,member,opening⟩
        rw [plain text member] at opening
        contradiction
      simp only [ids_region,List.mem_cons,later,flatten_cons,Segment.lines,List.cons_append,List.mem_append,
        List.append_assoc,or_and_right,exists_or,exists_eq_left,opens,closes,Kind.opening.injEq,none,false_or,
        reduceCtorEq,List.nil_append]
      rw [eq_comm]

theorem opening_mem_refillAll (sound : ∀ segment ∈ doc, segment.Sound kind) {id : ι} (named : id ∈ ids doc) :
    ∃ text ∈ flatten (refillAll fill doc), kind text = .opening id := by
  obtain ⟨segment,among,name⟩ := List.mem_filterMap.mp named
  have here := sound segment among
  cases segment with
  | line text => cases name
  | region first other inner last =>
    obtain rfl := Option.some.inj name
    refine ⟨first,List.mem_flatMap.mpr ⟨_,List.mem_map_of_mem among,?_⟩,here.1⟩
    simp [Segment.refill,Segment.lines]

section
variable [DecidableEq ι]

def marks (kind : α → Kind ι) (texts : List α) : Nat := texts.countP fun text => kind text ≠ .plain

theorem marks_eq_zero {texts : List α} : marks kind texts = 0 ↔ ∀ text ∈ texts, kind text = .plain := by
  simp [marks]

theorem marks_append (texts more : List α) : marks kind (texts ++ more) = marks kind texts + marks kind more :=
  List.countP_append

theorem marks_region {first last : α} {id : ι} (opens : kind first = .opening id) (closes : kind last = .closing)
    (inner : List α) : marks kind (Segment.region first id inner last).lines = marks kind inner + 2 := by
  simp [marks,Segment.lines,opens,closes]

/-- Contents that hold a mark bring more marks into the document. -/
theorem marks_refillAll (fill : ι → List α) (sound : ∀ segment ∈ doc, segment.Sound kind) :
    marks kind (flatten (refillAll fill doc)) =
      marks kind (flatten doc) + marks kind ((ids doc).flatMap fill) := by
  induction doc with
  | nil => rfl
  | cons segment doc ih =>
    have later := ih fun s member => sound s (List.mem_cons_of_mem _ member)
    have here := sound segment List.mem_cons_self
    have step : refillAll fill (segment :: doc) = segment.refill fill :: refillAll fill doc := rfl
    rw [step,flatten_cons,flatten_cons,marks_append,marks_append,later]
    cases segment with
    | line text => rw [Segment.refill,ids_line,Nat.add_assoc]
    | region first id inner last =>
      obtain ⟨opens,plain,closes⟩ := here
      rw [Segment.refill,marks_region opens closes,marks_region opens closes,marks_eq_zero.mpr plain,ids_region,
        List.flatMap_cons,marks_append]
      omega

/-- A document that its own contents leave unchanged holds no marks in them. -/
theorem plain_of_refillAll_eq (sound : ∀ segment ∈ doc, segment.Sound kind)
    (same : flatten (refillAll fill doc) = flatten doc) : ∀ id ∈ ids doc, ∀ text ∈ fill id, kind text = .plain := by
  have counted := marks_refillAll fill sound
  rw [same] at counted
  have none := marks_eq_zero.mp (show marks kind ((ids doc).flatMap fill) = 0 by omega)
  exact fun id named text inside => none text (List.mem_flatMap.mpr ⟨id,named,inside⟩)

end

end Cap.Regions
