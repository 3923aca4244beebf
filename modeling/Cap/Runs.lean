import Mathlib.Data.List.Basic
import Mathlib.Data.Option.Basic

/-!
Runs of a system given by a partial step function. An action is either not enabled in a state or
leads to one next state; a run takes the actions of a list in order.
-/
namespace Cap.Runs

variable {σ α : Type*} {step : σ → α → Option σ}

/-- The state after the actions in order, or nothing when one of them is not enabled. -/
def run (step : σ → α → Option σ) : σ → List α → Option σ
  | s, [] => some s
  | s, a :: rest => (step s a).bind fun t => run step t rest

/-- Every action of the run is taken in a state where the condition allows it. -/
def Every (step : σ → α → Option σ) (P : σ → α → Prop) : σ → List α → Prop
  | _, [] => True
  | s, a :: rest => P s a ∧ ∀ t ∈ step s a, Every step P t rest

@[simp] theorem run_nil (s : σ) : run step s [] = some s := rfl
theorem run_cons (s : σ) (a : α) (rest : List α) :
    run step s (a :: rest) = (step s a).bind fun t => run step t rest := rfl
@[simp] theorem every_nil (P : σ → α → Prop) (s : σ) : Every step P s [] := trivial

theorem run_cons_eq_some {s t : σ} {a : α} {rest : List α} :
    run step s (a :: rest) = some t ↔ ∃ m, step s a = some m ∧ run step m rest = some t := by
  rw [run_cons,Option.bind_eq_some_iff]

theorem run_append (s : σ) (xs ys : List α) :
    run step s (xs ++ ys) = (run step s xs).bind fun t => run step t ys := by
  induction xs generalizing s with
  | nil => rfl
  | cons a rest ih =>
    rw [List.cons_append,run_cons,run_cons,Option.bind_assoc]
    exact congrArg _ (funext ih)

theorem run_snoc_eq_some {s t : σ} {a : α} {acts : List α} :
    run step s (acts ++ [a]) = some t ↔ ∃ m, run step s acts = some m ∧ step m a = some t := by
  simp [run_append,run_cons,Option.bind_eq_some_iff]

theorem every_true (s : σ) (acts : List α) : Every step (fun _ _ => True) s acts := by
  induction acts generalizing s with
  | nil => trivial
  | cons a rest ih => exact ⟨trivial,fun t _ => ih t⟩

theorem Every.and {P Q : σ → α → Prop} {s : σ} {acts : List α} (first : Every step P s acts)
    (second : Every step Q s acts) : Every step (fun s a => P s a ∧ Q s a) s acts := by
  induction acts generalizing s with
  | nil => trivial
  | cons a rest ih => exact ⟨⟨first.1,second.1⟩,fun t next => ih (first.2 t next) (second.2 t next)⟩

/-- What holds at the start and survives every step holds at the end of every run. -/
theorem invariant {Inv : σ → Prop} (keeps : ∀ s a t, Inv s → step s a = some t → Inv t)
    {s t : σ} {acts : List α} (start : Inv s) (reached : run step s acts = some t) : Inv t := by
  induction acts generalizing s with
  | nil =>
    obtain rfl : s = t := by simpa using reached
    exact start
  | cons a rest ih =>
    obtain ⟨m,first,later⟩ := run_cons_eq_some.mp reached
    exact ih (keeps s a m start first) later

/-- A state predicate that records, step by step, whether the condition was met so far
    decides whether the whole run kept to the condition. The steps may be restricted to
    those that an assumption about the environment allows. -/
theorem every_iff_of_tracks {P G : σ → α → Prop} {Inv Q : σ → Prop}
    (keeps : ∀ s a t, Inv s → step s a = some t → Inv t)
    (tracks : ∀ s a t, Inv s → G s a → step s a = some t → (Q t ↔ Q s ∧ P s a))
    {s t : σ} {acts : List α} (start : Inv s) (assumed : Every step G s acts) (reached : run step s acts = some t) :
    Q t ↔ Q s ∧ Every step P s acts := by
  induction acts generalizing s with
  | nil =>
    obtain rfl : s = t := by simpa using reached
    simp
  | cons a rest ih =>
    obtain ⟨m,first,later⟩ := run_cons_eq_some.mp reached
    rw [ih (keeps s a m start first) (assumed.2 m first) later,tracks s a m start assumed.1 first]
    simp [Every,first,and_assoc]

/-- Every state of the run is good, the first and the last one included. -/
def Always (step : σ → α → Option σ) (Good : σ → Prop) : σ → List α → Prop
  | s, [] => Good s
  | s, a :: rest => Good s ∧ ∀ t ∈ step s a, Always step Good t rest

theorem Always.head {Good : σ → Prop} {s : σ} {acts : List α} (always : Always step Good s acts) : Good s := by
  cases acts with
  | nil => exact always
  | cons a rest => exact always.1

/-- An invariant that only the allowed actions keep holds all along a run that keeps to them. -/
theorem always_of_every {P : σ → α → Prop} {Inv Good : σ → Prop}
    (keeps : ∀ s a t, Inv s → P s a → step s a = some t → Inv t) (good : ∀ s, Inv s → Good s)
    {s : σ} {acts : List α} (start : Inv s) (holds : Every step P s acts) : Always step Good s acts := by
  induction acts generalizing s with
  | nil => exact good s start
  | cons a rest ih => exact ⟨good s start,fun t next => ih (keeps s a t start holds.1 next) (holds.2 t next)⟩

/-- When only the allowed actions keep to good states, a run stays good exactly when all its actions are allowed. -/
theorem always_iff_allowed {P : σ → α → Prop} {Inv Good : σ → Prop}
    (keeps : ∀ s a t, Inv s → P s a → step s a = some t → Inv t) (good : ∀ s, Inv s → Good s)
    (forced : ∀ s a, Inv s → (∀ t ∈ step s a, Good t) → P s a) {s : σ} {acts : List α} (start : Inv s) :
    Always step Good s acts ↔ Every step P s acts := by
  refine ⟨fun always => ?_,always_of_every keeps good start⟩
  induction acts generalizing s with
  | nil => trivial
  | cons a rest ih =>
    have allowed := forced s a start fun t next => (always.2 t next).head
    exact ⟨allowed,fun t next => ih (keeps s a t start allowed next) (always.2 t next)⟩

/-- When an action leads from a good state to a good one exactly under the condition, a run stays
    good exactly when all its actions keep to the condition. -/
theorem always_iff_every {P : σ → α → Prop} {Inv Good : σ → Prop}
    (keeps : ∀ s a t, Inv s → step s a = some t → Inv t)
    (good : ∀ s a t, Inv s → Good s → step s a = some t → (Good t ↔ P s a))
    {s t : σ} {acts : List α} (start : Inv s) (fine : Good s) (reached : run step s acts = some t) :
    Always step Good s acts ↔ Every step P s acts := by
  induction acts generalizing s with
  | nil => simp [Always,fine]
  | cons a rest ih =>
    obtain ⟨m,first,later⟩ := run_cons_eq_some.mp reached
    have next := good s a m start fine first
    simp only [Always,Every,first,Option.mem_def,Option.some.injEq,forall_eq',fine,true_and]
    constructor
    · intro always
      have onward := ih (keeps s a m start first) always.head later
      exact ⟨next.mp always.head,onward.mp always⟩
    · rintro ⟨allowed,every⟩
      have onward := ih (keeps s a m start first) (next.mpr allowed) later
      exact onward.mpr every

instance Every.decidable (P : σ → α → Prop) [∀ s a, Decidable (P s a)] :
    ∀ s acts, Decidable (Every step P s acts)
  | _,[] => isTrue trivial
  | s,a :: rest => match next : step s a with
    | none => decidable_of_iff (P s a) (by simp [Every,next])
    | some t =>
      have := Every.decidable P t rest
      decidable_of_iff (P s a ∧ Every step P t rest) (by simp [Every,next])

/-- One component of a state moves: what is counted changes by what holds of it before and after. -/
theorem countP_set_add (p : α → Bool) {parts : List α} {i : Nat} {here there : α} (stands : parts[i]? = some here) :
    (parts.set i there).countP p + (p here).toNat = parts.countP p + (p there).toNat := by
  obtain ⟨bound,rfl⟩ := List.getElem?_eq_some_iff.mp stands
  have one : (if p parts[i] then 1 else 0) ≤ parts.countP p := List.boole_getElem_le_countP bound
  rw [List.countP_set bound]
  cases before : p parts[i] <;> cases p there <;>
    simp only [before,reduceIte,Bool.false_eq_true,Bool.toNat_true,Bool.toNat_false] at one ⊢ <;> omega

end Cap.Runs
