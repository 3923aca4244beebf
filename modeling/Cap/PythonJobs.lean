import Mathlib.Data.Finset.Card
import Cap.Runs

/-!
The jobs of the Python agent (`_dispatch_handler`, `_on_msg`) and the load that its default
heartbeat reports, the size of the set of jobs. Every message waits for a slot and then gets a
task; tasks interleave at their awaits.
-/
namespace Cap.PythonJobs
open Cap.Runs

/-- The awaits of `_on_msg`. -/
inductive Phase where
  | fetching
  /-- The middlewares and the handler run for the time that is given. -/
  | attempting (attempt : Nat)
  | writing
  | publishing
  | failing
deriving DecidableEq

def Phase.follows : Phase → Phase → Bool
  | .fetching,.failing | .fetching,.attempting 0 => true
  | .attempting attempt,.attempting next => next = attempt + 1
  | .attempting _,.failing | .attempting _,.writing => true
  | .writing,.failing | .writing,.publishing => true
  | _,_ => false

inductive Task where
  | created
  | handling (jobId : String) (phase : Phase)
  | finished
  /-- `_handler_finished` has given its slot back. -/
  | released
deriving DecidableEq

def Task.job? : Task → Option String
  | .handling jobId _ => some jobId
  | .created | .finished | .released => none

structure State where
  /-- The messages that wait for a slot. -/
  waiting : Nat
  free : Nat
  tasks : List Task
  active : Finset String

def init (maxParallel : Nat) : State := ⟨0,maxParallel,[],∅⟩

/-- The jobs of the handler executions in progress, one entry for each execution. -/
def State.executions (s : State) : List String := s.tasks.filterMap Task.job?

def State.activeJobs (s : State) : Nat := s.active.card

inductive Act where
  | deliver
  /-- A message gets a slot and a task. -/
  | acquire
  /-- The task decodes its message: the identifier of the job when the packet is admitted. The
      store may be missing. -/
  | begin (i : Nat) (admitted : Option String) (store : Bool)
  /-- The task comes to its next await. -/
  | proceed (i : Nat) (phase : Phase)
  /-- The task returns or raises, or is cancelled; in any case its job leaves the set. -/
  | finish (i : Nat)
  | release (i : Nat)
deriving DecidableEq

def step (s : State) : Act → Option State
  | .deliver => some { s with waiting := s.waiting + 1 }
  | .acquire =>
    if 0 < s.waiting ∧ 0 < s.free then
      some { s with waiting := s.waiting - 1,free := s.free - 1,tasks := s.tasks ++ [.created] }
    else none
  | .begin i admitted store =>
    if s.tasks[i]? = some .created then
      match admitted with
      | none | some "" => some { s with tasks := s.tasks.set i .finished }
      | some jobId =>
        if store then some { s with tasks := s.tasks.set i (.handling jobId .fetching),active := insert jobId s.active }
        else some { s with tasks := s.tasks.set i .finished,active := (insert jobId s.active).erase jobId }
    else none
  | .proceed i next =>
    match s.tasks[i]? with
    | some (.handling jobId phase) =>
      if phase.follows next then some { s with tasks := s.tasks.set i (.handling jobId next) } else none
    | _ => none
  | .finish i =>
    match s.tasks[i]? with
    | some (.handling jobId _) => some { s with tasks := s.tasks.set i .finished,active := s.active.erase jobId }
    | _ => none
  | .release i =>
    if s.tasks[i]? = some .finished then some { s with tasks := s.tasks.set i .released,free := s.free + 1 } else none

/-- The heartbeat reports the true load. -/
def Honest (s : State) : Prop := s.activeJobs = s.executions.length
deriving Decidable

/-- The job that an admitted packet names is not being handled already. -/
def Fresh (s : State) : Act → Prop
  | .begin _ (some jobId) _ => jobId ≠ "" → jobId ∉ s.executions
  | _ => True

instance (s : State) (act : Act) : Decidable (Fresh s act) := by
  unfold Fresh
  split <;> infer_instance

/-! ### The set and the executions -/

/-- Every job in the set is being handled. -/
def Inv (s : State) : Prop := ∀ jobId ∈ s.active,jobId ∈ s.executions

variable {s : State}

/-- The execution of a task among the others, and what they are when the task goes on. -/
theorem exists_split {i : Nat} {task : Task} (found : s.tasks[i]? = some task) :
    ∃ before after,s.executions = before ++ task.job?.toList ++ after ∧
      ∀ next,(s.tasks.set i next).filterMap Task.job? = before ++ next.job?.toList ++ after := by
  obtain ⟨bound,rfl⟩ := List.getElem?_eq_some_iff.mp found
  have single : ∀ task : Task,[task].filterMap Task.job? = task.job?.toList := fun task => by
    cases job : task.job? <;> simp [job]
  refine ⟨(s.tasks.take i).filterMap Task.job?,(s.tasks.drop (i + 1)).filterMap Task.job?,?_,?_⟩
  · rw [← single,← List.filterMap_append,← List.filterMap_append,List.append_assoc,List.singleton_append,
      List.getElem_cons_drop,List.take_append_drop]
    rfl
  · intro next
    rw [List.set_eq_take_append_cons_drop,if_pos bound,← single,← List.filterMap_append,← List.filterMap_append,
      List.append_assoc,List.singleton_append]

/-- When the report is honest, no job is handled twice and the set is exactly those handled. -/
theorem Inv.exact (inv : Inv s) (honest : Honest s) :
    s.executions.Nodup ∧ ∀ jobId,jobId ∈ s.active ↔ jobId ∈ s.executions := by
  have subset : s.active ⊆ s.executions.toFinset := fun jobId active => List.mem_toFinset.mpr (inv jobId active)
  have fewer : s.executions.toFinset.card ≤ s.active.card := (List.toFinset_card_le _).trans (le_of_eq honest.symm)
  have same : s.active = s.executions.toFinset := Finset.eq_of_subset_of_card_le subset fewer
  refine ⟨?_,fun jobId => by rw [same,List.mem_toFinset]⟩
  have all : s.executions.toFinset.card = s.executions.length := same ▸ honest
  exact Multiset.coe_nodup.mp (Multiset.toFinset_card_eq_card_iff_nodup.mp all)

variable {t : State}

theorem kept_spec (executions : t.executions = s.executions) (active : t.active = s.active) (inv : Inv s) :
    Inv t ∧ (Honest s → (Honest t ↔ True)) := by
  refine ⟨?_,fun honest => iff_of_true ?_ trivial⟩
  · intro jobId held
    rw [executions]
    exact inv jobId (active ▸ held)
  · rw [Honest,executions,State.activeJobs,active]
    exact honest

variable {jobId : String}

theorem started_spec (executions : t.executions.Perm (jobId :: s.executions))
    (active : t.active = insert jobId s.active) (inv : Inv s) :
    Inv t ∧ (Honest s → (Honest t ↔ jobId ∉ s.executions)) := by
  refine ⟨?_,fun honest => ?_⟩
  · intro other held
    rw [active,Finset.mem_insert] at held
    refine executions.mem_iff.mpr (List.mem_cons.mpr ?_)
    exact held.imp_right (inv other)
  · have before : s.active.card = s.executions.length := honest
    rw [Honest,State.activeJobs,active,executions.length_eq,List.length_cons,← (inv.exact honest).2 jobId]
    by_cases held : jobId ∈ s.active
    · simp only [Finset.insert_eq_of_mem held,held,not_true_eq_false,iff_false]
      omega
    · simp [before,held]

theorem ended_spec (executions : s.executions.Perm (jobId :: t.executions))
    (active : t.active = s.active.erase jobId) (inv : Inv s) : Inv t ∧ (Honest s → (Honest t ↔ True)) := by
  refine ⟨?_,fun honest => iff_of_true ?_ trivial⟩
  · intro other held
    rw [active,Finset.mem_erase] at held
    exact (List.mem_cons.mp (executions.mem_iff.mp (inv other held.2))).resolve_left held.1
  · have before : s.active.card = s.executions.length := honest
    have held : jobId ∈ s.active := ((inv.exact honest).2 jobId).mpr (executions.mem_iff.mpr (List.mem_cons_self ..))
    rw [Honest,State.activeJobs,active,Finset.card_erase_of_mem held,before,executions.length_eq,List.length_cons,
      Nat.add_sub_cancel]

theorem dropped_spec (executions : t.executions = s.executions)
    (active : t.active = (insert jobId s.active).erase jobId) (inv : Inv s) :
    Inv t ∧ (Honest s → (Honest t ↔ jobId ∉ s.executions)) := by
  rw [Finset.erase_insert_eq_erase] at active
  refine ⟨?_,fun honest => ?_⟩
  · intro other held
    rw [active] at held
    rw [executions]
    exact inv other (Finset.mem_of_mem_erase held)
  · have before : s.active.card = s.executions.length := honest
    rw [Honest,State.activeJobs,active,executions,← (inv.exact honest).2 jobId,← before]
    constructor
    · intro same held
      have fewer := Finset.card_erase_lt_of_mem held
      omega
    · intro absent
      rw [Finset.erase_eq_of_notMem absent]

theorem begin_spec {i : Nat} {admitted : Option String} {store : Bool} (inv : Inv s)
    (next : step s (.begin i admitted store) = some t) :
    Inv t ∧ (Honest s → (Honest t ↔ Fresh s (.begin i admitted store))) := by
  simp only [step] at next
  split at next
  · rename_i created
    obtain ⟨before,after,executions,later⟩ := exists_split created
    have ended : (s.tasks.set i .finished).filterMap Task.job? = s.executions := (later .finished).trans executions.symm
    split at next
    · cases next
      exact kept_spec ended rfl inv
    · cases next
      have kept := kept_spec (t := { s with tasks := s.tasks.set i .finished }) ended rfl inv
      exact ⟨kept.1,fun honest => (kept.2 honest).trans (by simp [Fresh])⟩
    · rename_i jobId named
      have named : jobId ≠ "" := fun empty => named (by rw [empty])
      simp only [Fresh,named,ne_eq,not_false_eq_true,true_implies]
      cases store with
      | true =>
        cases next
        refine started_spec ?_ rfl inv
        rw [executions,State.executions,later (.handling jobId .fetching)]
        simp [Task.job?]
      | false =>
        cases next
        exact dropped_spec ended rfl inv
  · cases next

/-- What an action does: it keeps the invariant, and it keeps the report honest when the job it
    begins with is a fresh one and only then. -/
theorem step_spec {act : Act} (inv : Inv s) (next : step s act = some t) :
    Inv t ∧ (Honest s → (Honest t ↔ Fresh s act)) := by
  cases act with simp only [step] at next
  | deliver =>
    cases next
    exact kept_spec rfl rfl inv
  | acquire =>
    split_ifs at next
    cases next
    exact kept_spec (by simp [State.executions,Task.job?]) rfl inv
  | begin i admitted store => exact begin_spec inv next
  | proceed i phase =>
    split at next
    · rename_i jobId now found
      split_ifs at next
      cases next
      obtain ⟨before,after,executions,later⟩ := exists_split found
      exact kept_spec ((later _).trans executions.symm) rfl inv
    · cases next
  | finish i =>
    split at next
    · rename_i jobId phase found
      cases next
      obtain ⟨before,after,executions,later⟩ := exists_split found
      refine ended_spec ?_ rfl inv
      rw [executions,State.executions,later .finished]
      simp [Task.job?]
    · cases next
  | release i =>
    split_ifs at next with found
    cases next
    obtain ⟨before,after,executions,later⟩ := exists_split found
    exact kept_spec ((later _).trans executions.symm) rfl inv

/-- In every interleaving, the heartbeat reports the true load all the time exactly when no job
    begins while it is being handled already. -/
theorem load_honest_iff {maxParallel : Nat} {acts : List Act} {t : State}
    (reached : run step (init maxParallel) acts = some t) :
    Always step Honest (init maxParallel) acts ↔ Every step Fresh (init maxParallel) acts :=
  always_iff_every (fun _ _ _ inv next => (step_spec inv next).1) (fun _ _ _ inv honest next => (step_spec inv next).2 honest)
    (by simp [Inv,init]) rfl reached

namespace Samples

/-- Two messages with a slot each. -/
def two : List Act := [.deliver,.deliver,.acquire,.acquire]

/-- A message is delivered twice, and one of its executions ends. -/
def repeated : List Act := two ++ [.begin 0 (some "job") true,.begin 1 (some "job") true,.finish 0]

def distinct : List Act :=
  two ++ [.begin 0 (some "first") true,.begin 1 (some "second") true,.proceed 0 (.attempting 0),.proceed 0 .writing,
    .proceed 1 .failing,.finish 1,.proceed 0 .publishing,.finish 0,.release 0,.release 1]

theorem repeated_unreported :
    (run step (init 2) repeated).any (fun s => s.activeJobs = 0 ∧ s.executions = ["job"]) = true := by
  decide

theorem distinct_reported : Always step Honest (init 2) distinct := by
  have reached : (run step (init 2) distinct).isSome = true := by decide
  obtain ⟨t,reached⟩ := Option.isSome_iff_exists.mp reached
  exact (load_honest_iff reached).mpr (by decide)

end Samples

end Cap.PythonJobs
