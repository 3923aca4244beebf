import Cap.Runs

/-!
The slots of the Python dispatcher (`_dispatch_handler`, `_handler_finished`) and the shutdown that
waits for the handlers (`_await_handlers` under `_bounded_cleanup`). Dispatchers, handlers and the
task that cleans up interleave at their awaits.
-/
namespace Cap.PythonDispatch
open Cap.Runs

/-- A task that runs `_dispatch_handler`. -/
inductive Dispatcher where
  | waiting
  /-- It is no longer among the waiters, its task goes on. -/
  | left
  | ended
deriving DecidableEq

inductive Stage where
  | running
  /-- It returned, raised or ended cancelled; its callback is still to come. -/
  | finished
  /-- `_handler_finished` has given its slot back. -/
  | released
deriving DecidableEq

structure Task where
  stage : Stage
  cancelled : Bool
deriving DecidableEq

def Task.hasSlot (t : Task) : Bool := t.stage != .released

def Task.done (t : Task) : Bool := t.stage != .running

/-- Cancelling a task that is done does nothing. -/
def Task.cancel (t : Task) : Task := if t.done then t else ⟨.running,true⟩

def Task.settled (t : Task) : Bool := t.done || t.cancelled

inductive Closing where
  | no
  /-- `_await_handlers` is about to look at the tasks. -/
  | looking
  /-- It gathers dispatchers and handlers, and may be cancelled in that. -/
  | gathering (dispatchers handlers : List Nat) (cancelled : Bool)
  | over
deriving DecidableEq

structure State where
  free : Nat
  dispatchers : List Dispatcher
  tasks : List Task
  closing : Closing
  /-- The handlers that were gathered at some time. -/
  waited : List Nat
deriving DecidableEq

/-- `_normalize_max_parallel`, on integers. -/
def normalizeMaxParallel (value : Int) : Nat := (max 1 value).toNat

def init (maxParallel : Int) : State := ⟨normalizeMaxParallel maxParallel,[],[],.no,[]⟩

inductive Act where
  | deliver
  /-- The dispatcher gets a slot and makes a task. -/
  | create (i : Nat)
  /-- It is cancelled as it waits, or gives the slot back since making the task raises. -/
  | leave (i : Nat)
  | endDispatcher (i : Nat)
  | cancel (j : Nat)
  | finish (j : Nat)
  | release (j : Nat)
  | close
  | gather
  | gathered
  | timeout
  /-- The task that cleans up is cancelled. -/
  | interrupt
deriving DecidableEq

def State.dispatch (s : State) (i : Nat) (here there : Dispatcher) : Option State :=
  if s.dispatchers[i]? = some here then some { s with dispatchers := s.dispatchers.set i there } else none

def State.handle (s : State) (j : Nat) (stage : Stage) (change : Task → Task) : Option State :=
  (s.tasks[j]?.filter (·.stage == stage)).map fun task => { s with tasks := s.tasks.set j (change task) }

/-- `gather.cancel()` cancels what it gathers; a waiting dispatcher notices when it runs again. -/
def State.cancelAll (s : State) (handlers : List Nat) : State :=
  { s with tasks := s.tasks.mapIdx fun j task => if j ∈ handlers then task.cancel else task }

def State.indices (s : State) : List Nat × List Nat :=
  ((List.range s.dispatchers.length).filter (s.dispatchers[·]? = some .waiting),
    (List.range s.tasks.length).filter (s.tasks[·]?.any Task.hasSlot))

/-- `deadline` tells whether there is a `shutdown_timeout`. -/
def step (deadline : Bool) (s : State) : Act → Option State
  | .deliver =>
    if s.closing = .no then some { s with dispatchers := s.dispatchers ++ [.waiting] } else some s
  | .create i =>
    if 0 < s.free then
      (s.dispatch i .waiting .left).map fun t => { t with free := t.free - 1,tasks := t.tasks ++ [⟨.running,false⟩] }
    else none
  | .leave i => s.dispatch i .waiting .left
  | .endDispatcher i => s.dispatch i .left .ended
  | .cancel j => s.handle j .running Task.cancel
  | .finish j => s.handle j .running fun task => { task with stage := .finished }
  | .release j => (s.handle j .finished fun task => { task with stage := .released }).map fun t =>
      { t with free := t.free + 1 }
  | .close => if s.closing = .no then some { s with closing := .looking } else none
  | .gather =>
    match s.closing with
    | .looking =>
      let (dispatchers,handlers) := s.indices
      if dispatchers = [] ∧ handlers = [] then some { s with closing := .over }
      else some { s with closing := .gathering dispatchers handlers false,waited := s.waited ++ handlers }
    | _ => none
  | .gathered =>
    match s.closing with
    | .gathering dispatchers handlers cancelled =>
      if (∀ i ∈ dispatchers, s.dispatchers[i]? = some .ended) ∧ ∀ j ∈ handlers, s.tasks[j]?.any Task.done then
        some { s with closing := if cancelled then .over else .looking }
      else none
    | _ => none
  | .timeout =>
    if deadline then match s.closing with
      | .looking => some { s with closing := .over }
      | .gathering _ handlers _ => some { s.cancelAll handlers with closing := .over }
      | _ => none
    else none
  | .interrupt =>
    match s.closing with
    | .looking => some { s with closing := .over }
    | .gathering dispatchers handlers _ =>
      -- `asyncio.wait` leaves its task alone, awaiting the task itself cancels it
      if deadline then some { s with closing := .over }
      else some { s.cancelAll handlers with closing := .gathering dispatchers handlers true }
    | _ => none

/-! ### What the shutdown leaves -/

def State.Has (s : State) (p : Task → Bool) (j : Nat) : Prop := ∃ task, s.tasks[j]? = some task ∧ p task = true

/-- When the shutdown is over, the handlers it waited for are done or were cancelled. -/
def Settled (s : State) : Prop := s.closing = .over → ∀ j ∈ s.waited, s.Has Task.settled j

/-- Under a deadline, the task that cleans up is not cancelled as long as a handler it waits for
    runs on and was not cancelled itself. -/
def Undisturbed (deadline : Bool) (s : State) : Act → Prop
  | .interrupt => deadline = true → ∀ j ∈ s.waited, s.Has Task.settled j
  | _ => True

def State.stages (s : State) : List Stage := s.tasks.map Task.stage

/-- A slot is free, or some task has not given it back. -/
def Books (maxParallel : Nat) (s : State) : Prop := s.free + s.stages.countP (· != .released) = maxParallel

structure Inv (maxParallel : Nat) (s : State) : Prop where
  slots : Books maxParallel s
  waits : match s.closing with
    | .no | .looking => ∀ j ∈ s.waited, s.Has Task.done j
    | .gathering _ handlers _ => ∀ j ∈ s.waited, (j ∈ handlers ∧ s.Has (fun _ => true) j) ∨ s.Has Task.done j
    | .over => True

variable {maxParallel : Nat} {deadline : Bool} {s t : State} {act : Act} {j : Nat} {task later : Task}

/-- What a task may become. -/
structure Later (task later : Task) : Prop where
  done : task.done = true → later.done = true
  settled : task.settled = true → later.settled = true

def Onward (s t : State) : Prop := ∀ (j : Nat) (task : Task), s.tasks[j]? = some task →
  ∃ later, t.tasks[j]? = some later ∧ Later task later

private theorem Onward.has {p : Task → Bool} (onward : Onward s t)
    (kept : ∀ {task later : Task}, Later task later → p task = true → p later = true) (held : s.Has p j) : t.Has p j := by
  obtain ⟨task,found,fact⟩ := held
  obtain ⟨later,there,goes⟩ := onward j task found
  exact ⟨later,there,kept goes fact⟩

private theorem onward_refl (same : t.tasks = s.tasks) : Onward s t :=
  fun _ task found => ⟨task,same ▸ found,id,id⟩

private theorem settled_of_done (done : s.Has Task.done j) : s.Has Task.settled j := by
  obtain ⟨task,found,fact⟩ := done
  exact ⟨task,found,by simp [Task.settled,fact]⟩

@[simp] private theorem cancel_stage (task : Task) : task.cancel.stage = task.stage := by
  unfold Task.cancel Task.done
  split <;> simp_all

private theorem cancel_settled (task : Task) : task.cancel.settled = true := by
  unfold Task.cancel Task.settled
  split <;> simp_all

private theorem cancel_later (task : Task) : Later task task.cancel :=
  ⟨by simp [Task.done],fun _ => cancel_settled task⟩

private theorem handle_eq_some {stage : Stage} {change : Task → Task} (next : s.handle j stage change = some t) :
    ∃ task, s.tasks[j]? = some task ∧ task.stage = stage ∧ t = { s with tasks := s.tasks.set j (change task) } := by
  simp only [State.handle,Option.map_eq_some_iff,Option.filter_eq_some_iff,beq_iff_eq] at next
  obtain ⟨task,⟨found,stands⟩,rfl⟩ := next
  exact ⟨task,found,stands,rfl⟩

private theorem dispatch_eq_some {i : Nat} {here there : Dispatcher} (next : s.dispatch i here there = some t) :
    ∃ dispatchers, t = { s with dispatchers } := by
  simp only [State.dispatch] at next
  split_ifs at next
  cases next
  exact ⟨_,rfl⟩

private theorem onward_set (found : s.tasks[j]? = some task) (goes : Later task later)
    (changed : t.tasks = s.tasks.set j later) : Onward s t := by
  intro k other there
  rw [changed,List.getElem?_set]
  by_cases same : j = k
  · subst same
    obtain rfl := Option.some.inj (found.symm.trans there)
    exact ⟨later,by simp [(List.getElem?_eq_some_iff.mp found).1],goes⟩
  · exact ⟨other,by simp [same,there],id,id⟩

private theorem tasks_cancelAll (s : State) (handlers : List Nat) (j : Nat) :
    (s.cancelAll handlers).tasks[j]? = s.tasks[j]?.map fun task => if j ∈ handlers then task.cancel else task := by
  rw [State.cancelAll,List.getElem?_mapIdx]

private theorem onward_cancelAll (s : State) (handlers : List Nat) (closing : Closing) :
    Onward s { s.cancelAll handlers with closing } := by
  intro j task found
  refine ⟨_,by rw [tasks_cancelAll,found]; rfl,?_⟩
  split
  · exact cancel_later task
  · exact ⟨id,id⟩

private theorem Books.kept (books : Books maxParallel s) (stages : t.stages = s.stages) (free : t.free = s.free) :
    Books maxParallel t := by
  rw [Books,stages,free]
  exact books

private theorem Books.cancelAll (books : Books maxParallel s) (handlers : List Nat) {closing : Closing} :
    Books maxParallel { s.cancelAll handlers with closing } := by
  refine books.kept (List.ext_getElem? fun j => ?_) rfl
  rw [State.stages,State.stages,List.getElem?_map,tasks_cancelAll,List.getElem?_map,Option.map_map]
  congr 1
  funext task
  rw [Function.comp_apply]
  split <;> simp

private theorem Books.set {free : Nat} (books : Books maxParallel s) (found : s.tasks[j]? = some task)
    (slots : free + later.hasSlot.toNat = s.free + task.hasSlot.toNat) :
    Books maxParallel { s with tasks := s.tasks.set j later,free } := by
  have stands : s.stages[j]? = some task.stage := by simp [State.stages,found]
  have counted := @countP_set_add _ (· != .released) s.stages j task.stage later.stage stands
  rw [Books] at books
  rw [Books,State.stages,List.map_set,← State.stages]
  rw [Task.hasSlot,Task.hasSlot] at slots
  dsimp only at counted ⊢
  omega

private theorem Books.create (books : Books maxParallel s) (some : 0 < s.free) (dispatchers : List Dispatcher) :
    Books maxParallel { s with dispatchers,free := s.free - 1,tasks := s.tasks ++ [⟨.running,false⟩] } := by
  have stages : (s.tasks ++ [Task.mk .running false]).map Task.stage = s.stages ++ [.running] := by simp [State.stages]
  have one : [Stage.running].countP (· != .released) = 1 := rfl
  rw [Books] at books
  rw [Books,State.stages,stages,List.countP_append,one]
  simp only
  omega

/-- Dispatchers and handlers leave the shutdown alone. -/
private theorem work_inv (inv : Inv maxParallel s) (books : Books maxParallel t) (onward : Onward s t)
    (closing : t.closing = s.closing) (waited : t.waited = s.waited) : Inv maxParallel t ∧ (Settled s → (Settled t ↔ True)) := by
  refine ⟨⟨books,?_⟩,fun good => iff_of_true ?_ trivial⟩
  · have waits := inv.waits
    rw [closing,waited]
    split <;> simp_all only
    · exact fun j member => onward.has (·.done) (waits j member)
    · exact fun j member => onward.has (·.done) (waits j member)
    · exact fun j member => (waits j member).imp (fun both => ⟨both.1,onward.has (fun _ => id) both.2⟩) (onward.has (·.done))
  · intro ended j member
    rw [closing] at ended
    rw [waited] at member
    exact onward.has (·.settled) (good ended j member)

/-- What an action does: it keeps the books, and what the shutdown leaves is settled when the action
    does not disturb it and only then. -/
theorem step_spec (inv : Inv maxParallel s) (next : step deadline s act = some t) :
    Inv maxParallel t ∧ (Settled s → (Settled t ↔ Undisturbed deadline s act)) := by
  have books := inv.slots
  have waits := inv.waits
  cases act with simp only [step] at next
  | deliver =>
    split_ifs at next <;> cases next <;> exact work_inv inv (books.kept rfl rfl) (onward_refl rfl) rfl rfl
  | create i =>
    split_ifs at next with some
    obtain ⟨_,moved,rfl⟩ := Option.map_eq_some_iff.mp next
    obtain ⟨dispatchers,rfl⟩ := dispatch_eq_some moved
    refine work_inv inv (books.create some dispatchers) (fun j task found => ⟨task,?_,id,id⟩) rfl rfl
    exact (List.getElem?_append_left (List.getElem?_eq_some_iff.mp found).1).trans found
  | leave i | endDispatcher i =>
    obtain ⟨_,rfl⟩ := dispatch_eq_some next
    exact work_inv inv (books.kept rfl rfl) (onward_refl rfl) rfl rfl
  | cancel j =>
    obtain ⟨task,found,-,rfl⟩ := handle_eq_some next
    exact work_inv inv (books.set found (by simp [Task.hasSlot])) (onward_set found (cancel_later task) rfl) rfl rfl
  | finish j =>
    obtain ⟨task,found,running,rfl⟩ := handle_eq_some next
    exact work_inv inv (books.set found (by rw [Task.hasSlot,Task.hasSlot,running]; rfl))
      (onward_set found ⟨by simp [Task.done],by simp [Task.settled,Task.done]⟩ rfl) rfl rfl
  | release j =>
    obtain ⟨_,moved,rfl⟩ := Option.map_eq_some_iff.mp next
    obtain ⟨task,found,finished,rfl⟩ := handle_eq_some moved
    exact work_inv inv (books.set found (by rw [Task.hasSlot,Task.hasSlot,finished]; rfl))
      (onward_set found ⟨by simp [Task.done],by simp [Task.settled,Task.done]⟩ rfl) rfl rfl
  | close =>
    split_ifs at next with no
    cases next
    rw [no] at waits
    exact ⟨⟨books,waits⟩,fun _ => iff_of_true (by simp [Settled]) trivial⟩
  | gather =>
    split at next
    · rename_i looking
      rw [looking] at waits
      split_ifs at next
      · cases next
        exact ⟨⟨books,trivial⟩,fun _ => iff_of_true (fun _ j member => settled_of_done (waits j member)) trivial⟩
      · cases next
        refine ⟨⟨books,fun j member => ?_⟩,fun _ => iff_of_true (by simp [Settled]) trivial⟩
        rcases List.mem_append.mp member with before | gathered
        · exact .inr (waits j before)
        · have inside := List.mem_range.mp (List.mem_filter.mp gathered).1
          exact .inl ⟨gathered,_,List.getElem?_eq_getElem inside,rfl⟩
    · cases next
  | gathered =>
    split at next
    · rename_i dispatchers handlers cancelled gathering
      rw [gathering] at waits
      by_cases all : (∀ i ∈ dispatchers, s.dispatchers[i]? = some .ended) ∧ ∀ j ∈ handlers, s.tasks[j]?.any Task.done = true
      · rw [if_pos all] at next
        cases next
        have done : ∀ j ∈ s.waited, s.Has Task.done j := fun j member =>
          (waits j member).elim (fun both => (Option.any_eq_true _ _).mp (all.2 j both.1)) id
        refine ⟨⟨books,?_⟩,fun _ => iff_of_true (fun _ j member => settled_of_done (done j member)) trivial⟩
        cases cancelled
        · exact done
        · trivial
      · rw [if_neg all] at next
        cases next
    · cases next
  | timeout =>
    split_ifs at next
    split at next
    · rename_i looking
      cases next
      rw [looking] at waits
      exact ⟨⟨books,trivial⟩,fun _ => iff_of_true (fun _ j member => settled_of_done (waits j member)) trivial⟩
    · rename_i dispatchers handlers cancelled gathering
      cases next
      rw [gathering] at waits
      refine ⟨⟨books.cancelAll handlers,trivial⟩,fun _ => iff_of_true (fun _ j member => ?_) trivial⟩
      rcases waits j member with ⟨gathered,task,found,-⟩ | done
      · exact ⟨task.cancel,by simp [tasks_cancelAll,found,gathered],cancel_settled task⟩
      · exact settled_of_done ((onward_cancelAll s handlers .over).has (·.done) done)
    · cases next
  | interrupt =>
    split at next
    · rename_i looking
      cases next
      rw [looking] at waits
      have settled : ∀ j ∈ s.waited, s.Has Task.settled j := fun j member => settled_of_done (waits j member)
      exact ⟨⟨books,trivial⟩,fun _ => iff_of_true (fun _ => settled) fun _ => settled⟩
    · rename_i dispatchers handlers cancelled gathering
      rw [gathering] at waits
      split_ifs at next with timed
      · cases next
        exact ⟨⟨books,trivial⟩,fun _ => ⟨fun good _ => good rfl,fun fine _ => fine timed⟩⟩
      · cases next
        have onward := onward_cancelAll s handlers (.gathering dispatchers handlers true)
        refine ⟨⟨books.cancelAll handlers,fun j member => ?_⟩,fun _ => iff_of_true (by simp [Settled]) (by simp [Undisturbed,timed])⟩
        exact (waits j member).imp (fun both => ⟨both.1,onward.has (fun _ => id) both.2⟩) (onward.has (·.done))
    · cases next

private theorem init_inv (maxParallel : Int) : Inv (normalizeMaxParallel maxParallel) (init maxParallel) :=
  ⟨by simp [Books,init,State.stages],by simp [init]⟩

/-- In every interleaving: not more handlers run than there are slots, every slot is free or has one
    task, and comes back from it once; and what a shutdown waited for is done or cancelled all the
    time when it is over, exactly when it is never interrupted under a deadline with handlers running. -/
theorem slot_discipline {maxParallel : Int} {acts : List Act} (reached : run (step deadline) (init maxParallel) acts = some t) :
    t.stages.count .running ≤ normalizeMaxParallel maxParallel ∧
    t.free + t.stages.countP (· != .released) = normalizeMaxParallel maxParallel ∧
    (Always (step deadline) Settled (init maxParallel) acts ↔ Every (step deadline) (Undisturbed deadline) (init maxParallel) acts) := by
  have inv := invariant (fun _ _ _ inv next => (step_spec inv next).1) (init_inv maxParallel) reached
  refine ⟨?_,inv.slots,?_⟩
  · have fewer : t.stages.count .running ≤ t.stages.countP (· != .released) :=
      List.countP_mono_left fun stage _ running => by simp [beq_iff_eq.mp running]
    have slots : t.free + t.stages.countP (· != .released) = normalizeMaxParallel maxParallel := inv.slots
    omega
  · exact always_iff_every (fun _ _ _ inv next => (step_spec inv next).1)
      (fun _ _ _ inv good next => (step_spec inv next).2 good) (init_inv maxParallel) (by simp [Settled,init]) reached

namespace Samples

/-- A handler runs while the agent shuts down under a deadline. -/
def running : List Act := [.deliver,.create 0,.close,.gather]

/-- The task that cleans up is cancelled, and the handler is left to run. -/
theorem interrupted_leaves_handler : (run (step true) (init 1) (running ++ [.interrupt])).any
    (fun s => s.closing = .over ∧ s.waited = [0] ∧ s.tasks = [⟨.running,false⟩]) = true := by
  decide

def timedOut : List Act := running ++ [.timeout,.finish 0,.release 0]

theorem timedOut_settled : Always (step true) Settled (init 1) timedOut := by
  have reached : (run (step true) (init 1) timedOut).isSome = true := by decide
  obtain ⟨t,reached⟩ := Option.isSome_iff_exists.mp reached
  exact (slot_discipline reached).2.2.mpr (by simp [timedOut,running,Every,Undisturbed])

end Samples

end Cap.PythonDispatch
