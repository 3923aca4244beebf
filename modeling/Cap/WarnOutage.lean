import Cap.NodeLifecycle
import Cap.PythonLifecycle

/-!
Warn mode through outages of the transport, in Node and in Python. A renewal that fails for want
of the transport only makes the loop wait; but the loop also fails when it finds no live session
to renew, and that stops the admission of jobs in warn mode as well.
-/
namespace Cap.Trust
open Cap.Text Cap.Wire Cap.Checks Cap.Runs

namespace Node.Tasks

/-- Exchanges fail only because the transport is unavailable. -/
def Outage (_ : State) : Act → Prop
  | .settle (.error failure) => failure.isOperational = true
  | _ => True

/-- The loop finds a live session when it is about to renew it, and again when its turn comes. -/
def Live (s : State) : Act → Prop
  | .wake => s.loop = .sleep → s.lifecycle.closed = false → s.active.lifecycle.token ≠ ""
  | .begin => ∀ work ∈ s.queue.head?, work.caller = .loop → s.lifecycle.closed = false → s.active.lifecycle.token ≠ ""
  | _ => True

instance (s : State) (act : Act) : Decidable (Outage s act) := by
  unfold Outage
  split <;> infer_instance

instance (s : State) (act : Act) : Decidable (Live s act) := by
  unfold Live
  split <;> infer_instance

/-- `onEnforceFailure` has not been called by the renewal task. -/
def Spared (s : State) : Prop := s.loop ≠ .callback ∧ s.loop ≠ .ended .failed

/-- What keeps it so: a renewal that was rejected was rejected by `close`. -/
def Mild (s : State) : Prop := Spared s ∧ ∀ failure, s.loop = .resume (.error failure) → s.lifecycle.closed = true

variable {s : State}

theorem mild_head : Mild (head s) := by
  unfold head
  split
  · simp [Mild,Spared]
  · dsimp only
    split_ifs <;> simp [Mild,Spared]

theorem mild_finish {work : Work} {result : Except Thrown Bool} (mild : Mild s)
    (answer : work.caller = .loop → ∀ failure, result = .error failure → s.lifecycle.closed = true) :
    Mild (finish work result s) := by
  unfold finish
  split
  · rename_i loop
    refine ⟨by simp [Spared],?_⟩
    intro failure same
    exact answer loop failure (by simpa using same)
  · exact mild

theorem mild_of_loop {t : State} (mild : Mild s) (loop : t.loop = s.loop)
    (closed : t.lifecycle.closed = s.lifecycle.closed) :
    Mild t := by
  unfold Mild Spared
  rw [loop,closed]
  exact mild

theorem renew_spec {settings : Settings} (s : State) : match renew settings s with
    | .inl (_,t) => t.loop = s.loop ∧ t.lifecycle.closed = s.lifecycle.closed ∧
        (s.lifecycle.closed = true ∨ s.active.lifecycle.token = "")
    | .inr t => t.loop = s.loop ∧ t.lifecycle.closed = s.lifecycle.closed := by
  unfold renew
  dsimp only
  split_ifs with empty closed
  · exact ⟨rfl,(Dropped.handleFailure settings _ _ _ _).closed,.inr empty⟩
  · exact ⟨rfl,rfl,.inl closed⟩
  · exact ⟨rfl,rfl⟩

section

variable {settings : Settings} (warn : settings.mode = .warn)
include warn

theorem handleFailure_warn {failure : Thrown} {renewal : Bool} {now : Int} {s : Lifecycle}
    (operational : failure.isOperational = true) : (handleFailure settings failure renewal now s).1 = .ok false := by
  simp [handleFailure,warn,operational]

variable {work : Work} {s : State}

theorem mild_fail {failure : Thrown} (mild : Mild s)
    (milder : work.caller = .loop → failure.isOperational = true ∨ s.lifecycle.closed = true) :
    Mild (fail settings work failure s) := by
  have dropped := Dropped.handleFailure settings failure work.presented.isSome s.clock s.lifecycle
  have handled : Mild { s with
      lifecycle := (handleFailure settings failure work.presented.isSome s.clock s.lifecycle).2 } :=
    mild_of_loop mild rfl dropped.closed
  rw [fail_eq]
  apply mild_finish handled
  intro loop error failed
  rcases milder loop with operational | closed
  · rw [handleFailure_warn warn operational] at failed
    cases failed
  · exact dropped.closed.trans closed

theorem mild_begin (tries : 0 < settings.retries) (mild : Mild s)
    (live : work.caller = .loop → s.lifecycle.closed = false → s.active.lifecycle.token ≠ "") :
    Mild (exchangeWithRetries settings work s) := by
  have read : Mild s.active := mild_of_loop mild rfl rfl
  have sent : Mild (send work 0 s.active) := mild_of_loop read (send_loop _ _ _) (by rw [send_lifecycle])
  have some : settings.retries ≠ 0 := by omega
  unfold exchangeWithRetries
  cases work.presented with
  | none => simpa [some] using sent
  | some token =>
    dsimp only
    split_ifs with other present
    · exact mild_finish read (by simp)
    · apply mild_fail warn read
      intro loop
      by_cases closed : s.lifecycle.closed = true
      · exact .inr closed
      · exact absurd (not_not.mp present) (live loop (by simpa using closed))
    · exact sent

theorem mild_settled {attempt : Nat} {outcome : Except Thrown Session} (mild : Mild s)
    (outage : Outage s (.settle outcome)) : Mild (settled settings work attempt outcome s) := by
  cases outcome with
  | ok session =>
    simp only [settled]
    split
    · rename_i closed
      have same : Mild { s with granted := some session } := mild_of_loop mild rfl rfl
      exact mild_finish same fun _ _ _ => closed
    · have same : Mild { s with granted := some session,lifecycle := { s.lifecycle with current := some session } } :=
        mild_of_loop mild rfl rfl
      exact mild_finish same (by simp)
  | error failure =>
    simp only [settled]
    split_ifs with closed again
    · exact mild_finish mild fun _ _ _ => closed
    · exact mild_of_loop mild rfl rfl
    · exact mild_fail warn mild fun _ => .inl outage

theorem mild_step {t : State} {act : Act} (tries : 0 < settings.retries) (mild : Mild s)
    (allowed : Outage s act ∧ Live s act) (next : step settings s act = some t) : Mild t := by
  obtain ⟨outage,live⟩ := allowed
  cases act with simp only [step] at next
  | pass delay | read =>
    cases next
    exact mild_of_loop mild rfl rfl
  | authenticate | reauthenticate =>
    cases next
    apply mild_of_loop mild <;> unfold authenticate <;> split_ifs <;> rfl
  | renew =>
    have spec := @renew_spec settings s
    split at next <;> rename_i found <;> simp only [found] at spec <;> cases next
    · exact mild_of_loop mild spec.1 spec.2.1
    · exact mild_of_loop mild spec.1 spec.2
  | startRenewal =>
    split at next
    · cases next
      exact mild
    · split at next
      · split at next
        · cases next
          exact mild_of_loop mild rfl rfl
        · cases next
          exact mild_head
      · cases next
        exact mild_of_loop mild rfl rfl
  | close =>
    cases next
    split
    · exact mild
    · exact ⟨mild.1,fun _ _ => rfl⟩
  | begin =>
    split at next
    · rename_i work rest waiting idle
      cases next
      have shorter : Mild { s with queue := rest } := mild_of_loop mild rfl rfl
      exact mild_begin warn tries shorter (live work (by simp [waiting]))
    · cases next
  | settle outcome =>
    split at next
    · cases next
      exact mild_settled warn mild outage
    · cases next
  | abandon =>
    split at next
    · split_ifs at next with closed
      cases next
      have same : Mild { s with abandoned := s.abandoned + 1 } := mild_of_loop mild rfl rfl
      exact mild_finish same fun _ _ _ => closed
    · cases next
  | late outcome =>
    split_ifs at next
    cases next
    exact mild_of_loop mild rfl rfl
  | retry =>
    split at next
    · cases next
      exact mild_of_loop mild (send_loop _ _ _) (by rw [send_lifecycle])
    · cases next
  | wake =>
    have spec := @renew_spec settings s
    split at next
    · rename_i asleep
      split at next
      · cases next
        simp [Mild,Spared]
      · rename_i opened
        have opened : s.lifecycle.closed = false := by simpa using opened
        split at next
        · rename_i found
          simp only [found] at spec
          rcases spec.2.2 with closed | empty
          · simp [opened] at closed
          · exact absurd empty (live asleep opened)
        · cases next
          simp [Mild,Spared]
    · cases next
      exact mild_head
    · cases next
  | resume =>
    split at next
    · cases next
      exact mild_head
    · cases next
      split <;> simp [Mild,Spared]
    · rename_i failure rejected
      cases next
      simp [mild.2 failure rejected,Mild,Spared]
    · cases next
  | called =>
    split_ifs at next with called
    exact absurd called mild.1.1

end

end Node.Tasks

namespace Python.Tasks

def Outage (_ : State) : Act → Prop
  | .settle (.error failure) => isOperationalFailure failure = true
  | _ => True

/-- The loop finds a live session when it is about to renew it, and again when it gets the lock. -/
def Live (s : State) : Act → Prop
  | .wake => s.loop = .sleep → s.active.lifecycle.token ≠ ""
  | .acquire => ∀ work ∈ s.queue.head?, work.caller = .loop → s.active.lifecycle.token ≠ ""
  | _ => True

instance (s : State) (act : Act) : Decidable (Outage s act) := by
  unfold Outage
  split <;> infer_instance

instance (s : State) (act : Act) : Decidable (Live s act) := by
  unfold Live
  split <;> infer_instance

def Spared (s : State) : Prop := s.loop ≠ .callback ∧ s.loop ≠ .ended .failed

/-- The works of the loop that wait for the lock or hold it. -/
def loopWorks (s : State) : Nat :=
  s.queue.countP (·.caller = .loop) + s.running.toList.countP (·.1.caller = .loop)

/-- What the loop is owed: an answer to its own work. -/
def due (caller : Caller) : Nat := if caller = .loop then 1 else 0

/-- What keeps the loop going, with some of its works taken out of the state: a loop that does not
    renew has no work, and a lifecycle that is closed has no loop. -/
structure Mild (taken : Nat) (s : State) : Prop where
  spared : Spared s
  works : loopWorks s + taken ≤ if s.loop = .renewing then 1 else 0
  closed : s.lifecycle.closed = true → ∃ reason, s.loop = .ended reason

variable {s : State}

theorem Mild.of_loop {taken : Nat} {t : State} (mild : Mild taken s) (loop : t.loop = s.loop)
    (works : loopWorks t ≤ loopWorks s) (closed : t.lifecycle.closed = s.lifecycle.closed) : Mild taken t := by
  refine ⟨?_,?_,?_⟩
  · rw [Spared,loop]
    exact mild.spared
  · have before := mild.works
    rw [loop]
    omega
  · rw [loop,closed]
    exact mild.closed

theorem mild_held_iff {work : Work} {progress : Progress} :
    Mild 0 { s with running := some (work,progress) } ↔ Mild (due work.caller) { s with running := none } := by
  have works : loopWorks { s with running := some (work,progress) } = loopWorks { s with running := none } + due work.caller := by
    simp [loopWorks,due]
  constructor
  · intro held
    exact ⟨held.spared,by simpa [works] using held.works,held.closed⟩
  · intro free
    exact ⟨free.spared,by simpa [works] using free.works,free.closed⟩

theorem Mild.renewing (mild : Mild (due .loop) s) :
    s.loop = .renewing ∧ loopWorks s = 0 ∧ s.lifecycle.closed = false := by
  have works := mild.works
  simp only [due,if_true] at works
  by_cases renewing : s.loop = .renewing
  · rw [if_pos renewing] at works
    refine ⟨renewing,by omega,?_⟩
    by_contra closed
    obtain ⟨reason,ended⟩ := mild.closed (by simpa using closed)
    rw [renewing] at ended
    cases ended
  · rw [if_neg renewing] at works
    omega

theorem Mild.outside {caller : Caller} (mild : Mild (due caller) s) (closed : s.lifecycle.closed = true) :
    caller ≠ .loop := by
  rintro rfl
  simp [mild.renewing.2.2] at closed

theorem mild_look {next : Loop} (idle : loopWorks s = 0) (opened : s.lifecycle.closed = false)
    (sleeps : next = .sleep ∨ next = .pause) :
    Mild 0 { s.active with loop := if s.active.lifecycle.session.isNone then .ended .expired else next } := by
  have works : ∀ loop, loopWorks { s.active with loop } = 0 := fun _ => idle
  have opened : s.active.lifecycle.closed ≠ true := by simp [State.active,Lifecycle.active,opened]
  by_cases gone : s.active.lifecycle.session.isNone = true
  · rw [if_pos gone]
    exact ⟨by simp [Spared],by simp [works],fun _ => ⟨_,rfl⟩⟩
  · rw [if_neg gone]
    rcases sleeps with rfl | rfl <;> exact ⟨by simp [Spared],by simp [works],fun closed => absurd closed opened⟩

theorem mild_head (idle : loopWorks s = 0) : Mild 0 (head s) := by
  unfold head
  split
  · have works : loopWorks { s with loop := .ended .closed } = 0 := idle
    exact ⟨by simp [Spared],by simp [works],fun _ => ⟨_,rfl⟩⟩
  · rename_i opened
    exact mild_look idle (by simpa using opened) (.inl rfl)

theorem mild_answer {caller : Caller} {result : Except Raised Bool} (mild : Mild (due caller) s)
    (milder : caller = .loop → ∀ failure, result ≠ .error failure) : Mild 0 (answer caller result s) := by
  cases caller with
  | outside => exact mild.of_loop rfl le_rfl rfl
  | loop =>
    obtain ⟨-,idle,opened⟩ := mild.renewing
    cases result with
    | error failure => exact absurd rfl (milder rfl failure)
    | ok renewed =>
      cases renewed with
      | true => exact mild_head idle
      | false => exact mild_look idle opened (.inr rfl)

theorem mild_cancel (mild : Mild 0 s) (lifecycle : Lifecycle) : Mild 0 (cancel { s with lifecycle }) := by
  unfold cancel
  split
  · rename_i reason ended
    exact ⟨mild.spared,mild.works,fun _ => ⟨reason,ended⟩⟩
  · refine ⟨by simp [Spared],?_,fun _ => ⟨_,rfl⟩⟩
    have queue : (s.queue.filter (·.caller ≠ .loop)).countP (·.caller = .loop) = 0 := by
      simp [List.countP_eq_zero]
    have running : (s.running.filter (·.1.caller ≠ .loop)).toList.countP (·.1.caller = .loop) = 0 := by
      simp
    simp only [loopWorks]
    omega

section

variable {settings : Settings} (warn : settings.mode = .warn)
include warn

theorem handleFailure_warn {failure : Raised} {renewal : Bool} {now : Int} {s : Lifecycle}
    (operational : isOperationalFailure failure = true) : (handleFailure settings failure renewal now s).1 = .ok false := by
  simp [handleFailure,warn,operational]

variable {work : Work} {s : State}

theorem mild_fail {failure : Raised} (mild : Mild (due work.caller) { s with running := none })
    (milder : work.caller = .loop → isOperationalFailure failure = true) : Mild 0 (fail settings work failure s) := by
  have handled : Mild (due work.caller) { s with
      lifecycle := (handleFailure settings failure work.presented.isSome s.clock s.lifecycle).2
      running := none } := mild.of_loop rfl le_rfl (handleFailure_closed _ _ _ _)
  rw [fail_eq]
  apply mild_answer handled
  intro loop error failed
  rw [handleFailure_warn warn (milder loop)] at failed
  cases failed

theorem mild_locked (tries : 0 < settings.retries)
    (mild : Mild (due work.caller) { s with running := none })
    (live : work.caller = .loop → s.active.lifecycle.token ≠ "") : Mild 0 (locked settings work s) := by
  have sent : ∀ s : State, Mild (due work.caller) { s with running := none } → Mild 0 (attempts settings work s) := by
    intro s free
    rw [attempts,if_neg (by omega)]
    exact mild_held_iff.mpr free
  unfold locked
  split
  · rename_i closed
    exact mild_answer mild fun loop => absurd loop (mild.outside closed)
  · have read : Mild (due work.caller) { s.active with running := none } := mild.of_loop rfl le_rfl rfl
    split
    · dsimp only
      split_ifs with empty other
      · exact mild_fail warn read fun loop => absurd empty (live loop)
      · exact mild_answer read (by simp)
      · exact sent _ read
    · exact sent _ mild

theorem mild_exchange (tries : 0 < settings.retries) (mild : Mild (due work.caller) s)
    (live : work.caller = .loop → s.active.lifecycle.token ≠ "") : Mild 0 (exchange settings work s) := by
  unfold exchange
  split_ifs with closed free
  · exact mild_answer mild fun loop => absurd loop (mild.outside closed)
  · simp only [Bool.and_eq_true,Option.isNone_iff_eq_none] at free
    exact mild_locked warn tries (by rwa [← free.1]) live
  · have works : loopWorks { s with queue := s.queue ++ [work] } = loopWorks s + due work.caller := by
      simp only [loopWorks,due,List.countP_append,List.countP_singleton,decide_eq_true_eq]
      omega
    exact ⟨mild.spared,by simpa [works] using mild.works,mild.closed⟩

theorem mild_renew {caller : Caller} (tries : 0 < settings.retries) (mild : Mild (due caller) s)
    (live : caller = .loop → s.active.lifecycle.token ≠ "") : Mild 0 (renew settings caller s) := by
  have read : Mild (due caller) s.active := mild.of_loop rfl le_rfl rfl
  unfold renew
  dsimp only
  split
  · rename_i empty
    refine mild_answer (read.of_loop rfl le_rfl (handleFailure_closed _ _ _ _)) ?_
    intro loop
    exact absurd empty (live loop)
  · have again : s.active.active.lifecycle.token = s.active.lifecycle.token :=
      congrArg Lifecycle.token (Lifecycle.active_active s.clock s.lifecycle)
    exact mild_exchange warn tries read (by rwa [again])

theorem mild_settled {attempt : Nat} {outcome : Except Raised Session}
    (mild : Mild (due work.caller) { s with running := none }) (outage : Outage s (.settle outcome)) :
    Mild 0 (settled settings work attempt outcome s) := by
  cases outcome with
  | ok session =>
    simp only [settled]
    split
    · rename_i closed
      exact mild_fail warn mild fun loop => absurd loop (mild.outside closed)
    · exact mild_answer (mild.of_loop rfl le_rfl rfl) (by simp)
  | error failure =>
    simp only [settled]
    split
    · exact mild_held_iff.mpr mild
    · exact mild_fail warn mild fun _ => outage

theorem mild_authenticate (tries : 0 < settings.retries) (mild : Mild 0 s) :
    Mild 0 (authenticate settings s) := by
  unfold authenticate
  split
  · exact mild.of_loop rfl le_rfl rfl
  · exact mild_exchange warn tries mild (by simp)

theorem mild_step {t : State} {act : Act} (tries : 0 < settings.retries) (mild : Mild 0 s)
    (allowed : Outage s act ∧ Live s act) (next : step settings s act = some t) : Mild 0 t := by
  obtain ⟨outage,live⟩ := allowed
  cases act with simp only [step] at next
  | pass delay | read =>
    cases next
    exact mild.of_loop rfl le_rfl rfl
  | authenticate =>
    cases next
    exact mild_authenticate warn tries mild
  | renew =>
    cases next
    exact mild_renew warn tries mild (by simp)
  | reauthenticate =>
    have read : Mild 0 s.active := mild.of_loop rfl le_rfl rfl
    split at next
    · cases next
      exact mild_renew warn tries read (by simp)
    · cases next
      exact mild_authenticate warn tries read
  | startRenewal =>
    split at next
    · cases next
      exact mild
    · rename_i starts
      split at next
      · rename_i reason ended
        cases next
        have idle := mild.works
        rw [if_neg (by simp [ended])] at idle
        by_cases empty : s.active.lifecycle.token = ""
        · rw [if_pos empty]
          exact mild.of_loop rfl le_rfl rfl
        · rw [if_neg empty]
          refine ⟨by simp [Spared],idle,?_⟩
          intro closed
          exact absurd (.inl closed) starts
      · cases next
        exact mild.of_loop rfl le_rfl rfl
  | stopRenewal =>
    cases next
    exact mild_cancel mild s.lifecycle
  | close =>
    cases next
    exact mild_cancel mild _
  | discard =>
    split_ifs at next
    cases next
    exact mild.of_loop rfl le_rfl rfl
  | acquire =>
    split at next
    · rename_i work rest waiting free
      cases next
      refine mild_locked warn tries ?_ (live work (by simp [waiting]))
      have works : loopWorks s = loopWorks { s with queue := rest,running := none } + due work.caller := by
        simp [loopWorks,due,waiting,free,List.countP_cons]
      exact ⟨mild.spared,by simpa [works] using mild.works,mild.closed⟩
    · cases next
  | settle outcome =>
    split at next
    · rename_i work attempt running
      cases next
      have free : Mild (due work.caller) { s with running := none } := mild_held_iff.mp (by rwa [← running])
      exact mild_settled warn free outage
    · cases next
  | retry =>
    split at next
    · rename_i work attempt running
      cases next
      exact mild_held_iff.mpr (mild_held_iff.mp (by rwa [← running]))
    · cases next
  | wake =>
    have idle : s.loop ≠ .renewing → loopWorks s = 0 := by
      intro other
      have works := mild.works
      rw [if_neg other] at works
      omega
    split at next
    · rename_i asleep
      cases next
      refine mild_renew warn tries ⟨by simp [Spared],?_,?_⟩ fun _ => live asleep
      · have works : loopWorks { s with loop := .renewing } = 0 := idle (by simp [asleep])
        simp [works,due]
      · intro closed
        obtain ⟨reason,ended⟩ := mild.closed closed
        rw [asleep] at ended
        cases ended
    · rename_i created
      cases next
      exact mild_head (idle (by simp [created]))
    · rename_i paused
      cases next
      exact mild_head (idle (by simp [paused]))
    · cases next
  | called =>
    split_ifs at next with called
    exact absurd called mild.spared.1

end

end Python.Tasks

namespace WarnSamples

def settings : Settings := ⟨.warn,2⟩

def session : Session := ⟨"session",0,60000⟩

/-- A reconnection drops the session and asks for a new one, which the outage prevents; then the
    loop wakes up. -/
def nodeOutage : List Node.Tasks.Act :=
  [.authenticate,.begin,.settle (.ok session),.startRenewal,.reauthenticate,.begin,
    .settle (.error (.operational .timeout)),.retry,.settle (.error (.operational .timeout)),.pass 30000,.wake,.resume]

/-- The loop waits for the lock while another renewal tries in vain, and the session expires. -/
def pythonOutage : List Python.Tasks.Act :=
  [.authenticate,.settle (.ok session),.startRenewal,.wake,.pass 30000,.reauthenticate,.wake,
    .settle (.error (.operational (some .timeout))),.retry,.pass 30000,.settle (.error (.operational (some .timeout))),
    .acquire]

/-- The renewal fails, and the loop waits and tries again. -/
def nodeRetry : List Node.Tasks.Act :=
  [.authenticate,.begin,.settle (.ok session),.startRenewal,.pass 27000,.wake,.begin,
    .settle (.error (.operational .timeout)),.retry,.settle (.error (.operational .timeout)),.resume,.pass 30000,.wake,.wake,
    .begin,.settle (.ok ⟨"later",0,120000⟩),.resume]

def pythonRetry : List Python.Tasks.Act :=
  [.authenticate,.settle (.ok session),.startRenewal,.wake,.pass 27000,.wake,
    .settle (.error (.operational (some .timeout))),.retry,.settle (.error (.operational (some .timeout))),
    .pass 60000,.wake]

end WarnSamples

end Cap.Trust
