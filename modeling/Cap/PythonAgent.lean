import Cap.NodeAgent
import Cap.PythonLifecycle

/-!
The agent of the Python SDK while it runs, as `Cap.NodeAgent` has it for Node. The callbacks of
the connection are tasks of their own, of which the reconnect handlers take a lock;
`_on_trust_failure` awaits twice.
-/
namespace Cap.Trust.Python.Tasks
open Cap.Checks

def Loop.isRunning : Loop → Bool
  | .ended _ => false
  | .created | .sleep | .renewing | .pause | .callback => true

def Act.isInternal : Act → Bool
  | .authenticate | .renew | .reauthenticate | .startRenewal | .stopRenewal | .close | .discard => false
  | .pass _ | .read | .acquire | .settle _ | .retry | .wake | .called => true

/-- `verify_result` lets no session through that has expired. -/
def Verified (s : State) : Act → Prop
  | .settle (.ok session) => s.clock < session.expiresAt
  | _ => True

instance (s : State) (act : Act) : Decidable (Verified s act) := by
  unfold Verified
  split <;> infer_instance

/-- There is a session, and it has not expired. -/
def State.isLive (s : State) : Bool := s.active.lifecycle.session.isSome

/-- The loop runs, and its session is live unless the loop calls back. -/
def State.Alive (s : State) : Prop := s.loop.isRunning = true ∧ (s.loop ≠ .callback → s.isLive = true)

/-- No session runs out while time passes. -/
def Timely (s : State) : Act → Prop
  | .pass delay => ∀ session ∈ s.lifecycle.session, s.clock + delay < session.expiresAt
  | _ => True

instance (s : State) (act : Act) : Decidable (Timely s act) := by
  unfold Timely
  split <;> infer_instance

def Caller.calls (caller : Caller) : Nat := if caller = .outside then 1 else 0

/-- The calls from outside: those that were answered, and those that wait for the lock or hold it. -/
def State.calls (s : State) : Nat :=
  s.answers.length + (s.running.toList.map Prod.fst ++ s.queue).countP (·.caller = .outside)

def State.released (s : State) : State := { s with running := none }

/-- What becomes of a lifecycle when a call ends or goes on; so many calls were there without it. -/
structure Kept (others : Nat) (caller : Caller) (s t : State) : Prop where
  closed : t.lifecycle.closed = s.lifecycle.closed
  loop : t.loop = s.loop ∨ caller = .loop ∧ (t.loop = .sleep ∨ t.loop = .callback)
  answers : s.answers.length ≤ t.answers.length
  calls : t.calls = others + caller.calls
  alive : caller = .loop → s.Alive → t.Alive

theorem isLive_active (s : State) : s.active.isLive = s.isLive :=
  congrArg (·.session.isSome) (Lifecycle.active_active s.clock s.lifecycle)

theorem isLive_of_token {s : State} (named : s.active.lifecycle.token ≠ "") : s.isLive = true := by
  unfold State.isLive
  cases found : s.active.lifecycle.session with
  | none => exact absurd (by rw [Lifecycle.token,found]; rfl) named
  | some session => rfl

theorem Kept.of_eq {others : Nat} {caller : Caller} {a b c : State} (kept : Kept others caller b c)
    (closed : b.lifecycle.closed = a.lifecycle.closed) (loop : b.loop = a.loop) (answers : b.answers = a.answers)
    (live : b.loop ≠ .callback → a.isLive = true → b.isLive = true) : Kept others caller a c := by
  refine ⟨kept.closed.trans closed,loop ▸ kept.loop,answers ▸ kept.answers,kept.calls,fun own alive => ?_⟩
  exact kept.alive own ⟨loop ▸ alive.1,fun apart => live apart (alive.2 (loop ▸ apart))⟩

theorem Kept.of_active {others : Nat} {caller : Caller} {s t : State} (kept : Kept others caller s.active t) :
    Kept others caller s t :=
  kept.of_eq rfl rfl rfl fun _ => (isLive_active s).trans

theorem head_live {s : State} (opened : s.lifecycle.closed = false) (live : s.isLive = true) :
    (head s).lifecycle.closed = false ∧ (head s).loop = .sleep ∧ (head s).answers = s.answers ∧
      (head s).calls = s.calls ∧ (head s).Alive := by
  have some : s.active.lifecycle.session ≠ none := Option.isSome_iff_ne_none.mp live
  simp only [head,opened,Bool.false_eq_true,if_false,Option.isNone_iff_eq_none,some]
  exact ⟨opened,trivial,rfl,rfl,rfl,fun _ => (isLive_active s).trans live⟩

theorem answer_outside (raised : Except Raised Bool) (s : State) :
    Kept s.calls .outside s (answer .outside raised s) := by
  refine ⟨rfl,.inl rfl,by simp [answer],?_,fun own => by cases own⟩
  simp only [State.calls,answer,List.length_append,List.length_singleton,Caller.calls,if_true]
  omega

theorem answer_true {s : State} (caller : Caller) (opened : s.lifecycle.closed = false) (live : s.isLive = true) :
    Kept s.calls caller s (answer caller (.ok true) s) := by
  cases caller with
  | loop =>
    obtain ⟨closed,sleeps,answers,calls,alive⟩ := head_live opened live
    exact ⟨closed.trans opened.symm,.inr ⟨rfl,.inl sleeps⟩,(congrArg List.length answers).ge,calls,fun _ _ => alive⟩
  | outside => exact answer_outside _ s

theorem answer_error (caller : Caller) (failure : Raised) (s : State) :
    Kept s.calls caller s (answer caller (.error failure) s) := by
  cases caller with
  | loop => exact ⟨rfl,.inr ⟨rfl,.inr rfl⟩,le_rfl,rfl,fun _ _ => ⟨rfl,fun apart => absurd rfl apart⟩⟩
  | outside => exact answer_outside _ s

section

variable {s t : State}

/-- The call holds the lock and goes on. -/
theorem kept_running (work : Work) (progress : Progress) :
    Kept s.released.calls work.caller s { s with running := some (work,progress) } := by
  refine ⟨rfl,.inl rfl,le_rfl,?_,fun _ alive => alive⟩
  simp [State.calls,State.released,Caller.calls,List.countP_cons,Nat.add_assoc]

/-- In ENFORCE, an open lifecycle stays open by itself and forgets no call; and its loop goes on
    with a live session until it has called back, when the loop alone calls. -/
structure Enforced (s : State) (act : Act) (t : State) : Prop where
  opened : t.lifecycle.closed = false
  strict : t.loop ≠ .pause
  answers : s.answers.length ≤ t.answers.length
  calls : t.calls = s.calls
  alive : Timely s act → act ≠ .called → s.calls = s.answers.length → s.Alive → t.Alive

theorem Kept.strict {others : Nat} {caller : Caller} (kept : Kept others caller s t) (strict : s.loop ≠ .pause) :
    t.loop ≠ .pause := by
  rcases kept.loop with same | ⟨-,slept | called⟩
  · rw [same]
    exact strict
  · simp [slept]
  · simp [called]

theorem Kept.enforced {others : Nat} {caller : Caller} (kept : Kept others caller s t) (act : Act)
    (opened : s.lifecycle.closed = false) (strict : s.loop ≠ .pause) (all : s.calls = others + caller.calls)
    (least : s.answers.length ≤ others) : Enforced s act t := by
  refine ⟨kept.closed.trans opened,kept.strict strict,kept.answers,kept.calls.trans all.symm,fun _ _ none alive => ?_⟩
  refine kept.alive ?_ alive
  cases caller with
  | loop => rfl
  | outside =>
    simp only [Caller.calls,if_true] at all
    omega

variable {settings : Settings} (enforce : settings.mode = .enforce)
include enforce

theorem handleFailure_enforce (failure : Raised) (renewal : Bool) (now : Int)
    (s : Lifecycle) : (handleFailure settings failure renewal now s).1 = .error failure := by
  simp [handleFailure,enforce]

theorem kept_fail (work : Work) (failure : Raised) (s : State) :
    Kept s.released.calls work.caller s (fail settings work failure s) := by
  rw [fail_eq,handleFailure_enforce enforce]
  have told := answer_error work.caller failure { s with
    lifecycle := (handleFailure settings failure work.presented.isSome s.clock s.lifecycle).2
    running := none }
  refine ⟨told.closed.trans (handleFailure_closed failure _ _ _),told.loop,told.answers,told.calls,fun own _ => ?_⟩
  rw [own]
  exact ⟨rfl,fun apart => absurd rfl apart⟩

theorem kept_attempts (work : Work) :
    Kept s.released.calls work.caller s (attempts settings work s) := by
  unfold attempts
  split
  · exact kept_fail enforce work _ s
  · exact kept_running work _

theorem kept_locked (work : Work) (opened : s.lifecycle.closed = false) :
    Kept s.released.calls work.caller s (locked settings work s) := by
  simp only [locked,opened,Bool.false_eq_true,if_false]
  cases work.presented with
  | none => exact kept_attempts enforce work
  | some token =>
    refine Kept.of_active ?_
    dsimp only
    split_ifs with empty other
    · exact kept_fail enforce work _ s.active
    · -- The token of another session: that session is live.
      have live : s.active.released.isLive = true := (isLive_active s).trans (isLive_of_token empty)
      have told : Kept _ work.caller s.active.released _ := answer_true work.caller opened live
      exact told.of_eq rfl rfl rfl fun _ live => live
    · exact kept_attempts enforce work (s := s.active)

theorem kept_exchange (work : Work) (opened : s.lifecycle.closed = false) :
    Kept s.calls work.caller s (exchange settings work s) := by
  simp only [exchange,opened,Bool.false_eq_true,if_false]
  split
  · rename_i free
    have same : s.released = s := by
      simp only [Bool.and_eq_true,Option.isNone_iff_eq_none] at free
      rw [State.released,← free.1]
    have kept := kept_locked enforce work opened
    rwa [same] at kept
  · refine ⟨rfl,.inl rfl,le_rfl,?_,fun _ alive => alive⟩
    simp [State.calls,Caller.calls,Nat.add_assoc]

theorem kept_renew (caller : Caller) (opened : s.lifecycle.closed = false) :
    Kept s.calls caller s (renew settings caller s) := by
  simp only [renew,handleFailure_enforce enforce]
  split
  · have told := answer_error caller (.message "renew requires a current live session") { s.active with
      lifecycle := (handleFailure settings (.message "renew requires a current live session") true s.active.clock
        s.active.lifecycle).2 }
    refine ⟨told.closed.trans (handleFailure_closed _ _ _ s.active.lifecycle),told.loop,told.answers,told.calls,?_⟩
    rintro rfl _
    exact ⟨rfl,fun apart => absurd rfl apart⟩
  · have opened : s.active.lifecycle.closed = false := opened
    exact (kept_exchange enforce ⟨some s.active.lifecycle.token,caller⟩ opened).of_active

theorem kept_settled (work : Work) (attempt : Nat)
    {outcome : Except Raised Session} (opened : s.lifecycle.closed = false) (verified : Verified s (.settle outcome)) :
    Kept s.released.calls work.caller s (settled settings work attempt outcome s) := by
  cases outcome with
  | ok session =>
    have unclosed : ¬s.lifecycle.closed = true := by simp [opened]
    simp only [settled,if_neg unclosed]
    have live : s.clock < session.expiresAt := verified
    let installed : State := { s with lifecycle := { s.lifecycle with session := some session },running := none }
    have lives : installed.isLive = true := by
      simp [State.isLive,State.active,Lifecycle.active,live,installed]
    have told : Kept _ work.caller installed _ := answer_true work.caller opened lives
    exact told.of_eq rfl rfl rfl fun _ _ => lives
  | error failure =>
    simp only [settled]
    split
    · exact kept_running work _
    · exact kept_fail enforce work failure s

theorem wake_enforced (opened : s.lifecycle.closed = false)
    (strict : s.loop ≠ .pause) (next : step settings s .wake = some t) : Enforced s .wake t := by
  simp only [step] at next
  split at next
  · rename_i slept
    cases next
    have kept : Kept s.calls .loop { s with loop := .renewing } _ := kept_renew enforce .loop (s := { s with loop := .renewing }) opened
    refine ⟨kept.closed.trans opened,kept.strict (by simp),kept.answers,kept.calls,fun _ _ _ alive => ?_⟩
    exact kept.alive rfl ⟨rfl,fun _ => alive.2 (by simp [slept])⟩
  · rename_i created
    cases next
    refine ⟨?_,?_,?_,?_,fun _ _ _ alive => (head_live opened (alive.2 (by simp [created]))).2.2.2.2⟩
    all_goals
      simp [head,opened]
    · exact opened
    · split <;> simp
    · exact le_rfl
    · rfl
  · rename_i paused
    exact absurd paused strict
  · cases next

theorem step_enforced {act : Act} (internal : act.isInternal = true)
    (verified : Verified s act) (opened : s.lifecycle.closed = false) (strict : s.loop ≠ .pause)
    (next : step settings s act = some t) : Enforced s act t := by
  cases act with simp only [step] at next
  | authenticate | renew | reauthenticate | startRenewal | stopRenewal | close | discard => cases internal
  | pass delay =>
    cases next
    refine ⟨opened,strict,le_rfl,rfl,fun timely _ _ alive => ⟨alive.1,fun apart => ?_⟩⟩
    obtain ⟨session,found⟩ := Option.isSome_iff_exists.mp (alive.2 apart)
    obtain ⟨held,-⟩ := Option.filter_eq_some_iff.mp found
    have late : s.clock + delay < session.expiresAt := timely session held
    simp [State.isLive,State.active,Lifecycle.active,held,late]
  | read =>
    cases next
    refine ⟨opened,strict,le_rfl,rfl,fun _ _ _ alive => ⟨alive.1,fun apart => ?_⟩⟩
    exact (isLive_active s).trans (alive.2 apart)
  | acquire =>
    split at next
    · rename_i work rest waiting free
      cases next
      have locked : Kept _ work.caller { s with queue := rest } _ := kept_locked enforce work opened
      have kept := locked.of_eq (a := s) rfl rfl rfl fun _ live => live
      refine kept.enforced _ opened strict ?_ (Nat.le_add_right _ _)
      simp [State.calls,State.released,Caller.calls,waiting,free,List.countP_cons,Nat.add_assoc]
    · cases next
  | settle outcome =>
    split at next
    · rename_i work attempt held
      cases next
      refine (kept_settled enforce work attempt opened verified).enforced _ opened strict ?_ (Nat.le_add_right _ _)
      simp [State.calls,State.released,Caller.calls,held,List.countP_cons,Nat.add_assoc]
    · cases next
  | retry =>
    split at next
    · rename_i work attempt held
      cases next
      refine ⟨opened,strict,le_rfl,?_,fun _ _ _ alive => alive⟩
      simp [State.calls,held]
    · cases next
  | wake => exact wake_enforced enforce opened strict next
  | called =>
    split_ifs at next
    cases next
    exact ⟨opened,by simp,le_rfl,rfl,fun _ other => absurd rfl other⟩

theorem reauthenticate_kept (opened : s.lifecycle.closed = false)
    (next : step settings s .reauthenticate = some t) :
    (t.lifecycle.closed = s.lifecycle.closed ∧ t.loop = s.loop) ∧ t.calls = s.calls + 1 := by
  have kept : Kept s.calls .outside s t := by
    refine Kept.of_active ?_
    have opened : s.active.lifecycle.closed = false := opened
    simp only [step] at next
    split at next
    · cases next
      exact kept_renew enforce .outside opened
    · cases next
      have on : settings.mode ≠ .off := by simp [enforce]
      simp only [authenticate,if_neg on]
      exact kept_exchange enforce ⟨none,.outside⟩ opened
  exact ⟨⟨kept.closed,kept.loop.resolve_right (by simp)⟩,kept.calls⟩

/-- With a live session, or when the loop calls back, `start_renewal` leaves a task that is not done. -/
theorem startRenewal_enforced (opened : s.lifecycle.closed = false)
    (strict : s.loop ≠ .pause) (named : s.loop ≠ .callback → s.active.lifecycle.token ≠ "")
    (next : step settings s .startRenewal = some t) :
    t.lifecycle.closed = false ∧ t.loop ≠ .pause ∧ t.Alive ∧ (t.loop = .callback → s.loop = .callback) ∧
      t.answers = s.answers ∧ t.calls = s.calls := by
  have kept : ¬(s.lifecycle.closed = true ∨ settings.mode = .off) := by simp [opened,enforce]
  have live : s.loop ≠ .callback → s.active.isLive = true := fun apart =>
    (isLive_active s).trans (isLive_of_token (named apart))
  simp only [step,if_neg kept] at next
  split at next
  · rename_i reason done
    have apart : s.loop ≠ .callback := by simp [done]
    rw [if_neg (named apart)] at next
    cases next
    exact ⟨opened,by simp,⟨rfl,fun _ => live apart⟩,by simp,rfl,rfl⟩
  · rename_i other
    cases next
    refine ⟨opened,strict,⟨?_,live⟩,id,rfl,rfl⟩
    cases found : s.loop with
    | ended reason => exact absurd found (other reason)
    | created | sleep | renewing | pause | callback => simp [State.active,found,Loop.isRunning]

end

end Cap.Trust.Python.Tasks

namespace Cap.Trust.Python.Agent
open Cap.Runs

inductive Stage where
  /-- The heartbeat is told to end, and has not ended yet. -/
  | heartbeat
  /-- The subscriptions that were there drain. -/
  | drain
deriving DecidableEq

inductive Handler where
  | idle
  | draining
  /-- `reauthenticate` is awaited; its answer is the one after so many others. -/
  | reauthenticating (earlier : Nat)
  /-- So many subjects are subscribed, and the next one is being subscribed. -/
  | subscribing (done : Nat)
  | publishing
  | stopping (stage : Stage)
deriving DecidableEq

structure State where
  tasks : Tasks.State
  running : Bool
  connected : Bool
  /-- `disconnected_cb` has not been called for the latest disconnect. -/
  unheard : Bool
  /-- The reconnect handlers that wait for the lock. -/
  waiting : Nat
  admitting : Bool
  subscriptions : Nat
  heartbeat : Bool
  handler : Handler
  /-- Where `_on_trust_failure` stands that the renewal loop has called. -/
  callback : Option Stage

/-- What `start` leaves, with so many subjects. -/
def started (subjects : Nat) (clock : Int) (session : Session) : State where
  tasks := { Tasks.init clock with lifecycle := ⟨some session,false⟩,loop := .created,answers := [.ok true] }
  running := true
  connected := true
  unheard := false
  waiting := 0
  admitting := true
  subscriptions := subjects
  heartbeat := true
  handler := .idle
  callback := none

inductive Act where
  | trust (act : Tasks.Act)
  /-- The heartbeat has ended that the callback of the loop waits for. -/
  | calledHalt
  | disconnect
  | disconnected
  /-- The connection is up again, and `reconnected_cb` is called. -/
  | reconnect
  | handle
  /-- The handler has drained the subscriptions, or could not. -/
  | drained (ok : Bool)
  /-- `reauthenticate` returns or raises. -/
  | reauthenticated
  /-- A subject is subscribed, or subscribing it raises. -/
  | subscribed (ok : Bool)
  | published (ok : Bool)
  /-- The heartbeat has ended that the handler waits for. -/
  | halted
  | stopped
  /-- The connection is lost again, and the client cancels the reconnect handler. -/
  | cancelled
  /-- It cancels one that waits for the lock. -/
  | cancelledWaiting
  | close
deriving DecidableEq

/-- `_on_trust_failure` of the handler up to its first await. -/
def State.fail (s : State) : State :=
  { s with admitting := false,heartbeat := false,handler := .stopping .heartbeat }

/-- The lifecycle went on; when its loop calls back, `_on_trust_failure` begins. -/
def State.observe (s : State) (tasks : Tasks.State) : State :=
  if tasks.loop = .callback ∧ s.tasks.loop ≠ .callback then
    { s with tasks,admitting := false,heartbeat := false,callback := some .heartbeat }
  else { s with tasks }

section

variable (settings : Settings) (subjects : Nat)

/-- The handler from where so many subjects are subscribed up to its next await. -/
def State.subscribe (s : State) (done : Nat) : State :=
  if done < subjects then { s with handler := .subscribing done }
  -- The handshake carries the session's token, and without one nothing is published.
  else if s.tasks.active.lifecycle.token = "" then State.fail { s with tasks := s.tasks.active }
  else { s with tasks := s.tasks.active,admitting := true,handler := .publishing }

/-- The exchange of the handler is given up. -/
def abandon (tasks : Tasks.State) : Tasks.State := { tasks with
  queue := tasks.queue.filter (·.caller ≠ .outside)
  running := tasks.running.filter (·.1.caller ≠ .outside) }

def step (s : State) : Act → Option State
  | .trust .called =>
    if s.callback = some .drain then
      (Tasks.step settings s.tasks .called).map fun tasks => { s with tasks,callback := none }
    else none
  | .trust act =>
    if act.isInternal ∧ Tasks.Verified s.tasks act then (Tasks.step settings s.tasks act).map s.observe else none
  | .calledHalt =>
    if s.callback = some .heartbeat then some { s with subscriptions := 0,callback := some .drain } else none
  | .disconnect => if s.connected then some { s with connected := false,unheard := true } else none
  | .disconnected => if s.unheard then some { s with unheard := false,admitting := false } else none
  -- The client calls `disconnected_cb` before it connects again.
  | .reconnect =>
    if s.connected || s.unheard then none else some { s with connected := true,waiting := s.waiting + 1 }
  | .handle =>
    if 0 < s.waiting ∧ s.handler = .idle then
      if s.running then
        some { s with waiting := s.waiting - 1,admitting := false,subscriptions := 0,handler := .draining }
      else some { s with waiting := s.waiting - 1 }
    else none
  | .drained ok =>
    if s.handler = .draining then
      if ok then (Tasks.step settings s.tasks .reauthenticate).map fun tasks =>
        { s with tasks,handler := .reauthenticating s.tasks.answers.length }
      else some s.fail
    else none
  | .reauthenticated =>
    match s.handler with
    | .reauthenticating earlier =>
      match s.tasks.answers[earlier]? with
      | some (.ok _) => if s.running then some (s.subscribe subjects 0) else some { s with handler := .idle }
      | some (.error _) => some s.fail
      | none => none
    | _ => none
  | .subscribed ok =>
    match s.handler with
    | .subscribing done =>
      if ok then some (State.subscribe subjects { s with subscriptions := s.subscriptions + 1 } (done + 1)) else some s.fail
    | _ => none
  | .published ok =>
    if s.handler = .publishing then
      if ok then (Tasks.step settings s.tasks .startRenewal).map fun tasks =>
        { s with tasks,heartbeat := true,handler := .idle }
      else some s.fail
    else none
  | .halted =>
    if s.handler = .stopping .heartbeat then some { s with subscriptions := 0,handler := .stopping .drain } else none
  | .stopped => if s.handler = .stopping .drain then some { s with handler := .idle } else none
  | .cancelled =>
    if s.connected = false ∧ s.handler ≠ .idle then some { s with tasks := abandon s.tasks,handler := .idle } else none
  | .cancelledWaiting =>
    if s.connected = false ∧ 0 < s.waiting then some { s with waiting := s.waiting - 1 } else none
  | .close => if s.running then some { s with running := false } else none

/-- Everything is on, with a live session and a loop that renews it. -/
def State.Full (s : State) : Prop :=
  s.admitting = true ∧ s.subscriptions = subjects ∧ s.heartbeat = true ∧ s.tasks.loop.isRunning = true ∧
    s.tasks.isLive = true
deriving Decidable

end

def State.Stopped (s : State) : Prop := s.admitting = false ∧ s.subscriptions = 0 ∧ s.heartbeat = false
deriving Decidable

/-- The agent runs, the connection is up, every event is handled, and neither a handler nor the
    callback of the loop is in progress. -/
def State.Settled (s : State) : Prop :=
  s.running = true ∧ s.connected = true ∧ s.unheard = false ∧ s.waiting = 0 ∧ s.handler = .idle ∧ s.callback = none
deriving Decidable

/-- The agent is not half alive. -/
def Whole (subjects : Nat) (s : State) : Prop := s.Settled → s.Full subjects ∨ s.Stopped

/-- The handler has its session and is not through yet. -/
def Handler.isRestoring : Handler → Bool
  | .subscribing _ | .publishing => true
  | .idle | .draining | .reauthenticating _ | .stopping _ => false

/-- The callback of the loop and the handler with its new session are at work together. -/
def State.Overlap (s : State) : Prop := s.handler.isRestoring = true ∧ s.callback.isSome = true
deriving Decidable

/-- No callback is in progress while the handler restores the agent; the session is live when the
    handler is through, and does not run out while the agent admits jobs on its own. -/
def Calm (s : State) (act : Act) : Prop :=
  ¬s.Overlap ∧ match act with
    | .published true => s.tasks.active.lifecycle.token ≠ ""
    | .trust act => s.handler = .idle → s.admitting = true → Tasks.Timely s.tasks act
    | _ => True

instance (s : State) (act : Act) : Decidable (Calm s act) := by
  unfold Calm
  split <;> infer_instance

/-- Everything is on, and the loop runs. -/
def State.On (subjects : Nat) (s : State) : Prop :=
  s.admitting = true ∧ s.subscriptions = subjects ∧ s.heartbeat = true ∧ s.tasks.Alive

/-- The calls of the lifecycle that there are while the handler stands where it does: all are
    answered but the one that it awaits. -/
def State.expected (s : State) : Nat :=
  match s.handler with
  | .reauthenticating earlier => earlier + 1
  | _ => s.tasks.answers.length

/-- How much of the agent is on, by what its handler is doing. -/
def State.Staged (subjects : Nat) (s : State) : Prop :=
  match s.handler with
  | .idle => s.callback = none → s.On subjects ∨ s.Stopped ∨ s.connected = false ∨ 0 < s.waiting
  | .draining | .reauthenticating _ => s.admitting = false ∧ s.subscriptions = 0
  | .subscribing done => s.callback = none → s.admitting = false ∧ s.subscriptions = done ∧ done < subjects
  | .publishing => s.callback = none →
      s.subscriptions = subjects ∧ (s.admitting = true ∨ s.connected = false ∨ 0 < s.waiting)
  | .stopping .heartbeat => s.admitting = false ∧ s.heartbeat = false
  | .stopping .drain => s.Stopped

/-- What the callback of the loop has stopped so far. -/
def State.Called (s : State) : Prop :=
  s.handler.isRestoring = false → ∀ stage ∈ s.callback,
    s.admitting = false ∧ s.heartbeat = false ∧ (stage = .drain → s.subscriptions = 0)

/-- What holds wherever the handler stands. -/
structure Base (tasks : Tasks.State) (callback : Option Stage) (unheard connected : Bool) : Prop where
  opened : tasks.lifecycle.closed = false
  strict : tasks.loop ≠ .pause
  called : tasks.loop = .callback → callback ≠ none
  unheard : unheard = true → connected = false

theorem Base.of_tasks {tasks next : Tasks.State} {callback : Option Stage} {unheard connected : Bool}
    (base : Base tasks callback unheard connected)
    (kept : next.lifecycle.closed = tasks.lifecycle.closed ∧ next.loop = tasks.loop) : Base next callback unheard connected :=
  ⟨kept.1.trans base.opened,kept.2 ▸ base.strict,kept.2 ▸ base.called,base.unheard⟩

structure Inv (subjects : Nat) (s : State) : Prop extends Base s.tasks s.callback s.unheard s.connected where
  halted : s.Called
  staged : s.Staged subjects
  calls : s.tasks.calls = s.expected

section

variable {settings : Settings} {subjects : Nat}

variable {s t : State} {ok : Bool}

theorem Inv.whole (inv : s.running = true → Inv subjects s) : Whole subjects s := by
  rintro ⟨running,connected,-,none,idle,apart⟩
  have staged := (inv running).staged
  simp only [State.Staged,idle,connected,none,reduceCtorEq,Nat.lt_irrefl,or_false] at staged
  refine (staged apart).imp_left fun on => ⟨on.1,on.2.1,on.2.2.1,on.2.2.2.1,on.2.2.2.2 fun called => ?_⟩
  exact (inv running).called called apart

theorem Inv.answered (inv : Inv subjects s) (other : ∀ earlier, s.handler ≠ .reauthenticating earlier) :
    s.tasks.calls = s.tasks.answers.length := by
  have calls := inv.calls
  unfold State.expected at calls
  cases handler : s.handler with
  | reauthenticating earlier => exact absurd handler (other earlier)
  | _ => simpa using calls

/-- What goes on by itself answers calls and makes none. -/
theorem Inv.expected (inv : Inv subjects s) {act : Tasks.Act} {tasks : Tasks.State}
    (enforced : Tasks.Enforced s.tasks act tasks) : tasks.calls = (s.observe tasks).expected := by
  have kept : (s.observe tasks).handler = s.handler ∧ (s.observe tasks).tasks = tasks := by
    unfold State.observe
    split <;> exact ⟨rfl,rfl⟩
  have calls := enforced.calls.trans inv.calls
  have most : tasks.answers.length ≤ tasks.calls := Nat.le_add_right _ _
  have least := enforced.answers
  unfold State.expected at calls ⊢
  rw [kept.1,kept.2]
  cases handler : s.handler with
  | reauthenticating earlier => simpa [handler] using calls
  | _ =>
    simp only [handler] at calls
    dsimp only
    omega

theorem abandon_calls (tasks : Tasks.State) : (abandon tasks).calls = tasks.answers.length := by
  refine Nat.add_eq_left.mpr (List.countP_eq_zero.mpr fun work member => ?_)
  rcases List.mem_append.mp member with held | queued
  · obtain ⟨pair,found,rfl⟩ := List.mem_map.mp held
    simpa using (Option.filter_eq_some_iff.mp (Option.mem_toList.mp found)).2
  · simpa using (List.mem_filter.mp queued).2

theorem not_called (calm : ¬s.Overlap) (restoring : s.handler.isRestoring = true) : s.callback = none := by
  cases found : s.callback with
  | none => rfl
  | some stage => exact absurd ⟨restoring,by rw [found]; rfl⟩ calm

theorem Inv.drained (inv : Inv subjects s) (calm : ¬s.Overlap) (drains : s.callback = some .drain) :
    s.subscriptions = 0 := by
  cases restoring : s.handler.isRestoring with
  | true => exact absurd (drains.symm.trans (not_called calm restoring)) (by simp)
  | false => exact (inv.halted restoring .drain drains).2.2 rfl

theorem fail_inv (base : Base s.tasks s.callback s.unheard s.connected)
    (answered : s.tasks.calls = s.tasks.answers.length) (drained : s.callback = some .drain → s.subscriptions = 0) :
    Inv subjects s.fail := by
  refine ⟨base,?_,⟨rfl,rfl⟩,answered⟩
  intro _ stage called
  refine ⟨rfl,rfl,?_⟩
  rintro rfl
  exact drained called

theorem subscribe_inv {done : Nat} (base : Base s.tasks s.callback s.unheard s.connected)
    (answered : s.tasks.calls = s.tasks.answers.length) (drained : s.callback = some .drain → s.subscriptions = 0)
    (ready : s.callback = none → s.admitting = false ∧ s.subscriptions = done ∧ done ≤ subjects) :
    Inv subjects (s.subscribe subjects done) := by
  have read : Base s.tasks.active s.callback s.unheard s.connected := base.of_tasks ⟨rfl,rfl⟩
  unfold State.subscribe
  split_ifs with more empty
  · refine ⟨base,fun apart => absurd apart (by simp [Handler.isRestoring]),?_,answered⟩
    exact fun apart => ⟨(ready apart).1,(ready apart).2.1,more⟩
  · exact fail_inv read answered drained
  · refine ⟨read,fun apart => absurd apart (by simp [Handler.isRestoring]),?_,answered⟩
    intro apart
    obtain ⟨-,some,most⟩ := ready apart
    exact ⟨some.trans (Nat.le_antisymm most (Nat.le_of_not_lt more)),.inl rfl⟩

/-- While the handler drains, waits for its answer or stops, what is off stays off. -/
theorem Inv.staged_of (inv : Inv subjects s) (same : t.handler = s.handler)
    (admits : s.admitting = false → t.admitting = false) (subscribes : s.subscriptions = 0 → t.subscriptions = 0)
    (beats : s.heartbeat = false → t.heartbeat = false)
    (other : s.handler = .idle ∨ s.handler.isRestoring = true → t.Staged subjects) : t.Staged subjects := by
  have staged := inv.staged
  unfold State.Staged at staged other ⊢
  rw [same] at other ⊢
  cases handler : s.handler with
  | idle | subscribing | publishing => simpa [handler] using other (by simp [handler,Handler.isRestoring])
  | draining | reauthenticating =>
    simp only [handler] at staged
    exact ⟨admits staged.1,subscribes staged.2⟩
  | stopping stage =>
    simp only [handler] at staged
    cases stage with
    | heartbeat => exact ⟨admits staged.1,beats staged.2⟩
    | drain => exact ⟨admits staged.1,subscribes staged.2.1,beats staged.2.2⟩

theorem staged_called (called : s.callback ≠ none) (unstopped : s.handler = .idle ∨ s.handler.isRestoring = true) :
    s.Staged subjects := by
  unfold State.Staged
  cases handler : s.handler <;> simp_all [Handler.isRestoring]

theorem observe_inv {act : Tasks.Act} {tasks : Tasks.State} (inv : Inv subjects s)
    (calm : Calm s (.trust act)) (other : act ≠ .called) (enforced : Tasks.Enforced s.tasks act tasks) :
    Inv subjects (s.observe tasks) := by
  have calls := inv.expected enforced
  unfold State.observe at calls ⊢
  split at calls
  · rename_i entered
    rw [if_pos entered]
    refine ⟨⟨enforced.opened,enforced.strict,by simp,inv.unheard⟩,?_,?_,calls⟩
    · intro _ stage called
      obtain rfl : Stage.heartbeat = stage := Option.some.inj called
      exact ⟨rfl,rfl,by simp⟩
    · exact inv.staged_of rfl (fun _ => rfl) id (fun _ => rfl) fun unstopped => staged_called (by simp) unstopped
  · rename_i outside
    rw [if_neg outside]
    have entered : tasks.loop = .callback → s.tasks.loop = .callback := fun called => by
      by_contra before
      exact outside ⟨called,before⟩
    refine ⟨⟨enforced.opened,enforced.strict,fun called => inv.called (entered called),inv.unheard⟩,inv.halted,?_,calls⟩
    refine inv.staged_of rfl id id id ?_
    have staged := inv.staged
    unfold State.Staged at staged ⊢
    cases handler : s.handler with
    | idle =>
      simp only [handler] at staged ⊢
      intro _ apart
      refine (staged apart).imp_left fun on => ⟨on.1,on.2.1,on.2.2.1,?_⟩
      exact enforced.alive (calm.2 handler on.1) other (inv.answered (by simp [handler])) on.2.2.2
    | _ => simp_all [Handler.isRestoring]

theorem called_inv (inv : Inv subjects s) (calm : ¬s.Overlap)
    (next : step settings subjects s (.trust .called) = some t) : Inv subjects t := by
  simp only [step] at next
  split_ifs at next with drains
  obtain ⟨tasks,went,rfl⟩ := Option.map_eq_some_iff.mp next
  simp only [Tasks.step] at went
  split_ifs at went
  cases went
  have apart : s.handler.isRestoring = false := by
    cases restoring : s.handler.isRestoring with
    | true => exact absurd (drains.symm.trans (not_called calm restoring)) (by simp)
    | false => rfl
  obtain ⟨admitting,heartbeat,empty⟩ := inv.halted apart .drain drains
  refine ⟨⟨inv.opened,by simp,by simp,inv.unheard⟩,by simp [State.Called],?_,inv.calls⟩
  refine inv.staged_of rfl id id id ?_
  rintro (idle | restoring)
  · simp only [idle]
    exact fun _ => .inr (.inl ⟨admitting,empty rfl,heartbeat⟩)
  · exact absurd (apart.symm.trans restoring) (by simp)

theorem Inv.signal (inv : Inv subjects s) {admitting connected unheard : Bool} {waiting : Nat}
    (admits : admitting = false ∨ admitting = s.admitting) (heard : unheard = true → connected = false)
    (unhandled : connected = false ∨ 0 < waiting) :
    Inv subjects { s with admitting,connected,unheard,waiting } := by
  have off : s.admitting = false → admitting = false := fun before => by
    rcases admits with off | same
    · exact off
    · exact same.trans before
  refine ⟨⟨inv.opened,inv.strict,inv.called,heard⟩,?_,?_,inv.calls⟩
  · intro apart stage called
    obtain ⟨before,heartbeat,drained⟩ := inv.halted apart stage called
    exact ⟨off before,heartbeat,drained⟩
  · refine inv.staged_of rfl off id id ?_
    have staged := inv.staged
    unfold State.Staged at staged ⊢
    cases handler : s.handler with
    | idle => exact fun _ _ => .inr (.inr unhandled)
    | publishing =>
      simp only [handler] at staged
      exact fun _ apart => ⟨(staged apart).1,.inr unhandled⟩
    | subscribing done =>
      simp only [handler] at staged
      exact fun _ apart => ⟨off (staged apart).1,(staged apart).2⟩
    | _ => simp [Handler.isRestoring]

theorem calledHalt_inv (inv : Inv subjects s) (next : step settings subjects s .calledHalt = some t) :
    Inv subjects t := by
  simp only [step] at next
  split_ifs at next with halts
  cases next
  refine ⟨⟨inv.opened,inv.strict,by simp,inv.unheard⟩,?_,?_,inv.calls⟩
  · intro apart stage called
    obtain ⟨admitting,heartbeat,-⟩ := inv.halted apart .heartbeat halts
    exact ⟨admitting,heartbeat,fun _ => rfl⟩
  · exact inv.staged_of rfl id (fun _ => rfl) id fun unstopped => staged_called (by simp) unstopped

theorem handle_inv (running : s.running = true) (inv : Inv subjects s)
    (next : step settings subjects s .handle = some t) : Inv subjects t := by
  simp only [step] at next
  split_ifs at next with free
  cases next
  refine ⟨inv.toBase,?_,⟨rfl,rfl⟩,inv.answered (by simp [free.2])⟩
  intro _ stage called
  have idle : s.handler.isRestoring = false := by rw [free.2]; rfl
  exact ⟨rfl,(inv.halted idle stage called).2.1,fun _ => rfl⟩

theorem drained_inv (enforce : settings.mode = .enforce) (inv : Inv subjects s)
    (calm : ¬s.Overlap) (next : step settings subjects s (.drained ok) = some t) : Inv subjects t := by
  simp only [step] at next
  split at next
  · rename_i draining
    cases ok with
    | true =>
      obtain ⟨tasks,asked,rfl⟩ := Option.map_eq_some_iff.mp next
      obtain ⟨kept,calls⟩ := Tasks.reauthenticate_kept enforce inv.opened asked
      have answered := inv.answered (by simp [draining])
      have apart : s.handler.isRestoring = false := by rw [draining]; rfl
      have staged := inv.staged
      simp only [State.Staged,draining] at staged
      refine ⟨inv.toBase.of_tasks kept,fun _ => inv.halted apart,staged,?_⟩
      rw [calls,answered]
      rfl
    | false =>
      cases next
      exact fail_inv inv.toBase (inv.answered (by simp [draining])) (inv.drained calm)
  · cases next

theorem reauthenticated_inv (running : s.running = true) (inv : Inv subjects s) (calm : ¬s.Overlap)
    (next : step settings subjects s .reauthenticated = some t) : Inv subjects t := by
  simp only [step,running] at next
  split at next
  · rename_i earlier waiting
    have answered {answer} (given : s.tasks.answers[earlier]? = some answer) :
        s.tasks.calls = s.tasks.answers.length := by
      have calls := inv.calls
      simp only [State.expected,waiting] at calls
      have least := (List.getElem?_eq_some_iff.mp given).1
      have most : s.tasks.answers.length ≤ s.tasks.calls := Nat.le_add_right _ _
      omega
    split at next
    · rename_i given
      cases next
      have staged := inv.staged
      simp only [State.Staged,waiting] at staged
      exact subscribe_inv inv.toBase (answered given) (inv.drained calm) (fun _ => ⟨staged.1,staged.2,Nat.zero_le _⟩)
    · rename_i given
      cases next
      exact fail_inv inv.toBase (answered given) (inv.drained calm)
    · cases next
  · cases next

theorem subscribed_inv (inv : Inv subjects s) (calm : ¬s.Overlap)
    (next : step settings subjects s (.subscribed ok) = some t) : Inv subjects t := by
  simp only [step] at next
  split at next
  · rename_i done subscribing
    have apart := not_called calm (by rw [subscribing]; rfl)
    have staged := inv.staged
    simp only [State.Staged,subscribing] at staged
    obtain ⟨admitting,some,more⟩ := staged apart
    have answered := inv.answered (by simp [subscribing])
    cases ok with
    | true =>
      cases next
      refine subscribe_inv inv.toBase answered (fun drains => absurd (drains.symm.trans apart) (by simp))
        (fun _ => ⟨admitting,?_,more⟩)
      exact congrArg (· + 1) some
    | false =>
      cases next
      exact fail_inv inv.toBase answered (inv.drained calm)
  · cases next

theorem published_inv (enforce : settings.mode = .enforce) (inv : Inv subjects s)
    (calm : Calm s (.published ok)) (next : step settings subjects s (.published ok) = some t) : Inv subjects t := by
  simp only [step] at next
  split at next
  · rename_i publishing
    have apart := not_called calm.1 (by rw [publishing]; rfl)
    cases ok with
    | true =>
      obtain ⟨tasks,begun,rfl⟩ := Option.map_eq_some_iff.mp next
      obtain ⟨opened,strict,alive,called,answers,calls⟩ :=
        Tasks.startRenewal_enforced enforce inv.opened inv.strict (fun _ => calm.2) begun
      have staged := inv.staged
      simp only [State.Staged,publishing] at staged
      obtain ⟨all,admits⟩ := staged apart
      refine ⟨⟨opened,strict,fun again => inv.called (called again),inv.unheard⟩,?_,fun _ => ?_,?_⟩
      · intro _ stage found
        exact absurd (found.symm.trans apart) (by simp)
      · rcases admits with admitting | unhandled
        · exact .inl ⟨admitting,all,rfl,alive⟩
        · exact .inr (.inr unhandled)
      · show tasks.calls = tasks.answers.length
        rw [calls,answers]
        exact inv.answered (by simp [publishing])
    | false =>
      cases next
      exact fail_inv inv.toBase (inv.answered (by simp [publishing])) (inv.drained calm.1)
  · cases next

theorem step_trust (s : State) {act : Tasks.Act} (other : act ≠ .called) :
    step settings subjects s (.trust act) =
      if act.isInternal ∧ Tasks.Verified s.tasks act then (Tasks.step settings s.tasks act).map s.observe else none := by
  cases act with
  | called => exact absurd rfl other
  | _ => rfl

theorem observe_running (s : State) (tasks : Tasks.State) : (s.observe tasks).running = s.running := by
  unfold State.observe
  split <;> rfl

theorem subscribe_running (s : State) (done : Nat) : (s.subscribe subjects done).running = s.running := by
  unfold State.subscribe State.fail
  split_ifs <;> rfl

theorem step_running {act : Act} (next : step settings subjects s act = some t)
    (running : t.running = true) : s.running = true := by
  cases act with
  | trust act =>
    by_cases called : act = .called
    · subst called
      simp only [step] at next
      split_ifs at next
      obtain ⟨tasks,-,rfl⟩ := Option.map_eq_some_iff.mp next
      exact running
    · rw [step_trust s called] at next
      split_ifs at next
      obtain ⟨tasks,-,rfl⟩ := Option.map_eq_some_iff.mp next
      rwa [observe_running] at running
  | drained ok | published ok =>
    simp only [step] at next
    split_ifs at next
    · obtain ⟨tasks,-,rfl⟩ := Option.map_eq_some_iff.mp next
      exact running
    · cases next
      exact running
  | reauthenticated | subscribed => grind [step,State.fail,subscribe_running]
  | calledHalt | disconnect | disconnected | reconnect | handle | halted | stopped | cancelled | cancelledWaiting | close =>
    grind [step]

theorem step_inv (enforce : settings.mode = .enforce) {act : Act} (inv : s.running = true → Inv subjects s)
    (calm : Calm s act) (next : step settings subjects s act = some t) : t.running = true → Inv subjects t := by
  intro still
  have running := step_running next still
  have inv := inv running
  have staged := inv.staged
  have stepped := next
  cases act with simp only [step] at next
  | trust act =>
    by_cases called : act = .called
    · subst called
      exact called_inv inv calm.1 stepped
    · rw [step_trust s called] at stepped
      split_ifs at stepped with allowed
      obtain ⟨tasks,went,rfl⟩ := Option.map_eq_some_iff.mp stepped
      exact observe_inv inv calm called (Tasks.step_enforced enforce allowed.1 allowed.2 inv.opened inv.strict went)
  | calledHalt => exact calledHalt_inv inv stepped
  | disconnect =>
    split_ifs at next
    cases next
    exact inv.signal (.inr rfl) (fun _ => rfl) (.inl rfl)
  | disconnected =>
    split_ifs at next with unheard
    cases next
    exact inv.signal (.inl rfl) (by simp) (.inl (inv.unheard unheard))
  | reconnect =>
    split_ifs at next with down
    cases next
    have heard : s.unheard = false := by simpa using (not_or.mp (mt (Bool.or_eq_true _ _).mpr down)).2
    exact inv.signal (.inr rfl) (by simp [heard]) (.inr (Nat.succ_pos _))
  | handle => exact handle_inv running inv stepped
  | drained ok => exact drained_inv enforce inv calm.1 stepped
  | reauthenticated => exact reauthenticated_inv running inv calm.1 stepped
  | subscribed ok => exact subscribed_inv inv calm.1 stepped
  | published ok => exact published_inv enforce inv calm stepped
  | halted =>
    split_ifs at next with stopping
    cases next
    simp only [State.Staged,stopping] at staged
    refine ⟨inv.toBase,?_,⟨staged.1,rfl,staged.2⟩,inv.answered (by simp [stopping])⟩
    exact fun _ stage called => ⟨staged.1,staged.2,fun _ => rfl⟩
  | stopped =>
    split_ifs at next with stopping
    cases next
    simp only [State.Staged,stopping] at staged
    refine ⟨inv.toBase,?_,fun _ => .inr (.inl staged),inv.answered (by simp [stopping])⟩
    exact fun _ stage called => ⟨staged.1,staged.2.2,fun _ => staged.2.1⟩
  | cancelled =>
    split_ifs at next with down
    cases next
    refine ⟨inv.toBase.of_tasks ⟨rfl,rfl⟩,?_,fun _ => .inr (.inr (.inl down.1)),abandon_calls s.tasks⟩
    intro _ stage called
    cases restoring : s.handler.isRestoring with
    | true =>
      have none := not_called calm.1 restoring
      exact absurd (called.symm.trans none) (by simp)
    | false => exact inv.halted restoring stage called
  | cancelledWaiting =>
    split_ifs at next with down
    cases next
    exact inv.signal (.inr rfl) inv.unheard (.inl down.1)
  | close =>
    split_ifs at next
    cases next
    exact absurd still (by simp)

theorem whole_of_calm (enforce : settings.mode = .enforce) {clock : Int} {session : Session}
    (live : clock < session.expiresAt) {acts : List Act}
    (calm : Every (step settings subjects) Calm (started subjects clock session) acts) :
    Always (step settings subjects) (Whole subjects) (started subjects clock session) acts := by
  refine always_of_every (fun s act t inv calm next => step_inv enforce inv calm next) (fun s => Inv.whole) ?_ calm
  refine fun _ => ⟨⟨rfl,by simp [started],by simp [started],by simp [started]⟩,by simp [State.Called,started],
    fun _ => .inl ⟨rfl,rfl,rfl,rfl,fun _ => ?_⟩,rfl⟩
  have late : ¬session.expiresAt ≤ clock := by omega
  simp [started,Tasks.State.isLive,Tasks.State.active,Lifecycle.active,Tasks.init,late]

end

namespace Samples

def settings : Settings := ⟨.enforce,3⟩

def first : Session := ⟨"first",0,3600000000⟩

/-- The connection is lost, and the handler authenticates again when it is back, with two subjects. -/
def reconnecting (session : Session) : List Act :=
  [.disconnect,.disconnected,.reconnect,.handle,.drained true,.trust (.settle (.ok session)),.reauthenticated,
    .subscribed true,.subscribed true]

def rejected : List Act := [.trust .wake,.trust .wake,.trust (.settle (.error (.message "rejected")))]

def overlapping : List Act :=
  rejected ++ [.calledHalt] ++ reconnecting ⟨"second",0,7200000000⟩ ++ [.published true,.trust .called]

def publishing : List Act :=
  rejected ++ [.calledHalt,.trust .called] ++ reconnecting first ++ [.trust (.pass 3600000000),.published true]

/-- The session expires before the task of the loop has run. -/
def beginning : List Act := [.trust (.pass 3600000000),.trust .wake]

/-- The loop sleeps as the first session has told it, and the second one lasts a minute. -/
def sleeping : List Act :=
  [.trust .wake] ++ reconnecting ⟨"second",0,60000000⟩ ++ [.published true,.trust (.pass 60000000)]

def calm : List Act :=
  reconnecting ⟨"second",0,7200000000⟩ ++ [.published true] ++ rejected ++ [.calledHalt,.trust .called] ++
    reconnecting first ++ [.published true]

end Samples

end Cap.Trust.Python.Agent

namespace Cap.Trust
open Cap.Runs

/-- In ENFORCE, no agent that runs is half alive when nothing is in progress, in every run that
    starts with a live session and whose actions find it calm: no failure callback is at work
    together with a handler that restores the agent, and no session runs out before its loop has
    renewed it. -/
theorem no_half_alive_agent {settings : Settings} (enforce : settings.mode = .enforce) (clock : Int) (session : Session)
    (live : clock < session.expiresAt) :
    (∀ acts, Every (Node.Agent.step settings) Node.Agent.Calm (Node.Agent.started clock session) acts →
      Always (Node.Agent.step settings) Node.Agent.Whole (Node.Agent.started clock session) acts) ∧
    ∀ subjects acts,
      Every (Python.Agent.step settings subjects) Python.Agent.Calm (Python.Agent.started subjects clock session) acts →
      Always (Python.Agent.step settings subjects) (Python.Agent.Whole subjects)
        (Python.Agent.started subjects clock session) acts :=
  ⟨fun _ calm => Node.Agent.whole_of_calm enforce live calm,fun _ _ calm => Python.Agent.whole_of_calm enforce live calm⟩

namespace Samples

section

open Node.Agent Node.Agent.Samples

/-- What a run leaves is half alive. -/
def nodeHalf (acts : List Act) : Bool :=
  (run (step settings) (started 0 first) acts).any fun t => t.Settled && !t.Full && !t.Stopped

end

section

open Python.Agent Python.Agent.Samples

def pythonHalf (acts : List Act) : Bool :=
  (run (step settings 2) (started 2 0 first) acts).any fun t => t.Settled && !t.Full 2 && !t.Stopped

end

/-- In each SDK: the callback drains while the handler starts everything but a loop; the session
    runs out before the handler starts the loop; it has when the loop looks at it; it does while
    the loop sleeps for an older one. -/
theorem agents_half_alive :
    (nodeHalf Node.Agent.Samples.overlapping ∧ nodeHalf Node.Agent.Samples.publishing ∧
      nodeHalf Node.Agent.Samples.renewing ∧ nodeHalf Node.Agent.Samples.sleeping) ∧
    pythonHalf Python.Agent.Samples.overlapping ∧ pythonHalf Python.Agent.Samples.publishing ∧
      pythonHalf Python.Agent.Samples.beginning ∧ pythonHalf Python.Agent.Samples.sleeping := by
  decide

theorem agents_reconnected :
    Always (Node.Agent.step Node.Agent.Samples.settings) Node.Agent.Whole
        (Node.Agent.started 0 Node.Agent.Samples.first) Node.Agent.Samples.calm ∧
      Always (Python.Agent.step Python.Agent.Samples.settings 2) (Python.Agent.Whole 2)
        (Python.Agent.started 2 0 Python.Agent.Samples.first) Python.Agent.Samples.calm := by
  constructor
  · exact (no_half_alive_agent rfl 0 _ (by decide)).1 _ (by decide)
  · exact (no_half_alive_agent rfl 0 _ (by decide)).2 2 _ (by decide)

end Samples

end Cap.Trust
