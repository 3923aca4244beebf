import Cap.NodeLifecycle

/-!
The agent of the Node SDK while it runs: the renewal loop with its failure callback, and the
watcher of the connection. Both take down and set up the admission, the subscriptions and the
heartbeat. An action is what runs without an await in it.
-/
namespace Cap.Trust.Node.Tasks
open Cap.Checks

def Loop.isRunning : Loop → Bool
  | .ended _ => false
  | .sleep | .renewing | .resume _ | .pause | .callback => true

/-- Where only a loop gets to that goes on after a failure. -/
def Loop.isLenient : Loop → Bool
  | .pause | .resume (.ok false) => true
  | .ended _ | .sleep | .renewing | .resume (.ok true) | .resume (.error _) | .callback => false

def Act.isInternal : Act → Bool
  | .authenticate | .renew | .reauthenticate | .startRenewal | .close => false
  | .pass _ | .read | .begin | .settle _ | .abandon | .late _ | .retry | .wake | .resume | .called => true

/-- The renewal of the loop has failed, and its callback is due or in progress. -/
def Loop.isFailing : Loop → Bool
  | .resume (.error _) | .callback => true
  | .ended _ | .sleep | .renewing | .resume (.ok _) | .pause => false

/-- There is a session, and it has not expired. -/
def State.isLive (s : State) : Bool := s.active.lifecycle.current.isSome

/-- The loop runs, and its session is live unless the loop is to report that it could not renew it. -/
def State.Alive (s : State) : Prop := s.loop.isRunning = true ∧ (s.loop.isFailing = false → s.isLive = true)

/-- No session runs out while time passes, and an exchange returns none that has. -/
def Timely (s : State) : Act → Prop
  | .pass delay => ∀ session ∈ s.lifecycle.current, s.clock + delay < session.expiresAt
  | .settle (.ok session) => s.clock < session.expiresAt
  | _ => True

instance (s : State) (act : Act) : Decidable (Timely s act) := by
  unfold Timely
  split <;> infer_instance

/-- The works of the queue and the one that is in progress. -/
def State.works (s : State) : List Work := s.running.toList.map Prod.fst ++ s.queue

/-- The agent asks for new sessions; only the loop renews one. -/
def Work.Issues (work : Work) : Prop := work.caller = .outside → work.presented = none

theorem isLive_active (s : State) : s.active.isLive = s.isLive :=
  congrArg (·.current.isSome) (Lifecycle.active_active s.clock s.lifecycle)

theorem isLive_of_token {s : State} (named : s.active.lifecycle.token ≠ "") : s.isLive = true := by
  unfold State.isLive
  cases found : s.active.lifecycle.current with
  | none => exact absurd (by rw [Lifecycle.token,found]; rfl) named
  | some session => rfl

theorem State.Alive.active {s : State} (alive : s.Alive) : s.active.Alive :=
  ⟨alive.1,fun calm => (isLive_active s).trans (alive.2 calm)⟩

/-- What becomes of a lifecycle when a work of it sends an exchange or ends; the session is live
    after it under the condition that is given. -/
structure Answered (live : Prop) (work : Work) (s t : State) : Prop where
  closed : t.lifecycle.closed = s.lifecycle.closed
  strict : s.loop.isLenient = false → t.loop.isLenient = false
  works : t.works ⊆ work :: s.queue
  alive : live → work.Issues → s.Alive → t.Alive

section

variable {p : Prop} {work : Work} {s t : State}

theorem Answered.of_active (answered : Answered p work s.active t) : Answered p work s t :=
  ⟨answered.closed,answered.strict,answered.works,fun holds issues alive => answered.alive holds issues alive.active⟩

theorem answered_finish {result : Except Thrown Bool} (told : result ≠ .ok false)
    (live : p → result = .ok true → s.isLive = true) : Answered p work s (finish work result s) := by
  unfold finish
  cases work.caller with
  | loop =>
    cases result with
    | error failure => exact ⟨rfl,fun _ => rfl,by simp [State.works],fun _ _ _ => ⟨rfl,fun calm => by cases calm⟩⟩
    | ok value =>
      cases value with
      | true => exact ⟨rfl,fun _ => rfl,by simp [State.works],fun holds _ _ => ⟨rfl,fun _ => live holds rfl⟩⟩
      | false => exact absurd rfl told
  | outside => exact ⟨rfl,id,by simp [State.works],fun _ _ alive => alive⟩

theorem answered_send (attempt : Nat) : Answered p work s (send work attempt s) := by
  refine ⟨congrArg Lifecycle.closed (send_lifecycle work attempt s),?_,by simp [State.works],fun _ _ alive => ?_⟩
  · rw [send_loop]
    exact id
  · unfold send
    cases work.presented <;> exact alive

/-- In ENFORCE, an open lifecycle stays open by itself and renews its session without the agent; and
    its loop goes on with a live session until it has called back. -/
structure Enforced (s : State) (act : Act) (t : State) : Prop where
  opened : t.lifecycle.closed = false
  strict : t.loop.isLenient = false
  works : ∀ work ∈ t.works, work ∈ s.works ∨ work.caller = .loop
  alive : Timely s act → (∀ work ∈ s.works, work.Issues) → s.loop ≠ .callback → s.Alive → t.Alive

theorem Answered.enforced {rest : List Work} (answered : Answered p work { s with queue := rest } t) {act : Act}
    (all : s.works = work :: rest) (opened : s.lifecycle.closed = false) (strict : s.loop.isLenient = false)
    (timely : Timely s act → p) : Enforced s act t := by
  refine ⟨answered.closed.trans opened,answered.strict strict,fun other member => .inl (all ▸ answered.works member),?_⟩
  exact fun timed issues _ alive => answered.alive (timely timed) (issues work (by simp [all])) alive

variable {settings : Settings}

theorem enforced_resume (opened : s.lifecycle.closed = false) (strict : s.loop.isLenient = false)
    (next : step settings s .resume = some t) : Enforced s .resume t := by
  simp only [step,opened] at next
  split at next
  · rename_i renewed
    cases next
    simp only [head,opened,Bool.false_eq_true,if_false]
    refine ⟨opened,?_,fun _ => .inl,fun _ _ _ alive => ?_⟩
    · split <;> rfl
    · have live := alive.2 (by rw [renewed]; rfl)
      have some : s.active.lifecycle.current ≠ none := Option.isSome_iff_ne_none.mp live
      simp only [Option.isNone_iff_eq_none,some]
      exact ⟨rfl,fun _ => (isLive_active s).trans live⟩
  · rename_i failed
    rw [failed] at strict
    cases strict
  · cases next
    exact ⟨opened,rfl,fun _ => .inl,fun _ _ _ _ => ⟨rfl,fun calm => by cases calm⟩⟩
  · cases next

theorem reauthenticate_kept (next : step settings s .reauthenticate = some t) :
    t.lifecycle.closed = s.lifecycle.closed ∧ t.loop = s.loop ∧
      ∀ work ∈ t.works, work ∈ s.works ∨ work = ⟨none,.outside⟩ := by
  cases next
  unfold authenticate
  split_ifs
  · exact ⟨rfl,rfl,fun _ => .inl⟩
  · exact ⟨rfl,rfl,fun _ => .inl⟩
  · refine ⟨rfl,rfl,fun work member => ?_⟩
    simp only [State.works,List.mem_append,List.mem_singleton,or_assoc] at member ⊢
    exact member

variable (enforce : settings.mode = .enforce)
include enforce

theorem handleFailure_enforce (failure : Thrown) (renewal : Bool) (now : Int)
    (s : Lifecycle) : (handleFailure settings failure renewal now s).1 = .error failure := by
  simp [handleFailure,enforce]

theorem answered_fail (failure : Thrown) :
    Answered p work s (fail settings work failure s) := by
  have finished : Answered p work { s with
      lifecycle := (handleFailure settings failure work.presented.isSome s.clock s.lifecycle).2 }
      (finish work (.error failure) _) := answered_finish (by simp) (by simp)
  rw [fail_eq,handleFailure_enforce enforce]
  refine ⟨finished.closed.trans (Dropped.handleFailure settings _ _ _ _).closed,finished.strict,finished.works,?_⟩
  intro _ issues alive
  cases called : work.caller with
  | loop =>
    simp only [finish,called]
    exact ⟨rfl,fun calm => by cases calm⟩
  | outside =>
    -- An ISSUE that fails leaves the session that is there.
    have kept : (handleFailure settings failure work.presented.isSome s.clock s.lifecycle).2 = s.active.lifecycle := by
      simp [handleFailure,issues called,State.active,enforce]
    simp only [finish,called,kept]
    exact alive.active

theorem answered_begin : Answered p work s (exchangeWithRetries settings work s) := by
  refine Answered.of_active ?_
  unfold exchangeWithRetries
  cases work.presented with
  | none =>
    split_ifs
    · exact answered_fail enforce _
    · exact answered_send 0
  | some token =>
    dsimp only
    split_ifs with other named
    · exact answered_finish (by simp) fun _ _ => (isLive_active s).trans (isLive_of_token named)
    · exact answered_fail enforce _
    · exact answered_fail enforce _
    · exact answered_send 0

theorem answered_settled (attempt : Nat)
    (outcome : Except Thrown Session) (opened : s.lifecycle.closed = false) :
    Answered (Timely s (.settle outcome)) work s (settled settings work attempt outcome s) := by
  cases outcome with
  | ok session =>
    have unclosed : ¬s.lifecycle.closed = true := by simp [opened]
    simp only [settled,if_neg unclosed]
    let installed : State := { s with
      granted := some session,lifecycle := { s.lifecycle with current := some session } }
    have live : Timely s (.settle (.ok session)) → installed.isLive = true := fun timely => by
      have late : s.clock < session.expiresAt := timely
      simp [State.isLive,State.active,Lifecycle.active,late,installed]
    have finished : Answered _ work installed (finish work (.ok true) _) :=
      answered_finish (by simp) fun timely _ => live timely
    exact ⟨finished.closed,finished.strict,finished.works,
      fun timely issues alive => finished.alive timely issues ⟨alive.1,fun _ => live timely⟩⟩
  | error failure =>
    simp only [settled,opened,Bool.false_eq_true,if_false]
    split
    · exact ⟨rfl,id,by simp [State.works],fun _ _ alive => alive⟩
    · exact answered_fail enforce failure

theorem enforced_wake (opened : s.lifecycle.closed = false)
    (strict : s.loop.isLenient = false) (next : step settings s .wake = some t) : Enforced s .wake t := by
  simp only [step,opened,Bool.false_eq_true,if_false] at next
  split at next
  · simp only [renew,handleFailure_enforce enforce] at next
    split at next
    · rename_i found
      split_ifs at found with empty closed
      · obtain ⟨rfl,rfl⟩ := Prod.mk.inj (Sum.inl.inj found)
        cases next
        refine ⟨?_,rfl,fun _ => .inl,fun _ _ _ _ => ⟨rfl,fun calm => by cases calm⟩⟩
        exact (Dropped.handleFailure settings _ true s.clock s.active.lifecycle).closed.trans opened
      · exact absurd (opened.symm.trans closed) (by simp)
    · rename_i found
      split_ifs at found with named
      obtain rfl := Sum.inr.inj found
      cases next
      refine ⟨opened,rfl,fun work member => ?_,fun _ _ _ _ => ⟨rfl,fun _ => (isLive_active s).trans (isLive_of_token named)⟩⟩
      simp only [State.works,List.mem_append,List.mem_singleton] at member ⊢
      rcases member with held | queued | rfl
      · exact .inl (.inl held)
      · exact .inl (.inr queued)
      · exact .inr rfl
  · rename_i paused
    rw [paused] at strict
    cases strict
  · cases next

theorem step_enforced {act : Act} (internal : act.isInternal = true)
    (opened : s.lifecycle.closed = false) (strict : s.loop.isLenient = false) (next : step settings s act = some t) :
    Enforced s act t := by
  cases act with simp only [step] at next
  | authenticate | renew | reauthenticate | startRenewal | close => cases internal
  | pass delay =>
    cases next
    refine ⟨opened,strict,fun _ => .inl,fun timely _ _ alive => ⟨alive.1,fun calm => ?_⟩⟩
    obtain ⟨session,found⟩ := Option.isSome_iff_exists.mp (alive.2 calm)
    obtain ⟨held,-⟩ := Option.filter_eq_some_iff.mp found
    have late : s.clock + delay < session.expiresAt := timely session held
    simp [State.isLive,State.active,Lifecycle.active,held,late]
  | read =>
    cases next
    exact ⟨opened,strict,fun _ => .inl,fun _ _ _ alive => alive.active⟩
  | begin =>
    split at next
    · rename_i work rest waiting free
      cases next
      exact (answered_begin enforce).enforced (by simp [State.works,waiting,free]) opened strict id
    · cases next
  | settle outcome =>
    split at next
    · rename_i work attempt sent
      cases next
      exact (answered_settled enforce attempt outcome opened).enforced (by simp [State.works,sent]) opened strict id
    · cases next
  | abandon =>
    simp only [opened] at next
    split at next <;> cases next
  | late outcome =>
    split_ifs at next
    cases next
    exact ⟨opened,strict,fun _ => .inl,fun _ _ _ alive => alive⟩
  | retry =>
    split at next
    · rename_i work attempt slept
      cases next
      exact (answered_send (attempt + 1)).enforced (by simp [State.works,slept]) opened strict id
    · cases next
  | wake => exact enforced_wake enforce opened strict next
  | resume => exact @enforced_resume s t settings opened strict next
  | called =>
    split_ifs at next with callback
    cases next
    exact ⟨opened,rfl,fun _ => .inl,fun _ _ apart => absurd callback apart⟩

/-- With a live session, or when the renewal of its loop has failed, `startRenewal` leaves a loop
    that runs. -/
theorem startRenewal_enforced (opened : s.lifecycle.closed = false)
    (named : s.loop.isFailing = false → s.active.lifecycle.token ≠ "") (next : step settings s .startRenewal = some t) :
    t.lifecycle.closed = false ∧ (s.loop.isLenient = false → t.loop.isLenient = false) ∧ t.works = s.works ∧ t.Alive ∧
      (t.loop = .callback → s.loop = .callback) := by
  have kept : ¬(s.lifecycle.closed = true ∨ settings.mode = .off) := by simp [opened,enforce]
  have live : s.loop.isFailing = false → s.active.isLive = true := fun calm =>
    (isLive_active s).trans (isLive_of_token (named calm))
  simp only [step,if_neg kept] at next
  split at next
  · rename_i reason done
    have calm : s.loop.isFailing = false := by rw [done]; rfl
    rw [if_neg (named calm)] at next
    cases next
    have closed : s.active.lifecycle.closed = false := opened
    have some : s.active.active.lifecycle.current ≠ none := Option.isSome_iff_ne_none.mp (live calm)
    simp only [head,closed,Option.isNone_iff_eq_none,some]
    exact ⟨opened,fun _ => rfl,rfl,⟨rfl,fun _ => (isLive_active s.active).trans (live calm)⟩,by simp⟩
  · rename_i other
    cases next
    refine ⟨opened,id,rfl,⟨?_,live⟩,id⟩
    cases found : s.loop with
    | ended reason => exact absurd found (other reason)
    | _ => simp [State.active,found,Loop.isRunning]

end

end Cap.Trust.Node.Tasks

namespace Cap.Trust.Node.Agent
open Cap.Runs

inductive Status where
  | disconnect | reconnect
deriving DecidableEq

inductive Handler where
  | idle
  | draining
  /-- `reauthenticate` is awaited; its answer is the one after so many others. -/
  | reauthenticating (earlier : Nat)
  /-- The session is there and jobs are admitted; the handler is about to go on. -/
  | authenticated
  | publishing
  /-- `onTrustFailure` drains the subscriptions. -/
  | stopping
deriving DecidableEq

structure State where
  tasks : Tasks.State
  running : Bool
  connected : Bool
  /-- The events that the watcher has not taken yet. -/
  pending : List Status
  admitting : Bool
  /-- The handlers of all topics are subscribed; otherwise none is. -/
  subscribed : Bool
  heartbeat : Bool
  handler : Handler

def started (clock : Int) (session : Session) : State where
  tasks := { Tasks.init clock with
    lifecycle := ⟨some session,false⟩
    loop := .sleep
    answers := [.ok true]
    granted := some session }
  running := true
  connected := true
  pending := []
  admitting := true
  subscribed := true
  heartbeat := true
  handler := .idle

inductive Act where
  | trust (act : Tasks.Act)
  | disconnect
  | reconnect
  | status
  | drained
  | reauthenticated
  /-- The handler subscribes, and begins to publish; or subscribing throws. -/
  | subscribe (ok : Bool)
  /-- The publish is settled. -/
  | published (ok : Bool)
  | stopped
  | close
deriving DecidableEq

/-- `onTrustFailure` up to its await: the list of the subscriptions is emptied before they drain. -/
def State.stop (s : State) : State := { s with admitting := false,heartbeat := false,subscribed := false }

/-- The lifecycle went on; when its loop calls back, `onTrustFailure` begins. -/
def State.observe (s : State) (tasks : Tasks.State) : State :=
  if tasks.loop = .callback ∧ s.tasks.loop ≠ .callback then { s.stop with tasks } else { s with tasks }

def step (settings : Settings) (s : State) : Act → Option State
  | .trust act => if act.isInternal then (Tasks.step settings s.tasks act).map s.observe else none
  | .disconnect =>
    if s.connected then some { s with connected := false,pending := s.pending ++ [.disconnect] } else none
  | .reconnect =>
    if s.connected then none else some { s with connected := true,pending := s.pending ++ [.reconnect] }
  | .status =>
    if s.running ∧ s.handler = .idle then
      match s.pending with
      | .disconnect :: rest => some { s with pending := rest,admitting := false,heartbeat := false }
      | .reconnect :: rest => some { s.stop with pending := rest,handler := .draining }
      | [] => none
    else none
  | .drained =>
    if s.handler = .draining then
      (Tasks.step settings s.tasks .reauthenticate).map fun tasks =>
        { s with tasks,admitting := false,handler := .reauthenticating s.tasks.answers.length }
    else none
  | .reauthenticated =>
    match s.handler with
    | .reauthenticating earlier =>
      match s.tasks.answers[earlier]? with
      | some (.ok _) => some { s with admitting := true,handler := .authenticated }
      | some (.error _) => some { s.stop with handler := .stopping }
      | none => none
    | _ => none
  | .subscribe ok =>
    if s.handler = .authenticated then
      if s.running then
        -- The handshake carries the session's token, and without one nothing is published.
        if ok ∧ s.tasks.active.lifecycle.token ≠ "" then
          some { s with tasks := s.tasks.active,subscribed := true,handler := .publishing }
        else some { s.stop with tasks := if ok then s.tasks.active else s.tasks,handler := .stopping }
      else some { s with handler := .idle }
    else none
  | .published ok =>
    if s.handler = .publishing then
      if ok then (Tasks.step settings s.tasks .startRenewal).map fun tasks =>
        { s with tasks,heartbeat := true,handler := .idle }
      else some { s.stop with handler := .stopping }
    else none
  | .stopped => if s.handler = .stopping then some { s with handler := .idle } else none
  | .close => if s.running then some { s with running := false } else none

/-- Everything is on, with a live session and a loop that renews it. -/
def State.Full (s : State) : Prop :=
  s.admitting = true ∧ s.subscribed = true ∧ s.heartbeat = true ∧ s.tasks.loop.isRunning = true ∧ s.tasks.isLive = true
deriving Decidable

def State.Stopped (s : State) : Prop := s.admitting = false ∧ s.subscribed = false ∧ s.heartbeat = false
deriving Decidable

/-- The agent runs, the connection is up, every event is handled, and neither the handler nor the
    callback of the loop is in progress; it is from when the renewal has failed. -/
def State.Settled (s : State) : Prop :=
  s.running = true ∧ s.connected = true ∧ s.pending = [] ∧ s.handler = .idle ∧ s.tasks.loop.isFailing = false
deriving Decidable

/-- The agent is not half alive. -/
def Whole (s : State) : Prop := s.Settled → s.Full ∨ s.Stopped

/-- The handler has its session and is not through yet. -/
def Handler.isRestoring : Handler → Bool
  | .authenticated | .publishing => true
  | .idle | .draining | .reauthenticating _ | .stopping => false

/-- The callback of the loop and the handler with its new session are at work together. -/
def State.Overlap (s : State) : Prop := s.handler.isRestoring = true ∧ s.tasks.loop = .callback
deriving Decidable

/-- No callback is in progress while the handler restores the agent; the session is live when the
    handler is through, and runs out neither on its way nor while the agent admits jobs on its own. -/
def Calm (s : State) (act : Act) : Prop :=
  ¬s.Overlap ∧ match act with
    | .published true => s.tasks.loop.isFailing = false → s.tasks.active.lifecycle.token ≠ ""
    | .trust act => s.handler = .idle → s.admitting = true → Tasks.Timely s.tasks act
    | _ => True

instance (s : State) (act : Act) : Decidable (Calm s act) := by
  unfold Calm
  split <;> infer_instance

/-- Everything is on, but the loop may have failed to renew its session. -/
def State.On (s : State) : Prop :=
  s.admitting = true ∧ s.subscribed = true ∧ s.heartbeat = true ∧ s.tasks.Alive

/-- How much of the agent is on, by what its handler is doing. -/
def State.Staged (s : State) : Prop :=
  match s.handler with
  | .idle => (s.tasks.loop = .callback → s.Stopped) ∧
      (s.On ∨ s.Stopped ∨ s.connected = false ∨ .reconnect ∈ s.pending)
  | .draining | .reauthenticating _ | .stopping => s.Stopped
  | .authenticated => s.tasks.loop ≠ .callback → s.admitting = true ∧ s.subscribed = false ∧ s.heartbeat = false
  | .publishing => s.tasks.loop ≠ .callback → s.admitting = true ∧ s.subscribed = true ∧ s.heartbeat = false

structure Inv (s : State) : Prop where
  opened : s.tasks.lifecycle.closed = false
  strict : s.tasks.loop.isLenient = false
  issues : ∀ work ∈ s.tasks.works, work.Issues
  /-- The latest event that the watcher is going to see tells whether the connection is up. -/
  told : s.connected = true → s.pending.getLast? ≠ some .disconnect
  staged : s.Staged

variable {s : State}

theorem Inv.whole (inv : s.running = true → Inv s) : Whole s := by
  rintro ⟨running,connected,handled,idle,calm⟩
  have staged := (inv running).staged
  simp only [State.Staged,idle,connected,handled,List.not_mem_nil,or_false,reduceCtorEq] at staged
  refine staged.2.imp_left fun on => ⟨on.1,on.2.1,on.2.2.1,on.2.2.2.1,on.2.2.2.2 calm⟩

/-- When the agent is stopped, the handler may stand wherever it does not rely on anything. -/
theorem staged_of_stopped (stopped : s.Stopped)
    (aside : s.handler.isRestoring = true → s.tasks.loop = .callback) : s.Staged := by
  unfold State.Staged
  cases handler : s.handler with
  | idle => exact ⟨fun _ => stopped,.inr (.inl stopped)⟩
  | draining | reauthenticating | stopping => exact stopped
  | authenticated | publishing => exact fun other => absurd (aside (by rw [handler]; rfl)) other

theorem State.Staged.signal (staged : s.Staged) {connected : Bool} {pending : List Status}
    (unhandled : connected = false ∨ .reconnect ∈ pending) : State.Staged { s with connected,pending } := by
  unfold State.Staged at staged ⊢
  cases handler : s.handler with
  | idle =>
    simp only [handler] at staged ⊢
    exact ⟨staged.1,.inr (.inr unhandled)⟩
  | draining | reauthenticating | stopping | authenticated | publishing =>
    simp only [handler] at staged ⊢
    exact staged

section

variable {settings : Settings}

variable {s t : State}

theorem observe_staged {act : Tasks.Act} {tasks : Tasks.State} (staged : s.Staged)
    (issues : ∀ work ∈ s.tasks.works, work.Issues) (calm : Calm s (.trust act)) (enforced : Tasks.Enforced s.tasks act tasks) : (s.observe tasks).Staged := by
  unfold State.observe
  split
  · rename_i entered
    exact staged_of_stopped ⟨rfl,rfl,rfl⟩ (fun _ => entered.1)
  · rename_i outside
    have entered : tasks.loop = .callback → s.tasks.loop = .callback := fun called => by
      by_contra before
      exact outside ⟨called,before⟩
    have apart : s.handler.isRestoring = true → s.tasks.loop ≠ .callback := fun restoring called =>
      calm.1 ⟨restoring,called⟩
    unfold State.Staged at staged ⊢
    cases handler : s.handler with
    | idle =>
      simp only [handler] at staged ⊢
      refine ⟨fun called => staged.1 (entered called),?_⟩
      by_cases called : s.tasks.loop = .callback
      · exact .inr (.inl (staged.1 called))
      · refine staged.2.imp_left fun on => ⟨on.1,on.2.1,on.2.2.1,?_⟩
        exact enforced.alive (calm.2 handler on.1) issues called on.2.2.2
    | draining | reauthenticating | stopping =>
      simp only [handler] at staged ⊢
      exact staged
    | authenticated | publishing =>
      simp only [handler] at staged ⊢
      exact fun _ => staged (apart (by rw [handler]; rfl))

theorem observe_tasks (s : State) (tasks : Tasks.State) : (s.observe tasks).tasks = tasks := by
  unfold State.observe
  split <;> rfl

theorem observe_running (s : State) (tasks : Tasks.State) : (s.observe tasks).running = s.running := by
  unfold State.observe
  split <;> rfl

theorem observe_told (tasks : Tasks.State) (told : s.connected = true → s.pending.getLast? ≠ some .disconnect) :
    (s.observe tasks).connected = true → (s.observe tasks).pending.getLast? ≠ some .disconnect := by
  unfold State.observe
  split <;> exact told

/-- Behind a disconnect that is not the latest event there is a reconnect. -/
private theorem reconnect_mem {rest : List Status} (told : (Status.disconnect :: rest).getLast? ≠ some .disconnect) :
    .reconnect ∈ rest := by
  cases found : rest.getLast? with
  | none =>
    rw [List.getLast?_eq_none_iff.mp found] at told
    exact absurd rfl told
  | some event =>
    rw [List.getLast?_cons,found] at told
    cases event with
    | disconnect => exact absurd rfl told
    | reconnect => exact List.mem_of_getLast? found

theorem status_inv (inv : Inv s) (next : step settings s .status = some t) : Inv t := by
  simp only [step] at next
  split_ifs at next with free
  have staged := inv.staged
  simp only [State.Staged,free.2] at staged
  have later : ∀ {event rest}, s.pending = event :: rest → s.connected = true → rest.getLast? ≠ some .disconnect := by
    intro event rest found connected last
    refine inv.told connected ?_
    rw [found,List.getLast?_cons,last]
    rfl
  split at next
  · rename_i rest found
    cases next
    refine ⟨inv.opened,inv.strict,inv.issues,later found,?_⟩
    simp only [free.2]
    refine ⟨fun called => ⟨rfl,(staged.1 called).2.1,rfl⟩,?_⟩
    cases connected : s.connected with
    | false => exact .inr (.inr (.inl rfl))
    | true => exact .inr (.inr (.inr (reconnect_mem (found ▸ inv.told connected))))
  · rename_i rest found
    cases next
    exact ⟨inv.opened,inv.strict,inv.issues,later found,⟨rfl,rfl,rfl⟩⟩
  · cases next

theorem Inv.stopping (inv : Inv s) (active : Bool) :
    Inv { s.stop with tasks := if active then s.tasks.active else s.tasks,handler := .stopping } := by
  cases active with
  | true | false => exact ⟨inv.opened,inv.strict,inv.issues,inv.told,⟨rfl,rfl,rfl⟩⟩

theorem drained_inv (inv : Inv s) (next : step settings s .drained = some t) : Inv t := by
  simp only [step] at next
  split_ifs at next with draining
  obtain ⟨tasks,asked,rfl⟩ := Option.map_eq_some_iff.mp next
  obtain ⟨closed,loop,works⟩ := Tasks.reauthenticate_kept asked
  have staged := inv.staged
  simp only [State.Staged,draining] at staged
  refine ⟨closed.trans inv.opened,by rw [loop]; exact inv.strict,fun work member => ?_,inv.told,⟨rfl,staged.2⟩⟩
  rcases works work member with old | rfl
  · exact inv.issues work old
  · exact fun _ => rfl

theorem reauthenticated_inv (inv : Inv s) (next : step settings s .reauthenticated = some t) : Inv t := by
  simp only [step] at next
  split at next
  · rename_i earlier waiting
    have staged := inv.staged
    simp only [State.Staged,waiting] at staged
    split at next
    · cases next
      exact ⟨inv.opened,inv.strict,inv.issues,inv.told,fun _ => ⟨rfl,staged.2⟩⟩
    · cases next
      exact inv.stopping false
    · cases next
  · cases next

theorem subscribe_inv {ok : Bool} (running : s.running = true) (inv : Inv s)
    (next : step settings s (.subscribe ok) = some t) : Inv t := by
  simp only [step] at next
  split at next
  · rename_i authenticated
    split at next
    · cases next
      have staged := inv.staged
      simp only [State.Staged,authenticated] at staged
      exact ⟨inv.opened,inv.strict,inv.issues,inv.told,fun apart => ⟨(staged apart).1,rfl,(staged apart).2.2⟩⟩
    · cases next
      exact inv.stopping ok
  · cases next

theorem published_inv (enforce : settings.mode = .enforce) {ok : Bool} (inv : Inv s)
    (calm : Calm s (.published ok)) (next : step settings s (.published ok) = some t) : Inv t := by
  simp only [step] at next
  split at next
  · rename_i publishing
    have apart : s.tasks.loop ≠ .callback := fun called => calm.1 ⟨by rw [publishing]; rfl,called⟩
    cases ok with
    | true =>
      obtain ⟨tasks,begun,rfl⟩ := Option.map_eq_some_iff.mp next
      obtain ⟨opened,strict,works,alive,called⟩ := Tasks.startRenewal_enforced enforce inv.opened calm.2 begun
      have staged := inv.staged
      simp only [State.Staged,publishing] at staged
      refine ⟨opened,strict inv.strict,works ▸ inv.issues,inv.told,fun again => absurd (called again) apart,.inl ?_⟩
      exact ⟨(staged apart).1,(staged apart).2.1,rfl,alive⟩
    | false =>
      cases next
      exact inv.stopping false
  · cases next

theorem step_running {act : Act} (next : step settings s act = some t) (running : t.running = true) :
    s.running = true := by
  cases act with simp only [step] at next
  | trust act =>
    split_ifs at next
    obtain ⟨tasks,-,rfl⟩ := Option.map_eq_some_iff.mp next
    rwa [observe_running] at running
  | drained =>
    split_ifs at next
    obtain ⟨tasks,-,rfl⟩ := Option.map_eq_some_iff.mp next
    exact running
  | published ok =>
    split_ifs at next
    · obtain ⟨tasks,-,rfl⟩ := Option.map_eq_some_iff.mp next
      exact running
    · cases next
      exact running
  | disconnect | reconnect | status | reauthenticated | subscribe | stopped | close =>
    grind [step,State.stop]

theorem step_inv (enforce : settings.mode = .enforce) {act : Act} (inv : s.running = true → Inv s)
    (calm : Calm s act) (next : step settings s act = some t) : t.running = true → Inv t := by
  intro still
  have running := step_running next still
  have inv := inv running
  have staged := inv.staged
  have stepped := next
  cases act with simp only [step] at next
  | trust act =>
    split_ifs at next with internal
    obtain ⟨tasks,went,rfl⟩ := Option.map_eq_some_iff.mp next
    have enforced := Tasks.step_enforced enforce internal inv.opened inv.strict went
    refine ⟨?_,?_,?_,observe_told tasks inv.told,observe_staged staged inv.issues calm enforced⟩ <;> rw [observe_tasks]
    · exact enforced.opened
    · exact enforced.strict
    · intro work member
      rcases enforced.works work member with old | loop
      · exact inv.issues work old
      · exact fun outside => by rw [loop] at outside; cases outside
  | disconnect =>
    split_ifs at next
    cases next
    exact ⟨inv.opened,inv.strict,inv.issues,by simp,staged.signal (.inl rfl)⟩
  | reconnect =>
    split_ifs at next
    cases next
    exact ⟨inv.opened,inv.strict,inv.issues,by simp,staged.signal (.inr (by simp))⟩
  | status => exact status_inv inv stepped
  | drained => exact drained_inv inv stepped
  | reauthenticated => exact reauthenticated_inv inv stepped
  | subscribe ok => exact subscribe_inv running inv stepped
  | published ok => exact published_inv enforce inv calm stepped
  | stopped =>
    split_ifs at next with stopping
    cases next
    simp only [State.Staged,stopping] at staged
    exact ⟨inv.opened,inv.strict,inv.issues,inv.told,staged_of_stopped staged (by simp [Handler.isRestoring])⟩
  | close =>
    split_ifs at next
    cases next
    exact absurd still (by simp)

theorem whole_of_calm (enforce : settings.mode = .enforce) {clock : Int} {session : Session}
    (live : clock < session.expiresAt) {acts : List Act}
    (calm : Every (step settings) Calm (started clock session) acts) :
    Always (step settings) Whole (started clock session) acts := by
  refine always_of_every (fun s act t inv calm next => step_inv enforce inv calm next) (fun s => Inv.whole) ?_ calm
  refine fun _ => ⟨rfl,rfl,by simp [started,Tasks.init,Tasks.State.works],by simp [started],by simp [started],.inl ?_⟩
  refine ⟨rfl,rfl,rfl,rfl,fun _ => ?_⟩
  simp [started,Tasks.State.isLive,Tasks.State.active,Lifecycle.active,Tasks.init,live]

end

namespace Samples

def settings : Settings := ⟨.enforce,3⟩

def first : Session := ⟨"first",0,3600000⟩

/-- The connection is lost, and the handler authenticates again when it is back. -/
def reconnecting (session : Session) : List Act :=
  [.disconnect,.status,.reconnect,.status,.drained,.trust .begin,.trust (.settle (.ok session)),.reauthenticated,
    .subscribe true]

/-- A renewal is rejected, and the callback begins. -/
def rejected : List Act :=
  [.trust .wake,.trust .begin,.trust (.settle (.error (.message "rejected"))),.trust .resume]

/-- The connection is lost and found while the callback drains. -/
def overlapping : List Act := rejected ++ reconnecting ⟨"second",0,7200000⟩ ++ [.published true,.trust .called]

/-- After a failure there is no loop any more, and the new session expires during the publish. -/
def publishing : List Act :=
  rejected ++ [.trust .called] ++ reconnecting first ++ [.trust (.pass 3600000),.published true]

/-- The loop gets a session that has expired. -/
def renewing : List Act := [.trust .wake,.trust .begin,.trust (.settle (.ok ⟨"second",0,0⟩)),.trust .resume]

/-- The handler gets a session for a minute, and the loop sleeps on as the first one has told it. -/
def sleeping : List Act := reconnecting ⟨"second",0,60000⟩ ++ [.published true,.trust (.pass 60000)]

/-- A reconnect, a rejected renewal, and a reconnect when everything has been stopped. -/
def calm : List Act :=
  reconnecting first ++ [.published true] ++ rejected ++ [.trust .called] ++ reconnecting first ++ [.published true]

end Samples

end Cap.Trust.Node.Agent
