import Cap.TrustLifecycle

/-!
`WorkerTrustLifecycle` of the Node SDK between its await points. Calls put their exchanges into a
queue, and the renewal loop is one of the callers. Exchanges settle when they like, also after
`close`.
-/
namespace Cap.Trust.Node.Tasks
open Cap.Text Cap.Wire Cap.Checks Cap.Runs

inductive Caller where
  | loop | outside
deriving DecidableEq

/-- A call of `exchangeWithRetries`; RENEW presents a token, ISSUE none. -/
structure Work where
  presented : Option String
  caller : Caller
deriving DecidableEq

inductive Progress where
  /-- `client.exchange` of this attempt is awaited. -/
  | exchange (attempt : Nat)
  /-- It sleeps after this attempt. -/
  | backoff (attempt : Nat)
deriving DecidableEq

inductive End where
  | unstarted
  /-- There was no live session. -/
  | expired
  | closed
  /-- `onEnforceFailure` was called. -/
  | failed
deriving DecidableEq

inductive Loop where
  | ended (reason : End)
  | sleep
  | renewing
  /-- The promise of `renew` is settled, and the loop is about to go on. -/
  | resume (result : Except Thrown Bool)
  | pause
  /-- `onEnforceFailure` is awaited. -/
  | callback
deriving DecidableEq

structure State where
  clock : Int
  lifecycle : Lifecycle
  queue : List Work
  running : Option (Work × Progress)
  /-- The exchanges that were in flight when `close` gave up waiting for them. -/
  abandoned : Nat
  loop : Loop
  /-- What the calls from outside were answered, the latest last. -/
  answers : List (Except Thrown Bool)
  /-- The session of the latest exchange that succeeded. -/
  granted : Option Session
  /-- The tokens that were presented, each with the one that was current at that time. -/
  renewals : List (String × String)

def init (clock : Int) : State := ⟨clock,⟨none,false⟩,[],none,0,.ended .unstarted,[],none,[]⟩

inductive Act where
  | pass (delay : Nat)
  | read
  | authenticate
  | renew
  | reauthenticate
  | startRenewal
  | close
  | begin
  /-- The awaited exchange is settled. -/
  | settle (outcome : Except Thrown Session)
  /-- The awaited exchange loses the race against the signal of `close`. -/
  | abandon
  /-- An abandoned exchange is settled. -/
  | late (outcome : Except Thrown Session)
  | retry
  | wake
  | resume
  /-- The promise of `onEnforceFailure` is settled. -/
  | called
deriving DecidableEq

/-- `activeSession`, for whoever reads it. -/
def State.active (s : State) : State := { s with lifecycle := s.lifecycle.active s.clock }

def finish (work : Work) (result : Except Thrown Bool) (s : State) : State :=
  match work.caller with
  | .loop => { s with running := none,loop := .resume result }
  | .outside => { s with running := none,answers := s.answers ++ [result] }

def send (work : Work) (attempt : Nat) (s : State) : State :=
  let s := { s with running := some (work,.exchange attempt) }
  match work.presented with
  | none => s
  | some token => { s with renewals := s.renewals ++ [(token,(s.lifecycle.active s.clock).token)] }

section

variable (work : Work) (attempt : Nat) (s : State)

@[simp] theorem send_lifecycle : (send work attempt s).lifecycle = s.lifecycle := by unfold send; cases work.presented <;> rfl
@[simp] theorem send_queue : (send work attempt s).queue = s.queue := by unfold send; cases work.presented <;> rfl
@[simp] theorem send_abandoned : (send work attempt s).abandoned = s.abandoned := by unfold send; cases work.presented <;> rfl
@[simp] theorem send_loop : (send work attempt s).loop = s.loop := by unfold send; cases work.presented <;> rfl
@[simp] theorem send_granted : (send work attempt s).granted = s.granted := by unfold send; cases work.presented <;> rfl
@[simp] theorem send_running : (send work attempt s).running = some (work,.exchange attempt) := by
  unfold send; cases work.presented <;> rfl

end

def head (s : State) : State :=
  if s.lifecycle.closed then { s with loop := .ended .closed }
  else
    let s := s.active
    { s with loop := if s.lifecycle.current.isNone then .ended .expired else .sleep }

section

variable (settings : Settings)

def fail (work : Work) (failure : Thrown) (s : State) : State :=
  let (result,lifecycle) := handleFailure settings failure work.presented.isSome s.clock s.lifecycle
  finish work result { s with lifecycle }

theorem fail_eq (work : Work) (failure : Thrown) (s : State) : fail settings work failure s =
    finish work (handleFailure settings failure work.presented.isSome s.clock s.lifecycle).1
      { s with lifecycle := (handleFailure settings failure work.presented.isSome s.clock s.lifecycle).2 } := rfl

/-- `exchangeWithRetries` up to its first await. -/
def exchangeWithRetries (work : Work) (s : State) : State :=
  let s := s.active
  match work.presented with
  | some token =>
    if s.lifecycle.token ≠ token then
      if s.lifecycle.token ≠ "" then finish work (.ok true) s
      else fail settings work (.message "renew requires a live session") s
    else if settings.retries = 0 then fail settings work (.message "worker trust exchange failed") s
    else send work 0 s
  | none =>
    if settings.retries = 0 then fail settings work (.message "worker trust exchange failed") s
    else send work 0 s

def settled (work : Work) (attempt : Nat) (outcome : Except Thrown Session) (s : State) : State :=
  match outcome with
  | .ok session =>
    let s := { s with granted := some session }
    if s.lifecycle.closed then finish work (.error .closed) s
    else finish work (.ok true) { s with lifecycle := { s.lifecycle with current := some session } }
  | .error failure =>
    if s.lifecycle.closed then finish work (.error failure) s
    else if failure.isOperational && attempt + 1 < settings.retries then
      { s with running := some (work,.backoff attempt) }
    else fail settings work failure s

def authenticate (s : State) : State :=
  if settings.mode = .off then { s with answers := s.answers ++ [.ok false] }
  else if s.lifecycle.closed then { s with answers := s.answers ++ [.error .closed] }
  else { s with queue := s.queue ++ [⟨none,.outside⟩] }

/-- `renew` up to its first await; without a token it throws, and with one it joins the queue. -/
def renew (s : State) : Except Thrown Bool × State ⊕ State :=
  let s := s.active
  if s.lifecycle.token = "" then
    let (result,lifecycle) := handleFailure settings (.message "renew requires a live session") true s.clock s.lifecycle
    .inl (result,{ s with lifecycle })
  else if s.lifecycle.closed then .inl (.error .closed,s)
  else .inr s

def step (s : State) : Act → Option State
  | .pass delay => some { s with clock := s.clock + delay }
  | .read => some s.active
  | .authenticate => some (authenticate settings s)
  | .renew =>
    match renew settings s with
    | .inl (result,s) => some { s with answers := s.answers ++ [result] }
    | .inr s => some { s with queue := s.queue ++ [⟨some s.lifecycle.token,.outside⟩] }
  | .reauthenticate => some (authenticate settings { s with lifecycle := { s.lifecycle with current := none } })
  | .startRenewal =>
    if s.lifecycle.closed ∨ settings.mode = .off then some s
    else match s.loop with
      | .ended _ => if s.active.lifecycle.token = "" then some s.active else some (head s.active)
      | _ => some s.active
  | .close => some (if s.lifecycle.closed then s else { s with lifecycle := ⟨none,true⟩ })
  | .begin =>
    match s.queue,s.running with
    | work :: rest,none => some (exchangeWithRetries settings work { s with queue := rest })
    | _,_ => none
  | .settle outcome =>
    match s.running with
    | some (work,.exchange attempt) => some (settled settings work attempt outcome s)
    | _ => none
  | .abandon =>
    match s.running with
    | some (work,.exchange _) =>
      if s.lifecycle.closed then some (finish work (.error .closed) { s with abandoned := s.abandoned + 1 }) else none
    | _ => none
  | .late outcome =>
    if s.abandoned = 0 then none
    else some { s with abandoned := s.abandoned - 1,granted := outcome.toOption.or s.granted }
  | .retry =>
    match s.running with
    | some (work,.backoff attempt) => some (send work (attempt + 1) s)
    | _ => none
  | .wake =>
    match s.loop with
    | .sleep =>
      if s.lifecycle.closed then some { s with loop := .ended .closed }
      else match renew settings s with
        | .inl (result,s) => some { s with loop := .resume result }
        | .inr s => some { s with queue := s.queue ++ [⟨some s.lifecycle.token,.loop⟩],loop := .renewing }
    | .pause => some (head s)
    | _ => none
  | .resume =>
    match s.loop with
    | .resume (.ok true) => some (head s)
    | .resume (.ok false) =>
      let s := s.active
      some { s with loop := if s.lifecycle.current.isNone then .ended .expired else .pause }
    | .resume (.error _) => some { s with loop := if s.lifecycle.closed then .ended .closed else .callback }
    | _ => none
  | .called => if s.loop = .callback then some { s with loop := .ended .failed } else none

end

def State.inProgress (s : State) : Nat :=
  s.abandoned + match s.running with
    | some (_,.exchange _) => 1
    | _ => 0

structure Safe (s : State) : Prop where
  closed : s.lifecycle.closed = true → s.active.lifecycle.current = none
  single : s.inProgress ≤ 1
  newest : ∀ session ∈ s.active.lifecycle.current, s.clock < session.expiresAt ∧ s.granted = some session
  current : ∀ renewal ∈ s.renewals, renewal.1 = renewal.2

/-- When ISSUE gets its turn, no exchange that `close` gave up is still in flight; and a RENEW that
    is tried again presents a token that is still current. -/
def Orderly (s : State) : Act → Prop
  | .begin => ∀ work ∈ s.queue.head?, work.presented = none → s.abandoned = 0
  | .retry => ∀ tried ∈ s.running, ∀ token ∈ tried.1.presented, s.active.lifecycle.token = token
  | _ => True

instance (s : State) (act : Act) : Decidable (Orderly s act) := by
  unfold Orderly
  split <;> infer_instance

structure Inv (s : State) : Prop where
  closed : s.lifecycle.closed = true → s.lifecycle.current = none
  newest : ∀ session ∈ s.lifecycle.current, s.granted = some session
  queue : ∀ work ∈ s.queue, work.presented ≠ some ""
  /-- Only `close` leaves an exchange behind, and no work sleeps after it. -/
  abandoned : 0 < s.abandoned → s.lifecycle.closed = true ∧ ∀ work attempt, s.running ≠ some (work,.backoff attempt)

/-- The session of a lifecycle stays or goes. -/
structure Dropped (before after : Lifecycle) : Prop where
  closed : after.closed = before.closed
  current : after.current = none ∨ after.current = before.current

theorem Dropped.refl (s : Lifecycle) : Dropped s s := ⟨rfl,.inr rfl⟩

theorem Dropped.trans {a b c : Lifecycle} (first : Dropped a b) (second : Dropped b c) : Dropped a c where
  closed := second.closed.trans first.closed
  current := by
    rcases second.current with gone | same
    · exact .inl gone
    · rw [same]
      exact first.current

theorem Dropped.active (now : Int) (s : Lifecycle) : Dropped s (s.active now) := by
  refine ⟨rfl,?_⟩
  cases found : s.current with
  | none => exact .inl (by simp [Lifecycle.active,found])
  | some session =>
    by_cases live : session.expiresAt > now
    · exact .inr (by simp [Lifecycle.active,found,live])
    · exact .inl (by simp [Lifecycle.active,found,Option.filter,live])

theorem Dropped.handleFailure (settings : Settings) (failure : Thrown) (renewal : Bool) (now : Int) (s : Lifecycle) :
    Dropped s (handleFailure settings failure renewal now s).2 := by
  have kept : (Node.handleFailure settings failure renewal now s).2 = { s with current := none } ∨
      (Node.handleFailure settings failure renewal now s).2 = s.active now := by
    unfold Node.handleFailure
    split_ifs <;> simp
  rcases kept with cleared | active
  · rw [cleared]
    exact ⟨rfl,.inl rfl⟩
  · rw [active]
    exact Dropped.active now s

/-- What an action does that neither sends nor settles an exchange nor closes the lifecycle. -/
structure Quiet (s t : State) : Prop where
  lifecycle : Dropped s.lifecycle t.lifecycle
  queue : ∀ work ∈ t.queue, work ∈ s.queue ∨ work.presented ≠ some ""
  running : t.running = s.running ∨ t.running = none
  abandoned : t.abandoned = s.abandoned
  granted : t.granted = s.granted
  renewals : t.renewals = s.renewals

theorem Quiet.refl (s : State) : Quiet s s := ⟨.refl _,fun _ => .inl,.inl rfl,rfl,rfl,rfl⟩

theorem Quiet.trans {a b c : State} (first : Quiet a b) (second : Quiet b c) : Quiet a c where
  lifecycle := first.lifecycle.trans second.lifecycle
  queue := by
    intro work queued
    rcases second.queue work queued with earlier | named
    · exact first.queue work earlier
    · exact .inr named
  running := by
    rcases second.running with same | none
    · rw [same]
      exact first.running
    · exact .inr none
  abandoned := second.abandoned.trans first.abandoned
  granted := second.granted.trans first.granted
  renewals := second.renewals.trans first.renewals

theorem Quiet.inv {s t : State} (quiet : Quiet s t) (inv : Inv s) : Inv t where
  closed := by
    intro closed
    rcases quiet.lifecycle.current with gone | same
    · exact gone
    · rw [same]
      exact inv.closed (quiet.lifecycle.closed ▸ closed)
  newest := by
    intro session stored
    rw [quiet.granted]
    rcases quiet.lifecycle.current with gone | same
    · simp [gone] at stored
    · exact inv.newest session (same ▸ stored)
  queue := by
    intro work queued
    rcases quiet.queue work queued with earlier | named
    · exact inv.queue work earlier
    · exact named
  abandoned := by
    rw [quiet.abandoned,quiet.lifecycle.closed]
    intro left
    refine ⟨(inv.abandoned left).1,?_⟩
    rcases quiet.running with same | none
    · rw [same]
      exact (inv.abandoned left).2
    · simp [none]

theorem Quiet.inProgress_le {s t : State} (quiet : Quiet s t) : t.inProgress ≤ s.inProgress := by
  rw [State.inProgress,State.inProgress,quiet.abandoned]
  rcases quiet.running with same | none
  · rw [same]
  · simp [none]

theorem Inv.safe_iff {s : State} (inv : Inv s) :
    Safe s ↔ s.inProgress ≤ 1 ∧ ∀ renewal ∈ s.renewals, renewal.1 = renewal.2 := by
  constructor
  · intro safe
    exact ⟨safe.single,safe.current⟩
  · rintro ⟨single,current⟩
    refine ⟨?_,single,?_,current⟩
    · intro closed
      simp [State.active,Lifecycle.active,inv.closed closed]
    · intro session stored
      have found : s.lifecycle.current = some session ∧ s.clock < session.expiresAt := by
        simpa [State.active,Lifecycle.active] using stored
      exact ⟨found.2,inv.newest session found.1⟩

theorem Quiet.safe {s t : State} (quiet : Quiet s t) (inv : Inv s) (safe : Safe s) : Safe t := by
  refine (quiet.inv inv).safe_iff.mpr ⟨quiet.inProgress_le.trans safe.single,?_⟩
  rw [quiet.renewals]
  exact safe.current

theorem quiet_active (s : State) : Quiet s s.active := ⟨Dropped.active _ _,fun _ => .inl,.inl rfl,rfl,rfl,rfl⟩

theorem quiet_finish (work : Work) (result : Except Thrown Bool) (s : State) : Quiet s (finish work result s) := by
  unfold finish
  cases work.caller with
  | loop | outside => exact ⟨.refl _,fun _ => .inl,.inr rfl,rfl,rfl,rfl⟩

theorem quiet_head (s : State) : Quiet s (head s) := by
  unfold head
  split
  · exact ⟨.refl _,fun _ => .inl,.inl rfl,rfl,rfl,rfl⟩
  · exact ⟨Dropped.active _ _,fun _ => .inl,.inl rfl,rfl,rfl,rfl⟩

section

variable {settings : Settings}

theorem quiet_fail (work : Work) (failure : Thrown) (s : State) : Quiet s (fail settings work failure s) := by
  have dropped := Dropped.handleFailure settings failure work.presented.isSome s.clock s.lifecycle
  have handled : Quiet s { s with
      lifecycle := (handleFailure settings failure work.presented.isSome s.clock s.lifecycle).2 } :=
    ⟨dropped,fun _ => .inl,.inl rfl,rfl,rfl,rfl⟩
  exact handled.trans (quiet_finish work _ _)

theorem quiet_authenticate (s : State) : Quiet s (authenticate settings s) := by
  unfold authenticate
  split_ifs
  · exact ⟨.refl _,fun _ => .inl,.inl rfl,rfl,rfl,rfl⟩
  · exact ⟨.refl _,fun _ => .inl,.inl rfl,rfl,rfl,rfl⟩
  · refine ⟨.refl _,?_,.inl rfl,rfl,rfl,rfl⟩
    intro work queued
    rcases List.mem_append.mp queued with earlier | new
    · exact .inl earlier
    · obtain rfl := List.mem_singleton.mp new
      exact .inr (by simp)

theorem quiet_renew (s : State) : match renew settings s with
    | .inl (_,t) => Quiet s t
    | .inr t => Quiet s t ∧ t.lifecycle.token ≠ "" := by
  unfold renew
  dsimp only
  split_ifs with empty closed
  · exact Quiet.trans (quiet_active s) ⟨Dropped.handleFailure settings _ _ _ _,fun _ => .inl,.inl rfl,rfl,rfl,rfl⟩
  · exact quiet_active s
  · exact ⟨quiet_active s,empty⟩

theorem Quiet.enqueue {s t : State} (quiet : Quiet s t) (named : t.lifecycle.token ≠ "") (caller : Caller) (loop : Loop) :
    Quiet s { t with queue := t.queue ++ [⟨some t.lifecycle.token,caller⟩],loop } where
  lifecycle := quiet.lifecycle
  queue := by
    intro work queued
    rcases List.mem_append.mp queued with earlier | new
    · exact quiet.queue work earlier
    · obtain rfl := List.mem_singleton.mp new
      exact .inr (by simpa using named)
  running := quiet.running
  abandoned := quiet.abandoned
  granted := quiet.granted
  renewals := quiet.renewals

theorem Quiet.withLoop {s t : State} (quiet : Quiet s t) (loop : Loop) : Quiet s { t with loop } :=
  ⟨quiet.lifecycle,quiet.queue,quiet.running,quiet.abandoned,quiet.granted,quiet.renewals⟩

theorem Quiet.withAnswers {s t : State} (quiet : Quiet s t) (answers : List (Except Thrown Bool)) :
    Quiet s { t with answers } :=
  ⟨quiet.lifecycle,quiet.queue,quiet.running,quiet.abandoned,quiet.granted,quiet.renewals⟩

/-- The actions that neither send nor settle an exchange, and do not close the lifecycle. -/
def Act.isQuiet : Act → Bool
  | .close | .begin | .settle _ | .abandon | .late _ | .retry => false
  | _ => true

theorem step_quiet {s t : State} {act : Act} (next : step settings s act = some t) (kind : act.isQuiet = true) :
    Quiet s t := by
  cases act with simp only [step] at next
  | pass delay =>
    cases next
    exact ⟨.refl _,fun _ => .inl,.inl rfl,rfl,rfl,rfl⟩
  | read =>
    cases next
    exact quiet_active s
  | authenticate =>
    cases next
    exact quiet_authenticate s
  | reauthenticate =>
    cases next
    have cleared : Quiet s { s with lifecycle := { s.lifecycle with current := none } } :=
      ⟨⟨rfl,.inl rfl⟩,fun _ => .inl,.inl rfl,rfl,rfl,rfl⟩
    exact cleared.trans (quiet_authenticate _)
  | renew =>
    have spec := @quiet_renew settings s
    split at next
    · rename_i found
      simp only [found] at spec
      cases next
      exact spec.withAnswers _
    · rename_i found
      simp only [found] at spec
      cases next
      exact spec.1.enqueue spec.2 .outside _
  | startRenewal =>
    split at next
    · cases next
      exact .refl s
    · split at next
      · split at next
        · cases next
          exact quiet_active s
        · cases next
          exact (quiet_active s).trans (quiet_head _)
      · cases next
        exact quiet_active s
  | wake =>
    have spec := @quiet_renew settings s
    split at next
    · split at next
      · cases next
        exact (Quiet.refl s).withLoop _
      · split at next
        · rename_i found
          simp only [found] at spec
          cases next
          exact spec.withLoop _
        · rename_i found
          simp only [found] at spec
          cases next
          exact spec.1.enqueue spec.2 .loop _
    · cases next
      exact quiet_head s
    · cases next
  | resume =>
    split at next
    · cases next
      exact quiet_head s
    · cases next
      exact (quiet_active s).withLoop _
    · cases next
      exact (Quiet.refl s).withLoop _
    · cases next
  | called =>
    split_ifs at next
    cases next
    exact (Quiet.refl s).withLoop _
  | close | begin | settle | abandon | late | retry => cases kind

theorem Lifecycle.active_active (now : Int) (s : Lifecycle) : (s.active now).active now = s.active now := by
  simp [Lifecycle.active]

theorem send_inv {s : State} (inv : Inv s) (work : Work) (attempt : Nat) : Inv (send work attempt s) := by
  refine ⟨?_,?_,?_,?_⟩
  · rw [send_lifecycle]
    exact inv.closed
  · rw [send_lifecycle,send_granted]
    exact inv.newest
  · rw [send_queue]
    exact inv.queue
  · rw [send_abandoned,send_lifecycle]
    exact fun left => ⟨(inv.abandoned left).1,by simp⟩

/-- It is safe to send an exchange when there is no other one and the token it presents is current. -/
theorem send_safe_iff {s : State} (inv : Inv s) (safe : Safe s) (work : Work) (attempt : Nat) :
    Safe (send work attempt s) ↔ s.abandoned = 0 ∧ ∀ token ∈ work.presented, s.active.lifecycle.token = token := by
  rw [(send_inv inv work attempt).safe_iff]
  have current := safe.current
  unfold send State.inProgress
  cases work.presented with
  | none =>
    simp only [Option.mem_def,reduceCtorEq,false_implies,implies_true,and_true]
    exact ⟨fun single => by omega,fun none => ⟨by omega,current⟩⟩
  | some token =>
    simp only [List.mem_append,List.mem_singleton,Option.mem_def,Option.some.injEq,forall_eq']
    constructor
    · rintro ⟨single,equal⟩
      exact ⟨by omega,(equal _ (.inr rfl)).symm⟩
    · rintro ⟨none,same⟩
      refine ⟨by omega,?_⟩
      rintro renewal (earlier | rfl)
      · exact current renewal earlier
      · exact same.symm

theorem begin_spec {s : State} {work : Work} {rest : List Work} (tries : 0 < settings.retries) (inv : Inv s)
    (waiting : s.queue = work :: rest) :
    Inv (exchangeWithRetries settings work { s with queue := rest }) ∧
      (Safe s → (Safe (exchangeWithRetries settings work { s with queue := rest }) ↔
        (work.presented = none → s.abandoned = 0))) := by
  have shorter : Quiet s { s with queue := rest } :=
    ⟨.refl _,fun other queued => .inl (by rw [waiting]; exact List.mem_cons_of_mem work queued),.inl rfl,rfl,rfl,rfl⟩
  have read : Quiet s (State.active { s with queue := rest }) := shorter.trans (quiet_active _)
  have named : work.presented ≠ some "" := inv.queue work (by simp [waiting])
  have some : settings.retries ≠ 0 := by omega
  unfold exchangeWithRetries
  cases presented : work.presented with
  | none =>
    simp only [some,if_false]
    refine ⟨send_inv (read.inv inv) work 0,fun safe => ?_⟩
    rw [send_safe_iff (read.inv inv) (read.safe inv safe)]
    simp [presented,State.active]
  | some token =>
    simp only [reduceCtorEq,false_implies,iff_true]
    split_ifs with other live
    · have quiet := read.trans (quiet_finish work (.ok true) _)
      exact ⟨quiet.inv inv,quiet.safe inv⟩
    · have quiet := read.trans (@quiet_fail settings work (.message "renew requires a live session") _)
      exact ⟨quiet.inv inv,quiet.safe inv⟩
    · have same : (State.active { s with queue := rest }).lifecycle.token = token := not_not.mp other
      refine ⟨send_inv (read.inv inv) work 0,fun safe => ?_⟩
      rw [send_safe_iff (read.inv inv) (read.safe inv safe)]
      constructor
      · -- After `close` there is no token to present.
        by_contra left
        have closed := ((read.inv inv).abandoned (Nat.pos_of_ne_zero left)).1
        have gone := (read.inv inv).closed closed
        have empty : (State.active { s with queue := rest }).lifecycle.token = "" := by rw [Lifecycle.token,gone]; rfl
        exact named (by rw [presented,← same,empty])
      · intro presents member
        obtain rfl : token = presents := by simpa [presented] using member
        rw [← same]
        exact congrArg Lifecycle.token (Lifecycle.active_active _ _)

theorem settled_spec {s : State} {work : Work} {attempt : Nat} (outcome : Except Thrown Session) (inv : Inv s) :
    Inv (settled settings work attempt outcome s) ∧ (Safe s → Safe (settled settings work attempt outcome s)) := by
  cases outcome with
  | ok session =>
    simp only [settled]
    split
    · rename_i closed
      -- The session is not installed.
      have gone := inv.closed closed
      have granted : Inv { s with granted := some session } :=
        ⟨inv.closed,fun other stored => by simp [gone] at stored,inv.queue,inv.abandoned⟩
      have quiet := quiet_finish work (.error .closed) { s with granted := some session }
      refine ⟨quiet.inv granted,fun safe => quiet.safe granted ?_⟩
      exact granted.safe_iff.mpr ⟨safe.single,safe.current⟩
    · rename_i opened
      have installed : Inv { s with granted := some session,lifecycle := { s.lifecycle with current := some session } } :=
        ⟨fun closed => absurd closed opened,fun other stored => stored,inv.queue,inv.abandoned⟩
      have quiet := quiet_finish work (.ok true)
        { s with granted := some session,lifecycle := { s.lifecycle with current := some session } }
      refine ⟨quiet.inv installed,fun safe => quiet.safe installed ?_⟩
      exact installed.safe_iff.mpr ⟨safe.single,safe.current⟩
  | error failure =>
    simp only [settled]
    split_ifs with closed again
    · exact ⟨(quiet_finish work _ s).inv inv,(quiet_finish work _ s).safe inv⟩
    · have slept : Inv { s with running := some (work,.backoff attempt) } :=
        ⟨inv.closed,inv.newest,inv.queue,fun left => absurd (inv.abandoned left).1 closed⟩
      refine ⟨slept,fun safe => slept.safe_iff.mpr ⟨?_,safe.current⟩⟩
      have single := safe.single
      simp only [State.inProgress] at single ⊢
      omega
    · exact ⟨(quiet_fail work failure s).inv inv,(quiet_fail work failure s).safe inv⟩

/-- What an action does: it keeps the invariant, and it keeps the lifecycle safe when it is orderly
    and only then. -/
theorem step_spec {s t : State} {act : Act} (tries : 0 < settings.retries) (inv : Inv s)
    (next : step settings s act = some t) : Inv t ∧ (Safe s → (Safe t ↔ Orderly s act)) := by
  cases kind : act.isQuiet with
  | true =>
    have quiet := step_quiet next kind
    refine ⟨quiet.inv inv,fun safe => iff_of_true (quiet.safe inv safe) ?_⟩
    cases act <;> trivial
  | false =>
    cases act with simp only [step] at next
    | close =>
      cases next
      split
      · exact ⟨inv,fun safe => iff_of_true safe trivial⟩
      · have closed : Inv { s with lifecycle := ⟨none,true⟩ } :=
          ⟨fun _ => rfl,fun session stored => by simp at stored,inv.queue,
            fun left => ⟨rfl,(inv.abandoned left).2⟩⟩
        exact ⟨closed,fun safe => iff_of_true (closed.safe_iff.mpr ⟨safe.single,safe.current⟩) trivial⟩
    | begin =>
      split at next
      · rename_i work rest waiting _
        cases next
        obtain ⟨kept,safe_iff⟩ := begin_spec tries inv waiting
        refine ⟨kept,fun safe => (safe_iff safe).trans ?_⟩
        simp [Orderly,waiting]
      · cases next
    | settle outcome =>
      split at next
      · rename_i work attempt running
        cases next
        obtain ⟨kept,safe⟩ := @settled_spec settings s work attempt outcome inv
        exact ⟨kept,fun before => iff_of_true (safe before) trivial⟩
      · cases next
    | abandon =>
      split at next
      · rename_i work attempt running
        split_ifs at next with closed
        cases next
        have left : Inv { s with abandoned := s.abandoned + 1,running := none } :=
          ⟨inv.closed,inv.newest,inv.queue,fun _ => ⟨closed,by simp⟩⟩
        have quiet := quiet_finish work (.error .closed) { s with abandoned := s.abandoned + 1,running := none }
        refine ⟨quiet.inv left,fun safe => iff_of_true (quiet.safe left (left.safe_iff.mpr ⟨?_,safe.current⟩)) trivial⟩
        have single := safe.single
        simpa [State.inProgress,running] using single
      · cases next
    | late outcome =>
      split_ifs at next with some
      cases next
      have closed := inv.abandoned (Nat.pos_of_ne_zero some)
      have gone := inv.closed closed.1
      have kept : Inv { s with abandoned := s.abandoned - 1,granted := outcome.toOption.or s.granted } :=
        ⟨inv.closed,fun session stored => by simp [gone] at stored,inv.queue,fun _ => closed⟩
      refine ⟨kept,fun safe => iff_of_true (kept.safe_iff.mpr ⟨?_,safe.current⟩) trivial⟩
      have single := safe.single
      simp only [State.inProgress] at single ⊢
      omega
    | retry =>
      split at next
      · rename_i work attempt running
        cases next
        have none : s.abandoned = 0 := by
          by_contra left
          exact (inv.abandoned (Nat.pos_of_ne_zero left)).2 work attempt running
        refine ⟨send_inv inv work _,fun safe => ?_⟩
        rw [send_safe_iff inv safe]
        simp [Orderly,running,none]
      · cases next
    | _ => cases kind

/-- In every interleaving, the lifecycle is safe all the time exactly when the actions are orderly:
    no ISSUE has its turn while an exchange that `close` gave up is in flight, and every RENEW that
    is tried again presents the token that is current then. -/
theorem lifecycle_safe_iff {clock : Int} {acts : List Act} {t : State} (tries : 0 < settings.retries)
    (reached : run (step settings) (init clock) acts = some t) :
    Always (step settings) Safe (init clock) acts ↔ Every (step settings) Orderly (init clock) acts := by
  have start : Inv (init clock) := ⟨fun _ => rfl,by simp [init],by simp [init],by simp [init]⟩
  refine always_iff_every (fun s a t inv next => (step_spec tries inv next).1)
    (fun s a t inv safe next => (step_spec tries inv next).2 safe) start ?_ reached
  exact start.safe_iff.mpr (by simp [init,State.inProgress])

end

namespace Samples

def settings : Settings := ⟨.enforce,3⟩

def first : Session := ⟨"first",0,3600000⟩

/-- An exchange is in flight and another ISSUE waits when the lifecycle is closed. -/
def closing : List Act := [.authenticate,.reauthenticate,.begin,.close,.abandon,.begin]

/-- The session expires while its renewal sleeps after a failed attempt. -/
def expiring : List Act :=
  [.authenticate,.begin,.settle (.ok first),.renew,.begin,.settle (.error (.operational .timeout)),.pass 3600000,.retry]

/-- A renewal that succeeds with its second attempt. -/
def renewing : List Act :=
  [.authenticate,.begin,.settle (.ok first),.startRenewal,.pass 1800000,.wake,.begin,.settle (.error (.operational .timeout)),
    .pass 25,.retry,.settle (.ok ⟨"second",0,7200000⟩),.resume,.close,.wake]

/-- The first run has two exchanges in flight; the second sends a token that is not current. -/
theorem lifecycle_unsafe :
    (∃ t, run (step settings) (init 0) closing = some t ∧ t.inProgress = 2) ∧
      ∃ t, run (step settings) (init 0) expiring = some t ∧ t.renewals = [("first","first"),("first","")] := by
  refine ⟨⟨(run (step settings) (init 0) closing).get (by decide),?_,by decide⟩,
    (run (step settings) (init 0) expiring).get (by decide),?_,by decide⟩
  · simp
  · simp

theorem renewing_safe : Always (step settings) Safe (init 0) renewing := by
  have reached : (run (step settings) (init 0) renewing).isSome = true := by decide
  obtain ⟨t,reached⟩ := Option.isSome_iff_exists.mp reached
  exact (lifecycle_safe_iff (by decide) reached).mpr (by decide)

end Samples

end Cap.Trust.Node.Tasks
