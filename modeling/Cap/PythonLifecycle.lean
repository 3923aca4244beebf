import Cap.TrustLifecycle

/-!
`WorkerTrustLifecycle` of the Python SDK between its await points. Exchanges take a lock, and
those who wait for it get it in order; a call that finds it free goes on at once. The renewal loop
is a task that `close` cancels. A task that goes on after an await runs up to its next one.
-/
namespace Cap.Trust.Python.Tasks
open Cap.Text Cap.Wire Cap.Checks Cap.Runs

inductive Caller where
  | loop | outside
deriving DecidableEq

structure Work where
  presented : Option String
  caller : Caller
deriving DecidableEq

inductive Progress where
  | exchange (attempt : Nat)
  | backoff (attempt : Nat)
deriving DecidableEq

inductive End where
  | unstarted
  /-- There was no live session. -/
  | expired
  | closed
  | cancelled
  /-- `on_enforce_failure` was called. -/
  | failed
deriving DecidableEq

inductive Loop where
  | ended (reason : End)
  /-- The task is created and has not run yet. -/
  | created
  | sleep
  /-- The loop waits for the lock or holds it. -/
  | renewing
  | pause
  | callback
deriving DecidableEq

structure State where
  clock : Int
  lifecycle : Lifecycle
  /-- Those who wait for the lock. -/
  queue : List Work
  /-- Who holds the lock. -/
  running : Option (Work × Progress)
  loop : Loop
  /-- What the calls from outside were answered, the latest last. -/
  answers : List (Except Raised Bool)

def init (clock : Int) : State := ⟨clock,⟨none,false⟩,[],none,.ended .unstarted,[]⟩

inductive Act where
  | pass (delay : Nat)
  | read
  | authenticate
  | renew
  | reauthenticate
  | startRenewal
  | stopRenewal
  /-- `close` up to the end of the renewal task that it cancels. -/
  | close
  /-- The rest of `close`. -/
  | discard
  /-- The first in the queue gets the lock. -/
  | acquire
  | settle (outcome : Except Raised Session)
  | retry
  /-- The loop starts, or a sleep of it is over. -/
  | wake
  | called
deriving DecidableEq

/-- `_active_session`, for whoever reads it. -/
def State.active (s : State) : State := { s with lifecycle := s.lifecycle.active s.clock }

def head (s : State) : State :=
  if s.lifecycle.closed then { s with loop := .ended .closed }
  else
    let s := s.active
    { s with loop := if s.lifecycle.session.isNone then .ended .expired else .sleep }

def resume (result : Except Raised Bool) (s : State) : State :=
  match result with
  | .ok true => head s
  | .ok false =>
    let s := s.active
    { s with loop := if s.lifecycle.session.isNone then .ended .expired else .pause }
  | .error _ => { s with loop := .callback }

def answer (caller : Caller) (result : Except Raised Bool) (s : State) : State :=
  match caller with
  | .loop => resume result s
  | .outside => { s with answers := s.answers ++ [result] }

section

variable (settings : Settings)

def fail (work : Work) (failure : Raised) (s : State) : State :=
  let (result,lifecycle) := handleFailure settings failure work.presented.isSome s.clock s.lifecycle
  answer work.caller result { s with lifecycle,running := none }

theorem fail_eq (work : Work) (failure : Raised) (s : State) : fail settings work failure s =
    answer work.caller (handleFailure settings failure work.presented.isSome s.clock s.lifecycle).1 { s with
      lifecycle := (handleFailure settings failure work.presented.isSome s.clock s.lifecycle).2
      running := none } := rfl

def attempts (work : Work) (s : State) : State :=
  if settings.retries = 0 then fail settings work (.message "failed") s
  else { s with running := some (work,.exchange 0) }

/-- `_exchange` from the lock up to its first await. -/
def locked (work : Work) (s : State) : State :=
  if s.lifecycle.closed then
    answer work.caller (.error (.message "worker trust lifecycle is closed")) { s with running := none }
  else match work.presented with
    | some token =>
      let s := s.active
      if s.lifecycle.token = "" then fail settings work (.message "renew requires a live session") s
      else if s.lifecycle.token ≠ token then answer work.caller (.ok true) { s with running := none }
      else attempts settings work s
    | none => attempts settings work s

/-- `_exchange`; a free lock is taken at once. -/
def exchange (work : Work) (s : State) : State :=
  if s.lifecycle.closed then answer work.caller (.error (.message "worker trust lifecycle is closed")) s
  else if s.running.isNone && s.queue.isEmpty then locked settings work s
  else { s with queue := s.queue ++ [work] }

def renew (caller : Caller) (s : State) : State :=
  let s := s.active
  if s.lifecycle.token = "" then
    let (result,lifecycle) := handleFailure settings (.message "renew requires a current live session") true s.clock
      s.lifecycle
    answer caller result { s with lifecycle }
  else exchange settings ⟨some s.lifecycle.token,caller⟩ s

def authenticate (s : State) : State :=
  if settings.mode = .off then { s with answers := s.answers ++ [.ok false] }
  else exchange settings ⟨none,.outside⟩ s

/-- The rest of an attempt, when `_exchange_once` is settled. -/
def settled (work : Work) (attempt : Nat) (outcome : Except Raised Session) (s : State) : State :=
  match outcome with
  | .ok session =>
    if s.lifecycle.closed then fail settings work (.message "worker trust lifecycle is closed") s
    else answer work.caller (.ok true)
      { s with lifecycle := { s.lifecycle with session := some session },running := none }
  | .error failure =>
    if isOperationalFailure failure && attempt + 1 < settings.retries then
      { s with running := some (work,.backoff attempt) }
    else fail settings work failure s

/-- The task of the loop is cancelled, wherever it is. -/
def cancel (s : State) : State :=
  match s.loop with
  | .ended _ => s
  | _ => { s with
      loop := .ended .cancelled
      queue := s.queue.filter (·.caller ≠ .loop)
      running := s.running.filter (·.1.caller ≠ .loop) }

def step (s : State) : Act → Option State
  | .pass delay => some { s with clock := s.clock + delay }
  | .read => some s.active
  | .authenticate => some (authenticate settings s)
  | .renew => some (renew settings .outside s)
  | .reauthenticate =>
    if s.active.lifecycle.token ≠ "" then some (renew settings .outside s.active)
    else some (authenticate settings s.active)
  | .startRenewal =>
    if s.lifecycle.closed ∨ settings.mode = .off then some s
    else match s.loop with
      | .ended _ => some { s.active with loop := if s.active.lifecycle.token = "" then s.loop else .created }
      | _ => some s.active
  | .stopRenewal => some (cancel s)
  | .close => some (cancel { s with lifecycle := { s.lifecycle with closed := true } })
  | .discard => if s.lifecycle.closed then some { s with lifecycle := { s.lifecycle with session := none } } else none
  | .acquire =>
    match s.queue,s.running with
    | work :: rest,none => some (locked settings work { s with queue := rest })
    | _,_ => none
  | .settle outcome =>
    match s.running with
    | some (work,.exchange attempt) => some (settled settings work attempt outcome s)
    | _ => none
  | .retry =>
    match s.running with
    | some (work,.backoff attempt) => some { s with running := some (work,.exchange (attempt + 1)) }
    | _ => none
  | .wake =>
    match s.loop with
    | .sleep => some (renew settings .loop { s with loop := .renewing })
    | .created | .pause => some (head s)
    | _ => none
  | .called => if s.loop = .callback then some { s with loop := .ended .failed } else none

end

theorem Lifecycle.active_active (now : Int) (s : Lifecycle) : (s.active now).active now = s.active now := by
  simp [Lifecycle.active]

theorem handleFailure_closed {settings : Settings} (failure : Raised) (renewal : Bool) (now : Int) (s : Lifecycle) :
    (handleFailure settings failure renewal now s).2.closed = s.closed := by
  unfold handleFailure
  dsimp only
  split_ifs <;> rfl

end Cap.Trust.Python.Tasks
