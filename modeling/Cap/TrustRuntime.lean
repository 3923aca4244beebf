import Cap.TrustGo
import Cap.Runs
import Cap.ChallengeResponse

/-!
Sessions of the Go workers: the handshake in the runtime's agent (`runtime/handshake.go`,
`runtime/handshake_exchange.go`, `runtime/renew.go`) and in the managed worker
(`worker/managed_trust.go`). Whoever answers on the bus chooses every reply.
-/
namespace Cap.Trust
open Cap.Text Cap.Wire Cap.Checks
open Cap.ProductionSigning (Crypto)
open Cap.ChallengeResponse (Scheme Reply)

inductive Mode where
  | off | warn | enforce
deriving DecidableEq

/-- A rejection that the scheduler signed. -/
structure Rejection where
  reason : Int32
  requestID : String
  agentID : String
  workerID : String
deriving DecidableEq

/-- The error of a requester, by what `errors.Is` and `errors.As` find in it. -/
structure TransportError where
  /-- One of the SDK's errors of the handshake or a validation error. -/
  sentinel : Bool
  rejection : Option Rejection
  /-- `context.Canceled` or `context.DeadlineExceeded`. -/
  context : Bool
deriving DecidableEq

/-- The draws of one exchange and the clock readings of the worker's packets. -/
structure Draws where
  requestId : String
  traceId : String
  clientNonce : Bytes
  createdAt : Int
  requestRandomness : Nat
  authenticateAt : Int
  authenticateRandomness : Nat
deriving DecidableEq

/-- One attempt of a worker whose transport fails with `τ`. -/
abbrev Attempt (τ : Type) : Type := ChallengeResponse.Attempt Draws τ Bytes

/-- An exchange that a worker went through. -/
structure Exchange (τ : Type) where
  purpose : Int32
  presented : String
  attempt : Attempt τ
deriving DecidableEq

/-- The errors of the workers. -/
inductive Failure where
  | config (message : String)
  | sdk (error : Go.Error)
  /-- The requester's own security error, wrapped. -/
  | refused (error : TransportError)
  /-- `trustOperationalError`; without a cause the reply was nil or requests are not supported. -/
  | operational (cause : Option TransportError)
  | context
  | rejected (rejection : Rejection)
  /-- No error was seen; `handleTrustFailure` makes one up. -/
  | unknown
deriving DecidableEq

namespace Failure

/-- `isTrustOperationalError` and `isManagedTrustOperationalError`. -/
def isOperational : Failure → Bool
  | .operational _ | .context => true
  | .refused error => error.context
  | .config _ | .sdk _ | .rejected _ | .unknown => false

end Failure

/-- The rejection under the labels of an error. -/
def Go.Error.rejection? : Go.Error → Option Rejection
  | .rejection reason requestID agentID workerID => some ⟨reason,requestID,agentID,workerID⟩
  | .wrapped _ cause => cause.rejection?
  | _ => none

/-- The rejection that `errors.As` finds. -/
def Failure.rejection? : Failure → Option Rejection
  | .sdk error => error.rejection?
  | .refused error => error.rejection
  | .operational cause => cause.bind (·.rejection)
  | _ => none

def sdk {α : Type} : Except Go.Error α → Except Failure α
  | .ok value => .ok value
  | .error error => .error (.sdk error)

@[simp] theorem sdk_eq_ok {α : Type} {x : Except Go.Error α} {value : α} : sdk x = .ok value ↔ x = .ok value := by
  cases x <;> simp [sdk]

section

variable {Key Pub : Type} (crypto : Crypto Key Pub) (unmarshal : Bytes → Option Packet)
  (classify : TransportError → Failure)

/-- The worker's side of the handshake. -/
structure Worker (Key Pub : Type) where
  config : Config Key Pub
  capability : Handshake

/-- The handshake of the Go SDK; the workers differ in how they classify the requester's errors. -/
def scheme (worker : Worker Key Pub) (purpose : Int32) (currentToken : String) :
    Scheme Draws TransportError Bytes Packet Verified Session Failure where
  request draws := sdk (Go.buildWorkerHandshakeChallengeRequest crypto worker.config
    ⟨draws.requestId,draws.traceId,purpose,draws.clientNonce,draws.createdAt⟩ draws.requestRandomness)
  marshal packet := sdk (Go.marshalWorkerTrustPacket packet)
  failed := classify
  nothing := .operational none
  unmarshal bytes := sdk (Go.unmarshalWorkerTrustPacket unmarshal bytes)
  verifyChallenge request challenge now :=
    sdk (Go.verifyWorkerHandshakeChallenge crypto worker.config request challenge now)
  authenticate verified draws := sdk (Go.buildWorkerHandshakeAuthenticate crypto worker.config verified worker.capability
    currentToken draws.authenticateAt draws.authenticateRandomness)
  verifyResult verified authenticate result now :=
    sdk (Go.verifyWorkerHandshakeResult crypto worker.config verified authenticate result now)

end

/-- `Time.Sub` cuts what does not fit into a `time.Duration`. -/
def Go.sub (later earlier : Int) : Int := max (-2 ^ 63) (min (later - earlier) (2 ^ 63 - 1))

/-! ### The agent of the runtime -/

namespace Runtime

/-- The requester's typed security errors stay what they are, all others are operational. -/
def classify (error : TransportError) : Failure :=
  if error.sentinel || error.rejection.isSome then .refused error else .operational (some error)

/-- `sessionState`; an empty token is no session. -/
structure SessionState where
  token : String
  exp : Int
deriving DecidableEq

namespace SessionState

def empty : SessionState := ⟨"",Go.zeroTime⟩

/-- `active` drops a session that has expired. -/
def active (now : Int) (s : SessionState) : SessionState := if s.token ≠ "" ∧ ¬ now < s.exp then empty else s

end SessionState

/-- The settings that a handshake reads. Without trust nothing of it is configured. -/
structure Agent (Key Pub : Type) where
  mode : Mode
  trust : Option (Config Key Pub)
  capability : Handshake
  /-- Unsigned packets are allowed or the legacy keys are set. -/
  legacySigning : Bool
  senderID : String
  handshakeTimeout : Int
  handshakeRetries : Int
  /-- The connection supports request and reply. -/
  requester : Bool

def maxHandshakeTimeout : Int := 60000000000

def defaultHandshakeRetries : Nat := 3
def maxHandshakeRetries : Int := 10

section

variable {Key Pub : Type} (crypto : Crypto Key Pub) (unmarshal : Bytes → Option Packet)

/-- The configuration that a handshake uses, unless the mode is off. -/
def validateTrustStartup (agent : Agent Key Pub) : Except Failure (Option (Config Key Pub)) :=
  match agent.mode,agent.trust with
  | .off,some _ => throw (.config "cap-runtime: handshake mode off conflicts with worker trust configuration")
  | .off,none => do
    require agent.legacySigning
      (.config "cap-runtime: signing keys required; set AllowUnsigned for explicit unsigned legacy mode")
    pure none
  | _,none => throw (.sdk (.wrapped "cap-runtime: worker trust configuration" (.workerTrustConfig "required identity field is empty")))
  | _,some trust => do
    sdk (Go.wrap "cap-runtime: worker trust configuration" (Go.validateWorkerTrustConfig crypto trust))
    require (0 ≤ agent.handshakeTimeout && 0 ≤ agent.handshakeRetries)
      (.config "cap-runtime: worker trust configuration requires non-negative timeout and retries")
    require (agent.handshakeTimeout ≤ maxHandshakeTimeout && agent.handshakeRetries ≤ maxHandshakeRetries)
      (.config "cap-runtime: worker trust configuration exceeds timeout or retry bounds")
    require (agent.senderID == "" || agent.senderID == trust.workerId)
      (.config "cap-runtime: SenderID does not match worker trust identity")
    pure (some trust)

def handshakeRetries (agent : Agent Key Pub) : Nat :=
  if 0 < agent.handshakeRetries then agent.handshakeRetries.toNat else defaultHandshakeRetries

/-- An attempt of the loop: whether the context is done before it, and whether the backoff
    after it ran to its end. -/
structure Try where
  done : Bool
  attempt : Attempt TransportError
  slept : Bool

/-- The loop over the attempts that are left; it also gives the attempts that were made. -/
def attemptLoop (exchange : Attempt TransportError → Except Failure Session) :
    List Try → Except Failure Session × List (Attempt TransportError)
  | [] => (.error .unknown,[])
  | next :: rest =>
    if next.done then (.error .context,[])
    else match exchange next.attempt with
      | .ok session => (.ok session,[next.attempt])
      | .error failure =>
        match failure.rejection? with
        | some rejection => (.error (.rejected rejection),[next.attempt])
        | none =>
          -- The last operational error stays when no attempt is left.
          if !failure.isOperational || rest.isEmpty then (.error failure,[next.attempt])
          else if !next.slept then (.error .context,[next.attempt])
          else ((attemptLoop exchange rest).1,next.attempt :: (attemptLoop exchange rest).2)

def clearFailedRenewal (purpose : Int32) (mode : Mode) (failure : Failure) (session : SessionState) : SessionState :=
  if purpose ≠ renewPurpose ∨ (mode ≠ .enforce ∧ failure.isOperational = true) then session else .empty

def handleTrustFailure (mode : Mode) (failure : Failure) : Except Failure Bool :=
  if mode = .enforce ∨ failure.isOperational = false then .error failure else .ok false

/-- What a handshake leaves behind: its result, the session and the exchanges that were made. -/
structure Outcome where
  result : Except Failure Bool
  session : SessionState
  exchanges : List (Exchange TransportError)

/-- The tries are those of the environment; the loop uses as many as the agent retries. -/
def performTrustHandshake (agent : Agent Key Pub) (purpose : Int32) (currentToken : String) (tries : Nat → Try)
    (session : SessionState) : Outcome :=
  match validateTrustStartup crypto agent with
  | .error failure => ⟨.error failure,session,[]⟩
  | .ok none => ⟨.ok false,session,[]⟩
  | .ok (some trust) =>
    if !agent.requester then ⟨handleTrustFailure agent.mode (.operational none),session,[]⟩
    else
      let attempts := attemptLoop (scheme crypto unmarshal classify ⟨trust,agent.capability⟩ purpose currentToken).exchange
        ((List.range (handshakeRetries agent)).map tries)
      let exchanges := attempts.2.map fun attempt => ⟨purpose,currentToken,attempt⟩
      match attempts.1 with
      | .ok established => ⟨.ok true,⟨established.token,established.expiresAt⟩,exchanges⟩
      | .error failure =>
        ⟨handleTrustFailure agent.mode failure,clearFailedRenewal purpose agent.mode failure session,exchanges⟩

def performHandshake (agent : Agent Key Pub) (tries : Nat → Try) (session : SessionState) : Outcome :=
  performTrustHandshake crypto unmarshal agent issuePurpose "" tries session

def performRenew (agent : Agent Key Pub) (now : Int) (tries : Nat → Try) (session : SessionState) : Outcome :=
  let current := session.active now
  if current.token = "" then ⟨.error (.config "cap-runtime: renew requires a current unexpired session"),current,[]⟩
  else performTrustHandshake crypto unmarshal agent renewPurpose current.token tries current

/-- What happens to the session of an agent. -/
inductive Op where
  /-- `Start`; the session is cleared when the handshake fails. -/
  | start (tries : Nat → Try)
  /-- `SessionToken`, for an outgoing packet or a check. -/
  | read (now : Int)
  | renew (now : Int) (tries : Nat → Try)
  /-- `Close`, or a start that failed later. -/
  | close

/-- The session of an agent and the exchanges up to now, the latest last. -/
structure State where
  session : SessionState
  exchanges : List (Exchange TransportError)

def init : State := ⟨.empty,[]⟩

def step (agent : Agent Key Pub) (s : State) : Op → State
  | .start tries =>
    let outcome := performHandshake crypto unmarshal agent tries s.session
    ⟨if outcome.result.toBool then outcome.session else .empty,s.exchanges ++ outcome.exchanges⟩
  | .read now => { s with session := s.session.active now }
  | .renew now tries =>
    let outcome := performRenew crypto unmarshal agent now tries s.session
    ⟨outcome.session,s.exchanges ++ outcome.exchanges⟩
  | .close => { s with session := .empty }

end

end Runtime

namespace Managed

/-- Every error of the requester is operational. -/
def classify (error : TransportError) : Failure := .operational (some error)

/-- The zero session, which is none. -/
def noSession : Session := ⟨"",Go.zeroTime,Go.zeroTime⟩

/-- `token` drops a session that is not live and reads what is left. -/
def token (now : Int) (session : Session) : Session :=
  if session.token = "" ∨ ¬ now < session.expiresAt then noSession else session

inductive Loop where
  /-- It runs and is about to look at the session. -/
  | look
  /-- It waits for the renewal of this session. -/
  | wait (snapshot : Session)
  /-- It waits after an operational failure. -/
  | retry
  | stopped
deriving DecidableEq

structure State where
  session : Session
  loop : Loop
  /-- The failure that ends the worker. -/
  fatal : Option Failure
  exchanges : List (Exchange TransportError)

def init : State := ⟨noSession,.stopped,none,[]⟩

/-- What happens to the session of a worker. The contexts of the waits may be cancelled. -/
inductive Op where
  | performInitialTrust (attempt : Attempt TransportError)
  | startTrustRenewal (now : Int)
  /-- The head of the loop up to its wait. -/
  | look (now : Int)
  /-- The end of the wait and the renewal. -/
  | renew (now : Int) (attempt : Attempt TransportError) (later : Int)
  /-- The end of the wait after a failure. -/
  | again
  | cancel
  | read (now : Int)
  | close

section

variable {Key Pub : Type} (crypto : Crypto Key Pub) (unmarshal : Bytes → Option Packet)

def performTrustExchange (worker : Worker Key Pub) (purpose : Int32) (token : String) (attempt : Attempt TransportError) :
    Except Failure Session :=
  (scheme crypto unmarshal classify worker purpose token).exchange attempt

/-- The first session; the second part is whether the worker goes on. -/
def performInitialTrust (worker : Worker Key Pub) (mode : Mode) (attempt : Attempt TransportError) (s : State) : State × Bool :=
  if mode = .off then (s,true)
  else
    let exchanges := s.exchanges ++ [⟨issuePurpose,"",attempt⟩]
    match performTrustExchange crypto unmarshal worker issuePurpose "" attempt with
    | .ok session => ({ s with session,exchanges },true)
    | .error failure => ({ s with exchanges },mode = .warn && failure.isOperational)

/-- The body of the loop after its wait. -/
def renew (worker : Worker Key Pub) (mode : Mode) (snapshot : Session) (now : Int) (attempt : Attempt TransportError) (later : Int)
    (s : State) : State :=
  let current := token now s.session
  if current.token = "" then { s with session := current,loop := .stopped }
  else if current.token ≠ snapshot.token then { s with session := current,loop := .look }
  else
    let exchanges := s.exchanges ++ [⟨renewPurpose,current.token,attempt⟩]
    match performTrustExchange crypto unmarshal worker renewPurpose current.token attempt with
    | .ok replacement => { s with session := replacement,loop := .look,exchanges }
    | .error failure =>
      if mode = .enforce ∨ failure.isOperational = false then
        { session := noSession,loop := .stopped,fatal := s.fatal.or (some failure),exchanges }
      else
        let left := token later current
        { s with session := left,loop := if left.token = "" then .stopped else .retry,exchanges }

/-- An operation that the worker is not ready for is not enabled. -/
def step (worker : Worker Key Pub) (mode : Mode) (s : State) : Op → Option State
  | .performInitialTrust attempt =>
    if s.loop = .stopped then some (performInitialTrust crypto unmarshal worker mode attempt s).1 else none
  | .startTrustRenewal now =>
    if s.loop = .stopped then
      if mode = .off then some s
      else
        let session := token now s.session
        some { s with session,loop := if session.token = "" then .stopped else .look }
    else none
  | .look now =>
    if s.loop = .look then
      let session := token now s.session
      some { s with session,loop := if session.token = "" then .stopped else .wait s.session }
    else none
  | .renew now attempt later =>
    match s.loop with
    | .wait snapshot => some (renew crypto unmarshal worker mode snapshot now attempt later s)
    | _ => none
  | .again => if s.loop = .retry then some { s with loop := .look } else none
  | .cancel => some { s with loop := .stopped }
  | .read now => some { s with session := if mode = .off then s.session else token now s.session }
  | .close => some { s with session := noSession,loop := .stopped }

end

end Managed

end Cap.Trust
