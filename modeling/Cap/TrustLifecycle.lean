import Cap.TrustRuntime
import Cap.TrustNodeFlow
import Cap.TrustPython

/-!
The lifecycles of a worker's session in the Node SDK (`worker-trust-lifecycle.ts`,
`worker-trust-exchange.ts`) and in the Python SDK (`worker_trust_runtime.py`,
`worker_trust_async.py`). Exchanges are serialized; the token that a renewal presents was read
before its turn came.
-/
namespace Cap.Trust
open Cap.Text Cap.Wire Cap.Checks
open Cap.ProductionSigning (Crypto)
open Cap.ChallengeResponse (Scheme Reply retry)

/-- What a lifecycle is set up with; there is at least one try. -/
structure Settings where
  mode : Mode
  retries : Nat

namespace Node

/-- The codes of a `NatsError`, as far as they matter. -/
inductive NatsCode where
  | cancelled | connectionClosed | connectionDraining | connectionRefused | connectionTimeout | disconnect | noResponders
  | subClosed | subDraining | timeout
  | other
deriving DecidableEq

/-- What a request can throw. -/
inductive RequestError where
  | nats (code : NatsCode)
  | other
deriving DecidableEq

inductive Thrown where
  | operational (code : NatsCode)
  | request (error : RequestError)
  | sdk (error : Error)
  | message (text : String)
  | closed
deriving DecidableEq

def Thrown.isOperational : Thrown → Bool
  | .operational _ => true
  | .request _ | .sdk _ | .message _ | .closed => false

def thrown {α : Type} : Except Error α → Except Thrown α
  | .ok value => .ok value
  | .error error => .error (.sdk error)

/-- Operational codes become operational errors; everything else is thrown on. -/
def classifyRequestError : RequestError → Thrown
  | .nats .other => .request (.nats .other)
  | .nats code => .operational code
  | .other => .request .other

def requireChallenge (packet : Packet) : Except Thrown Unit :=
  require (packet.phase? == some .challenge) (.message "worker trust response is not a challenge")

def requireResult (packet : Packet) : Except Thrown Unit :=
  require (packet.phase? == some .result) (.message "worker trust response is not a result")

/-- `NatsWorkerTrustExchange`. A response that is undefined has no data to read. -/
def scheme {Key Pub : Type} (crypto : Crypto Key Pub) (pb : Protobufjs) (worker : Worker Key Pub) (purpose : Int32)
    (currentToken : String) : Scheme Draws RequestError Bytes Packet Verified Session Thrown where
  request draws := thrown (buildChallengeRequest crypto worker.config
    ⟨draws.requestId,draws.traceId,purpose,draws.clientNonce,draws.createdAt⟩ draws.requestRandomness)
  marshal packet := thrown (marshalWorkerTrustPacket packet)
  failed := classifyRequestError
  nothing := .sdk .type
  unmarshal bytes := thrown (unmarshalWorkerTrustPacket pb bytes)
  verifyChallenge request challenge now := do
    requireChallenge challenge
    thrown (verifyChallenge crypto pb worker.config request challenge now)
  authenticate verified draws := thrown (buildAuthenticate crypto worker.config verified worker.capability currentToken
    draws.authenticateAt draws.authenticateRandomness)
  verifyResult verified authenticate result now := do
    requireResult result
    thrown (verifyResult crypto worker.config verified authenticate result now)

/-- The fields of a lifecycle that the handshake changes. -/
structure Lifecycle where
  current : Option Session
  closed : Bool

namespace Lifecycle

/-- `activeSession` drops a session that has expired. -/
def active (now : Int) (s : Lifecycle) : Lifecycle :=
  { s with current := s.current.filter fun session => session.expiresAt > now }

/-- The token of the session that is left; an empty one counts as none. -/
def token (s : Lifecycle) : String := (s.current.map (·.token)).getD ""

end Lifecycle

/-- A try of the loop; the lifecycle may be closed while it is out. -/
structure Try where
  attempt : Attempt RequestError
  closed : Bool

structure Outcome where
  result : Except Thrown Bool
  state : Lifecycle
  exchanges : List (Exchange RequestError)

def handleFailure (settings : Settings) (failure : Thrown) (renewal : Bool) (now : Int) (s : Lifecycle) :
    Except Thrown Bool × Lifecycle :=
  let s := if renewal && (settings.mode == .enforce || !failure.isOperational) then { s with current := none }
    else s.active now
  if settings.mode == .warn && failure.isOperational then (.ok false,s) else (.error failure,s)

section

variable {Key Pub : Type} (crypto : Crypto Key Pub) (pb : Protobufjs) (worker : Worker Key Pub) (settings : Settings)

/-- The exchange of a try, unless the lifecycle is closed before it ends. -/
def settle (purpose : Int32) (currentToken : String) (next : Try) : Except Thrown Session :=
  if next.closed then .error .closed else (scheme crypto pb worker purpose currentToken).exchange next.attempt

/-- The clock is read before the loop (`now`) and after it (`later`). -/
def exchangeWithRetries (purpose : Int32) (currentToken : String) (now : Int) (tries : Nat → Try) (later : Int)
    (s : Lifecycle) : Outcome :=
  let s := s.active now
  if purpose = renewPurpose ∧ s.token ≠ currentToken then
    if s.token ≠ "" then ⟨.ok true,s,[]⟩
    else
      let (result,s) := handleFailure settings (.message "renew requires a live session") true later s
      ⟨result,s,[]⟩
  else
    let attempts := retry (settle crypto pb worker purpose currentToken) Thrown.isOperational
      (.message "worker trust exchange failed") ((List.range settings.retries).map tries)
    let exchanges := attempts.2.map fun next => ⟨purpose,currentToken,next.attempt⟩
    match attempts.1 with
    | .ok session => ⟨.ok true,{ s with current := some session },exchanges⟩
    | .error .closed => ⟨.error .closed,⟨none,true⟩,exchanges⟩
    | .error failure =>
      let (result,s) := handleFailure settings failure (purpose == renewPurpose) later s
      ⟨result,s,exchanges⟩

/-- A renewal whose turn comes at once. -/
def renew (now : Int) (tries : Nat → Try) (later : Int) (s : Lifecycle) : Outcome :=
  let s := s.active now
  if s.token = "" then
    let (result,s) := handleFailure settings (.message "renew requires a live session") true later s
    ⟨result,s,[]⟩
  else if s.closed then ⟨.error .closed,s,[]⟩
  else exchangeWithRetries crypto pb worker settings renewPurpose s.token now tries later s

end

end Node

namespace Python

/-- The errors of a request that count as a loss of the transport, and the others. -/
inductive RequestError where
  | timeout | os | connectionClosed | connectionDraining | connectionReconnecting | noResponders | noServers
  | outboundBufferLimit | staleConnection
  | other
deriving DecidableEq

def isTransportFailure (error : RequestError) : Bool := error != .other

inductive Raised where
  | operational (cause : Option RequestError)
  | request (error : RequestError)
  | sdk (error : Error)
  | message (text : String)
  | cancelled
deriving DecidableEq

def isOperationalFailure : Raised → Bool
  | .operational _ => true
  | .request _ | .sdk _ | .message _ | .cancelled => false

def raised {α : Type} : Except Error α → Except Raised α
  | .ok value => .ok value
  | .error error => .error (.sdk error)

def classifyRequestError (error : RequestError) : Raised :=
  if isTransportFailure error then .operational (some error) else .request error

/-- `_exchange_once`. -/
def scheme {Key Pub : Type} (crypto : Crypto Key Pub) (strictDer : Bytes → Bool) (parse : Bytes → Option Packet)
    (worker : Worker Key Pub) (purpose : Int32) (currentToken : String) :
    Scheme Draws RequestError Bytes Packet VerifiedBytes Session Raised where
  request draws := raised (buildChallengeRequest crypto strictDer worker.config
    ⟨draws.requestId,draws.traceId,purpose,draws.clientNonce,draws.createdAt⟩ draws.requestRandomness)
  marshal packet := raised (marshalWorkerTrustPacket packet)
  failed := classifyRequestError
  nothing := .operational none
  unmarshal bytes := raised (unmarshalWorkerTrustPacket parse bytes)
  verifyChallenge request challenge now := raised (verifyChallenge crypto strictDer worker.config request challenge now)
  authenticate verified draws := raised (buildAuthenticate crypto strictDer parse worker.config verified worker.capability
    currentToken draws.authenticateAt draws.authenticateRandomness)
  verifyResult verified authenticate result now :=
    raised (verifyResult crypto strictDer parse worker.config verified authenticate result now)

structure Lifecycle where
  session : Option Session
  closed : Bool

namespace Lifecycle

/-- `_active_session` drops a session that has expired. -/
def active (now : Int) (s : Lifecycle) : Lifecycle :=
  { s with session := s.session.filter fun session => !(session.expiresAt ≤ now) }

/-- `session_token`, of the session that is left. -/
def token (s : Lifecycle) : String := (s.session.map (·.token)).getD ""

end Lifecycle

/-- A try of the loop; its task may be cancelled, or the lifecycle closed, while it is out. -/
structure Try where
  attempt : Attempt RequestError
  cancelled : Bool
  closed : Bool

structure Outcome where
  result : Except Raised Bool
  state : Lifecycle
  exchanges : List (Exchange RequestError)

def handleFailure (settings : Settings) (failure : Raised) (renewal : Bool) (now : Int) (s : Lifecycle) :
    Except Raised Bool × Lifecycle :=
  let operational := isOperationalFailure failure
  let s := if !operational || (renewal && settings.mode == .enforce) then { s with session := none } else s.active now
  if settings.mode == .enforce || !operational then (.error failure,s) else (.ok false,s)

section

variable {Key Pub : Type} (crypto : Crypto Key Pub) (strictDer : Bytes → Bool) (parse : Bytes → Option Packet)
  (worker : Worker Key Pub) (settings : Settings)

/-- The exchange of a try, unless its task is cancelled; its session is not installed when the
    lifecycle was closed meanwhile. -/
def settle (purpose : Int32) (currentToken : String) (next : Try) : Except Raised Session :=
  if next.cancelled then .error .cancelled
  else do
    let session ← (scheme crypto strictDer parse worker purpose currentToken).exchange next.attempt
    require (!next.closed) (.message "worker trust lifecycle is closed")
    pure session

/-- `_exchange` under its lock. -/
def exchange (purpose : Int32) (currentToken : String) (now : Int) (tries : Nat → Try) (later : Int) (s : Lifecycle) :
    Outcome :=
  if s.closed then ⟨.error (.message "worker trust lifecycle is closed"),s,[]⟩
  else
    let s := if purpose = renewPurpose then s.active now else s
    if purpose = renewPurpose ∧ s.token = "" then
      let (result,s) := handleFailure settings (.message "renew requires a live session") true later s
      ⟨result,s,[]⟩
    else if purpose = renewPurpose ∧ s.token ≠ currentToken then ⟨.ok true,s,[]⟩
    else
      let attempts := retry (settle crypto strictDer parse worker purpose currentToken) isOperationalFailure
        (.message "failed") ((List.range settings.retries).map tries)
      -- A task that is cancelled sees no further reply.
      let exchanges := (attempts.2.filter (!·.cancelled)).map fun next => ⟨purpose,currentToken,next.attempt⟩
      match attempts.1 with
      | .ok session => ⟨.ok true,{ s with session := some session },exchanges⟩
      | .error .cancelled => ⟨.error .cancelled,s,exchanges⟩
      | .error failure =>
        let (result,s) := handleFailure settings failure (purpose == renewPurpose) later s
        ⟨result,s,exchanges⟩

/-- A renewal that gets the lock at once. -/
def renew (now : Int) (tries : Nat → Try) (later : Int) (s : Lifecycle) : Outcome :=
  let s := s.active now
  if s.token = "" then
    let (result,s) := handleFailure settings (.message "renew requires a current live session") true later s
    ⟨result,s,[]⟩
  else exchange crypto strictDer parse worker settings renewPurpose s.token now tries later s

end

end Python

end Cap.Trust
