import Cap.Runs
import Cap.ManagedReplay

/-!
The Go managed worker in production mode: one delivered message from `Begin` to its settlement,
with the processing and the lease-renewal goroutine as two program counters. Deliveries of any
number of workers share one store and one clock.
-/
namespace Cap.ManagedDelivery
open Cap.Text Cap.ManagedReplay

/-- The job status of the protocol; proto3 enumerations are open. -/
inductive JobStatus where
  | unspecified
  | pending
  | scheduled
  | dispatched
  | running
  | succeeded
  | failed
  | cancelled
  | denied
  | timeout
  | failedRetryable
  | failedFatal
  | unrecognized (value : Int)
deriving DecidableEq

structure IdentityBinding where
  tenantID : String
  principalID : String
  actorID : String
  delegationID : String
deriving DecidableEq

structure DispatchIdentity where
  dispatchID : String
  attempt : Nat
  assignedWorkerID : String
deriving DecidableEq

structure ResourceRef where
  resolverID : String
  uri : String
  sha256 : Bytes
  mediaType : String
  sizeBytes : Nat
  expiresAt : Option Int
  purpose : String
deriving DecidableEq

structure JobResult where
  jobID : String
  status : JobStatus
  resultPtr : String
  workerID : String
  executionMs : Int
  errorCode : String
  errorMessage : String
  artifactPtrs : List String
  errorCodeEnum : Int
  dispatch : Option DispatchIdentity
  identity : Option IdentityBinding
  resultRef : Option ResourceRef
  artifactRefs : List ResourceRef
deriving DecidableEq

structure JobRequest where
  jobID : String
  identity : Option IdentityBinding
  dispatch : Option DispatchIdentity
deriving DecidableEq

/-- The lifetimes of the production configuration; a zero stands for the default. -/
structure ManagedProductionConfig where
  trustMaxLifetime : Int
  clockSkew : Int
  messageLifetime : Int
  replayLease : Int
deriving DecidableEq

def second : Int := 1000000000
def defaultManagedReplayLease : Int := 15 * second
def defaultManagedProductionLifetime : Int := 60 * second
def defaultProductionMaxLifetime : Int := 5 * 60 * second
def maximumProductionClockSkew : Int := 60 * second

def managedProductionLifetime (config : ManagedProductionConfig) : Int :=
  if config.messageLifetime > 0 then config.messageLifetime else defaultManagedProductionLifetime

def managedReplayLease (config : ManagedProductionConfig) : Int :=
  if config.replayLease > 0 then config.replayLease
  else
    let lifetime := managedProductionLifetime config
    if defaultManagedReplayLease ≥ lifetime then lifetime / 3 else defaultManagedReplayLease

def validateManagedProductionLifetime (config : ManagedProductionConfig) : Bool :=
  let lifetime := managedProductionLifetime config
  let lease := managedReplayLease config
  let maxLifetime := if config.trustMaxLifetime = 0 then defaultProductionMaxLifetime else config.trustMaxLifetime
  !(decide (config.messageLifetime < 0) || decide (lifetime ≤ 0) || decide (lifetime > defaultProductionMaxLifetime) ||
    decide (config.replayLease < 0) || decide (lease ≤ 0) || decide (lease ≥ lifetime) ||
    decide (maxLifetime < 0) || decide (maxLifetime > defaultProductionMaxLifetime) ||
    decide (config.clockSkew < 0) || decide (config.clockSkew > maximumProductionClockSkew) ||
    decide (config.clockSkew > maxLifetime))

/-- A worker that passed configuration: its identity, the tenant and scheduler its
    session is bound to, and validated lifetimes. -/
structure ManagedWorker where
  workerID : String
  tenantID : String
  expectedSchedulerID : String
  resourceResolvers : List String
  production : ManagedProductionConfig
  valid : validateManagedProductionLifetime production = true

theorem ManagedWorker.lease_pos (worker : ManagedWorker) : 0 < managedReplayLease worker.production := by
  have valid := worker.valid
  simp only [validateManagedProductionLifetime,Bool.not_eq_true',Bool.or_eq_false_iff,decide_eq_false_iff_not] at valid
  omega

/-- What the worker calls but this repository does not define: the hash, the protobuf
    codec of job results, and the resource checks at a given time. -/
structure Env (κ : Type) where
  sha256 : Bytes → κ
  marshal : JobResult → Option Bytes
  unmarshal : Bytes → Option JobResult
  roundTrip : ∀ result data, marshal result = some data → unmarshal data = some result
  resources : List String → JobResult → Int → Except String Unit

/-! ### The handler's result and its authority -/

structure ManagedEventAuthority where
  jobID : String
  identity : IdentityBinding
  dispatch : DispatchIdentity
deriving DecidableEq

def snapshotManagedEventAuthority (request : JobRequest) : Except String ManagedEventAuthority :=
  if request.jobID = "" then .error "managed event request required"
  else match request.identity,request.dispatch with
    | some identity,some dispatch => .ok ⟨request.jobID,identity,dispatch⟩
    | _,_ => .error "managed production: request authority required"

/-- The publisher carried by a context; it is unusable once the context is done. -/
def managedPublisherFromContext (cancelled : Bool) (request : JobRequest) : Except String ManagedEventAuthority :=
  if cancelled then .error "context canceled" else snapshotManagedEventAuthority request

def bindManagedJobID (target authoritative : String) : Except String String :=
  if target ≠ "" ∧ target ≠ authoritative then .error "managed event job id conflicts with admitted request"
  else .ok authoritative

def validateManagedEcho (identity : Option IdentityBinding) (dispatch : Option DispatchIdentity)
    (authority : ManagedEventAuthority) : Except String Unit :=
  if identity.any (· ≠ authority.identity) then .error "capsdk: authoritative identity mismatch"
  else if dispatch.any (· ≠ authority.dispatch) then .error "capsdk: stale or unauthorized dispatch event"
  else .ok ()

/-- `bindManagedResult`: the result with the admitted authority written into it. -/
def bindManagedResult (result : JobResult) (authority : ManagedEventAuthority) : Except String JobResult := do
  let jobID ← bindManagedJobID result.jobID authority.jobID
  validateManagedEcho result.identity result.dispatch authority
  return {result with jobID := jobID,identity := some authority.identity,dispatch := some authority.dispatch}

/-- How a handler ends; the request it was given may have been changed by then. -/
inductive HandlerReturn where
  | returned (result : Option JobResult) (err : Option String)
  | panicked (recovered : String)
deriving DecidableEq

/-- `managedHandlerResult`: a missing result becomes a failure, an error fills in the blanks. -/
def managedHandlerResult (jobID : String) (handler : HandlerReturn) : JobResult :=
  let (given,err,panicked) : Option JobResult × Option String × Bool := match handler with
    | .returned result err => (result,err,false)
    | .panicked recovered => (none,some ("handler panic: " ++ recovered),true)
  let result : JobResult := match given with
    | some result => result
    | none => ⟨jobID,.failed,"","",0,"",if err.isNone then "handler returned nil" else "",[],0,none,none,none,[]⟩
  match err with
  | none => result
  | some text =>
    let status := if result.status = .unspecified then .failed else result.status
    let message := if panicked || blank goSpace result.errorMessage then text else result.errorMessage
    {result with status := status,errorMessage := message}

def normalizeResult (result : JobResult) (jobID workerID : String) (execution : Int) : JobResult :=
  {result with
    jobID := if result.jobID = "" then jobID else result.jobID
    workerID := if result.workerID = "" then workerID else result.workerID
    executionMs := if result.executionMs = 0 then execution else result.executionMs}

def validateJobResult (result : JobResult) : Except String Unit :=
  if result.jobID = "" then .error "capsdk: validation: job_id: must not be empty"
  else if result.status = .unspecified then .error "capsdk: validation: status: must not be UNSPECIFIED"
  else if result.workerID = "" then .error "capsdk: validation: worker_id: must not be empty"
  else if result.executionMs < 0 then .error "capsdk: validation: execution_ms: must not be negative"
  else .ok ()

variable {κ : Type}

/-- `prepareManagedReplayOutcome`: bind, check and encode what the handler returned. -/
def prepareManagedReplayOutcome (env : Env κ) (worker : ManagedWorker) (cancelled : Bool) (now : Int)
    (traceID : String) (request : JobRequest) (result : JobResult) : Except String ManagedReplayOutcome := do
  let authority ← managedPublisherFromContext cancelled request
  let bound ← bindManagedResult result authority
  if bound.workerID ≠ worker.workerID then
    throw "managed production: result worker conflicts with session"
  env.resources worker.resourceResolvers bound now
  validateJobResult bound
  match env.marshal bound with
  | none => throw "marshal managed result"
  | some data => return ⟨traceID,data⟩

/-! ### One delivery as two program counters -/

inductive Settlement where
  | ack
  | nak
  | term
deriving DecidableEq

/-- Where the processing goroutine stands. `stopping` is before `cancelRenew()`,
    `waiting` is between it and the renewer's `done`. -/
inductive Main where
  | admitted
  | handling
  | preparing (result : JobResult)
  | stopping (prepared : Except String ManagedReplayOutcome)
  | waiting (prepared : Except String ManagedReplayOutcome)
  | aborting
  | completing (outcome : ManagedReplayOutcome)
  | publishing (replayed : Bool) (outcome : ManagedReplayOutcome)
  | settled (settlement : Settlement)
  | crashed

/-- Where the renewal goroutine stands. `renewing` has taken the ticker branch and
    computed the new lease end, `reporting` is between `Renew` and `InProgress`. -/
inductive Renewer where
  | off
  | selecting
  | renewing (leaseUntil : Int)
  | reporting
  | failing (error : StoreError)
  | exited
deriving DecidableEq

/-- One message in the hands of one worker. `parentDone`, `renewDone` and `handlerDone`
    say which contexts have been cancelled; the two derived ones also end with the parent. -/
structure Delivery where
  worker : ManagedWorker
  entry : ManagedReplayEntry
  traceID : String
  request : JobRequest
  jetStream : Bool
  leaseID : String
  main : Main
  renewer : Renewer
  parentDone : Bool
  renewDone : Bool
  handlerDone : Bool
  leaseErr : Option StoreError

structure Message where
  audience : String
  messageID : Bytes
  digest : Bytes
  expiresAt : Int
  traceID : String
  request : JobRequest
  jetStream : Bool

def managedReplayEntry (worker : ManagedWorker) (message : Message) (now : Int) : ManagedReplayEntry :=
  let expiresAt := message.expiresAt + worker.production.clockSkew
  let leaseUntil := now + managedReplayLease worker.production
  ⟨worker.tenantID,message.audience,worker.expectedSchedulerID,message.messageID,message.digest,expiresAt,
    if leaseUntil > expiresAt then expiresAt else leaseUntil⟩

def Delivery.received (worker : ManagedWorker) (message : Message) (now : Int) : Delivery :=
  ⟨worker,managedReplayEntry worker message now,message.traceID,message.request,message.jetStream,
    "",.admitted,.off,false,false,false,none⟩

/-- What is observable outside the worker: a `Complete` that took effect in the store,
    and a job result handed to the broker for some replay key. -/
inductive Event (κ : Type) where
  | completed (key : κ) (outcome : ManagedReplayOutcome)
  | published (key : κ) (traceID : String) (result : JobResult)
deriving DecidableEq

/-- What the transport does with one publication: a live session token, a signature,
    whether the bytes leave the worker, and which calls report an error. -/
structure Transport where
  token : Bool
  signed : Bool
  sent : Bool
  publishErr : Bool
  flushErr : Bool
deriving DecidableEq

/-- The steps of one delivery. The store calls carry how they come back, the handler what
    it returns together with the request's job id by then and the execution time. -/
inductive Act where
  | begin (reply : Reply)
  | handlerReturn (handler : HandlerReturn) (jobID : String) (execution : Nat)
  | prepare
  | cancelRenew
  | decide
  | abort (reply : Reply)
  | complete (reply : Reply)
  | publish (transport : Transport)
  | tick
  | renew (reply : Reply)
  | inProgress (accepted : Bool)
  | fail
  | renewExit
  | cancelParent
  | crash
deriving DecidableEq

def Delivery.key (env : Env κ) (d : Delivery) : κ := managedReplayTestKey env.sha256 d.entry

/-- `handleManagedProductionMessage` after `Begin` came back. -/
def handleClaim (d : Delivery) (claimed : Except StoreError ManagedReplayClaim) : Delivery :=
  match claimed with
  | .error error => {d with main := .settled (if managedReplayError error = .conflict then .term else .nak)}
  | .ok claim => match validateManagedReplayClaim claim with
    | .error _ => {d with main := .settled .nak}
    | .ok _ => match claim.state with
      | .pending => {d with main := .settled .nak}
      | .completed => {d with main := .publishing true claim.outcome}
      | .process => {d with leaseID := claim.leaseID,main := .handling,renewer := .selecting}

/-- The decision after `lease.stop()` returned: abort on any error, complete otherwise. -/
def decideOutcome (d : Delivery) (prepared : Except String ManagedReplayOutcome) : Main :=
  match prepared with
  | .error _ => .aborting
  | .ok outcome => if d.leaseErr.isSome || d.parentDone then .aborting else .completing outcome

/-- `publishManagedReplayOutcome`: the event it causes, if any, and whether it returns an error. -/
def publishManagedReplayOutcome (env : Env κ) (key : κ) (cancelled : Bool) (traceID : String) (request : JobRequest)
    (outcome : ManagedReplayOutcome) (transport : Transport) : List (Event κ) × Bool :=
  match env.unmarshal outcome.result with
  | none => ([],true)
  | some result =>
    match managedPublisherFromContext cancelled request >>= bindManagedResult result with
    | .error _ => ([],true)
    | .ok bound =>
      if transport.token && transport.signed then
        (if transport.sent then [.published key traceID bound] else [],transport.publishErr || transport.flushErr)
      else ([],true)

/-- The lease end a renewal asks for, or nothing when it would not lie in the future. -/
def renewUntil (d : Delivery) (now : Int) : Option Int :=
  let leaseUntil := now + managedReplayLease d.worker.production
  let leaseUntil := if leaseUntil > d.entry.expiresAt then d.entry.expiresAt else leaseUntil
  if leaseUntil > now then some leaseUntil else none

/-- A renewal that failed: remembered once, and the handler is cancelled. -/
def leaseFail (d : Delivery) (error : StoreError) : Delivery :=
  {d with leaseErr := d.leaseErr.or (some error),handlerDone := true,renewer := .exited}

def completeEvents (key : κ) (outcome : ManagedReplayOutcome) (reply : Reply) (answer : Except StoreError Unit) :
    List (Event κ) :=
  match reply,answer with
  | .failed _,_ => []
  | _,.error _ => []
  | _,.ok _ => [.completed key outcome]

variable [DecidableEq κ]

def Delivery.mainStep (env : Env κ) (now : Int) (store : Store κ) (d : Delivery) :
    Main → Act → Option (Store κ × Delivery × List (Event κ))
  | .admitted,.begin reply =>
    let called := reply.deliver store (store.begin (d.key env) d.parentDone now d.entry)
    some (called.1,handleClaim d called.2,[])
  | .handling,.handlerReturn handler jobID execution =>
    let result := normalizeResult (managedHandlerResult jobID handler) jobID d.worker.workerID execution
    some (store,{d with main := .preparing result},[])
  | .preparing result,.prepare =>
    let prepared := prepareManagedReplayOutcome env d.worker (d.parentDone || d.handlerDone) now d.traceID d.request result
    some (store,{d with main := .stopping prepared},[])
  | .stopping prepared,.cancelRenew => some (store,{d with renewDone := true,main := .waiting prepared},[])
  | .waiting prepared,.decide =>
    if d.renewer = .exited then some (store,{d with main := decideOutcome d prepared},[]) else none
  | .aborting,.abort reply =>
    let called := reply.deliver store (store.abort (d.key env) false d.leaseID)
    some (called.1,{d with main := .settled .nak},[])
  | .completing outcome,.complete reply =>
    let answer := store.complete (d.key env) false d.leaseID outcome
    let called := reply.deliver store answer
    let next : Main := match called.2 with
      | .error _ => .settled .nak
      | .ok _ => .publishing false outcome
    some (called.1,{d with main := next},completeEvents (d.key env) outcome reply answer.2)
  | .publishing replayed outcome,.publish transport =>
    let published := if replayed
      then publishManagedReplayOutcome env (d.key env) false outcome.traceID d.request outcome transport
      else publishManagedReplayOutcome env (d.key env) (d.parentDone || d.handlerDone) d.traceID d.request outcome transport
    some (store,{d with main := .settled (if published.2 then .nak else .ack)},published.1)
  | _,_ => none

/-- One step of the renewal goroutine. Its `select` may take the ticker branch whether or
    not the context is done, and the `Done` branch only once it is. -/
def Delivery.renewerStep (env : Env κ) (now : Int) (store : Store κ) (d : Delivery) :
    Renewer → Act → Option (Store κ × Delivery)
  | .selecting,.tick => match renewUntil d now with
    | some leaseUntil => some (store,{d with renewer := .renewing leaseUntil})
    | none => some (store,{d with renewer := .failing .unavailable})
  | .selecting,.renewExit =>
    if d.parentDone || d.renewDone then some (store,{d with renewer := .exited}) else none
  | .renewing leaseUntil,.renew reply =>
    let called := reply.deliver store (store.renew (d.key env) (d.parentDone || d.renewDone) now d.leaseID leaseUntil)
    let next : Renewer := match called.2 with
      | .error error => .failing (managedReplayError error)
      | .ok _ => if d.jetStream then .reporting else .selecting
    some (called.1,{d with renewer := next})
  | .reporting,.inProgress accepted =>
    some (store,{d with renewer := if accepted then .selecting else .failing .unavailable})
  | .failing error,.fail => some (store,leaseFail d error)
  | _,_ => none

def Act.renewal : Act → Bool
  | .tick | .renew _ | .inProgress _ | .fail | .renewExit => true
  | _ => false

def Main.dead : Main → Bool
  | .crashed => true
  | _ => false

/-- One step of a delivery. A crash ends both goroutines wherever they stand. -/
def Delivery.step (env : Env κ) (now : Int) (store : Store κ) (d : Delivery) (act : Act) :
    Option (Store κ × Delivery × List (Event κ)) :=
  if d.main.dead then none
  else match act with
    | .cancelParent => some (store,{d with parentDone := true},[])
    | .crash => some (store,{d with main := .crashed},[])
    | act => if act.renewal then (d.renewerStep env now store d.renewer act).map fun next => (next.1,next.2,[])
      else d.mainStep env now store d.main act

/-- The shared store, the clock, every delivery so far and what was observed, oldest first. -/
structure World (κ : Type) where
  store : Store κ
  now : Int
  deliveries : List Delivery
  log : List (Event κ)

def World.start (κ : Type) (now : Int) : World κ := ⟨.new κ,now,[],[]⟩

/-- A message reaches some worker, time passes, or one delivery takes a step. -/
inductive WorldAct where
  | receive (worker : ManagedWorker) (message : Message)
  | advance (elapsed : Nat)
  | at (index : Nat) (act : Act)

def World.step (env : Env κ) (w : World κ) : WorldAct → Option (World κ)
  | .receive worker message => some {w with deliveries := w.deliveries ++ [.received worker message w.now]}
  | .advance elapsed => some {w with now := w.now + elapsed}
  | .at index act => (w.deliveries[index]?).bind fun d =>
    (d.step env w.now w.store act).map fun next =>
      {w with store := next.1,deliveries := w.deliveries.set index next.2.1,log := w.log ++ next.2.2}

end Cap.ManagedDelivery
