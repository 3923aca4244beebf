import Cap.Checks
import Cap.JobIdentity
import Cap.ManagedAgreement

/-!
The Go managed worker in production mode from the delivery of a message to what leaves the worker
because of it: admission, the run of `ManagedDelivery`, the packets on the bus, and the calls that
settle the message with the broker.
-/
namespace Cap.ManagedService
open Cap.Text Cap.Checks Cap.ManagedReplay Cap.ManagedDelivery
open Cap.ManagedAgreement (sampleWorker sampleResult sampleEnv)

inductive Rejection where
  | audienceMismatch
  | sessionUnavailable
  | unverified (text : String)
  | invalid (text : String)
  | identityMismatch
  | compensationEscalation
  | invalidResource (text : String)
  | staleDispatch
  | wrongWorker
  | notRequest
deriving DecidableEq

/-- A verified packet: what the signature covers and the rest of the worker reads. -/
structure Verified where
  audience : String
  identity : Option IdentityBinding
  request : Option JobIdentity.JobRequest
  traceID : String
  messageID : Bytes
  digest : Bytes
  expiresAt : Int

/-- What admission calls but this model does not define: the verification of the raw packet
    for an audience, the envelope validation and the resource checks at a given time. -/
structure Gate where
  verify : Bytes → String → Except String Verified
  validateBusPacket : Verified → Except String Unit
  resources : List String → JobIdentity.JobRequest → Int → Except String Unit

/-- `managedProductionTrust` as far as it can fail; `session` is the token held by then. -/
def managedProductionTrust (audience session : String) : Except Rejection Unit := do
  require (audience != "" && trimmed goSpace audience) .audienceMismatch
  require (session != "") .sessionUnavailable

def ofIdentityError : JobIdentity.Go.Error → Rejection
  | .identityMismatch _ => .identityMismatch
  | .compensationEscalation => .compensationEscalation

def validateManagedProductionRequest (gate : Gate) (worker : ManagedWorker) (now : Int) (packet : Verified) :
    Except Rejection Unit :=
  match packet.request,packet.identity with
  | some request,some authoritative => do
    require (authoritative.tenantID != "" && authoritative.principalID != "" && authoritative.actorID != "" &&
      request.identity == some authoritative) .identityMismatch
    require (request.topic == packet.audience) .audienceMismatch
    (JobIdentity.Go.validateIdentityBinding (some request) (some authoritative)).mapError ofIdentityError
    match request.compensation with
    | none => pure ()
    | some compensation =>
      (JobIdentity.Go.validateCompensationMonotonicity (some request) (some compensation)).mapError ofIdentityError
    (gate.resources worker.resourceResolvers request now).mapError .invalidResource
    match request.dispatch with
    | none => .error .staleDispatch
    | some dispatch => do
      require (dispatch.dispatchID != "" && dispatch.attempt != 0) .staleDispatch
      require (dispatch.assignedWorkerID == worker.workerID) .wrongWorker
  | _,_ => .error .identityMismatch

def admitManagedProductionPacket (gate : Gate) (worker : ManagedWorker) (session : String) (now : Int) (raw : Bytes)
    (audience : String) : Except Rejection Verified := do
  managedProductionTrust audience session
  let packet ← (gate.verify raw audience).mapError .unverified
  (gate.validateBusPacket packet).mapError .invalid
  validateManagedProductionRequest gate worker now packet
  pure packet

/-- `decodeManagedRequest`, with what processing keeps of the packet and the request. -/
def decodeManagedRequest (gate : Gate) (worker : ManagedWorker) (session : String) (now : Int) (raw : Bytes)
    (audience : String) (jetStream : Bool) : Except Rejection Message := do
  let packet ← admitManagedProductionPacket gate worker session now raw audience
  match packet.request with
  | none => .error .notRequest
  | some request => .ok ⟨audience,packet.messageID,packet.digest,packet.expiresAt,packet.traceID,
      ⟨request.jobID,request.identity,request.dispatch⟩,jetStream⟩

/-- `settleManagedProductionRejection`: what another delivery may cure is offered again. -/
def settleManagedProductionRejection : Rejection → Settlement
  | .sessionUnavailable | .wrongWorker => .nak
  | _ => .term

structure JobProgress where
  jobID : String
  stepID : String
  percent : Int
  message : String
  resultPtr : String
  artifactPtrs : List String
  status : JobStatus
  dispatch : Option DispatchIdentity
  identity : Option IdentityBinding
  resultRef : Option ResourceRef
  artifactRefs : List ResourceRef
deriving DecidableEq

inductive Payload where
  | result (result : JobResult)
  | progress (progress : JobProgress)
deriving DecidableEq

namespace Payload

def jobID : Payload → String
  | .result event => event.jobID
  | .progress event => event.jobID

def identity : Payload → Option IdentityBinding
  | .result event => event.identity
  | .progress event => event.identity

def dispatch : Payload → Option DispatchIdentity
  | .result event => event.dispatch
  | .progress event => event.dispatch

end Payload

structure Packet where
  traceID : String
  senderID : String
  identity : IdentityBinding
  payload : Payload
deriving DecidableEq

/-- `publishManagedResultWithAuthority` up to the transport. -/
def managedResultPacket (worker : ManagedWorker) (traceID : String) (authority : ManagedEventAuthority)
    (result : JobResult) : Except String Packet := do
  let bound ← bindManagedResult result authority
  pure ⟨traceID,worker.workerID,authority.identity,.result bound⟩

def bindManagedProgress (progress : JobProgress) (authority : ManagedEventAuthority) : Except String JobProgress := do
  let jobID ← bindManagedJobID progress.jobID authority.jobID
  validateManagedEcho progress.identity progress.dispatch authority
  pure {progress with jobID := jobID,identity := some authority.identity,dispatch := some authority.dispatch}

/-- `PublishManagedProgress` up to the transport, with the resource checks. -/
def managedProgressPacket (resources : List String → JobProgress → Int → Except String Unit) (worker : ManagedWorker)
    (cancelled : Bool) (now : Int) (traceID : String) (request : JobRequest) (progress : JobProgress) :
    Except String Packet := do
  let authority ← managedPublisherFromContext cancelled request
  let event ← bindManagedProgress progress authority
  resources worker.resourceResolvers event now
  pure ⟨traceID,worker.workerID,authority.identity,.progress event⟩

variable {κ : Type}

/-- `publishManagedReplayOutcome` up to the transport. -/
def managedOutcomePacket (env : Env κ) (worker : ManagedWorker) (cancelled : Bool) (traceID : String)
    (request : JobRequest) (outcome : ManagedReplayOutcome) : Except String Packet :=
  match env.unmarshal outcome.result with
  | none => .error "managed production: corrupt durable outcome"
  | some result => do
    let authority ← managedPublisherFromContext cancelled request
    managedResultPacket worker traceID authority result

def outcomePacket (env : Env κ) (d : Delivery) : Option Packet :=
  match d.main with
  | .publishing true outcome =>
    (managedOutcomePacket env d.worker false outcome.traceID d.request outcome).toOption
  | .publishing false outcome =>
    (managedOutcomePacket env d.worker (d.parentDone || d.handlerDone) d.traceID d.request outcome).toOption
  | _ => none

def carried (transport : Transport) (packet : Option Packet) : List Packet :=
  if transport.token && transport.signed && transport.sent then packet.toList else []

structure Refusal where
  why : Rejection
  jetStream : Bool
  calls : List Settlement
deriving DecidableEq

/-- The deliveries and the store; the refused messages; the packets on the bus and the calls
    that settle admitted messages, oldest first and by the number of the delivery. -/
structure Service (κ : Type) where
  world : World κ
  refused : List Refusal
  sent : List (Nat × Packet)
  calls : List (Nat × Settlement)

def Service.start (κ : Type) (now : Int) : Service κ := ⟨.start κ now,[],[],[]⟩

/-- A message gets a slot, time passes, a delivery takes a step, or its handler publishes
    progress, also through a context that does not show the cancellation. -/
inductive ServiceAct where
  | receive (worker : ManagedWorker) (session : String) (raw : Bytes) (audience : String) (jetStream : Bool)
  | advance (elapsed : Nat)
  | at (index : Nat) (act : Act)
  | progress (index : Nat) (cancelled : Bool) (event : JobProgress) (transport : Transport)

def settle (jetStream : Bool) (settlement : Settlement) : List Settlement := if jetStream then [settlement] else []

/-- The call that a step of a delivery makes: the one that its new state names, if the old one did not. -/
def newCalls (before after : Delivery) : List Settlement :=
  match before.main,after.main with
  | .settled _,_ => []
  | _,.settled settlement => settle before.jetStream settlement
  | _,_ => []

def newPackets (env : Env κ) (d : Delivery) : Act → List Packet
  | .publish transport => carried transport (outcomePacket env d)
  | _ => []

/-- The handler of the delivery has been started, and its process lives. -/
def canPublish (d : Delivery) : Bool := d.renewer != .off && !d.main.dead

variable [DecidableEq κ]

def Service.step (gate : Gate) (env : Env κ) (resources : List String → JobProgress → Int → Except String Unit)
    (s : Service κ) : ServiceAct → Option (Service κ)
  | .receive worker session raw audience jetStream =>
    match decodeManagedRequest gate worker session s.world.now raw audience jetStream with
    | .error why => some {s with refused := s.refused ++
        [⟨why,jetStream,settle jetStream (settleManagedProductionRejection why)⟩]}
    | .ok message => (s.world.step env (.receive worker message)).map fun world => {s with world := world}
  | .advance elapsed => (s.world.step env (.advance elapsed)).map fun world => {s with world := world}
  | .at index act => (s.world.deliveries[index]?).bind fun d =>
    (s.world.step env (.at index act)).map fun world =>
      {s with
        world := world
        sent := s.sent ++ (newPackets env d act).map fun packet => (index,packet)
        calls := s.calls ++ ((world.deliveries[index]?).toList.flatMap (newCalls d)).map fun call => (index,call)}
  | .progress index cancelled event transport => (s.world.deliveries[index]?).bind fun d =>
    if canPublish d then
      let packet := managedProgressPacket resources d.worker cancelled s.world.now d.traceID d.request event
      some {s with sent := s.sent ++ (carried transport packet.toOption).map fun packet => (index,packet)}
    else none

def Service.callsOf (s : Service κ) (index : Nat) : List Settlement :=
  s.calls.filterMap fun call => if call.1 = index then some call.2 else none

/-! ### What a step does to a delivery -/

section
variable {gate : Gate} {env : Env κ} {resources : List String → JobProgress → Int → Except String Unit}

structure Frame (before after : Delivery) : Prop where
  worker : after.worker = before.worker
  request : after.request = before.request
  jetStream : after.jetStream = before.jetStream
  entry : after.entry = before.entry

variable {d next : Delivery} {later store : Store κ} {now : Int} {index : Nat} {act : ServiceAct} {s t : Service κ}

private theorem mainStep_frame {act : Act} {events : List (Event κ)}
    (stepped : d.mainStep env now store d.main act = some (later,next,events)) : Frame d next := by
  unfold Delivery.mainStep at stepped
  split at stepped
  · cases stepped
    unfold handleClaim
    split
    · exact ⟨rfl,rfl,rfl,rfl⟩
    split
    · exact ⟨rfl,rfl,rfl,rfl⟩
    split <;> exact ⟨rfl,rfl,rfl,rfl⟩
  all_goals try split at stepped
  all_goals first
    | cases stepped; exact ⟨rfl,rfl,rfl,rfl⟩
    | cases stepped

private theorem renewerStep_frame {act : Act}
    (stepped : d.renewerStep env now store d.renewer act = some (later,next)) : Frame d next ∧ next.main = d.main := by
  unfold Delivery.renewerStep at stepped
  split at stepped
  all_goals try split at stepped
  all_goals first
    | cases stepped; exact ⟨⟨rfl,rfl,rfl,rfl⟩,rfl⟩
    | cases stepped

theorem step_frame {act : Act} {events : List (Event κ)}
    (stepped : d.step env now store act = some (later,next,events)) :
    Frame d next ∧ d.main ≠ .crashed ∧ (next.main = d.main ∨ next.main = .crashed ∨
      d.mainStep env now store d.main act = some (later,next,events)) := by
  unfold Delivery.step at stepped
  split at stepped
  · cases stepped
  · next alive =>
    have lives : d.main ≠ .crashed := by
      intro crashed
      rw [crashed] at alive
      exact alive rfl
    split at stepped
    · cases stepped
      exact ⟨⟨rfl,rfl,rfl,rfl⟩,lives,.inl rfl⟩
    · cases stepped
      exact ⟨⟨rfl,rfl,rfl,rfl⟩,lives,.inr (.inl rfl)⟩
    · split at stepped
      · obtain ⟨⟨after,moved⟩,renewal,same⟩ := Option.map_eq_some_iff.mp stepped
        cases same
        obtain ⟨frame,main⟩ := renewerStep_frame renewal
        exact ⟨frame,lives,.inl main⟩
      · exact ⟨mainStep_frame stepped,lives,.inr (.inr stepped)⟩

/-- What a step of the service does. -/
inductive Transition (gate : Gate) (env : Env κ) (resources : List String → JobProgress → Int → Except String Unit)
    (s : Service κ) : ServiceAct → Service κ → Prop where
  | refuse {worker session raw audience jetStream why}
      (refused : decodeManagedRequest gate worker session s.world.now raw audience jetStream = .error why) :
      Transition gate env resources s (.receive worker session raw audience jetStream) {s with
        refused := s.refused ++ [⟨why,jetStream,settle jetStream (settleManagedProductionRejection why)⟩]}
  | receive {worker session raw audience jetStream message}
      (decoded : decodeManagedRequest gate worker session s.world.now raw audience jetStream = .ok message) :
      Transition gate env resources s (.receive worker session raw audience jetStream) {s with
        world.deliveries := s.world.deliveries ++ [.received worker message s.world.now]}
  | advance (elapsed : Nat) :
      Transition gate env resources s (.advance elapsed) {s with world.now := s.world.now + elapsed}
  | move {index act d world} (found : s.world.deliveries[index]? = some d)
      (moved : s.world.step env (.at index act) = some world) : Transition gate env resources s (.at index act) {s with
        world := world
        sent := s.sent ++ (newPackets env d act).map fun packet => (index,packet)
        calls := s.calls ++ ((world.deliveries[index]?).toList.flatMap (newCalls d)).map fun call => (index,call)}
  | progress {index cancelled event transport d} (found : s.world.deliveries[index]? = some d) :
      Transition gate env resources s (.progress index cancelled event transport) {s with
        sent := s.sent ++ (carried transport (managedProgressPacket resources d.worker cancelled s.world.now d.traceID
          d.request event).toOption).map fun packet => (index,packet)}

theorem transition (stepped : s.step gate env resources act = some t) : Transition gate env resources s act t := by
  cases act with
  | receive worker session raw audience jetStream =>
    simp only [Service.step] at stepped
    split at stepped
    · next refused =>
      cases stepped
      exact .refuse refused
    · next decoded =>
      cases stepped
      exact .receive decoded
  | advance elapsed =>
    cases stepped
    exact .advance elapsed
  | «at» index act =>
    simp only [Service.step,Option.bind_eq_some_iff,Option.map_eq_some_iff] at stepped
    obtain ⟨d,found,world,moved,rfl⟩ := stepped
    exact .move found moved
  | progress index cancelled event transport =>
    simp only [Service.step,Option.bind_eq_some_iff] at stepped
    obtain ⟨d,found,published⟩ := stepped
    split at published
    · cases published
      exact .progress found
    · cases published

/-- What a step of the service does to one of its deliveries: either the delivery moves, or
    it stays and at most a progress event is published for it. -/
inductive StepOf (env : Env κ) (resources : List String → JobProgress → Int → Except String Unit) (index : Nat)
    (d : Delivery) (s t : Service κ) : Prop where
  | moves (act : Act) (later : Store κ) (next : Delivery) (events : List (Event κ))
      (stepped : d.step env s.world.now s.world.store act = some (later,next,events))
      (after : t.world.deliveries[index]? = some next)
      (sent : t.sent = s.sent ++ (newPackets env d act).map fun packet => (index,packet))
      (calls : t.calls = s.calls ++ (newCalls d next).map fun call => (index,call))
  | rests (after : t.world.deliveries[index]? = some d)
      (sent : ∀ packet, (index,packet) ∈ t.sent → (index,packet) ∈ s.sent ∨ ∃ cancelled event,
        managedProgressPacket resources d.worker cancelled s.world.now d.traceID d.request event = .ok packet)
      (calls : t.callsOf index = s.callsOf index)

private theorem mem_sent_of_ne {other : Nat} (different : other ≠ index) {sent : List (Nat × Packet)}
    {packets : List Packet} {packet : Packet}
    (mem : (index,packet) ∈ sent ++ packets.map fun packet => (other,packet)) : (index,packet) ∈ sent := by
  rcases List.mem_append.mp mem with old | new
  · exact old
  · obtain ⟨_,-,same⟩ := List.mem_map.mp new
    exact absurd (Prod.mk.inj same).1 different

theorem step_of
    (found : s.world.deliveries[index]? = some d) (stepped : s.step gate env resources act = some t) :
    StepOf env resources index d s t := by
  have inside : index < s.world.deliveries.length := (List.getElem?_eq_some_iff.mp found).1
  cases transition stepped with
  | refuse | advance => exact .rests found (fun packet mem => .inl mem) rfl
  | receive => exact .rests (by simp [List.getElem?_append_left inside,found]) (fun packet mem => .inl mem) rfl
  | @move other act e world present moved =>
    simp only [World.step,Option.bind_eq_some_iff,Option.map_eq_some_iff] at moved
    obtain ⟨e',present',⟨later,moved,events⟩,moves,rfl⟩ := moved
    cases present.symm.trans present'
    have within : other < s.world.deliveries.length := (List.getElem?_eq_some_iff.mp present).1
    by_cases same : other = index
    · subst same
      cases present.symm.trans found
      refine .moves act later moved events moves ?_ rfl ?_
      · simp [within]
      · simp [within]
    · refine .rests ?_ (fun packet mem => .inl (mem_sent_of_ne same mem)) ?_
      · simp [List.getElem?_set_ne same,found]
      · simp only [Service.callsOf]
        simp [same]
  | @progress other cancelled event transport e present =>
    refine .rests found (fun packet mem => ?_) rfl
    by_cases same : other = index
    · subst same
      cases present.symm.trans found
      rcases List.mem_append.mp mem with old | new
      · exact .inl old
      · obtain ⟨_,carried,same⟩ := List.mem_map.mp new
        cases same
        refine .inr ⟨cancelled,event,?_⟩
        unfold ManagedService.carried at carried
        split at carried
        · simpa using carried
        · cases carried
    · exact .inl (mem_sent_of_ne same mem)

theorem sent_of_absent
    (absent : s.world.deliveries[index]? = none) (stepped : s.step gate env resources act = some t) {packet : Packet}
    (mem : (index,packet) ∈ t.sent) : (index,packet) ∈ s.sent := by
  have other : ∀ {number : Nat} {d : Delivery}, s.world.deliveries[number]? = some d → number ≠ index := by
    rintro number d present rfl
    rw [absent] at present
    cases present
  cases transition stepped with
  | move present | progress present => exact mem_sent_of_ne (other present) mem
  | _ => exact mem

theorem callsOf_of_absent
    (absent : s.world.deliveries[index]? = none) (stepped : s.step gate env resources act = some t) :
    t.callsOf index = s.callsOf index := by
  cases transition stepped with
  | @move number _ _ _ present =>
    have other : number ≠ index := by
      rintro rfl
      rw [absent] at present
      cases present
    simp only [Service.callsOf]
    simp [other]
  | _ => rfl

theorem step_receives
    (absent : s.world.deliveries[index]? = none) (stepped : s.step gate env resources act = some t)
    (found : t.world.deliveries[index]? = some d) :
    ∃ worker session raw audience jetStream message, act = .receive worker session raw audience jetStream ∧
      decodeManagedRequest gate worker session s.world.now raw audience jetStream = .ok message ∧
      d = .received worker message s.world.now := by
  cases transition stepped with
  | refuse | advance | progress => cases absent.symm.trans found
  | receive decoded =>
    refine ⟨_,_,_,_,_,_,rfl,decoded,?_⟩
    rw [List.getElem?_append_right (List.getElem?_eq_none_iff.mp absent)] at found
    exact List.mem_singleton.mp (List.mem_of_getElem? found)
  | move _ moved =>
    simp only [World.step,Option.bind_eq_some_iff,Option.map_eq_some_iff] at moved
    obtain ⟨_,-,_,-,rfl⟩ := moved
    have beyond := List.getElem?_eq_none_iff.mp absent
    have inside := (List.getElem?_eq_some_iff.mp found).1
    simp only [List.length_set] at inside
    omega

theorem step_world (stepped : s.step gate env resources act = some t) :
    t.world = s.world ∨ ∃ move, s.world.step env move = some t.world := by
  cases transition stepped with
  | refuse | progress => exact .inl rfl
  | @receive worker _ _ _ _ message => exact .inr ⟨.receive worker message,rfl⟩
  | advance elapsed => exact .inr ⟨.advance elapsed,rfl⟩
  | move _ moved => exact .inr ⟨_,moved⟩

end

namespace Samples

def request : JobIdentity.JobRequest where
  jobID := "j"
  topic := "job.a"
  adapterID := ""
  env := []
  budget := none
  tenantID := "t"
  principalID := ""
  labels := []
  metadata := none
  compensation := none
  identity := some ⟨"t","p","a",""⟩
  dispatch := some ⟨"d",1,"w"⟩

/-- Verification that finds the sample request in every packet. -/
def gate : Gate where
  verify _ audience := .ok ⟨audience,request.identity,some request,"trace",[1],[2],60 * second⟩
  validateBusPacket _ := .ok ()
  resources _ _ _ := .ok ()

/-- A progress event and a result that leave the authority to the worker. -/
def halfway : JobProgress := ⟨"","",50,"","",[],.running,none,none,none,[]⟩
def blankResult : JobResult := {sampleResult with jobID := "",workerID := "",dispatch := none,identity := none}

def delivered : Transport := ⟨true,true,true,false,false⟩

/-- The message is handled and published, then delivered and published again. -/
def twice : List ServiceAct :=
  [.receive sampleWorker "token" [] "job.a" true,.at 0 (.begin .answered),.progress 0 false halfway delivered,
    .at 0 (.handlerReturn (.returned (some blankResult) none) "j" 0),.at 0 .prepare,.at 0 .cancelRenew,
    .at 0 .renewExit,.at 0 .decide,.at 0 (.complete .answered),.at 0 (.publish delivered),
    .receive sampleWorker "token" [] "job.a" true,.at 1 (.begin .answered),.at 1 (.publish delivered)]

def serviceAfter (acts : List ServiceAct) : Service Bytes :=
  (Runs.run (Service.step gate sampleEnv fun _ _ _ => .ok ()) (Service.start _ 0) acts).getD (Service.start _ 0)

theorem twice_reaches : Runs.run (Service.step gate sampleEnv fun _ _ _ => .ok ()) (Service.start _ 0) twice =
    some (serviceAfter twice) := rfl

end Samples

end Cap.ManagedService
