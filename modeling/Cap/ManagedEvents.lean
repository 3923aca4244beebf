import Cap.ManagedService

/-!
The authority of what a managed job puts on the bus: results and progress events carry that of the
request as it was admitted. A handler's value that contradicts it is not put right; nothing is
published for it.
-/
namespace Cap.ManagedEvents
open Cap.Checks Cap.Runs Cap.ManagedReplay Cap.ManagedDelivery Cap.ManagedAgreement Cap.ManagedService

structure Carries (worker : ManagedWorker) (request : JobRequest) (packet : Packet) : Prop where
  sender : packet.senderID = worker.workerID
  envelope : request.identity = some packet.identity
  job : packet.payload.jobID = request.jobID
  identity : packet.payload.identity = request.identity
  dispatch : packet.payload.dispatch = request.dispatch
  dispatched : request.dispatch.isSome = true

def Contradicts (worker : ManagedWorker) (request : JobRequest) (result : JobResult) : Prop :=
  (result.jobID ≠ "" ∧ result.jobID ≠ request.jobID) ∨
  (∃ identity ∈ result.identity, request.identity ≠ some identity) ∨
  (∃ dispatch ∈ result.dispatch, request.dispatch ≠ some dispatch) ∨
  (result.workerID ≠ "" ∧ result.workerID ≠ worker.workerID)

def ContradictsProgress (request : JobRequest) (progress : JobProgress) : Prop :=
  (progress.jobID ≠ "" ∧ progress.jobID ≠ request.jobID) ∨
  (∃ identity ∈ progress.identity, request.identity ≠ some identity) ∨
  (∃ dispatch ∈ progress.dispatch, request.dispatch ≠ some dispatch)

/-! ### What is built carries the authority -/

variable {request : JobRequest} {cancelled : Bool} {packet : Packet} {traceID : String} {now : Int}
  {worker : ManagedWorker} {env : Env κ} {d : Delivery}

theorem publisher_eq_ok {authority : ManagedEventAuthority}
    (taken : managedPublisherFromContext cancelled request = .ok authority) :
    authority.jobID = request.jobID ∧ request.identity = some authority.identity ∧
      request.dispatch = some authority.dispatch := by
  unfold managedPublisherFromContext snapshotManagedEventAuthority at taken
  split at taken
  · cases taken
  split at taken
  · cases taken
  split at taken
  · next identity dispatch =>
    cases taken
    exact ⟨rfl,identity,dispatch⟩
  · cases taken

theorem bindManagedProgress_eq_ok {progress event : JobProgress} {authority : ManagedEventAuthority}
    (accepted : bindManagedProgress progress authority = .ok event) :
    (progress.jobID = "" ∨ progress.jobID = authority.jobID) ∧
    (∀ identity ∈ progress.identity, identity = authority.identity) ∧
    (∀ dispatch ∈ progress.dispatch, dispatch = authority.dispatch) ∧
    event = {progress with
      jobID := authority.jobID,identity := some authority.identity,dispatch := some authority.dispatch} := by
  unfold bindManagedProgress bindManagedJobID validateManagedEcho at accepted
  split at accepted
  · cases accepted
  · next job =>
    split at accepted
    · cases accepted
    · next identity =>
      split at accepted
      · cases accepted
      · next dispatch =>
        cases accepted
        refine ⟨?_,?_,?_,rfl⟩
        · by_contra neither
          simp only [not_or] at neither
          exact job neither
        · simpa [Option.any_eq_true] using identity
        · simpa [Option.any_eq_true] using dispatch

theorem managedProgressPacket_carries {resources : List String → JobProgress → Int → Except String Unit}
    {progress : JobProgress}
    (built : managedProgressPacket resources worker cancelled now traceID request progress = .ok packet) :
    Carries worker request packet ∧ ¬ ContradictsProgress request progress ∧ ∃ event, packet.payload = .progress event := by
  simp only [managedProgressPacket,bind_eq_ok,pure_eq_ok] at built
  obtain ⟨authority,taken,event,bound,-,-,rfl⟩ := built
  obtain ⟨job,identity,dispatch⟩ := publisher_eq_ok taken
  obtain ⟨sameJob,sameIdentity,sameDispatch,rfl⟩ := bindManagedProgress_eq_ok bound
  refine ⟨⟨rfl,identity,job,identity.symm,dispatch.symm,by rw [dispatch]; rfl⟩,?_,_,rfl⟩
  rintro (⟨given,other⟩ | ⟨nested,present,other⟩ | ⟨nested,present,other⟩)
  · exact other ((sameJob.resolve_left given).trans job)
  · exact other (by rw [identity,sameIdentity nested present])
  · exact other (by rw [dispatch,sameDispatch nested present])

variable {κ : Type}

theorem managedOutcomePacket_carries {outcome : ManagedReplayOutcome}
    (built : managedOutcomePacket env worker cancelled traceID request outcome = .ok packet) :
    Carries worker request packet := by
  unfold managedOutcomePacket at built
  split at built
  · cases built
  · simp only [managedResultPacket,bind_eq_ok,pure_eq_ok] at built
    obtain ⟨authority,taken,bound,binds,rfl⟩ := built
    obtain ⟨job,identity,dispatch⟩ := publisher_eq_ok taken
    obtain ⟨-,-,-,rfl⟩ := bindManagedResult_eq_ok binds
    exact ⟨rfl,identity,job,identity.symm,dispatch.symm,by rw [dispatch]; rfl⟩

theorem outcomePacket_carries (built : outcomePacket env d = some packet) :
    Carries d.worker d.request packet := by
  unfold outcomePacket at built
  split at built
  · exact managedOutcomePacket_carries (toOption_eq_some.mp built)
  · exact managedOutcomePacket_carries (toOption_eq_some.mp built)
  · cases built

variable {transport : Transport}

theorem mem_carried {packet : Option Packet} {p : Packet} (mem : p ∈ carried transport packet) :
    packet = some p := by
  unfold carried at mem
  split at mem
  · simpa using mem
  · cases mem

/-- The results on the bus are the publications that the run of the deliveries records. -/
theorem publish_events [DecidableEq κ] {env : Env κ} {now : Int} {store later : Store κ} {d next : Delivery}
    {events : List (Event κ)}
    (stepped : d.step env now store (.publish transport) = some (later,next,events)) :
    events = (newPackets env d (.publish transport)).filterMap fun packet => match packet.payload with
      | .result result => some (.published (d.key env) packet.traceID result)
      | .progress _ => none := by
  have published : ∀ cancelled traceID outcome,
      (publishManagedReplayOutcome env (d.key env) cancelled traceID d.request outcome transport).1 =
      (carried transport (managedOutcomePacket env d.worker cancelled traceID d.request outcome).toOption).filterMap
        fun packet => match packet.payload with
          | .result result => some (.published (d.key env) packet.traceID result)
          | .progress _ => none := by
    intro cancelled traceID outcome
    unfold publishManagedReplayOutcome managedOutcomePacket managedResultPacket
    cases env.unmarshal outcome.result with
    | none => simp [carried]
    | some result =>
      cases managedPublisherFromContext cancelled d.request with
      | error error => simp [carried,bind,Except.bind]
      | ok authority =>
        cases binds : bindManagedResult result authority with
        | error error => simp [carried,bind,Except.bind,binds]
        | ok bound =>
          obtain ⟨token,signed,sent,publishErr,flushErr⟩ := transport
          cases token <;> cases signed <;> cases sent <;>
            simp [carried,Except.toOption,bind,Except.bind,pure,Except.pure,binds]
  unfold Delivery.step at stepped
  split at stepped
  · cases stepped
  simp only [Act.renewal,Bool.false_eq_true,if_false] at stepped
  cases main : d.main <;> simp only [main,Delivery.mainStep,reduceCtorEq] at stepped
  case publishing replayed outcome =>
    obtain ⟨-,-,rfl⟩ := stepped
    cases replayed with
    | true => simpa [newPackets,outcomePacket,main] using published false outcome.traceID outcome
    | false => simpa [newPackets,outcomePacket,main] using published (d.parentDone || d.handlerDone) d.traceID outcome

variable {result : JobResult}

theorem prepare_contradicting (contradicts : Contradicts worker request result) {outcome : ManagedReplayOutcome} :
    prepareManagedReplayOutcome env worker cancelled now traceID request result ≠ .ok outcome := by
  intro prepared
  simp only [prepareManagedReplayOutcome,bind_eq_ok] at prepared
  obtain ⟨authority,taken,bound,binds,later⟩ := prepared
  obtain ⟨job,identity,dispatch⟩ := publisher_eq_ok taken
  obtain ⟨sameJob,sameIdentity,sameDispatch,rfl⟩ := bindManagedResult_eq_ok binds
  rcases contradicts with ⟨given,other⟩ | ⟨nested,present,other⟩ | ⟨nested,present,other⟩ | ⟨-,other⟩
  · exact other ((sameJob.resolve_left given).trans job)
  · exact other (by rw [identity,sameIdentity nested present])
  · exact other (by rw [dispatch,sameDispatch nested present])
  · rw [if_pos other] at later
    simp at later

/-- The processing of a delivery can only end without a result on the bus. -/
def Spoiled (worker : ManagedWorker) (request : JobRequest) : Main → Prop
  | .preparing result => Contradicts worker request result
  | .stopping prepared | .waiting prepared => ∃ error, prepared = .error error
  | .aborting => True
  | .settled _ | .crashed => True
  | _ => False

private theorem spoiled_quiet (spoiled : Spoiled d.worker d.request d.main) (env : Env κ) (act : Act) :
    newPackets env d act = [] := by
  unfold newPackets
  split
  · have none : outcomePacket env d = none := by
      unfold outcomePacket
      cases main : d.main with
      | publishing replayed outcome => simp [main,Spoiled] at spoiled
      | _ => rfl
    simp [none,carried]
  · rfl

section
variable [DecidableEq κ] {gate : Gate} {env : Env κ} {resources : List String → JobProgress → Int → Except String Unit}

def Over : Main → Prop
  | .settled _ | .crashed => True
  | _ => False

/-- What is on the bus: every packet carries the authority of its delivery, and results are
    there only of deliveries that are over. -/
structure Published (s : Service κ) : Prop where
  carries : ∀ index packet, (index,packet) ∈ s.sent →
    ∃ d, s.world.deliveries[index]? = some d ∧ Carries d.worker d.request packet
  ended : ∀ index packet result, (index,packet) ∈ s.sent → packet.payload = .result result →
    ∀ d, s.world.deliveries[index]? = some d → Over d.main

variable {packet : Packet} {events : List (Event κ)} {act : Act} {d next : Delivery} {later store : Store κ}
  {now : Int} {index : Nat} {s t : Service κ} {acts : List ServiceAct}

theorem Carries.frame {before after : Delivery} (carries : Carries before.worker before.request packet)
    (frame : Frame before after) : Carries after.worker after.request packet := by
  rw [frame.worker,frame.request]
  exact carries

private theorem newPackets_over (stepped : d.step env now store act = some (later,next,events))
    (new : packet ∈ newPackets env d act) : Carries d.worker d.request packet ∧ Over next.main := by
  unfold newPackets at new
  split at new
  · next transport =>
    have built := mem_carried new
    refine ⟨outcomePacket_carries built,?_⟩
    unfold outcomePacket at built
    -- the one step that publishes settles the message
    have publishing : ∃ replayed outcome, d.main = .publishing replayed outcome := by
      split at built
      · next outcome main => exact ⟨true,outcome,main⟩
      · next outcome main => exact ⟨false,outcome,main⟩
      · cases built
    obtain ⟨replayed,outcome,main⟩ := publishing
    simp only [Delivery.step,main,Main.dead,Bool.false_eq_true,if_false,Act.renewal,Delivery.mainStep] at stepped
    cases stepped
    trivial
  · cases new

private theorem over_step
    (stepped : d.step env now store act = some (later,next,events)) (ended : Over d.main) : Over next.main := by
  obtain ⟨-,alive,same | crashed | processed⟩ := step_frame stepped
  · rw [same]
    exact ended
  · rw [crashed]
    trivial
  · -- nothing is processed after the settlement
    cases main : d.main with
    | settled settlement => simp [main,Delivery.mainStep] at processed
    | crashed => exact absurd main alive
    | _ => simp [main,Over] at ended

private theorem packet_origin {act : ServiceAct} (published : Published s)
    (stepped : s.step gate env resources act = some t) (mem : (index,packet) ∈ t.sent) :
    ∃ d, t.world.deliveries[index]? = some d ∧ Carries d.worker d.request packet ∧
      (∀ result, packet.payload = .result result → Over d.main) := by
  cases found : s.world.deliveries[index]? with
  | none =>
    obtain ⟨d,present,-⟩ := published.carries index packet (sent_of_absent found stepped mem)
    rw [found] at present
    cases present
  | some d =>
    have old : (index,packet) ∈ s.sent → Carries d.worker d.request packet ∧
        ∀ result, packet.payload = .result result → Over d.main := by
      intro before
      obtain ⟨e,present,carries⟩ := published.carries index packet before
      cases found.symm.trans present
      exact ⟨carries,fun result same => published.ended index packet result before same d found⟩
    cases step_of found stepped with
    | moves act later next events moved after sent calls =>
      refine ⟨next,after,?_⟩
      rw [sent] at mem
      rcases List.mem_append.mp mem with before | new
      · obtain ⟨carries,ended⟩ := old before
        exact ⟨carries.frame (step_frame moved).1,fun result same => over_step moved (ended result same)⟩
      · obtain ⟨_,fresh,same⟩ := List.mem_map.mp new
        cases same
        obtain ⟨carries,ended⟩ := newPackets_over moved fresh
        exact ⟨carries.frame (step_frame moved).1,fun _ _ => ended⟩
    | rests after sent calls =>
      refine ⟨d,after,?_⟩
      rcases sent packet mem with before | ⟨cancelled,event,built⟩
      · exact old before
      · obtain ⟨carries,-,progress,same⟩ := managedProgressPacket_carries built
        refine ⟨carries,fun result other => ?_⟩
        rw [same] at other
        cases other

theorem published_step {act : ServiceAct} (published : Published s)
    (stepped : s.step gate env resources act = some t) : Published t := by
  constructor
  · intro index packet mem
    obtain ⟨d,present,carries,-⟩ := packet_origin published stepped mem
    exact ⟨d,present,carries⟩
  · intro index packet result mem same d present
    obtain ⟨e,present',-,ended⟩ := packet_origin published stepped mem
    cases present.symm.trans present'
    exact ended result same

theorem published_run
    (reached : run (Service.step gate env resources) (Service.start κ now) acts = some s) : Published s := by
  refine invariant (fun s act t published stepped => published_step published stepped) ⟨?_,?_⟩ reached
  · rintro index packet ⟨⟩
  · rintro index packet result ⟨⟩

private theorem spoiled_mainStep (spoiled : Spoiled d.worker d.request d.main)
    (stepped : d.mainStep env now store d.main act = some (later,next,events)) :
    Spoiled next.worker next.request next.main := by
  cases main : d.main with
  | preparing result =>
    rw [main] at spoiled stepped
    cases act <;> simp only [Delivery.mainStep,reduceCtorEq,Option.some.injEq,Prod.mk.injEq] at stepped
    obtain ⟨-,rfl,-⟩ := stepped
    show ∃ error, _ = Except.error error
    cases prepared : prepareManagedReplayOutcome env d.worker (d.parentDone || d.handlerDone) now d.traceID d.request
        result with
    | error error => exact ⟨error,rfl⟩
    | ok outcome => exact absurd prepared (prepare_contradicting spoiled)
  | stopping prepared =>
    rw [main] at spoiled stepped
    cases act <;> simp only [Delivery.mainStep,reduceCtorEq,Option.some.injEq,Prod.mk.injEq] at stepped
    obtain ⟨-,rfl,-⟩ := stepped
    exact spoiled
  | waiting prepared =>
    rw [main] at spoiled stepped
    obtain ⟨error,rfl⟩ := spoiled
    cases act <;> simp only [Delivery.mainStep,reduceCtorEq] at stepped
    split at stepped
    · cases stepped
      trivial
    · cases stepped
  | aborting =>
    rw [main] at stepped
    cases act <;> simp only [Delivery.mainStep,reduceCtorEq,Option.some.injEq,Prod.mk.injEq] at stepped
    obtain ⟨-,rfl,-⟩ := stepped
    trivial
  | settled settlement | crashed => simp [main,Delivery.mainStep] at stepped
  | _ => simp [main,Spoiled] at spoiled

def Silent (index : Nat) (s : Service κ) : Prop :=
  (∃ d, s.world.deliveries[index]? = some d ∧ Spoiled d.worker d.request d.main) ∧
    ∀ packet, (index,packet) ∈ s.sent → ∃ progress, packet.payload = .progress progress

theorem silent_step {act : ServiceAct} (silent : Silent index s)
    (stepped : s.step gate env resources act = some t) : Silent index t := by
  obtain ⟨⟨d,found,spoiled⟩,none⟩ := silent
  cases step_of found stepped with
  | moves act later next events moved after sent calls =>
    have still : Spoiled next.worker next.request next.main := by
      obtain ⟨frame,-,same | crashed | processed⟩ := step_frame moved
      · rw [frame.worker,frame.request,same]
        exact spoiled
      · rw [crashed]
        trivial
      · exact spoiled_mainStep spoiled processed
    refine ⟨⟨next,after,still⟩,fun packet mem => ?_⟩
    rw [sent,spoiled_quiet spoiled env,List.map_nil,List.append_nil] at mem
    exact none packet mem
  | rests after sent calls =>
    refine ⟨⟨d,after,spoiled⟩,fun packet mem => ?_⟩
    rcases sent packet mem with before | ⟨cancelled,event,built⟩
    · exact none packet before
    · exact (managedProgressPacket_carries built).2.2

private theorem contradicts_normalized {worker : ManagedWorker} {request : JobRequest}
    (contradicts : Contradicts worker request result) (err : Option String) (jobID : String) (execution : Int) :
    Contradicts worker request
      (normalizeResult (managedHandlerResult jobID (.returned (some result) err)) jobID worker.workerID execution) := by
  have kept : ∃ status message, managedHandlerResult jobID (.returned (some result) err) =
      {result with status := status,errorMessage := message} := by
    cases err with
    | none => exact ⟨result.status,result.errorMessage,rfl⟩
    | some text => exact ⟨_,_,rfl⟩
  obtain ⟨status,message,same⟩ := kept
  rw [same]
  rcases contradicts with ⟨given,other⟩ | identity | dispatch | ⟨given,other⟩
  · exact .inl ⟨by simp [normalizeResult,given],by simpa [normalizeResult,given] using other⟩
  · exact .inr (.inl identity)
  · exact .inr (.inr (.inl dispatch))
  · exact .inr (.inr (.inr ⟨by simp [normalizeResult,given],by simpa [normalizeResult,given] using other⟩))

theorem contradicting_result_unpublished {next last : Service κ} (published : Published s)
    (found : s.world.deliveries[index]? = some d)
    (contradicts : Contradicts d.worker d.request result) {err : Option String} {jobID : String} {execution : Nat}
    (returned : s.step gate env resources (.at index (.handlerReturn (.returned (some result) err) jobID execution)) = some next) (reached : run (Service.step gate env resources) next acts = some last)
    (mem : (index,packet) ∈ last.sent) : ∃ progress, packet.payload = .progress progress := by
  have inside : index < s.world.deliveries.length := (List.getElem?_eq_some_iff.mp found).1
  simp only [Service.step,World.step,found,Option.bind_some,Option.map_eq_some_iff] at returned
  obtain ⟨world,⟨⟨later,moved,events⟩,stepped,rfl⟩,same⟩ := returned
  have after : next.world.deliveries[index]? = some moved := by
    subst same
    simp [inside]
  have sent : next.sent = s.sent := by
    subst same
    simp [newPackets]
  -- the step is one of a handler that was running
  have handling : d.main = .handling ∧ moved = {d with main := .preparing (normalizeResult
      (managedHandlerResult jobID (.returned (some result) err)) jobID d.worker.workerID execution)} := by
    unfold Delivery.step at stepped
    split at stepped
    · cases stepped
    simp only [Act.renewal,Bool.false_eq_true,if_false] at stepped
    cases main : d.main <;> simp only [main,Delivery.mainStep,reduceCtorEq,Option.some.injEq,Prod.mk.injEq] at stepped
    exact ⟨rfl,stepped.2.1.symm⟩
  obtain ⟨main,rfl⟩ := handling
  have silent : Silent index next := by
    refine ⟨⟨_,after,contradicts_normalized contradicts err jobID execution⟩,fun earlier before => ?_⟩
    rw [sent] at before
    cases payload : earlier.payload with
    | progress event => exact ⟨event,rfl⟩
    | result other =>
      have ended := published.ended index earlier other before payload d found
      rw [main] at ended
      cases ended
  have last : Silent index last := invariant (fun s act t silent stepped => silent_step silent stepped) silent reached
  exact last.2 packet mem

theorem contradicting_progress_unpublished {next : Service κ}
    (found : s.world.deliveries[index]? = some d) {event : JobProgress} (contradicts : ContradictsProgress d.request event)
    {cancelled : Bool}
    (stepped : s.step gate env resources (.progress index cancelled event transport) = some next) :
    next.sent = s.sent := by
  simp only [Service.step,found,Option.bind_some] at stepped
  split at stepped
  · cases stepped
    cases built : managedProgressPacket resources d.worker cancelled s.world.now d.traceID d.request event with
    | error error => simp [carried,Except.toOption]
    | ok packet => exact absurd contradicts (managedProgressPacket_carries built).2.1
  · cases stepped

private theorem decodeManagedRequest_jetStream {worker : ManagedWorker} {session audience : String}
    {raw : Text.Bytes} {jetStream : Bool} {message : Message}
    (decoded : decodeManagedRequest gate worker session now raw audience jetStream = .ok message) :
    message.jetStream = jetStream := by
  simp only [decodeManagedRequest,bind_eq_ok] at decoded
  obtain ⟨packet,-,kept⟩ := decoded
  split at kept
  · cases kept
  · cases kept
    rfl

/-- The delivery stems from a message of the run that was admitted with its request. -/
def Admitted (gate : Gate) (acts : List ServiceAct) (d : Delivery) : Prop :=
  ∃ session raw audience now message, .receive d.worker session raw audience d.jetStream ∈ acts ∧
    decodeManagedRequest gate d.worker session now raw audience d.jetStream = .ok message ∧ message.request = d.request

theorem Admitted.frame {before after : Delivery} (admitted : Admitted gate acts before)
    (frame : Frame before after) : Admitted gate acts after := by
  unfold Admitted
  rw [frame.worker,frame.jetStream,frame.request]
  exact admitted

theorem admitted_run
    (reached : run (Service.step gate env resources) (Service.start κ now) acts = some s)
    (found : s.world.deliveries[index]? = some d) : Admitted gate acts d := by
  induction acts using List.reverseRecOn generalizing s d with
  | nil =>
    cases reached
    simp [Service.start,World.start] at found
  | append_singleton acts act ih =>
    obtain ⟨t,earlier,stepped⟩ := run_snoc_eq_some.mp reached
    have longer : ∀ e : Delivery, Admitted gate acts e → Admitted gate (acts ++ [act]) e := by
      rintro e ⟨session,raw,audience,time,message,mem,decoded,same⟩
      exact ⟨session,raw,audience,time,message,List.mem_append_left _ mem,decoded,same⟩
    cases before : t.world.deliveries[index]? with
    | some e =>
      have admitted := longer e (ih earlier before)
      cases step_of before stepped with
      | moves act later next events moved after sent calls =>
        cases found.symm.trans after
        exact admitted.frame (step_frame moved).1
      | rests after sent calls =>
        cases found.symm.trans after
        exact admitted
    | none =>
      obtain ⟨worker,session,raw,audience,jetStream,message,rfl,decoded,rfl⟩ := step_receives before stepped found
      have stream : message.jetStream = jetStream := decodeManagedRequest_jetStream decoded
      refine ⟨session,raw,audience,t.world.now,message,?_,?_,rfl⟩
      · simp [Delivery.received,stream]
      · simpa [Delivery.received,stream] using decoded

/-- Whatever the handlers do, each result and each progress event on the bus carries the job
    id, the identity binding and the dispatch identity of the request that was admitted, and
    the worker's sender id; this includes results published again for a later delivery. A
    returned result that contradicts them leaves no result of that delivery on the bus, ever,
    and a contradicting progress event is not published. -/
theorem authority_frozen (gate : Gate) (env : Env κ) (resources : List String → JobProgress → Int → Except String Unit)
    (now : Int) {acts : List ServiceAct} {s : Service κ}
    (reached : run (Service.step gate env resources) (Service.start κ now) acts = some s) :
    (∀ index packet, (index,packet) ∈ s.sent → ∃ d, s.world.deliveries[index]? = some d ∧ Admitted gate acts d ∧
      Carries d.worker d.request packet) ∧
    (∀ index d result err jobID execution next later last packet, s.world.deliveries[index]? = some d →
      Contradicts d.worker d.request result →
      s.step gate env resources (.at index (.handlerReturn (.returned (some result) err) jobID execution)) = some next →
      run (Service.step gate env resources) next later = some last →
      (index,packet) ∈ last.sent → ∃ progress, packet.payload = .progress progress) ∧
    (∀ index d event cancelled transport next, s.world.deliveries[index]? = some d → ContradictsProgress d.request event →
      s.step gate env resources (.progress index cancelled event transport) = some next → next.sent = s.sent) := by
  have published := published_run reached
  refine ⟨?_,?_,?_⟩
  · intro index packet mem
    obtain ⟨d,found,carries⟩ := published.carries index packet mem
    exact ⟨d,found,admitted_run reached found,carries⟩
  · intro index d result err jobID execution next later last packet found contradicts returned ran mem
    exact contradicting_result_unpublished published found contradicts returned ran mem
  · intro index d event cancelled transport next found contradicts stepped
    exact contradicting_progress_unpublished found contradicts stepped

/-- Every result on the bus was recorded as published, under the key of its delivery. -/
def Recorded (env : Env κ) (s : Service κ) : Prop :=
  ∀ index packet result, (index,packet) ∈ s.sent → packet.payload = .result result →
    ∃ d, s.world.deliveries[index]? = some d ∧ .published (d.key env) packet.traceID result ∈ s.world.log

private theorem key_kept {act : ServiceAct} (found : s.world.deliveries[index]? = some d)
    (stepped : s.step gate env resources act = some t) :
    ∃ e, t.world.deliveries[index]? = some e ∧ e.key env = d.key env := by
  cases step_of found stepped with
  | moves act later next events moved after sent calls =>
    exact ⟨next,after,by rw [Delivery.key,(step_frame moved).1.entry,Delivery.key]⟩
  | rests after sent calls => exact ⟨d,after,rfl⟩

private theorem log_kept {w later : World κ} {move : WorldAct} (stepped : w.step env move = some later) : w.log ⊆ later.log := by
  cases move with
  | receive worker message | advance elapsed =>
    cases stepped
    exact List.Subset.refl _
  | «at» index act =>
    simp only [World.step,Option.bind_eq_some_iff,Option.map_eq_some_iff] at stepped
    obtain ⟨d,-,moved,-,rfl⟩ := stepped
    exact List.subset_append_left ..

theorem recorded_step {act : ServiceAct} (recorded : Recorded env s) (stepped : s.step gate env resources act = some t) :
    Recorded env t := by
  intro index packet result mem payload
  have old : (index,packet) ∈ s.sent →
      ∃ d, t.world.deliveries[index]? = some d ∧ .published (d.key env) packet.traceID result ∈ t.world.log := by
    intro before
    obtain ⟨d,found,logged⟩ := recorded index packet result before payload
    obtain ⟨e,there,same⟩ := key_kept found stepped
    refine ⟨e,there,?_⟩
    rw [same]
    rcases step_world stepped with rests | ⟨move,moved⟩
    · rw [rests]
      exact logged
    · exact log_kept moved logged
  cases transition stepped with
  | @move other move d world found ran =>
    rcases List.mem_append.mp mem with before | new
    · exact old before
    · obtain ⟨_,fresh,same⟩ := List.mem_map.mp new
      cases same
      obtain ⟨e,there,key⟩ := key_kept found stepped
      refine ⟨e,there,?_⟩
      simp only [World.step,found,Option.bind_some,Option.map_eq_some_iff] at ran
      obtain ⟨⟨later,next,events⟩,ran,rfl⟩ := ran
      cases move with
      | publish transport =>
        rw [key,publish_events ran]
        exact List.mem_append_right _ (List.mem_filterMap.mpr ⟨packet,fresh,by rw [payload]⟩)
      | _ => cases fresh
  | progress =>
    rcases List.mem_append.mp mem with before | new
    · exact old before
    · obtain ⟨_,fresh,same⟩ := List.mem_map.mp new
      cases same
      obtain ⟨-,-,progress,shown⟩ := managedProgressPacket_carries (toOption_eq_some.mp (mem_carried fresh))
      cases payload.symm.trans shown
  | _ => exact old mem

/-- Every result on the bus is the outcome that the store has for the key of its delivery. -/
def FromStore (env : Env κ) (s : Service κ) : Prop :=
  ∀ index packet result, (index,packet) ∈ s.sent → packet.payload = .result result →
    ∃ d outcome, s.world.deliveries[index]? = some d ∧ outcomeAt s.world.store (d.key env) = some outcome ∧
      packet.traceID = outcome.traceID ∧ env.marshal result = some outcome.result

/-- Across workers, redeliveries and crashes, results of one replay tuple never differ on the bus. -/
theorem bus_from_store (gate : Gate) (env : Env κ) (resources : List String → JobProgress → Int → Except String Unit)
    (now : Int) {acts : List ServiceAct} {s : Service κ}
    (reached : run (Service.step gate env resources) (Service.start κ now) acts = some s) : FromStore env s := by
  have keeps : ∀ s act t, Invariant env s.world ∧ Recorded env s → s.step gate env resources act = some t →
      Invariant env t.world ∧ Recorded env t := by
    intro s act t both stepped
    obtain ⟨world,recorded⟩ := both
    refine ⟨?_,recorded_step recorded stepped⟩
    rcases step_world stepped with same | ⟨move,moved⟩
    · rw [same]
      exact world
    · exact invariant_step world moved
  obtain ⟨world,recorded⟩ := invariant keeps ⟨invariant_start env now,by simp [Recorded,Service.start]⟩ reached
  intro index packet result mem payload
  obtain ⟨d,found,logged⟩ := recorded index packet result mem payload
  obtain ⟨before,after,split⟩ := List.append_of_mem logged
  obtain ⟨outcome,earlier,trace,bytes⟩ := world.justified before _ _ _ after split
  have listed : outcome ∈ completions (d.key env) s.world.log := mem_completions.mpr (by rw [split]; simp [earlier])
  rw [world.stored,Option.mem_toList] at listed
  exact ⟨d,outcome,found,listed,trace.symm,bytes⟩

end

section
open Cap.ManagedService.Samples

/-- Progress, the result and the result again, all with the authority of the request. -/
theorem served_twice_frozen :
    (serviceAfter twice).sent.map (fun sent => (sent.1,sent.2.payload.jobID)) = [(0,"j"),(0,"j"),(1,"j")] ∧
    ∀ index packet, (index,packet) ∈ (serviceAfter twice).sent → ∃ d, (serviceAfter twice).world.deliveries[index]? = some d ∧
      Admitted gate twice d ∧ Carries d.worker d.request packet :=
  ⟨by decide +kernel,(authority_frozen gate sampleEnv _ 0 twice_reaches).1⟩

theorem served_twice_stored : (serviceAfter twice).sent.length = 3 ∧ FromStore sampleEnv (serviceAfter twice) :=
  ⟨by decide +kernel,bus_from_store gate sampleEnv _ 0 twice_reaches⟩

end

end Cap.ManagedEvents
