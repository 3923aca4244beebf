import Cap.ManagedLease
import Cap.ManagedService

/-!
Settlement of durable messages. Every message of a stream that is handled to the end is settled by
one call: acknowledged only by the step that flushed the stored outcome, terminated only when its
packet is refused for good or its digest conflicts, and offered again otherwise.
-/
namespace Cap.ManagedSettlement
open Cap.Checks Cap.Runs Cap.ManagedReplay Cap.ManagedDelivery Cap.ManagedAgreement Cap.ManagedLease Cap.ManagedService
variable {κ : Type}

/-! ### What a settling step means -/

def beginAnswer [DecidableEq κ] (env : Env κ) (now : Int) (store : Store κ) (d : Delivery) (reply : Reply) :
    Except StoreError ManagedReplayClaim :=
  (reply.deliver store (store.begin (d.key env) d.parentDone now d.entry)).2

def flushed (env : Env κ) (d : Delivery) (replayed : Bool) (outcome : ManagedReplayOutcome) (transport : Transport) : Bool :=
  !(if replayed then publishManagedReplayOutcome env (d.key env) false outcome.traceID d.request outcome transport
    else publishManagedReplayOutcome env (d.key env) (d.parentDone || d.handlerDone) d.traceID d.request outcome transport).2

/-- The transport took the packet: a live session token, a signature, and no error from
    `Publish` and `Flush`. -/
def taken (transport : Transport) : Prop :=
  transport.token = true ∧ transport.signed = true ∧ transport.publishErr = false ∧ transport.flushErr = false

variable {env : Env κ} {d : Delivery} {settlement : Settlement} {store : Store κ} {now : Int}

variable {outcome : ManagedReplayOutcome}

private theorem published_iff {key : κ} {worker : ManagedWorker} {cancelled : Bool} {traceID : String}
    {request : JobRequest} {transport : Transport} :
    (publishManagedReplayOutcome env key cancelled traceID request outcome transport).2 = false ↔
      (managedOutcomePacket env worker cancelled traceID request outcome).toOption.isSome = true ∧
        taken transport := by
  unfold publishManagedReplayOutcome managedOutcomePacket
  cases env.unmarshal outcome.result with
  | none => simp [Except.toOption]
  | some result =>
    cases managedPublisherFromContext cancelled request with
    | error error => simp [Except.toOption,bind,Except.bind]
    | ok admitted =>
      cases bound : bindManagedResult result admitted with
      | error error => simp [bound,managedResultPacket,Except.toOption,bind,Except.bind]
      | ok event =>
        simp only [bound,managedResultPacket,Except.toOption,bind,Except.bind,pure,Except.pure,taken]
        cases transport.token <;> cases transport.signed <;> simp

theorem flushed_iff {replayed : Bool} {transport : Transport} (publishing : d.main = .publishing replayed outcome) :
    flushed env d replayed outcome transport = true ↔
      (outcomePacket env d).isSome = true ∧ taken transport := by
  cases replayed with
  | true =>
    simp only [flushed,outcomePacket,publishing,Bool.not_eq_true']
    exact published_iff
  | false =>
    simp only [flushed,outcomePacket,publishing,Bool.not_eq_true']
    exact published_iff

private theorem callsOf_append {s t : Service κ} {index : Nat} {calls : List Settlement}
    (made : t.calls = s.calls ++ calls.map fun call => (index,call)) : t.callsOf index = s.callsOf index ++ calls := by
  simp [Service.callsOf,made,List.filterMap_append,List.filterMap_map]

private theorem managedReplayError_eq_conflict {error : StoreError} :
    managedReplayError error = .conflict ↔ error = .conflict := by
  cases error <;> simp [managedReplayError]

theorem handleClaim_settled {claimed : Except StoreError ManagedReplayClaim}
    (settled : (handleClaim d claimed).main = .settled settlement) :
    settlement ≠ .ack ∧ (settlement = .term ↔ claimed = .error .conflict) := by
  cases claimed with
  | error error =>
    have same : (if managedReplayError error = .conflict then Settlement.term else .nak) = settlement := by
      simpa [handleClaim] using settled
    subst same
    by_cases conflict : error = .conflict <;> simp [managedReplayError_eq_conflict,conflict]
  | ok claim =>
    have same : settlement = .nak := by
      unfold handleClaim at settled
      dsimp only at settled
      split at settled
      · cases settled
        rfl
      · split at settled <;> cases settled
        rfl
    simp [same]

variable [DecidableEq κ]

/-- Which settlement a step of the processing means. -/
structure Means (env : Env κ) (now : Int) (store : Store κ) (d : Delivery) (act : Act) (settlement : Settlement) : Prop where
  ack : settlement = .ack ↔ ∃ replayed outcome transport, d.main = .publishing replayed outcome ∧ act = .publish transport ∧
    flushed env d replayed outcome transport = true
  term : settlement = .term ↔ ∃ reply, d.main = .admitted ∧ act = .begin reply ∧
    beginAnswer env now store d reply = .error .conflict

private theorem means_admitted {reply : Reply}
    (admitted : d.main = .admitted)
    (settled : (handleClaim d (beginAnswer env now store d reply)).main = .settled settlement) :
    Means env now store d (.begin reply) settlement := by
  obtain ⟨unacknowledged,terminated⟩ := handleClaim_settled settled
  constructor
  · refine ⟨fun ack => absurd ack unacknowledged,?_⟩
    rintro ⟨_,_,_,publishing,-⟩
    rw [admitted] at publishing
    cases publishing
  · rw [terminated]
    constructor
    · exact fun answer => ⟨reply,admitted,rfl,answer⟩
    · rintro ⟨_,-,same,answer⟩
      cases same
      exact answer

private theorem means_nak {act : Act}
    (claimed : d.main ≠ .admitted) (unpublished : ∀ replayed outcome, d.main ≠ .publishing replayed outcome) :
    Means env now store d act .nak := by
  constructor
  · simp only [reduceCtorEq,false_iff]
    rintro ⟨replayed,outcome,_,publishing,-⟩
    exact unpublished replayed outcome publishing
  · simp only [reduceCtorEq,false_iff]
    rintro ⟨_,admitted,-⟩
    exact claimed admitted

variable {next : Delivery}

theorem mainStep_means {later : Store κ} {act : Act}
    {events : List (Event κ)} (stepped : d.mainStep env now store d.main act = some (later,next,events))
    (settled : next.main = .settled settlement) : Means env now store d act settlement := by
  unfold Delivery.mainStep at stepped
  split at stepped
  · next reply admitted =>
    cases stepped
    exact means_admitted admitted settled
  · cases stepped; cases settled
  · cases stepped; cases settled
  · cases stepped; cases settled
  · split at stepped
    · cases stepped
      dsimp only [decideOutcome] at settled
      split at settled
      · cases settled
      · split at settled <;> cases settled
    · cases stepped
  · next reply aborting =>
    cases stepped
    cases settled
    exact means_nak (by simp [aborting]) (by simp [aborting])
  · next outcome reply completing =>
    cases stepped
    split at settled
    · cases settled
      exact means_nak (by simp [completing]) (by simp [completing])
    · cases settled
  · next replayed outcome transport publishing =>
    cases stepped
    have same : (if flushed env d replayed outcome transport then Settlement.ack else .nak) = settlement := by
      simp only [Main.settled.injEq] at settled
      rw [flushed]
      split <;> split <;> simp_all
    subst same
    refine ⟨?_,?_⟩
    · split <;> simp_all
    · split <;> simp
  · cases stepped

/-! ### The calls of a delivery -/

section
variable {gate : Gate} {env : Env κ} {resources : List String → JobProgress → Int → Except String Unit}

/-- The calls made for a delivery, by where it stands: none before it is settled, then the
    one of its settlement; a crash may come before or after that. -/
def Called (d : Delivery) (calls : List Settlement) : Prop :=
  match d.main with
  | .settled settlement => calls = settle d.jetStream settlement
  | .crashed => calls = [] ∨ ∃ settlement, calls = settle d.jetStream settlement
  | _ => calls = []

variable {act : Act} {d : Delivery} {now : Int} {s t : Service κ} {acts : List ServiceAct}

theorem newCalls_called {store later : Store κ} {events : List (Event κ)}
    (stepped : d.step env now store act = some (later,next,events)) {calls : List Settlement} (called : Called d calls) :
    Called next (calls ++ newCalls d next) := by
  obtain ⟨frame,alive,moved⟩ := step_frame stepped
  cases main : d.main with
  | crashed => exact absurd main alive
  | settled settlement =>
    -- nothing is processed after the settlement, so that only the process can end
    have none : newCalls d next = [] := by simp [newCalls,main]
    have made : calls = settle d.jetStream settlement := by simpa [Called,main] using called
    rw [none,List.append_nil,made]
    rcases moved with same | crashed | processed
    · simp [Called,same,main,frame.jetStream]
    · simp only [Called,crashed,frame.jetStream]
      exact .inr ⟨settlement,rfl⟩
    · simp [main,Delivery.mainStep] at processed
  | _ =>
    have made : calls = [] := by simpa [Called,main] using called
    subst made
    cases after : next.main with
    | settled settlement => simp [Called,newCalls,main,after,frame.jetStream]
    | crashed => simp [Called,newCalls,main,after]
    | _ => simp [Called,newCalls,main,after]

structure Settled (s : Service κ) : Prop where
  called : ∀ index d, s.world.deliveries[index]? = some d → Called d (s.callsOf index)
  uncalled : ∀ index, s.world.deliveries[index]? = none → s.callsOf index = []

theorem settled_step {act : ServiceAct} (settled : Settled s)
    (stepped : s.step gate env resources act = some t) : Settled t := by
  constructor
  · intro index d found
    cases before : s.world.deliveries[index]? with
    | none =>
      obtain ⟨worker,session,raw,audience,jetStream,message,-,-,rfl⟩ := step_receives before stepped found
      rw [callsOf_of_absent before stepped,settled.uncalled index before]
      rfl
    | some e =>
      have called := settled.called index e before
      cases step_of before stepped with
      | moves act later next events moved after sent calls =>
        cases found.symm.trans after
        rw [callsOf_append calls]
        exact newCalls_called moved called
      | rests after sent calls =>
        cases found.symm.trans after
        rw [calls]
        exact called
  · intro index absent
    cases before : s.world.deliveries[index]? with
    | none =>
      rw [callsOf_of_absent before stepped]
      exact settled.uncalled index before
    | some e =>
      cases step_of before stepped with
      | moves act later next events moved after sent calls | rests after sent calls =>
        rw [absent] at after
        cases after

theorem settled_run
    (reached : run (Service.step gate env resources) (Service.start κ now) acts = some s) : Settled s := by
  refine invariant (fun s act t settled stepped => settled_step settled stepped) ⟨?_,fun index _ => rfl⟩ reached
  intro index d found
  simp [Service.start,World.start] at found

def RefusedSettled (s : Service κ) : Prop :=
  ∀ refusal ∈ s.refused, refusal.calls = settle refusal.jetStream (settleManagedProductionRejection refusal.why)

theorem refused_step {act : ServiceAct} (settled : RefusedSettled s)
    (stepped : s.step gate env resources act = some t) : RefusedSettled t := by
  cases transition stepped with
  | refuse =>
    intro refusal mem
    rcases List.mem_append.mp mem with old | new
    · exact settled refusal old
    · cases List.mem_singleton.mp new
      rfl
  | _ => exact settled

theorem refused_run
    (reached : run (Service.step gate env resources) (Service.start κ now) acts = some s) : RefusedSettled s := by
  refine invariant (fun s act t settled stepped => refused_step settled stepped) ?_ reached
  rintro refusal ⟨⟩

/-- What is known of the deliveries alone holds in a run of the service. -/
structure Sane (env : Env κ) (s : Service κ) : Prop where
  agreement : Invariant env s.world
  paired : ∀ d ∈ s.world.deliveries, Paired d

theorem sane_step {act : ServiceAct} (sane : Sane env s)
    (stepped : s.step gate env resources act = some t) : Sane env t := by
  rcases step_world stepped with same | ⟨move,moved⟩
  · exact ⟨same ▸ sane.agreement,same ▸ sane.paired⟩
  · exact ⟨invariant_step sane.agreement moved,step_all_paired sane.paired moved⟩

theorem sane_run
    (reached : run (Service.step gate env resources) (Service.start κ now) acts = some s) : Sane env s := by
  refine invariant (fun s act t sane stepped => sane_step sane stepped) ⟨invariant_start env now,?_⟩ reached
  simp [Service.start,World.start]

/-! ### Every message can be settled -/

/-- How everything outside the worker behaves towards one delivery from here on. -/
structure Answers where
  begin : Reply
  handler : HandlerReturn
  jobID : String
  execution : Nat
  abort : Reply
  complete : Reply
  transport : Transport
  renew : Reply
  report : Bool

/-- The steps of a delivery that agree with the answers. The process lives, and no new
    renewal or cancellation is needed to go on. -/
def Answers.allow (answers : Answers) : Act → Prop
  | .begin reply => reply = answers.begin
  | .handlerReturn handler jobID execution =>
    handler = answers.handler ∧ jobID = answers.jobID ∧ execution = answers.execution
  | .abort reply => reply = answers.abort
  | .complete reply => reply = answers.complete
  | .publish transport => transport = answers.transport
  | .renew reply => reply = answers.renew
  | .inProgress accepted => accepted = answers.report
  | .tick | .cancelParent | .crash => False
  | .prepare | .cancelRenew | .decide | .fail | .renewExit => True

def CanSettle (gate : Gate) (env : Env κ) (resources : List String → JobProgress → Int → Except String Unit)
    (answers : Answers) (index : Nat) (jetStream : Bool) (s : Service κ) : Prop :=
  ∃ (more : List Act) (t : Service κ) (d : Delivery) (settlement : Settlement), (∀ act ∈ more, answers.allow act) ∧
    run (Service.step gate env resources) s (more.map (.at index)) = some t ∧
    t.world.deliveries[index]? = some d ∧ d.main = .settled settlement ∧ d.jetStream = jetStream

def Settles (gate : Gate) (env : Env κ) (resources : List String → JobProgress → Int → Except String Unit)
    (answers : Answers) (index : Nat) (d : Delivery) : Prop :=
  ∀ s : Service κ, s.world.deliveries[index]? = some d → CanSettle gate env resources answers index d.jetStream s

section
variable {answers : Answers} {index : Nat} {d : Delivery}

variable {settlement : Settlement}

private theorem settles_settled (settled : d.main = .settled settlement) :
    Settles gate env resources answers index d :=
  fun s found => ⟨[],s,d,settlement,by simp,rfl,found,settled,rfl⟩

private theorem settles_of_step (act : Act) (allowed : answers.allow act)
    (steps : ∀ (now : Int) (store : Store κ), ∃ later next events,
      d.step env now store act = some (later,next,events) ∧ Settles gate env resources answers index next) :
    Settles gate env resources answers index d := by
  intro s found
  have inside : index < s.world.deliveries.length := (List.getElem?_eq_some_iff.mp found).1
  obtain ⟨later,next,events,stepped,settles⟩ := steps s.world.now s.world.store
  obtain ⟨t,first,after⟩ : ∃ t, s.step gate env resources (.at index act) = some t ∧
      t.world.deliveries[index]? = some next := by
    simp only [Service.step,World.step,found,stepped,Option.bind_some,Option.map_some,Option.some.injEq,exists_eq_left']
    simp [inside]
  obtain ⟨more,final,e,settlement,allowedMore,reached,there,settled,stream⟩ := settles t after
  have kept : next.jetStream = d.jetStream := (step_frame stepped).1.jetStream
  refine ⟨act :: more,final,e,settlement,?_,run_cons_eq_some.mpr ⟨t,first,reached⟩,there,settled,stream.trans kept⟩
  simpa [allowed] using allowedMore

private theorem settles_of_mainStep (act : Act) (allowed : answers.allow act) (alive : d.main ≠ .crashed)
    (processing : act.renewal = false)
    (steps : ∀ (now : Int) (store : Store κ), ∃ later next events,
      d.mainStep env now store d.main act = some (later,next,events) ∧ Settles gate env resources answers index next) :
    Settles gate env resources answers index d := by
  refine settles_of_step act allowed fun now store => ?_
  have dead : d.main.dead = false := by cases main : d.main <;> simp_all [Main.dead]
  have same : d.step env now store act = d.mainStep env now store d.main act := by
    cases act <;> simp_all [Delivery.step,Answers.allow]
  rw [same]
  exact steps now store

private theorem settles_of_renewerStep (act : Act) (allowed : answers.allow act) (alive : d.main ≠ .crashed)
    (renewal : act.renewal = true)
    (steps : ∀ (now : Int) (store : Store κ), ∃ later next,
      d.renewerStep env now store d.renewer act = some (later,next) ∧ Settles gate env resources answers index next) :
    Settles gate env resources answers index d := by
  refine settles_of_step act allowed fun now store => ?_
  obtain ⟨later,next,stepped,settles⟩ := steps now store
  have dead : d.main.dead = false := by cases main : d.main <;> simp_all [Main.dead]
  refine ⟨later,next,[],?_,settles⟩
  cases act <;> simp_all [Delivery.step,Act.renewal]

private theorem settles_publishing {replayed : Bool}
    (publishing : d.main = .publishing replayed outcome) : Settles gate env resources answers index d :=
  settles_of_mainStep (.publish answers.transport) rfl (by simp [publishing]) rfl fun now store =>
    ⟨_,_,_,by rw [publishing]; rfl,settles_settled rfl⟩

private theorem settles_completing (completing : d.main = .completing outcome) :
    Settles gate env resources answers index d := by
  refine settles_of_mainStep (.complete answers.complete) rfl (by simp [completing]) rfl fun now store => ?_
  refine ⟨_,_,_,by rw [completing]; rfl,?_⟩
  cases told : (answers.complete.deliver store (store.complete (d.key env) false d.leaseID outcome)).2 with
  | error error => exact settles_settled rfl
  | ok u => exact settles_publishing rfl

private theorem settles_aborting (aborting : d.main = .aborting) : Settles gate env resources answers index d :=
  settles_of_mainStep (.abort answers.abort) rfl (by simp [aborting]) rfl fun now store =>
    ⟨_,_,_,by rw [aborting]; rfl,settles_settled rfl⟩

variable {prepared : Except String ManagedReplayOutcome}

private theorem settles_decided (waiting : d.main = .waiting prepared)
    (exited : d.renewer = .exited) : Settles gate env resources answers index d := by
  refine settles_of_mainStep .decide trivial (by simp [waiting]) rfl fun now store => ?_
  refine ⟨store,{d with main := decideOutcome d prepared},[],by simp [waiting,Delivery.mainStep,exited],?_⟩
  cases prepared with
  | error error => exact settles_aborting rfl
  | ok outcome =>
    by_cases lost : (d.leaseErr.isSome || d.parentDone) = true
    · exact settles_aborting (by simp [decideOutcome,lost])
    · have completing : decideOutcome d (.ok outcome) = .completing outcome := by simp [decideOutcome,lost]
      exact settles_completing completing

/-- The decision waits for the renewer, which ends once its context is cancelled. -/
private theorem settles_waiting (waiting : d.main = .waiting prepared)
    (done : d.renewDone = true) (started : d.renewer ≠ .off) : Settles gate env resources answers index d := by
  have alive : ∀ {e : Delivery}, e.main = .waiting prepared → e.main ≠ .crashed := by
    intro e here
    simp [here]
  have fails : ∀ {e : Delivery} {error : StoreError}, e.main = .waiting prepared → e.renewer = .failing error →
      Settles gate env resources answers index e := by
    intro e error here failing
    refine settles_of_renewerStep .fail trivial (alive here) rfl fun now store => ?_
    exact ⟨store,leaseFail e error,by rw [failing]; rfl,settles_decided here rfl⟩
  have selects : ∀ {e : Delivery}, e.main = .waiting prepared → e.renewDone = true → e.renewer = .selecting →
      Settles gate env resources answers index e := by
    intro e here done selecting
    refine settles_of_renewerStep .renewExit trivial (alive here) rfl fun now store => ?_
    exact ⟨store,{e with renewer := .exited},by simp [selecting,Delivery.renewerStep,done],settles_decided here rfl⟩
  have reports : ∀ {e : Delivery}, e.main = .waiting prepared → e.renewDone = true → e.renewer = .reporting →
      Settles gate env resources answers index e := by
    intro e here done reporting
    refine settles_of_renewerStep (.inProgress answers.report) rfl (alive here) rfl fun now store => ?_
    refine ⟨_,_,by rw [reporting]; rfl,?_⟩
    cases answers.report with
    | true => exact selects here done rfl
    | false => exact fails here rfl
  cases renewer : d.renewer with
  | off => exact absurd renewer started
  | selecting => exact selects waiting done renewer
  | renewing leaseUntil =>
    refine settles_of_renewerStep (.renew answers.renew) rfl (alive waiting) rfl fun now store => ?_
    refine ⟨_,_,by rw [renewer]; rfl,?_⟩
    cases told : (answers.renew.deliver store
        (store.renew (d.key env) (d.parentDone || d.renewDone) now d.leaseID leaseUntil)).2 with
    | error error => exact fails waiting rfl
    | ok u =>
      cases stream : d.jetStream with
      | true => exact reports waiting done rfl
      | false => exact selects waiting done rfl
  | reporting => exact reports waiting done renewer
  | failing error => exact fails waiting renewer
  | exited => exact settles_decided waiting renewer

private theorem settles_stopping (stopping : d.main = .stopping prepared)
    (started : d.renewer ≠ .off) : Settles gate env resources answers index d := by
  refine settles_of_mainStep .cancelRenew trivial (by simp [stopping]) rfl fun now store => ?_
  refine ⟨_,_,_,by rw [stopping]; rfl,?_⟩
  exact settles_waiting rfl rfl started

private theorem settles_preparing {result : JobResult} (preparing : d.main = .preparing result)
    (started : d.renewer ≠ .off) : Settles gate env resources answers index d := by
  refine settles_of_mainStep .prepare trivial (by simp [preparing]) rfl fun now store => ?_
  refine ⟨_,_,_,by rw [preparing]; rfl,?_⟩
  exact settles_stopping rfl started

private theorem settles_handling (handling : d.main = .handling) (started : d.renewer ≠ .off) :
    Settles gate env resources answers index d := by
  refine settles_of_mainStep (.handlerReturn answers.handler answers.jobID answers.execution) ⟨rfl,rfl,rfl⟩
    (by simp [handling]) rfl fun now store => ?_
  refine ⟨_,_,_,by rw [handling]; rfl,?_⟩
  exact settles_preparing rfl started

/-- Whatever claim the store gives, even one that makes no sense. -/
private theorem settles_claimed (claimed : Except StoreError ManagedReplayClaim) :
    Settles gate env resources answers index (handleClaim d claimed) := by
  unfold handleClaim
  split
  · exact settles_settled rfl
  split
  · exact settles_settled rfl
  split
  · exact settles_settled rfl
  · exact settles_publishing rfl
  · exact settles_handling rfl (by simp)

private theorem settles_admitted (admitted : d.main = .admitted) : Settles gate env resources answers index d :=
  settles_of_mainStep (.begin answers.begin) rfl (by simp [admitted]) rfl fun now store =>
    ⟨_,_,_,by rw [admitted]; rfl,settles_claimed _⟩

theorem settles_of_paired (paired : Paired d) (alive : d.main ≠ .crashed) :
    Settles gate env resources answers index d := by
  cases main : d.main with
  | admitted => exact settles_admitted main
  | handling => exact settles_handling main fun off => (paired.started off).1 main
  | preparing result => exact settles_preparing main fun off => (paired.started off).2.1 result main
  | stopping prepared => exact settles_stopping main fun off => (paired.started off).2.2.1 prepared main
  | waiting prepared =>
    exact settles_waiting main (paired.cancelled prepared main) fun off => (paired.started off).2.2.2 prepared main
  | aborting => exact settles_aborting main
  | completing outcome => exact settles_completing main
  | publishing replayed outcome => exact settles_publishing main
  | settled settlement => exact settles_settled main
  | crashed => exact absurd main alive

end

/-! ### Settlement over whole runs -/

/-- Why a step settles a delivery of a state the way it does. -/
structure Justifies (env : Env κ) (s : Service κ) (d : Delivery) (act : Act) (settlement : Settlement) : Prop where
  ack : settlement = .ack ↔ ∃ replayed outcome transport, d.main = .publishing replayed outcome ∧
    act = .publish transport ∧ outcomeAt s.world.store (d.key env) = some outcome ∧
    (outcomePacket env d).isSome = true ∧ taken transport
  term : settlement = .term ↔ ∃ reply, d.main = .admitted ∧ act = .begin reply ∧
    beginAnswer env s.world.now s.world.store d reply = .error .conflict

private theorem justifies_of_means
    (sound : Sound env s.world.store d) (means : Means env s.world.now s.world.store d act settlement) :
    Justifies env s d act settlement := by
  refine ⟨?_,means.term⟩
  rw [means.ack]
  constructor
  · rintro ⟨replayed,outcome,transport,publishing,rfl,done⟩
    have stored : outcomeAt s.world.store (d.key env) = some outcome := by
      unfold Sound at sound
      rw [publishing] at sound
      exact sound.1
    exact ⟨replayed,outcome,transport,publishing,rfl,stored,(flushed_iff publishing).mp done⟩
  · rintro ⟨replayed,outcome,transport,publishing,rfl,-,done⟩
    exact ⟨replayed,outcome,transport,publishing,rfl,(flushed_iff publishing).mpr done⟩

private theorem settling_step {index : Nat}
    (found : s.world.deliveries[index]? = some d) (unsettled : ∀ earlier, d.main ≠ .settled earlier)
    (stepped : s.step gate env resources (.at index act) = some t) (after : t.world.deliveries[index]? = some next)
    (settled : next.main = .settled settlement) : Means env s.world.now s.world.store d act settlement := by
  have inside : index < s.world.deliveries.length := (List.getElem?_eq_some_iff.mp found).1
  simp only [Service.step,World.step,found,Option.bind_some,Option.map_map,Option.map_eq_some_iff] at stepped
  obtain ⟨⟨later,moved,events⟩,moves,rfl⟩ := stepped
  have same : moved = next := by simpa [inside] using after
  subst same
  obtain ⟨-,-,rested | crashed | processed⟩ := step_frame moves
  · exact absurd (rested.symm.trans settled) (unsettled settlement)
  · rw [settled] at crashed
    cases crashed
  · exact mainStep_means processed settled

/-- Every durable message that gets a slot is settled by exactly one call, and by the right one.
    A refused packet is settled at once. An admitted one has made no call before its settlement
    and one after it, and it can be settled from every state of every run, however the store,
    the handler and the transport behave. It is acknowledged exactly by a flushed publication
    of the stored outcome and terminated exactly on a conflict of its digest. -/
theorem messages_settled_once (gate : Gate) (env : Env κ)
    (resources : List String → JobProgress → Int → Except String Unit) (now : Int) {acts : List ServiceAct} {s : Service κ}
    (reached : run (Service.step gate env resources) (Service.start κ now) acts = some s) :
    (∀ refusal ∈ s.refused, refusal.jetStream = true → refusal.calls =
      [if refusal.why = .sessionUnavailable ∨ refusal.why = .wrongWorker then .nak else .term]) ∧
    ∀ index d, s.world.deliveries[index]? = some d → d.jetStream = true →
      (match d.main with
        | .settled settlement => s.callsOf index = [settlement]
        | .crashed => (s.callsOf index).length ≤ 1
        | _ => s.callsOf index = []) ∧
      (d.main ≠ .crashed → ∀ answers : Answers, ∃ (more : List Act) (t : Service κ) (settlement : Settlement),
        (∀ act ∈ more, answers.allow act) ∧ run (Service.step gate env resources) s (more.map (.at index)) = some t ∧
        t.callsOf index = [settlement]) ∧
      (∀ act t next settlement, (∀ earlier, d.main ≠ .settled earlier) →
        s.step gate env resources (.at index act) = some t → t.world.deliveries[index]? = some next →
        next.main = .settled settlement → Justifies env s d act settlement) ∧
      ∀ claimed settlement, (handleClaim d claimed).main = .settled settlement →
        settlement ≠ .ack ∧ (settlement = .term ↔ claimed = .error .conflict) := by
  have settled := settled_run reached
  have sane : Sane env s := sane_run reached
  refine ⟨?_,?_⟩
  · intro refusal mem stream
    rw [refused_run reached refusal mem,stream,settle]
    cases refusal.why <;> simp [settleManagedProductionRejection]
  · intro index d found stream
    have member : d ∈ s.world.deliveries := List.mem_of_getElem? found
    refine ⟨?_,?_,?_,fun claimed settlement => handleClaim_settled⟩
    · have called := settled.called index d found
      cases main : d.main with
      | settled settlement => simpa [Called,main,settle,stream] using called
      | crashed =>
        simp only [Called,main,settle,stream] at called
        rcases called with none | ⟨settlement,one⟩
        · simp [none]
        · simp [one]
      | _ => simpa [Called,main] using called
    · intro alive answers
      have settles : Settles gate env resources answers index d := settles_of_paired (sane.paired d member) alive
      obtain ⟨more,t,e,settlement,allowed,ran,there,ended,kept⟩ := settles s found
      refine ⟨more,t,settlement,allowed,ran,?_⟩
      have whole : run (Service.step gate env resources) (Service.start κ now) (acts ++ more.map (.at index)) = some t := by
        rw [run_append,reached]
        exact ran
      have called := (settled_run whole).called index e there
      simpa [Called,ended,settle,kept,stream] using called
    · intro act t next settlement unsettled stepped after ends
      exact justifies_of_means (sane.agreement.deliveries d member) (settling_step found unsettled stepped after ends)

end

/-- Both deliveries of the message served twice are acknowledged once. -/
theorem served_twice_acknowledged :
    (Samples.serviceAfter Samples.twice).callsOf 0 = [.ack] ∧ (Samples.serviceAfter Samples.twice).callsOf 1 = [.ack] := by
  have once := (messages_settled_once Samples.gate sampleEnv (fun _ _ _ => .ok ()) 0 Samples.twice_reaches).2
  exact ⟨(once 0 _ rfl rfl).1,(once 1 _ rfl rfl).1⟩

end Cap.ManagedSettlement
