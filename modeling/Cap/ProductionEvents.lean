import Cap.Checks
import Cap.JobIdentity

/-!
The authority echo of the Node and Python workers in production mode. Both freeze job id, identity
and dispatch of the admitted request and write them into each outgoing event, which they refuse
when it contradicts them.
-/
namespace Cap.ProductionEvents
open Cap.Text Cap.Checks Cap.ManagedDelivery
open Cap.JobIdentity (Repeats)

inductive Conflict where
  | missingRequest
  | missingJobID
  | missingEvent
  | missingAuthority
  | jobID (given admitted : String)
  | identity
  | dispatch
deriving DecidableEq

/-- What binding reads and writes of a request or an event as a protobuf message. -/
structure Event where
  jobID : String
  identity : Option IdentityBinding
  dispatch : Option DispatchIdentity
deriving DecidableEq

/-- An absent identity or dispatch reads as one with default fields. -/
def identityOf (identity : Option IdentityBinding) : IdentityBinding := identity.getD ⟨"","","",""⟩
def dispatchOf (dispatch : Option DispatchIdentity) : DispatchIdentity := dispatch.getD ⟨"",0,""⟩

namespace Node

/-- `ProductionIdentityView`: each property of the object may be missing. -/
structure IdentityView where
  tenantID : Option String
  principalID : Option String
  actorID : Option String
  delegationID : Option String
deriving DecidableEq

/-- A `uint64` as `protobufjs` has it: a number, or one of the `Long` objects. `===` takes two of
    these objects for different values, whatever they hold. -/
structure Attempt where
  value : Nat
  object : Option Nat
deriving DecidableEq

def Attempt.zero : Attempt := ⟨0,none⟩

structure DispatchView where
  dispatchID : Option String
  attempt : Option Attempt
  assignedWorkerID : Option String
deriving DecidableEq

/-- `ProductionEventView`, also for the admitted request. -/
structure EventView where
  jobID : Option String
  identity : Option IdentityView
  dispatch : Option DispatchView
deriving DecidableEq

structure ProductionEventAuthority where
  jobID : String
  identity : IdentityView
  dispatch : DispatchView
deriving DecidableEq

def cloneIdentity (value : Option IdentityView) : IdentityView where
  tenantID := some ((value.bind IdentityView.tenantID).getD "")
  principalID := some ((value.bind IdentityView.principalID).getD "")
  actorID := some ((value.bind IdentityView.actorID).getD "")
  delegationID := some ((value.bind IdentityView.delegationID).getD "")

def cloneDispatch (value : Option DispatchView) : DispatchView where
  dispatchID := some ((value.bind DispatchView.dispatchID).getD "")
  attempt := some ((value.bind DispatchView.attempt).getD .zero)
  assignedWorkerID := some ((value.bind DispatchView.assignedWorkerID).getD "")

def identityDiffers (a b : IdentityView) : Bool :=
  a.tenantID.getD "" != b.tenantID.getD "" || a.principalID.getD "" != b.principalID.getD "" ||
    a.actorID.getD "" != b.actorID.getD "" || a.delegationID.getD "" != b.delegationID.getD ""

def dispatchDiffers (a b : DispatchView) : Bool :=
  a.dispatchID.getD "" != b.dispatchID.getD "" || a.attempt.getD .zero != b.attempt.getD .zero ||
    a.assignedWorkerID.getD "" != b.assignedWorkerID.getD ""

def freezeProductionAuthority : Option EventView → Except Conflict ProductionEventAuthority
  | none => .error .missingRequest
  | some request =>
    let jobID := trim jsSpace (request.jobID.getD "")
    if jobID = "" then .error .missingJobID
    else .ok ⟨jobID,cloneIdentity request.identity,cloneDispatch request.dispatch⟩

/-- `bindProductionEvent`: the event after the call, and how the call ends. What was filled in
    before a conflict stays. -/
def bindProductionEvent : Option EventView → Option ProductionEventAuthority → Option EventView × Except Conflict Unit
  | none,_ => (none,.error .missingEvent)
  | some event,none => (some event,.error .missingAuthority)
  | some event,some authority =>
    let jobID := trim jsSpace (event.jobID.getD "")
    if jobID ≠ "" ∧ jobID ≠ authority.jobID then (some event,.error (.jobID jobID authority.jobID))
    else
      let event := {event with jobID := some authority.jobID}
      if event.identity.any (identityDiffers · authority.identity) then (some event,.error .identity)
      else
        let event := {event with identity := some (cloneIdentity (some authority.identity))}
        if event.dispatch.any (dispatchDiffers · authority.dispatch) then (some event,.error .dispatch)
        else (some {event with dispatch := some (cloneDispatch (some authority.dispatch))},.ok ())

/-- The event that leaves the worker for an admitted request, if one does. -/
def echo (request event : EventView) : Except Conflict EventView := do
  let authority ← freezeProductionAuthority (some request)
  match bindProductionEvent (some event) (some authority) with
  | (_,.error conflict) => .error conflict
  | (bound,.ok _) => .ok (bound.getD event)

end Node

namespace Python

structure ProductionEventAuthority where
  jobID : String
  identity : IdentityBinding
  dispatch : DispatchIdentity
deriving DecidableEq

def freezeProductionAuthority : Option Event → Except Conflict ProductionEventAuthority
  | none => .error .missingRequest
  | some request =>
    if request.jobID = "" then .error .missingJobID
    else .ok ⟨request.jobID,identityOf request.identity,dispatchOf request.dispatch⟩

def bindProductionEvent : Option Event → Option ProductionEventAuthority → Option Event × Except Conflict Unit
  | none,_ => (none,.error .missingEvent)
  | some event,none => (some event,.error .missingAuthority)
  | some event,some authority =>
    if event.jobID ≠ "" ∧ event.jobID ≠ authority.jobID then (some event,.error (.jobID event.jobID authority.jobID))
    else
      let event := {event with jobID := authority.jobID}
      if event.identity.any (· ≠ authority.identity) then (some event,.error .identity)
      else
        let event := {event with identity := some authority.identity}
        if event.dispatch.any (· ≠ authority.dispatch) then (some event,.error .dispatch)
        else (some {event with dispatch := some authority.dispatch},.ok ())

def echo (request event : Event) : Except Conflict Event := do
  let authority ← freezeProductionAuthority (some request)
  match bindProductionEvent (some event) (some authority) with
  | (_,.error conflict) => .error conflict
  | (bound,.ok _) => .ok (bound.getD event)

end Python

/-! ### What an event must repeat -/

namespace Node

def IdentityView.message (view : IdentityView) : IdentityBinding :=
  ⟨view.tenantID.getD "",view.principalID.getD "",view.actorID.getD "",view.delegationID.getD ""⟩

def DispatchView.message (view : DispatchView) : DispatchIdentity :=
  ⟨view.dispatchID.getD "",(view.attempt.getD .zero).value,view.assignedWorkerID.getD ""⟩

def EventView.message (view : EventView) : Event :=
  ⟨view.jobID.getD "",view.identity.map IdentityView.message,view.dispatch.map DispatchView.message⟩

end Node

/-- The event leaves the dispatch to the worker, or names the attempt of the request by the same
    number or the same object. -/
def Node.SameAttempt (request event : Node.EventView) : Prop :=
  ∀ given, event.dispatch = some given →
    given.attempt.getD .zero = (request.dispatch.bind Node.DispatchView.attempt).getD .zero

/-- The event leaves identity and dispatch to the worker or repeats those of the request. -/
structure Agrees (request event : Event) : Prop where
  identity : ∀ given, event.identity = some given → given = identityOf request.identity
  dispatch : ∀ given, event.dispatch = some given → given = dispatchOf request.dispatch

/-- The authority of the request, written out. -/
def Event.echoed (request : Event) : Event :=
  ⟨request.jobID,some (identityOf request.identity),some (dispatchOf request.dispatch)⟩

private theorem conflict_free {jobID admitted : String} : ¬(jobID ≠ "" ∧ jobID ≠ admitted) ↔ Repeats jobID admitted := by
  unfold Repeats
  tauto

namespace Node

theorem identityDiffers_eq_false {a b : IdentityView} : identityDiffers a b = false ↔ a.message = b.message := by
  simp [identityDiffers,IdentityView.message,and_assoc]

theorem dispatchDiffers_eq_false {a b : DispatchView} :
    dispatchDiffers a b = false ↔ a.message = b.message ∧ a.attempt.getD .zero = b.attempt.getD .zero := by
  simp only [dispatchDiffers,DispatchView.message,Bool.or_eq_false_iff,bne_eq_false_iff_eq,DispatchIdentity.mk.injEq]
  constructor
  · rintro ⟨⟨name,attempt⟩,worker⟩
    exact ⟨⟨name,congrArg Attempt.value attempt,worker⟩,attempt⟩
  · rintro ⟨⟨name,-,worker⟩,attempt⟩
    exact ⟨⟨name,attempt⟩,worker⟩

theorem cloneIdentity_message (value : Option IdentityView) :
    (cloneIdentity value).message = identityOf (value.map IdentityView.message) := by
  cases value <;> rfl

theorem cloneDispatch_message (value : Option DispatchView) :
    (cloneDispatch value).message = dispatchOf (value.map DispatchView.message) := by
  cases value <;> rfl

def bound (jobID : String) (request : EventView) : EventView :=
  ⟨some jobID,some (cloneIdentity (some (cloneIdentity request.identity))),
    some (cloneDispatch (some (cloneDispatch request.dispatch)))⟩

theorem bound_message (jobID : String) (request : EventView) :
    (bound jobID request).message = {request.message.echoed with jobID := jobID} := by
  simp only [bound,EventView.message,Option.map_some,cloneIdentity_message,
    cloneDispatch_message]
  rfl

private theorem identity_agrees {request event : EventView} :
    event.identity.any (identityDiffers · (cloneIdentity request.identity)) = false ↔
      ∀ given, event.message.identity = some given → given = identityOf request.message.identity := by
  cases given : event.identity with
  | none => simp [EventView.message,given]
  | some view => simp [EventView.message,given,identityDiffers_eq_false,cloneIdentity_message]

private theorem dispatch_agrees {request event : EventView} :
    event.dispatch.any (dispatchDiffers · (cloneDispatch request.dispatch)) = false ↔
      (∀ given, event.message.dispatch = some given → given = dispatchOf request.message.dispatch) ∧
        SameAttempt request event := by
  cases given : event.dispatch with
  | none => simp [EventView.message,SameAttempt,given]
  | some view =>
    have cloned : (cloneDispatch request.dispatch).attempt.getD .zero =
        (request.dispatch.bind DispatchView.attempt).getD .zero := rfl
    simp [EventView.message,SameAttempt,given,dispatchDiffers_eq_false,cloneDispatch_message,cloned]

/-- Node accepts what repeats the request after trimming, with the very attempt of the request, and
    echoes the trimmed job id. -/
theorem echo_eq_ok {request event result : EventView} : echo request event = .ok result ↔
    trim jsSpace request.message.jobID ≠ "" ∧
      Repeats (trim jsSpace event.message.jobID) (trim jsSpace request.message.jobID) ∧
      (Agrees request.message event.message ∧ SameAttempt request event) ∧
      result = bound (trim jsSpace request.message.jobID) request := by
  simp only [echo,freezeProductionAuthority,bindProductionEvent]
  change _ ↔ trim jsSpace (request.jobID.getD "") ≠ "" ∧ Repeats (trim jsSpace (event.jobID.getD ""))
    (trim jsSpace (request.jobID.getD "")) ∧ _ ∧ result = bound (trim jsSpace (request.jobID.getD "")) request
  generalize trim jsSpace (request.jobID.getD "") = admitted
  generalize trim jsSpace (event.jobID.getD "") = given
  by_cases missing : admitted = ""
  · simp [missing]
  rw [if_neg missing]
  simp only [bind_eq_ok,Except.ok.injEq,exists_eq_left']
  by_cases conflict : given ≠ "" ∧ given ≠ admitted
  · have unrepeated : ¬ Repeats given admitted := fun repeats => conflict_free.mpr repeats conflict
    simp [conflict,unrepeated]
  rw [if_neg conflict]
  have repeats := conflict_free.mp conflict
  cases identity : event.identity.any (identityDiffers · (cloneIdentity request.identity)) with
  | true =>
    have differs : ¬ Agrees request.message event.message := fun agrees => by
      rw [identity_agrees.mpr agrees.identity] at identity
      cases identity
    simp [differs]
  | false =>
    cases dispatch : event.dispatch.any (dispatchDiffers · (cloneDispatch request.dispatch)) with
    | true =>
      have differs : ¬(Agrees request.message event.message ∧ SameAttempt request event) := by
        rintro ⟨agrees,same⟩
        rw [dispatch_agrees.mpr ⟨agrees.dispatch,same⟩] at dispatch
        cases dispatch
      simp [differs]
    | false =>
      obtain ⟨given,same⟩ := dispatch_agrees.mp dispatch
      have agrees : Agrees request.message event.message := ⟨identity_agrees.mp identity,given⟩
      simp [missing,repeats,agrees,same,bound,eq_comm]

end Node

namespace Python

private theorem value_agrees {α : Type} [DecidableEq α] {value : Option α} {expected : α} :
    value.any (· ≠ expected) = false ↔ ∀ given, value = some given → given = expected := by
  cases value <;> simp

/-- Python accepts what repeats the request as it is, and echoes it. -/
theorem echo_eq_ok {request event result : Event} (filled : request.jobID ≠ "") : echo request event = .ok result ↔
    Repeats event.jobID request.jobID ∧ Agrees request event ∧ result = request.echoed := by
  simp only [echo,freezeProductionAuthority,bindProductionEvent,if_neg filled,bind_eq_ok,Except.ok.injEq,exists_eq_left']
  by_cases conflict : event.jobID ≠ "" ∧ event.jobID ≠ request.jobID
  · have unrepeated : ¬ Repeats event.jobID request.jobID := fun repeats => conflict_free.mpr repeats conflict
    simp [conflict,unrepeated]
  rw [if_neg conflict]
  have repeats := conflict_free.mp conflict
  cases identity : event.identity.any (· ≠ identityOf request.identity) with
  | true =>
    have differs : ¬ Agrees request event := fun agrees => by
      rw [value_agrees.mpr agrees.identity] at identity
      cases identity
    simp [differs]
  | false =>
    cases dispatch : event.dispatch.any (· ≠ dispatchOf request.dispatch) with
    | true =>
      have differs : ¬ Agrees request event := fun agrees => by
        rw [value_agrees.mpr agrees.dispatch] at dispatch
        cases dispatch
      simp [differs]
    | false =>
      have agrees : Agrees request event := ⟨value_agrees.mp identity,value_agrees.mp dispatch⟩
      simp only [Bool.false_eq_true,if_false,Except.ok.injEq,repeats,agrees,true_and]
      exact eq_comm

end Python

/-- The two workers accept and refuse the same, and echo the request as it is. -/
structure EchoesAlike (request event : Node.EventView) : Prop where
  verdict : (∃ bound, Node.echo request event = .ok bound) ↔ ∃ bound, Python.echo request.message event.message = .ok bound
  node : ∀ bound, Node.echo request event = .ok bound → bound.message = request.message.echoed
  python : ∀ bound, Python.echo request.message event.message = .ok bound → bound = request.message.echoed

/-- Trimming repairs something in an event that one of the workers accepts: one of the job ids
    has white space around it, and trimmed the event's is empty or the request's. Of a request
    whose job id is all white space nothing is left; Python still echoes it. -/
def Repaired (request event : String) : Prop :=
  ¬(trim jsSpace request = request ∧ trim jsSpace event = event) ∧
    Repeats (trim jsSpace event) (trim jsSpace request) ∧ (trim jsSpace request = "" → Repeats event request)

private theorem Repeats.trim {actual expected : String} (repeats : Repeats actual expected) :
    Repeats (trim jsSpace actual) (trim jsSpace expected) := by
  rcases repeats with rfl | rfl
  · exact .inl (trim_empty _)
  · exact .inr rfl

/-- For a request with a job id, Node and Python treat an event alike and echo the request
    character for character exactly when identity or dispatch conflict anyway, or the event does not
    repeat the attempt in another object and nothing has to be trimmed. -/
theorem echoes_alike_iff (request event : Node.EventView) (filled : request.message.jobID ≠ "") :
    EchoesAlike request event ↔ ¬(Agrees request.message event.message ∧
      (Node.SameAttempt request event ∧ Repaired request.message.jobID event.message.jobID ∨
        ¬Node.SameAttempt request event ∧ Repeats event.message.jobID request.message.jobID)) := by
  have node := @Node.echo_eq_ok request event
  have python := @Python.echo_eq_ok request.message event.message
  generalize admitted : request.message.jobID = r at *
  generalize event.message.jobID = e at *
  constructor
  · rintro ⟨verdict,exact,-⟩ ⟨agrees,⟨same,untidy,repeats,blank⟩ | ⟨other,repeats⟩⟩
    · by_cases left : trim jsSpace r = ""
      · -- Python accepts the blank job id, and Node has nothing to freeze
        obtain ⟨bound,accepted⟩ := verdict.mpr ⟨_,(python filled).mpr ⟨blank left,agrees,rfl⟩⟩
        exact (node.mp accepted).1 left
      · have accepted := node.mpr ⟨left,repeats,⟨agrees,same⟩,rfl⟩
        have trimmed : trim jsSpace r = r := by
          have echoed := exact _ accepted
          rw [Node.bound_message] at echoed
          simpa [Event.echoed,admitted] using congrArg Event.jobID echoed
        obtain ⟨bound,too⟩ := verdict.mp ⟨_,accepted⟩
        rcases ((python filled).mp too).1 with rfl | rfl
        · exact untidy ⟨trimmed,trim_empty _⟩
        · exact untidy ⟨trimmed,trimmed⟩
    · obtain ⟨bound,accepted⟩ := verdict.mpr ⟨_,(python filled).mpr ⟨repeats,agrees,rfl⟩⟩
      exact other (node.mp accepted).2.2.1.2
  · intro unrepaired
    have tidy : Agrees request.message event.message → Node.SameAttempt request event →
        Repeats (trim jsSpace e) (trim jsSpace r) → (trim jsSpace r = "" → Repeats e r) →
        trim jsSpace r = r ∧ trim jsSpace e = e := by
      intro agrees same repeats blank
      by_contra untidy
      exact unrepaired ⟨agrees,.inl ⟨same,untidy,repeats,blank⟩⟩
    refine ⟨⟨?_,?_⟩,?_,fun bound accepted => ((python filled).mp accepted).2.2⟩
    · rintro ⟨bound,accepted⟩
      obtain ⟨left,repeats,⟨agrees,same⟩,-⟩ := node.mp accepted
      obtain ⟨kept,kept'⟩ := tidy agrees same repeats fun gone => absurd gone left
      rw [kept,kept'] at repeats
      exact ⟨_,(python filled).mpr ⟨repeats,agrees,rfl⟩⟩
    · rintro ⟨bound,accepted⟩
      obtain ⟨repeats,agrees,-⟩ := (python filled).mp accepted
      have same : Node.SameAttempt request event := by
        by_contra other
        exact unrepaired ⟨agrees,.inr ⟨other,repeats⟩⟩
      obtain ⟨kept,kept'⟩ := tidy agrees same (Repeats.trim repeats) fun _ => repeats
      exact ⟨_,node.mpr ⟨by rwa [kept],by rwa [kept,kept'],⟨agrees,same⟩,rfl⟩⟩
    · intro bound accepted
      obtain ⟨left,repeats,⟨agrees,same⟩,rfl⟩ := node.mp accepted
      obtain ⟨kept,-⟩ := tidy agrees same repeats fun gone => absurd gone left
      rw [Node.bound_message,kept,← admitted]
      rfl

namespace Samples

/-- A request as it is decoded: the attempt is a `Long`. -/
def request : Node.EventView :=
  ⟨some "job-1",some ⟨some "tenant-a",some "user-1",some "actor-1",none⟩,
    some ⟨some "dispatch-1",some ⟨1,some 0⟩,some "worker-1"⟩⟩

def spaced : Node.EventView := {request with jobID := some " job-1"}

/-- A handler's event that leaves the authority to the worker. -/
def untouched : Node.EventView := ⟨none,none,none⟩

/-- One that repeats the dispatch, with the attempt as a number. -/
def repeating : Node.EventView :=
  {untouched with dispatch := some ⟨some "dispatch-1",some ⟨1,none⟩,some "worker-1"⟩}

theorem request_echoed : request.message.jobID ≠ "" ∧ EchoesAlike request untouched := by
  refine ⟨by decide,(echoes_alike_iff request untouched (by decide)).mpr ?_⟩
  rintro ⟨-,⟨-,untidy,-⟩ | ⟨other,-⟩⟩
  · exact untidy (by decide)
  · exact other fun _ absent => by cases absent

/-- Node signs the result of job `" job-1"` as one of job `"job-1"`, Python as it is. Node refuses
    an event that repeats the dispatch of its request, and Python accepts it. -/
theorem spaced_repaired : spaced.message.jobID = " job-1" ∧
    (∃ bound, Node.echo spaced untouched = .ok bound ∧ bound.message.jobID = "job-1") ∧
    (∃ bound, Python.echo spaced.message untouched.message = .ok bound ∧ bound.jobID = " job-1") ∧
    ¬ EchoesAlike spaced untouched ∧
    repeating.message.dispatch = request.message.dispatch ∧ Node.echo request repeating = .error .dispatch ∧
    (∃ bound, Python.echo request.message repeating.message = .ok bound) ∧ ¬ EchoesAlike request repeating := by
  have refused : Node.echo request repeating = .error .dispatch := rfl
  have accepted : ∃ bound, Python.echo request.message repeating.message = .ok bound := ⟨_,rfl⟩
  refine ⟨rfl,⟨_,rfl,by decide⟩,⟨_,rfl,rfl⟩,fun alike => ?_,rfl,refused,accepted,fun alike => ?_⟩
  · have echoed := alike.node _ rfl
    exact absurd (congrArg Event.jobID echoed) (by decide)
  · obtain ⟨bound,too⟩ := alike.verdict.mpr accepted
    cases too

end Samples

end Cap.ProductionEvents
