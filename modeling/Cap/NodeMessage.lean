import Cap.Interaction
import Cap.Checks
import Cap.Text

/-!
What the Node agent does with an admitted message (`onMessage` of `runtime.ts`): it tries the
handler with its middlewares until a try returns an output that the schema accepts, stores the
output and publishes the result. Each try may return or throw anything.
-/
namespace Cap.NodeMessage
open Cap.Checks Cap.Interaction
open Cap.Text (Bytes utf8)

mutual

/-- What code may throw, with what reading or converting it gives, which may throw as well. -/
inductive Thrown where
  /-- An `Error`, whose message may have been set to any value, and its text. -/
  | error (message : Except Thrown Message) (text : Except Thrown String)
  | symbol (text : String)
  | value (text : Except Thrown String)

/-- The message of an `Error`. -/
inductive Message where
  | string (text : String)
  /-- `undefined` or `null`. -/
  | absent
  | other (truthy : Bool) (text : Except Thrown String)

end

/-- An `Error` of the SDK or of the platform. -/
def Thrown.of (name message : String) : Thrown :=
  .error (.ok (.string message)) (.ok (if message = "" then name else name ++ ": " ++ message))

/-- `String(thrown)`. -/
def Thrown.string : Thrown → Except Thrown String
  | .error _ text | .value text => text
  | .symbol text => .ok text

/-- A template with the thrown value in it, which takes no symbol. -/
def Thrown.template (before : String) : Thrown → Except Thrown String
  | .symbol _ => .error (.of "TypeError" "Cannot convert a Symbol value to a string")
  | .error _ text | .value text => text.map (before ++ ·)

/-- The message of an error, and the text of anything else. -/
def Thrown.message : Thrown → Except Thrown Message
  | .error message _ => message
  | .symbol text => .ok (.string text)
  | .value text => text.map .string

/-- The catch block of a try, which also logs the text. -/
def Thrown.caught (thrown : Thrown) : Except Thrown Message := do
  let message ← thrown.message
  let _ ← thrown.string
  pure message

/-- Whether `if (error)` takes its branch. -/
def Message.truthy : Message → Bool
  | .string text => text ≠ ""
  | .absent => false
  | .other truthy _ => truthy

/-- The string field that `fromObject` makes of it. -/
def Message.field : Message → Except Thrown String
  | .string text => .ok text
  | .absent => .ok ""
  | .other _ text => text

inductive Value (α : Type) where
  | undefined
  | buffer (bytes : Bytes)
  | other (value : α)
deriving DecidableEq

inductive Status where
  | succeeded | failed
deriving DecidableEq

structure Result where
  jobId : String
  status : Status
  resultPtr : String
  executionMs : Nat
  errorMessage : String
deriving DecidableEq

inductive Effect where
  | stored (key : String) (bytes : Bytes)
  | published (result : Result)
deriving DecidableEq

/-- A middleware in the try that is given, with what the next one would return. -/
def Middleware (α : Type) : Type := Nat → (Unit → Except Thrown (Value α)) → Except Thrown (Value α)

structure HandlerSpec (α : Type) where
  handler : Nat → Value α → Except Thrown (Value α)
  inputSchema : Option (Value α → Except Thrown (Value α))
  outputSchema : Option (Nat → Value α → Except Thrown (Value α))
  retries : Nat

structure Agent (α : Type) where
  middlewares : List (Middleware α)
  maxContextBytes : Option Nat
  maxResultBytes : Option Nat
  get : String → Except Thrown (Option Bytes)
  set : String → Bytes → Except Thrown Unit
  parse : Bytes → Except Thrown (Value α)
  /-- Nothing for a value that has no text. -/
  stringify : α → Except Thrown (Option String)
  onJobReceived : Except Thrown Unit
  onJobCompleted : Except Thrown Unit
  onJobFailed : Except Thrown Unit
  /-- What becomes of the publishing of a result, when there is a connection. -/
  publish : Option (Result → Except Thrown Unit)
  elapsedMs : Nat

structure Request where
  jobId : String
  contextPtr : String

def keyFromPointer (ptr : String) : Except Thrown String :=
  if ptr = "" then .error (.of "InvalidInputError" "empty pointer")
  else if ptr.toList.take 8 ≠ "redis://".toList then .error (.of "InvalidInputError" "unsupported pointer scheme")
  else
    let key := String.ofList (ptr.toList.drop 8)
    if key = "" then .error (.of "InvalidInputError" "missing pointer key") else .ok key

def pointerForKey (key : String) : String := "redis://" ++ key

def exceeds (limit : Option Nat) (length : Nat) : Bool := limit.any fun limit => limit ≠ 0 && limit < length

section

variable {α : Type} (agent : Agent α) (spec : HandlerSpec α) (req : Request)

def fetchContext : Except Thrown Bytes := do
  let key ← keyFromPointer req.contextPtr
  match ← agent.get key with
  | none => .error (.of "Error" "context not found")
  | some payload =>
    if exceeds agent.maxContextBytes payload.length then .error (.of "Error" "context exceeds max size")
    else pure payload

def validateInput (raw : Value α) : Except Thrown (Value α) :=
  match spec.inputSchema with
  | none => .ok raw
  | some parse => parse raw

def validateOutput (attempt : Nat) (output : Value α) : Except Thrown (Value α) :=
  match spec.outputSchema with
  | none => .ok output
  | some parse => parse attempt output

def chain (input : Value α) (attempt : Nat) : Except Thrown (Value α) :=
  agent.middlewares.foldr (fun middleware next => fun _ => middleware attempt next) (fun _ => spec.handler attempt input) ()

/-- The loop: so many tries are left, and `output` and `error` are as the last one has left them. -/
def attempts (input : Value α) : Nat → Nat → Value α → Option Message → Except Thrown (Value α × Option Message)
  | 0,_,output,error => .ok (output,error)
  | left + 1,attempt,output,_ =>
    let caught (output : Value α) (thrown : Thrown) : Except Thrown (Value α × Option Message) := do
      let message ← thrown.caught
      attempts input left (attempt + 1) output (some message)
    match chain agent spec input attempt with
    | .error thrown => caught output thrown
    | .ok returned =>
      match validateOutput spec attempt returned with
      | .error thrown => caught returned thrown
      | .ok validated => .ok (validated,none)

def serializeOutput : Value α → Except Thrown Bytes
  | .undefined => .error (.of "Error" "output is undefined")
  | .buffer bytes => .ok bytes
  | .other value => do
    match ← agent.stringify value with
    | none => .error (.of "TypeError" "The first argument must be of type string")
    | some text => .ok (utf8 text)

def emit (effect : Effect) : Program Thrown Effect Unit := .call (fun _ => ()) fun _ => effect

def publishResult (built : Except Thrown Result) : Program Thrown Effect Unit :=
  match agent.publish with
  | none => pure ()
  | some publish => do
    let result ← .of built
    .of (publish result)
    emit (.published result)

def publishFailure (error : Message) (executionMs : Nat) : Program Thrown Effect Unit := do
  .of agent.onJobFailed
  publishResult agent (error.field.map fun text => ⟨req.jobId,.failed,"",executionMs,text⟩)

def resultBytes (output : Value α) : Except Thrown Bytes := do
  let payload ← serializeOutput agent output
  if exceeds agent.maxResultBytes payload.length then .error (.of "Error" "result exceeds max size") else pure payload

def writeResult (output : Value α) : Program Thrown Effect Unit := do
  let payload ← .of (resultBytes agent output)
  let key := "res:" ++ req.jobId
  .of (agent.set key payload)
  emit (.stored key payload)
  .of agent.onJobCompleted
  publishResult agent (.ok ⟨req.jobId,.succeeded,pointerForKey key,agent.elapsedMs,""⟩)

def execute (input : Value α) : Program Thrown Effect Unit := do
  let (output,error) ← .of (attempts agent spec input (spec.retries + 1) 0 .undefined none)
  -- `if (error)`: a falsy message counts as no error.
  match error.filter Message.truthy with
  | some message => publishFailure agent req message agent.elapsedMs
  | none =>
    match ← (writeResult agent req output).attempt with
    | .ok _ => pure ()
    | .error thrown => do
      let text ← .of (thrown.template "result write failed: ")
      publishFailure agent req (.string text) agent.elapsedMs

def onMessage (admitted : Option Request) : Program Thrown Effect Unit :=
  match admitted with
  | none => pure ()
  | some req =>
    if req.jobId = "" then pure ()
    else do
      .of agent.onJobReceived
      match fetchContext agent req with
      | .error thrown => do
        let message ← .of thrown.message
        publishFailure agent req message 0
      | .ok payload =>
        match agent.parse payload with
        | .error thrown => do
          let text ← .of (thrown.template "context decode failed: ")
          publishFailure agent req (.string text) 0
        | .ok raw =>
          match validateInput spec raw with
          | .error thrown => do
            let text ← .of (thrown.template "input validation failed: ")
            publishFailure agent req (.string text) 0
          | .ok input => execute agent spec req input

/-- The try returns an output that the schema accepts as this. -/
def Completes (input : Value α) (attempt : Nat) (validated : Value α) : Prop :=
  ∃ returned,chain agent spec input attempt = .ok returned ∧ validateOutput spec attempt returned = .ok validated

def thrown? (input : Value α) (attempt : Nat) : Option Thrown :=
  match chain agent spec input attempt with
  | .error thrown => some thrown
  | .ok returned =>
    match validateOutput spec attempt returned with
    | .error thrown => some thrown
    | .ok _ => none

/-- The message of what a try throws, when the catch block can read what it throws. -/
def failure? (input : Value α) (attempt : Nat) : Option Message :=
  (thrown? agent spec input attempt).bind fun thrown => thrown.caught.toOption

/-- What the calls before a try have returned last. -/
def leftover (input : Value α) : Nat → Value α
  | 0 => .undefined
  | attempt + 1 =>
    match chain agent spec input attempt with
    | .ok returned => returned
    | .error _ => leftover input attempt

/-- The message that the tries before a try have left. -/
def errorBefore (input : Value α) : Nat → Option Message
  | 0 => none
  | attempt + 1 => failure? agent spec input attempt

end

section

variable {α : Type} {agent : Agent α} {spec : HandlerSpec α} {req : Request} {input : Value α}

theorem completes_or_throws (attempt : Nat) :
    (∃ validated,Completes agent spec input attempt validated) ∨ ∃ thrown,thrown? agent spec input attempt = some thrown := by
  unfold Completes thrown?
  cases called : chain agent spec input attempt with
  | error thrown => exact .inr ⟨thrown,rfl⟩
  | ok returned =>
    cases checked : validateOutput spec attempt returned with
    | error thrown => exact .inr ⟨thrown,by simp only [checked]⟩
    | ok validated => exact .inl ⟨validated,returned,rfl,checked⟩

variable {validated : Value α}

theorem Completes.thrown? {attempt : Nat} (completes : Completes agent spec input attempt validated) :
    thrown? agent spec input attempt = none := by
  obtain ⟨returned,called,checked⟩ := completes
  simp [NodeMessage.thrown?,called,checked]

theorem Completes.unique {attempt : Nat} {first second : Value α} (one : Completes agent spec input attempt first)
    (two : Completes agent spec input attempt second) : first = second := by
  obtain ⟨returned,called,checked⟩ := one
  obtain ⟨again,recalled,rechecked⟩ := two
  obtain rfl : returned = again := Except.ok.inj (called.symm.trans recalled)
  exact Except.ok.inj (checked.symm.trans rechecked)

variable {left : Nat}

theorem attempts_completes {attempt : Nat} {output : Value α} {error : Option Message}
    (completes : Completes agent spec input attempt validated) :
    attempts agent spec input (left + 1) attempt output error = .ok (validated,none) := by
  obtain ⟨returned,called,checked⟩ := completes
  simp [attempts,called,checked]

theorem attempts_throws {attempt : Nat} {thrown : Thrown} {error : Option Message}
    (throws : thrown? agent spec input attempt = some thrown) :
    attempts agent spec input (left + 1) attempt (leftover agent spec input attempt) error =
      thrown.caught.bind fun message =>
        attempts agent spec input left (attempt + 1) (leftover agent spec input (attempt + 1)) (some message) := by
  simp only [attempts,thrown?,leftover] at throws ⊢
  cases called : chain agent spec input attempt with
  | error other =>
    simp only [called,Option.some.injEq] at throws
    subst throws
    rfl
  | ok returned =>
    simp only [called] at throws ⊢
    cases checked : validateOutput spec attempt returned with
    | error other =>
      simp only [checked,Option.some.injEq] at throws
      subst throws
      rfl
    | ok validated => simp [checked] at throws

theorem attempts_eq_ok {attempt : Nat} {output : Value α} {error : Option Message} :
    attempts agent spec input left attempt (leftover agent spec input attempt) (errorBefore agent spec input attempt) =
        .ok (output,error) ↔
      (∃ last,attempt ≤ last ∧ last < attempt + left ∧
        (∀ earlier,attempt ≤ earlier → earlier < last → (failure? agent spec input earlier).isSome = true) ∧
        Completes agent spec input last output ∧ error = none) ∨
      ((∀ earlier,attempt ≤ earlier → earlier < attempt + left → (failure? agent spec input earlier).isSome = true) ∧
        output = leftover agent spec input (attempt + left) ∧ error = errorBefore agent spec input (attempt + left)) := by
  induction left generalizing attempt with
  | zero =>
    constructor
    · intro ran
      obtain ⟨rfl,rfl⟩ := Prod.mk.inj (Except.ok.inj ran)
      exact .inr ⟨by omega,rfl,rfl⟩
    · rintro (⟨last,after,before,-⟩ | ⟨-,rfl,rfl⟩)
      · omega
      · rfl
  | succ left ih =>
    rcases @completes_or_throws _ agent spec input attempt with ⟨validated,completes⟩ | ⟨thrown,throws⟩
    · have unfailed : failure? agent spec input attempt = none := by rw [failure?,completes.thrown?]; rfl
      rw [attempts_completes completes]
      constructor
      · intro ran
        obtain ⟨rfl,rfl⟩ := Prod.mk.inj (Except.ok.inj ran)
        exact .inl ⟨attempt,le_rfl,by omega,by omega,completes,rfl⟩
      · rintro (⟨last,after,before,failed,done,rfl⟩ | ⟨failed,-⟩)
        · rcases Nat.eq_or_lt_of_le after with rfl | later
          · rw [completes.unique done]
          · simpa [unfailed] using failed attempt le_rfl later
        · simpa [unfailed] using failed attempt le_rfl (by omega)
    · have uncompleted : ∀ validated,¬Completes agent spec input attempt validated := fun validated completes => by
        simp [completes.thrown?] at throws
      rw [attempts_throws throws]
      cases readable : thrown.caught with
      | error other =>
        have unfailed : failure? agent spec input attempt = none := by simp [failure?,throws,readable,Except.toOption]
        constructor
        · intro ran
          cases ran
        · rintro (⟨last,after,before,failed,done,-⟩ | ⟨failed,-⟩)
          · rcases Nat.eq_or_lt_of_le after with rfl | later
            · exact absurd done (uncompleted output)
            · simpa [unfailed] using failed attempt le_rfl later
          · simpa [unfailed] using failed attempt le_rfl (by omega)
      | ok message =>
        have failed : failure? agent spec input attempt = some message := by
          simp [failure?,throws,readable]
        have error : some message = errorBefore agent spec input (attempt + 1) := failed.symm
        simp only [Except.bind]
        rw [error,ih]
        have shift : attempt + 1 + left = attempt + (left + 1) := by omega
        rw [shift]
        have onward : ∀ stop,(∀ earlier,attempt + 1 ≤ earlier → earlier < stop → (failure? agent spec input earlier).isSome = true) ↔
            ∀ earlier,attempt ≤ earlier → earlier < stop → (failure? agent spec input earlier).isSome = true := by
          intro stop
          constructor
          · intro later earlier after before
            rcases Nat.eq_or_lt_of_le after with rfl | beyond
            · rw [failed]
              rfl
            · exact later earlier beyond before
          · intro all earlier after before
            exact all earlier (by omega) before
        refine or_congr ?_ (and_congr_left' (onward _))
        constructor
        · rintro ⟨last,after,before,later,done⟩
          exact ⟨last,by omega,before,(onward last).mp later,done⟩
        · rintro ⟨last,after,before,all,done⟩
          rcases Nat.eq_or_lt_of_le after with rfl | beyond
          · exact absurd done.1 (uncompleted output)
          · exact ⟨last,beyond,before,(onward last).mpr all,done⟩

structure Delivers (agent : Agent α) (req : Request) (output : Value α) (payload : Bytes) : Prop where
  bytes : resultBytes agent output = .ok payload
  set : agent.set ("res:" ++ req.jobId) payload = .ok ()
  completed : agent.onJobCompleted = .ok ()
  published : ∃ publish,agent.publish = some publish ∧
    publish ⟨req.jobId,.succeeded,pointerForKey ("res:" ++ req.jobId),agent.elapsedMs,""⟩ = .ok ()

/-- These events hold no success. -/
def Unsuccessful (events : List Effect) : Prop := ∀ result,.published result ∈ events → result.status = .failed

theorem publishResult_ensures (built : Except Thrown Result) (history : List Effect) :
    Ensures (publishResult agent built) history fun _ events =>
      ∀ effect ∈ events,∃ result,built = .ok result ∧ effect = .published result := by
  unfold publishResult
  cases agent.publish with
  | none => exact Ensures.pure (by simp)
  | some publish =>
    refine Ensures.of_bind (fun result made => Ensures.of_bind (fun _ _ => ?_) (fun _ _ => by simp)) (fun _ _ => by simp)
    exact Ensures.call (by simp [made])

theorem publishFailure_unsuccessful (error : Message) (executionMs : Nat) (history : List Effect) :
    Ensures (publishFailure agent req error executionMs) history fun _ events => Unsuccessful events := by
  refine Ensures.of_bind (fun _ _ => ?_) (fun _ _ => by simp [Unsuccessful])
  refine (publishResult_ensures _ history).mono ?_
  intro _ events only result sent
  obtain ⟨failed,built,same⟩ := only _ sent
  obtain rfl := Effect.published.inj same
  cases shown : error.field with
  | error thrown => simp [shown,Except.map] at built
  | ok text =>
    simp only [shown,Except.map,Except.ok.injEq] at built
    rw [← built]

variable {payload : Bytes}

theorem writeResult_delivers {output : Value α} (delivers : Delivers agent req output payload)
    (history : List Effect) : writeResult agent req output history = (.ok (),[.stored ("res:" ++ req.jobId) payload,
      .published ⟨req.jobId,.succeeded,pointerForKey ("res:" ++ req.jobId),agent.elapsedMs,""⟩]) := by
  obtain ⟨publish,connected,sent⟩ := delivers.published
  simp only [writeResult,publishResult,delivers.bytes,delivers.set,delivers.completed,connected,sent,Program.of_ok_bind]
  rfl

theorem writeResult_unsuccessful {output : Value α} (undelivered : ∀ payload,¬Delivers agent req output payload)
    (history : List Effect) : Ensures (writeResult agent req output) history fun _ events => Unsuccessful events := by
  refine Ensures.of_bind (fun payload bytes => ?_) (fun _ _ => by simp [Unsuccessful])
  refine Ensures.of_bind (fun _ set => ?_) (fun _ _ => by simp [Unsuccessful])
  refine Ensures.call_bind (Ensures.of_bind (fun _ completed => ?_) (fun _ _ => by simp [Unsuccessful]))
  unfold publishResult
  cases connected : agent.publish with
  | none => exact Ensures.pure (by simp [Unsuccessful])
  | some publish =>
    simp only [Program.of_ok_bind]
    refine Ensures.of_bind (fun _ sent => ?_) (fun _ _ => by simp [Unsuccessful])
    exact absurd ⟨bytes,set,completed,publish,connected,sent⟩ (undelivered payload)

theorem execute_delivers {output : Value α} {error : Option Message}
    (left : attempts agent spec input (spec.retries + 1) 0 .undefined none = .ok (output,error))
    (falsy : error.filter Message.truthy = none)
    (delivers : Delivers agent req output payload) (history : List Effect) :
    (execute agent spec req input history).2 = [.stored ("res:" ++ req.jobId) payload,
      .published ⟨req.jobId,.succeeded,pointerForKey ("res:" ++ req.jobId),agent.elapsedMs,""⟩] := by
  have written := writeResult_delivers delivers history
  simp only [execute,left,Program.of_ok_bind,falsy]
  show (Program.bind _ _ history).2 = _
  simp only [Program.bind,Program.attempt,written]
  rfl

theorem execute_unsuccessful (history : List Effect)
    (undelivered : ∀ output error payload,attempts agent spec input (spec.retries + 1) 0 .undefined none = .ok (output,error) →
      error.filter Message.truthy = none → ¬Delivers agent req output payload) :
    Ensures (execute agent spec req input) history fun _ events => Unsuccessful events := by
  refine Ensures.of_bind (fun left ran => ?_) (fun _ _ => by simp [Unsuccessful])
  obtain ⟨output,error⟩ := left
  dsimp only
  cases falsy : error.filter Message.truthy with
  | some message => exact publishFailure_unsuccessful _ _ _
  | none =>
    refine Ensures.bind (Ensures.attempt ((writeResult_unsuccessful (undelivered output error · ran falsy) history).mono ?_))
    intro outcome events quiet
    cases outcome with
    | ok _ => exact Ensures.pure (by simpa using quiet)
    | error thrown =>
      refine Ensures.of_bind (fun text _ => ?_) (fun _ _ => by simpa using quiet)
      refine (publishFailure_unsuccessful _ _ _).mono ?_
      intro _ more later result sent
      exact (List.mem_append.mp sent).elim (quiet result) (later result)

/-- The message gets as far as its handler, with this input. -/
structure Arrives (agent : Agent α) (spec : HandlerSpec α) (req : Request) (input : Value α) : Prop where
  named : req.jobId ≠ ""
  received : agent.onJobReceived = .ok ()
  prepared : (do
    let payload ← fetchContext agent req
    let raw ← agent.parse payload
    validateInput spec raw) = .ok input

theorem onMessage_arrives {req : Request} (arrives : Arrives agent spec req input) (history : List Effect) :
    onMessage agent spec (some req) history = execute agent spec req input history := by
  have prepared := arrives.prepared
  simp only [bind_eq_ok] at prepared
  obtain ⟨payload,fetched,raw,parsed,valid⟩ := prepared
  simp [onMessage,if_neg arrives.named,arrives.received,fetched,parsed,valid,Program.of_ok_bind]

theorem onMessage_unsuccessful {admitted : Option Request} (history : List Effect)
    (absent : ∀ req input,admitted = some req → ¬Arrives agent spec req input) :
    Ensures (onMessage agent spec admitted) history fun _ events => Unsuccessful events := by
  unfold onMessage
  cases admitted with
  | none => exact Ensures.pure (by simp [Unsuccessful])
  | some req =>
    dsimp only
    split_ifs with empty
    · exact Ensures.pure (by simp [Unsuccessful])
    · refine Ensures.of_bind (fun _ received => ?_) (fun _ _ => by simp [Unsuccessful])
      have refuse : ∀ {β : Type} (read : Except Thrown β) (message : β → Message),
          Ensures (Program.of read >>= fun shown => publishFailure agent req (message shown) 0) history
            fun _ events => Unsuccessful events := by
        intro β read message
        exact Ensures.of_bind (fun _ _ => publishFailure_unsuccessful _ _ _) (fun _ _ => by simp [Unsuccessful])
      cases fetched : fetchContext agent req with
      | error thrown => exact refuse _ id
      | ok payload =>
        cases parsed : agent.parse payload with
        | error thrown =>
          simp only [parsed]
          exact refuse _ .string
        | ok raw =>
          simp only [parsed]
          cases valid : validateInput spec raw with
          | error thrown => exact refuse _ .string
          | ok input =>
            have prepared : (do
                let payload ← fetchContext agent req
                let raw ← agent.parse payload
                validateInput spec raw) = .ok input := by
              simp only [bind_eq_ok]
              exact ⟨payload,fetched,raw,parsed,valid⟩
            exact absurd ⟨empty,received,prepared⟩ (absent req input rfl)

/-- A result is published as a success only when a try has completed, and then the stored bytes are
    its validated output. -/
def Truthful (agent : Agent α) (spec : HandlerSpec α) (admitted : Option Request) : Prop :=
  ∀ result,.published result ∈ (onMessage agent spec admitted []).2 → result.status = .succeeded →
    ∃ req input attempt validated payload,admitted = some req ∧ Arrives agent spec req input ∧ attempt ≤ spec.retries ∧
      Completes agent spec input attempt validated ∧ serializeOutput agent validated = .ok payload ∧
      .stored ("res:" ++ req.jobId) payload ∈ (onMessage agent spec admitted []).2

/-- Every try throws, the last one something whose message is falsy, and what the calls have
    returned last can be delivered. -/
def Deceptive (agent : Agent α) (spec : HandlerSpec α) (admitted : Option Request) : Prop :=
  ∃ req input payload,admitted = some req ∧ Arrives agent spec req input ∧
    (∀ attempt ≤ spec.retries,(failure? agent spec input attempt).isSome = true) ∧
    (∃ message,failure? agent spec input spec.retries = some message ∧ message.truthy = false) ∧
    Delivers agent req (leftover agent spec input (spec.retries + 1)) payload

theorem Delivers.serialized {output : Value α} (delivers : Delivers agent req output payload) :
    serializeOutput agent output = .ok payload := by
  have bytes := delivers.bytes
  simp only [resultBytes,bind_eq_ok] at bytes
  obtain ⟨found,serialized,checked⟩ := bytes
  split_ifs at checked
  rw [serialized]
  exact checked

theorem Completes.not_failed {attempt : Nat} (completes : Completes agent spec input attempt validated) :
    failure? agent spec input attempt = none := by
  rw [failure?,completes.thrown?]
  rfl

theorem attempts_all {output : Value α} {error : Option Message} :
    attempts agent spec input (spec.retries + 1) 0 .undefined none = .ok (output,error) ↔
      (∃ last ≤ spec.retries,(∀ earlier < last,(failure? agent spec input earlier).isSome = true) ∧
        Completes agent spec input last output ∧ error = none) ∨
      ((∀ attempt ≤ spec.retries,(failure? agent spec input attempt).isSome = true) ∧
        output = leftover agent spec input (spec.retries + 1) ∧ error = failure? agent spec input spec.retries) := by
  have loop := @attempts_eq_ok α agent spec input (spec.retries + 1) 0 output error
  simp only [Nat.zero_add,Nat.zero_le,true_implies,true_and,Nat.lt_succ_iff] at loop
  exact loop

end

namespace Samples

/-- A store that has the context and takes the result, without middlewares and limits. -/
def agent : Agent String where
  middlewares := []
  maxContextBytes := none
  maxResultBytes := none
  get := fun _ => .ok (some (utf8 "1"))
  set := fun _ _ => .ok ()
  parse := fun _ => .ok (.other "1")
  stringify := fun text => .ok (some text)
  onJobReceived := .ok ()
  onJobCompleted := .ok ()
  onJobFailed := .ok ()
  publish := some fun _ => .ok ()
  elapsedMs := 0

/-- The handler returns a value that the schema refuses with an error of this message. -/
def spec (message : Message) : HandlerSpec String where
  handler := fun _ _ => .ok (.other "unchecked")
  inputSchema := none
  outputSchema := some fun _ _ => .error (.error (.ok message) (.ok "Error"))
  retries := 0

def req : Request := ⟨"job","redis://ctx"⟩

def reported : List Effect :=
  [.stored "res:job" (utf8 "unchecked"),.published ⟨"job",.succeeded,"redis://res:job",0,""⟩]

end Samples

end Cap.NodeMessage
