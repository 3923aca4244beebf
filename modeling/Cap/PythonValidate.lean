import Cap.GoValidate

/-!
Python's validation of bus packets (`validate.py`), which returns the list of all errors. The
check of a handshake payload is a parameter.
-/
namespace Cap.PythonValidate
open Cap.Checks Cap.Objects Cap.PacketSignature Cap.GoValidate

def maxRepeatedFieldSize : Nat := 1000
def maxBudgetTokens : Int := 10000000000

def fails (failed : Bool) (field message : String) : List ValidationError := if failed then [⟨field,message⟩] else []

def textError (number : Nat) (path : String) (msg : Obj) : List ValidationError :=
  fails (text number msg == "") path "must not be empty"

def negativeError (number : Nat) (path : String) (msg : Obj) : List ValidationError :=
  fails (int number msg < 0) path "must not be negative"

def sizeError (number : Nat) (path : String) (msg : Obj) : List ValidationError :=
  fails (size number msg > maxRepeatedFieldSize) path "exceeds max size (1000)"

def tokensError (number : Nat) (path : String) (budget : Obj) : List ValidationError :=
  negativeError number path budget ++ fails (int number budget > maxBudgetTokens) path "exceeds max (10000000000)"

/-- The errors of a message that may be absent. -/
def ifHas (errors : Obj → List ValidationError) : Option Obj → List ValidationError
  | none => []
  | some inner => errors inner

def validateJobCollections (msg : Obj) : List ValidationError :=
  ifHas (fun metadata => sizeError 6 "meta.risk_tags" metadata ++ sizeError 7 "meta.requires" metadata) (sub? 16 msg) ++
  sizeError 15 "labels" msg

def validateBudget (budget : Obj) : List ValidationError :=
  tokensError 1 "budget.max_input_tokens" budget ++
  tokensError 2 "budget.max_output_tokens" budget ++
  tokensError 3 "budget.max_total_tokens" budget ++
  negativeError 4 "budget.deadline_ms" budget

def validateJobRequest (msg : Obj) : List ValidationError :=
  textError 1 "job_id" msg ++
  textError 2 "topic" msg ++
  fails (int 3 msg < 0 || int 3 msg > 3) "priority" ("invalid value " ++ toString (int 3 msg)) ++
  negativeError 9 "step_index" msg ++
  validateJobCollections msg ++
  ifHas validateBudget (sub? 12 msg)

def validateJobResult (msg : Obj) : List ValidationError :=
  textError 1 "job_id" msg ++
  fails (int 2 msg == 0) "status" "must not be UNSPECIFIED" ++
  textError 4 "worker_id" msg ++
  negativeError 5 "execution_ms" msg

def jobStatuses : List Int := [0,1,2,3,4,5,6,7,8,9,10,11]

def alertSeverities : List Int := [0,1,2,3,4]

def errorCodes : List Int :=
  [0,100,101,102,103,104,200,201,202,203,204,205,206,300,301,302,400,401,402]

def validateJobProgress (msg : Obj) : List ValidationError :=
  textError 1 "job_progress.job_id" msg ++
  fails (int 3 msg < 0 || int 3 msg > 100) "job_progress.percent" "must be 0..100" ++
  fails (!jobStatuses.contains (int 7 msg)) "job_progress.status" "is invalid"

def validateJobCancel (msg : Obj) : List ValidationError :=
  textError 1 "job_cancel.job_id" msg ++ textError 3 "job_cancel.requested_by" msg

/-- An alert with none of the structured fields needs all the deprecated ones. -/
def validateAlert (msg : Obj) (senderId : String) : List ValidationError :=
  let structured := int 5 msg != 0 || int 6 msg != 0 || text 7 msg != ""
  textError 2 "alert.message" msg ++
  if structured then
    fails (!(alertSeverities.drop 1).contains (int 5 msg)) "alert.severity" "must be specified" ++
    fails (!(errorCodes.drop 1).contains (int 6 msg)) "alert.error_code_enum" "must be specified" ++
    fails (text 7 msg != senderId) "alert.source_component" "must equal sender_id"
  else textError 1 "alert.level" msg ++ textError 3 "alert.component" msg ++ textError 4 "alert.code" msg

def senderError (packet : Obj) (number : Nat) (path : String) (inner : Obj) : List ValidationError :=
  fails (text number inner != senderId packet) path "must equal sender_id"

variable (validateWorkerTrust : Obj → List ValidationError)

def validatePayload (packet : Obj) : Option (Nat × Obj) → List ValidationError
  | none => [⟨"payload","must not be nil"⟩]
  | some (10,request) => validateJobRequest request
  | some (11,result) => validateJobResult result ++ senderError packet 4 "job_result.worker_id" result
  | some (12,heartbeat) => senderError packet 1 "heartbeat.worker_id" heartbeat
  | some (13,alert) => validateAlert alert (senderId packet)
  | some (15,progress) => validateJobProgress progress
  | some (16,cancel) => validateJobCancel cancel
  | some (17,handshake) => senderError packet 1 "handshake.component_id" handshake
  | some (19,_) | some (20,_) | some (21,_) | some (22,_) => validateWorkerTrust packet
  | some _ => []

def validateBusPacket (packet : Obj) : List ValidationError :=
  textError 1 "trace_id" packet ++
  textError 2 "sender_id" packet ++
  fails (int 4 packet != 1) "protocol_version" "must equal 1" ++
  fails (sub? 3 packet).isNone "created_at" "must not be nil" ++
  validatePayload validateWorkerTrust packet (payload? packet)

/-! ### Go stops at the first of Python's errors -/

theorem first_fails (failed : Bool) (field message : String) :
    first (fails failed field message) = require (!failed) ⟨field,message⟩ := by
  cases failed <;> rfl

theorem first_textError (number : Nat) (path : String) (o : Obj) : first (textError number path o) = checkText number path o :=
  first_fails _ _ _

theorem first_negativeError (number : Nat) (path : String) (o : Obj) :
    first (negativeError number path o) = checkNotNegative number path o := by
  rw [negativeError,first_fails,checkNotNegative]
  simp [← decide_not]

theorem first_sizeError (number : Nat) (path : String) (o : Obj) :
    first (sizeError number path o) = checkSize defaultLimits number path o := by
  rw [sizeError,first_fails]
  have bounded : (!decide (size number o > maxRepeatedFieldSize)) =
      decide (size number o ≤ defaultLimits.maxRepeatedFieldSize) := by
    rw [Bool.eq_iff_iff,decide_eq_true_eq]
    simp [maxRepeatedFieldSize,defaultLimits]
  rw [bounded]
  rfl

theorem first_tokensError (number : Nat) (path : String) (o : Obj) :
    first (tokensError number path o) = checkTokens defaultLimits number path o := by
  rw [tokensError,first_append,first_negativeError,first_fails]
  have bounded : (!decide (int number o > maxBudgetTokens)) = decide (int number o ≤ defaultLimits.maxBudgetTokens) := by
    rw [Bool.eq_iff_iff,decide_eq_true_eq]
    simp [maxBudgetTokens,defaultLimits]
  rw [bounded]
  rfl

theorem first_ifHas {errors : Obj → List ValidationError} {check : Obj → Except ValidationError Unit}
    (same : ∀ inner, first (errors inner) = check inner) (found : Option Obj) : first (ifHas errors found) = ifSet check found := by
  cases found with
  | none => rfl
  | some inner => exact same inner

theorem first_senderError (packet : Obj) (number : Nat) (path : String) (inner : Obj) :
    first (senderError packet number path inner) = checkSender packet number path inner := by
  rw [senderError,first_fails,checkSender,bne,Bool.not_not]

theorem first_validateJobRequest (request : Obj) :
    first (validateJobRequest request) = GoValidate.validateJobRequest defaultLimits request := by
  have priority : (!(decide (int 3 request < 0) || decide (int 3 request > 3))) =
      (decide (0 ≤ int 3 request) && decide (int 3 request ≤ 3)) := by
    simp [← decide_not]
  have metadata : ∀ inner, first (sizeError 6 "meta.risk_tags" inner ++ sizeError 7 "meta.requires" inner) =
      checkMeta defaultLimits inner := by
    intro inner
    rw [first_append,first_sizeError,first_sizeError]
    rfl
  have budget : ∀ inner, first (validateBudget inner) = checkBudget defaultLimits inner := by
    intro inner
    simp only [validateBudget,first_append,first_tokensError,first_negativeError,bind_assoc]
    rfl
  simp only [validateJobRequest,validateJobCollections,first_append,first_textError,first_fails,first_negativeError,
    first_sizeError,first_ifHas metadata,first_ifHas budget,priority,bind_assoc]
  rfl

theorem first_validateJobResult (result : Obj) : first (validateJobResult result) = GoValidate.validateJobResult result := by
  simp only [validateJobResult,first_append,first_textError,first_fails,first_negativeError,bind_assoc]
  rfl

/-- The payloads that both languages check, an absent one among them. -/
def Checked : Option (Nat × Obj) → Prop
  | none => True
  | some (number,_) => number ∈ [10,11,12,17]

theorem first_validatePayload (trust : Obj → Except ValidationError Unit) (packet : Obj) {payload : Option (Nat × Obj)}
    (checked : Checked payload) : first (validatePayload validateWorkerTrust packet payload) =
      GoValidate.validatePayload defaultLimits trust packet payload := by
  cases payload with
  | none => rfl
  | some payload =>
    obtain ⟨number,inner⟩ := payload
    simp only [Checked,List.mem_cons,List.not_mem_nil,or_false] at checked
    rcases checked with rfl | rfl | rfl | rfl
    · exact first_validateJobRequest inner
    · show first (validateJobResult inner ++ senderError packet 4 "job_result.worker_id" inner) = _
      rw [first_append,first_validateJobResult,first_senderError]
      rfl
    · exact first_senderError packet 1 _ inner
    · exact first_senderError packet 1 _ inner

/-- On those payloads Go fails with the first of Python's errors, and accepts when there are none. -/
theorem first_validateBusPacket (trust : Obj → Except ValidationError Unit) {packet : Obj}
    (checked : Checked (payload? packet)) : first (validateBusPacket validateWorkerTrust packet) =
      GoValidate.validateBusPacket defaultLimits trust packet := by
  have created : (!(sub? 3 packet).isNone) = (sub? 3 packet).isSome := by
    cases sub? 3 packet <;> rfl
  simp only [validateBusPacket,first_append,first_textError,first_fails,
    first_validatePayload validateWorkerTrust trust packet checked,created,bne,Bool.not_not,bind_assoc]
  rfl

end Cap.PythonValidate
