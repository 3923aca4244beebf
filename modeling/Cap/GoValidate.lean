import Cap.Checks
import Cap.PacketObject

/-!
Go's validation of bus packets (`validate.go`). The limits can be changed by the application.
The check of a handshake payload, `validateWorkerTrustPayload`, is a parameter.
-/
namespace Cap.GoValidate
open Cap.Checks Cap.Objects Cap.PacketSignature

structure ValidationError where
  field : String
  message : String
deriving DecidableEq

structure Limits where
  maxRepeatedFieldSize : Nat
  maxBudgetTokens : Int

def defaultLimits : Limits := ⟨1000,10000000000⟩

/-- Limits that are not positive are left as they were. -/
def setValidationLimits (maxRepeated maxTokens : Int) (limits : Limits) : Limits where
  maxRepeatedFieldSize := if maxRepeated > 0 then maxRepeated.toNat else limits.maxRepeatedFieldSize
  maxBudgetTokens := if maxTokens > 0 then maxTokens else limits.maxBudgetTokens

def checkText (number : Nat) (path : String) (o : Obj) : Except ValidationError Unit :=
  require (text number o != "") ⟨path,"must not be empty"⟩

def checkNotNegative (number : Nat) (path : String) (o : Obj) : Except ValidationError Unit :=
  require (0 ≤ int number o) ⟨path,"must not be negative"⟩

variable (limits : Limits)

def checkSize (number : Nat) (path : String) (o : Obj) : Except ValidationError Unit :=
  require (size number o ≤ limits.maxRepeatedFieldSize)
    ⟨path,"exceeds max size (" ++ toString limits.maxRepeatedFieldSize ++ ")"⟩

def checkTokens (number : Nat) (path : String) (budget : Obj) : Except ValidationError Unit := do
  checkNotNegative number path budget
  require (int number budget ≤ limits.maxBudgetTokens) ⟨path,"exceeds max (" ++ toString limits.maxBudgetTokens ++ ")"⟩

def checkMeta (metadata : Obj) : Except ValidationError Unit := do
  checkSize limits 6 "meta.risk_tags" metadata
  checkSize limits 7 "meta.requires" metadata

def checkBudget (budget : Obj) : Except ValidationError Unit := do
  checkTokens limits 1 "budget.max_input_tokens" budget
  checkTokens limits 2 "budget.max_output_tokens" budget
  checkTokens limits 3 "budget.max_total_tokens" budget
  checkNotNegative 4 "budget.deadline_ms" budget

def ifSet (check : Obj → Except ValidationError Unit) : Option Obj → Except ValidationError Unit
  | none => .ok ()
  | some inner => check inner

def validateJobRequest (request : Obj) : Except ValidationError Unit := do
  checkText 1 "job_id" request
  checkText 2 "topic" request
  require (0 ≤ int 3 request && int 3 request ≤ 3) ⟨"priority","invalid value " ++ toString (int 3 request)⟩
  checkNotNegative 9 "step_index" request
  ifSet (checkMeta limits) (sub? 16 request)
  checkSize limits 15 "labels" request
  ifSet (checkBudget limits) (sub? 12 request)

def validateJobResult (result : Obj) : Except ValidationError Unit := do
  checkText 1 "job_id" result
  require (int 2 result != 0) ⟨"status","must not be UNSPECIFIED"⟩
  checkText 4 "worker_id" result
  checkNotNegative 5 "execution_ms" result

def checkSender (packet : Obj) (number : Nat) (path : String) (inner : Obj) : Except ValidationError Unit :=
  require (text number inner == senderId packet) ⟨path,"must equal sender_id"⟩

variable (validateWorkerTrustPayload : Obj → Except ValidationError Unit)

def validatePayload (packet : Obj) : Option (Nat × Obj) → Except ValidationError Unit
  | none => .error ⟨"payload","must not be nil"⟩
  | some (10,request) => validateJobRequest limits request
  | some (11,result) => do
    validateJobResult result
    checkSender packet 4 "job_result.worker_id" result
  | some (12,heartbeat) => checkSender packet 1 "heartbeat.worker_id" heartbeat
  | some (17,handshake) => checkSender packet 1 "handshake.component_id" handshake
  | some (19,_) | some (20,_) | some (21,_) | some (22,_) => validateWorkerTrustPayload packet
  | some _ => .ok ()

def validateBusPacket (packet : Obj) : Except ValidationError Unit := do
  checkText 1 "trace_id" packet
  checkText 2 "sender_id" packet
  require (int 4 packet == 1) ⟨"protocol_version","must equal 1"⟩
  require (sub? 3 packet).isSome ⟨"created_at","must not be nil"⟩
  validatePayload limits validateWorkerTrustPayload packet (payload? packet)

theorem validateBusPacket_eq_ok {packet : Obj} :
    validateBusPacket limits validateWorkerTrustPayload packet = .ok () ↔
      traceId packet ≠ "" ∧ senderId packet ≠ "" ∧ int 4 packet = 1 ∧ (sub? 3 packet).isSome = true ∧
      validatePayload limits validateWorkerTrustPayload packet (payload? packet) = .ok () := by
  simp only [validateBusPacket,checkText,bind_eq_ok,require_eq_ok,exists_const,bne_iff_ne,beq_iff_eq]
  rfl

end Cap.GoValidate
