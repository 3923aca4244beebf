import Cap.Packets

/-!
Node's validation of bus packets (`validate.ts`), on packets as the Node SDK holds them.
The 64-bit integers of a decoded packet are `Long` objects; a caller may also give them as
numbers, and the check of the budget looks at numbers only.
-/
namespace Cap.NodeValidate
open Cap.Proto Cap.Packets Cap.Packets.Envelope

structure ValidationError where
  field : String
  message : String
deriving DecidableEq

def when (failed : Bool) (field message : String) : List ValidationError := if failed then [⟨field,message⟩] else []

def identityError (packet : Msg) (payload identity : Nat) (path : String) : List ValidationError :=
  match packet.sub? payload with
  | none => []
  | some inner => when (inner.text identity != senderId packet) path "must equal sender_id"

def payloadPresent (packet : Msg) : Bool :=
  [10,11,12,13,15,16,17,19,20,21,22].any fun number => (packet.sub? number).isSome

/-- Alerts with only the deprecated fields need no source component. -/
def alertIdentityError (packet : Msg) : List ValidationError :=
  match packet.sub? 13 with
  | none => []
  | some alert =>
    let structuredSignal := alert.int 5 != 0 || alert.int 6 != 0 || alert.text 7 != "" || (alert.get? 8).isSome ||
      alert.text 9 != ""
    let legacySignal := alert.text 1 != "" || alert.text 3 != "" || alert.text 4 != ""
    if structuredSignal || !legacySignal then identityError packet 13 7 "alert.source_component" else []

def validateNestedIdentity (packet : Msg) : List ValidationError :=
  identityError packet 11 4 "job_result.worker_id" ++ identityError packet 12 1 "heartbeat.worker_id" ++
    identityError packet 17 1 "handshake.component_id" ++ alertIdentityError packet

/-- `isNumber` says which of the budget's fields the caller gave as numbers. -/
def validateBudget (isNumber : Nat → Bool) : Option Msg → List ValidationError
  | none => []
  | some budget =>
    [(1,"budget.max_input_tokens"),(2,"budget.max_output_tokens"),(3,"budget.max_total_tokens"),
      (4,"budget.deadline_ms")].flatMap fun (number,path) =>
        when (isNumber number && budget.int number < 0) path "must not be negative"

def validateJobRequest (isNumber : Nat → Bool) (request : Msg) : List ValidationError :=
  when (request.text 1 == "") "job_id" "must not be empty" ++
  when (request.text 2 == "") "topic" "must not be empty" ++
  when (request.int 3 < 0 || request.int 3 > 3) "priority" ("invalid value " ++ toString (request.int 3)) ++
  when (request.int 9 < 0) "step_index" "must not be negative" ++
  validateBudget isNumber (request.sub? 12)

def validateJobResult (result : Msg) : List ValidationError :=
  when (result.text 1 == "") "job_id" "must not be empty" ++
  when (result.int 2 == 0) "status" "must not be UNSPECIFIED" ++
  when (result.text 4 == "") "worker_id" "must not be empty" ++
  when (result.int 5 < 0) "execution_ms" "must not be negative"

def validateBusPacket (isNumber : Nat → Bool) (packet : Msg) : List ValidationError :=
  when (traceId packet == "") "trace_id" "must not be empty" ++
  when (senderId packet == "") "sender_id" "must not be empty" ++
  when (protocolVersion packet != 1) "protocol_version" "must equal 1" ++
  when (createdAt packet).isNone "created_at" "must not be nil" ++
  when (!payloadPresent packet) "payload" "must not be nil" ++
  ((packet.sub? 10).map (validateJobRequest isNumber)).getD [] ++
  ((packet.sub? 11).map validateJobResult).getD [] ++
  validateNestedIdentity packet

end Cap.NodeValidate
