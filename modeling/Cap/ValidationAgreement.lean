import Cap.NodeValidate
import Cap.PythonValidate

/-!
Job requests before the three validators, after the protobuf library of each SDK has decoded them.
The three agree about the envelope, the names, the priority and the step. Limits of collections
and of the budget are checked by Go and Python only: Node holds 64-bit integers as `Long` objects,
which its check passes over.
-/
namespace Cap.ValidationAgreement
open Cap.Text Cap.Proto Cap.Packets Cap.Objects Cap.PacketSignature Cap.Checks Cap.GoValidate

/-- A packet as a decoder returns it: an object of the packet's type. -/
structure Decoded where
  object : Obj
  conforms : object.conforms schema .busPacket 1 [] = true
deriving DecidableEq

/-- The decoders of the protobuf libraries. -/
structure Decoders where
  go : Bytes → Option Decoded
  node : Bytes → Option Decoded
  python : Bytes → Option Decoded

/-- The bytes are those of the packet for every SDK. -/
structure Decoders.Read (decoders : Decoders) (raw : Bytes) (packet : Decoded) : Prop where
  go : decoders.go raw = some packet
  node : decoders.node raw = some packet
  python : decoders.python raw = some packet

section
variable (limits : Limits) (validateWorkerTrustPayload : Obj → Except ValidationError Unit)
  (validateWorkerTrust : Obj → List ValidationError)

def goAccepts (packet : Decoded) : Bool :=
  (GoValidate.validateBusPacket limits validateWorkerTrustPayload packet.object).isOk

/-- A decoded packet has no numbers among its 64-bit integers. -/
def nodeAccepts (packet : Decoded) : Bool := (NodeValidate.validateBusPacket (fun _ => false) packet.object.record).isEmpty

def pythonAccepts (packet : Decoded) : Bool := (PythonValidate.validateBusPacket validateWorkerTrust packet.object).isEmpty

/-- The SDKs accept the bytes all together or not at all. -/
def Agree (decoders : Decoders) (raw : Bytes) : Prop :=
  (decoders.node raw).any nodeAccepts = (decoders.go raw).any (goAccepts limits validateWorkerTrustPayload) ∧
  (decoders.go raw).any (goAccepts limits validateWorkerTrustPayload) =
    (decoders.python raw).any (pythonAccepts validateWorkerTrust)

end

/-- The rules that all three SDKs have. -/
structure Complete (packet request : Obj) : Prop where
  trace : traceId packet ≠ ""
  sender : senderId packet ≠ ""
  version : int 4 packet = 1
  created : (sub? 3 packet).isSome = true
  job : text 1 request ≠ ""
  topic : text 2 request ≠ ""
  priority : 0 ≤ int 3 request ∧ int 3 request ≤ 3
  step : 0 ≤ int 9 request

/-- An amount of tokens in its limits. -/
def Allowed (limits : Limits) (number : Nat) (budget : Obj) : Prop :=
  0 ≤ int number budget ∧ int number budget ≤ limits.maxBudgetTokens

/-- The limits of collections and of the budget. -/
structure Within (limits : Limits) (request : Obj) : Prop where
  tags : ∀ metadata, sub? 16 request = some metadata →
    size 6 metadata ≤ limits.maxRepeatedFieldSize ∧ size 7 metadata ≤ limits.maxRepeatedFieldSize
  labels : size 15 request ≤ limits.maxRepeatedFieldSize
  budget : ∀ budget, sub? 12 request = some budget →
    Allowed limits 1 budget ∧ Allowed limits 2 budget ∧ Allowed limits 3 budget ∧ 0 ≤ int 4 budget

section
variable {limits : Limits}

variable {u : Unit}

theorem ifSet_eq_ok {check : Obj → Except ValidationError Unit} {found : Option Obj} :
    ifSet check found = .ok u ↔ ∀ inner, found = some inner → check inner = .ok u := by
  cases found with
  | none | some inner => simp [ifSet]

variable {number : Nat}

theorem checkTokens_eq_ok {path : String} {budget : Obj} :
    checkTokens limits number path budget = .ok u ↔ Allowed limits number budget := by
  simp [checkTokens,checkNotNegative,Allowed]

theorem checkBudget_eq_ok {budget : Obj} : checkBudget limits budget = .ok u ↔
    Allowed limits 1 budget ∧ Allowed limits 2 budget ∧ Allowed limits 3 budget ∧ 0 ≤ int 4 budget := by
  simp [checkBudget,checkTokens_eq_ok,checkNotNegative]

theorem checkMeta_eq_ok {metadata : Obj} : checkMeta limits metadata = .ok u ↔
    size 6 metadata ≤ limits.maxRepeatedFieldSize ∧ size 7 metadata ≤ limits.maxRepeatedFieldSize := by
  simp [checkMeta,checkSize]

theorem goAccepts_iff {trust : Obj → Except ValidationError Unit} {packet : Decoded} {request : Obj}
    (carries : payload? packet.object = some (10,request)) :
    goAccepts limits trust packet = true ↔ Complete packet.object request ∧ Within limits request := by
  have ok : goAccepts limits trust packet = true ↔
      GoValidate.validateBusPacket limits trust packet.object = .ok () := by
    unfold goAccepts
    cases GoValidate.validateBusPacket limits trust packet.object <;> simp [Except.toBool]
  have payload : GoValidate.validatePayload limits trust packet.object (some (10,request)) =
      GoValidate.validateJobRequest limits request := rfl
  rw [ok,GoValidate.validateBusPacket_eq_ok,carries,payload]
  simp only [GoValidate.validateJobRequest,bind_eq_ok,exists_const,checkText,checkNotNegative,checkSize,require_eq_ok,
    bne_iff_ne,Bool.and_eq_true,decide_eq_true_eq,ifSet_eq_ok,checkMeta_eq_ok,checkBudget_eq_ok]
  constructor
  · rintro ⟨trace,sender,version,created,job,topic,priority,step,tags,labels,budget⟩
    exact ⟨⟨trace,sender,version,created,job,topic,priority,step⟩,⟨tags,labels,budget⟩⟩
  · rintro ⟨complete,within⟩
    exact ⟨complete.trace,complete.sender,complete.version,complete.created,complete.job,complete.topic,
      complete.priority,complete.step,within.tags,within.labels,within.budget⟩

theorem pythonAccepts_iff {validateWorkerTrust : Obj → List ValidationError} {packet : Decoded} {request : Obj}
    (carries : payload? packet.object = some (10,request)) :
    pythonAccepts validateWorkerTrust packet = true ↔ Complete packet.object request ∧ Within defaultLimits request := by
  have checked : PythonValidate.Checked (payload? packet.object) := by simp [carries,PythonValidate.Checked]
  have same := PythonValidate.first_validateBusPacket validateWorkerTrust (fun _ => .ok ()) checked
  have go := @goAccepts_iff defaultLimits (fun _ => .ok ()) packet request carries
  rw [← go,goAccepts,← same,pythonAccepts]
  cases PythonValidate.validateBusPacket validateWorkerTrust packet.object <;> rfl

end

def valueOf : Item → Option Val
  | .scalar (.message _) => none
  | .scalar v => some v
  | .message inner => some (.message inner.record)
  | _ => none

private theorem get?_several {other : Nat} (different : other ≠ number) (values : List Val) (rest : Msg) :
    (Msg.several other values rest).get? number = rest.get? number := by
  induction values with
  | nil => rfl
  | cons value values ih => rw [Msg.several_cons,Msg.get?,if_neg different,ih]

private theorem get?_fields {other : Nat} (different : other ≠ number) (item : Item) (rest : Msg) :
    (item.fields other rest).get? number = rest.get? number := by
  cases item with
  | scalar v => rw [Item.fields,Msg.get?,if_neg different]
  | numbers ns =>
    by_cases empty : ns = []
    · rw [Item.fields,if_pos empty]
    · rw [Item.fields,if_neg empty,Msg.get?,if_neg different]
  | texts ss | map entries => exact get?_several different _ rest
  | message inner => rw [Item.fields,Msg.get?,if_neg different]
  | element inner => rw [Item.fields,Msg.get?,if_neg different]

private theorem not_holds_message (type : Scalar) (m : Msg) : type.holds (.message m) = false := by
  cases type <;> rfl

variable {o : Obj} {least : Nat} {oneofs : List String}

theorem get?_record {name : Name} {desc : FieldDesc Name} (field : schema.field name number = some desc)
    (singular : desc.label = .singular)
    (conforms : o.conforms schema name least oneofs = true) : o.record.get? number = (o.get? number).bind valueOf := by
  induction o generalizing least oneofs with
  | done unknown => rfl
  | set other item rest ih =>
    obtain ⟨found,known,-,fits,-,later⟩ := Obj.conforms_set.mp conforms
    by_cases same : other = number
    · subst same
      obtain rfl : desc = found := Option.some.inj (field.symm.trans known)
      rw [singular] at fits
      cases item with
      | scalar v =>
        cases v with
        | message m =>
          cases kind : desc.kind with
          | scalar type => simp [Item.fits,kind,not_holds_message] at fits
          | message inner => simp [Item.fits,kind] at fits
        | _ => simp [Obj.record,Item.fields,Msg.get?,Obj.get?,valueOf]
      | message inner => simp [Obj.record,Item.fields,Msg.get?,Obj.get?,valueOf]
      | _ => simp [Item.fits] at fits
    · rw [Obj.record,get?_fields same,ih later,Obj.get?,if_neg same]

section
variable {name : Name} {number : Nat} {o : Obj} {least : Nat} {oneofs : List String}

def Singular (name : Name) (number : Nat) : Prop := ∃ desc, schema.field name number = some desc ∧ desc.label = .singular

theorem Singular.get?_eq (singular : Singular name number) (conforms : o.conforms schema name least oneofs = true) :
    o.record.get? number = (o.get? number).bind valueOf := by
  obtain ⟨desc,field,label⟩ := singular
  exact get?_record field label conforms

theorem Singular.text_eq (singular : Singular name number) (conforms : o.conforms schema name least oneofs = true) :
    o.record.text number = text number o := by
  rw [Msg.text,singular.get?_eq conforms,text]
  cases o.get? number with
  | none => rfl
  | some item =>
    cases item with
    | scalar v => cases v <;> rfl
    | _ => rfl

theorem Singular.int_eq (singular : Singular name number) (conforms : o.conforms schema name least oneofs = true) :
    o.record.int number = int number o := by
  rw [Msg.int,singular.get?_eq conforms,int]
  cases o.get? number with
  | none => rfl
  | some item =>
    cases item with
    | scalar v => cases v <;> rfl
    | _ => rfl

theorem Singular.sub_eq (singular : Singular name number) (conforms : o.conforms schema name least oneofs = true) :
    o.record.sub? number = (sub? number o).map Obj.record := by
  rw [Msg.sub?,singular.get?_eq conforms,sub?]
  cases found : o.get? number with
  | none => rfl
  | some item =>
    cases item with
    | scalar v => cases v <;> rfl
    | _ => rfl

end

/-! ### The payload of a packet -/

private theorem payload_member : ∀ desc ∈ schema .busPacket, isPayload desc.number = true →
    desc.oneof = some "payload" ∧ (match desc.kind,desc.label with
      | .message _,.singular => true
      | _,_ => false) = true := by
  decide

private theorem payload_field {desc : FieldDesc Name} (member : isPayload number = true)
    (field : schema.field .busPacket number = some desc) :
    desc.oneof = some "payload" ∧ desc.label = .singular ∧ ∃ inner, desc.kind = .message inner := by
  obtain ⟨oneof,shape⟩ := payload_member desc (List.mem_of_find?_eq_some field) (by rwa [Schema.field_number field])
  refine ⟨oneof,?_⟩
  cases kind : desc.kind with
  | scalar type => simp [kind] at shape
  | message inner =>
    cases label : desc.label with
    | singular => exact ⟨rfl,inner,rfl⟩
    | _ => simp [kind,label] at shape

private theorem no_other_payload
    (conforms : o.conforms schema .busPacket least oneofs = true) (taken : "payload" ∈ oneofs)
    (member : isPayload number = true) : o.get? number = none := by
  induction o generalizing least oneofs with
  | done unknown => rfl
  | set other item rest ih =>
    obtain ⟨desc,field,-,-,free,later⟩ := Obj.conforms_set.mp conforms
    have different : other ≠ number := by
      rintro rfl
      rw [(payload_field member field).1] at free
      simp [taken] at free
    rw [Obj.get?,if_neg different]
    exact ih later (List.mem_append_right _ taken)

private theorem payload?_skip (other : isPayload number = false) (item : Item) (rest : Obj) :
    payload? (.set number item rest) = payload? rest := by
  cases item with
  | message inner => simp [payload?,other]
  | _ => rfl

theorem payload_alone {inner : Obj}
    (conforms : o.conforms schema .busPacket least oneofs = true) (carries : payload? o = some (number,inner)) :
    isPayload number = true ∧ o.get? number = some (.message inner) ∧
      ∀ other, isPayload other = true → other ≠ number → o.get? other = none := by
  induction o generalizing least oneofs with
  | done unknown => cases carries
  | set first item rest ih =>
    obtain ⟨desc,field,-,fits,-,later⟩ := Obj.conforms_set.mp conforms
    by_cases member : isPayload first = true
    · obtain ⟨oneof,label,payload,kind⟩ := payload_field member field
      rw [kind,label] at fits
      cases item with
      | message value =>
        simp only [payload?,member] at carries
        obtain ⟨rfl,rfl⟩ := carries
        refine ⟨member,by simp [Obj.get?],?_⟩
        intro other payload different
        rw [Obj.get?,if_neg (Ne.symm different)]
        exact no_other_payload later (by simp [oneof]) payload
      | _ => simp [Item.fits] at fits
    · have plain : isPayload first = false := by simpa using member
      rw [payload?_skip plain] at carries
      obtain ⟨chosen,found,others⟩ := ih later carries
      have apart : ∀ other, isPayload other = true → first ≠ other := by
        rintro other payload rfl
        exact member payload
      refine ⟨chosen,by rw [Obj.get?,if_neg (apart number chosen),found],?_⟩
      intro other payload different
      rw [Obj.get?,if_neg (apart other payload)]
      exact others other payload different

private theorem get?_fits {σ : Type} {schema : Schema σ} {name : σ}
    {item : Item} (conforms : o.conforms schema name least oneofs = true) (found : o.get? number = some item) :
    ∃ desc, schema.field name number = some desc ∧ item.fits schema desc.kind desc.label = true := by
  induction o generalizing least oneofs with
  | done unknown => cases found
  | set other value rest ih =>
    obtain ⟨desc,field,-,fits,-,later⟩ := Obj.conforms_set.mp conforms
    by_cases same : other = number
    · rw [Obj.get?,if_pos same,Option.some.injEq] at found
      rw [← same,← found]
      exact ⟨desc,field,fits⟩
    · rw [Obj.get?,if_neg same] at found
      exact ih later found

theorem request_conforms {request : Obj} (conforms : o.conforms schema .busPacket 1 [] = true)
    (found : o.get? 10 = some (.message request)) : request.conforms schema .jobRequest 1 [] = true := by
  obtain ⟨desc,field,fits⟩ := get?_fits conforms found
  cases field
  exact fits

private theorem when_eq_nil {failed : Bool} {field message : String} :
    NodeValidate.when failed field message = [] ↔ failed = false := by
  cases failed <;> simp [NodeValidate.when]

theorem validateBudget_long (budget : Option Msg) : NodeValidate.validateBudget (fun _ => false) budget = [] := by
  cases budget with
  | none => rfl
  | some budget => simp [NodeValidate.validateBudget,NodeValidate.when]

theorem validateJobRequest_eq_nil {request : Obj} (conforms : request.conforms schema .jobRequest 1 [] = true) :
    NodeValidate.validateJobRequest (fun _ => false) request.record = [] ↔
      text 1 request ≠ "" ∧ text 2 request ≠ "" ∧ (0 ≤ int 3 request ∧ int 3 request ≤ 3) ∧ 0 ≤ int 9 request := by
  have job : Singular .jobRequest 1 := ⟨_,rfl,rfl⟩
  have topic : Singular .jobRequest 2 := ⟨_,rfl,rfl⟩
  have priority : Singular .jobRequest 3 := ⟨_,rfl,rfl⟩
  have step : Singular .jobRequest 9 := ⟨_,rfl,rfl⟩
  simp [NodeValidate.validateJobRequest,validateBudget_long,when_eq_nil,
    job.text_eq conforms,topic.text_eq conforms,priority.int_eq conforms,step.int_eq conforms]

theorem nodeAccepts_iff {packet : Decoded} {request : Obj} (carries : payload? packet.object = some (10,request)) :
    nodeAccepts packet = true ↔ Complete packet.object request := by
  obtain ⟨o,conforms⟩ := packet
  obtain ⟨-,found,others⟩ := payload_alone conforms carries
  have trace : Singular .busPacket 1 := ⟨_,rfl,rfl⟩
  have sender : Singular .busPacket 2 := ⟨_,rfl,rfl⟩
  have created : Singular .busPacket 3 := ⟨_,rfl,rfl⟩
  have version : Singular .busPacket 4 := ⟨_,rfl,rfl⟩
  have payload : Singular .busPacket 10 := ⟨_,rfl,rfl⟩
  have result : Singular .busPacket 11 := ⟨_,rfl,rfl⟩
  have heartbeat : Singular .busPacket 12 := ⟨_,rfl,rfl⟩
  have alert : Singular .busPacket 13 := ⟨_,rfl,rfl⟩
  have handshake : Singular .busPacket 17 := ⟨_,rfl,rfl⟩
  have inside : o.record.sub? 10 = some request.record := by rw [payload.sub_eq conforms,sub?,found]; rfl
  have absent : ∀ number, Singular .busPacket number → isPayload number = true → number ≠ 10 →
      o.record.sub? number = none := by
    intro number singular member different
    rw [singular.sub_eq conforms,sub?,others number member different]
    rfl
  have identity : NodeValidate.validateNestedIdentity o.record = [] := by
    simp [NodeValidate.validateNestedIdentity,NodeValidate.identityError,NodeValidate.alertIdentityError,
      absent 11 result (by decide) (by decide),absent 12 heartbeat (by decide) (by decide),
      absent 13 alert (by decide) (by decide),absent 17 handshake (by decide) (by decide)]
  have present : NodeValidate.payloadPresent o.record = true := by
    simp [NodeValidate.payloadPresent,inside]
  rw [nodeAccepts,List.isEmpty_iff]
  simp only [NodeValidate.validateBusPacket,inside,absent 11 result (by decide) (by decide),present,identity,
    Packets.Envelope.traceId,Packets.Envelope.senderId,Packets.Envelope.protocolVersion,Packets.Envelope.createdAt,
    trace.text_eq conforms,sender.text_eq conforms,version.int_eq conforms,created.sub_eq conforms,Option.isNone_map,
    Option.map_some,Option.map_none,Option.getD_some,Option.getD_none,List.append_nil,List.append_eq_nil_iff,when_eq_nil,
    validateJobRequest_eq_nil (request_conforms conforms found),beq_eq_false_iff_ne,bne_eq_false_iff_eq,Bool.not_true,
    Option.isNone_eq_false_iff]
  constructor
  · rintro ⟨⟨⟨⟨⟨trace,sender⟩,version⟩,created⟩,-⟩,job,topic,priority,step⟩
    exact ⟨trace,sender,version,created,job,topic,priority,step⟩
  · intro complete
    exact ⟨⟨⟨⟨⟨complete.trace,complete.sender⟩,complete.version⟩,complete.created⟩,trivial⟩,complete.job,complete.topic,
      complete.priority,complete.step⟩

section
variable {limits : Limits} {validateWorkerTrustPayload : Obj → Except ValidationError Unit}
  {validateWorkerTrust : Obj → List ValidationError} {decoders : Decoders} {raw : Bytes} {packet : Decoded} {request : Obj}

/-- The SDKs agree about a job request exactly when a rule that all of them have refuses it or its collections and its
    budget are in Go's limits, as they stand, and in Python's. -/
theorem validation_agrees_iff (read : decoders.Read raw packet) (carries : payload? packet.object = some (10,request)) :
    Agree limits validateWorkerTrustPayload validateWorkerTrust decoders raw ↔
      (Complete packet.object request → Within limits request ∧ Within defaultLimits request) := by
  have go := @goAccepts_iff limits validateWorkerTrustPayload packet request carries
  have node := nodeAccepts_iff carries
  have python := @pythonAccepts_iff validateWorkerTrust packet request carries
  rw [Agree,read.node,read.go,read.python]
  simp only [Option.any_some,Bool.eq_iff_iff,go,node,python]
  constructor
  · rintro ⟨nodeGo,goPython⟩ complete
    have accepted := nodeGo.mp complete
    exact ⟨accepted.2,(goPython.mp accepted).2⟩
  · intro within
    refine ⟨⟨fun complete => ⟨complete,(within complete).1⟩,And.left⟩,?_⟩
    constructor
    · rintro ⟨complete,-⟩
      exact ⟨complete,(within complete).2⟩
    · rintro ⟨complete,-⟩
      exact ⟨complete,(within complete).1⟩

end

namespace Samples

/-- Decoding as the language has it, in all three SDKs. -/
private def standard (raw : Bytes) : Option Decoded :=
  (decode schema skipValue .busPacket raw).bind fun o =>
    if fits : o.conforms schema .busPacket 1 [] = true then some ⟨o,fits⟩ else none

private def decoders : Decoders := ⟨standard,standard,standard⟩

/-- A request for a job with a budget of input tokens. -/
private def request (tokens : Nat) : Obj :=
  .set 1 (.scalar (.text "j")) (.set 2 (.scalar (.text "job.t")) (.set 12 (.message
    (.set 1 (.scalar (.varint tokens)) (.done []))) (.done [])))

private def packet (tokens : Nat) : Obj :=
  .set 1 (.scalar (.text "t")) (.set 2 (.scalar (.text "s")) (.set 3 (.message (.set 1 (.scalar (.varint 5)) (.done [])))
    (.set 4 (.scalar (.varint 1)) (.set 10 (.message (request tokens)) (.done [])))))

private def plain : Decoded := ⟨packet 7,by decide +kernel⟩

private def negative : Decoded := ⟨packet (2 ^ 64 - 1),by decide +kernel⟩

/-- Node accepts a budget below zero, which Go and Python refuse. -/
theorem negative_budget_disagreed : decoders.Read negative.object.record.encode negative ∧
    payload? negative.object = some (10,request (2 ^ 64 - 1)) ∧
    ¬ Agree defaultLimits (fun _ => .ok ()) (fun _ => []) decoders negative.object.record.encode := by
  have read : standard negative.object.record.encode = some negative := by decide +kernel
  refine ⟨⟨read,read,read⟩,by decide +kernel,?_⟩
  rw [Agree]
  decide +kernel

theorem plain_budget_agreed : decoders.Read plain.object.record.encode plain ∧
    payload? plain.object = some (10,request 7) ∧
    Agree defaultLimits (fun _ => .ok ()) (fun _ => []) decoders plain.object.record.encode := by
  have read : standard plain.object.record.encode = some plain := by decide +kernel
  have carries : payload? plain.object = some (10,request 7) := by decide +kernel
  have within : Within defaultLimits (request 7) := by
    refine ⟨fun metadata found => ?_,by decide,fun budget found => ?_⟩
    · cases found
    · cases found
      simp only [Allowed]
      decide
  exact ⟨⟨read,read,read⟩,carries,(validation_agrees_iff ⟨read,read,read⟩ carries).mpr fun _ => ⟨within,within⟩⟩

end Samples

end Cap.ValidationAgreement
