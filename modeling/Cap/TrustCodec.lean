import Cap.LexOrder
import Cap.TrustScan
import Cap.TrustSpelling

/-!
The codec of the worker trust packets in the Node SDK, from packet to bytes and back
(`marshalWorkerTrustPacket`, `unmarshalWorkerTrustPacket`). The reader and the decoder of
protobufjs are parameters that read what was written.
-/
namespace Cap.Trust
open Cap.Text Cap.Varint Cap.Wire Cap.Proto Cap.Records Cap.Checks Cap.Packets

instance : Std.Total Handshake.bytewise := ⟨fun _ _ => LexOrder.lexLe_total _ _⟩

instance : IsTrans (String × Bool) Handshake.bytewise := ⟨fun _ _ _ => LexOrder.lexLe_trans⟩

/-- The packets have the same fields, their maps the same entries. -/
def Packet.Same (p q : Packet) : Prop := p.sorted = q.sorted

theorem Handshake.sortedCapabilities_sorted (h : Handshake) : h.sorted.sortedCapabilities = h.sortedCapabilities :=
  (List.pairwise_insertionSort Handshake.bytewise h.capabilities).insertionSort_eq

theorem Handshake.sorted_sorted (h : Handshake) : h.sorted.sorted = h.sorted :=
  Handshake.eq_of rfl rfl rfl h.sortedCapabilities_sorted rfl rfl rfl rfl

theorem Handshake.message_sorted (h : Handshake) : h.sorted.message = h.message := by
  show Records.message (h.sorted.fields h.sorted.sortedCapabilities) h.unknown = _
  rw [h.sortedCapabilities_sorted]
  rfl

theorem Payload.sorted_sorted (payload : Payload) : payload.sorted.sorted = payload.sorted := by
  cases payload with
  | authenticate a =>
    obtain ⟨challenge,capability,unknown⟩ := a
    cases capability with
    | none => rfl
    | some h => simp [Payload.sorted,Authenticate.sorted,h.sorted_sorted]
  | _ => rfl

theorem Payload.fields_sorted (payload : Payload) : payload.sorted.fields = payload.fields := by
  cases payload with
  | authenticate a =>
    obtain ⟨challenge,capability,unknown⟩ := a
    cases capability with
    | none => rfl
    | some h =>
      simp only [Payload.sorted,Authenticate.sorted,Option.map_some,Payload.fields,Payload.message,Authenticate.message,
        Authenticate.fields,h.message_sorted]
      rfl
  | _ => rfl

namespace Packet

variable {p q : Packet}

theorem sorted_same (p : Packet) : p.sorted.Same p := by
  unfold Same
  cases carried : p.payload with
  | none => simp only [Packet.sorted,carried,Option.map_none]
  | some member => simp [Packet.sorted,carried,member.sorted_sorted]

theorem message_sorted (p : Packet) : Go.message p.sorted = Go.message p := by
  cases carried : p.payload with
  | none => simp only [Packet.sorted,Go.message,Go.fields,carried,Option.map_none,Packet.envelope]
  | some member =>
    simp [Packet.sorted,Go.message,Go.fields,carried,
      member.fields_sorted,Packet.envelope]

theorem phase?_sorted (p : Packet) : p.sorted.phase? = p.phase? := by
  cases carried : p.payload with
  | none => simp [Packet.sorted,Packet.phase?,carried]
  | some member => cases member <;> simp [Packet.sorted,Packet.phase?,carried,Payload.sorted]

theorem timestamps_sorted (p : Packet) : p.sorted.timestamps = p.timestamps := by
  cases carried : p.payload with
  | none => simp [Packet.sorted,Packet.timestamps,Packet.challenge?,carried]
  | some member =>
    cases member <;> simp [Packet.sorted,Packet.timestamps,Packet.challenge?,carried,Payload.sorted,Authenticate.sorted]

theorem Same.message (same : p.Same q) : Go.message p = Go.message q := by
  rw [← p.message_sorted,← q.message_sorted,same]

theorem Same.phase? (same : p.Same q) : p.phase? = q.phase? := by
  rw [← p.phase?_sorted,← q.phase?_sorted,same]

theorem Same.timestamps (same : p.Same q) : p.timestamps = q.timestamps := by
  rw [← p.timestamps_sorted,← q.timestamps_sorted,same]

end Packet

variable {c : Challenge} {p q : Packet} {value : Option Timestamp} {t : Timestamp}

theorem Node.ValidCapability.sorted {h : Handshake} :
    Node.ValidCapability h.sorted c ↔ Node.ValidCapability h c := by
  have items : ∀ item, item ∈ h.sortedCapabilities ↔ item ∈ h.capabilities := fun _ => List.mem_insertionSort _
  constructor
  · intro valid
    exact ⟨valid.unknown,valid.component,valid.role,valid.sdk,valid.versions,
      fun item member => valid.capabilities item ((items item).mpr member),valid.topics,valid.distinct⟩
  · intro valid
    exact ⟨valid.unknown,valid.component,valid.role,valid.sdk,valid.versions,
      fun item member => valid.capabilities item ((items item).mp member),valid.topics,valid.distinct⟩

/-- The payload is valid in an envelope with the same trace, sender and token. -/
private theorem payload_envelope (trace : p.traceId = q.traceId) (sender : p.senderId = q.senderId)
    (token : p.authToken = q.authToken) {payload : Option Payload} (valid : Node.ValidPayload p payload) :
    Node.ValidPayload q payload := by
  have challenge : ∀ {c}, Node.ValidChallenge p c → Node.ValidChallenge q c :=
    fun valid => { valid with trace := trace.symm.trans valid.trace }
  match payload,valid with
  | some (.challengeRequest r),valid =>
    exact { valid with
      trace := trace.symm.trans valid.trace
      sender := sender.symm.trans valid.sender
      token := token.symm.trans valid.token }
  | some (.challenge c),⟨valid,absent⟩ => exact ⟨challenge valid,token.symm.trans absent⟩
  | some (.authenticate a),⟨c,h,whole,valid,from',capability,session⟩ =>
    exact ⟨c,h,whole,challenge valid,sender.symm.trans from',capability,token ▸ session⟩
  | some (.result r),⟨unknown,c,issued,carries,valid,isIssued,outcome⟩ =>
    refine ⟨unknown,c,issued,carries,challenge valid,isIssued,?_⟩
    unfold Node.ValidOutcome at outcome ⊢
    rwa [← token]

private theorem payload_sorted {payload : Option Payload} :
    Node.ValidPayload p (payload.map Payload.sorted) ↔ Node.ValidPayload p payload := by
  match payload with
  | none | some (.challengeRequest r) | some (.challenge c) | some (.result r) | some (.other number m) => exact Iff.rfl
  | some (.authenticate ⟨challenge,capability,unknown⟩) =>
    constructor
    · rintro ⟨c,h,whole,valid,sender,handshake,session⟩
      simp only [Authenticate.sorted,Authenticate.mk.injEq,Option.map_eq_some_iff] at whole
      obtain ⟨rfl,⟨h,rfl,rfl⟩,rfl⟩ := whole
      exact ⟨c,h,rfl,valid,sender,Node.ValidCapability.sorted.mp handshake,session⟩
    · rintro ⟨c,h,whole,valid,sender,handshake,session⟩
      obtain ⟨rfl,rfl,rfl⟩ := Authenticate.mk.inj whole
      exact ⟨c,h.sorted,rfl,valid,sender,Node.ValidCapability.sorted.mpr handshake,session⟩

theorem Node.ValidPacket.sorted : Node.ValidPacket p.sorted ↔ Node.ValidPacket p := by
  constructor
  · intro valid
    exact { valid with payload := payload_sorted.mp (payload_envelope (p := p.sorted) (q := p) rfl rfl rfl valid.payload) }
  · intro valid
    exact { valid with payload := payload_envelope (p := p) (q := p.sorted) rfl rfl rfl (payload_sorted.mpr valid.payload) }

theorem Packet.Same.valid (same : p.Same q) (valid : Node.ValidPacket q) : Node.ValidPacket p := by
  have ordered := Node.ValidPacket.sorted.mpr valid
  rw [← same] at ordered
  exact Node.ValidPacket.sorted.mp ordered

/-! ### What is left of a packet -/

theorem Timestamp.kept_closed (known : ∀ t ∈ value, t.unknown = []) :
    ((Timestamp.kept value).map Timestamp.message).all Msg.closed = true := by
  rw [Option.all_eq_true]
  intro m member
  obtain ⟨t,kept,rfl⟩ := Option.map_eq_some_iff.mp member
  simp [Timestamp.message,closed_message,Timestamp.fields,known t (Option.filter_eq_some_iff.mp kept).1]

theorem Node.IsTime.known (isTime : Node.IsTime value t) :
    ∀ t ∈ value, t.unknown = [] := by
  obtain ⟨rfl,known,-⟩ := isTime
  intro s member
  obtain rfl := Option.mem_some.mp member
  exact known

theorem Challenge.kept_closed (valid : Node.ValidChallenge p c) : c.kept.message.closed = true := by
  obtain ⟨issued,expires,isIssued,isExpires,-⟩ := valid.times
  have first := Timestamp.kept_closed isIssued.known
  have second := Timestamp.kept_closed isExpires.known
  simp [Challenge.message,closed_message,Challenge.fields,Challenge.kept,first,second,valid.unknown]

theorem Handshake.closed {h : Handshake} (known : h.unknown = []) : h.message.closed = true := by
  have versions : (packed h.supportedVersions).all Val.closed = true := by
    unfold packed
    split <;> rfl
  have items : (h.sortedCapabilities.map mapEntry).all (·.2.closed) = true := by
    simp [mapEntry,Val.closed,Msg.closed]
  have topics : (h.readyTopics.map fun topic => (6,Val.text topic)).all (·.2.closed) = true := by
    simp [Val.closed]
  simp only [Handshake.message,closed_message,Handshake.fields,List.all_append,all_closed_entry,all_closed_text,
    all_closed_int32,versions,items,topics,known]
  rfl

theorem Node.ValidPacket.closed (valid : Node.ValidPacket p) : (Go.message p.kept).closed = true := by
  obtain ⟨t,isTime⟩ := valid.created
  have created := Timestamp.kept_closed isTime.known
  have inner : ∀ member, p.payload = some member → member.kept.message.closed = true := by
    intro member carried
    have payload := valid.payload
    rw [carried] at payload
    cases member with
    | challengeRequest r =>
      simp [Payload.kept,Payload.message,ChallengeRequest.message,closed_message,ChallengeRequest.fields,payload.unknown]
    | challenge c => exact Challenge.kept_closed payload.1
    | authenticate a =>
      obtain ⟨c,h,rfl,challenge,-,capability,-⟩ := payload
      simp [Payload.kept,Payload.message,Authenticate.kept,Authenticate.message,closed_message,Authenticate.fields,
        Challenge.kept_closed challenge,Handshake.closed capability.unknown]
    | result r =>
      obtain ⟨known,c,issued,carries,challenge,isIssued,outcome⟩ := payload
      have expiry : ∀ t ∈ r.tokenExpiresAt, t.unknown = [] := by
        unfold Node.ValidOutcome at outcome
        split at outcome
        · obtain ⟨-,-,expires,isExpires,-⟩ := outcome
          exact isExpires.known
        · simp [outcome.2.1]
      simp [Payload.kept,Payload.message,Result.kept,Result.message,closed_message,Result.fields,carries,known,
        Challenge.kept_closed challenge,Timestamp.kept_closed isIssued.known,Timestamp.kept_closed expiry]
    | other number m => exact payload.elim
  cases carried : p.payload with
  | none =>
    have payload := valid.payload
    rw [carried] at payload
    exact payload.elim
  | some member =>
    have payload := inner member carried
    simp [Go.message,closed_message,Go.fields,Packet.kept,Packet.keptPayload,Packet.envelope,carried,created,payload,
      valid.metadata,valid.identity,valid.unknown,Payload.fields,Val.closed]

theorem Timestamp.mem_kept (kept : t ∈ Timestamp.kept value) :
    ¬ (t.seconds = 0 ∧ t.nanos = 0) := by
  rintro ⟨whole,part⟩
  have left := (Option.filter_eq_some_iff.mp kept).2
  simp [whole,part] at left

theorem Challenge.mem_timestamps_kept (member : t ∈ c.kept.timestamps) :
    ¬ (t.seconds = 0 ∧ t.nanos = 0) := by
  simp only [Challenge.timestamps,List.mem_append,Option.mem_toList] at member
  rcases member with issued | expires
  · exact Timestamp.mem_kept issued
  · exact Timestamp.mem_kept expires

theorem Packet.mem_timestamps_kept (member : t ∈ p.kept.timestamps) :
    ¬ (t.seconds = 0 ∧ t.nanos = 0) := by
  have inner : ∀ value : Option Challenge, t ∈ (value.map Challenge.kept).toList.flatMap Challenge.timestamps →
      ¬ (t.seconds = 0 ∧ t.nanos = 0) := by
    intro value member
    cases value with
    | none => simp at member
    | some c => exact Challenge.mem_timestamps_kept (by simpa using member)
  simp only [Packet.timestamps,Packet.kept,Packet.keptPayload,Packet.challenge?,List.mem_append,Option.mem_toList] at member
  rcases member with (created | challenge) | outcome
  · exact Timestamp.mem_kept created
  · cases carried : p.payload with
    | none => simp [carried] at challenge
    | some payload =>
      simp only [carried] at challenge
      cases payload with
      | challenge c => exact inner (some c) challenge
      | authenticate a => exact inner a.challenge challenge
      | result r => exact inner r.challenge challenge
      | _ => simp [Payload.kept] at challenge
  · cases carried : p.payload with
    | none => simp [carried] at outcome
    | some payload =>
      simp only [carried,Option.map_some] at outcome
      cases payload with
      | result r =>
        simp only [Payload.kept,List.mem_append,Option.mem_toList] at outcome
        rcases outcome with expires | issued
        · exact Timestamp.mem_kept expires
        · exact Timestamp.mem_kept issued
      | _ => simp [Payload.kept] at outcome

theorem Timestamp.inNanos_ne (inRange : t.inRange = true) (apart : ¬ (t.seconds = 0 ∧ t.nanos = 0)) :
    t.inNanos ≠ 0 := by
  intro zero
  simp only [Timestamp.inRange,Timestamp.inNanos,Bool.and_eq_true,decide_eq_true_eq] at inRange zero
  apply apart
  constructor
  · rw [← Int64.toInt_inj,Int64.toInt_zero]
    omega
  · rw [← Int32.toInt_inj,Int32.toInt_zero]
    omega

theorem Node.ValidChallenge.inRange (valid : Node.ValidChallenge p c) :
    ∀ t ∈ c.timestamps, t.inRange = true := by
  obtain ⟨issued,expires,isIssued,isExpires,-⟩ := valid.times
  simp [Challenge.timestamps,isIssued.1,isExpires.1,isIssued.2.2,isExpires.2.2]

theorem Node.ValidPacket.inRange (valid : Node.ValidPacket p) : ∀ t ∈ p.timestamps, t.inRange = true := by
  obtain ⟨created,isCreated⟩ := valid.created
  have payload := valid.payload
  cases carried : p.payload with
  | none => simp [carried,Node.ValidPayload] at payload
  | some member =>
    rw [carried] at payload
    simp only [Packet.timestamps,Packet.challenge?,carried,isCreated.1]
    cases member with
    | challengeRequest r => simp [isCreated.2.2]
    | challenge c => simpa [isCreated.2.2] using payload.1.inRange
    | authenticate a =>
      obtain ⟨c,h,rfl,challenge,-⟩ := payload
      simpa [isCreated.2.2] using challenge.inRange
    | result r =>
      obtain ⟨-,c,issued,carries,challenge,isIssued,outcome⟩ := payload
      have expiry : ∀ t ∈ r.tokenExpiresAt, t.inRange = true := by
        unfold Node.ValidOutcome at outcome
        split at outcome
        · obtain ⟨-,-,expires,isExpires,-⟩ := outcome
          simp [isExpires.1,isExpires.2.2]
        · simp [outcome.2.1]
      intro t inside
      simp only [carries,List.mem_append,Option.toList_some,List.mem_singleton,List.flatMap_singleton,
        Option.mem_toList] at inside
      rcases inside with (rfl | member) | member | member
      · exact isCreated.2.2
      · exact challenge.inRange t member
      · exact expiry t member
      · rw [isIssued.1] at member
        obtain rfl := Option.some.inj member
        exact isIssued.2.2
    | other number m => exact payload.elim

theorem Packet.phase?_kept (p : Packet) : p.kept.phase? = p.phase? := by
  cases carried : p.payload with
  | none => simp [Packet.kept,Packet.keptPayload,Packet.phase?,carried]
  | some member => cases member <;> simp [Packet.kept,Packet.keptPayload,Packet.phase?,carried,Payload.kept]

theorem Packet.kept_sorted (p : Packet) : p.kept.sorted = p.sorted.kept := by
  cases carried : p.payload with
  | none => simp [Packet.sorted,Packet.kept,Packet.keptPayload,carried]
  | some member =>
    cases member <;>
      simp [Packet.sorted,Packet.kept,Packet.keptPayload,carried,Payload.sorted,Payload.kept,Authenticate.sorted,
        Authenticate.kept]

theorem Packet.Same.kept (same : p.Same q) : p.kept.Same q.kept := by
  unfold Packet.Same
  rw [p.kept_sorted,q.kept_sorted,same]

theorem Packet.Same.unsigned (same : p.Same q) : p.unsigned.Same q.unsigned :=
  congrArg Packet.unsigned same

/-- protobufjs reads what was written of a conforming packet, the entries of a map in any order. -/
structure Node.Protobufjs.Lawful (pb : Node.Protobufjs) : Prop where
  reader : pb.reader.Lawful
  decode {m : Msg} : m.conforms schema .busPacket [] [] = true → m.closed = true → m.encode.length ≤ maxPacketSize →
    ∃ q, pb.decode m.encode = some q ∧ q.Same (Packet.ofMsg m.unpacked)

namespace Node

variable {p q : Packet} {pb : Protobufjs}

theorem marshalWorkerTrustPacket_eq_ok {bytes : Bytes} : marshalWorkerTrustPacket p = .ok bytes ↔
    ValidPacket p ∧ (Go.marshal p.kept).length ≤ maxPacketSize ∧ Go.marshal p.kept = bytes := by
  simp only [marshalWorkerTrustPacket,bind_eq_ok,validateWorkerTrustPacket_eq_ok,require_eq_ok,pure_eq_ok,exists_const,
    decide_eq_true_eq]
  constructor
  · rintro ⟨valid,short,rfl⟩
    rw [encodeDeterministic_valid valid] at short ⊢
    exact ⟨valid,short,rfl⟩
  · rintro ⟨valid,short,rfl⟩
    rw [encodeDeterministic_valid valid]
    exact ⟨valid,short,rfl⟩

theorem unmarshalWorkerTrustPacket_eq_ok {data : Bytes} :
    unmarshalWorkerTrustPacket pb data = .ok q ↔ data ≠ [] ∧ data.length ≤ maxPacketSize ∧
      rejectUnknownWire pb.reader data = .ok () ∧ pb.decode data = some q ∧ ValidPacket q ∧ Go.marshal q.kept = data := by
  have size : (decide (data.length ≠ 0) && decide (data.length ≤ maxPacketSize)) = true ↔
      data ≠ [] ∧ data.length ≤ maxPacketSize := by
    simp
  cases decoded : pb.decode data with
  | none => simp [unmarshalWorkerTrustPacket,decoded]
  | some p =>
    simp only [unmarshalWorkerTrustPacket,decoded,bind_eq_ok,require_eq_ok,validateWorkerTrustPacket_eq_ok,pure_eq_ok,
      exists_const,beq_iff_eq,size,and_assoc,Option.some.injEq]
    constructor
    · rintro ⟨some,short,⟨⟩,scanned,valid,canonical,rfl⟩
      rw [encodeDeterministic_valid valid] at canonical
      exact ⟨some,short,scanned,rfl,valid,canonical⟩
    · rintro ⟨some,short,scanned,rfl,valid,canonical⟩
      rw [encodeDeterministic_valid valid]
      exact ⟨some,short,(),scanned,valid,canonical,rfl⟩

private theorem marshal_ne_nil (valid : ValidPacket p) : Go.marshal p.kept ≠ [] := by
  have named : p.traceId ≠ "" := by
    intro empty
    have text := valid.trace
    simp [isPacketText,empty] at text
  have first : text p.traceId = some (.text p.traceId) := by simp [Records.text,named]
  obtain ⟨rest,written⟩ : ∃ rest, Go.message p.kept = .field 1 (.text p.traceId) rest := by
    simp only [Go.message,Go.fields,Packet.envelope,Packet.kept,Packet.keptPayload,Records.message,prepend_append,first]
    exact ⟨_,rfl⟩
  have positive := encodeField_length_pos ⟨1,(Val.text p.traceId).wire⟩
  rw [Go.marshal,written,Msg.encode]
  intro empty
  rw [(List.append_eq_nil_iff.mp empty).1,List.length_nil] at positive
  exact absurd positive (lt_irrefl 0)

private theorem kept_conforms (valid : ValidPacket p) : (Go.message p.kept).conforms schema .busPacket [] [] = true := by
  obtain ⟨phase,isPhase⟩ := Option.isSome_iff_exists.mp valid.payload.phase
  exact Go.message_conforms (p := p.kept) valid.metadata valid.identity (p.phase?_kept.trans isPhase)

/-- What was written of a valid packet is scanned and decoded as what was kept of it. -/
private theorem decode_marshal (lawful : pb.Lawful) (valid : ValidPacket p)
    (short : (Go.marshal p.kept).length ≤ maxPacketSize) :
    rejectUnknownWire pb.reader (Go.marshal p.kept) = .ok () ∧
      ∃ q, pb.decode (Go.marshal p.kept) = some q ∧ q.Same p.kept := by
  obtain ⟨phase,isPhase⟩ := Option.isSome_iff_exists.mp valid.payload.phase
  have read := Packet.ofMsg_message (p := p.kept) valid.metadata valid.identity (p.phase?_kept.trans isPhase)
  have small : (Go.message p.kept).encode.length < 2 ^ 32 := lt_of_le_of_lt short (by decide)
  obtain ⟨q,decoded,same⟩ := lawful.decode (kept_conforms valid) valid.closed short
  rw [read] at same
  exact ⟨rejectUnknownWire_conforms lawful.reader (kept_conforms valid) valid.closed small,q,decoded,
    same.trans p.kept.sorted_same⟩

private theorem transcript_same (same : q.Same p) (valid : ValidPacket p)
    (apart : ∀ t ∈ p.timestamps, t.inNanos ≠ 0) : workerTrustTranscript q = workerTrustTranscript p := by
  obtain ⟨phase,isPhase⟩ := Option.isSome_iff_exists.mp valid.payload.phase
  have away : ∀ t ∈ q.timestamps, t.inNanos ≠ 0 := by rwa [same.timestamps]
  rw [workerTrustTranscript_kept valid isPhase,workerTrustTranscript_kept (same.valid valid) (same.phase?.trans isPhase),
    Packet.keptPayload_of_ne apart,Packet.keptPayload_of_ne away,transcriptOf,transcriptOf,Go.marshal,Go.marshal,
    same.unsigned.message]

theorem marshal_of_unmarshal {data : Bytes}
    (accepted : unmarshalWorkerTrustPacket pb data = .ok q) : marshalWorkerTrustPacket q = .ok data := by
  obtain ⟨-,short,-,-,valid,canonical⟩ := unmarshalWorkerTrustPacket_eq_ok.mp accepted
  rw [← canonical] at short
  exact marshalWorkerTrustPacket_eq_ok.mpr ⟨valid,short,canonical⟩

/-- A packet that is accepted again as itself has no timestamp at the epoch. -/
private theorem apart_of_unmarshal (lawful : pb.Lawful) (valid : ValidPacket p) (same : q.Same p)
    (accepted : unmarshalWorkerTrustPacket pb (Go.marshal p.kept) = .ok q) : ∀ t ∈ p.timestamps, t.inNanos ≠ 0 := by
  obtain ⟨-,short,-,decoded,-⟩ := unmarshalWorkerTrustPacket_eq_ok.mp accepted
  obtain ⟨-,r,decoded',read⟩ := decode_marshal lawful valid short
  obtain rfl : q = r := Option.some.inj (decoded.symm.trans decoded')
  intro t member
  -- the packet read is both the original and what was kept of it
  have apart := Packet.mem_timestamps_kept (p := p) (by rwa [← read.timestamps,same.timestamps])
  exact Timestamp.inNanos_ne (valid.inRange t member) apart

private theorem unmarshal_marshal (lawful : pb.Lawful) (valid : ValidPacket p)
    (short : (Go.marshal p.kept).length ≤ maxPacketSize) (apart : ∀ t ∈ p.timestamps, t.inNanos ≠ 0) :
    ∃ q, unmarshalWorkerTrustPacket pb (Go.marshal p.kept) = .ok q ∧ q.Same p := by
  obtain ⟨scanned,q,decoded,read⟩ := decode_marshal lawful valid short
  rw [Packet.kept_of_ne apart] at read
  have away : ∀ t ∈ q.timestamps, t.inNanos ≠ 0 := by rwa [read.timestamps]
  have canonical : Go.marshal q.kept = Go.marshal p.kept := by
    rw [Packet.kept_of_ne away,Packet.kept_of_ne apart,Go.marshal,Go.marshal,read.message]
  exact ⟨q,unmarshalWorkerTrustPacket_eq_ok.mpr ⟨marshal_ne_nil valid,short,scanned,decoded,read.valid valid,canonical⟩,read⟩

namespace TrustObject

variable {object : TrustObject} {bytes : Bytes}

/-- The bytes are read as the packet of the object, with its transcript. -/
def RoundTrips (pb : Protobufjs) (object : TrustObject) (bytes : Bytes) : Prop :=
  ∃ q, unmarshalWorkerTrustPacket pb bytes = .ok q ∧ q.Same object.packet ∧
    Node.workerTrustTranscript q = object.workerTrustTranscript

theorem marshalWorkerTrustPacket_eq_ok : object.marshalWorkerTrustPacket = .ok bytes ↔
    ValidPacket object.packet ∧ object.fields.encode.length ≤ maxPacketSize ∧ object.fields.encode = bytes := by
  simp [TrustObject.marshalWorkerTrustPacket,validateWorkerTrustPacket_eq_ok]

theorem Faithful.encode (read : object.Faithful) (valid : ValidPacket object.packet) :
    object.fields.encode = Go.marshal object.packet.kept := by
  rw [fields,spelled_of_faithful _ read,stripDefaults_valid valid,Go.marshal]

theorem Faithful.of_encode (valid : ValidPacket object.packet)
    (same : object.fields.encode = Go.marshal object.packet.kept) : object.Faithful := by
  have strip := stripDefaults_valid valid
  have conforms := kept_conforms valid
  rw [← strip] at conforms
  refine faithful_of_encode conforms ?_ ?_
  · rw [strip]
    exact valid.closed
  · rw [strip]
    exact same

theorem roundTrips_iff (lawful : pb.Lawful) (marshalled : object.marshalWorkerTrustPacket = .ok bytes) :
    RoundTrips pb object bytes ↔ (∀ t ∈ object.packet.timestamps, t.inNanos ≠ 0) ∧ object.Faithful := by
  obtain ⟨valid,short,rfl⟩ := marshalWorkerTrustPacket_eq_ok.mp marshalled
  constructor
  · rintro ⟨q,accepted,same,-⟩
    obtain ⟨-,-,-,-,-,canonical⟩ := unmarshalWorkerTrustPacket_eq_ok.mp accepted
    rw [Go.marshal,same.kept.message] at canonical
    rw [← canonical] at accepted
    exact ⟨apart_of_unmarshal lawful valid same accepted,Faithful.of_encode valid canonical.symm⟩
  · rintro ⟨apart,read⟩
    rw [read.encode valid] at short ⊢
    obtain ⟨q,accepted,same⟩ := unmarshal_marshal lawful valid short apart
    exact ⟨q,accepted,same,(transcript_same same valid apart).trans (read.transcript valid).symm⟩

end TrustObject

/-- A packet object is read back from its bytes exactly when none of its timestamps is the Unix epoch and no second is
    spelled unfaithfully; the bytes of a packet that was read are written again, and no others are read as that
    packet. -/
theorem codec_exact {pb : Protobufjs} (lawful : pb.Lawful) :
    (∀ (object : TrustObject) bytes, object.marshalWorkerTrustPacket = .ok bytes →
      (object.RoundTrips pb bytes ↔ (∀ t ∈ object.packet.timestamps, t.inNanos ≠ 0) ∧ object.Faithful)) ∧
    (∀ data q, unmarshalWorkerTrustPacket pb data = .ok q → marshalWorkerTrustPacket q = .ok data) ∧
    ∀ data other q r, unmarshalWorkerTrustPacket pb data = .ok q → unmarshalWorkerTrustPacket pb other = .ok r →
      q.Same r → data = other := by
  refine ⟨fun object bytes => TrustObject.roundTrips_iff lawful,fun data q => marshal_of_unmarshal,?_⟩
  intro data other q r one two same
  obtain ⟨-,-,-,-,-,first⟩ := unmarshalWorkerTrustPacket_eq_ok.mp one
  obtain ⟨-,-,-,-,-,second⟩ := unmarshalWorkerTrustPacket_eq_ok.mp two
  rw [← first,← second,Go.marshal,Go.marshal,same.kept.message]

/-! ### A packet that is read back, and one that is not -/

namespace Samples

/-- A reader and a decoder that read what was written. -/
def protobufjs : Protobufjs where
  reader :=
    { uint32 := fun data pos => match ProductionWire.readVarint (data.drop pos) with
        | .ok (n,size) => some (n,pos + size)
        | .error _ => none
      skipType := fun wire data pos => match ClosedWire.readWireValue (data.drop pos) wire with
        | .ok (size,_) => some (pos + size)
        | .error _ => none }
  decode := fun data => (unmarshal schema (fun _ _ _ => none) .busPacket data).map Packet.ofMsg

private theorem protobufjs_lawful : protobufjs.Lawful where
  reader :=
    { uint32 := by
        intro data rest pos n here small
        simp only [protobufjs,here,ProductionWire.readVarint_encodeVarint rest (by omega : n < 128 ^ 10)]
      skipType := by
        intro data rest pos value here plain short
        simp only [protobufjs,here,ClosedWire.readWireValue_encoded rest plain (by omega)] }
  decode := by
    intro m conforms closed short
    have known : m.Known schema (fun _ _ _ => none) .busPacket := Msg.known_of_closed m closed
    have decoded := unmarshal_encode PacketSignature.schema_sound conforms known (lt_of_le_of_lt short (by decide))
    exact ⟨Packet.ofMsg m.unpacked,by simp only [protobufjs,decoded,Option.map_some],rfl⟩

/-- The seconds of the creation are given as another value, of which these bits are written. -/
def created (bits : UInt64) : Spelling := fun path => if path = [3,1] then some bits else none

/-- The renewal, with the seconds of its creation as a text. -/
def renewal : TrustObject := ⟨sampleRenewal,created 1800000001⟩

/-- The renewal is read back, and its bytes are those of the packet that was read. -/
theorem renewal_round_trip : ∃ bytes, renewal.marshalWorkerTrustPacket = .ok bytes ∧
    renewal.RoundTrips protobufjs bytes ∧
    ∃ q, unmarshalWorkerTrustPacket protobufjs bytes = .ok q ∧ marshalWorkerTrustPacket q = .ok bytes := by
  have valid : validateWorkerTrustPacket sampleRenewal = .ok () := by decide +kernel
  have marshalled : renewal.marshalWorkerTrustPacket = .ok renewal.fields.encode :=
    TrustObject.marshalWorkerTrustPacket_eq_ok.mpr ⟨validateWorkerTrustPacket_eq_ok.mp valid,by decide +kernel,rfl⟩
  have apart : ∀ t ∈ sampleRenewal.timestamps, t.inNanos ≠ 0 := by decide
  obtain ⟨forth,back,-⟩ := codec_exact protobufjs_lawful
  have trip := (forth renewal _ marshalled).mpr ⟨apart,by decide +kernel⟩
  refine ⟨_,marshalled,trip,?_⟩
  obtain ⟨q,accepted,-⟩ := trip
  exact ⟨q,accepted,back _ q accepted⟩

/-- The renewal, created at the Unix epoch. -/
def epochRenewal : TrustObject := ⟨{ sampleRenewal with createdAt := some ⟨0,0,[]⟩ },fun _ => none⟩

/-- The renewal, created five nanoseconds later; the seconds are the text `"0"`. -/
def zeroRenewal : TrustObject := ⟨{ sampleRenewal with createdAt := some ⟨0,5,[]⟩ },created 0⟩

/-- The object is accepted for writing, and its bytes are refused. -/
def Refused (object : TrustObject) : Prop := object.marshalWorkerTrustPacket = .ok object.fields.encode ∧
  ∀ q, unmarshalWorkerTrustPacket protobufjs object.fields.encode ≠ .ok q

private theorem refused {object : TrustObject} (valid : validateWorkerTrustPacket object.packet = .ok ())
    (short : object.fields.encode.length ≤ maxPacketSize)
    (none : (unmarshalWorkerTrustPacket protobufjs object.fields.encode).toOption.isNone = true) : Refused object := by
  refine ⟨TrustObject.marshalWorkerTrustPacket_eq_ok.mpr ⟨validateWorkerTrustPacket_eq_ok.mp valid,short,rfl⟩,?_⟩
  intro q accepted
  rw [accepted] at none
  cases none

theorem epoch_not_read_back : Refused epochRenewal ∧ Refused zeroRenewal := by
  constructor
  all_goals exact refused (by decide +kernel) (by decide +kernel) (by decide +kernel)

end Samples

end Node

end Cap.Trust
