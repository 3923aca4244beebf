import Cap.TrustEncoding
import Cap.TrustNodeFlow
import Cap.TrustPython

/-!
The transcripts of the trust handshake in the three SDKs. Go and Python leave the bytes to their
protobuf libraries; Node writes the envelope by hand and strips the defaults of the messages
inside, which shows only in timestamps at the epoch.
-/
namespace Cap.Trust
open Cap.Text Cap.Wire Cap.Proto Cap.Records Cap.Checks Cap.Packets
open Cap.ProductionSigning (Crypto Sdk)

/-! ### The order of the capabilities -/

private theorem key_ascii {key : String} (valid : capabilityKey key = true) : ∀ c ∈ key.toList, c.toNat < 128 := by
  unfold capabilityKey at valid
  intro c member
  cases letters : key.toList with
  | nil => simp [letters] at member
  | cons first rest =>
    simp only [letters,Bool.and_eq_true,decide_eq_true_eq,List.all_eq_true,Bool.or_eq_true,beq_iff_eq] at valid member
    obtain ⟨⟨⟨-,upper⟩,-⟩,others⟩ := valid
    rcases List.mem_cons.mp member with rfl | inside
    · have bound : c.toNat ≤ 'z'.toNat := upper
      exact Nat.lt_of_le_of_lt bound (by decide)
    · rcases others c inside with (((⟨-,upper⟩ | ⟨-,upper⟩) | rfl) | rfl) | rfl
      · have bound : c.toNat ≤ 'z'.toNat := upper
        exact Nat.lt_of_le_of_lt bound (by decide)
      · have bound : c.toNat ≤ '9'.toNat := upper
        exact Nat.lt_of_le_of_lt bound (by decide)
      all_goals decide

private theorem key_order {a b : String × Bool} (validA : capabilityKey a.1 = true) (validB : capabilityKey b.1 = true) :
    Node.unitwise a b ↔ Handshake.bytewise a b := by
  have asciiA := key_ascii validA
  have asciiB := key_ascii validB
  rw [Node.unitwise,Handshake.bytewise,utf8_ascii asciiA,utf8_ascii asciiB,Node.utf16_ascii asciiA,Node.utf16_ascii asciiB]

private theorem key_not_index {key : String} (valid : capabilityKey key = true) : Node.arrayIndex? key = none := by
  unfold capabilityKey at valid
  cases letters : key.toList with
  | nil => simp [letters] at valid
  | cons first rest =>
    simp only [letters,Bool.and_eq_true,decide_eq_true_eq] at valid
    have letter : 'a'.toNat ≤ first.toNat := valid.1.1.1
    have notDigit : ¬ first ≤ '9' := by
      intro digit
      have bound : first.toNat ≤ '9'.toNat := digit
      exact absurd (le_trans letter bound) (by decide)
    simp [Node.arrayIndex?,letters,notDigit]

section

variable {items : List (String × Bool)} (valid : ∀ item ∈ items, capabilityKey item.1 = true)
include valid

private theorem objectKeys_eq : Node.objectKeys items = items := by
  have none : ∀ item ∈ items, (Node.arrayIndex? item.1).isNone = true := by
    intro item member
    rw [key_not_index (valid item member)]
    rfl
  have index : items.filter (fun item => (Node.arrayIndex? item.1).isSome) = [] := by
    rw [List.filter_eq_nil_iff]
    intro item member
    simp [key_not_index (valid item member)]
  rw [Node.objectKeys,index,List.filter_eq_self.mpr none,List.insertionSort_nil,List.nil_append]

private theorem sorted_eq : items.insertionSort Node.unitwise = items.insertionSort Handshake.bytewise := by
  have same := List.map_insertionSort Node.unitwise Handshake.bytewise id items
    fun a memberA b memberB => key_order (valid a memberA) (valid b memberB)
  simpa using same

end

private theorem mapOut_eq (h : Handshake) (valid : ∀ item ∈ h.capabilities, capabilityKey item.1 = true) :
    Node.mapOut h.capabilities = h.sortedCapabilities := by
  unfold Node.mapOut
  rw [sorted_eq valid,objectKeys_eq fun item member => valid item ((List.mem_insertionSort _).mp member)]
  rfl

section

variable {name : Name} {number : Nat} {rest : Msg} {oneof : Option String} {type : Scalar}

/-- So much of a field is left by `stripDefaults`. -/
private abbrev Strips (name : Name) (number : Nat) (value : Val) (kept : Option Val) : Prop :=
  ∀ rest, Node.stripDefaults name (.field number value rest) = prepend (entry number kept) (Node.stripDefaults name rest)

private theorem strip_field {desc : FieldDesc Name} {value : Val} {kept : Option Val}
    (known : schema.field name number = some desc) (stripped : Node.stripValue desc.kind desc.label value = kept) :
    Strips name number value kept := by
  intro rest
  rw [Node.stripDefaults,known]
  dsimp only
  rw [stripped]
  cases kept <;> rfl

private theorem strip_text {s : String}
    (known : schema.field name number = some ⟨number,.scalar .string,.singular,oneof⟩) :
    Strips name number (.text s) (text s) :=
  strip_field known (by simp [Node.stripValue,text,Node.isDefaultScalar])

private theorem strip_bytes {bytes : Bytes}
    (known : schema.field name number = some ⟨number,.scalar .bytes,.singular,oneof⟩) :
    Strips name number (.bytes bytes) (data bytes) :=
  strip_field known (by simp [Node.stripValue,data,Node.isDefaultScalar])

private theorem bits_eq_zero {n : Int} (low : -2 ^ 63 ≤ n) (high : n < 2 ^ 63) : bits n = 0 ↔ n = 0 := by
  constructor
  · exact bits_inj (n := 0) low high (by omega) (by omega)
  · rintro rfl
    rfl

private theorem strip_int32 {n : Int32}
    (known : schema.field name number = some ⟨number,.scalar type,.singular,oneof⟩) :
    Strips name number (.varint (bits n.toInt)) (int32 n) := by
  have low := n.le_toInt
  have high := n.toInt_lt
  have zero : bits n.toInt = 0 ↔ n = 0 := by
    rw [bits_eq_zero (by omega) (by omega),← Int32.toInt_zero,Int32.toInt_inj]
  exact strip_field known (by simp [Node.stripValue,int32,Node.isDefaultScalar,zero])

private theorem strip_int64 {n : Int64}
    (known : schema.field name number = some ⟨number,.scalar type,.singular,oneof⟩) :
    Strips name number (.varint (bits n.toInt)) (int64 n) := by
  have zero : bits n.toInt = 0 ↔ n = 0 := by
    rw [bits_eq_zero n.le_toInt n.toInt_lt,← Int64.toInt_zero,Int64.toInt_inj]
  exact strip_field known (by simp [Node.stripValue,int64,Node.isDefaultScalar,zero])

private theorem strip_flag {b : Bool}
    (known : schema.field name number = some ⟨number,.scalar .bool,.singular,oneof⟩) :
    Strips name number (.varint b.toNat) (flag b) :=
  strip_field known (by cases b <;> simp [Node.stripValue,flag,Node.isDefaultScalar])

private theorem strip_message {inner : Name} {m : Msg}
    (known : schema.field name number = some ⟨number,.message inner,.singular,oneof⟩)
    (filled : Node.isEmpty (Node.stripDefaults inner m) = false) :
    Strips name number (.message m) (sub (some (Node.stripDefaults inner m))) :=
  strip_field known (by rw [Node.stripValue,filled]; rfl)

/-- Fields that are not stripped stay as they are. -/
private theorem strip_kept {fields : Fields} (kept : ∀ f ∈ fields, Strips name f.1 f.2 (some f.2)) :
    Node.stripDefaults name (prepend fields rest) = prepend fields (Node.stripDefaults name rest) := by
  induction fields with
  | nil => rfl
  | cons f fields ih =>
    show Node.stripDefaults name (.field f.1 f.2 (prepend fields rest)) = _
    rw [kept f List.mem_cons_self,ih fun f member => kept f (List.mem_cons_of_mem _ member)]
    rfl

private theorem strip_map (known : schema.field name 4 = some ⟨4,.scalar .bool,.map .string,none⟩)
    (items : List (String × Bool)) :
    Node.stripDefaults name (prepend (items.map mapEntry) rest) =
      prepend (items.map mapEntry) (Node.stripDefaults name rest) := by
  refine strip_kept fun f member => ?_
  obtain ⟨item,-,rfl⟩ := List.mem_map.mp member
  exact strip_field known (by simp [mapEntry,Node.stripValue])

private theorem strip_topics (known : schema.field name 6 = some ⟨6,.scalar .string,.repeated true,none⟩)
    (topics : List String) :
    Node.stripDefaults name (prepend (topics.map fun topic => (6,.text topic)) rest) =
      prepend (topics.map fun topic => (6,.text topic)) (Node.stripDefaults name rest) := by
  refine strip_kept fun f member => ?_
  obtain ⟨topic,-,rfl⟩ := List.mem_map.mp member
  exact strip_field known rfl

private theorem strip_packed (known : schema.field name number = some ⟨number,.scalar .int32,.repeated true,none⟩)
    (ns : List Int32) : Strips name number (.packed (ns.map fun n => bits n.toInt)) (packed ns) :=
  strip_field known (by cases ns <;> rfl)

private theorem packetText_ne {s : String} (text : Node.isPacketText s = true) : s ≠ "" := by
  rintro rfl
  simp [Node.isPacketText] at text

end

/-! ### The messages inside the envelope -/

def Challenge.timestamps (c : Challenge) : List Timestamp := c.issuedAt.toList ++ c.expiresAt.toList

def Packet.timestamps (p : Packet) : List Timestamp :=
  p.createdAt.toList ++ p.challenge?.toList.flatMap Challenge.timestamps ++
    match p.payload with
    | some (.result r) => r.tokenExpiresAt.toList ++ r.issuedAt.toList
    | _ => []

/-- All timestamps lie after the Unix epoch. -/
def AfterEpoch (p : Packet) : Prop := ∀ t ∈ p.timestamps, 0 < t.inNanos

/-- A timestamp is left out when both of its parts are defaults. -/
def Timestamp.kept (value : Option Timestamp) : Option Timestamp := value.filter fun t => !(t.seconds == 0 && t.nanos == 0)

/-- What is left of a message when the timestamps at the epoch are left out. -/
def Challenge.kept (c : Challenge) : Challenge :=
  { c with issuedAt := Timestamp.kept c.issuedAt,expiresAt := Timestamp.kept c.expiresAt }

def Authenticate.kept (a : Authenticate) : Authenticate := { a with challenge := a.challenge.map Challenge.kept }

def Result.kept (r : Result) : Result := { r with
  challenge := r.challenge.map Challenge.kept
  tokenExpiresAt := Timestamp.kept r.tokenExpiresAt
  issuedAt := Timestamp.kept r.issuedAt }

def Payload.kept : Payload → Payload
  | .challengeRequest r => .challengeRequest r
  | .challenge c => .challenge c.kept
  | .authenticate a => .authenticate a.kept
  | .result r => .result r.kept
  | .other number m => .other number m

theorem strip_timestamp {t : Timestamp} (known : t.unknown = []) :
    Node.stripDefaults .timestamp (Node.Record.timestamp t) = t.message := by
  show Node.stripDefaults .timestamp (.field 1 _ (.field 2 _ (.done t.unknown))) = _
  rw [strip_int64 rfl,strip_int32 rfl,Timestamp.message,Records.message,Timestamp.fields,prepend_append,known]
  rfl

theorem isEmpty_timestamp (t : Timestamp) : Node.isEmpty t.message = (t.seconds == 0 && t.nanos == 0) := by
  rw [Timestamp.message,Records.message,Timestamp.fields]
  by_cases whole : t.seconds = 0
  · by_cases part : t.nanos = 0
    · simp [whole,part,int64,int32,entry,prepend,Node.isEmpty]
    · simp [whole,part,int64,int32,entry,prepend,Node.isEmpty]
  · simp [whole,int64,entry,prepend,Node.isEmpty]

variable {number : Nat} {c : Challenge} {p : Packet} {h : Handshake} {phase : Phase} {member : Payload}

private theorem strip_time {name : Name} {rest : Msg} {value : Option Timestamp} {t : Timestamp}
    (known : schema.field name number = some ⟨number,.message .timestamp,.singular,none⟩) (isTime : Node.IsTime value t) :
    Node.stripDefaults name (prepend (entry number (sub (value.map Node.Record.timestamp))) rest) =
      prepend (entry number (sub ((Timestamp.kept value).map Timestamp.message))) (Node.stripDefaults name rest) := by
  obtain ⟨rfl,unknown,-⟩ := isTime
  refine strip_field known ?_ rest
  rw [Node.stripValue,strip_timestamp unknown,isEmpty_timestamp]
  cases zero : t.seconds == 0 && t.nanos == 0 <;> simp only [Timestamp.kept,Option.filter,zero] <;> rfl

private theorem strip_request {r : ChallengeRequest} (known : r.unknown = []) :
    Node.stripDefaults .challengeRequest (Node.Record.challengeRequest r) = r.message := by
  unfold Node.Record.challengeRequest
  show Node.stripDefaults .challengeRequest (.field 1 _ (.field 2 _ (.field 3 _ (.field 4 _ (.field 5 _ (.field 6 _
    (.field 7 _ (.field 8 _ (.field 9 _ (.field 10 _ (.done r.unknown))))))))))) = _
  rw [strip_text rfl,strip_text rfl,strip_text rfl,strip_text rfl,strip_int32 rfl,strip_text rfl,strip_int32 rfl,
    strip_bytes rfl,strip_int32 rfl,strip_text rfl]
  simp only [ChallengeRequest.message,ChallengeRequest.fields,Records.message,prepend_append,known]
  rfl

private theorem strip_challenge (valid : Node.ValidChallenge p c) :
    Node.stripDefaults .challenge (Node.Record.challenge c) = c.kept.message := by
  obtain ⟨issued,expires,isIssued,isExpires,-⟩ := valid.times
  unfold Node.Record.challenge
  rw [Records.message,prepend_append,prepend_append]
  show Node.stripDefaults .challenge (.field 1 _ (.field 2 _ (.field 3 _ (.field 4 _ (.field 5 _ (.field 6 _
    (.field 7 _ (.field 8 _ (.field 9 _ (.field 10 _ (.field 11 _ (.field 12 _ (.field 13 _ (.field 14 _ (.field 15 _
    (prepend _ (prepend _ (.done c.unknown)))))))))))))))))) = _
  rw [strip_text rfl,strip_text rfl,strip_text rfl,strip_text rfl,strip_text rfl,strip_text rfl,strip_text rfl,
    strip_int32 rfl,strip_text rfl,strip_text rfl,strip_int32 rfl,strip_bytes rfl,strip_bytes rfl,strip_int32 rfl,
    strip_text rfl,strip_time rfl isIssued,strip_time rfl isExpires]
  simp only [Challenge.message,Challenge.kept,Challenge.fields,Records.message,prepend_append,valid.unknown]
  rfl

private theorem challenge_filled (valid : Node.ValidChallenge p c) :
    Node.isEmpty c.kept.message = false := by
  have named := packetText_ne (valid.texts c.requestId (by simp [Node.challengeTexts]))
  simp only [Challenge.message,Challenge.kept,Challenge.fields,Records.message,prepend_append]
  simp [Records.text,named,entry,prepend,Node.isEmpty]

private theorem strip_handshake (valid : Node.ValidCapability h c) :
    Node.stripDefaults .handshake (Node.Record.handshake h) = h.message := by
  unfold Node.Record.handshake
  rw [mapOut_eq h fun item member => (valid.capabilities item member).1,Records.message]
  simp only [prepend_append]
  show Node.stripDefaults .handshake (.field 1 _ (.field 2 _ (.field 3 _ (prepend _ (.field 5 _ (prepend _
    (.field 7 _ (.done h.unknown)))))))) = _
  rw [strip_text rfl,strip_int32 rfl,strip_packed rfl,strip_map rfl,strip_text rfl,strip_topics rfl,strip_text rfl]
  simp only [Handshake.message,Handshake.fields,Records.message,prepend_append,valid.unknown]
  rfl

private theorem handshake_filled (valid : Node.ValidCapability h c) :
    Node.isEmpty h.message = false := by
  simp only [Handshake.message,Handshake.fields,Records.message,prepend_append]
  by_cases named : h.componentId = ""
  · simp [Records.text,named,valid.role,workerRole,int32,entry,prepend,Node.isEmpty]
  · simp [Records.text,named,entry,prepend,Node.isEmpty]

private theorem strip_authenticate (challenge : Node.ValidChallenge p c)
    (capability : Node.ValidCapability h c) :
    Node.stripDefaults .authenticate (Node.Record.authenticate ⟨some c,some h,[]⟩) =
      Authenticate.message (Authenticate.kept ⟨some c,some h,[]⟩) := by
  have first := strip_challenge challenge
  have second := strip_handshake capability
  show Node.stripDefaults .authenticate (.field 1 (.message (Node.Record.challenge c)) (.field 2
    (.message (Node.Record.handshake h)) (.done []))) = _
  rw [strip_message rfl (by rw [first]; exact challenge_filled challenge),
    strip_message rfl (by rw [second]; exact handshake_filled capability),first,second]
  rfl

private theorem strip_result {r : Result} {issued : Timestamp} (known : r.unknown = [])
    (carries : r.challenge = some c) (challenge : Node.ValidChallenge p c) (isIssued : Node.IsTime r.issuedAt issued)
    (outcome : Node.ValidOutcome p r issued) :
    Node.stripDefaults .result (Node.Record.result r) = r.kept.message := by
  have first := strip_challenge challenge
  have expiry : ∀ rest, Node.stripDefaults .result (prepend (entry 4 (sub (r.tokenExpiresAt.map Node.Record.timestamp)))
      rest) = prepend (entry 4 (sub ((Timestamp.kept r.tokenExpiresAt).map Timestamp.message)))
        (Node.stripDefaults .result rest) := by
    intro rest
    cases accepted : r.accepted with
    | true =>
      simp only [Node.ValidOutcome,accepted,if_true] at outcome
      obtain ⟨-,-,expires,isExpires,-⟩ := outcome
      exact strip_time rfl isExpires
    | false =>
      -- A rejection has no expiry, and nothing is written.
      simp only [Node.ValidOutcome,accepted,Bool.false_eq_true,if_false] at outcome
      rw [outcome.2.1]
      rfl
  unfold Node.Record.result
  rw [Records.message,carries]
  simp only [prepend_append]
  show Node.stripDefaults .result (.field 1 (.message (Node.Record.challenge c)) (.field 2 _ (.field 3 _
    (prepend _ (prepend _ (.done r.unknown)))))) = _
  rw [strip_message rfl (by rw [first]; exact challenge_filled challenge),strip_flag rfl,strip_int32 rfl,expiry,
    strip_time rfl isIssued,first]
  simp only [Result.message,Result.kept,Result.fields,Records.message,prepend_append,known,carries]
  rfl

theorem strip_payload (valid : Node.ValidPacket p)
    (carried : p.payload = some member) (isPhase : p.phase? = some phase) :
    Node.stripDefaults (Node.payloadType phase) (Node.Record.payload member) = member.kept.message := by
  have payload := valid.payload
  rw [carried] at payload
  simp only [Packet.phase?,carried] at isPhase
  cases member <;> simp only [Option.some.injEq,reduceCtorEq] at isPhase <;> subst isPhase
  case challengeRequest => exact strip_request payload.unknown
  case challenge => exact strip_challenge payload.1
  case authenticate =>
    obtain ⟨c,h,rfl,challenge,-,capability,-⟩ := payload
    exact strip_authenticate challenge capability
  case result =>
    obtain ⟨known,c,issued,carries,challenge,isIssued,outcome⟩ := payload
    exact strip_result known carries challenge isIssued outcome

theorem Timestamp.kept_of_ne {value : Option Timestamp} (apart : ∀ t ∈ value, t.inNanos ≠ 0) :
    Timestamp.kept value = value := by
  cases value with
  | none => rfl
  | some t =>
    have nonzero : (t.seconds == 0 && t.nanos == 0) = false := by
      by_contra zero
      simp only [Bool.not_eq_false,Bool.and_eq_true,beq_iff_eq] at zero
      exact apart t rfl (by simp [Timestamp.inNanos,zero])
    simp [Timestamp.kept,Option.filter,nonzero]

theorem Challenge.kept_of_ne (apart : ∀ t ∈ c.timestamps, t.inNanos ≠ 0) : c.kept = c := by
  unfold Challenge.kept
  rw [Timestamp.kept_of_ne fun t member => apart t (by simp [Challenge.timestamps,Option.mem_def.mp member]),
    Timestamp.kept_of_ne fun t member => apart t (by simp [Challenge.timestamps,Option.mem_def.mp member])]

theorem Payload.kept_of_ne (carried : p.payload = some member)
    (apart : ∀ t ∈ p.timestamps, t.inNanos ≠ 0) : member.kept = member := by
  simp only [Packet.timestamps,Packet.challenge?,carried] at apart
  have inner : ∀ value : Option Challenge, (∀ t ∈ value.toList.flatMap Challenge.timestamps, t.inNanos ≠ 0) →
      value.map Challenge.kept = value := by
    intro value apart
    cases value with
    | none => rfl
    | some c => rw [Option.map_some,Challenge.kept_of_ne fun t among => apart t (by simpa using among)]
  cases member with
  | challengeRequest r | other number m => rfl
  | challenge c => exact congrArg Payload.challenge (Challenge.kept_of_ne fun t among => apart t (by simp [among]))
  | authenticate a =>
    obtain ⟨challenge,capability,unknown⟩ := a
    have same := inner challenge fun t among => apart t (List.mem_append_left _ (List.mem_append_right _ among))
    simp [Payload.kept,Authenticate.kept,same]
  | result r =>
    obtain ⟨challenge,accepted,reason,expires,issued,unknown⟩ := r
    have same := inner challenge fun t among => apart t (List.mem_append_left _ (List.mem_append_right _ among))
    have expiry : Timestamp.kept expires = expires :=
      Timestamp.kept_of_ne fun t among => apart t (List.mem_append_right _ (by simp [Option.mem_def.mp among]))
    have issue : Timestamp.kept issued = issued :=
      Timestamp.kept_of_ne fun t among => apart t (List.mem_append_right _ (by simp [Option.mem_def.mp among]))
    simp [Payload.kept,Result.kept,same,expiry,issue]

/-- The id of the key that signs the packet: the worker's for its own, the scheduler's for its replies. -/
def Packet.signingKeyId (p : Packet) : String :=
  match p.payload with
  | some (.challengeRequest r) => r.proofKeyId
  | some (.challenge c) => c.serverKeyId
  | some (.authenticate ⟨some c,_,_⟩) => c.proofKeyId
  | some (.result ⟨some c,_,_,_,_,_⟩) => c.serverKeyId
  | _ => ""

/-- The SDKs read the algorithm and the key off the same place. -/
structure Proof (p : Packet) : Prop where
  named : p.signingKeyId ≠ ""
  node : Node.proofRecord p = .ok (1,p.signingKeyId)
  algorithm : Go.proofAlgorithm? p = some p256Algorithm
  go : Go.trustHandshakeKeyID p = .ok p.signingKeyId
  python : Python.proofRecord p = (p256Algorithm,p.signingKeyId)

theorem Proof.of_valid (valid : Node.ValidPacket p) : Proof p := by
  have payload := valid.payload
  cases carried : p.payload with
  | none => simp [carried,Node.ValidPayload] at payload
  | some member =>
    rw [carried] at payload
    cases member with
    | challengeRequest r =>
      have filled := packetText_ne (payload.texts r.proofKeyId (by simp [Node.requestTexts]))
      constructor <;> simp [Packet.signingKeyId,carried,filled,Node.proofRecord,Go.proofAlgorithm?,Go.trustHandshakeKeyID,
        Go.selectTrustHandshakePhase,Packet.phase?,Go.validateTrustHandshakeAlgorithm,Python.proofRecord,payload.algorithm,
        p256Algorithm]
    | challenge c =>
      have filled := packetText_ne (payload.1.texts c.serverKeyId (by simp [Node.challengeTexts]))
      constructor <;> simp [Packet.signingKeyId,carried,filled,Node.proofRecord,Go.proofAlgorithm?,Packet.challenge?,
        Go.trustHandshakeKeyID,Go.selectTrustHandshakePhase,Packet.phase?,Go.validateTrustHandshakeAlgorithm,
        Python.proofRecord,payload.1.algorithm,p256Algorithm]
    | authenticate a =>
      obtain ⟨c,h,rfl,challenge,-⟩ := payload
      have filled := packetText_ne (challenge.texts c.proofKeyId (by simp [Node.challengeTexts]))
      constructor <;> simp [Packet.signingKeyId,carried,filled,Node.proofRecord,Go.proofAlgorithm?,Packet.challenge?,
        Go.trustHandshakeKeyID,Go.selectTrustHandshakePhase,Packet.phase?,Go.validateTrustHandshakeAlgorithm,
        Python.proofRecord,challenge.algorithm,p256Algorithm]
    | result r =>
      obtain ⟨-,c,issued,carries,challenge,-⟩ := payload
      have filled := packetText_ne (challenge.texts c.serverKeyId (by simp [Node.challengeTexts]))
      obtain ⟨_,accepted,reason,expires,stamp,unknown⟩ := r
      obtain rfl : _ = some c := carries
      constructor <;> simp [Packet.signingKeyId,carried,filled,Node.proofRecord,Go.proofAlgorithm?,Packet.challenge?,
        Go.trustHandshakeKeyID,Go.selectTrustHandshakePhase,Packet.phase?,Go.validateTrustHandshakeAlgorithm,
        Python.proofRecord,challenge.algorithm,p256Algorithm]
    | other number m => simp [Node.ValidPayload] at payload

/-- The packet with what Node keeps of its payload. -/
def Packet.keptPayload (p : Packet) : Packet := { p with payload := p.payload.map Payload.kept }

theorem Packet.exists_payload (isPhase : p.phase? = some phase) : ∃ member, p.payload = some member := by
  cases carried : p.payload with
  | none => simp [Packet.phase?,carried] at isPhase
  | some member => exact ⟨member,rfl⟩

theorem Node.workerTrustTranscript_kept (valid : Node.ValidPacket p)
    (isPhase : p.phase? = some phase) : Node.workerTrustTranscript p = .ok (transcriptOf phase p.keptPayload) := by
  have record := (Proof.of_valid valid).node
  obtain ⟨t,created⟩ := valid.created
  obtain ⟨member,carried⟩ := Packet.exists_payload isPhase
  have inner := strip_payload valid carried isPhase
  have number : member.kept.number = member.number := by cases member <;> rfl
  have fields : entry 1 (text p.traceId) ++ entry 2 (text p.senderId) ++
      Node.writeMessage 3 .timestamp (p.createdAt.map Node.Record.timestamp) ++ entry 4 (int32 p.protocolVersion) ++
      entry 18 (text p.authToken) ++ (p.payload.toList.flatMap fun member =>
        Node.writeMessage member.number (Node.payloadType phase) (some (Node.Record.payload member))) =
      Go.fields p.keptPayload.unsigned := by
    have stamp : Node.writeMessage 3 .timestamp (p.createdAt.map Node.Record.timestamp) =
        entry 3 (sub (p.createdAt.map Timestamp.message)) := by
      simp [Node.writeMessage,created.1,strip_timestamp created.2.1]
    have payload : Node.writeMessage member.number (Node.payloadType phase) (some (Node.Record.payload member)) =
        member.kept.fields := by
      simp only [Node.writeMessage,Option.map_some,inner,Payload.fields,number]
      rfl
    have metadata : entry 5 (sub none) = [] := rfl
    have identity : entry 6 (sub none) = [] := rfl
    have signature : entry 14 (data []) = [] := rfl
    simp [Go.fields,Packet.envelope,Packet.unsigned,Packet.keptPayload,carried,stamp,payload,valid.metadata,valid.identity,
      metadata,identity,signature]
  have encoded : Node.encodeWorkerTrustUnsigned Node.writeMessage p = .ok (Go.marshal p.keptPayload.unsigned) := by
    have checked := Node.validateWorkerTrustPacket_eq_ok (u := ()) |>.mpr valid
    have unknown : p.keptPayload.unsigned.unknown = [] := valid.unknown
    simp only [Node.encodeWorkerTrustUnsigned,Node.workerTrustPhase,checked,record,isPhase,Go.marshal,Go.message,
      encode_message,unknown,List.append_nil,← fields]
    rfl
  simp only [Node.workerTrustTranscript,Node.writtenTranscript,Node.workerTrustPhase,isPhase,encoded]
  rfl

theorem Packet.keptPayload_of_ne (apart : ∀ t ∈ p.timestamps, t.inNanos ≠ 0) : p.keptPayload = p := by
  unfold Packet.keptPayload
  cases carried : p.payload with
  | none => rw [Option.map_none,← carried]
  | some member => rw [Option.map_some,Payload.kept_of_ne carried apart,← carried]

theorem Node.workerTrustTranscript_valid (valid : Node.ValidPacket p)
    (isPhase : p.phase? = some phase) (after : AfterEpoch p) :
    Node.workerTrustTranscript p = .ok (transcriptOf phase p) := by
  have apart : ∀ t ∈ p.timestamps, t.inNanos ≠ 0 := fun t member => (after t member).ne'
  rw [Node.workerTrustTranscript_kept valid isPhase,Packet.keptPayload_of_ne apart]

private theorem mem_entry {value : Option Val} {f : Nat × Val} (member : f ∈ entry number value) :
    f.1 = number := by
  cases value <;> simp [entry] at member
  rw [member]

private theorem envelope_numbers (p : Packet) : ∀ f ∈ p.envelope, f.1 ≤ 18 := by
  intro f member
  simp only [Packet.envelope,List.mem_append] at member
  rcases member with ((((((here | here) | here) | here) | here) | here) | here) | here <;>
    · have := mem_entry here
      omega

private theorem ascending_above {envelope : Fields} {value : Val} (above : ∀ f ∈ envelope, f.1 < number) :
    ascending envelope [(number,value)] = envelope ++ [(number,value)] := by
  have before : envelope.filter (fun f => decide (f.1 < number)) = envelope := by
    rw [List.filter_eq_self]
    intro f inside
    exact decide_eq_true (above f inside)
  have after : envelope.filter (fun f => decide (number < f.1)) = [] := by
    rw [List.filter_eq_nil_iff]
    intro f inside
    have := above f inside
    simp only [decide_eq_true_eq]
    omega
  simp [ascending,before,after]

private theorem ascending_last (p : Packet) (above : 18 < member.number) :
    ascending p.envelope member.fields = p.envelope ++ member.fields := by
  refine ascending_above fun f inside => ?_
  have := envelope_numbers p f inside
  omega

theorem Python.message_eq (isPhase : p.phase? = some phase) :
    Python.message p = Go.message p := by
  obtain ⟨member,carried,above⟩ : ∃ member, p.payload = some member ∧ 18 < member.number := by
    unfold Packet.phase? at isPhase
    cases carried : p.payload with
    | none => simp [carried] at isPhase
    | some member => cases member <;> simp_all [Payload.number]
  simp [Python.message,Go.message,Python.fields,Go.fields,carried,ascending_last p above]

theorem Python.transcript_eq_ok {transcript : Bytes} :
    Python.transcript p = .ok transcript ↔ Go.hasUnknownProtoFields p = false ∧
      ∃ phase, p.phase? = some phase ∧ transcriptOf phase p = transcript := by
  cases isPhase : p.phase? with
  | none => simp [Python.transcript,Python.phase,isPhase]
  | some phase =>
    have unsigned : p.unsigned.phase? = some phase := isPhase
    have closed : Python.hasUnknownFields p = Go.hasUnknownProtoFields p := by
      rw [Bool.eq_iff_iff]
      simp only [Python.hasUnknownFields,Go.hasUnknownProtoFields,Python.serialize,Python.message_eq isPhase,bne_iff_ne,
        ne_eq,Msg.encode_discardUnknown_iff]
      simp
    simp [Python.transcript,Python.phase,isPhase,closed,transcriptOf,Python.serialize,Python.message_eq unsigned,Go.marshal]

/-- What Node writes of a packet: a timestamp at the epoch is left out. -/
def Packet.kept (p : Packet) : Packet := { p.keptPayload with createdAt := Timestamp.kept p.createdAt }

theorem Packet.kept_of_ne (apart : ∀ t ∈ p.timestamps, t.inNanos ≠ 0) : p.kept = p := by
  have created : Timestamp.kept p.createdAt = p.createdAt :=
    Timestamp.kept_of_ne fun t member => apart t (by simp [Packet.timestamps,Option.mem_def.mp member])
  rw [Packet.kept,Packet.keptPayload_of_ne apart,created]

private theorem payload_filled (valid : Node.ValidPacket p)
    (carried : p.payload = some member) : Node.isEmpty member.kept.message = false := by
  have payload := valid.payload
  rw [carried] at payload
  cases member with
  | challengeRequest r =>
    have named := packetText_ne (payload.texts r.requestId (by simp [Node.requestTexts]))
    simp only [Payload.kept,Payload.message,ChallengeRequest.message,ChallengeRequest.fields,Records.message,prepend_append]
    simp [Records.text,named,entry,prepend,Node.isEmpty]
  | challenge c => exact challenge_filled payload.1
  | authenticate a =>
    obtain ⟨c,h,rfl,-⟩ := payload
    rfl
  | result r =>
    obtain ⟨-,c,issued,carries,-⟩ := payload
    simp only [Payload.kept,Payload.message,Result.message,Result.kept,Result.fields,Records.message,prepend_append,carries]
    rfl
  | other number m => exact payload.elim

/-- The properties of a valid packet, the payload after the envelope. -/
theorem Node.Record.packet_valid (valid : Node.ValidPacket p) (carried : p.payload = some member)
    (last : 18 < member.number) : Node.Record.packet p = prepend ([(1,.text p.traceId),(2,.text p.senderId)])
      (prepend (entry 3 (sub (p.createdAt.map Node.Record.timestamp))) (prepend [(4,.varint (bits p.protocolVersion.toInt)),
        (14,.bytes p.signature),(18,.text p.authToken),(member.number,.message (Node.Record.payload member))]
          (.done []))) := by
  have metadata : entry 5 (sub none) = [] := rfl
  have identity : entry 6 (sub none) = [] := rfl
  unfold Node.Record.packet
  rw [carried,valid.metadata,valid.identity,metadata,identity,Option.toList_some,List.map_singleton,ascending_above,
    Records.message,valid.unknown]
  · simp only [prepend_append]
    rfl
  · intro f member
    simp only [List.mem_append,List.mem_cons,List.not_mem_nil,or_false] at member
    rcases member with (((rfl | rfl) | here) | rfl) | rfl | rfl
    · omega
    · omega
    · have := mem_entry here
      omega
    · omega
    · omega
    · omega

theorem Node.payload_known (carried : p.payload = some member) (isPhase : p.phase? = some phase) :
    schema.field .busPacket member.number = some ⟨member.number,.message (Node.payloadType phase),.singular,
      some "payload"⟩ ∧ 18 < member.number := by
  simp only [Packet.phase?,carried] at isPhase
  cases member with
  | other n m => simp at isPhase
  | _ =>
    obtain rfl := Option.some.inj isPhase
    exact ⟨rfl,show 18 < _ from by simp [Payload.number]⟩

/-- What Node keeps of a valid packet is what Go writes of it. -/
theorem Node.stripDefaults_valid (valid : Node.ValidPacket p) :
    Node.stripDefaults .busPacket (Node.Record.packet p) = Go.message p.kept := by
  obtain ⟨phase,isPhase⟩ := Option.isSome_iff_exists.mp valid.payload.phase
  obtain ⟨t,created⟩ := valid.created
  obtain ⟨member,carried⟩ := Packet.exists_payload isPhase
  have inner := strip_payload valid carried isPhase
  have filled := payload_filled valid carried
  have number : member.kept.number = member.number := by cases member <;> rfl
  have known := Node.payload_known carried isPhase
  have metadata : entry 5 (sub none) = [] := rfl
  have identity : entry 6 (sub none) = [] := rfl
  have fields : Go.message p.kept = prepend (entry 1 (text p.traceId)) (prepend (entry 2 (text p.senderId))
      (prepend (entry 3 (sub ((Timestamp.kept p.createdAt).map Timestamp.message))) (prepend (entry 4 (int32 p.protocolVersion))
        (prepend (entry 14 (data p.signature)) (prepend (entry 18 (text p.authToken))
          (.field member.number (.message member.kept.message) (.done []))))))) := by
    simp only [Go.message,Go.fields,Packet.kept,Packet.keptPayload,Packet.envelope,carried,valid.metadata,valid.identity,Option.map_some,Option.toList_some,List.flatMap_singleton,Payload.fields,Records.message,
      prepend_append,valid.unknown,number]
    rfl
  rw [Node.Record.packet_valid valid carried known.2,fields]
  show Node.stripDefaults .busPacket (.field 1 _ (.field 2 _ (prepend _ (.field 4 _ (.field 14 _ (.field 18 _
    (.field member.number (.message (Node.Record.payload member)) (.done [])))))))) = _
  rw [strip_text rfl,strip_text rfl,strip_time rfl created,strip_int32 rfl,strip_bytes rfl,strip_text rfl,
    strip_message known.1 (by rw [inner]; exact filled),inner]
  rfl

theorem Node.encodeDeterministic_valid (valid : Node.ValidPacket p) :
    Node.encodeDeterministic .busPacket (Node.Record.packet p) = Go.marshal p.kept :=
  congrArg Msg.encode (Node.stripDefaults_valid valid)

/-- The structural validator of the SDK accepts the packet. -/
def Accepts : Sdk → Packet → Prop
  | .go,p => Go.validateWorkerTrustPacket p = .ok ()
  | .node,p => Node.validateWorkerTrustPacket p = .ok ()
  | .python,p => Python.validateWorkerTrustPacket p = .ok ()

def transcript : Sdk → Packet → Option Bytes
  | .go,p => (Go.marshalTrustHandshakeTranscript p).toOption
  | .node,p => (Node.workerTrustTranscript p).toOption
  | .python,p => (Python.transcript p).toOption

section

variable {Key Pub : Type} (crypto : Crypto Key Pub) (strictDer : Bytes → Bool)

/-- The packet signed by the SDK; Node looks the key up by its id. -/
def sign (sdk : Sdk) (p : Packet) (keyId : String) (key : Key) (randomness : Nat) : Option Packet :=
  match sdk with
  | .go => (Go.signTrustHandshake crypto p key randomness).toOption
  | .node => (Node.signWorkerTrustPacket crypto p [(keyId,key)] randomness).toOption
  | .python => (Python.signTrustPacket crypto strictDer p key randomness).toOption

def verifies (sdk : Sdk) (p : Packet) (keys : List (String × Pub)) : Prop :=
  match sdk with
  | .go => Go.verifyTrustHandshake crypto p keys = .ok ()
  | .node => Node.verifyWorkerTrustPacket crypto p keys = .ok true
  | .python => Python.verifyTrustPacket crypto strictDer p keys = .ok ()

/-- What the SDKs rely on: a signature verifies under the signer's public key, and it is strict DER. -/
structure Sound : Prop where
  verifies : ∀ key digest randomness, crypto.verify (crypto.publicKey key) digest (crypto.sign key digest randomness) = true
  nodeDer : ∀ key digest randomness, Node.isStrictDerSignature (crypto.sign key digest randomness) = true
  pythonDer : ∀ key digest randomness, strictDer (crypto.sign key digest randomness) = true

end

section

variable {Key Pub : Type} {crypto : Crypto Key Pub} {strictDer : Bytes → Bool}

variable {p : Packet} {phase : Phase}

private theorem accepted_valid (accepted : ∀ sdk, Accepts sdk p) : Node.ValidPacket p :=
  Node.validateWorkerTrustPacket_eq_ok.mp (accepted .node)

private theorem accepted_closed (accepted : ∀ sdk, Accepts sdk p) : Go.hasUnknownProtoFields p = false := by
  have valid : Go.validateWorkerTrustPacket p = .ok () := accepted .go
  simp only [Go.validateWorkerTrustPacket,Go.validateBusPacket,Go.validateWorkerTrustPayload,bind_eq_ok,require_eq_ok] at valid
  obtain ⟨_,_,_,_,_,_,_,_,_,_,_,closed,-⟩ := valid
  simpa using closed

private theorem accepted_phase (accepted : ∀ sdk, Accepts sdk p) : ∃ phase, p.phase? = some phase :=
  Option.isSome_iff_exists.mp (accepted_valid accepted).payload.phase

private theorem transcript_eq (accepted : ∀ sdk, Accepts sdk p) (after : AfterEpoch p)
    (isPhase : p.phase? = some phase) (sdk : Sdk) : transcript sdk p = some (transcriptOf phase p) := by
  have valid := accepted_valid accepted
  have closed := accepted_closed accepted
  cases sdk with
  | go =>
    rw [transcript,toOption_eq_some,Go.marshalTrustHandshakeTranscript_eq_ok]
    exact ⟨closed,(Proof.of_valid valid).algorithm,phase,isPhase,rfl⟩
  | node =>
    rw [transcript,toOption_eq_some]
    exact Node.workerTrustTranscript_valid valid isPhase after
  | python =>
    rw [transcript,toOption_eq_some,Python.transcript_eq_ok]
    exact ⟨closed,phase,isPhase,rfl⟩

private theorem sign_spec {u : Packet} {signer : Sdk} {keyId : String} {key : Key} {randomness : Nat}
    (signed : sign crypto strictDer signer u keyId key randomness = some p) (isPhase : p.phase? = some phase)
    (after : AfterEpoch p) :
    p.signature = crypto.sign key (crypto.sha256 (transcriptOf phase p)) randomness ∧
      crypto.p256 (crypto.publicKey key) = true := by
  cases signer with
  | go =>
    simp only [sign,toOption_eq_some,Go.signTrustHandshake,Go.trustHandshakeDigest,bind_eq_ok,require_eq_ok,pure_eq_ok,
      Go.marshalTrustHandshakeTranscript_eq_ok] at signed
    obtain ⟨_,_,_,_,_,p256,_,⟨_,⟨_,_,found,same,rfl⟩,rfl⟩,rfl⟩ := signed
    obtain rfl : found = phase := by simpa using same.symm.trans isPhase
    exact ⟨rfl,p256⟩
  | node =>
    simp only [sign,toOption_eq_some,Node.signWorkerTrustPacket,bind_eq_ok,Node.validateWorkerTrustPacket_eq_ok] at signed
    obtain ⟨_,valid,_,_,signed⟩ := signed
    split at signed
    · simp at signed
    · rename_i chosen found
      have chosenKey : chosen = key := by
        simp only [List.lookup_cons,List.lookup_nil] at found
        split at found
        · exact (Option.some.inj found).symm
        · cases found
      subst chosenKey
      simp only [bind_eq_ok,require_eq_ok,pure_eq_ok] at signed
      obtain ⟨_,p256,hashed,isTranscript,rfl⟩ := signed
      -- The candidate that Node signs differs from the packet in the signature only.
      have same := Node.workerTrustTranscript_valid valid isPhase after
      rw [isTranscript] at same
      obtain rfl := Except.ok.inj same
      exact ⟨rfl,p256⟩
  | python =>
    simp only [sign,toOption_eq_some,Python.signTrustPacket,Python.trustPacketDigest,bind_eq_ok,require_eq_ok,pure_eq_ok,
      Python.transcript_eq_ok] at signed
    obtain ⟨_,_,_,_,_,p256,_,⟨_,⟨_,found,same,rfl⟩,rfl⟩,_,_,rfl⟩ := signed
    obtain rfl : found = phase := by simpa using same.symm.trans isPhase
    exact ⟨rfl,p256⟩

private theorem verifies_of_signature {key : Key} {randomness : Nat}
    {keys : List (String × Pub)} (sound : Sound crypto strictDer) (accepted : ∀ sdk, Accepts sdk p) (after : AfterEpoch p)
    (isPhase : p.phase? = some phase)
    (signature : p.signature = crypto.sign key (crypto.sha256 (transcriptOf phase p)) randomness)
    (p256 : crypto.p256 (crypto.publicKey key) = true) (known : keys.lookup p.signingKeyId = some (crypto.publicKey key))
    (verifier : Sdk) : verifies crypto strictDer verifier p keys := by
  have valid := accepted_valid accepted
  have proof := Proof.of_valid valid
  have hashed := transcript_eq accepted after isPhase
  have checked : crypto.verify (crypto.publicKey key) (crypto.sha256 (transcriptOf phase p)) p.signature = true := by
    rw [signature]
    exact sound.verifies key _ randomness
  cases verifier with
  | go =>
    have same := hashed .go
    simp only [transcript,toOption_eq_some] at same
    simp only [verifies,Go.verifyTrustHandshake,proof.go,known,Go.trustHandshakeDigest,same,bind_eq_ok,require_eq_ok,
      pure_eq_ok,Except.ok.injEq,exists_eq_left',exists_const,bne_iff_ne,p256,checked,and_true]
    exact ⟨valid.signature,proof.named⟩
  | node =>
    have same := hashed .node
    simp only [transcript,toOption_eq_some] at same
    have strict : Node.isStrictDerSignature p.signature = true := by
      rw [signature]
      exact sound.nodeDer key _ randomness
    simp [verifies,Node.verifyWorkerTrustPacket,Node.validateWorkerTrustPacket_eq_ok,valid,valid.signature,strict,
      Node.workerTrustKeyId,proof.node,proof.named,known,p256,same,checked]
  | python =>
    have same := hashed .python
    simp only [transcript,toOption_eq_some] at same
    have strict : strictDer p.signature = true := by
      rw [signature]
      exact sound.pythonDer key _ randomness
    simp [verifies,Python.verifyTrustPacket,Python.phase,isPhase,valid.signature,Python.keyId,proof.python,proof.named,known,
      p256,strict,Python.trustPacketDigest,same,checked]

/-- A packet that all three SDKs accept, with timestamps after the epoch, has one transcript;
    signed by one SDK, it verifies in all of them. -/
theorem transcripts_agree {p : Packet} (accepted : ∀ sdk, Accepts sdk p) (after : AfterEpoch p) :
    (∃ hashed, ∀ sdk, transcript sdk p = some hashed) ∧
      (Sound crypto strictDer → ∀ signer unsigned keyId key randomness,
        sign crypto strictDer signer unsigned keyId key randomness = some p →
          ∀ keys : List (String × Pub), keys.lookup p.signingKeyId = some (crypto.publicKey key) →
            ∀ verifier, verifies crypto strictDer verifier p keys) := by
  obtain ⟨phase,isPhase⟩ := accepted_phase accepted
  refine ⟨⟨transcriptOf phase p,transcript_eq accepted after isPhase⟩,?_⟩
  intro sound signer unsigned keyId key randomness signed keys known verifier
  obtain ⟨signature,p256⟩ := sign_spec signed isPhase after
  exact verifies_of_signature sound accepted after isPhase signature p256 known verifier

end

def sampleChallenge : Challenge where
  requestId := "request"
  challengeId := "challenge"
  traceId := "trace"
  workerId := "worker"
  agentId := "agent"
  tenantId := "tenant"
  proofKeyId := "proof"
  proofAlgorithm := 1
  serverKeyId := "server"
  audience := "cordum-scheduler"
  purpose := 2
  clientNonce := List.replicate 32 1
  serverNonce := List.replicate 32 2
  protocolVersion := 1
  sdkVersion := "cap"
  issuedAt := some ⟨1800000000,0,[]⟩
  expiresAt := some ⟨1800000030,500,[]⟩
  unknown := []

def sampleCapability : Handshake where
  componentId := "worker"
  role := 3
  supportedVersions := [1]
  capabilities := [("progress",true),("cancel",true)]
  distinct := by decide
  sdkVersion := "cap"
  readyTopics := ["job.b","job.a"]
  agentName := ""
  unknown := []

/-- One and one in DER. -/
def sampleSignature : Bytes := [0x30,6,2,1,1,2,1,1]

def sampleRenewal : Packet where
  traceId := "trace"
  senderId := "worker"
  createdAt := some ⟨1800000001,0,[]⟩
  protocolVersion := 1
  signatureMetadata := none
  identity := none
  payload := some (.authenticate ⟨some sampleChallenge,some sampleCapability,[]⟩)
  signature := sampleSignature
  authToken := "token"
  unknown := []

def sampleCrypto : Crypto Unit Unit where
  publicKey := id
  p256 := fun _ => true
  sha256 := id
  sign := fun _ _ _ => sampleSignature
  verify := fun _ _ signature => signature == sampleSignature

private theorem sample_sound : Sound sampleCrypto Node.isStrictDerSignature where
  verifies := fun _ _ _ => rfl
  nodeDer := fun _ _ _ => rfl
  pythonDer := fun _ _ _ => rfl

theorem renewal_verifies_everywhere :
    verifies sampleCrypto Node.isStrictDerSignature .go sampleRenewal [("proof",())] ∧
      verifies sampleCrypto Node.isStrictDerSignature .node sampleRenewal [("proof",())] ∧
      verifies sampleCrypto Node.isStrictDerSignature .python sampleRenewal [("proof",())] := by
  have accepted : ∀ sdk, Accepts sdk sampleRenewal := by
    intro sdk
    cases sdk with
    | go =>
      show Go.validateWorkerTrustPacket sampleRenewal = .ok ()
      decide +kernel
    | node =>
      show Node.validateWorkerTrustPacket sampleRenewal = .ok ()
      decide +kernel
    | python =>
      show Python.validateWorkerTrustPacket sampleRenewal = .ok ()
      decide +kernel
  have after : AfterEpoch sampleRenewal := by
    show ∀ t ∈ sampleRenewal.timestamps, 0 < t.inNanos
    decide
  have verified := (@transcripts_agree Unit Unit sampleCrypto Node.isStrictDerSignature sampleRenewal accepted after).2
    sample_sound .go sampleRenewal.unsigned "" () 0 rfl [("proof",())] rfl
  exact ⟨verified .go,verified .node,verified .python⟩

end Cap.Trust
