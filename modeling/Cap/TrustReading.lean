import Cap.PacketObject
import Cap.RecordReading
import Cap.TrustTranscript

/-!
The packets of the trust handshake as a decoder reads them from the fields of a message. What an
encoder writes of a packet conforms to the schema and is read as that packet, the entries of its
map in the order in which they were written.
-/
namespace Cap.Trust
open Cap.Text Cap.Varint Cap.Wire Cap.Proto Cap.Records Cap.Checks Cap.Packets

/-! ### Packets as a decoder gives them -/

def Timestamp.ofMsg (m : Msg) : Timestamp := ⟨Int64.ofInt (m.int 1),Int32.ofInt (m.int 2),unknownBytes m⟩

def ChallengeRequest.ofMsg (m : Msg) : ChallengeRequest where
  requestId := m.text 1
  traceId := m.text 2
  workerId := m.text 3
  proofKeyId := m.text 4
  proofAlgorithm := Int32.ofInt (m.int 5)
  audience := m.text 6
  purpose := Int32.ofInt (m.int 7)
  clientNonce := m.data 8
  protocolVersion := Int32.ofInt (m.int 9)
  sdkVersion := m.text 10
  unknown := unknownBytes m

def Challenge.ofMsg (m : Msg) : Challenge where
  requestId := m.text 1
  challengeId := m.text 2
  traceId := m.text 3
  workerId := m.text 4
  agentId := m.text 5
  tenantId := m.text 6
  proofKeyId := m.text 7
  proofAlgorithm := Int32.ofInt (m.int 8)
  serverKeyId := m.text 9
  audience := m.text 10
  purpose := Int32.ofInt (m.int 11)
  clientNonce := m.data 12
  serverNonce := m.data 13
  protocolVersion := Int32.ofInt (m.int 14)
  sdkVersion := m.text 15
  issuedAt := (m.sub? 16).map Timestamp.ofMsg
  expiresAt := (m.sub? 17).map Timestamp.ofMsg
  unknown := unknownBytes m

/-- The entries of a map, of which a later one replaces an earlier one. -/
def latest : List (String × Bool) → List (String × Bool)
  | [] => []
  | item :: rest => if rest.any (·.1 = item.1) then latest rest else item :: latest rest

theorem mem_latest {item : String × Bool} {items : List (String × Bool)} (member : item ∈ latest items) : item ∈ items := by
  induction items with
  | nil => exact member
  | cons first rest ih =>
    unfold latest at member
    split at member
    · exact List.mem_cons_of_mem _ (ih member)
    · rcases List.mem_cons.mp member with rfl | later
      · exact List.mem_cons_self
      · exact List.mem_cons_of_mem _ (ih later)

theorem latest_distinct (items : List (String × Bool)) : ((latest items).map Prod.fst).Nodup := by
  induction items with
  | nil => exact List.nodup_nil
  | cons first rest ih =>
    unfold latest
    split
    · exact ih
    · next new =>
      refine List.nodup_cons.mpr ⟨fun old => new ?_,ih⟩
      obtain ⟨item,member,same⟩ := List.mem_map.mp old
      exact List.any_eq_true.mpr ⟨item,mem_latest member,decide_eq_true same⟩

theorem latest_of_distinct {items : List (String × Bool)} (distinct : (items.map Prod.fst).Nodup) : latest items = items := by
  induction items with
  | nil => rfl
  | cons first rest ih =>
    obtain ⟨new,distinct⟩ := List.nodup_cons.mp distinct
    have absent : ¬ rest.any (·.1 = first.1) = true := by
      intro old
      obtain ⟨item,member,same⟩ := List.any_eq_true.mp old
      exact new (List.mem_map.mpr ⟨item,member,of_decide_eq_true same⟩)
    rw [latest,if_neg absent,ih distinct]

def entryOf : Val → Option (String × Bool)
  | .message m => some (m.text 1,decide (m.int 2 ≠ 0))
  | _ => none

def textOf : Val → Option String
  | .text s => some s
  | _ => none

def int32Of : Val → Option Int32
  | .varint n => some (Int32.ofInt (signed n))
  | _ => none

def Handshake.ofMsg (m : Msg) : Handshake where
  componentId := m.text 1
  role := Int32.ofInt (m.int 2)
  supportedVersions := (all 3 m).filterMap int32Of
  capabilities := latest ((all 4 m).filterMap entryOf)
  distinct := latest_distinct _
  sdkVersion := m.text 5
  readyTopics := (all 6 m).filterMap textOf
  agentName := m.text 7
  unknown := unknownBytes m

def Authenticate.ofMsg (m : Msg) : Authenticate :=
  ⟨(m.sub? 1).map Challenge.ofMsg,(m.sub? 2).map Handshake.ofMsg,unknownBytes m⟩

def Result.ofMsg (m : Msg) : Result where
  challenge := (m.sub? 1).map Challenge.ofMsg
  accepted := decide (m.int 2 ≠ 0)
  rejectionReason := Int32.ofInt (m.int 3)
  tokenExpiresAt := (m.sub? 4).map Timestamp.ofMsg
  issuedAt := (m.sub? 5).map Timestamp.ofMsg
  unknown := unknownBytes m

def Payload.ofMsg (number : Nat) (m : Msg) : Payload :=
  match number with
  | 19 => .challengeRequest (ChallengeRequest.ofMsg m)
  | 20 => .challenge (Challenge.ofMsg m)
  | 21 => .authenticate (Authenticate.ofMsg m)
  | 22 => .result (Result.ofMsg m)
  | number => .other number m

def payloadNumbers : List Nat := [10,11,12,13,15,16,17,19,20,21,22]

def Packet.ofMsg (m : Msg) : Packet where
  traceId := m.text 1
  senderId := m.text 2
  createdAt := (m.sub? 3).map Timestamp.ofMsg
  protocolVersion := Int32.ofInt (m.int 4)
  signatureMetadata := m.sub? 5
  identity := m.sub? 6
  payload := payloadNumbers.findSome? fun number => (m.sub? number).map (Payload.ofMsg number)
  signature := m.data 14
  authToken := m.text 18
  unknown := unknownBytes m

/-! ### Reading what was written -/

@[simp] theorem Timestamp.unpacked_message (t : Timestamp) : t.message.unpacked = t.message := by
  simp [Timestamp.message,Timestamp.fields,Records.unpacked_message]

@[simp] theorem Timestamp.ofMsg_message (t : Timestamp) : Timestamp.ofMsg t.message = t := by
  unfold Timestamp.ofMsg
  rw [int64_of_get? (n := t.seconds) (by simp [Timestamp.message,Timestamp.fields,List.lookup_append]),
    int32_of_get? (n := t.nanos) (by simp [Timestamp.message,Timestamp.fields,List.lookup_append])]
  simp [Timestamp.message]

theorem ChallengeRequest.unpacked_message (r : ChallengeRequest) : r.message.unpacked = r.message := by
  simp [ChallengeRequest.message,ChallengeRequest.fields,Records.unpacked_message]

theorem ChallengeRequest.ofMsg_message (r : ChallengeRequest) : ChallengeRequest.ofMsg r.message = r := by
  obtain ⟨requestId,traceId,workerId,proofKeyId,algorithm,audience,purpose,nonce,version,sdkVersion,unknown⟩ := r
  simp only [ChallengeRequest.ofMsg,ChallengeRequest.mk.injEq]
  refine ⟨text_of_get? ?_,text_of_get? ?_,text_of_get? ?_,text_of_get? ?_,int32_of_get? ?_,text_of_get? ?_,int32_of_get? ?_,
    data_of_get? ?_,int32_of_get? ?_,text_of_get? ?_,?_⟩ <;>
    simp [ChallengeRequest.message,ChallengeRequest.fields,List.lookup_append]

@[simp] theorem Challenge.unpacked_message (c : Challenge) : c.message.unpacked = c.message := by
  simp [Challenge.message,Challenge.fields,Records.unpacked_message,Function.comp_def]

@[simp] theorem Challenge.ofMsg_message (c : Challenge) : Challenge.ofMsg c.message = c := by
  have issued : c.message.sub? 16 = c.issuedAt.map Timestamp.message :=
    sub_of_get? (by simp [Challenge.message,Challenge.fields,List.lookup_append])
  have expires : c.message.sub? 17 = c.expiresAt.map Timestamp.message :=
    sub_of_get? (by simp [Challenge.message,Challenge.fields,List.lookup_append])
  obtain ⟨requestId,challengeId,traceId,workerId,agentId,tenantId,proofKeyId,algorithm,serverKeyId,audience,purpose,
    clientNonce,serverNonce,version,sdkVersion,issuedAt,expiresAt,unknown⟩ := c
  simp only [Challenge.ofMsg,Challenge.mk.injEq,issued,expires,Option.map_map,Function.comp_def]
  refine ⟨text_of_get? ?_,text_of_get? ?_,text_of_get? ?_,text_of_get? ?_,text_of_get? ?_,text_of_get? ?_,text_of_get? ?_,
    int32_of_get? ?_,text_of_get? ?_,text_of_get? ?_,int32_of_get? ?_,data_of_get? ?_,data_of_get? ?_,int32_of_get? ?_,
    text_of_get? ?_,?_⟩ <;>
    simp [Challenge.message,Challenge.fields,List.lookup_append]

/-- The handshake with the entries of its map in the order in which they are written. -/
def Handshake.sorted (h : Handshake) : Handshake := { h with
  capabilities := h.sortedCapabilities
  distinct := ((List.perm_insertionSort _ _).map Prod.fst).nodup_iff.mpr h.distinct }

def versionField (n : Int32) : Nat × Val := (3,.varint (bits n.toInt))

def topicField (topic : String) : Nat × Val := (6,.text topic)

/-- The fields of a handshake as they are read. -/
def Handshake.spread (h : Handshake) : Fields :=
  entry 1 (text h.componentId) ++ entry 2 (int32 h.role) ++ h.supportedVersions.map versionField ++
  h.sortedCapabilities.map mapEntry ++ entry 5 (text h.sdkVersion) ++ h.readyTopics.map topicField ++
  entry 7 (text h.agentName)

theorem Handshake.unpacked_message (h : Handshake) : h.message.unpacked = Records.message h.spread h.unknown := by
  have versions : (entry 3 (packed h.supportedVersions)).flatMap unpackField =
      h.supportedVersions.map versionField := by
    cases h.supportedVersions with
    | nil => rfl
    | cons n ns => simp [packed,entry,unpackField,Val.unpacked,versionField]
  have items : (h.sortedCapabilities.map mapEntry).flatMap unpackField = h.sortedCapabilities.map mapEntry :=
    unpack_map fun item => by simp [mapEntry,unpackField,Val.unpacked,Msg.unpacked]
  have topics : (h.readyTopics.map fun topic => (6,Val.text topic)).flatMap unpackField =
      h.readyTopics.map topicField := unpack_map fun topic => rfl
  simp [Handshake.message,Handshake.fields,Records.unpacked_message,versions,
    items,topics,Handshake.spread]

theorem entryOf_mapEntry (item : String × Bool) : entryOf (mapEntry item).2 = some item := by
  obtain ⟨key,value⟩ := item
  cases value <;> simp [mapEntry,entryOf,Msg.text,Msg.int,Msg.get?]

theorem int32Of_bits (n : Int32) : int32Of (.varint (bits n.toInt)) = some n := by
  have low := n.le_toInt
  have high := n.toInt_lt
  rw [int32Of,signed_bits (by omega) (by omega),Int32.ofInt_toInt]

theorem Handshake.eq_of {h k : Handshake} (componentId : h.componentId = k.componentId) (role : h.role = k.role)
    (versions : h.supportedVersions = k.supportedVersions) (capabilities : h.capabilities = k.capabilities)
    (sdkVersion : h.sdkVersion = k.sdkVersion) (topics : h.readyTopics = k.readyTopics) (agentName : h.agentName = k.agentName)
    (unknown : h.unknown = k.unknown) : h = k := by
  cases h
  simp_all

@[simp] theorem Handshake.ofMsg_message (h : Handshake) : Handshake.ofMsg h.message.unpacked = h.sorted := by
  -- the three lists stand under their own numbers
  have version : ∀ n : Int32, (versionField n).1 = 3 := fun _ => rfl
  have item : ∀ item : String × Bool, (mapEntry item).1 = 4 := fun _ => rfl
  have topic : ∀ topic : String, (topicField topic).1 = 6 := fun _ => rfl
  have found : ∀ number, number ∉ [3,4,6] → (Records.message h.spread h.unknown).get? number =
      (entry 1 (text h.componentId) ++ entry 2 (int32 h.role) ++ entry 5 (text h.sdkVersion) ++
        entry 7 (text h.agentName)).lookup number := by
    intro number other
    simp only [List.mem_cons,List.not_mem_nil,or_false,not_or] at other
    simp [Handshake.spread,List.lookup_append,lookup_map version (Ne.symm other.1),
      lookup_map item (Ne.symm other.2.1),lookup_map topic (Ne.symm other.2.2)]
  have versions : (all 3 (Records.message h.spread h.unknown)).filterMap int32Of = h.supportedVersions := by
    simp [Handshake.spread,filter_map version,filter_map item,filter_map topic,Function.comp_def,versionField,int32Of_bits]
  have entries : (all 4 (Records.message h.spread h.unknown)).filterMap entryOf = h.sortedCapabilities := by
    simp [Handshake.spread,filter_map version,filter_map item,filter_map topic,entryOf_mapEntry]
  have topics : (all 6 (Records.message h.spread h.unknown)).filterMap textOf = h.readyTopics := by
    simp [Handshake.spread,filter_map version,filter_map item,filter_map topic,Function.comp_def,topicField,textOf]
  have component : (Records.message h.spread h.unknown).text 1 = h.componentId :=
    text_of_get? (by simp [found,List.lookup_append])
  have role : Int32.ofInt ((Records.message h.spread h.unknown).int 2) = h.role :=
    int32_of_get? (by simp [found,List.lookup_append])
  have sdk : (Records.message h.spread h.unknown).text 5 = h.sdkVersion := text_of_get? (by simp [found,List.lookup_append])
  have agent : (Records.message h.spread h.unknown).text 7 = h.agentName := text_of_get? (by simp [found,List.lookup_append])
  have unknown : unknownBytes (Records.message h.spread h.unknown) = h.unknown := unknownBytes_message _ _
  have capabilities := (congrArg latest entries).trans (latest_of_distinct h.sorted.distinct)
  rw [Handshake.unpacked_message]
  generalize Records.message h.spread h.unknown = m at *
  exact Handshake.eq_of component role versions capabilities sdk topics agent unknown

def Authenticate.sorted (a : Authenticate) : Authenticate :=
  { a with capabilityHandshake := a.capabilityHandshake.map Handshake.sorted }

theorem Authenticate.ofMsg_message (a : Authenticate) : Authenticate.ofMsg a.message.unpacked = a.sorted := by
  have read : a.message.unpacked = Records.message (entry 1 (Records.sub (a.challenge.map Challenge.message)) ++
      entry 2 (Records.sub ((a.capabilityHandshake.map Handshake.message).map Msg.unpacked))) a.unknown := by
    simp [Authenticate.message,Authenticate.fields,Records.unpacked_message,Function.comp_def]
  have challenge : a.message.unpacked.sub? 1 = a.challenge.map Challenge.message :=
    sub_of_get? (by simp [read,List.lookup_append])
  have capability : a.message.unpacked.sub? 2 = (a.capabilityHandshake.map Handshake.message).map Msg.unpacked :=
    sub_of_get? (by simp [read,List.lookup_append])
  simp [Authenticate.ofMsg,Authenticate.sorted,challenge,capability,Function.comp_def]
  rw [read,unknownBytes_message]

theorem Result.unpacked_message (r : Result) : r.message.unpacked = r.message := by
  simp [Result.message,Result.fields,Records.unpacked_message,Function.comp_def]

theorem Result.ofMsg_message (r : Result) : Result.ofMsg r.message = r := by
  have challenge : r.message.sub? 1 = r.challenge.map Challenge.message :=
    sub_of_get? (by simp [Result.message,Result.fields,List.lookup_append])
  have expires : r.message.sub? 4 = r.tokenExpiresAt.map Timestamp.message :=
    sub_of_get? (by simp [Result.message,Result.fields,List.lookup_append])
  have issued : r.message.sub? 5 = r.issuedAt.map Timestamp.message :=
    sub_of_get? (by simp [Result.message,Result.fields,List.lookup_append])
  obtain ⟨_,accepted,reason,_,_,unknown⟩ := r
  simp only [Result.ofMsg,Result.mk.injEq,challenge,expires,issued,Option.map_map,Function.comp_def,
    Challenge.ofMsg_message,Option.map_id',true_and]
  refine ⟨flag_of_get? ?_,int32_of_get? ?_,?_⟩ <;> simp [Result.message,Result.fields,List.lookup_append]

/-- The payload with the entries of its map in order. -/
def Payload.sorted : Payload → Payload
  | .authenticate a => .authenticate a.sorted
  | payload => payload

theorem Payload.ofMsg_message {payload : Payload} (phase : ∀ number m, payload ≠ .other number m) :
    Payload.ofMsg payload.number payload.message.unpacked = payload.sorted := by
  cases payload with
  | challengeRequest r =>
    exact congrArg Payload.challengeRequest ((congrArg ChallengeRequest.ofMsg r.unpacked_message).trans r.ofMsg_message)
  | challenge c => exact congrArg Payload.challenge ((congrArg Challenge.ofMsg c.unpacked_message).trans c.ofMsg_message)
  | authenticate a => exact congrArg Payload.authenticate a.ofMsg_message
  | result r => exact congrArg Payload.result ((congrArg Result.ofMsg r.unpacked_message).trans r.ofMsg_message)
  | other number m => exact absurd rfl (phase number m)

def Packet.sorted (p : Packet) : Packet := { p with payload := p.payload.map Payload.sorted }

theorem Go.unpacked_message {p : Packet} {member : Payload} (carried : p.payload = some member)
    (metadata : p.signatureMetadata = none) (identity : p.identity = none) :
    (Go.message p).unpacked = Records.message (entry 1 (text p.traceId) ++ entry 2 (text p.senderId) ++
      entry 3 (Records.sub (p.createdAt.map Timestamp.message)) ++ entry 4 (int32 p.protocolVersion) ++
      entry 14 (data p.signature) ++ entry 18 (text p.authToken) ++
      entry member.number (Records.sub (some member.message.unpacked))) p.unknown := by
  have payload : member.fields = entry member.number (Records.sub (some member.message)) := rfl
  have nothing : ∀ number, entry number (Records.sub none) = [] := fun _ => rfl
  simp [Go.message,Go.fields,Packet.envelope,carried,metadata,identity,payload,
    nothing,Records.unpacked_message,Function.comp_def]

/-- What is written of a handshake packet without metadata is read as the packet. -/
theorem Packet.ofMsg_message {p : Packet} (metadata : p.signatureMetadata = none) (identity : p.identity = none)
    {phase : Phase} (isPhase : p.phase? = some phase) : Packet.ofMsg (Go.message p).unpacked = p.sorted := by
  obtain ⟨member,carried,known⟩ : ∃ member, p.payload = some member ∧ ∀ number m, member ≠ .other number m := by
    cases carried : p.payload with
    | none => simp [Packet.phase?,carried] at isPhase
    | some member => exact ⟨member,rfl,fun number m same => by simp [Packet.phase?,carried,same] at isPhase⟩
  -- the payload is found at its own number, and at no other of the oneof
  have chosen : ∀ number, number ∉ [1,2,3,4,14,18] → (Go.message p).unpacked.sub? number =
      if number = member.number then some member.message.unpacked else none := by
    intro number other
    simp only [List.mem_cons,List.not_mem_nil,or_false,not_or] at other
    refine sub_of_get? ?_
    rw [Go.unpacked_message carried metadata identity,get?_message]
    simp only [List.lookup_append,lookup_entry,if_neg (Ne.symm other.1),if_neg (Ne.symm other.2.1),
      if_neg (Ne.symm other.2.2.1),if_neg (Ne.symm other.2.2.2.1),if_neg (Ne.symm other.2.2.2.2.1),
      if_neg (Ne.symm other.2.2.2.2.2),Option.none_or]
    by_cases own : number = member.number
    · rw [if_pos own,if_pos own.symm]
    · rw [if_neg own,if_neg (Ne.symm own)]
      rfl
  have payload : payloadNumbers.findSome? (fun number =>
      ((Go.message p).unpacked.sub? number).map (Payload.ofMsg number)) = some member.sorted := by
    have read := Payload.ofMsg_message known
    cases member with
    | other number m => exact absurd rfl (known number m)
    | _ => simpa [payloadNumbers,chosen,Payload.number] using read
  have above : 18 < member.number := by
    cases member with
    | other number m => exact absurd rfl (known number m)
    | _ => simp [Payload.number]
  -- the envelope is found below the payload
  have found : ∀ number ≤ 18, (Go.message p).unpacked.get? number = (entry 1 (text p.traceId) ++ entry 2 (text p.senderId) ++
      entry 3 (Records.sub (p.createdAt.map Timestamp.message)) ++ entry 4 (int32 p.protocolVersion) ++
      entry 14 (data p.signature) ++ entry 18 (text p.authToken)).lookup number := by
    intro number low
    have apart : member.number ≠ number := by omega
    rw [Go.unpacked_message carried metadata identity,get?_message,List.lookup_append,lookup_entry number member.number,
      if_neg apart,Option.or_none]
  have created : (Go.message p).unpacked.sub? 3 = p.createdAt.map Timestamp.message :=
    sub_of_get? (by simp [found,List.lookup_append])
  have nothing : (Go.message p).unpacked.sub? 5 = none ∧ (Go.message p).unpacked.sub? 6 = none := by
    constructor <;> exact sub_of_get? (by simp [found,List.lookup_append,Records.sub])
  have unknown : unknownBytes (Go.message p).unpacked = p.unknown := by
    rw [Go.unpacked_message carried metadata identity,unknownBytes_message]
  obtain ⟨traceId,senderId,createdAt,version,_,_,_,signature,authToken,_⟩ := p
  obtain rfl : _ = some member := carried
  obtain rfl : _ = none := metadata
  obtain rfl : _ = none := identity
  simp only [Packet.ofMsg,Packet.sorted,Packet.mk.injEq,payload,created,Option.map_map,Function.comp_def,
    Timestamp.ofMsg_message,Option.map_id',nothing,unknown,Option.map_some,and_true,true_and]
  refine ⟨text_of_get? ?_,text_of_get? ?_,int32_of_get? ?_,data_of_get? ?_,text_of_get? ?_⟩ <;>
    simp [found,List.lookup_append]

theorem Timestamp.conforms (t : Timestamp) : t.message.conforms schema .timestamp [] [] = true := by
  simp only [Timestamp.message,Timestamp.fields,Records.message,prepend_append]
  refine conforms_singular rfl (fits_int64 _ _) (by simp) ?_
  refine conforms_singular rfl (fits_int32 _ (.inl rfl) _) (by simp) ?_
  rfl

theorem ChallengeRequest.conforms (r : ChallengeRequest) : r.message.conforms schema .challengeRequest [] [] = true := by
  simp only [ChallengeRequest.message,ChallengeRequest.fields,Records.message,prepend_append]
  iterate 4 refine conforms_singular rfl (fits_text _ _) (by simp) ?_
  refine conforms_singular rfl (fits_int32 _ (.inr rfl) _) (by simp) ?_
  refine conforms_singular rfl (fits_text _ _) (by simp) ?_
  refine conforms_singular rfl (fits_int32 _ (.inr rfl) _) (by simp) ?_
  refine conforms_singular rfl (fits_data _ _) (by simp) ?_
  refine conforms_singular rfl (fits_int32 _ (.inl rfl) _) (by simp) ?_
  refine conforms_singular rfl (fits_text _ _) (by simp) ?_
  rfl

theorem Challenge.conforms (c : Challenge) : c.message.conforms schema .challenge [] [] = true := by
  simp only [Challenge.message,Challenge.fields,Records.message,prepend_append]
  iterate 7 refine conforms_singular rfl (fits_text _ _) (by simp) ?_
  refine conforms_singular rfl (fits_int32 _ (.inr rfl) _) (by simp) ?_
  iterate 2 refine conforms_singular rfl (fits_text _ _) (by simp) ?_
  refine conforms_singular rfl (fits_int32 _ (.inr rfl) _) (by simp) ?_
  iterate 2 refine conforms_singular rfl (fits_data _ _) (by simp) ?_
  refine conforms_singular rfl (fits_int32 _ (.inl rfl) _) (by simp) ?_
  refine conforms_singular rfl (fits_text _ _) (by simp) ?_
  iterate 2 refine conforms_singular rfl (fits_sub Timestamp.conforms) (by simp) ?_
  rfl

theorem Handshake.conforms (h : Handshake) : h.message.conforms schema .handshake [] [] = true := by
  have versions : ∀ v ∈ (packed h.supportedVersions).toList, v.fits schema (.scalar .int32) (.repeated true) = true := by
    intro v member
    obtain ⟨-,rfl⟩ : h.supportedVersions ≠ [] ∧ Val.packed (h.supportedVersions.map fun n => bits n.toInt) = v := by
      simpa [packed] using member
    simp only [Val.fits,Scalar.wireType,beq_self_eq_true,Bool.true_and,List.all_map,List.all_eq_true]
    intro n _
    simpa [Scalar.holds] using bits_int32 n
  have items : h.sortedCapabilities.map mapEntry =
      (h.sortedCapabilities.map fun item => (mapEntry item).2).map fun value => (4,value) := by
    rw [List.map_map]
    rfl
  have topics : (h.readyTopics.map fun topic => (6,Val.text topic)) = (h.readyTopics.map Val.text).map fun value => (6,value) := by
    rw [List.map_map]
    rfl
  simp only [Handshake.message,Handshake.fields,Records.message,prepend_append,items,topics]
  refine conforms_singular rfl (fits_text _ _) (by simp) ?_
  refine conforms_singular rfl (fits_int32 _ (.inr rfl) _) (by simp) ?_
  refine conforms_several rfl (by rintro ⟨⟩) rfl versions ?_
  refine conforms_several rfl (by rintro ⟨⟩) rfl ?_ ?_
  · intro v member
    obtain ⟨item,-,rfl⟩ := List.mem_map.mp member
    obtain ⟨key,value⟩ := item
    cases value <;> rfl
  refine conforms_singular rfl (fits_text _ _) (by simp) ?_
  refine conforms_several rfl (by rintro ⟨⟩) rfl ?_ ?_
  · intro v member
    obtain ⟨topic,-,rfl⟩ := List.mem_map.mp member
    rfl
  refine conforms_singular rfl (fits_text _ _) (by simp) ?_
  rfl

theorem Authenticate.conforms (a : Authenticate) : a.message.conforms schema .authenticate [] [] = true := by
  simp only [Authenticate.message,Authenticate.fields,Records.message,prepend_append]
  refine conforms_singular rfl (fits_sub Challenge.conforms) (by simp) ?_
  exact conforms_singular rfl (fits_sub Handshake.conforms) (by simp) rfl

theorem Result.conforms (r : Result) : r.message.conforms schema .result [] [] = true := by
  simp only [Result.message,Result.fields,Records.message,prepend_append]
  refine conforms_singular rfl (fits_sub Challenge.conforms) (by simp) ?_
  refine conforms_singular rfl (fits_flag _ _) (by simp) ?_
  refine conforms_singular rfl (fits_int32 _ (.inr rfl) _) (by simp) ?_
  iterate 2 refine conforms_singular rfl (fits_sub Timestamp.conforms) (by simp) ?_
  rfl

/-- A handshake packet without metadata is a message of the bus. -/
theorem Go.message_conforms {p : Packet} (metadata : p.signatureMetadata = none) (identity : p.identity = none)
    {phase : Phase} (isPhase : p.phase? = some phase) : (Go.message p).conforms schema .busPacket [] [] = true := by
  have nothing : ∀ number, entry number (Records.sub none) = [] := fun _ => rfl
  obtain ⟨member,carried⟩ := Packet.exists_payload isPhase
  have payload : member.fields = entry member.number (Records.sub (some member.message)) := rfl
  have known := Node.payload_known carried isPhase
  have inner : member.message.conforms schema (Node.payloadType phase) [] [] = true := by
    simp only [Packet.phase?,carried] at isPhase
    cases member with
    | other number m => simp at isPhase
    | challengeRequest r | challenge r | authenticate r | result r =>
      obtain rfl := Option.some.inj isPhase
      exact r.conforms
  simp only [Go.message,Go.fields,Packet.envelope,carried,metadata,identity,Option.toList_some,List.flatMap_singleton,payload,
    nothing,Records.message,prepend_append]
  refine conforms_singular rfl (fits_text _ _) (by simp) ?_
  refine conforms_singular rfl (fits_text _ _) (by simp) ?_
  refine conforms_singular rfl (fits_sub Timestamp.conforms) (by simp) ?_
  refine conforms_singular rfl (fits_int32 _ (.inl rfl) _) (by simp) ?_
  refine conforms_singular rfl (fits_data _ _) (by simp) ?_
  refine conforms_singular rfl (fits_text _ _) (by simp) ?_
  refine conforms_entry known.1 rfl (fun v written => ?_) (by simp; omega) (by simp) rfl
  obtain rfl := Option.some.inj written
  exact inner

end Cap.Trust
