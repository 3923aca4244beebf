import Mathlib.Data.List.Dedup
import Cap.TrustPacket
import Cap.Packets
import Cap.Checks

/-!
The packets of the trust handshake in the Node SDK (`codec.ts`, `worker-trust-packet.ts`,
`worker-trust-wire.ts`). A packet is a JavaScript object. A property that is not set reads as the
default of its field, and an object with a property that the schema does not know stands as a
message with unknown bytes; the decoder of protobufjs is a parameter.
-/
namespace Cap.Trust.Node
open Cap.Text Cap.Wire Cap.Proto Cap.Records Cap.Checks Cap.Packets

inductive Error where
  | packet (message : String)
  | binding (message : String)
  | expired (message : String)
  | rejection (reason : Int32)
  | signing (message : String)
  | config (message : String)
  | type
deriving DecidableEq

def fail (message : String) : Error := .packet ("worker trust packet " ++ message)

/-- The UTF-16 code units of a character. -/
def codeUnits (c : Char) : List Nat :=
  if c.toNat < 0x10000 then [c.toNat]
  else [0xd800 + (c.toNat - 0x10000) / 0x400,0xdc00 + (c.toNat - 0x10000) % 0x400]

def utf16 (s : String) : List Nat := s.toList.flatMap codeUnits

theorem utf16_ascii {s : String} (ascii : ∀ c ∈ s.toList, c.toNat < 128) : utf16 s = s.toList.map Char.toNat := by
  unfold utf16
  generalize s.toList = cs at ascii
  induction cs with
  | nil => rfl
  | cons c rest ih =>
    have small : c.toNat < 0x10000 := by
      have := ascii c (by simp)
      omega
    rw [List.flatMap_cons,ih fun d member => ascii d (by simp [member])]
    simp [codeUnits,small]

theorem ascii_of_utf16 {s : String} (ascii : ∀ unit ∈ utf16 s, unit < 128) : ∀ c ∈ s.toList, c.toNat < 128 := by
  intro c member
  have units : ∀ unit ∈ codeUnits c, unit < 128 := fun unit inside => ascii unit (List.mem_flatMap.mpr ⟨c,member,inside⟩)
  unfold codeUnits at units
  split at units
  · exact units _ (by simp)
  · have := units _ (List.mem_cons_self ..)
    omega

/-- Keys that are array indices, in canonical decimal form below `2 ^ 32 - 1`. -/
def arrayIndex? (key : String) : Option Nat :=
  let digits := key.toList
  let value := digits.foldl (fun n c => n * 10 + (c.toNat - 48)) 0
  if digits ≠ [] ∧ digits.all (fun c => '0' ≤ c && c ≤ '9') ∧ (digits = ['0'] ∨ digits.head? ≠ some '0') ∧
      value < 2 ^ 32 - 1 then some value else none

/-- The order in which an object lists its properties: array indices by value, then the
    others as they were set. -/
def objectKeys (items : List (String × Bool)) : List (String × Bool) :=
  (items.filter fun item => (arrayIndex? item.1).isSome).insertionSort
    (fun a b => (arrayIndex? a.1).getD 0 ≤ (arrayIndex? b.1).getD 0) ++
    items.filter fun item => (arrayIndex? item.1).isNone

/-- Keys compared by their code units, as `sort()` does. -/
def unitwise (a b : String × Bool) : Prop := lexLe (utf16 a.1) (utf16 b.1) = true

instance : DecidableRel unitwise := fun _ _ => inferInstanceAs (Decidable (lexLe _ _ = true))

/-- The map as `stripDefaults` copies it: the keys are set in their order. -/
def mapOut (items : List (String × Bool)) : List (String × Bool) := objectKeys (items.insertionSort unitwise)

namespace Record

/-- The properties of a message, defaults included. -/
def timestamp (t : Timestamp) : Msg :=
  Records.message [(1,.varint (bits t.seconds.toInt)),(2,.varint (bits t.nanos.toInt))] t.unknown

def challengeRequest (r : ChallengeRequest) : Msg :=
  Records.message [(1,.text r.requestId),(2,.text r.traceId),(3,.text r.workerId),(4,.text r.proofKeyId),
    (5,.varint (bits r.proofAlgorithm.toInt)),(6,.text r.audience),(7,.varint (bits r.purpose.toInt)),
    (8,.bytes r.clientNonce),(9,.varint (bits r.protocolVersion.toInt)),(10,.text r.sdkVersion)] r.unknown

def challenge (c : Challenge) : Msg :=
  Records.message ([(1,.text c.requestId),(2,.text c.challengeId),(3,.text c.traceId),(4,.text c.workerId),
    (5,.text c.agentId),(6,.text c.tenantId),(7,.text c.proofKeyId),(8,.varint (bits c.proofAlgorithm.toInt)),
    (9,.text c.serverKeyId),(10,.text c.audience),(11,.varint (bits c.purpose.toInt)),(12,.bytes c.clientNonce),
    (13,.bytes c.serverNonce),(14,.varint (bits c.protocolVersion.toInt)),(15,.text c.sdkVersion)] ++
    entry 16 (sub (c.issuedAt.map timestamp)) ++ entry 17 (sub (c.expiresAt.map timestamp))) c.unknown

def handshake (h : Handshake) : Msg :=
  Records.message ([(1,.text h.componentId),(2,.varint (bits h.role.toInt)),
    (3,.packed (h.supportedVersions.map fun n => bits n.toInt))] ++ (mapOut h.capabilities).map mapEntry ++
    [(5,.text h.sdkVersion)] ++ h.readyTopics.map (fun topic => (6,.text topic)) ++ [(7,.text h.agentName)]) h.unknown

def authenticate (a : Authenticate) : Msg :=
  Records.message (entry 1 (sub (a.challenge.map challenge)) ++ entry 2 (sub (a.capabilityHandshake.map handshake)))
    a.unknown

def result (r : Result) : Msg :=
  Records.message (entry 1 (sub (r.challenge.map challenge)) ++
    [(2,.varint r.accepted.toNat),(3,.varint (bits r.rejectionReason.toInt))] ++
    entry 4 (sub (r.tokenExpiresAt.map timestamp)) ++ entry 5 (sub (r.issuedAt.map timestamp))) r.unknown

def payload : Payload → Msg
  | .challengeRequest r => challengeRequest r
  | .challenge c => challenge c
  | .authenticate a => authenticate a
  | .result r => result r
  | .other _ m => m

def packet (p : Packet) : Msg :=
  Records.message (ascending ([(1,.text p.traceId),(2,.text p.senderId)] ++ entry 3 (sub (p.createdAt.map timestamp)) ++
    [(4,.varint (bits p.protocolVersion.toInt))] ++ entry 5 (sub p.signatureMetadata) ++ entry 6 (sub p.identity) ++
    [(14,.bytes p.signature),(18,.text p.authToken)])
    (p.payload.toList.map fun member => (member.number,.message (payload member)))) p.unknown

end Record

/-- `isDefaultScalar`. A negative zero equals zero. -/
def isDefaultScalar : Val → Bool
  | .varint n => n == 0
  | .text s => s == ""
  | .bytes data => data == []
  | .fixed64 data => data == List.replicate 8 0 || data == List.replicate 7 0 ++ [0x80]
  | .fixed32 data => data == List.replicate 4 0 || data == List.replicate 3 0 ++ [0x80]
  | _ => false

def isEmpty : Msg → Bool
  | .done _ => true
  | .field _ _ _ => false

mutual

/-- The known properties that are not defaults; a nested message without any is dropped. -/
def stripDefaults (name : Name) : Msg → Msg
  | .done _ => .done []
  | .field number value rest =>
    match schema.field name number with
    | none => stripDefaults name rest
    | some desc =>
      match stripValue desc.kind desc.label value with
      | none => stripDefaults name rest
      | some kept => .field number kept (stripDefaults name rest)

def stripValue (kind : Kind Name) (label : Label) : Val → Option Val
  | .message m =>
    match label,kind with
    | .singular,.message name => if isEmpty (stripDefaults name m) then none else some (.message (stripDefaults name m))
    | .repeated _,.message name => some (.message (stripDefaults name m))
    | _,_ => some (.message m)
  | .packed ns => if ns == [] then none else some (.packed ns)
  | value =>
    match label with
    | .singular => if isDefaultScalar value then none else some value
    | _ => some value

end

def encodeDeterministic (name : Name) (object : Msg) : Bytes := (stripDefaults name object).encode

/-- Properties beyond those of the type. -/
def assertKnown (unknown : Bytes) (label : String) : Except Error Unit :=
  require unknown.isEmpty (fail (label ++ " contains unknown field"))

def minProtoSeconds : Int := -62135596800
def maxProtoSeconds : Int := 253402300799

def timestampNanos : Option Timestamp → Except Error Int
  | none => throw (.packet "timestamp is invalid")
  | some t => do
    require (0 ≤ t.nanos.toInt && t.nanos.toInt < 1000000000) (.packet "timestamp is invalid")
    require (minProtoSeconds ≤ t.seconds.toInt && t.seconds.toInt ≤ maxProtoSeconds)
      (.packet "timestamp is outside protobuf range")
    pure t.inNanos

def validateTimestampObject (value : Option Timestamp) (field : String) : Except Error Int :=
  match value with
  | none => throw (fail (field ++ " is required"))
  | some t => do
    assertKnown t.unknown field
    timestampNanos value

def packetText (value : String) (field : String) : Except Error Unit :=
  require (value != "" && trimmed jsSpace value && (utf16 value).length ≤ maxIdentityLength) (fail (field ++ " is invalid"))

def packetTexts (values : List String) (field : String) : Except Error Unit :=
  match values with
  | [] => .ok ()
  | value :: rest => do
    packetText value field
    packetTexts rest field

def nonce (value : Bytes) (field : String) : Except Error Unit :=
  require (value.length == nonceSize) (fail (field ++ " must be exactly 32 bytes"))

def validateProof (version algorithm purpose : Int32) : Except Error Unit := do
  require (version == 1) (fail "nested protocol version must be exactly v1")
  require (algorithm == 1) (fail "proof algorithm must be ECDSA P-256 SHA-256")
  require (purpose == 1 || purpose == 2) (fail "handshake purpose is invalid")

/-- The first code unit of every character is printable ASCII. -/
def validToken (token : String) : Bool :=
  token != "" && (utf16 token).length ≤ maxSessionTokenSize &&
    token.toList.all fun c => (codeUnits c).head?.any fun code => 0x21 ≤ code && code ≤ 0x7e

def validateSessionForPurpose (purpose : Int32) (token : String) : Except Error Unit := do
  require (!(purpose == 1 && token != "")) (fail "initial authentication must not carry a token")
  require (!(purpose == 2 && !validToken token)) (fail "renewal requires a valid token")

def validateEnvelope (p : Packet) : Except Error Unit := do
  packetText p.traceId "trace ID"
  packetText p.senderId "sender ID"
  let _ ← validateTimestampObject p.createdAt "created_at"
  require (p.protocolVersion == protocolVersion) (fail "protocol version must be exactly v1")
  require (p.signature != []) (fail "signature is required")

def validateRequest (p : Packet) (r : ChallengeRequest) : Except Error Unit := do
  assertKnown r.unknown "challenge request"
  packetTexts [r.requestId,r.traceId,r.workerId,r.proofKeyId,r.audience,r.sdkVersion] "request identity"
  require (p.traceId == r.traceId && p.senderId == r.workerId)
    (fail "challenge request trace or sender binding is invalid")
  validateProof r.protocolVersion r.proofAlgorithm r.purpose
  nonce r.clientNonce "client nonce"
  require (p.authToken == "") (fail "challenge request must not carry a session token")

def maxLifetime : Int := 60000

def maxSkew : Int := 60000

def validateChallenge (p : Packet) (challenge : Option Challenge) : Except Error Challenge :=
  match challenge with
  | none => throw (fail "challenge is required")
  | some c => do
    assertKnown c.unknown "challenge"
    packetTexts [c.requestId,c.challengeId,c.traceId,c.workerId,c.agentId,c.tenantId,c.proofKeyId,c.serverKeyId,
      c.audience,c.sdkVersion] "challenge identity"
    require (p.traceId == c.traceId) (fail "challenge trace binding is invalid")
    validateProof c.protocolVersion c.proofAlgorithm c.purpose
    nonce c.clientNonce "client nonce"
    nonce c.serverNonce "server nonce"
    let issued ← validateTimestampObject c.issuedAt "challenge issued_at"
    let expires ← validateTimestampObject c.expiresAt "challenge expires_at"
    require (!(expires ≤ issued || expires - issued > maxLifetime * 1000000)) (fail "challenge lifetime is invalid")
    pure c

def validateChallengePacket (p : Packet) (c : Challenge) : Except Error Unit := do
  let _ ← validateChallenge p (some c)
  require (p.authToken == "") (fail "challenge must not carry a session token")

def validateCapability (h : Option Handshake) (c : Challenge) : Except Error Unit :=
  match h with
  | none => throw (fail "capability handshake is required")
  | some h => do
    assertKnown h.unknown "capability handshake"
    require (h.componentId == c.workerId && h.role == workerRole && h.sdkVersion == c.sdkVersion)
      (fail "capability identity does not match challenge")
    require (h.supportedVersions == [1]) (fail "capability must support exactly protocol v1")
    require (h.capabilities.all fun item => capabilityKey item.1 && item.2) (fail "capability entry is invalid")
    require (!(h.readyTopics.any (blank jsSpace)) && h.readyTopics.dedup.length == h.readyTopics.length)
      (fail "ready topic is empty or duplicated")

def validateAuthenticate (p : Packet) (a : Authenticate) : Except Error Unit := do
  assertKnown a.unknown "authenticate"
  let challenge ← validateChallenge p a.challenge
  require (p.senderId == challenge.workerId) (fail "authenticate sender binding is invalid")
  validateCapability a.capabilityHandshake challenge
  validateSessionForPurpose challenge.purpose p.authToken

def validateResult (p : Packet) (r : Result) : Except Error Unit := do
  assertKnown r.unknown "result"
  let _ ← validateChallenge p r.challenge
  let issued ← validateTimestampObject r.issuedAt "result issued_at"
  if r.accepted then do
    let expires ← validateTimestampObject r.tokenExpiresAt "token expires_at"
    require (validToken p.authToken && expires > issued && r.rejectionReason == 0)
      (fail "accepted result token metadata is invalid")
  else
    require (p.authToken == "" && r.tokenExpiresAt.isNone && 1 ≤ r.rejectionReason.toInt && r.rejectionReason.toInt ≤ 9)
      (fail "rejected result token metadata is invalid")

/-- The envelope has no other fields, and its payload is one of the four phases. -/
def validateWorkerTrustPacket (p : Packet) : Except Error Unit := do
  assertKnown p.unknown "envelope"
  require (p.signatureMetadata.isNone && p.identity.isNone && (p.payload.isNone || p.phase?.isSome))
    (fail "envelope contains unknown field")
  validateEnvelope p
  match p.payload with
  | some (.challengeRequest r) => validateRequest p r
  | some (.challenge c) => validateChallengePacket p c
  | some (.authenticate a) => validateAuthenticate p a
  | some (.result r) => validateResult p r
  | _ => throw (fail "must contain exactly one trust phase")

/-- The reader of protobufjs: each operation takes a position and gives the next one. -/
structure Reader where
  uint32 : Bytes → Nat → Option (Nat × Nat)
  skipType : Nat → Bytes → Nat → Option Nat

/-- What the reader throws becomes one error. -/
def malformed {α : Type} : Option α → Except Error α
  | some value => .ok value
  | none => .error (fail "malformed protobuf")

def expectedWire (field : FieldDesc Name) : Nat :=
  match field.label with
  | .map _ => 2
  | _ => field.kind.wireType

def rejectDuplicate (field : FieldDesc Name) (seen : List Nat) (seenOneofs : List String) : Except Error Unit := do
  require (match field.label with
    | .singular => !seen.contains field.number
    | _ => true) (fail "duplicate singular field")
  require (field.oneof.toList.all (!seenOneofs.contains ·)) (fail "duplicate oneof")

/-- The wire type is the expected one, or that of a packed list. -/
def wireMatches (field : FieldDesc Name) (wire : Nat) : Bool :=
  wire == expectedWire field || match field.label with
    | .repeated packed => packed && wire == 2 && expectedWire field != 2
    | _ => false

section

variable (reader : Reader) (data : Bytes)

def scanMapEntry : Nat → List Nat → Nat → Nat → Except Error Nat
  | 0,_,_,_ => .error (fail "malformed protobuf")
  | fuel + 1,seen,pos,last => do
    if pos < last then do
      let (tag,pos) ← malformed (reader.uint32 data pos)
      require (!((tag / 8 != 1 && tag / 8 != 2) || seen.contains (tag / 8))) (fail "unknown or duplicate map field")
      let pos ← malformed (reader.skipType (tag % 8) data pos)
      scanMapEntry fuel (tag / 8 :: seen) pos last
    else do
      require (pos == last) (fail "invalid map entry")
      pure pos

mutual

/-- Each round and each level takes at least one byte. -/
def scanMessage : Nat → Name → List Nat → List String → Nat → Nat → Except Error Nat
  | 0,_,_,_,_,_ => .error (fail "malformed protobuf")
  | fuel + 1,name,seen,seenOneofs,pos,last => do
    if pos < last then do
      let (tag,pos) ← malformed (reader.uint32 data pos)
      match schema.field name (tag / 8) with
      | none => throw (fail "unknown field")
      | some field => do
        rejectDuplicate field seen seenOneofs
        let pos ← scanField fuel field (tag % 8) pos last
        scanMessage fuel name (field.number :: seen) (field.oneof.toList ++ seenOneofs) pos last
    else do
      require (pos == last) (fail "invalid length")
      pure pos

def scanField : Nat → FieldDesc Name → Nat → Nat → Nat → Except Error Nat
  | 0,_,_,_,_ => .error (fail "malformed protobuf")
  | fuel + 1,field,wire,pos,parentEnd => do
    require (wireMatches field wire) (fail "invalid wire type")
    if wire ≠ 2 then malformed (reader.skipType wire data pos)
    else do
      let (length,pos) ← malformed (reader.uint32 data pos)
      require (pos + length ≤ parentEnd) (fail "invalid length")
      match field.label,field.kind with
      | .map _,_ => scanMapEntry reader data fuel [] pos (pos + length)
      | _,.message name => scanMessage fuel name [] [] pos (pos + length)
      | _,.scalar _ => pure (pos + length)

end

def rejectUnknownWire : Except Error Unit := do
  let pos ← scanMessage reader data (2 * data.length + 2) .busPacket [] [] 0 data.length
  require (pos == data.length) (fail "trailing bytes")

end

def marshalWorkerTrustPacket (p : Packet) : Except Error Bytes := do
  validateWorkerTrustPacket p
  let encoded := encodeDeterministic .busPacket (Record.packet p)
  require (encoded.length ≤ maxPacketSize) (fail "size exceeds 65536 bytes")
  pure encoded

structure Protobufjs where
  reader : Reader
  decode : Bytes → Option Packet

/-- The wire is scanned against the schema, decoded and encoded again. -/
def unmarshalWorkerTrustPacket (pb : Protobufjs) (data : Bytes) : Except Error Packet := do
  require (data.length ≠ 0 && data.length ≤ maxPacketSize) (fail "size must be 1..65536 bytes")
  rejectUnknownWire pb.reader data
  match pb.decode data with
  | none => throw (fail "cannot be decoded")
  | some p => do
    validateWorkerTrustPacket p
    require (encodeDeterministic .busPacket (Record.packet p) == data) (fail "wire encoding is not canonical")
    pure p

/-! ### What validation accepts -/

/-- A timestamp that is there, in range and without unknown properties. -/
def IsTime (value : Option Timestamp) (t : Timestamp) : Prop := value = some t ∧ t.unknown = [] ∧ t.inRange = true

def isPacketText (value : String) : Bool :=
  value != "" && trimmed jsSpace value && (utf16 value).length ≤ maxIdentityLength

def challengeTexts (c : Challenge) : List String :=
  [c.requestId,c.challengeId,c.traceId,c.workerId,c.agentId,c.tenantId,c.proofKeyId,c.serverKeyId,c.audience,c.sdkVersion]

def requestTexts (r : ChallengeRequest) : List String :=
  [r.requestId,r.traceId,r.workerId,r.proofKeyId,r.audience,r.sdkVersion]

structure ValidChallenge (p : Packet) (c : Challenge) : Prop where
  unknown : c.unknown = []
  texts : ∀ s ∈ challengeTexts c, isPacketText s = true
  trace : p.traceId = c.traceId
  version : c.protocolVersion = 1
  algorithm : c.proofAlgorithm = 1
  purpose : c.purpose = 1 ∨ c.purpose = 2
  clientNonce : c.clientNonce.length = nonceSize
  serverNonce : c.serverNonce.length = nonceSize
  times : ∃ issued expires, IsTime c.issuedAt issued ∧ IsTime c.expiresAt expires ∧
    issued.inNanos < expires.inNanos ∧ expires.inNanos - issued.inNanos ≤ maxLifetime * 1000000

structure ValidRequest (p : Packet) (r : ChallengeRequest) : Prop where
  unknown : r.unknown = []
  texts : ∀ s ∈ requestTexts r, isPacketText s = true
  trace : p.traceId = r.traceId
  sender : p.senderId = r.workerId
  version : r.protocolVersion = 1
  algorithm : r.proofAlgorithm = 1
  purpose : r.purpose = 1 ∨ r.purpose = 2
  clientNonce : r.clientNonce.length = nonceSize
  token : p.authToken = ""

structure ValidCapability (h : Handshake) (c : Challenge) : Prop where
  unknown : h.unknown = []
  component : h.componentId = c.workerId
  role : h.role = workerRole
  sdk : h.sdkVersion = c.sdkVersion
  versions : h.supportedVersions = [1]
  capabilities : ∀ item ∈ h.capabilities, capabilityKey item.1 = true ∧ item.2 = true
  topics : ∀ topic ∈ h.readyTopics, blank jsSpace topic = false
  distinct : h.readyTopics.Nodup

def ValidSession (purpose : Int32) (token : String) : Prop :=
  (purpose = 1 → token = "") ∧ (purpose = 2 → validToken token = true)

/-- The token metadata of a result. -/
def ValidOutcome (p : Packet) (r : Result) (issued : Timestamp) : Prop :=
  if r.accepted then
    validToken p.authToken = true ∧ r.rejectionReason = 0 ∧
      ∃ expires, IsTime r.tokenExpiresAt expires ∧ issued.inNanos < expires.inNanos
  else p.authToken = "" ∧ r.tokenExpiresAt = none ∧ 1 ≤ r.rejectionReason.toInt ∧ r.rejectionReason.toInt ≤ 9

def ValidPayload (p : Packet) : Option Payload → Prop
  | some (.challengeRequest r) => ValidRequest p r
  | some (.challenge c) => ValidChallenge p c ∧ p.authToken = ""
  | some (.authenticate a) => ∃ c h, a = ⟨some c,some h,[]⟩ ∧ ValidChallenge p c ∧ p.senderId = c.workerId ∧
      ValidCapability h c ∧ ValidSession c.purpose p.authToken
  | some (.result r) => r.unknown = [] ∧ ∃ c issued, r.challenge = some c ∧ ValidChallenge p c ∧
      IsTime r.issuedAt issued ∧ ValidOutcome p r issued
  | _ => False

structure ValidPacket (p : Packet) : Prop where
  unknown : p.unknown = []
  metadata : p.signatureMetadata = none
  identity : p.identity = none
  trace : isPacketText p.traceId = true
  sender : isPacketText p.senderId = true
  created : ∃ t, IsTime p.createdAt t
  version : p.protocolVersion = 1
  signature : p.signature ≠ []
  payload : ValidPayload p p.payload

variable {u : Unit} {field : String} {p : Packet}

@[simp] theorem assertKnown_eq_ok {unknown : Bytes} {label : String} :
    assertKnown unknown label = .ok u ↔ unknown = [] := by
  simp [assertKnown]

@[simp] theorem packetText_eq_ok {value : String} :
    packetText value field = .ok u ↔ isPacketText value = true := by
  simp [packetText,isPacketText]

@[simp] theorem packetTexts_eq_ok {values : List String} :
    packetTexts values field = .ok u ↔ ∀ s ∈ values, isPacketText s = true := by
  induction values with
  | nil => simp [packetTexts]
  | cons value rest ih => simp [packetTexts,ih]

theorem timestampNanos_eq_ok {value : Option Timestamp} {n : Int} :
    timestampNanos value = .ok n ↔ ∃ t, value = some t ∧ t.inRange = true ∧ t.inNanos = n := by
  cases value with
  | none => simp [timestampNanos]
  | some t =>
    have range : t.inRange = true ↔ (0 ≤ t.nanos.toInt ∧ t.nanos.toInt < 1000000000) ∧
        minProtoSeconds ≤ t.seconds.toInt ∧ t.seconds.toInt ≤ maxProtoSeconds := by
      simp only [Timestamp.inRange,minProtoSeconds,maxProtoSeconds,Bool.and_eq_true,decide_eq_true_eq]
      omega
    simp [timestampNanos,range,and_assoc]

theorem validateTimestampObject_eq_ok {value : Option Timestamp} {n : Int} :
    validateTimestampObject value field = .ok n ↔ ∃ t, IsTime value t ∧ t.inNanos = n := by
  cases value with
  | none => simp [validateTimestampObject,IsTime]
  | some t => simp [validateTimestampObject,IsTime,timestampNanos_eq_ok,and_assoc]

@[simp] theorem nonce_eq_ok {value : Bytes} : nonce value field = .ok u ↔ value.length = nonceSize := by
  simp [nonce]

@[simp] theorem validateProof_eq_ok {version algorithm purpose : Int32} :
    validateProof version algorithm purpose = .ok u ↔ version = 1 ∧ algorithm = 1 ∧ (purpose = 1 ∨ purpose = 2) := by
  simp [validateProof]

theorem validateChallenge_eq_ok {value : Option Challenge} {c : Challenge} :
    validateChallenge p value = .ok c ↔ value = some c ∧ ValidChallenge p c := by
  cases value with
  | none => simp [validateChallenge]
  | some d =>
    simp only [validateChallenge,bind_eq_ok,require_eq_ok,pure_eq_ok,assertKnown_eq_ok,packetTexts_eq_ok,
      validateProof_eq_ok,nonce_eq_ok,validateTimestampObject_eq_ok,beq_iff_eq,exists_const,Option.some.injEq,
      Bool.not_eq_true',Bool.or_eq_false_iff,decide_eq_false_iff_not,not_le]
    constructor
    · rintro ⟨unknown,texts,trace,⟨version,algorithm,purpose⟩,client,server,_,⟨issued,isIssued,rfl⟩,_,
        ⟨expires,isExpires,rfl⟩,⟨later,short⟩,rfl⟩
      exact ⟨rfl,⟨unknown,texts,trace,version,algorithm,purpose,client,server,issued,expires,isIssued,isExpires,later,
        by simpa using short⟩⟩
    · rintro ⟨rfl,valid⟩
      obtain ⟨issued,expires,isIssued,isExpires,later,short⟩ := valid.times
      exact ⟨valid.unknown,valid.texts,valid.trace,⟨valid.version,valid.algorithm,valid.purpose⟩,valid.clientNonce,
        valid.serverNonce,_,⟨issued,isIssued,rfl⟩,_,⟨expires,isExpires,rfl⟩,⟨later,by simpa using short⟩,rfl⟩

theorem validateRequest_eq_ok {r : ChallengeRequest} :
    validateRequest p r = .ok u ↔ ValidRequest p r := by
  simp only [validateRequest,bind_eq_ok,require_eq_ok,assertKnown_eq_ok,packetTexts_eq_ok,validateProof_eq_ok,nonce_eq_ok,
    beq_iff_eq,exists_const,Bool.and_eq_true]
  constructor
  · rintro ⟨unknown,texts,⟨trace,sender⟩,⟨version,algorithm,purpose⟩,client,token⟩
    exact ⟨unknown,texts,trace,sender,version,algorithm,purpose,client,token⟩
  · intro valid
    exact ⟨valid.unknown,valid.texts,⟨valid.trace,valid.sender⟩,⟨valid.version,valid.algorithm,valid.purpose⟩,
      valid.clientNonce,valid.token⟩

theorem validateCapability_eq_ok {value : Option Handshake} {c : Challenge} :
    validateCapability value c = .ok u ↔ ∃ h, value = some h ∧ ValidCapability h c := by
  cases value with
  | none => simp [validateCapability]
  | some h =>
    have nodup : h.readyTopics.dedup.length = h.readyTopics.length ↔ h.readyTopics.Nodup := by
      rw [← List.dedup_eq_self]
      exact ⟨(List.dedup_sublist _).eq_of_length,congrArg List.length⟩
    simp only [validateCapability,bind_eq_ok,require_eq_ok,assertKnown_eq_ok,beq_iff_eq,exists_const,Bool.and_eq_true,
      Bool.not_eq_true',List.any_eq_false,List.all_eq_true,Bool.not_eq_true,Option.some.injEq,exists_eq_left',nodup]
    constructor
    · rintro ⟨unknown,⟨⟨component,role⟩,sdk⟩,versions,capabilities,topics,distinct⟩
      exact ⟨unknown,component,role,sdk,versions,capabilities,topics,distinct⟩
    · intro valid
      exact ⟨valid.unknown,⟨⟨valid.component,valid.role⟩,valid.sdk⟩,valid.versions,valid.capabilities,valid.topics,
        valid.distinct⟩

theorem validateSessionForPurpose_eq_ok {purpose : Int32} {token : String} :
    validateSessionForPurpose purpose token = .ok u ↔ ValidSession purpose token := by
  simp [validateSessionForPurpose,ValidSession,imp_iff_not_or]

theorem validateAuthenticate_eq_ok {a : Authenticate} :
    validateAuthenticate p a = .ok u ↔ ∃ c h, a = ⟨some c,some h,[]⟩ ∧ ValidChallenge p c ∧ p.senderId = c.workerId ∧
      ValidCapability h c ∧ ValidSession c.purpose p.authToken := by
  obtain ⟨challenge,capability,unknown⟩ := a
  simp only [validateAuthenticate,bind_eq_ok,require_eq_ok,assertKnown_eq_ok,validateChallenge_eq_ok,beq_iff_eq,exists_const,
    validateCapability_eq_ok,validateSessionForPurpose_eq_ok,Authenticate.mk.injEq]
  constructor
  · rintro ⟨known,c,⟨rfl,valid⟩,sender,⟨h,rfl,capable⟩,session⟩
    exact ⟨c,h,⟨rfl,rfl,known⟩,valid,sender,capable,session⟩
  · rintro ⟨c,h,⟨rfl,rfl,known⟩,valid,sender,capable,session⟩
    exact ⟨known,c,⟨rfl,valid⟩,sender,⟨h,rfl,capable⟩,session⟩

theorem validateResult_eq_ok {r : Result} :
    validateResult p r = .ok u ↔ r.unknown = [] ∧ ∃ c issued, r.challenge = some c ∧ ValidChallenge p c ∧
      IsTime r.issuedAt issued ∧ ValidOutcome p r issued := by
  simp only [validateResult,bind_eq_ok,assertKnown_eq_ok,validateChallenge_eq_ok,validateTimestampObject_eq_ok,exists_const,
    ValidOutcome]
  constructor
  · rintro ⟨known,c,⟨carries,valid⟩,_,⟨issued,isIssued,rfl⟩,outcome⟩
    refine ⟨known,c,issued,carries,valid,isIssued,?_⟩
    cases accepted : r.accepted with
    | true =>
      simp only [accepted,if_true,bind_eq_ok,validateTimestampObject_eq_ok,require_eq_ok,Bool.and_eq_true,
        decide_eq_true_eq,beq_iff_eq] at outcome ⊢
      obtain ⟨_,⟨expires,isExpires,rfl⟩,⟨token,later⟩,reason⟩ := outcome
      exact ⟨token,reason,expires,isExpires,later⟩
    | false => simpa [accepted,and_assoc] using outcome
  · rintro ⟨known,c,issued,carries,valid,isIssued,outcome⟩
    refine ⟨known,c,⟨carries,valid⟩,_,⟨issued,isIssued,rfl⟩,?_⟩
    cases accepted : r.accepted with
    | true =>
      simp only [accepted,if_true,bind_eq_ok,validateTimestampObject_eq_ok,require_eq_ok,Bool.and_eq_true,
        decide_eq_true_eq,beq_iff_eq] at outcome ⊢
      obtain ⟨token,reason,expires,isExpires,later⟩ := outcome
      exact ⟨_,⟨expires,isExpires,rfl⟩,⟨token,later⟩,reason⟩
    | false => simpa [accepted,and_assoc] using outcome

private theorem payload_eq_ok : (match p.payload with
    | some (.challengeRequest r) => validateRequest p r
    | some (.challenge c) => validateChallengePacket p c
    | some (.authenticate a) => validateAuthenticate p a
    | some (.result r) => validateResult p r
    | _ => throw (fail "must contain exactly one trust phase")) = .ok u ↔ ValidPayload p p.payload := by
  cases p.payload with
  | none => simp [ValidPayload]
  | some payload =>
    cases payload with
    | challengeRequest r => exact validateRequest_eq_ok
    | challenge c => simp [ValidPayload,validateChallengePacket,validateChallenge_eq_ok]
    | authenticate a => exact validateAuthenticate_eq_ok
    | result r => exact validateResult_eq_ok
    | other number m => simp [ValidPayload]

theorem ValidPayload.phase (valid : ValidPayload p p.payload) : p.phase?.isSome = true := by
  unfold Packet.phase?
  cases carried : p.payload with
  | none => simp [carried,ValidPayload] at valid
  | some payload => cases payload <;> simp_all [ValidPayload]

theorem validateWorkerTrustPacket_eq_ok : validateWorkerTrustPacket p = .ok u ↔ ValidPacket p := by
  simp only [validateWorkerTrustPacket,validateEnvelope,bind_eq_ok,assertKnown_eq_ok,require_eq_ok,packetText_eq_ok,
    validateTimestampObject_eq_ok,payload_eq_ok,exists_const,Bool.and_eq_true,Option.isNone_iff_eq_none,beq_iff_eq,
    bne_iff_ne]
  constructor
  · rintro ⟨unknown,⟨⟨metadata,identity⟩,-⟩,⟨trace,sender,_,⟨t,created,-⟩,version,signature⟩,payload⟩
    exact ⟨unknown,metadata,identity,trace,sender,⟨t,created⟩,version,signature,payload⟩
  · intro valid
    obtain ⟨t,created⟩ := valid.created
    exact ⟨valid.unknown,⟨⟨valid.metadata,valid.identity⟩,by simp [valid.payload.phase]⟩,
      ⟨valid.trace,valid.sender,_,⟨t,created,rfl⟩,valid.version,valid.signature⟩,valid.payload⟩

end Cap.Trust.Node
