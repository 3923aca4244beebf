import Mathlib.Data.List.Sort
import Cap.Records

/-!
The packets of the worker trust handshake, after `handshake.proto` and `buspacket.proto`. The
bytes of a packet are those of its fields; `unknown` are the bytes of fields that the schema does
not know.
-/
namespace Cap.Trust
open Cap.Text Cap.Wire Cap.Proto Cap.Records

structure Timestamp where
  seconds : Int64
  nanos : Int32
  unknown : Bytes
deriving DecidableEq

structure ChallengeRequest where
  requestId : String
  traceId : String
  workerId : String
  proofKeyId : String
  proofAlgorithm : Int32
  audience : String
  purpose : Int32
  clientNonce : Bytes
  protocolVersion : Int32
  sdkVersion : String
  unknown : Bytes
deriving DecidableEq

structure Challenge where
  requestId : String
  challengeId : String
  traceId : String
  workerId : String
  agentId : String
  tenantId : String
  proofKeyId : String
  proofAlgorithm : Int32
  serverKeyId : String
  audience : String
  purpose : Int32
  clientNonce : Bytes
  serverNonce : Bytes
  protocolVersion : Int32
  sdkVersion : String
  issuedAt : Option Timestamp
  expiresAt : Option Timestamp
  unknown : Bytes
deriving DecidableEq

/-- The capabilities are the entries of a map, in some order of iteration. -/
structure Handshake where
  componentId : String
  role : Int32
  supportedVersions : List Int32
  capabilities : List (String × Bool)
  distinct : (capabilities.map Prod.fst).Nodup
  sdkVersion : String
  readyTopics : List String
  agentName : String
  unknown : Bytes
deriving DecidableEq

structure Authenticate where
  challenge : Option Challenge
  capabilityHandshake : Option Handshake
  unknown : Bytes
deriving DecidableEq

structure Result where
  challenge : Option Challenge
  accepted : Bool
  rejectionReason : Int32
  tokenExpiresAt : Option Timestamp
  issuedAt : Option Timestamp
  unknown : Bytes
deriving DecidableEq

/-- The oneof of the envelope. Payloads outside the handshake keep their field number. -/
inductive Payload where
  | challengeRequest (request : ChallengeRequest)
  | challenge (challenge : Challenge)
  | authenticate (authenticate : Authenticate)
  | result (result : Result)
  | other (number : Nat) (message : Msg)
deriving DecidableEq

structure Packet where
  traceId : String
  senderId : String
  createdAt : Option Timestamp
  protocolVersion : Int32
  signatureMetadata : Option Msg
  identity : Option Msg
  payload : Option Payload
  signature : Bytes
  authToken : String
  unknown : Bytes
deriving DecidableEq

def Packet.unsigned (packet : Packet) : Packet := { packet with signature := [] }

namespace Timestamp

def inNanos (t : Timestamp) : Int := t.seconds.toInt * 1000000000 + t.nanos.toInt

def inRange (t : Timestamp) : Bool :=
  -62135596800 ≤ t.seconds.toInt && t.seconds.toInt ≤ 253402300799 && 0 ≤ t.nanos.toInt && t.nanos.toInt ≤ 999999999

/-- The timestamp of an instant, as `timestamppb.New`, `timestampFromDate` and `FromDatetime` build it. -/
def ofNanos (instant : Int) : Timestamp :=
  ⟨Int64.ofInt (instant / 1000000000),Int32.ofInt (instant % 1000000000),[]⟩

def fields (t : Timestamp) : Fields := entry 1 (int64 t.seconds) ++ entry 2 (int32 t.nanos)

def message (t : Timestamp) : Msg := Records.message t.fields t.unknown

end Timestamp

/-! ### Fields in ascending order -/

namespace ChallengeRequest

def fields (r : ChallengeRequest) : Fields :=
  entry 1 (text r.requestId) ++ entry 2 (text r.traceId) ++ entry 3 (text r.workerId) ++ entry 4 (text r.proofKeyId) ++
  entry 5 (int32 r.proofAlgorithm) ++ entry 6 (text r.audience) ++ entry 7 (int32 r.purpose) ++
  entry 8 (data r.clientNonce) ++ entry 9 (int32 r.protocolVersion) ++ entry 10 (text r.sdkVersion)

def message (r : ChallengeRequest) : Msg := Records.message r.fields r.unknown

end ChallengeRequest

namespace Challenge

def fields (c : Challenge) : Fields :=
  entry 1 (text c.requestId) ++ entry 2 (text c.challengeId) ++ entry 3 (text c.traceId) ++ entry 4 (text c.workerId) ++
  entry 5 (text c.agentId) ++ entry 6 (text c.tenantId) ++ entry 7 (text c.proofKeyId) ++
  entry 8 (int32 c.proofAlgorithm) ++ entry 9 (text c.serverKeyId) ++ entry 10 (text c.audience) ++
  entry 11 (int32 c.purpose) ++ entry 12 (data c.clientNonce) ++ entry 13 (data c.serverNonce) ++
  entry 14 (int32 c.protocolVersion) ++ entry 15 (text c.sdkVersion) ++
  entry 16 (sub (c.issuedAt.map Timestamp.message)) ++ entry 17 (sub (c.expiresAt.map Timestamp.message))

def message (c : Challenge) : Msg := Records.message c.fields c.unknown

end Challenge

/-- An entry of a map on the wire; both of its fields are always written. -/
def mapEntry (item : String × Bool) : Nat × Val :=
  (4,.message (.field 1 (.text item.1) (.field 2 (.varint item.2.toNat) (.done []))))

def packed (ns : List Int32) : Option Val :=
  if ns = [] then none else some (.packed (ns.map fun n => bits n.toInt))

namespace Handshake

/-- The fields, with the entries of the map in the order given. -/
def fields (items : List (String × Bool)) (h : Handshake) : Fields :=
  entry 1 (text h.componentId) ++ entry 2 (int32 h.role) ++ entry 3 (packed h.supportedVersions) ++
  items.map mapEntry ++ entry 5 (text h.sdkVersion) ++ h.readyTopics.map (fun topic => (6,.text topic)) ++
  entry 7 (text h.agentName)

/-- Keys compared byte by byte. -/
def bytewise (a b : String × Bool) : Prop := lexLe ((utf8 a.1).map UInt8.toNat) ((utf8 b.1).map UInt8.toNat) = true

instance : DecidableRel bytewise := fun _ _ => inferInstanceAs (Decidable (lexLe _ _ = true))

def sortedCapabilities (h : Handshake) : List (String × Bool) := h.capabilities.insertionSort bytewise

def message (h : Handshake) : Msg := Records.message (h.fields h.sortedCapabilities) h.unknown

end Handshake

namespace Authenticate

def fields (a : Authenticate) : Fields :=
  entry 1 (sub (a.challenge.map Challenge.message)) ++ entry 2 (sub (a.capabilityHandshake.map Handshake.message))

def message (a : Authenticate) : Msg := Records.message a.fields a.unknown

end Authenticate

namespace Result

def fields (r : Result) : Fields :=
  entry 1 (sub (r.challenge.map Challenge.message)) ++ entry 2 (flag r.accepted) ++ entry 3 (int32 r.rejectionReason) ++
  entry 4 (sub (r.tokenExpiresAt.map Timestamp.message)) ++ entry 5 (sub (r.issuedAt.map Timestamp.message))

def message (r : Result) : Msg := Records.message r.fields r.unknown

end Result

namespace Payload

def number : Payload → Nat
  | .challengeRequest _ => 19
  | .challenge _ => 20
  | .authenticate _ => 21
  | .result _ => 22
  | .other number _ => number

def message : Payload → Msg
  | .challengeRequest r => r.message
  | .challenge c => c.message
  | .authenticate a => a.message
  | .result r => r.message
  | .other _ m => m

end Payload

inductive Phase where
  | challengeRequest | challenge | authenticate | result
deriving DecidableEq

/-- The domain that separates the transcripts of the phases. -/
def Phase.domain : Phase → String
  | .challengeRequest => "CAP-WORKER-HANDSHAKE-CHALLENGE-REQUEST-V1"
  | .challenge => "CAP-WORKER-HANDSHAKE-CHALLENGE-V1"
  | .authenticate => "CAP-WORKER-HANDSHAKE-AUTHENTICATE-V1"
  | .result => "CAP-WORKER-HANDSHAKE-RESULT-V1"

/-- The phase is read off the payload. -/
def Packet.phase? (packet : Packet) : Option Phase :=
  match packet.payload with
  | some (.challengeRequest _) => some .challengeRequest
  | some (.challenge _) => some .challenge
  | some (.authenticate _) => some .authenticate
  | some (.result _) => some .result
  | _ => none

/-- The challenge that a packet of the phases with a signed challenge carries. -/
def Packet.challenge? (packet : Packet) : Option Challenge :=
  match packet.payload with
  | some (.challenge challenge) => some challenge
  | some (.authenticate authenticate) => authenticate.challenge
  | some (.result result) => result.challenge
  | _ => none

/-- The fields of the envelope beside the payload, in ascending order. -/
def Packet.envelope (packet : Packet) : Fields :=
  entry 1 (text packet.traceId) ++ entry 2 (text packet.senderId) ++
  entry 3 (sub (packet.createdAt.map Timestamp.message)) ++ entry 4 (int32 packet.protocolVersion) ++
  entry 5 (sub packet.signatureMetadata) ++ entry 6 (sub packet.identity) ++ entry 14 (data packet.signature) ++
  entry 18 (text packet.authToken)

def Payload.fields (payload : Payload) : Fields := [(payload.number,.message payload.message)]

/-- The payload among the fields of the envelope, all in ascending order. -/
def ascending (envelope payload : Fields) : Fields :=
  match payload with
  | [] => envelope
  | member :: _ => envelope.filter (·.1 < member.1) ++ payload ++ envelope.filter (member.1 < ·.1)

def protocolVersion : Int32 := 1
def nonceSize : Nat := 32
def maxPacketSize : Nat := 64 * 1024
def maxIdentityLength : Nat := 256
def maxSessionTokenSize : Nat := 16 * 1024
def handshakeAudience : String := "cordum-scheduler"

def p256Algorithm : Int32 := 1

def issuePurpose : Int32 := 1

def renewPurpose : Int32 := 2

def workerRole : Int32 := 3

def validPurpose (purpose : Int32) : Bool := purpose == issuePurpose || purpose == renewPurpose

/-- The worker's own identity and key and those of the scheduler it trusts. -/
structure Config (Key Pub : Type) where
  workerId : String
  expectedAgentId : String
  tenantId : String
  audience : String
  proofKeyId : String
  proofPrivateKey : Key
  expectedSchedulerId : String
  schedulerPublicKeys : List (String × Pub)
  sdkVersion : String

/-- What makes a request unique; the instant is in the unit of the SDK's clock. -/
structure RequestOptions where
  requestId : String
  traceId : String
  purpose : Int32
  clientNonce : Bytes
  createdAt : Int

/-- An installed session; its times are in the unit of the SDK's clock. -/
structure Session where
  token : String
  issuedAt : Int
  expiresAt : Int
deriving DecidableEq

/-- A challenge that passed verification, with the request it answers. -/
structure Verified where
  request : Packet
  response : Packet

/-- The keys of capabilities, as `^[a-z][a-z0-9_.-]{0,63}$`. -/
def capabilityKey (key : String) : Bool :=
  match key.toList with
  | [] => false
  | first :: rest =>
    ('a' ≤ first && first ≤ 'z') && rest.length ≤ 63 &&
      rest.all fun c => ('a' ≤ c && c ≤ 'z') || ('0' ≤ c && c ≤ '9') || c == '_' || c == '.' || c == '-'

end Cap.Trust
