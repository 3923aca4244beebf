import Cap.TrustNode
import Cap.ProductionSigning

/-!
The Node SDK's side of the trust handshake (`trust-signing.ts`, `trust-signing-crypto.ts`,
`worker-trust-flow.ts`, `worker-trust-contract.ts`, `worker-trust-time.ts`). Instants are
milliseconds since the epoch.
-/
namespace Cap.Trust.Node
open Cap.Text Cap.Wire Cap.Proto Cap.Records Cap.Checks Cap.Packets
open Cap.ProductionSigning (Crypto)

/-! ### Transcripts and signatures -/

/-- The challenge request or the challenge of the packet: its algorithm and the key that signs. -/
def proofRecord (p : Packet) : Except Error (Int32 × String) :=
  match p.payload with
  | some (.challengeRequest r) => pure (r.proofAlgorithm,r.proofKeyId)
  | some (.challenge c) => pure (c.proofAlgorithm,c.serverKeyId)
  | some (.authenticate ⟨some c,_,_⟩) => pure (c.proofAlgorithm,c.proofKeyId)
  | some (.result ⟨some c,_,_,_,_,_⟩) => pure (c.proofAlgorithm,c.serverKeyId)
  | some (.other _ _) => throw (.signing "a worker trust payload is required")
  | none => throw (.signing "exactly one worker trust payload is required")
  | _ => throw (.signing "worker trust challenge is required")

def workerTrustPhase (p : Packet) : Except Error Phase :=
  match p.phase? with
  | some phase => pure phase
  | none => throw (.signing "a worker trust payload is required")

def workerTrustKeyId (p : Packet) : Except Error String := do
  let (_,keyId) ← proofRecord p
  require (keyId != "") (.signing "worker trust key id is required")
  pure keyId

def payloadType : Phase → Name
  | .challengeRequest => .challengeRequest
  | .challenge => .challenge
  | .authenticate => .authenticate
  | .result => .result

/-- A message as `writeMessage` writes it, also when nothing of it is left. -/
def writeMessage (number : Nat) (name : Name) (object : Option Msg) : Fields :=
  entry number (sub (object.map (stripDefaults name)))

/-- The packet without its signature, given how a message is written. -/
def encodeWorkerTrustUnsigned (write : Nat → Name → Option Msg → Fields) (p : Packet) : Except Error Bytes := do
  validateWorkerTrustPacket p
  let (algorithm,_) ← proofRecord p
  require (algorithm == 1) (.signing "worker trust proof algorithm must be ECDSA_P256_SHA256")
  let phase ← workerTrustPhase p
  let payload := p.payload.toList.flatMap fun member =>
    write member.number (payloadType phase) (some (Record.payload member))
  pure (encodeFields (wire (entry 1 (text p.traceId) ++ entry 2 (text p.senderId) ++
    write 3 .timestamp (p.createdAt.map Record.timestamp) ++ entry 4 (int32 p.protocolVersion) ++
    entry 18 (text p.authToken) ++ payload)))

def writtenTranscript (write : Nat → Name → Option Msg → Fields) (p : Packet) : Except Error Bytes := do
  let phase ← workerTrustPhase p
  let unsigned ← encodeWorkerTrustUnsigned write p
  pure (utf8 phase.domain ++ 0 :: unsigned)

def workerTrustTranscript (p : Packet) : Except Error Bytes := writtenTranscript writeMessage p

/-- The end of the integer that starts at the offset. -/
def derIntegerEnd (signature : Bytes) (offset : Nat) : Option Nat :=
  match signature.drop offset with
  | tag :: length :: first :: rest =>
    let stop := offset + 2 + length.toNat
    if tag = 2 ∧ 1 ≤ length.toNat ∧ length.toNat ≤ 33 ∧ stop ≤ signature.length ∧ first < 0x80 ∧
        ¬ (length.toNat > 1 ∧ first = 0 ∧ rest.head?.any (· < 0x80)) then some stop
    else none
  | _ => none

def isStrictDerSignature (signature : Bytes) : Bool :=
  8 ≤ signature.length && signature.length ≤ 72 && signature.head? == some 0x30 &&
    (signature.drop 1).head?.any (·.toNat == signature.length - 2) &&
    (derIntegerEnd signature 2).any fun rEnd => derIntegerEnd signature rEnd == some signature.length

section

variable {Key Pub : Type} (crypto : Crypto Key Pub)

def signWorkerTrustPacket (p : Packet) (privateKeys : List (String × Key)) (randomness : Nat) : Except Error Packet := do
  let candidate := { p with signature := [1] }
  validateWorkerTrustPacket candidate
  let keyId ← workerTrustKeyId candidate
  match privateKeys.lookup keyId with
  | none => throw (.signing "unknown worker trust key id")
  | some key => do
    require (crypto.p256 (crypto.publicKey key)) (.signing "worker trust private key must use P-256")
    let transcript ← workerTrustTranscript candidate
    pure { p with signature := crypto.sign key (crypto.sha256 transcript) randomness }

def verifyWorkerTrustPacket (p : Packet) (publicKeys : List (String × Pub)) : Except Error Bool := do
  validateWorkerTrustPacket p
  require (p.signature != []) (.signing "worker trust signature is required")
  if !isStrictDerSignature p.signature then pure false
  else do
    let keyId ← workerTrustKeyId p
    match publicKeys.lookup keyId with
    | none => throw (.signing "unknown worker trust key id")
    | some key => do
      require (crypto.p256 key) (.signing "worker trust public key must use P-256")
      match workerTrustTranscript p with
      | .error _ => pure false
      | .ok transcript => pure (crypto.verify key (crypto.sha256 transcript) p.signature)

/-! ### Configuration and the worker's packets -/

def requireIdentity (value : String) (field : String) : Except Error Unit :=
  require (value != "" && trimmed jsSpace value && (utf16 value).length ≤ maxIdentityLength)
    (.config (field ++ " is invalid"))

def requireIdentities (values : List String) (field : String) : Except Error Unit :=
  match values with
  | [] => .ok ()
  | value :: rest => do
    requireIdentity value field
    requireIdentities rest field

def validateWorkerTrustConfig (config : Config Key Pub) : Except Error Unit := do
  requireIdentities [config.workerId,config.expectedAgentId,config.tenantId,config.proofKeyId,config.expectedSchedulerId,
    config.sdkVersion] "worker trust identity"
  require (config.audience == handshakeAudience) (.config "worker trust audience is invalid")
  require (crypto.p256 (crypto.publicKey config.proofPrivateKey)) (.config "worker trust key must be private P-256")
  require (!config.schedulerPublicKeys.isEmpty) (.config "scheduler trust keys are required")
  requireIdentities (config.schedulerPublicKeys.map (·.1)) "scheduler key ID"
  require (config.schedulerPublicKeys.all fun item => crypto.p256 item.2) (.config "worker trust key must be public P-256")

/-- The timestamp of a whole number of milliseconds. -/
def timestampFromDate (milliseconds : Int) : Timestamp := Timestamp.ofNanos (milliseconds * 1000000)

def validateOptions (options : RequestOptions) : Except Error Unit := do
  require (options.requestId != "" && trimmed jsSpace options.requestId && options.traceId != "" &&
    trimmed jsSpace options.traceId) (.packet "request correlation is invalid")
  require (options.purpose == 1 || options.purpose == 2) (.packet "request purpose is invalid")
  require (options.clientNonce.length == nonceSize) (.packet "client nonce must be exactly 32 bytes")

def challengeRequest (config : Config Key Pub) (options : RequestOptions) : Packet where
  traceId := options.traceId
  senderId := config.workerId
  createdAt := some (timestampFromDate options.createdAt)
  protocolVersion := protocolVersion
  signatureMetadata := none
  identity := none
  payload := some (.challengeRequest ⟨options.requestId,options.traceId,config.workerId,config.proofKeyId,1,
    config.audience,options.purpose,options.clientNonce,protocolVersion,config.sdkVersion,[]⟩)
  signature := []
  authToken := ""
  unknown := []

def buildChallengeRequest (config : Config Key Pub) (options : RequestOptions) (randomness : Nat) :
    Except Error Packet := do
  validateWorkerTrustConfig crypto config
  validateOptions options
  let signed ← signWorkerTrustPacket crypto (challengeRequest config options)
    [(config.proofKeyId,config.proofPrivateKey)] randomness
  validateWorkerTrustPacket signed
  pure signed

def bindChallengeConfig (config : Config Key Pub) (c : Challenge) : Except Error Unit :=
  require (c.workerId == config.workerId && c.agentId == config.expectedAgentId && c.tenantId == config.tenantId &&
    c.proofKeyId == config.proofKeyId && c.audience == config.audience && c.sdkVersion == config.sdkVersion)
    (.binding "challenge identity changed")

/-- The payload of a challenge packet; other packets have no such property. -/
def challengeOf (p : Packet) : Except Error Challenge :=
  match p.payload with
  | some (.challenge c) => pure c
  | _ => throw .type

def buildAuthenticate (config : Config Key Pub) (verified : Verified) (capability : Handshake)
    (currentSessionToken : String) (createdAt : Int) (randomness : Nat) : Except Error Packet := do
  validateWorkerTrustConfig crypto config
  let challenge ← challengeOf verified.response
  bindChallengeConfig config challenge
  let signed ← signWorkerTrustPacket crypto
    { traceId := challenge.traceId
      senderId := config.workerId
      createdAt := some (timestampFromDate createdAt)
      protocolVersion := 1
      signatureMetadata := none
      identity := none
      payload := some (.authenticate ⟨some challenge,some capability,[]⟩)
      signature := []
      authToken := currentSessionToken
      unknown := [] }
    [(config.proofKeyId,config.proofPrivateKey)] randomness
  validateWorkerTrustPacket signed
  pure signed

/-! ### The scheduler's replies -/

def dateNanos (milliseconds : Int) : Int := milliseconds * 1000000

/-- Whole milliseconds; the division of big integers truncates. -/
def dateFromTimestamp (value : Option Timestamp) : Except Error Int := do
  let nanos ← timestampNanos value
  pure (nanos.tdiv 1000000)

def requireFreshTimestamp (value : Option Timestamp) (now : Int) (field : String) : Except Error Unit := do
  let stamp ← timestampNanos value
  let difference := if stamp ≥ dateNanos now then stamp - dateNanos now else dateNanos now - stamp
  require (difference ≤ maxSkew * 1000000) (.expired (field ++ " exceeds allowed skew"))

def requireLiveChallenge (c : Challenge) (now : Int) : Except Error Unit := do
  requireFreshTimestamp c.issuedAt now "challenge issued_at"
  let expires ← timestampNanos c.expiresAt
  require (expires > dateNanos now) (.expired "challenge is expired")

def requireValidSignature (p : Packet) (keys : List (String × Pub)) (label : String) : Except Error Unit :=
  match verifyWorkerTrustPacket crypto p keys with
  | .ok true => .ok ()
  | _ => .error (.packet (label ++ " signature is invalid"))

def workerKeys (config : Config Key Pub) : List (String × Pub) :=
  [(config.proofKeyId,crypto.publicKey config.proofPrivateKey)]

def verifySchedulerPacket (config : Config Key Pub) (p : Packet) (now : Int) : Except Error Unit := do
  validateWorkerTrustPacket p
  require (p.senderId == config.expectedSchedulerId) (.binding "scheduler identity changed")
  requireFreshTimestamp p.createdAt now "scheduler packet created_at"
  requireValidSignature crypto p config.schedulerPublicKeys "scheduler packet"

def requestOf (p : Packet) : Except Error ChallengeRequest :=
  match p.payload with
  | some (.challengeRequest r) => pure r
  | _ => throw .type

def bindRequestConfig (config : Config Key Pub) (r : ChallengeRequest) : Except Error Unit :=
  require (r.workerId == config.workerId && r.proofKeyId == config.proofKeyId && r.audience == config.audience &&
    r.sdkVersion == config.sdkVersion) (.binding "request changed configured worker identity")

def correlateChallenge (config : Config Key Pub) (r : ChallengeRequest) (c : Challenge) : Except Error Unit :=
  require (r.requestId == c.requestId && r.traceId == c.traceId && r.workerId == c.workerId &&
    r.proofKeyId == c.proofKeyId && r.proofAlgorithm == c.proofAlgorithm && r.audience == c.audience &&
    r.purpose == c.purpose && r.clientNonce == c.clientNonce && r.protocolVersion == c.protocolVersion &&
    r.sdkVersion == c.sdkVersion && c.agentId == config.expectedAgentId && c.tenantId == config.tenantId)
    (.binding "challenge correlation or identity changed")

def clonePacket (pb : Protobufjs) (p : Packet) : Except Error Packet := do
  let data ← marshalWorkerTrustPacket p
  unmarshalWorkerTrustPacket pb data

def verifyChallenge (pb : Protobufjs) (config : Config Key Pub) (request response : Packet) (now : Int) :
    Except Error Verified := do
  validateWorkerTrustConfig crypto config
  validateWorkerTrustPacket request
  let r ← requestOf request
  bindRequestConfig config r
  requireValidSignature crypto request (workerKeys crypto config) "request"
  requireFreshTimestamp request.createdAt now "request created_at"
  verifySchedulerPacket crypto config response now
  let challenge ← challengeOf response
  correlateChallenge config r challenge
  requireLiveChallenge challenge now
  let requestCopy ← clonePacket pb request
  let responseCopy ← clonePacket pb response
  pure ⟨requestCopy,responseCopy⟩

def requireSameChallenge (actual : Option Challenge) (expected : Challenge) : Except Error Unit :=
  match actual with
  | none => throw .type
  | some actual => do
    let issuedActual ← timestampNanos actual.issuedAt
    let issuedExpected ← timestampNanos expected.issuedAt
    let expiresActual ← timestampNanos actual.expiresAt
    let expiresExpected ← timestampNanos expected.expiresAt
    require (actual.requestId == expected.requestId && actual.challengeId == expected.challengeId &&
      actual.traceId == expected.traceId && actual.workerId == expected.workerId && actual.agentId == expected.agentId &&
      actual.tenantId == expected.tenantId && actual.proofKeyId == expected.proofKeyId &&
      actual.proofAlgorithm == expected.proofAlgorithm && actual.serverKeyId == expected.serverKeyId &&
      actual.audience == expected.audience && actual.purpose == expected.purpose &&
      actual.protocolVersion == expected.protocolVersion && actual.sdkVersion == expected.sdkVersion &&
      issuedActual == issuedExpected && expiresActual == expiresExpected &&
      actual.clientNonce == expected.clientNonce && actual.serverNonce == expected.serverNonce)
      (.binding "result challenge correlation changed")

def resultOf (p : Packet) : Except Error Result :=
  match p.payload with
  | some (.result r) => pure r
  | _ => throw .type

def authenticateOf (p : Packet) : Except Error Authenticate :=
  match p.payload with
  | some (.authenticate a) => pure a
  | _ => throw .type

def verifyResult (config : Config Key Pub) (verified : Verified) (authenticate response : Packet) (now : Int) :
    Except Error Session := do
  validateWorkerTrustConfig crypto config
  let expected ← challengeOf verified.response
  validateWorkerTrustPacket authenticate
  requireValidSignature crypto authenticate (workerKeys crypto config) "authenticate"
  let proof ← authenticateOf authenticate
  requireSameChallenge proof.challenge expected
  verifySchedulerPacket crypto config response now
  let result ← resultOf response
  requireSameChallenge result.challenge expected
  match result.challenge with
  | none => throw .type
  | some challenge => do
    requireLiveChallenge challenge now
    requireFreshTimestamp result.issuedAt now "result issued_at"
    require result.accepted (.rejection result.rejectionReason)
    let expiresAt ← dateFromTimestamp result.tokenExpiresAt
    let expires ← timestampNanos result.tokenExpiresAt
    require (expires > dateNanos now) (.expired "result token is expired")
    require (!(challenge.purpose == 2 && response.authToken == authenticate.authToken))
      (.binding "renewal must rotate session token")
    let issuedAt ← dateFromTimestamp result.issuedAt
    pure ⟨response.authToken,issuedAt,expiresAt⟩

end

end Cap.Trust.Node
