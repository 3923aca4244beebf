import Cap.TrustPacket
import Cap.ProductionSigning

/-!
The trust handshake of the Python SDK (`trust_signing.py`, `worker_trust_validate.py`,
`worker_trust_codec.py`, `worker_trust.py`, `worker_trust_build.py`, `worker_trust_verify.py`).
Instants are microseconds since the epoch. The protobuf parser and the check for strict DER of the
cryptography package are parameters.
-/
namespace Cap.Trust.Python
open Cap.Text Cap.Wire Cap.Proto Cap.Records Cap.Checks
open Cap.ProductionSigning (Crypto)

inductive Error where
  | packet (message : String)
  | binding (message : String)
  | expired (message : String)
  | rejection (reason : Int32)
  | signing (message : String)
  | config (message : String)
  | decode
deriving DecidableEq

def fail (field message : String) : Error := .packet (field ++ ": " ++ message)

def fields (p : Packet) : Fields := ascending p.envelope (p.payload.toList.flatMap Payload.fields)

def message (p : Packet) : Msg := Records.message (fields p) p.unknown

def serialize (p : Packet) : Bytes := (message p).encode

/-- The serialisation changes when the unknown fields are discarded. -/
def hasUnknownFields (p : Packet) : Bool := serialize p != (message p).discardUnknown.encode

/-! ### Transcripts and signatures -/

def phase (p : Packet) : Except Error Phase :=
  match p.phase? with
  | some phase => pure phase
  | none => throw (.signing "packet is not a worker trust-handshake phase")

/-- The algorithm and the key of the packet; an absent challenge reads as an empty one. -/
def proofRecord (p : Packet) : Int32 × String :=
  match p.payload with
  | some (.challengeRequest r) => (r.proofAlgorithm,r.proofKeyId)
  | some (.authenticate a) => (a.challenge.map fun c => (c.proofAlgorithm,c.proofKeyId)).getD (0,"")
  | some (.challenge c) => (c.proofAlgorithm,c.serverKeyId)
  | some (.result r) => (r.challenge.map fun c => (c.proofAlgorithm,c.serverKeyId)).getD (0,"")
  | _ => (0,"")

def keyId (p : Packet) : Except Error String := do
  require ((proofRecord p).1 == p256Algorithm) (.signing "trust packet proof algorithm is not P-256 SHA-256")
  require ((proofRecord p).2 != "") (.signing "trust packet key ID is missing")
  pure (proofRecord p).2

def transcript (p : Packet) : Except Error Bytes := do
  require (!hasUnknownFields p) (.signing "trust packet contains unknown fields")
  let phase ← phase p
  pure (utf8 phase.domain ++ 0 :: serialize p.unsigned)

section

variable {Key Pub : Type} (crypto : Crypto Key Pub) (strictDer : Bytes → Bool)

def trustPacketDigest (p : Packet) : Except Error Bytes := do
  let hashed ← transcript p
  pure (crypto.sha256 hashed)

def signTrustPacket (p : Packet) (key : Key) (randomness : Nat) : Except Error Packet := do
  let _ ← phase p
  let _ ← keyId p
  require (crypto.p256 (crypto.publicKey key)) (.signing "trust signing requires a P-256 private key")
  let digest ← trustPacketDigest crypto p
  let signature := crypto.sign key digest randomness
  require (strictDer signature) (.signing "trust signature is not strict DER")
  pure { p with signature := signature }

def verifyTrustPacket (p : Packet) (trustedKeys : List (String × Pub)) : Except Error Unit := do
  let _ ← phase p
  require (p.signature != []) (.signing "trust signature is missing")
  let keyId ← keyId p
  match trustedKeys.lookup keyId with
  | none => throw (.signing "trust packet key ID is not configured")
  | some publicKey => do
    require (crypto.p256 publicKey) (.signing "trusted key must use P-256")
    require (strictDer p.signature) (.signing "trust signature is not strict DER")
    let digest ← trustPacketDigest crypto p
    require (crypto.verify publicKey digest p.signature) (.signing "trust signature is invalid")

end

def maxLifetime : Int := 60000000

def maxSkew : Int := 60000000

/-- Whole microseconds; an absent timestamp reads as the epoch. -/
def datetime (timestamp : Option Timestamp) (field : String) : Except Error Int :=
  match timestamp with
  | none => pure 0
  | some t => do
    require t.inRange (.packet (field ++ ": invalid timestamp"))
    pure (t.seconds.toInt * 1000000 + t.nanos.toInt / 1000)

def missing (values : List String) : Bool := values.any (blank pySpace)

def printable (value : String) : Bool := value.toList.all fun c => 0x21 ≤ c.toNat && c.toNat ≤ 0x7e

def validToken (token : String) : Bool :=
  token != "" && token.toList.length ≤ maxSessionTokenSize && printable token

def validateEnvelope (p : Packet) : Except Error Unit := do
  require (p.traceId != "") (fail "trace_id" "must not be empty")
  require (p.senderId != "") (fail "sender_id" "must not be empty")
  require (p.protocolVersion == protocolVersion) (fail "protocol_version" "must equal 1")
  require p.createdAt.isSome (fail "created_at" "must not be nil")
  let _ ← datetime p.createdAt "created_at"
  pure ()

def validateRequest (p : Packet) (r : ChallengeRequest) : Except Error Unit := do
  require (!missing [r.requestId,r.traceId,r.workerId,r.proofKeyId,r.audience,r.sdkVersion])
    (fail "challenge_request" "required field is empty")
  require (p.traceId == r.traceId && p.senderId == r.workerId)
    (fail "challenge_request" "trace or worker does not match envelope")
  require (r.protocolVersion == 1 && validPurpose r.purpose) (fail "challenge_request" "version or purpose is unsupported")
  require (r.proofAlgorithm == p256Algorithm && r.clientNonce.length == 32)
    (fail "challenge_request" "proof algorithm or nonce is invalid")
  require (p.authToken == "" && p.signature != []) (fail "challenge_request" "must be signed without a session token")

def validateChallenge (p : Packet) (c : Challenge) (topLevel : Bool) : Except Error Unit := do
  require (!missing [c.requestId,c.challengeId,c.traceId,c.workerId,c.agentId,c.tenantId,c.proofKeyId,c.serverKeyId,
    c.audience,c.sdkVersion]) (fail "challenge" "required field is empty")
  require (p.traceId == c.traceId) (fail "challenge.trace_id" "must equal envelope trace_id")
  require (!(topLevel && p.authToken != "")) (fail "auth_token" "challenge must not carry a session")
  require (c.protocolVersion == 1 && validPurpose c.purpose) (fail "challenge" "version or purpose is unsupported")
  require (c.proofAlgorithm == p256Algorithm && c.clientNonce.length == nonceSize && c.serverNonce.length == nonceSize)
    (fail "challenge" "proof algorithm or nonce is invalid")
  let issued ← datetime c.issuedAt "challenge.issued_at"
  let expires ← datetime c.expiresAt "challenge.expires_at"
  require (!(expires ≤ issued || expires - issued > maxLifetime)) (fail "challenge.timestamps" "invalid order or lifetime")
  require (!(topLevel && p.signature == [])) (fail "signature" "challenge must be signed")

def validateWorkerCapability (h : Handshake) (c : Challenge) : Except Error Unit := do
  require (h.componentId == c.workerId && h.role == workerRole && h.sdkVersion == c.sdkVersion)
    (fail "capability_handshake" "identity does not match challenge")
  require (h.supportedVersions == [protocolVersion])
    (fail "capability_handshake.supported_versions" "must contain exactly v1")
  require (h.capabilities.all fun item => item.2 && capabilityKey item.1)
    (fail "capability_handshake.capabilities" "key is invalid or disabled")
  require (!(h.readyTopics.any (blank pySpace)) && h.readyTopics.dedup.length == h.readyTopics.length)
    (fail "capability_handshake.ready_topics" "topic is empty or duplicated")

def validateSession (purpose : Int32) (token : String) : Except Error Unit := do
  require (!(purpose == issuePurpose && token != "")) (fail "auth_token" "issue must not carry a session")
  require (!(purpose == renewPurpose && !validToken token)) (fail "auth_token" "renew requires the current session")

def validateAuthenticate (p : Packet) (a : Authenticate) : Except Error Unit :=
  match a.challenge,a.capabilityHandshake with
  | some challenge,some capability => do
    validateChallenge p challenge false
    require (p.senderId == challenge.workerId && p.signature != [])
      (fail "authenticate" "worker binding or signature is invalid")
    validateWorkerCapability capability challenge
    validateSession challenge.purpose p.authToken
  | _,_ => throw (fail "authenticate" "challenge and capability are required")

def validateAccepted (r : Result) (token : String) (issued : Int) : Except Error Unit := do
  require (validToken token && r.tokenExpiresAt.isSome) (fail "result" "accepted result requires a future token expiry")
  let expires ← datetime r.tokenExpiresAt "result.token_expires_at"
  require (expires > issued) (fail "result" "accepted result requires a future token expiry")
  require (r.rejectionReason == 0) (fail "result.rejection_reason" "must be unspecified when accepted")

def validateResult (p : Packet) (r : Result) : Except Error Unit :=
  match r.challenge with
  | none => throw (fail "result" "challenge and signature are required")
  | some challenge => do
    require (p.signature != []) (fail "result" "challenge and signature are required")
    validateChallenge p challenge false
    let issued ← datetime r.issuedAt "result.issued_at"
    if r.accepted then validateAccepted r p.authToken issued
    else do
      require (p.authToken == "" && [1,2,3,4,5,6,7,8,9].contains r.rejectionReason)
        (fail "result" "rejection must not carry token metadata")
      require r.tokenExpiresAt.isNone (fail "result" "rejection must not carry token metadata")

def validateWorkerTrustPacket (p : Packet) : Except Error Unit := do
  require p.phase?.isSome (fail "payload" "must be exactly one worker trust phase")
  validateEnvelope p
  require (!hasUnknownFields p) (fail "unknown_fields" "must be empty recursively")
  match p.payload with
  | some (.challengeRequest r) => validateRequest p r
  | some (.challenge c) => validateChallenge p c true
  | some (.authenticate a) => validateAuthenticate p a
  | some (.result r) => validateResult p r
  | _ => throw (fail "payload" "must be exactly one worker trust phase")

/-! ### The members of the oneof -/

/-- A field of the oneof that is not set reads as an empty message. -/
def emptyChallenge : Challenge := ⟨"","","","","","","",0,"","",0,[],[],0,"",none,none,[]⟩

def requestOf (p : Packet) : ChallengeRequest :=
  match p.payload with
  | some (.challengeRequest r) => r
  | _ => ⟨"","","","",0,"",0,[],0,"",[]⟩

def challengeOf (p : Packet) : Challenge :=
  match p.payload with
  | some (.challenge c) => c
  | _ => emptyChallenge

def resultOf (p : Packet) : Result :=
  match p.payload with
  | some (.result r) => r
  | _ => ⟨none,false,0,none,none,[]⟩

def authenticateChallenge (p : Packet) : Challenge :=
  match p.payload with
  | some (.authenticate a) => a.challenge.getD emptyChallenge
  | _ => emptyChallenge

def marshalWorkerTrustPacket (p : Packet) : Except Error Bytes := do
  validateWorkerTrustPacket p
  require ((serialize p).length ≤ maxPacketSize) (.packet "packet size exceeds 65536 bytes")
  pure (serialize p)

def unmarshalWorkerTrustPacket (parse : Bytes → Option Packet) (data : Bytes) : Except Error Packet := do
  require (0 < data.length && data.length ≤ maxPacketSize) (.packet "packet size must be 1..65536 bytes")
  match parse data with
  | none => throw (.packet "cannot decode worker trust packet")
  | some p => do
    validateWorkerTrustPacket p
    pure p

/-! ### Configuration and the worker's packets -/

def canonicalText (value : String) : Bool :=
  value != "" && value.toList.length ≤ maxIdentityLength && printable value

structure VerifiedBytes where
  request : Bytes
  response : Bytes

section

variable {Key Pub : Type} (crypto : Crypto Key Pub) (strictDer : Bytes → Bool) (parse : Bytes → Option Packet)

def validateWorkerTrustConfig (config : Config Key Pub) : Except Error Unit := do
  require ([config.workerId,config.expectedAgentId,config.tenantId,config.audience,config.proofKeyId,
    config.expectedSchedulerId,config.sdkVersion].all canonicalText) (.config "worker trust identity is invalid")
  require (config.audience == handshakeAudience) (.config "worker trust audience is invalid")
  require (crypto.p256 (crypto.publicKey config.proofPrivateKey)) (.config "worker proof key must use P-256")
  require (!config.schedulerPublicKeys.isEmpty) (.config "scheduler trust keys are required")
  require (config.schedulerPublicKeys.all fun item => canonicalText item.1 && crypto.p256 item.2)
    (.config "scheduler trust key must use P-256")

def verifiedChallenge (verified : VerifiedBytes) : Except Error Challenge :=
  match parse verified.request,parse verified.response with
  | some _,some response => pure (challengeOf response)
  | _,_ => throw .decode

def newPacket (traceId senderId : String) (createdAt : Int) (payload : Payload) (authToken : String) : Packet where
  traceId := traceId
  senderId := senderId
  createdAt := some (Timestamp.ofNanos (createdAt * 1000))
  protocolVersion := protocolVersion
  signatureMetadata := none
  identity := none
  payload := some payload
  signature := []
  authToken := authToken
  unknown := []

def validateOptions (options : RequestOptions) : Except Error Unit := do
  require (canonicalText options.requestId && canonicalText options.traceId)
    (.packet "request and trace IDs are invalid")
  require (validPurpose options.purpose) (.packet "handshake purpose is unsupported")
  require (options.clientNonce.length == nonceSize) (.packet "client nonce must be 32 bytes")

def buildChallengeRequest (config : Config Key Pub) (options : RequestOptions) (randomness : Nat) :
    Except Error Packet := do
  validateWorkerTrustConfig crypto config
  validateOptions options
  let packet ← signTrustPacket crypto strictDer (newPacket options.traceId config.workerId options.createdAt
    (.challengeRequest ⟨options.requestId,options.traceId,config.workerId,config.proofKeyId,p256Algorithm,config.audience,
      options.purpose,options.clientNonce,protocolVersion,config.sdkVersion,[]⟩) "") config.proofPrivateKey randomness
  validateWorkerTrustPacket packet
  pure packet

def bindChallengeConfig (config : Config Key Pub) (c : Challenge) : Except Error Unit :=
  require (c.workerId == config.workerId && c.agentId == config.expectedAgentId && c.tenantId == config.tenantId &&
    c.proofKeyId == config.proofKeyId && c.audience == config.audience && c.sdkVersion == config.sdkVersion)
    (.binding "challenge identity changed")

def buildAuthenticate (config : Config Key Pub) (verified : VerifiedBytes) (capability : Handshake)
    (currentSessionToken : String) (createdAt : Int) (randomness : Nat) : Except Error Packet := do
  validateWorkerTrustConfig crypto config
  let challenge ← verifiedChallenge parse verified
  bindChallengeConfig config challenge
  validateWorkerCapability capability challenge
  validateSession challenge.purpose currentSessionToken
  let packet ← signTrustPacket crypto strictDer (newPacket challenge.traceId config.workerId createdAt
    (.authenticate ⟨some challenge,some capability,[]⟩) currentSessionToken) config.proofPrivateKey randomness
  validateWorkerTrustPacket packet
  pure packet

/-! ### The scheduler's replies -/

def validateSkew (timestamp : Option Timestamp) (now : Int) (field : String) : Except Error Unit := do
  let value ← datetime timestamp field
  require (!(value - now > maxSkew || value - now < -maxSkew)) (.expired (field ++ " outside allowed skew"))

def validateChallengeFreshness (c : Challenge) (now : Int) : Except Error Unit := do
  validateSkew c.issuedAt now "challenge.issued_at"
  let expiresAt ← datetime c.expiresAt "challenge.expires_at"
  require (!(now ≥ expiresAt)) (.expired "challenge expired")

/-- Errors of the signature become errors of the packet. -/
def signatureChecked (label : String) : Except Error Unit → Except Error Unit
  | .ok value => .ok value
  | .error _ => .error (.packet (label ++ " signature is invalid"))

def workerKeys (config : Config Key Pub) : List (String × Pub) :=
  [(config.proofKeyId,crypto.publicKey config.proofPrivateKey)]

def verifySchedulerPacket (config : Config Key Pub) (p : Packet) (now : Int) : Except Error Unit := do
  validateWorkerTrustPacket p
  require (p.senderId == config.expectedSchedulerId) (.binding "scheduler sender differs")
  validateSkew p.createdAt now "created_at"
  signatureChecked "scheduler" (verifyTrustPacket crypto strictDer p config.schedulerPublicKeys)

def correlateChallenge (config : Config Key Pub) (r : ChallengeRequest) (c : Challenge) : Except Error Unit := do
  require (c.requestId == r.requestId && c.traceId == r.traceId && c.workerId == r.workerId &&
    c.proofKeyId == r.proofKeyId && c.proofAlgorithm == r.proofAlgorithm && c.audience == r.audience &&
    c.purpose == r.purpose && c.clientNonce == r.clientNonce && c.protocolVersion == r.protocolVersion &&
    c.sdkVersion == r.sdkVersion) (.binding "challenge does not match request")
  require (c.agentId == config.expectedAgentId && c.tenantId == config.tenantId) (.binding "challenge identity differs")

def verifyChallenge (config : Config Key Pub) (request response : Packet) (now : Int) : Except Error VerifiedBytes := do
  validateWorkerTrustConfig crypto config
  validateWorkerTrustPacket request
  signatureChecked "request" (verifyTrustPacket crypto strictDer request (workerKeys crypto config))
  validateSkew request.createdAt now "request.created_at"
  verifySchedulerPacket crypto strictDer config response now
  correlateChallenge config (requestOf request) (challengeOf response)
  validateChallengeFreshness (challengeOf response) now
  pure ⟨serialize request,serialize response⟩

def verifyResult (config : Config Key Pub) (verified : VerifiedBytes) (authenticate response : Packet) (now : Int) :
    Except Error Session := do
  validateWorkerTrustConfig crypto config
  let wanted ← verifiedChallenge parse verified
  validateWorkerTrustPacket authenticate
  signatureChecked "authenticate" (verifyTrustPacket crypto strictDer authenticate (workerKeys crypto config))
  verifySchedulerPacket crypto strictDer config response now
  let result := resultOf response
  let challenge := result.challenge.getD emptyChallenge
  require (challenge.message.encode == wanted.message.encode &&
    (authenticateChallenge authenticate).message.encode == wanted.message.encode) (.binding "result challenge differs")
  validateChallengeFreshness challenge now
  validateSkew result.issuedAt now "result.issued_at"
  require result.accepted (.rejection result.rejectionReason)
  let expiresAt ← datetime result.tokenExpiresAt "token_expires_at"
  require (expiresAt > now) (.expired "result token is already expired")
  require (!(challenge.purpose == renewPurpose && response.authToken == authenticate.authToken))
    (.binding "renewal did not rotate session token")
  let issuedAt ← datetime result.issuedAt "issued_at"
  pure ⟨response.authToken,issuedAt,expiresAt⟩

end

end Cap.Trust.Python
