import Cap.TrustPacket
import Cap.ProductionSigning

/-!
The trust handshake of the Go SDK (`trust_signing.go`, `worker_trust_validate.go`,
`worker_trust_codec.go`, `worker_trust_build.go`, `handshake.go`, `worker_trust_verify.go`).
Instants are nanoseconds since the epoch; the protobuf decoder is a parameter.
-/
namespace Cap.Trust.Go
open Cap.Text Cap.Wire Cap.Proto Cap.Records Cap.Checks
open Cap.ProductionSigning (Crypto)

/-- The errors of the SDK. `wrapped` is `fmt.Errorf` with a `%w`. -/
inductive Error where
  | trustHandshakePayload
  | trustHandshakeKeyID (keyID : String)
  | trustHandshakeKey
  | trustHandshakeAlgorithm (algorithm : Option Int32)
  | missingSignature
  | invalidSignature
  | validation (field message : String)
  | workerTrustConfig (detail : String)
  | workerHandshakePacket (detail : String)
  | workerHandshakeBinding (detail : String)
  | workerHandshakeExpired (detail : String)
  | rejection (reason : Int32) (requestID agentID workerID : String)
  | unmarshal
  | wrapped (label : String) (cause : Error)
deriving DecidableEq

def wrap {α : Type} (label : String) : Except Error α → Except Error α
  | .ok value => .ok value
  | .error error => .error (.wrapped label error)

@[simp] theorem wrap_eq_ok {α : Type} {label : String} {x : Except Error α} {value : α} :
    wrap label x = .ok value ↔ x = .ok value := by
  cases x <;> simp [wrap]

/-- The fields outside the oneof in ascending order, then the member of the oneof. -/
def fields (packet : Packet) : Fields := packet.envelope ++ packet.payload.toList.flatMap Payload.fields

def message (packet : Packet) : Msg := Records.message (fields packet) packet.unknown

/-- `proto.MarshalOptions{Deterministic: true}.Marshal`. -/
def marshal (packet : Packet) : Bytes := (message packet).encode

def hasUnknownProtoFields (packet : Packet) : Bool := !(message packet).closed

/-! ### Transcripts and signatures -/

def selectTrustHandshakePhase (packet : Packet) : Except Error Phase :=
  match packet.phase? with
  | some phase => .ok phase
  | none => .error .trustHandshakePayload

/-- The algorithm of the packet; without a challenge there is none. -/
def proofAlgorithm? (packet : Packet) : Option Int32 :=
  match packet.payload with
  | some (.challengeRequest request) => some request.proofAlgorithm
  | _ => packet.challenge?.map (·.proofAlgorithm)

def validateTrustHandshakeAlgorithm (packet : Packet) : Except Error Unit :=
  require (proofAlgorithm? packet == some p256Algorithm) (.trustHandshakeAlgorithm (proofAlgorithm? packet))

def trustHandshakeKeyID (packet : Packet) : Except Error String := do
  let _ ← selectTrustHandshakePhase packet
  validateTrustHandshakeAlgorithm packet
  match packet.payload with
  | some (.challengeRequest request) => pure request.proofKeyId
  | some (.challenge challenge) => pure challenge.serverKeyId
  | some (.authenticate ⟨some challenge,_,_⟩) => pure challenge.proofKeyId
  | some (.result ⟨some challenge,_,_,_,_,_⟩) => pure challenge.serverKeyId
  | _ => throw (.trustHandshakeKeyID "")

/-- The domain, a zero byte and the packet without its signature. -/
def marshalTrustHandshakeTranscript (packet : Packet) : Except Error Bytes := do
  require (!hasUnknownProtoFields packet) (.workerHandshakePacket "unknown fields")
  let phase ← selectTrustHandshakePhase packet
  validateTrustHandshakeAlgorithm packet
  pure (utf8 phase.domain ++ 0 :: marshal packet.unsigned)

section

variable {Key Pub : Type} (crypto : Crypto Key Pub)

def trustHandshakeDigest (packet : Packet) : Except Error Bytes := do
  let transcript ← marshalTrustHandshakeTranscript packet
  pure (crypto.sha256 transcript)

def signTrustHandshake (packet : Packet) (key : Key) (randomness : Nat) : Except Error Packet := do
  let keyID ← trustHandshakeKeyID packet
  require (keyID != "") (.trustHandshakeKeyID keyID)
  require (crypto.p256 (crypto.publicKey key)) .trustHandshakeKey
  let digest ← trustHandshakeDigest crypto packet
  pure { packet with signature := crypto.sign key digest randomness }

def verifyTrustHandshake (packet : Packet) (keys : List (String × Pub)) : Except Error Unit := do
  let keyID ← trustHandshakeKeyID packet
  require (packet.signature != []) .missingSignature
  match keys.lookup keyID with
  | none => throw (.trustHandshakeKeyID keyID)
  | some key => do
    require (keyID != "") (.trustHandshakeKeyID keyID)
    require (crypto.p256 key) .trustHandshakeKey
    let digest ← trustHandshakeDigest crypto packet
    require (crypto.verify key digest packet.signature) .invalidSignature

end

def workerTrustValidation (field message : String) : Error := .validation field message

/-- A timestamp that is there and in range, in nanoseconds. -/
def checkedProtoTime : Option Timestamp → Option Int
  | none => none
  | some timestamp => if timestamp.inRange then some timestamp.inNanos else none

def missingStrings (values : List String) : Bool := values.any (blank goSpace)

def missingChallengeStrings (c : Challenge) : Bool :=
  missingStrings [c.requestId,c.challengeId,c.traceId,c.workerId,c.agentId,c.tenantId,c.proofKeyId,c.serverKeyId,
    c.audience,c.sdkVersion]

/-- Printable ASCII without the space. -/
def printable (bytes : Bytes) : Bool := bytes.all fun b => 0x21 ≤ b && b ≤ 0x7e

def validSessionToken (token : String) : Bool :=
  token != "" && trimmed goSpace token && (utf8 token).length ≤ maxSessionTokenSize && printable (utf8 token)

def validateSessionForPurpose (purpose : Int32) (token : String) : Except Error Unit := do
  require (!(purpose == issuePurpose && token != "")) (.workerHandshakePacket "issue must not carry a session")
  require (!(purpose == renewPurpose && !validSessionToken token))
    (.workerHandshakePacket "renew requires the current session")

def validateChallengeRequestPayload (packet : Packet) (r : ChallengeRequest) : Except Error Unit := do
  require (!missingStrings [r.requestId,r.traceId,r.workerId,r.proofKeyId,r.audience,r.sdkVersion])
    (workerTrustValidation "challenge_request" "required field is empty")
  require (packet.traceId == r.traceId && packet.senderId == r.workerId)
    (workerTrustValidation "challenge_request" "trace or worker does not match envelope")
  require (r.protocolVersion == protocolVersion && validPurpose r.purpose)
    (workerTrustValidation "challenge_request" "version or purpose is unsupported")
  require (r.proofAlgorithm == p256Algorithm && r.clientNonce.length == nonceSize)
    (workerTrustValidation "challenge_request" "proof algorithm or nonce is invalid")
  require (packet.authToken == "" && packet.signature != [])
    (workerTrustValidation "challenge_request" "must be signed without a session token")

def maxLifetime : Int := 60000000000

def maxSkew : Int := 60000000000

def validateChallengeTimes (c : Challenge) : Except Error Unit :=
  match checkedProtoTime c.issuedAt,checkedProtoTime c.expiresAt with
  | some issuedAt,some expiresAt =>
    require (expiresAt > issuedAt && expiresAt - issuedAt ≤ maxLifetime)
      (workerTrustValidation "challenge.timestamps" "invalid order or lifetime")
  | _,_ => throw (workerTrustValidation "challenge.timestamps" "invalid order or lifetime")

def validateChallengePayload (packet : Packet) (c : Challenge) (topLevel : Bool) : Except Error Unit := do
  require (!missingChallengeStrings c) (workerTrustValidation "challenge" "required field is empty")
  require (packet.traceId == c.traceId) (workerTrustValidation "challenge.trace_id" "must equal envelope trace_id")
  require (!(topLevel && packet.authToken != ""))
    (workerTrustValidation "auth_token" "challenge must not carry a session")
  require (c.protocolVersion == protocolVersion && validPurpose c.purpose)
    (workerTrustValidation "challenge" "version or purpose is unsupported")
  require (c.proofAlgorithm == p256Algorithm && c.clientNonce.length == nonceSize && c.serverNonce.length == nonceSize)
    (workerTrustValidation "challenge" "proof algorithm or nonce is invalid")
  validateChallengeTimes c
  require (!(topLevel && packet.signature == [])) (workerTrustValidation "signature" "challenge must be signed")

/-- The topics are checked one by one against those before. -/
def validateReadyTopics : List String → List String → Except Error Unit
  | _,[] => .ok ()
  | seen,topic :: rest => do
    require (!blank goSpace topic) (workerTrustValidation "capability_handshake.ready_topics" "topic is empty")
    require (!seen.contains topic) (workerTrustValidation "capability_handshake.ready_topics" "topic is duplicated")
    validateReadyTopics (topic :: seen) rest

def validateCapabilityShape (h : Handshake) (c : Challenge) : Except Error Unit := do
  require (h.componentId == c.workerId && h.role == workerRole && h.sdkVersion == c.sdkVersion)
    (workerTrustValidation "capability_handshake" "identity does not match challenge")
  require (h.supportedVersions == [protocolVersion])
    (workerTrustValidation "capability_handshake.supported_versions" "must contain exactly protocol v1")
  require (h.capabilities.all fun item => item.2 && capabilityKey item.1)
    (workerTrustValidation "capability_handshake.capabilities" "key is invalid or disabled")
  validateReadyTopics [] h.readyTopics

def validateAuthenticatePayload (packet : Packet) (a : Authenticate) : Except Error Unit :=
  match a.challenge,a.capabilityHandshake with
  | some challenge,some capability => do
    validateChallengePayload packet challenge false
    require (packet.senderId == challenge.workerId && packet.signature != [])
      (workerTrustValidation "authenticate" "worker binding or signature is invalid")
    validateCapabilityShape capability challenge
    validateSessionForPurpose challenge.purpose packet.authToken
  | _,_ => throw (workerTrustValidation "authenticate" "challenge and capability are required")

/-- The reasons from `INVALID_REQUEST` to `INTERNAL_ERROR`. -/
def validWorkerHandshakeRejection (reason : Int32) : Bool := [1,2,3,4,5,6,7,8,9].contains reason

def validateAcceptedResult (r : Result) (token : String) (issuedAt : Int) : Except Error Unit := do
  require (validSessionToken token && ((checkedProtoTime r.tokenExpiresAt).any fun expiresAt => expiresAt > issuedAt))
    (workerTrustValidation "result" "accepted result requires a future token expiry")
  require (r.rejectionReason == 0) (workerTrustValidation "result.rejection_reason" "must be unspecified when accepted")

def validateResultPayload (packet : Packet) (r : Result) : Except Error Unit :=
  match r.challenge with
  | none => throw (workerTrustValidation "result" "challenge and signature are required")
  | some challenge => do
    require (packet.signature != []) (workerTrustValidation "result" "challenge and signature are required")
    validateChallengePayload packet challenge false
    match checkedProtoTime r.issuedAt with
    | none => throw (workerTrustValidation "result.issued_at" "must be a valid timestamp")
    | some issuedAt =>
      if r.accepted then validateAcceptedResult r packet.authToken issuedAt
      else
        require (packet.authToken == "" && validWorkerHandshakeRejection r.rejectionReason && r.tokenExpiresAt.isNone)
          (workerTrustValidation "result" "rejection must not carry token metadata")

def validateWorkerTrustPayload (packet : Packet) : Except Error Unit := do
  require (!hasUnknownProtoFields packet) (workerTrustValidation "unknown_fields" "must be empty recursively")
  require (checkedProtoTime packet.createdAt).isSome (workerTrustValidation "created_at" "must be a valid timestamp")
  match packet.payload with
  | some (.challengeRequest request) => validateChallengeRequestPayload packet request
  | some (.challenge challenge) => validateChallengePayload packet challenge true
  | some (.authenticate authenticate) => validateAuthenticatePayload packet authenticate
  | some (.result result) => validateResultPayload packet result
  | _ => throw (workerTrustValidation "payload" "must be a worker trust phase")

/-- `ValidateBusPacket` on a packet of the handshake. -/
def validateBusPacket (packet : Packet) : Except Error Unit := do
  require (packet.traceId != "") (.validation "trace_id" "must not be empty")
  require (packet.senderId != "") (.validation "sender_id" "must not be empty")
  require (packet.protocolVersion == protocolVersion) (.validation "protocol_version" "must equal 1")
  require packet.createdAt.isSome (.validation "created_at" "must not be nil")
  validateWorkerTrustPayload packet

def validateWorkerTrustPacket (packet : Packet) : Except Error Unit := do
  let _ ← selectTrustHandshakePhase packet
  validateBusPacket packet

def marshalWorkerTrustPacket (packet : Packet) : Except Error Bytes := do
  validateWorkerTrustPacket packet
  require ((marshal packet).length ≤ maxPacketSize) (.workerHandshakePacket "exceeds 65536 bytes")
  pure (marshal packet)

def unmarshalWorkerTrustPacket (unmarshal : Bytes → Option Packet) (data : Bytes) : Except Error Packet := do
  require (data.length ≠ 0 && data.length ≤ maxPacketSize) (.workerHandshakePacket "size must be 1..65536")
  match unmarshal data with
  | none => throw .unmarshal
  | some packet => do
    validateWorkerTrustPacket packet
    pure packet

/-- Not empty, short and of printable ASCII. -/
def canonicalTrustString (value : String) : Bool :=
  value != "" && trimmed goSpace value && (utf8 value).length ≤ maxIdentityLength && printable (utf8 value)

section

variable {Key Pub : Type} (crypto : Crypto Key Pub)

def identities (config : Config Key Pub) : List String :=
  [config.workerId,config.expectedAgentId,config.tenantId,config.audience,config.proofKeyId,config.expectedSchedulerId,
    config.sdkVersion]

def validateWorkerTrustConfig (config : Config Key Pub) : Except Error Unit := do
  require (!missingStrings (identities config) && (identities config).all canonicalTrustString)
    (.workerTrustConfig "required identity field is empty")
  require (config.audience == handshakeAudience) (.workerTrustConfig "audience must be \"cordum-scheduler\"")
  require (crypto.p256 (crypto.publicKey config.proofPrivateKey)) (.workerTrustConfig "proof key is not P-256")
  require (!config.schedulerPublicKeys.isEmpty) (.workerTrustConfig "scheduler keys are empty")
  require (config.schedulerPublicKeys.all fun item => canonicalTrustString item.1 && crypto.p256 item.2)
    (.workerTrustConfig "scheduler key is invalid")

/-- `time.Time{}`, the first instant of year 1. -/
def zeroTime : Int := -62135596800 * 1000000000

def newWorkerTrustPacket (traceID senderID : String) (createdAt : Int) : Packet where
  traceId := traceID
  senderId := senderID
  createdAt := some (Timestamp.ofNanos createdAt)
  protocolVersion := protocolVersion
  signatureMetadata := none
  identity := none
  payload := none
  signature := []
  authToken := ""
  unknown := []

def validateRequestOptions (options : RequestOptions) : Except Error Unit := do
  require (canonicalTrustString options.requestId && canonicalTrustString options.traceId)
    (.workerHandshakePacket "request_id and trace_id are required")
  require (validPurpose options.purpose) (.workerHandshakePacket "unsupported purpose")
  require (options.clientNonce.length == nonceSize) (.workerHandshakePacket "client nonce must be 32 bytes")
  require (options.createdAt != zeroTime) (.workerHandshakePacket "created_at is empty")

def challengeRequest (config : Config Key Pub) (options : RequestOptions) : Packet :=
  { newWorkerTrustPacket options.traceId config.workerId options.createdAt with
    payload := some (.challengeRequest ⟨options.requestId,options.traceId,config.workerId,config.proofKeyId,p256Algorithm,
      config.audience,options.purpose,options.clientNonce,protocolVersion,config.sdkVersion,[]⟩) }

def buildWorkerHandshakeChallengeRequest (config : Config Key Pub) (options : RequestOptions) (randomness : Nat) :
    Except Error Packet := do
  validateWorkerTrustConfig crypto config
  validateRequestOptions options
  let packet ← wrap "build worker handshake challenge request"
    (signTrustHandshake crypto (challengeRequest config options) config.proofPrivateKey randomness)
  wrap "invalid worker handshake packet" (validateWorkerTrustPacket packet)
  pure packet

def validateVerifiedChallengeConfig (config : Config Key Pub) (c : Challenge) : Except Error Unit :=
  require (c.workerId == config.workerId && c.agentId == config.expectedAgentId && c.tenantId == config.tenantId &&
    c.proofKeyId == config.proofKeyId && c.audience == config.audience && c.sdkVersion == config.sdkVersion)
    (.workerHandshakeBinding "challenge identity changed")

/-- The challenge that was verified; only a challenge packet has one. -/
def verifiedMessage (verified : Verified) : Option Challenge :=
  match verified.response.payload with
  | some (.challenge challenge) => some challenge
  | _ => none

def buildWorkerHandshakeAuthenticate (config : Config Key Pub) (verified : Verified) (capability : Handshake)
    (currentSessionToken : String) (createdAt : Int) (randomness : Nat) : Except Error Packet := do
  validateWorkerTrustConfig crypto config
  match verifiedMessage verified with
  | none => throw (.workerHandshakeBinding "challenge is unverified")
  | some challenge => do
    validateVerifiedChallengeConfig config challenge
    validateCapabilityShape capability challenge
    validateSessionForPurpose challenge.purpose currentSessionToken
    require (createdAt != zeroTime) (.workerHandshakePacket "created_at is empty")
    let packet ← wrap "build worker handshake authenticate"
      (signTrustHandshake crypto
        { newWorkerTrustPacket challenge.traceId config.workerId createdAt with
          authToken := currentSessionToken
          payload := some (.authenticate ⟨some challenge,some capability,[]⟩) }
        config.proofPrivateKey randomness)
    wrap "invalid worker handshake packet" (validateWorkerTrustPacket packet)
    pure packet

/-! ### The scheduler's replies -/

def validateTimestampSkew (timestamp : Option Timestamp) (now : Int) (field : String) : Except Error Unit :=
  match checkedProtoTime timestamp with
  | none => throw (workerTrustValidation field "must be a valid timestamp")
  | some value =>
    require (value - now ≤ maxSkew && value - now ≥ -maxSkew) (.workerHandshakeExpired (field ++ " outside allowed skew"))

def validateChallengeFreshness (c : Challenge) (now : Int) : Except Error Unit := do
  validateTimestampSkew c.issuedAt now "challenge.issued_at"
  require ((checkedProtoTime c.expiresAt).any fun expiresAt => now < expiresAt) (.workerHandshakeExpired "challenge expired")

def validateSignedSchedulerPacket (config : Config Key Pub) (packet : Packet) (now : Int) : Except Error Unit := do
  wrap "scheduler packet" (validateWorkerTrustPacket packet)
  require (packet.senderId == config.expectedSchedulerId) (.workerHandshakeBinding "scheduler sender differs")
  validateTimestampSkew packet.createdAt now "created_at"
  wrap "scheduler signature" (verifyTrustHandshake crypto packet config.schedulerPublicKeys)

def workerKeys (config : Config Key Pub) : List (String × Pub) :=
  [(config.proofKeyId,crypto.publicKey config.proofPrivateKey)]

def correlates (config : Config Key Pub) (r : ChallengeRequest) (c : Challenge) : Bool :=
  c.requestId == r.requestId && c.traceId == r.traceId && c.workerId == r.workerId && c.proofKeyId == r.proofKeyId &&
    c.proofAlgorithm == r.proofAlgorithm && c.audience == r.audience && c.purpose == r.purpose &&
    c.clientNonce == r.clientNonce && c.protocolVersion == r.protocolVersion && c.sdkVersion == r.sdkVersion &&
    c.agentId == config.expectedAgentId && c.tenantId == config.tenantId

def correlateChallengeRequest (config : Config Key Pub) (request response : Packet) : Except Error Challenge :=
  match request.payload,response.payload with
  | some (.challengeRequest r),some (.challenge c) => do
    require (correlates config r c) (.workerHandshakeBinding "challenge does not match request or expected identity")
    pure c
  | _,_ => throw (.workerHandshakeBinding "request or challenge missing")

def validateChallengePackets (config : Config Key Pub) (request response : Packet) (now : Int) : Except Error Unit := do
  wrap "request" (validateWorkerTrustPacket request)
  validateTimestampSkew request.createdAt now "request.created_at"
  wrap "request signature" (verifyTrustHandshake crypto request (workerKeys crypto config))
  validateSignedSchedulerPacket crypto config response now
  let challenge ← correlateChallengeRequest config request response
  validateChallengeFreshness challenge now

def verifyWorkerHandshakeChallenge (config : Config Key Pub) (request response : Packet) (now : Int) :
    Except Error Verified := do
  validateWorkerTrustConfig crypto config
  validateChallengePackets crypto config request response now
  pure ⟨request,response⟩

def resultOf (packet : Packet) : Option Result :=
  match packet.payload with
  | some (.result result) => some result
  | _ => none

def authenticateOf (packet : Packet) : Option Authenticate :=
  match packet.payload with
  | some (.authenticate authenticate) => some authenticate
  | _ => none

/-- The result that was checked, with the challenge inside it. -/
def validateResultPackets (config : Config Key Pub) (verified : Verified) (authenticate response : Packet) (now : Int) :
    Except Error Result := do
  wrap "authenticate" (validateWorkerTrustPacket authenticate)
  wrap "authenticate signature" (verifyTrustHandshake crypto authenticate (workerKeys crypto config))
  validateSignedSchedulerPacket crypto config response now
  let want := verifiedMessage verified
  match resultOf response with
  | none => throw (.workerHandshakeBinding "result challenge differs")
  | some result => do
    require (want == result.challenge && want == (authenticateOf authenticate).bind (·.challenge))
      (.workerHandshakeBinding "result challenge differs")
    match result.challenge with
    | none => throw (.workerHandshakeExpired "challenge expired")
    | some challenge => do
      validateChallengeFreshness challenge now
      validateTimestampSkew result.issuedAt now "result.issued_at"
      if result.accepted then do
        require ((checkedProtoTime result.tokenExpiresAt).any fun expiresAt => expiresAt > now)
          (.workerHandshakeExpired "result token is already expired")
        require (!(challenge.purpose == renewPurpose && response.authToken == authenticate.authToken))
          (.workerHandshakeBinding "renewal did not rotate session token")
      pure result

def verifyWorkerHandshakeResult (config : Config Key Pub) (verified : Verified) (authenticate response : Packet)
    (now : Int) : Except Error Session := do
  validateWorkerTrustConfig crypto config
  let result ← validateResultPackets crypto config verified authenticate response now
  require result.accepted (.rejection result.rejectionReason ((result.challenge.map (·.requestId)).getD "")
    config.expectedAgentId config.workerId)
  pure ⟨response.authToken,(checkedProtoTime result.issuedAt).getD zeroTime,
    (checkedProtoTime result.tokenExpiresAt).getD zeroTime⟩

end

end Cap.Trust.Go
