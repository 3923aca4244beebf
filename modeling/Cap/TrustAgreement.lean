import Cap.TrustEncoding
import Cap.TrustRuntime

/-!
Agreement of the trust handshake in the Go SDK. Replies may come from anyone. Under unforgeable
signatures an exchange that installs a session answers to a challenge and a result that the
scheduler signed for this very exchange, and with fresh nonces a signed result installs a session
once.
-/
namespace Cap.Trust
open Cap.Text Cap.Wire Cap.Checks
open Cap.ProductionSigning (Crypto)
open Cap.ChallengeResponse (Scheme Reply)

section

variable {Key Pub : Type} (crypto : Crypto Key Pub) (unmarshal : Bytes → Option Packet)

/-- A signature over a handshake transcript that verifies under a pinned key of the scheduler
    was made by the scheduler over a packet with this transcript. -/
def Unforgeable (config : Config Key Pub) (signed : Pub → Packet → Prop) : Prop :=
  ∀ keyID key packet hashed signature, config.schedulerPublicKeys.lookup keyID = some key →
    Go.marshalTrustHandshakeTranscript packet = .ok hashed → crypto.verify key (crypto.sha256 hashed) signature = true →
      ∃ origin, signed key origin ∧ Go.marshalTrustHandshakeTranscript origin = .ok hashed

def packetOf {τ : Type} (unmarshal : Bytes → Option Packet) : Reply τ Bytes → Option Packet
  | .data bytes => unmarshal bytes
  | .failed _ | .nothing => none

/-- The challenge names this exchange and nothing else. -/
structure Challenge.IsFor (config : Config Key Pub) (e : Exchange TransportError) (c : Challenge) : Prop where
  requestId : c.requestId = e.attempt.draws.requestId
  traceId : c.traceId = e.attempt.draws.traceId
  workerId : c.workerId = config.workerId
  agentId : c.agentId = config.expectedAgentId
  tenantId : c.tenantId = config.tenantId
  audience : c.audience = config.audience
  purpose : c.purpose = e.purpose
  clientNonce : c.clientNonce = e.attempt.draws.clientNonce

def LiveAt (timestamp : Option Timestamp) (now : Int) : Prop :=
  ∃ expiresAt, Go.checkedProtoTime timestamp = some expiresAt ∧ now < expiresAt

/-- The scheduler signed the challenge `c` in `issued` and the result `r` in `settled`, both
    for this exchange, and the session is the one of the result. -/
structure Vouched (config : Config Key Pub) (signed : Pub → Packet → Prop) (e : Exchange TransportError) (session : Session)
    (key : Pub) (issued settled : Packet) (c : Challenge) (r : Result) : Prop where
  pinned : config.schedulerPublicKeys.lookup c.serverKeyId = some key
  signedChallenge : signed key issued
  signedResult : signed key settled
  senders : issued.senderId = config.expectedSchedulerId ∧ settled.senderId = config.expectedSchedulerId
  traces : issued.traceId = e.attempt.draws.traceId ∧ settled.traceId = e.attempt.draws.traceId
  isChallenge : issued.payload = some (.challenge c)
  isResult : settled.payload = some (.result r)
  isFor : c.IsFor config e
  accepted : r.accepted = true
  verified : ((packetOf unmarshal e.attempt.challengeReply).bind (·.payload)) = some (.challenge c)
  embeds : r.challenge = some c
  challengeLive : LiveAt c.expiresAt e.attempt.challengeAt ∧ LiveAt c.expiresAt e.attempt.resultAt
  expiry : Go.checkedProtoTime r.tokenExpiresAt = some session.expiresAt
  tokenLive : e.attempt.resultAt < session.expiresAt
  token : session.token = settled.authToken
  rotated : e.purpose = renewPurpose → session.token ≠ e.presented

def Agreement (config : Config Key Pub) (signed : Pub → Packet → Prop) (e : Exchange TransportError) (session : Session) : Prop :=
  ∃ key issued settled c r, Vouched unmarshal config signed e session key issued settled c r

end

/-! ### What the checks of the SDK establish -/

namespace Go

section

variable {Key Pub : Type} {crypto : Crypto Key Pub} {config : Config Key Pub}

variable {randomness : Nat} {packet : Packet} {u : Unit} {c : Challenge} {r : Result} {now : Int}
  {verified : Verified}

theorem signTrustHandshake_ok {signed : Packet} {key : Key}
    (ok : signTrustHandshake crypto packet key randomness = .ok signed) :
    ∃ signature, signed = { packet with signature } := by
  simp only [signTrustHandshake,bind_eq_ok,pure_eq_ok] at ok
  obtain ⟨_,_,_,_,_,_,_,_,rfl⟩ := ok
  exact ⟨_,rfl⟩

/-- A packet that verifies carries a signature over its transcript by the key it names. -/
theorem verifyTrustHandshake_ok {keys : List (String × Pub)}
    (ok : verifyTrustHandshake crypto packet keys = .ok u) :
    ∃ keyID key hashed, trustHandshakeKeyID packet = .ok keyID ∧ keys.lookup keyID = some key ∧
      marshalTrustHandshakeTranscript packet = .ok hashed ∧
      crypto.verify key (crypto.sha256 hashed) packet.signature = true := by
  simp only [verifyTrustHandshake,bind_eq_ok] at ok
  obtain ⟨keyID,isKey,_,_,ok⟩ := ok
  cases found : keys.lookup keyID with
  | none => simp [found] at ok
  | some key =>
    simp only [found,bind_eq_ok,require_eq_ok,trustHandshakeDigest,pure_eq_ok] at ok
    obtain ⟨_,_,_,_,_,⟨hashed,isTranscript,rfl⟩,checked⟩ := ok
    exact ⟨keyID,key,hashed,isKey,found,isTranscript,checked⟩

theorem validate_challenge (carried : packet.payload = some (.challenge c))
    (ok : validateWorkerTrustPacket packet = .ok u) : packet.traceId = c.traceId := by
  simp only [validateWorkerTrustPacket,validateBusPacket,validateWorkerTrustPayload,carried,validateChallengePayload,
    bind_eq_ok,require_eq_ok,beq_iff_eq] at ok
  obtain ⟨_,_,_,_,_,_,_,_,_,_,_,_,_,_,_,_,_,trace,-⟩ := ok
  exact trace

theorem validate_result
    (carried : packet.payload = some (.result r)) (embedded : r.challenge = some c)
    (ok : validateWorkerTrustPacket packet = .ok u) : packet.traceId = c.traceId := by
  simp only [validateWorkerTrustPacket,validateBusPacket,validateWorkerTrustPayload,carried,validateResultPayload,embedded,
    validateChallengePayload,bind_eq_ok,require_eq_ok,beq_iff_eq] at ok
  obtain ⟨_,_,_,_,_,_,_,_,_,_,_,_,_,_,_,_,_,⟨_,_,_,trace,-⟩,-⟩ := ok
  exact trace

/-- The checks of a scheduler's packet. -/
structure FromScheduler (crypto : Crypto Key Pub) (config : Config Key Pub) (packet : Packet) : Prop where
  valid : validateWorkerTrustPacket packet = .ok ()
  sender : packet.senderId = config.expectedSchedulerId
  verifies : verifyTrustHandshake crypto packet config.schedulerPublicKeys = .ok ()

theorem validateSignedSchedulerPacket_ok
    (ok : validateSignedSchedulerPacket crypto config packet now = .ok u) : FromScheduler crypto config packet := by
  simp only [validateSignedSchedulerPacket,bind_eq_ok,wrap_eq_ok,require_eq_ok,beq_iff_eq] at ok
  obtain ⟨_,valid,_,sender,_,_,verifies⟩ := ok
  exact ⟨valid,sender,verifies⟩

theorem validateChallengeFreshness_ok
    (ok : validateChallengeFreshness c now = .ok u) : LiveAt c.expiresAt now := by
  simp only [validateChallengeFreshness,bind_eq_ok,require_eq_ok,Option.any_eq_true,decide_eq_true_eq] at ok
  obtain ⟨_,_,expiresAt,found,live⟩ := ok
  exact ⟨expiresAt,found,live⟩

theorem verifyWorkerHandshakeChallenge_ok {request response : Packet}
    (ok : verifyWorkerHandshakeChallenge crypto config request response now = .ok verified) :
    verified = ⟨request,response⟩ ∧ FromScheduler crypto config response ∧ ∃ r c,
      request.payload = some (.challengeRequest r) ∧ response.payload = some (.challenge c) ∧
      correlates config r c = true ∧ LiveAt c.expiresAt now := by
  simp only [verifyWorkerHandshakeChallenge,validateChallengePackets,bind_eq_ok,pure_eq_ok] at ok
  obtain ⟨_,_,_,⟨_,_,_,_,_,_,_,scheduled,c,correlated,fresh⟩,rfl⟩ := ok
  refine ⟨rfl,validateSignedSchedulerPacket_ok scheduled,?_⟩
  unfold correlateChallengeRequest at correlated
  split at correlated
  · rename_i r d isRequest isChallenge
    simp only [bind_eq_ok,require_eq_ok,pure_eq_ok] at correlated
    obtain ⟨_,correlated,rfl⟩ := correlated
    exact ⟨r,d,isRequest,isChallenge,correlated,validateChallengeFreshness_ok fresh⟩
  · simp at correlated

theorem buildWorkerHandshakeChallengeRequest_ok {options : RequestOptions} {request : Packet}
    (ok : buildWorkerHandshakeChallengeRequest crypto config options randomness = .ok request) :
    request.payload = (challengeRequest config options).payload := by
  simp only [buildWorkerHandshakeChallengeRequest,bind_eq_ok,wrap_eq_ok,pure_eq_ok] at ok
  obtain ⟨_,_,_,_,_,signed,_,_,rfl⟩ := ok
  obtain ⟨signature,rfl⟩ := signTrustHandshake_ok signed
  rfl

theorem buildWorkerHandshakeAuthenticate_ok {capability : Handshake} {token : String}
    {createdAt : Int} {authenticate : Packet}
    (ok : buildWorkerHandshakeAuthenticate crypto config verified capability token createdAt randomness = .ok authenticate) :
    authenticate.authToken = token := by
  simp only [buildWorkerHandshakeAuthenticate,bind_eq_ok] at ok
  obtain ⟨_,_,ok⟩ := ok
  split at ok
  · simp at ok
  · simp only [bind_eq_ok,wrap_eq_ok,pure_eq_ok] at ok
    obtain ⟨_,_,_,_,_,_,_,_,_,signed,_,_,rfl⟩ := ok
    obtain ⟨signature,rfl⟩ := signTrustHandshake_ok signed
    rfl

theorem validate_accepted (carried : packet.payload = some (.result r))
    (accepted : r.accepted = true) (ok : validateWorkerTrustPacket packet = .ok u) : packet.authToken ≠ "" := by
  simp only [validateWorkerTrustPacket,validateBusPacket,validateWorkerTrustPayload,carried,validateResultPayload,
    bind_eq_ok] at ok
  obtain ⟨_,_,_,_,_,_,_,_,_,_,_,_,_,_,ok⟩ := ok
  split at ok
  · simp at ok
  · simp only [bind_eq_ok] at ok
    obtain ⟨_,_,_,_,ok⟩ := ok
    split at ok
    · simp at ok
    · simp only [accepted,if_true,validateAcceptedResult,validSessionToken,bind_eq_ok,require_eq_ok,Bool.and_eq_true,
        bne_iff_ne] at ok
      obtain ⟨_,⟨⟨⟨⟨present,-⟩,-⟩,-⟩,-⟩,-⟩ := ok
      exact present

theorem resultOf_eq_some : resultOf packet = some r ↔ packet.payload = some (.result r) := by
  unfold resultOf
  split <;> simp_all

theorem verifyWorkerHandshakeResult_ok {authenticate response : Packet}
    {session : Session} (ok : verifyWorkerHandshakeResult crypto config verified authenticate response now = .ok session) :
    FromScheduler crypto config response ∧ session.token = response.authToken ∧ ∃ r c,
      response.payload = some (.result r) ∧ r.accepted = true ∧ r.challenge = some c ∧ verifiedMessage verified = some c ∧
      LiveAt c.expiresAt now ∧ checkedProtoTime r.tokenExpiresAt = some session.expiresAt ∧ now < session.expiresAt ∧
      (c.purpose = renewPurpose → response.authToken ≠ authenticate.authToken) := by
  simp only [verifyWorkerHandshakeResult,validateResultPackets,bind_eq_ok,require_eq_ok,pure_eq_ok] at ok
  obtain ⟨_,_,r,⟨_,_,_,_,_,scheduled,checked⟩,_,accepted,rfl⟩ := ok
  refine ⟨validateSignedSchedulerPacket_ok scheduled,rfl,?_⟩
  cases isResult : resultOf response with
  | none => simp [isResult] at checked
  | some found =>
    simp only [isResult,bind_eq_ok,require_eq_ok,Bool.and_eq_true,beq_iff_eq] at checked
    obtain ⟨_,⟨embeds,-⟩,checked⟩ := checked
    cases embedded : found.challenge with
    | none => simp [embedded] at checked
    | some c =>
      simp only [embedded,bind_eq_ok] at checked
      obtain ⟨_,fresh,_,_,checked⟩ := checked
      by_cases isAccepted : found.accepted = true
      · simp only [isAccepted,if_true,bind_eq_ok,require_eq_ok,pure_eq_ok,Option.any_eq_true,
          Bool.not_eq_true',Bool.and_eq_false_imp,beq_iff_eq,beq_eq_false_iff_ne] at checked
        obtain ⟨_,⟨expiresAt,expiry,live⟩,_,rotated,rfl⟩ := checked
        refine ⟨found,c,resultOf_eq_some.mp isResult,accepted,embedded,embeds.trans embedded,
          validateChallengeFreshness_ok fresh,?_,?_,rotated⟩
        · simp [expiry]
        · simpa [expiry] using live
      · simp [isAccepted] at checked
        rw [checked] at isAccepted
        exact absurd accepted isAccepted

end

end Go

section

variable {Key Pub : Type} {crypto : Crypto Key Pub} {unmarshal : Bytes → Option Packet} {classify : TransportError → Failure}
  {config : Config Key Pub} {signed : Pub → Packet → Prop}

variable {packet : Packet} {worker : Worker Key Pub} {c : Challenge} {e : Exchange TransportError}

theorem roundTrip_ok {purpose : Int32} {token : String} {response : Packet}
    {reply : Reply TransportError Bytes}
    (ok : (scheme crypto unmarshal classify worker purpose token).roundTrip packet reply = .ok response) :
    packetOf unmarshal reply = some response := by
  simp only [Scheme.roundTrip,bind_eq_ok] at ok
  obtain ⟨_,_,ok⟩ := ok
  cases reply with
  | failed error | nothing => simp [Scheme.receive] at ok
  | data bytes =>
    simp only [Scheme.receive,scheme,sdk_eq_ok,Go.unmarshalWorkerTrustPacket,bind_eq_ok] at ok
    obtain ⟨_,_,ok⟩ := ok
    cases decoded : unmarshal bytes with
    | none => simp [decoded] at ok
    | some packet =>
      simp only [decoded,bind_eq_ok,pure_eq_ok] at ok
      obtain ⟨_,_,rfl⟩ := ok
      exact decoded

/-- The scheduler signed what a challenge or a result of its says. -/
theorem Unforgeable.origin (unforgeable : Unforgeable crypto config signed)
    (reply : packet.phase? = some .challenge ∨ packet.phase? = some .result) (from_ : Go.FromScheduler crypto config packet) :
    ∃ keyID key origin, Go.trustHandshakeKeyID packet = .ok keyID ∧ config.schedulerPublicKeys.lookup keyID = some key ∧
      signed key origin ∧ packet.SaysSame origin := by
  obtain ⟨keyID,key,hashed,isKey,found,isTranscript,checked⟩ := Go.verifyTrustHandshake_ok from_.verifies
  obtain ⟨origin,isSigned,same⟩ := unforgeable keyID key packet hashed packet.signature found isTranscript checked
  exact ⟨keyID,key,origin,isKey,found,isSigned,Go.transcript_inj reply isTranscript same⟩

private theorem keyID_challenge {keyID : String}
    (carried : packet.payload = some (.challenge c)) (ok : Go.trustHandshakeKeyID packet = .ok keyID) :
    keyID = c.serverKeyId := by
  simp only [Go.trustHandshakeKeyID,carried,bind_eq_ok,pure_eq_ok] at ok
  obtain ⟨_,_,_,_,rfl⟩ := ok
  rfl

private theorem keyID_result {r : Result} {keyID : String}
    (carried : packet.payload = some (.result r)) (embedded : r.challenge = some c)
    (ok : Go.trustHandshakeKeyID packet = .ok keyID) : keyID = c.serverKeyId := by
  obtain ⟨challenge,accepted,reason,expiresAt,issuedAt,unknown⟩ := r
  subst embedded
  simp only [Go.trustHandshakeKeyID,carried,bind_eq_ok,pure_eq_ok] at ok
  obtain ⟨_,_,_,_,rfl⟩ := ok
  rfl

private theorem isFor_of_correlates {r : ChallengeRequest}
    (isRequest : (Go.challengeRequest config ⟨e.attempt.draws.requestId,e.attempt.draws.traceId,e.purpose,e.attempt.draws.clientNonce,
      e.attempt.draws.createdAt⟩).payload = some (.challengeRequest r))
    (correlated : Go.correlates config r c = true) : c.IsFor config e := by
  obtain rfl := Payload.challengeRequest.inj (Option.some.inj isRequest)
  simp only [Go.correlates,Bool.and_eq_true,beq_iff_eq] at correlated
  obtain ⟨⟨⟨⟨⟨⟨⟨⟨⟨⟨⟨requestId,traceId⟩,workerId⟩,-⟩,-⟩,audience⟩,purpose⟩,clientNonce⟩,-⟩,-⟩,agentId⟩,tenantId⟩ := correlated
  exact ⟨requestId,traceId,workerId,agentId,tenantId,audience,purpose,clientNonce⟩

/-- What an exchange that yields a session has checked, whoever signed. -/
structure Established (crypto : Crypto Key Pub) (unmarshal : Bytes → Option Packet) (config : Config Key Pub)
    (e : Exchange TransportError) (session : Session) (challenge response : Packet) (c : Challenge) (r : Result) : Prop where
  challengeReply : packetOf unmarshal e.attempt.challengeReply = some challenge
  resultReply : packetOf unmarshal e.attempt.resultReply = some response
  fromChallenge : Go.FromScheduler crypto config challenge
  fromResult : Go.FromScheduler crypto config response
  isChallenge : challenge.payload = some (.challenge c)
  isResult : response.payload = some (.result r)
  isFor : c.IsFor config e
  accepted : r.accepted = true
  embeds : r.challenge = some c
  challengeLive : LiveAt c.expiresAt e.attempt.challengeAt ∧ LiveAt c.expiresAt e.attempt.resultAt
  expiry : Go.checkedProtoTime r.tokenExpiresAt = some session.expiresAt
  tokenLive : e.attempt.resultAt < session.expiresAt
  token : session.token = response.authToken
  rotated : e.purpose = renewPurpose → session.token ≠ e.presented

def Exchange.Installs (crypto : Crypto Key Pub) (unmarshal : Bytes → Option Packet) (classify : TransportError → Failure)
    (worker : Worker Key Pub) (e : Exchange TransportError) (session : Session) : Prop :=
  (scheme crypto unmarshal classify worker e.purpose e.presented).exchange e.attempt = .ok session

theorem Exchange.Installs.established {session : Session}
    (installs : e.Installs crypto unmarshal classify worker session) :
    ∃ challenge response c r, Established crypto unmarshal worker.config e session challenge response c r := by
  simp only [Exchange.Installs,Scheme.exchange,bind_eq_ok] at installs
  obtain ⟨request,built,challenge,gotChallenge,verified,isVerified,authenticate,builtAuth,response,gotResult,isResult⟩ :=
    installs
  obtain ⟨rfl,fromChallenge,request',c,isRequest,isChallenge,correlated,challengeLive⟩ :=
    Go.verifyWorkerHandshakeChallenge_ok (sdk_eq_ok.mp isVerified)
  obtain ⟨fromResult,token,r,d,carried,accepted,embeds,same,resultLive,expiry,tokenLive,rotated⟩ :=
    Go.verifyWorkerHandshakeResult_ok (sdk_eq_ok.mp isResult)
  obtain rfl : c = d := by simpa [Go.verifiedMessage,isChallenge] using same
  have isFor : c.IsFor worker.config e := by
    apply isFor_of_correlates _ correlated
    rw [← Go.buildWorkerHandshakeChallengeRequest_ok (sdk_eq_ok.mp built),isRequest]
  refine ⟨challenge,response,c,r,?_⟩
  exact {
    challengeReply := roundTrip_ok gotChallenge
    resultReply := roundTrip_ok gotResult
    fromChallenge,fromResult,isChallenge,accepted,embeds,isFor,expiry,tokenLive,token
    isResult := carried
    challengeLive := ⟨challengeLive,resultLive⟩
    rotated := by
      intro renewing
      rw [token,← Go.buildWorkerHandshakeAuthenticate_ok (sdk_eq_ok.mp builtAuth)]
      exact rotated (isFor.purpose.trans renewing) }

theorem Exchange.Installs.token_ne {session : Session}
    (installs : e.Installs crypto unmarshal classify worker session) : session.token ≠ "" := by
  obtain ⟨_,_,_,_,est⟩ := installs.established
  rw [est.token]
  exact Go.validate_accepted est.isResult est.accepted est.fromResult.valid

variable {e : Exchange TransportError} {session : Session} {challenge response : Packet} {c : Challenge} {r : Result}

private theorem phase_challenge (carried : challenge.payload = some (.challenge c)) : challenge.phase? = some .challenge := by
  simp [Packet.phase?,carried]

private theorem phase_result (carried : response.payload = some (.result r)) : response.phase? = some .result := by
  simp [Packet.phase?,carried]

theorem Established.agreement (unforgeable : Unforgeable crypto config signed)
    (h : Established crypto unmarshal config e session challenge response c r) : Agreement unmarshal config signed e session := by
  obtain ⟨_,key,issued,isKey,pinned,signedChallenge,saidChallenge⟩ :=
    unforgeable.origin (.inl (phase_challenge h.isChallenge)) h.fromChallenge
  obtain ⟨_,key',settled,isKey',pinned',signedResult,saidResult⟩ :=
    unforgeable.origin (.inr (phase_result h.isResult)) h.fromResult
  obtain rfl := keyID_challenge h.isChallenge isKey
  obtain rfl := keyID_result h.isResult h.embeds isKey'
  obtain rfl : key = key' := Option.some.inj (pinned.symm.trans pinned')
  have challengeTrace := Go.validate_challenge h.isChallenge h.fromChallenge.valid
  have resultTrace := Go.validate_result h.isResult h.embeds h.fromResult.valid
  refine ⟨key,issued,settled,c,r,?_⟩
  exact {
    pinned,signedChallenge,signedResult
    senders := ⟨saidChallenge.senderId.symm.trans h.fromChallenge.sender,
      saidResult.senderId.symm.trans h.fromResult.sender⟩
    traces := ⟨saidChallenge.traceId.symm.trans (challengeTrace.trans h.isFor.traceId),
      saidResult.traceId.symm.trans (resultTrace.trans h.isFor.traceId)⟩
    isChallenge := saidChallenge.payload.symm.trans h.isChallenge
    isResult := saidResult.payload.symm.trans h.isResult
    isFor := h.isFor
    accepted := h.accepted
    verified := by rw [h.challengeReply,Option.bind_some,h.isChallenge]
    embeds := h.embeds
    challengeLive := h.challengeLive
    expiry := h.expiry
    tokenLive := h.tokenLive
    token := h.token.trans saidResult.authToken
    rotated := h.rotated }

/-- The exchange yields a session by a reply with the transcript of this result. -/
def Exchange.InstalledBy (crypto : Crypto Key Pub) (unmarshal : Bytes → Option Packet) (classify : TransportError → Failure)
    (worker : Worker Key Pub) (settled : Packet) (e : Exchange TransportError) : Prop :=
  ∃ session response, e.Installs crypto unmarshal classify worker session ∧
    packetOf unmarshal e.attempt.resultReply = some response ∧
    Go.marshalTrustHandshakeTranscript response = Go.marshalTrustHandshakeTranscript settled

/-- Every session comes with agreement, and no result installs one in two exchanges. -/
structure Agreed (crypto : Crypto Key Pub) (unmarshal : Bytes → Option Packet) (classify : TransportError → Failure)
    (worker : Worker Key Pub) (signed : Pub → Packet → Prop) (exchanges : List (Exchange TransportError)) : Prop where
  agreement : ∀ e ∈ exchanges, ∀ session, e.Installs crypto unmarshal classify worker session →
    Agreement unmarshal worker.config signed e session
  once : ∀ settled, exchanges.Pairwise fun e f =>
    ¬ (e.InstalledBy crypto unmarshal classify worker settled ∧ f.InstalledBy crypto unmarshal classify worker settled)

def nonces (exchanges : List (Exchange TransportError)) : List Bytes := exchanges.map (·.attempt.draws.clientNonce)

/-- The result fixes the client nonce of the exchange. -/
theorem Exchange.InstalledBy.nonce {settled : Packet} {f : Exchange TransportError}
    (one : e.InstalledBy crypto unmarshal classify worker settled)
    (other : f.InstalledBy crypto unmarshal classify worker settled) : e.attempt.draws.clientNonce = f.attempt.draws.clientNonce := by
  obtain ⟨_,p,installs,reply,same⟩ := one
  obtain ⟨_,q,installs',reply',same'⟩ := other
  obtain ⟨_,_,c,r,est⟩ := installs.established
  obtain ⟨_,_,c',r',est'⟩ := installs'.established
  obtain rfl := Option.some.inj (reply.symm.trans est.resultReply)
  obtain rfl := Option.some.inj (reply'.symm.trans est'.resultReply)
  obtain ⟨_,_,hashed,_,_,isTranscript,_⟩ := Go.verifyTrustHandshake_ok est.fromResult.verifies
  have said := Go.transcript_inj (.inr (phase_result est.isResult)) isTranscript (same'.trans (same.symm.trans isTranscript))
  have results : r = r' := by simpa [est.isResult,est'.isResult] using said.payload
  have challenges : some c = some c' := by rw [← est.embeds,results,est'.embeds]
  rw [← est.isFor.clientNonce,Option.some.inj challenges,est'.isFor.clientNonce]

theorem agreed_of_fresh {exchanges : List (Exchange TransportError)}
    (unforgeable : Unforgeable crypto worker.config signed) (fresh : (nonces exchanges).Nodup) :
    Agreed crypto unmarshal classify worker signed exchanges where
  agreement := by
    intro e _ session installs
    obtain ⟨_,_,_,_,est⟩ := installs.established
    exact est.agreement unforgeable
  once := by
    intro settled
    refine (List.pairwise_map.mp fresh).imp ?_
    rintro e f apart ⟨one,other⟩
    exact apart (one.nonce other)

end

namespace Runtime

section

variable {Key Pub : Type} {crypto : Crypto Key Pub} {unmarshal : Bytes → Option Packet} {agent : Agent Key Pub}
  {trust : Config Key Pub}

/-- A session of the agent was installed by one of its exchanges. -/
def Held (crypto : Crypto Key Pub) (unmarshal : Bytes → Option Packet) (agent : Agent Key Pub) (trust : Config Key Pub)
    (s : State) : Prop :=
  s.session.token ≠ "" → ∃ e ∈ s.exchanges, ∃ session,
    e.Installs crypto unmarshal classify ⟨trust,agent.capability⟩ session ∧ s.session = ⟨session.token,session.expiresAt⟩

theorem attemptLoop_ok {exchange : Attempt TransportError → Except Failure Session} {tries : List Try} {session : Session}
    (ok : (attemptLoop exchange tries).1 = .ok session) :
    ∃ attempt ∈ (attemptLoop exchange tries).2, exchange attempt = .ok session := by
  induction tries with
  | nil => simp [attemptLoop] at ok
  | cons next rest ih =>
    rw [attemptLoop] at ok ⊢
    by_cases done : next.done = true
    · simp [done] at ok
    · cases found : exchange next.attempt with
      | ok established =>
        obtain rfl : established = session := by simpa [done,found] using ok
        exact ⟨next.attempt,by simp [done],found⟩
      | error failure =>
        simp only [done,found,Bool.false_eq_true,if_false] at ok ⊢
        split at ok
        · simp at ok
        · split_ifs at ok ⊢
          obtain ⟨attempt,made,yields⟩ := ih ok
          exact ⟨attempt,List.mem_cons_of_mem _ made,yields⟩

/-- A handshake leaves the session, clears it or installs the one of an exchange it made. -/
def Outcome.Sound (crypto : Crypto Key Pub) (unmarshal : Bytes → Option Packet) (agent : Agent Key Pub)
    (trust : Config Key Pub) (before : SessionState) (o : Outcome) : Prop :=
  o.session = before ∨ o.session = .empty ∨ ∃ e ∈ o.exchanges, ∃ session,
    e.Installs crypto unmarshal classify ⟨trust,agent.capability⟩ session ∧ o.session = ⟨session.token,session.expiresAt⟩

theorem startup_trust (trusted : agent.trust = some trust) {found : Config Key Pub}
    (ok : validateTrustStartup crypto agent = .ok (some found)) : found = trust := by
  unfold validateTrustStartup at ok
  rw [trusted] at ok
  split at ok
  · simp at ok
  · simp at ok
  · simp at ok
  · simp only [bind_eq_ok,pure_eq_ok,Option.some.injEq] at ok
    rename_i same _
    obtain ⟨_,_,_,_,_,_,_,_,rfl⟩ := ok
    exact (Option.some.inj same).symm

theorem performTrustHandshake_sound (trusted : agent.trust = some trust) {purpose : Int32} {token : String}
    {tries : Nat → Try} {before : SessionState} :
    (performTrustHandshake crypto unmarshal agent purpose token tries before).Sound crypto unmarshal agent trust before := by
  unfold performTrustHandshake
  split
  · exact .inl rfl
  · exact .inl rfl
  · rename_i found started
    obtain rfl := startup_trust trusted started
    split_ifs with requests
    · exact .inl rfl
    · dsimp only
      split
      · rename_i established ok
        obtain ⟨attempt,made,yields⟩ := attemptLoop_ok ok
        exact .inr (.inr ⟨⟨purpose,token,attempt⟩,List.mem_map_of_mem made,established,yields,rfl⟩)
      · unfold clearFailedRenewal
        split_ifs
        · exact .inl rfl
        · exact .inr (.inl rfl)

theorem SessionState.active_eq (now : Int) (session : SessionState) :
    session.active now = session ∨ session.active now = .empty := by
  unfold active
  split_ifs
  · exact .inr rfl
  · exact .inl rfl

theorem performRenew_sound (trusted : agent.trust = some trust) {now : Int} {tries : Nat → Try} {before : SessionState} :
    (performRenew crypto unmarshal agent now tries before).Sound crypto unmarshal agent trust before := by
  unfold performRenew
  dsimp only
  rcases SessionState.active_eq now before with same | dropped
  · rw [same]
    split_ifs
    · exact .inl rfl
    · exact performTrustHandshake_sound trusted
  · rw [dropped]
    exact .inr (.inl rfl)

private theorem held_of_sound {s : State} {o : Outcome} (held : Held crypto unmarshal agent trust s)
    (sound : o.Sound crypto unmarshal agent trust s.session) :
    Held crypto unmarshal agent trust ⟨o.session,s.exchanges ++ o.exchanges⟩ := by
  intro present
  rcases sound with same | dropped | ⟨e,made,session,installs,same⟩
  · obtain ⟨e,made,rest⟩ := held (by simpa [same] using present)
    exact ⟨e,List.mem_append_left _ made,by simpa [same] using rest⟩
  · exact absurd (by simp [dropped,SessionState.empty]) present
  · exact ⟨e,List.mem_append_right _ made,session,installs,same⟩

private theorem held_empty {exchanges : List (Exchange TransportError)} : Held crypto unmarshal agent trust ⟨.empty,exchanges⟩ :=
  fun present => absurd rfl present

theorem step_held (trusted : agent.trust = some trust) {s : State} (op : Op) (held : Held crypto unmarshal agent trust s) :
    Held crypto unmarshal agent trust (step crypto unmarshal agent s op) := by
  cases op with
  | start tries =>
    simp only [step]
    split_ifs
    · exact held_of_sound held (performTrustHandshake_sound trusted)
    · exact held_empty
  | read now =>
    rcases SessionState.active_eq now s.session with same | dropped
    · simpa [step,same] using held
    · simpa [step,dropped] using held_empty
  | renew now tries => exact held_of_sound held (performRenew_sound trusted)
  | close => exact held_empty

def run (crypto : Crypto Key Pub) (unmarshal : Bytes → Option Packet) (agent : Agent Key Pub) (ops : List Op) : State :=
  ops.foldl (step crypto unmarshal agent) init

theorem run_held (trusted : agent.trust = some trust) (ops : List Op) :
    Held crypto unmarshal agent trust (run crypto unmarshal agent ops) := by
  induction ops using List.reverseRecOn with
  | nil => exact held_empty
  | append_singleton ops op ih =>
    rw [run,List.foldl_concat]
    exact step_held trusted op ih

end

end Runtime

namespace Managed

section

variable {Key Pub : Type} {crypto : Crypto Key Pub} {unmarshal : Bytes → Option Packet} {worker : Worker Key Pub}

/-- A session of the worker was installed by one of its exchanges. -/
def Held (crypto : Crypto Key Pub) (unmarshal : Bytes → Option Packet) (worker : Worker Key Pub) (s : State) : Prop :=
  s.session.token ≠ "" → ∃ e ∈ s.exchanges, e.Installs crypto unmarshal classify worker s.session

theorem token_eq (now : Int) (session : Session) : token now session = session ∨ token now session = noSession := by
  unfold token
  split_ifs
  · exact .inr rfl
  · exact .inl rfl

section

variable {s t : State}

private theorem held_none (none : t.session = noSession) : Held crypto unmarshal worker t :=
  fun present => absurd (by rw [none]; rfl) present

private theorem held_mono (held : Held crypto unmarshal worker s) (same : t.session = s.session)
    (more : ∀ e ∈ s.exchanges, e ∈ t.exchanges) : Held crypto unmarshal worker t := by
  intro present
  rw [same] at present ⊢
  obtain ⟨e,made,installs⟩ := held present
  exact ⟨e,more e made,installs⟩

private theorem held_token (held : Held crypto unmarshal worker s) (now : Int)
    (same : t.session = token now s.session) (more : ∀ e ∈ s.exchanges, e ∈ t.exchanges) :
    Held crypto unmarshal worker t := by
  rcases token_eq now s.session with kept | dropped
  · exact held_mono held (same.trans kept) more
  · exact held_none (same.trans dropped)

variable {mode : Mode}

theorem performInitialTrust_held {attempt : Attempt TransportError} (held : Held crypto unmarshal worker s) :
    Held crypto unmarshal worker (performInitialTrust crypto unmarshal worker mode attempt s).1 := by
  unfold performInitialTrust
  split_ifs
  · exact held
  · split
    · rename_i session ok
      intro _
      exact ⟨⟨issuePurpose,"",attempt⟩,by simp,ok⟩
    · exact held_mono held rfl (by simp +contextual)

theorem renew_held {snapshot : Session} {now later : Int} {attempt : Attempt TransportError}
    (held : Held crypto unmarshal worker s) :
    Held crypto unmarshal worker (renew crypto unmarshal worker mode snapshot now attempt later s) := by
  unfold renew
  dsimp only
  split
  · exact held_token held now rfl (by simp)
  split
  · exact held_token held now rfl (by simp)
  split
  · rename_i replacement ok
    intro _
    exact ⟨⟨renewPurpose,_,attempt⟩,by simp,ok⟩
  split
  · exact held_none rfl
  · -- The session may expire before the exchange or while it runs.
    rcases token_eq later (token now s.session) with kept | dropped
    · exact held_token held now kept (by simp +contextual)
    · exact held_none dropped

theorem step_held {op : Op} (held : Held crypto unmarshal worker s)
    (next : step crypto unmarshal worker mode s op = some t) : Held crypto unmarshal worker t := by
  cases op with
  | performInitialTrust attempt =>
    simp only [step,Option.ite_none_right_eq_some] at next
    obtain ⟨-,⟨⟩⟩ := next
    exact performInitialTrust_held held
  | startTrustRenewal now =>
    simp only [step,Option.ite_none_right_eq_some] at next
    obtain ⟨-,next⟩ := next
    split at next
    · cases next
      exact held
    · cases next
      exact held_token held now rfl (by simp)
  | look now =>
    simp only [step,Option.ite_none_right_eq_some] at next
    obtain ⟨-,⟨⟩⟩ := next
    exact held_token held now rfl (by simp)
  | renew now attempt later =>
    simp only [step] at next
    split at next
    · cases next
      exact renew_held held
    · cases next
  | again =>
    simp only [step,Option.ite_none_right_eq_some] at next
    obtain ⟨-,⟨⟩⟩ := next
    exact held
  | cancel =>
    cases next
    exact held
  | read now =>
    cases next
    by_cases off : mode = .off
    · exact held_mono held (by simp [off]) (by simp)
    · exact held_token held now (by simp [off]) (by simp)
  | close =>
    cases next
    exact held_none rfl

theorem run_held {ops : List Op} (reached : Runs.run (step crypto unmarshal worker mode) init ops = some s) :
    Held crypto unmarshal worker s :=
  Runs.invariant (fun _ _ _ held next => step_held held next) (held_none rfl) reached

end

end

end Managed

section

variable {Key Pub : Type} {crypto : Crypto Key Pub} {unmarshal : Bytes → Option Packet} {config : Config Key Pub}
  {signed : Pub → Packet → Prop}

/-- Whatever the replies, every session of an agent or a managed worker with this configuration
    was installed by an exchange that agrees with the scheduler, and no signed result installs
    a session twice. -/
theorem handshake_agreement (unforgeable : Unforgeable crypto config signed) :
    (∀ (agent : Runtime.Agent Key Pub) ops, agent.trust = some config →
      (nonces (Runtime.run crypto unmarshal agent ops).exchanges).Nodup →
        Runtime.Held crypto unmarshal agent config (Runtime.run crypto unmarshal agent ops) ∧
          Agreed crypto unmarshal Runtime.classify ⟨config,agent.capability⟩ signed
            (Runtime.run crypto unmarshal agent ops).exchanges) ∧
    (∀ capability mode ops s, Runs.run (Managed.step crypto unmarshal ⟨config,capability⟩ mode) Managed.init ops = some s →
      (nonces s.exchanges).Nodup →
        Managed.Held crypto unmarshal ⟨config,capability⟩ s ∧
          Agreed crypto unmarshal Managed.classify ⟨config,capability⟩ signed s.exchanges) := by
  constructor
  · intro agent ops trusted fresh
    exact ⟨Runtime.run_held trusted ops,agreed_of_fresh unforgeable fresh⟩
  · intro capability mode ops s reached fresh
    exact ⟨Managed.run_held reached,agreed_of_fresh unforgeable fresh⟩

end

namespace FirstSession

def challenge : Challenge where
  requestId := "request"
  challengeId := "challenge"
  traceId := "trace"
  workerId := "worker"
  agentId := "agent"
  tenantId := "tenant"
  proofKeyId := "proof"
  proofAlgorithm := 1
  serverKeyId := "server"
  audience := "cordum-scheduler"
  purpose := 1
  clientNonce := List.replicate 32 1
  serverNonce := List.replicate 32 2
  protocolVersion := 1
  sdkVersion := "cap"
  issuedAt := some ⟨1800000000,0,[]⟩
  expiresAt := some ⟨1800000030,0,[]⟩
  unknown := []

def issued : Packet where
  traceId := "trace"
  senderId := "scheduler"
  createdAt := some ⟨1800000000,0,[]⟩
  protocolVersion := 1
  signatureMetadata := none
  identity := none
  payload := some (.challenge challenge)
  signature := [1]
  authToken := ""
  unknown := []

def settled : Packet :=
  { issued with
    authToken := "session"
    payload := some (.result ⟨some challenge,true,0,some ⟨1800003600,0,[]⟩,some ⟨1800000000,0,[]⟩,[]⟩) }

/-- The worker's key is `false`, that of the scheduler is `true` and signs the two packets only. -/
def crypto : Crypto Unit Bool where
  publicKey := fun _ => false
  p256 := fun _ => true
  sha256 := id
  sign := fun _ _ _ => [1]
  verify := fun key digest _ => !key || digest == transcriptOf .challenge issued || digest == transcriptOf .result settled

def config : Config Unit Bool where
  workerId := "worker"
  expectedAgentId := "agent"
  tenantId := "tenant"
  audience := "cordum-scheduler"
  proofKeyId := "proof"
  proofPrivateKey := ()
  expectedSchedulerId := "scheduler"
  schedulerPublicKeys := [("server",true)]
  sdkVersion := "cap"

def unmarshal (bytes : Bytes) : Option Packet :=
  if bytes = Go.marshal issued then some issued else if bytes = Go.marshal settled then some settled else none

def agent : Runtime.Agent Unit Bool where
  mode := .enforce
  trust := some config
  capability := ⟨"worker",3,[1],[("cancel",true)],by decide,"cap",["job.a"],"",[]⟩
  legacySigning := false
  senderID := ""
  handshakeTimeout := 0
  handshakeRetries := 0
  requester := true

def attempt : Attempt TransportError where
  draws := {
    requestId := "request"
    traceId := "trace"
    clientNonce := List.replicate 32 1
    createdAt := 1800000000000000000
    requestRandomness := 0
    authenticateAt := 1800000001000000000
    authenticateRandomness := 0 }
  challengeReply := .data (Go.marshal issued)
  challengeAt := 1800000001000000000
  resultReply := .data (Go.marshal settled)
  resultAt := 1800000002000000000

def state : Runtime.State := Runtime.run crypto unmarshal agent [.start fun _ => ⟨false,attempt,true⟩]

/-- The packets that the scheduler signed. -/
def signed (key : Bool) (packet : Packet) : Prop := key = true ∧ (packet = issued ∨ packet = settled)

theorem unforgeable : Unforgeable crypto config signed := by
  intro keyID key packet hashed signature pinned _ verifies
  obtain rfl : key = true := by
    simp only [config,List.lookup_cons,List.lookup_nil] at pinned
    split at pinned
    · exact (Option.some.inj pinned).symm
    · cases pinned
  have one : Go.marshalTrustHandshakeTranscript issued = .ok (transcriptOf .challenge issued) := by decide +kernel
  have other : Go.marshalTrustHandshakeTranscript settled = .ok (transcriptOf .result settled) := by decide +kernel
  simp only [crypto,Bool.not_true,Bool.false_or,Bool.or_eq_true,beq_iff_eq] at verifies
  rcases verifies with rfl | rfl
  · exact ⟨issued,⟨rfl,.inl rfl⟩,one⟩
  · exact ⟨settled,⟨rfl,.inr rfl⟩,other⟩

theorem first_session_agrees :
    state.session = ⟨"session",1800003600000000000⟩ ∧ ∃ e ∈ state.exchanges, ∃ session,
      session.token = "session" ∧ Agreement unmarshal config signed e session := by
  have installed : state.session = ⟨"session",1800003600000000000⟩ := by
    decide +kernel
  have fresh : (nonces state.exchanges).Nodup := by
    decide +kernel
  obtain ⟨held,agreed⟩ := (handshake_agreement unforgeable).1 agent [.start fun _ => ⟨false,attempt,true⟩] rfl fresh
  obtain ⟨e,made,session,installs,same⟩ := held (by rw [show Runtime.run _ _ _ _ = state from rfl,installed]; decide)
  have token : session.token = "session" := by
    have := same.symm.trans installed
    exact congrArg Runtime.SessionState.token this
  exact ⟨installed,e,made,session,token,agreed.agreement e made session installs⟩

end FirstSession

end Cap.Trust
