import Cap.ClosedWire
import Cap.NodeValidate

/-!
Signing and verification of production packets in the three SDKs (`production_signing.go`,
`production-signing-producer.ts`, `production-signing.ts`, `production_signing.py`). The protobuf
decoders and ECDSA are parameters. A packet is given by its fields in the order in which its
signer's encoder writes them. Go counts nanoseconds, Node milliseconds, Python microseconds.
-/
namespace Cap.ProductionSigning
open Cap.Text Cap.Varint Cap.Wire Cap.Proto Cap.Packets Cap.ProductionWire Cap.Checks

/-- ECDSA and SHA-256, as the libraries of the SDKs provide them. -/
structure Crypto (Key Pub : Type) where
  publicKey : Key → Pub
  /-- The key is a point of P-256. -/
  p256 : Pub → Bool
  sha256 : Bytes → Bytes
  /-- The last argument is the signer's randomness. -/
  sign : Key → Bytes → Nat → Bytes
  verify : Pub → Bytes → Bytes → Bool

def Unmarshal : Type := Bytes → Option Msg

/-- Locally configured trust, with times in the unit of the SDK. -/
structure Trust (Pub : Type) where
  audience : String
  tenant : String
  sender : String
  publicKeys : List (String × Pub)
  maxLifetime : Int
  clockSkew : Int

variable {Key Pub : Type} (crypto : Crypto Key Pub)

def profileVersion : String := "cap-production-v1"
def algorithm : String := "ECDSA-P256-SHA256"
def productionDomain : Bytes := utf8 "CAP-PRODUCTION-SIGNATURE-V1" ++ [0]

def productionDigest (unsigned : Bytes) : Bytes := crypto.sha256 (productionDomain ++ unsigned)

def appendSignatureField (unsigned signature : Bytes) : Bytes := unsigned ++ encodeField ⟨14,.bytes signature⟩

inductive GoError where
  | wire (error : GoWireError)
  | missingSignatureMetadata
  | signatureExpired
  | audienceMismatch
  | unknownKeyID
  | unsupportedProductionKey
  | productionTrustRequired
  | invalidSignature
deriving DecidableEq

def malformed : GoError := .wire .malformedProductionWire

namespace Go

def maxLifetime : Int := 300000000000

def maximumClockSkew : Int := 60000000000

def liftWire {α : Type} : Except GoWireError α → Except GoError α
  | .ok value => .ok value
  | .error error => .error (.wire error)

/-- The metadata together with its expiry. -/
def validateMetadataShape : Option Msg → Except GoError (Msg × Msg)
  | none => .error .missingSignatureMetadata
  | some metadata =>
    match Metadata.expiresAt metadata with
    | none => .error malformed
    | some expiresAt =>
      if Metadata.profileVersion metadata ≠ profileVersion ∨ Metadata.algorithm metadata ≠ algorithm ∨
          (Metadata.messageId metadata).length ≠ 16 ∨ Metadata.audience metadata = "" ∨ Metadata.keyId metadata = "" then
        .error malformed
      else if !Timestamp.inRange expiresAt then .error malformed
      else .ok (metadata,expiresAt)

def validateMetadataForSigning (metadata : Option Msg) (now : Int) : Except GoError Unit := do
  let (_,expiresAt) ← validateMetadataShape metadata
  require (Timestamp.inNanos expiresAt > now) .signatureExpired
  require (Timestamp.inNanos expiresAt ≤ now + maxLifetime) malformed

/-- The verifier's grammar, tried with a placeholder signature. -/
def validateUnsignedProductionWire (pw : Protowire) (unsigned : Bytes) : Except GoError Unit := do
  let _ ← liftWire (extractSignatureField pw (appendSignatureField unsigned [1]))
  pure ()

def signProductionPacket (pw : Protowire) (packet : BusPacket) (key : Key) (now : Int) (randomness : Nat) :
    Except GoError Bytes := do
  require (crypto.p256 (crypto.publicKey key)) .unsupportedProductionKey
  validateMetadataForSigning (Envelope.signatureMetadata packet.message) now
  require packet.message.closed malformed
  let unsigned := (Envelope.unsigned packet.message).encode
  validateUnsignedProductionWire pw unsigned
  let signature := crypto.sign key (productionDigest crypto unsigned) randomness
  let raw := appendSignatureField unsigned signature
  require (raw.length ≤ maxProductionRawBytes) malformed
  pure raw

def validProductionAuthority (value : String) : Bool := value != "" && trimmed goSpace value

/-- The resolver of keys comes before the table of keys. -/
structure TrustStore (Pub : Type) extends Trust Pub where
  resolveKey : Option (String → String → String → Option Pub)

def validateProductionTrust (trust : TrustStore Pub) : Except GoError Unit :=
  require (validProductionAuthority trust.audience && validProductionAuthority trust.tenant &&
    validProductionAuthority trust.sender && !(trust.resolveKey.isNone && trust.publicKeys.isEmpty))
    .productionTrustRequired

def validateMetadata (metadata : Option Msg) (trust : TrustStore Pub) (now : Int) : Except GoError Msg := do
  let (metadata,expiresAt) ← validateMetadataShape metadata
  let maxLifetime := if trust.maxLifetime = 0 then Go.maxLifetime else trust.maxLifetime
  require (!(maxLifetime < 0 || maxLifetime > Go.maxLifetime || trust.clockSkew < 0 ||
    trust.clockSkew > maximumClockSkew || trust.clockSkew > maxLifetime)) malformed
  require (Timestamp.inNanos expiresAt > now - trust.clockSkew) .signatureExpired
  require (Timestamp.inNanos expiresAt ≤ now + (maxLifetime + trust.clockSkew)) malformed
  require (Metadata.audience metadata = trust.audience) .audienceMismatch
  pure metadata

def resolveProductionKey (packet : Msg) (keyID : String) (trust : TrustStore Pub) : Except GoError Pub :=
  let tenant := Envelope.tenantId packet
  let sender := Envelope.senderId packet
  if tenant ≠ trust.tenant ∨ sender ≠ trust.sender then .error .unknownKeyID
  else
    let resolved := match trust.resolveKey with
      | some resolveKey => resolveKey tenant sender keyID
      | none => trust.publicKeys.lookup keyID
    match resolved with
    | none => .error .unknownKeyID
    | some key => if crypto.p256 key then .ok key else .error .unsupportedProductionKey

/-- The verified packet and the digest of its signed body. -/
def verifyProductionPacket (pw : Protowire) (unmarshal : Unmarshal) (raw : Bytes) (trust : TrustStore Pub) (now : Int) :
    Except GoError (Msg × Bytes) := do
  validateProductionTrust trust
  let (unsigned,signature) ← liftWire (extractSignatureField pw raw)
  match unmarshal unsigned with
  | none => .error malformed
  | some packet => do
    require packet.closed malformed
    let metadata ← validateMetadata (Envelope.signatureMetadata packet) trust now
    let key ← resolveProductionKey crypto packet (Metadata.keyId metadata) trust
    require (crypto.verify key (productionDigest crypto unsigned) signature) .invalidSignature
    pure (Envelope.withSignature signature packet,crypto.sha256 unsigned)

end Go

namespace Node

def maxLifetime : Int := 300000
def maxClockSkew : Int := 60000

def safeInteger (n : Int) : Bool := -9007199254740991 ≤ n && n ≤ 9007199254740991

/-- Whole milliseconds, as `seconds * 1000 + Math.floor(nanos / 1e6)`. -/
def timestampMillis (timestamp : Msg) : Except String Int := do
  require (Timestamp.inRange timestamp) "invalid signature expiry"
  pure (Timestamp.seconds timestamp * 1000 + Timestamp.nanos timestamp / 1000000)

def validateExpiry (timestamp : Msg) (now : Int) : Except String Unit := do
  let expiresAt ← timestampMillis timestamp
  require (!(expiresAt ≤ now || expiresAt > now + maxLifetime)) "invalid signature expiry"

def metadataShape (blank : String → Bool) (metadata : Msg) : Bool :=
  Metadata.profileVersion metadata == profileVersion && Metadata.algorithm metadata == algorithm &&
    (Metadata.messageId metadata).length == 16 && !blank (Metadata.audience metadata) && !blank (Metadata.keyId metadata)

def validatePacket (isNumber : Nat → Bool) (packet : Msg) (now : Int) : Except String Unit := do
  require (NodeValidate.validateBusPacket isNumber packet).isEmpty "invalid production packet"
  require (Envelope.protocolVersion packet = 1) "invalid protocol version wire"
  match Envelope.signatureMetadata packet with
  | none => .error "invalid signature metadata"
  | some metadata => do
    require (metadataShape (blank jsSpace) metadata) "invalid signature metadata"
    match Metadata.expiresAt metadata with
    | none => .error "invalid signature metadata"
    | some expiresAt => validateExpiry expiresAt now

/-- An object with a key that the schema does not know stands as a message with unknown
    fields; the packet's type is checked by `verify` before. -/
def signProductionPacket (packet : BusPacket) (isNumber : Nat → Bool) (key : Key) (now : Int) (randomness : Nat) :
    Except String Bytes := do
  require packet.message.closed "unknown production packet field"
  let clone := Envelope.unsigned packet.message
  validatePacket isNumber clone now
  let unsigned := clone.encode
  require (unsigned.length < maxProductionRawBytes) "production packet exceeds size limit"
  ClosedWire.assertClosedNestedWire schema .busPacket unsigned
  require (crypto.p256 (crypto.publicKey key)) "production signatures require ECDSA P-256"
  let signature := crypto.sign key (productionDigest crypto unsigned) randomness
  let raw := appendSignatureField unsigned signature
  require (raw.length ≤ maxProductionRawBytes) "production packet exceeds size limit"
  let _ ← extractProductionSignature raw
  pure raw

def validAuthority (value : String) : Bool := !blank jsSpace value && trimmed jsSpace value

def validateTrustAuthority (trust : Trust Pub) : Except String Unit :=
  require (validAuthority trust.audience && validAuthority trust.tenant && validAuthority trust.sender)
    "production trust authority required"

def validateMetadataShape : Option Msg → Except String (Msg × Msg)
  | none => .error "missing signature metadata"
  | some metadata =>
    match Metadata.expiresAt metadata with
    | none => .error "invalid signature metadata"
    | some expiresAt =>
      if metadataShape (· == "") metadata then .ok (metadata,expiresAt) else .error "invalid signature metadata"

def validateLifetime (expiry : Msg) (trust : Trust Pub) (now : Int) : Except String Unit := do
  require (safeInteger now && safeInteger trust.maxLifetime && trust.maxLifetime > 0 &&
    trust.maxLifetime ≤ maxLifetime && safeInteger trust.clockSkew && trust.clockSkew ≥ 0 &&
    trust.clockSkew ≤ maxClockSkew && trust.clockSkew ≤ trust.maxLifetime) "invalid production lifetime bounds"
  let expiresAt ← timestampMillis expiry
  require (expiresAt > now - trust.clockSkew) "signature expired"
  require (expiresAt ≤ now + trust.maxLifetime + trust.clockSkew) "signature lifetime exceeds bound"

def decodeClosedPacket (unmarshal : Unmarshal) (unsigned : Bytes) : Except String Msg := do
  ClosedWire.assertClosedNestedWire schema .busPacket unsigned
  match unmarshal unsigned with
  | none => .error "malformed production protobuf"
  | some packet => .ok packet

def verifyProductionPacket (unmarshal : Unmarshal) (raw : Bytes) (trust : Trust Pub) (now : Int) :
    Except String Msg := do
  validateTrustAuthority trust
  let (unsigned,signature) ← extractProductionSignature raw
  let packet ← decodeClosedPacket unmarshal unsigned
  let (metadata,expiry) ← validateMetadataShape (Envelope.signatureMetadata packet)
  require (Metadata.audience metadata = trust.audience) "audience mismatch"
  validateLifetime expiry trust now
  require ((Envelope.identity packet).isSome && Envelope.tenantId packet = trust.tenant) "tenant mismatch"
  require (Envelope.senderId packet = trust.sender) "sender mismatch"
  match trust.publicKeys.lookup (Metadata.keyId metadata) with
  | none => .error "unknown key id"
  | some key => do
    require (crypto.p256 key) "production signatures require ECDSA P-256"
    require (crypto.verify key (productionDigest crypto unsigned) signature) "invalid signature"
    pure packet

end Node

namespace Python

def maxLifetime : Int := 300000000
def maxClockSkew : Int := 60000000

/-- The microseconds that a `datetime` can hold, from year 1 to year 9999. -/
def datetime (micros : Int) : Bool := -62135596800000000 ≤ micros && micros ≤ 253402300799999999

/-- The expiry as a `datetime`; an absent timestamp is the epoch. -/
def expiry (metadata : Msg) : Except String Int :=
  match Metadata.expiresAt metadata with
  | none => .ok 0
  | some timestamp => do
    require (Timestamp.inRange timestamp) "invalid signature expiry"
    pure (Timestamp.seconds timestamp * 1000000 + Timestamp.nanos timestamp / 1000)

/-- Times that leave the range of `datetime` raise an overflow. -/
def validateLifetime (expiry now skew maxLifetime : Int) : Except String Unit := do
  require (datetime (now - skew)) "invalid production lifetime bounds"
  require (expiry > now - skew) "signature expired"
  require (datetime (now + maxLifetime + skew)) "invalid production lifetime bounds"
  require (expiry ≤ now + maxLifetime + skew) "signature lifetime exceeds bound"

def validateMetadataShape : Option Msg → Except String Msg
  | none => .error "missing signature metadata"
  | some metadata => do
    require (Metadata.profileVersion metadata == profileVersion && Metadata.algorithm metadata == algorithm)
      "unsupported production signature profile"
    require ((Metadata.messageId metadata).length == 16 && Metadata.audience metadata != "" &&
      Metadata.keyId metadata != "") "invalid signature metadata"
    pure metadata

/-- The check of a signer: no skew, the default lifetime and its own clock. -/
def validateMetadataForSigning (metadata : Option Msg) (now : Int) : Except String Unit := do
  let metadata ← validateMetadataShape metadata
  let expiry ← expiry metadata
  require (datetime now) "invalid production lifetime bounds"
  validateLifetime expiry now 0 maxLifetime

def validateMetadata (metadata : Option Msg) (trust : Trust Pub) (now : Int) : Except String Msg := do
  let metadata ← validateMetadataShape metadata
  require (trust.audience == "" || Metadata.audience metadata == trust.audience) "audience mismatch"
  let expiry ← expiry metadata
  require (datetime now && trust.clockSkew ≥ 0 && trust.maxLifetime > 0 && trust.maxLifetime ≤ maxLifetime &&
    trust.clockSkew ≤ maxClockSkew && trust.clockSkew ≤ trust.maxLifetime) "invalid production lifetime bounds"
  validateLifetime expiry now trust.clockSkew trust.maxLifetime
  pure metadata

/-- Compares the packet's bytes with and without its unknown fields. -/
def rejectUnknownNestedFields (packet : Msg) : Except String Unit :=
  require (packet.encode == packet.discardUnknown.encode) "unknown nested protobuf field"

def signProductionPacket (packet : BusPacket) (key : Key) (now : Int) (randomness : Nat) : Except String Bytes := do
  require (crypto.p256 (crypto.publicKey key)) "production signatures require ECDSA P-256"
  validateMetadataForSigning (Envelope.signatureMetadata packet.message) now
  let clone := Envelope.unsigned packet.message
  let unsigned := clone.encode
  let _ ← extractSignature (appendSignatureField unsigned [1])
  rejectUnknownNestedFields clone
  let signature := crypto.sign key (productionDigest crypto unsigned) randomness
  let raw := appendSignatureField unsigned signature
  require (raw.length ≤ maxProductionRawBytes) "production packet exceeds size limit"
  pure raw

def validAuthority (value : String) : Bool := !blank pySpace value && trimmed pySpace value

def validateTrustAuthority (trust : Trust Pub) : Except String Unit :=
  require (validAuthority trust.audience && validAuthority trust.tenant && validAuthority trust.sender)
    "production trust authority required"

def verifyProductionPacket (unmarshal : Unmarshal) (raw : Bytes) (trust : Trust Pub) (now : Int) :
    Except String Msg := do
  validateTrustAuthority trust
  let (unsigned,signature) ← extractSignature raw
  match unmarshal unsigned with
  | none => .error "malformed production protobuf"
  | some packet => do
    rejectUnknownNestedFields packet
    let metadata ← validateMetadata (Envelope.signatureMetadata packet) trust now
    require (Envelope.tenantId packet == trust.tenant) "tenant mismatch"
    require (Envelope.senderId packet == trust.sender) "sender mismatch"
    match trust.publicKeys.lookup (Metadata.keyId metadata) with
    | none => .error "unknown key id"
    | some key => do
      require (crypto.p256 key) "production signatures require ECDSA P-256"
      require (crypto.verify key (productionDigest crypto unsigned) signature) "invalid signature"
      pure (Envelope.withSignature signature packet)

end Python

inductive Sdk where
  | go
  | node
  | python

structure Stores (Pub : Type) where
  go : Go.TrustStore Pub
  node : Trust Pub
  python : Trust Pub

section
variable {crypto : Crypto Key Pub} {pw : Protowire} {unmarshal : Unmarshal} {raw : Bytes} {now : Int}

theorem Go.liftWire_eq_ok {α : Type} {x : Except GoWireError α} {a : α} : Go.liftWire x = .ok a ↔ x = .ok a := by
  cases x <;> simp [Go.liftWire]

theorem Go.verified_decoded {trust : Go.TrustStore Pub} {packet : Msg} {digest : Bytes}
    (accepted : Go.verifyProductionPacket crypto pw unmarshal raw trust now = .ok (packet,digest)) :
    ∃ unsigned signature m, extractSignatureField pw raw = .ok (unsigned,signature) ∧ unmarshal unsigned = some m ∧
      packet = Envelope.withSignature signature m := by
  simp only [Go.verifyProductionPacket,bind_eq_ok,Go.liftWire_eq_ok,Prod.exists] at accepted
  obtain ⟨-,-,unsigned,signature,extracted,checked⟩ := accepted
  cases decoded : unmarshal unsigned with
  | none => simp [decoded] at checked
  | some m =>
    simp only [decoded,bind_eq_ok,pure_eq_ok,Prod.mk.injEq] at checked
    obtain ⟨-,-,_,-,_,-,-,-,same,-⟩ := checked
    exact ⟨unsigned,signature,m,extracted,decoded,same.symm⟩

theorem Node.verified_decoded {trust : Trust Pub} {packet : Msg}
    (accepted : Node.verifyProductionPacket crypto unmarshal raw trust now = .ok packet) :
    ∃ unsigned signature, extractProductionSignature raw = .ok (unsigned,signature) ∧ unmarshal unsigned = some packet := by
  simp only [Node.verifyProductionPacket,bind_eq_ok,Prod.exists] at accepted
  obtain ⟨-,-,unsigned,signature,extracted,found,closed,metadata,expiry,-,-,-,-,-,-,-,-,-,checked⟩ := accepted
  refine ⟨unsigned,signature,extracted,?_⟩
  simp only [Node.decodeClosedPacket,bind_eq_ok] at closed
  obtain ⟨-,-,decoded⟩ := closed
  split at decoded
  · cases decoded
  · next m decodes =>
    cases decoded
    split at checked
    · cases checked
    · simp only [bind_eq_ok,pure_eq_ok] at checked
      obtain ⟨-,-,-,-,rfl⟩ := checked
      exact decodes

theorem Python.verified_decoded {trust : Trust Pub} {packet : Msg}
    (accepted : Python.verifyProductionPacket crypto unmarshal raw trust now = .ok packet) :
    ∃ unsigned signature m, extractSignature raw = .ok (unsigned,signature) ∧ unmarshal unsigned = some m ∧
      packet = Envelope.withSignature signature m := by
  simp only [Python.verifyProductionPacket,bind_eq_ok,Prod.exists] at accepted
  obtain ⟨-,-,unsigned,signature,extracted,checked⟩ := accepted
  cases decoded : unmarshal unsigned with
  | none => simp [decoded] at checked
  | some m =>
    simp only [decoded,bind_eq_ok] at checked
    obtain ⟨-,-,metadata,-,-,-,-,-,keyed⟩ := checked
    split at keyed
    · cases keyed
    · simp only [bind_eq_ok,pure_eq_ok] at keyed
      obtain ⟨-,-,-,-,same⟩ := keyed
      exact ⟨unsigned,signature,m,extracted,decoded,same.symm⟩

end

end Cap.ProductionSigning
