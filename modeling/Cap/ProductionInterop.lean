import Cap.EnvelopeGrammar

/-!
Production packets between the SDKs: whether the bytes that one SDK signs are accepted by all
three verifiers at that instant. What separates them is the protocol version, the resolution of
their clocks, and what they take for white space.
-/
namespace Cap.ProductionInterop
open Cap.Text Cap.Wire Cap.Proto Cap.Packets Cap.ProductionWire Cap.ProductionSigning Cap.Checks

/-! ### The outer fields of a packet -/

private theorem busPacket_fields : ∀ desc ∈ schema .busPacket,
    busPacketWireType desc.number = some desc.kind.wireType ∧ ClosedWire.Label.isSingular desc.label = true ∧
      desc.oneof.toList = if productionPayloadField desc.number then ["payload"] else [] := by
  decide

variable {number : Nat} {oneofs : List String} {seen : List Nat} {value : Val} {m u : Msg} {signature : Bytes}
  {last : Walk}

private theorem busPacket_field {desc : FieldDesc Name} (found : schema.field .busPacket number = some desc) :
    busPacketWireType number = some desc.kind.wireType ∧ desc.label = .singular ∧
      desc.oneof.toList = if productionPayloadField number then ["payload"] else [] := by
  have same : desc.number = number := by simpa using List.find?_some found
  obtain ⟨type,single,oneof⟩ := busPacket_fields desc (List.mem_of_find?_eq_some found)
  rw [same] at type oneof
  refine ⟨type,?_,oneof⟩
  cases label : desc.label with
  | singular => rfl
  | _ => simp [label,ClosedWire.Label.isSingular] at single

theorem schema_numbered : ClosedWire.Numbered schema := by
  have small : ∀ name, ∀ desc ∈ schema name, desc.number < 2 ^ 29 := by
    intro name
    cases name <;> decide
  intro name number desc found
  have same : desc.number = number := by simpa using List.find?_some found
  rw [← same]
  exact small name desc (List.mem_of_find?_eq_some found)

private theorem conforms_field {rest : Msg}
    (conforms : (Msg.field number value rest).conforms schema .busPacket seen oneofs = true) :
    ClosedWire.Plain value.wire ∧ busPacketWireType number = some value.wire.wireType ∧ number ∉ seen ∧
      (productionPayloadField number = true → "payload" ∉ oneofs) ∧
      rest.conforms schema .busPacket (number :: seen)
        ((if productionPayloadField number then ["payload"] else []) ++ oneofs) = true := by
  cases found : schema.field .busPacket number with
  | none => simp [Msg.conforms,found] at conforms
  | some desc =>
    obtain ⟨type,single,oneof⟩ := busPacket_field found
    simp only [Msg.conforms,found,single,oneof,Bool.and_eq_true] at conforms
    obtain ⟨⟨⟨fits,new⟩,free⟩,later⟩ := conforms
    obtain ⟨plain,same⟩ := ClosedWire.fits_singular fits
    refine ⟨plain,by rw [same,type],by simpa using new,?_,later⟩
    intro payload
    simpa [payload] using free

private theorem conforming_fields (conforms : m.conforms schema .busPacket seen oneofs = true) :
    ∀ f ∈ m.wireFields, f.number ∉ seen ∧ ClosedWire.Plain f.value ∧
      ∃ value, m.get? f.number = some value ∧ f.value = value.wire := by
  induction m generalizing seen oneofs with
  | done unknown => intro f member; cases member
  | field number value rest ih =>
    obtain ⟨plain,-,new,-,later⟩ := conforms_field conforms
    intro f member
    rcases List.mem_cons.mp member with rfl | inRest
    · exact ⟨new,plain,value,by simp [Msg.get?],rfl⟩
    · obtain ⟨fresh,plain,found,get,same⟩ := ih later f inRest
      simp only [List.mem_cons,not_or] at fresh
      exact ⟨fresh.2,plain,found,by simp [Msg.get?,Ne.symm fresh.1,get],same⟩

private theorem mem_of_get? (get : m.get? number = some value) :
    ⟨number,value.wire⟩ ∈ m.wireFields := by
  induction m with
  | done unknown => cases get
  | field other first rest ih =>
    by_cases same : other = number
    · simp only [Msg.get?,same,if_true,Option.some.injEq] at get
      simp [Msg.wireFields,same,get]
    · simp only [Msg.get?,same,if_false] at get
      exact List.mem_cons_of_mem _ (ih get)

private theorem sized_of_plain {value : Value} (plain : ClosedWire.Plain value) : value.Sized := by
  cases value with
  | varint n => trivial
  | _ => exact plain

private theorem follows_conforming {outer : Outer} (conforms : m.conforms schema .busPacket outer.seen oneofs = true)
    (payload : outer.payloadSeen = true → "payload" ∈ oneofs) (bare : ∀ f ∈ m.wireFields, f.number ≠ 14)
    (version : ∀ f ∈ m.wireFields, f.number = 4 → f.value = .varint 1) : Follows outer m.wireFields := by
  induction m generalizing outer oneofs with
  | done unknown => exact follows_nil outer
  | field number value rest ih =>
    obtain ⟨-,known,new,free,later⟩ := conforms_field conforms
    rw [Msg.wireFields,List.forall_mem_cons] at bare version
    refine follows_cons.mpr ⟨⟨known,version.1,fun signature => absurd signature bare.1⟩,new,
      fun both => free both.1 (payload both.2),ih later ?_ bare.2 version.2⟩
    intro seen
    rcases Bool.or_eq_true_iff.mp seen with before | now
    · exact List.mem_append_right _ (payload before)
    · simp [now]

/-- An unsigned packet as the signers leave it. -/
structure Bare (u : Msg) : Prop where
  conforms : u.conforms schema .busPacket [] [] = true
  closed : u.closed = true
  unsigned : u.get? 14 = none

private theorem Bare.encode_signed (bare : Bare u) (signature : Bytes) :
    appendSignatureField u.encode signature = encodeFields (u.wireFields ++ [⟨14,.bytes signature⟩]) := by
  rw [appendSignatureField,Msg.encode_eq_encodeFields bare.closed,encodeFields_append]
  simp

private theorem Bare.number_ne (bare : Bare u) : ∀ f ∈ u.wireFields, f.number ≠ 14 := by
  rintro f member same
  obtain ⟨-,-,value,get,-⟩ := conforming_fields bare.conforms f member
  rw [same,bare.unsigned] at get
  cases get

private theorem Bare.unsigned_withSignature (bare : Bare u) (signature : Bytes) :
    Envelope.unsigned (Envelope.withSignature signature u) = u := by
  rw [Envelope.unsigned,Envelope.withSignature,Msg.clear_add,Msg.clear_of_get?_eq_none bare.unsigned]

private theorem Bare.reads_signed (bare : Bare u) (filled : signature ≠ [])
    (short : (appendSignatureField u.encode signature).length ≤ maxProductionRawBytes)
    (version : ∀ value, u.get? 4 = some value → value = .varint 1) :
    ∃ last, Reads (appendSignatureField u.encode signature) last ∧ last.unsigned = u.encode ∧
      last.signature = some signature ∧ ((u.get? 4).isSome → 4 ∈ last.outer.seen) := by
  have valid : ∀ f ∈ u.wireFields, f.number = 4 → f.value = .varint 1 := by
    intro f member four
    obtain ⟨-,-,value,get,same⟩ := conforming_fields bare.conforms f member
    rw [four] at get
    rw [same,version value get]
    rfl
  have closed : Closed u.wireFields :=
    closed_iff.mpr (follows_conforming bare.conforms (by intro seen; cases seen) bare.number_ne valid)
  have signed : Closed (u.wireFields ++ [⟨14,.bytes signature⟩]) :=
    Closed.sign (by simpa using closed) (by simpa using bare.number_ne) filled
  obtain ⟨last,ran⟩ := run_isSome.mpr (closed_iff.mp signed)
  obtain ⟨found,kept⟩ := run_signed ran
  refine ⟨last,⟨short,_,bare.encode_signed signature,ran⟩,?_,found,?_⟩
  · simpa [Walk.start,Msg.encode_eq_encodeFields bare.closed] using kept
  · intro present
    obtain ⟨value,get⟩ := Option.isSome_iff_exists.mp present
    exact (run_seen ran 4).mpr (.inl ⟨_,List.mem_append_left _ (mem_of_get? get),rfl⟩)

private theorem Bare.run_of_reads (bare : Bare u)
    (reads : Reads (appendSignatureField u.encode signature) last) :
    Runs.run admitField .start (u.wireFields ++ [⟨14,.bytes signature⟩]) = some last := by
  obtain ⟨-,fields,whole,ran⟩ := reads
  rw [bare.encode_signed] at whole
  have sized : ∀ f ∈ u.wireFields ++ [⟨14,.bytes signature⟩], f.value.Sized := by
    intro f member
    rcases List.mem_append.mp member with inside | last
    · exact sized_of_plain (conforming_fields bare.conforms f inside).2.1
    · rw [List.mem_singleton.mp last]
      trivial
  rw [encodeFields_inj sized (run_sized ran) whole]
  exact ran

private theorem Bare.version_of_reads (bare : Bare u)
    (reads : Reads (appendSignatureField u.encode signature) last) (get : u.get? 4 = some value) :
    value = .varint 1 := by
  have follows := run_isSome.mp ⟨last,bare.run_of_reads reads⟩
  have one := (follows.proper _ (List.mem_append_left _ (mem_of_get? get))).2.1 rfl
  cases value with
  | varint n =>
    cases one
    rfl
  | _ => cases one

private theorem Bare.present_of_reads (bare : Bare u)
    (reads : Reads (appendSignatureField u.encode signature) last) (seen : 4 ∈ last.outer.seen) :
    u.get? 4 = some (.varint 1) := by
  rcases (run_seen (bare.run_of_reads reads) 4).mp seen with ⟨f,member,four⟩ | initial
  · rcases List.mem_append.mp member with inside | last
    · obtain ⟨-,-,value,get,-⟩ := conforming_fields bare.conforms f inside
      rw [four] at get
      rw [get,bare.version_of_reads reads get]
    · rw [List.mem_singleton.mp last] at four
      cases four
  · cases initial

private theorem Bare.reads_eq (bare : Bare u) (reads : Reads (appendSignatureField u.encode signature) last) :
    last.unsigned = u.encode := by
  obtain ⟨-,kept⟩ := run_signed (bare.run_of_reads reads)
  simpa [Walk.start,Msg.encode_eq_encodeFields bare.closed] using kept

/-! ### What every signer has checked -/

section
variable {Key Pub : Type} (crypto : Crypto Key Pub) (pw : Protowire)

/-- The signed packet and what its signer made sure of. -/
structure Signed (packet : BusPacket) (key : Key) (randomness : Nat) (raw : Bytes) : Prop where
  bare : Bare (Envelope.unsigned packet.message)
  p256 : crypto.p256 (crypto.publicKey key) = true
  metadata : ∃ metadata, Envelope.signatureMetadata packet.message = some metadata ∧
    Metadata.profileVersion metadata = profileVersion ∧ Metadata.algorithm metadata = algorithm ∧
    (Metadata.messageId metadata).length = 16 ∧ Metadata.audience metadata ≠ "" ∧ Metadata.keyId metadata ≠ "" ∧
    ∀ expiresAt, Metadata.expiresAt metadata = some expiresAt → Timestamp.inRange expiresAt = true
  whole : raw = appendSignatureField (Envelope.unsigned packet.message).encode
    (crypto.sign key (productionDigest crypto (Envelope.unsigned packet.message).encode) randomness)
  short : raw.length ≤ maxProductionRawBytes

private theorem bare_unsigned (packet : BusPacket) (closed : (Envelope.unsigned packet.message).closed = true) :
    Bare (Envelope.unsigned packet.message) :=
  ⟨Msg.conforms_clear 14 packet.conforms,closed,Msg.get?_clear_self 14 packet.message⟩

private theorem version_iff {u : Msg} (bare : Bare u) :
    Envelope.protocolVersion u = 1 ↔ u.get? 4 = some (.varint 1) := by
  unfold Envelope.protocolVersion Msg.int
  constructor
  · intro one
    cases get : u.get? 4 with
    | none => simp [get] at one
    | some value =>
      have plain := (conforming_fields bare.conforms _ (mem_of_get? get)).2.1
      cases value with
      | varint n =>
        have bound : n < 2 ^ 64 := plain
        simp only [get] at one
        split at one
        · obtain rfl : n = 1 := by omega
          rfl
        · omega
      | _ => simp [get] at one
  · intro get
    simp [get]

private theorem protocolVersion_unsigned (m : Msg) :
    Envelope.protocolVersion (Envelope.unsigned m) = Envelope.protocolVersion m := by
  simp only [Envelope.protocolVersion,Envelope.unsigned,Msg.int,Msg.get?_clear (by decide : 4 ≠ 14)]

private theorem identity_unsigned (m : Msg) : Envelope.identity (Envelope.unsigned m) = Envelope.identity m := by
  simp only [Envelope.identity,Envelope.unsigned,Msg.sub?,Msg.get?_clear (by decide : 6 ≠ 14)]

private theorem tenantId_unsigned (m : Msg) : Envelope.tenantId (Envelope.unsigned m) = Envelope.tenantId m := by
  rw [Envelope.tenantId,identity_unsigned]
  rfl

private theorem senderId_unsigned (m : Msg) : Envelope.senderId (Envelope.unsigned m) = Envelope.senderId m := by
  simp only [Envelope.senderId,Envelope.unsigned,Msg.text,Msg.get?_clear (by decide : 2 ≠ 14)]

private theorem signatureMetadata_unsigned (m : Msg) :
    Envelope.signatureMetadata (Envelope.unsigned m) = Envelope.signatureMetadata m := by
  simp only [Envelope.signatureMetadata,Envelope.unsigned,Msg.sub?,Msg.get?_clear (by decide : 5 ≠ 14)]

variable {packet : BusPacket} {key : Key} {randomness : Nat} {raw : Bytes} {now : Int}

variable {expiresAt : Msg} {instant : Int}

private theorem go_shape {metadata : Option Msg} {found : Msg}
    (shaped : Go.validateMetadataShape metadata = .ok (found,expiresAt)) :
    metadata = some found ∧ Metadata.expiresAt found = some expiresAt ∧ Metadata.profileVersion found = profileVersion ∧
      Metadata.algorithm found = algorithm ∧ (Metadata.messageId found).length = 16 ∧ Metadata.audience found ≠ "" ∧
      Metadata.keyId found ≠ "" ∧ Timestamp.inRange expiresAt = true := by
  unfold Go.validateMetadataShape at shaped
  split at shaped
  · cases shaped
  · next metadata =>
    split at shaped
    · cases shaped
    · next expiry found =>
      split at shaped
      · cases shaped
      · next valid =>
        split at shaped
        · cases shaped
        · next ranged =>
          cases shaped
          simp only [not_or,ne_eq,not_not] at valid
          obtain ⟨profile,algorithm,length,audience,keyId⟩ := valid
          exact ⟨rfl,found,profile,algorithm,length,audience,keyId,by simpa using ranged⟩

theorem signed_of_go (signed : Go.signProductionPacket crypto pw packet key now randomness = .ok raw) :
    Signed crypto packet key randomness raw := by
  simp only [Go.signProductionPacket,Go.validateMetadataForSigning,bind_eq_ok,require_eq_ok,pure_eq_ok,Prod.exists] at signed
  obtain ⟨-,p256,-,⟨found,expiresAt,shaped,-⟩,-,closed,-,-,-,short,rfl⟩ := signed
  obtain ⟨present,expires,profile,algorithm,length,audience,keyId,ranged⟩ := go_shape shaped
  refine ⟨bare_unsigned packet (Msg.closed_clear closed),p256,⟨found,present,profile,algorithm,length,audience,keyId,?_⟩,
    rfl,by simpa using short⟩
  intro other same
  rw [expires] at same
  cases same
  exact ranged

private theorem not_blank_ne {space : Char → Bool} {s : String} (filled : blank space s = false) : s ≠ "" := by
  rintro rfl
  simp [blank,trimBy] at filled

theorem signed_of_node {isNumber : Nat → Bool}
    (signed : Node.signProductionPacket crypto packet isNumber key now randomness = .ok raw) :
    Signed crypto packet key randomness raw := by
  simp only [Node.signProductionPacket,Node.validatePacket,signatureMetadata_unsigned,bind_eq_ok,require_eq_ok,
    pure_eq_ok] at signed
  obtain ⟨-,closed,_,⟨-,-,-,-,shaped⟩,-,-,-,-,-,p256,-,short,-,-,rfl⟩ := signed
  cases present : Envelope.signatureMetadata packet.message with
  | none => simp [present] at shaped
  | some metadata =>
    simp only [present,bind_eq_ok,require_eq_ok,Node.metadataShape,Bool.and_eq_true,beq_iff_eq,Bool.not_eq_true'] at shaped
    obtain ⟨-,⟨⟨⟨⟨profile,algorithm⟩,length⟩,audience⟩,keyId⟩,expires⟩ := shaped
    refine ⟨bare_unsigned packet (Msg.closed_clear closed),p256,⟨metadata,present,profile,algorithm,length,
      not_blank_ne audience,not_blank_ne keyId,?_⟩,rfl,by simpa using short⟩
    intro expiresAt same
    simp only [same,Node.validateExpiry,Node.timestampMillis,bind_eq_ok,require_eq_ok] at expires
    obtain ⟨-,⟨-,ranged,-⟩,-⟩ := expires
    exact ranged

private theorem rejectUnknown_eq_ok {m : Msg} {u : Unit} : Python.rejectUnknownNestedFields m = .ok u ↔ m.closed = true := by
  rw [Python.rejectUnknownNestedFields,require_eq_ok,beq_iff_eq,Msg.encode_discardUnknown_iff]

theorem signed_of_python (signed : Python.signProductionPacket crypto packet key now randomness = .ok raw) :
    Signed crypto packet key randomness raw := by
  simp only [Python.signProductionPacket,Python.validateMetadataForSigning,bind_eq_ok,require_eq_ok,pure_eq_ok,
    rejectUnknown_eq_ok] at signed
  obtain ⟨-,p256,-,⟨metadata,shaped,expiry,expires,-⟩,-,-,-,closed,-,short,rfl⟩ := signed
  cases present : Envelope.signatureMetadata packet.message with
  | none => simp [present,Python.validateMetadataShape] at shaped
  | some found =>
    simp only [present,Python.validateMetadataShape,bind_eq_ok,require_eq_ok,pure_eq_ok,Bool.and_eq_true,beq_iff_eq,
      bne_iff_ne] at shaped
    obtain ⟨-,⟨profile,algorithm⟩,-,⟨⟨length,audience⟩,keyId⟩,rfl⟩ := shaped
    refine ⟨bare_unsigned packet closed,p256,⟨found,present,profile,algorithm,length,audience,keyId,?_⟩,rfl,
      by simpa using short⟩
    intro expiresAt same
    simp only [Python.expiry,same,bind_eq_ok,require_eq_ok] at expires
    obtain ⟨-,ranged,-⟩ := expires
    exact ranged

/-! ### Instants, trust and acceptance -/

def packetAudience (packet : Msg) : String := ((Envelope.signatureMetadata packet).map Metadata.audience).getD ""
def packetKeyId (packet : Msg) : String := ((Envelope.signatureMetadata packet).map Metadata.keyId).getD ""

/-- The store names the packet's audience, tenant, sender and key, has no skew and the
    default maximum lifetime. -/
structure Names (trust : Trust Pub) (packet : Msg) (key : Pub) (lifetime : Int) : Prop where
  audience : trust.audience = packetAudience packet
  tenant : trust.tenant = Envelope.tenantId packet
  sender : trust.sender = Envelope.senderId packet
  key : trust.publicKeys.lookup (packetKeyId packet) = some key
  skew : trust.clockSkew = 0
  lifetime : trust.maxLifetime = lifetime

/-- All three stores name the packet; a resolver, where Go has one, finds the key too. -/
structure NamesAll (stores : Stores Pub) (packet : Msg) (key : Pub) : Prop where
  go : Names stores.go.toTrust packet key Go.maxLifetime
  resolver : ∀ resolveKey, stores.go.resolveKey = some resolveKey →
    resolveKey (Envelope.tenantId packet) (Envelope.senderId packet) (packetKeyId packet) = some key
  node : Names stores.node packet key Node.maxLifetime
  python : Names stores.python packet key Python.maxLifetime

/-- What the signer emits at an instant given in nanoseconds; Node and Python read their
    clocks in milliseconds and microseconds. -/
def emits (packet : BusPacket) (isNumber : Nat → Bool) (key : Key) (instant : Int) (randomness : Nat) : Sdk → Option Bytes
  | .go => (Go.signProductionPacket crypto pw packet key instant randomness).toOption
  | .node => (Node.signProductionPacket crypto packet isNumber key (instant / 1000000) randomness).toOption
  | .python => (Python.signProductionPacket crypto packet key (instant / 1000) randomness).toOption

def accepts (unmarshal : Sdk → Unmarshal) (stores : Stores Pub) (raw : Bytes) (instant : Int) : Sdk → Option Msg
  | .go => ((Go.verifyProductionPacket crypto pw (unmarshal .go) raw stores.go instant).toOption).map Prod.fst
  | .node => (Node.verifyProductionPacket crypto (unmarshal .node) raw stores.node (instant / 1000000)).toOption
  | .python => (Python.verifyProductionPacket crypto (unmarshal .python) raw stores.python (instant / 1000)).toOption

def AcceptedByAll (unmarshal : Sdk → Unmarshal) (stores : Stores Pub) (raw : Bytes) (instant : Int) (packet : BusPacket) :
    Prop :=
  ∀ verifier, ∃ m, accepts crypto pw unmarshal stores raw instant verifier = some m ∧
    Envelope.unsigned m = Envelope.unsigned packet.message

/-- The names that the stores must have in common with the packet. -/
def names (packet : Msg) : List String := [packetAudience packet,Envelope.tenantId packet,Envelope.senderId packet]

/-- A name that none of the languages trims. -/
def WellNamed (s : String) : Prop :=
  s ≠ "" ∧ trimmed goSpace s = true ∧ trimmed jsSpace s = true ∧ trimmed pySpace s = true
deriving Decidable

/-- The packets that all three verifiers accept at the instant. -/
structure Interoperable (packet : Msg) (instant : Int) : Prop where
  version : Envelope.protocolVersion packet = 1
  /-- The expiry lies in a later millisecond than the clock and at most five minutes ahead. -/
  expiry : ∃ metadata expiresAt, Envelope.signatureMetadata packet = some metadata ∧
    Metadata.expiresAt metadata = some expiresAt ∧
    instant / 1000000 < Timestamp.inNanos expiresAt / 1000000 ∧ Timestamp.inNanos expiresAt ≤ instant + Go.maxLifetime
  /-- Python can hold the clock and the latest expiry it allows. -/
  calendar : Python.datetime (instant / 1000) = true ∧ Python.datetime (instant / 1000 + Python.maxLifetime) = true
  audience : WellNamed (packetAudience packet)
  tenant : WellNamed (Envelope.tenantId packet)
  sender : WellNamed (Envelope.senderId packet)

theorem signed_of_emits {isNumber : Nat → Bool} {signer : Sdk}
    (emitted : emits crypto pw packet isNumber key instant randomness signer = some raw) :
    Signed crypto packet key randomness raw := by
  cases signer with
  | go => exact signed_of_go crypto pw (toOption_eq_some.mp emitted)
  | node => exact signed_of_node crypto (toOption_eq_some.mp emitted)
  | python => exact signed_of_python crypto (toOption_eq_some.mp emitted)

/-! ### What each verifier needs -/

private theorem blank_trimmed {space : Char → Bool} {s : String} (whole : trimmed space s = true) (filled : s ≠ "") :
    blank space s = false := by
  simp only [trimmed,beq_iff_eq] at whole
  simpa [blank,whole] using filled

structure Matching (key : Key) (randomness : Nat) : Prop where
  accepts : ∀ digest, crypto.verify (crypto.publicKey key) digest (crypto.sign key digest randomness) = true
  filled : ∀ digest, crypto.sign key digest randomness ≠ []

private structure Checked (packet : BusPacket) (instant : Int) (metadata expiresAt : Msg) : Prop where
  present : Envelope.signatureMetadata packet.message = some metadata
  expires : Metadata.expiresAt metadata = some expiresAt
  profile : Metadata.profileVersion metadata = profileVersion
  algorithm : Metadata.algorithm metadata = ProductionSigning.algorithm
  length : (Metadata.messageId metadata).length = 16
  audience : Metadata.audience metadata ≠ ""
  keyId : Metadata.keyId metadata ≠ ""
  ranged : Timestamp.inRange expiresAt = true
  lower : instant / 1000000 < Timestamp.inNanos expiresAt / 1000000
  upper : Timestamp.inNanos expiresAt ≤ instant + 300000000000
  version : (Envelope.unsigned packet.message).get? 4 = some (.varint 1)

private theorem Checked.keyed {metadata : Msg}
    (checked : Checked packet instant metadata expiresAt) : packetKeyId packet.message = Metadata.keyId metadata := by
  simp [packetKeyId,checked.present]

private theorem Checked.addressed {metadata : Msg}
    (checked : Checked packet instant metadata expiresAt) : packetAudience packet.message = Metadata.audience metadata := by
  simp [packetAudience,checked.present]

section
variable {crypto} {pw} {unmarshal : Sdk → Unmarshal} {stores : Stores Pub} {instant : Int}
  (signed : Signed crypto packet key randomness raw)
include signed

private theorem Signed.go_extracted {unsigned signature : Bytes}
    (extracted : extractSignatureField pw raw = .ok (unsigned,signature)) :
    unsigned = (Envelope.unsigned packet.message).encode := by
  obtain ⟨last,reads,rfl,-⟩ := (extractSignatureField_eq_ok pw).mp extracted
  rw [signed.whole] at reads
  exact signed.bare.reads_eq reads

private theorem Signed.versioned_extracted {scanner : Scanner String} (strict : scanner.Strict) {unsigned signature : Bytes}
    (extracted : extractVersioned scanner raw = .ok (unsigned,signature)) :
    unsigned = (Envelope.unsigned packet.message).encode ∧
      (Envelope.unsigned packet.message).get? 4 = some (.varint 1) := by
  obtain ⟨last,reads,seen,rfl,-⟩ := (extractVersioned_eq_ok strict).mp extracted
  rw [signed.whole] at reads
  exact ⟨signed.bare.reads_eq reads,signed.bare.present_of_reads reads seen⟩

variable
  (decodes : ∀ sdk, unmarshal sdk (Envelope.unsigned packet.message).encode = some (Envelope.unsigned packet.message))
  (named : NamesAll stores packet.message (crypto.publicKey key))
include decodes named

private theorem Signed.go_needs {verified : Msg × Bytes}
    (accepted : Go.verifyProductionPacket crypto pw (unmarshal .go) raw stores.go instant = .ok verified) :
    (∃ metadata expiresAt, Envelope.signatureMetadata packet.message = some metadata ∧
      Metadata.expiresAt metadata = some expiresAt ∧ Timestamp.inNanos expiresAt ≤ instant + Go.maxLifetime) ∧
    ∀ name ∈ names packet.message, name ≠ "" ∧ trimmed goSpace name = true := by
  simp only [Go.verifyProductionPacket,Go.validateProductionTrust,Go.validProductionAuthority,bind_eq_ok,require_eq_ok,
    Go.liftWire_eq_ok,Prod.exists,Bool.and_eq_true,bne_iff_ne,named.go.audience,named.go.tenant,named.go.sender] at accepted
  obtain ⟨-,⟨⟨⟨audience,tenant⟩,sender⟩,-⟩,unsigned,signature,extracted,checked⟩ := accepted
  rw [signed.go_extracted extracted,decodes] at checked
  simp only [Go.validateMetadata,signatureMetadata_unsigned,bind_eq_ok,require_eq_ok,Prod.exists] at checked
  obtain ⟨-,-,-,⟨metadata,expiresAt,shaped,-,-,-,-,-,upper,-⟩,-⟩ := checked
  obtain ⟨present,expires,-⟩ := go_shape shaped
  refine ⟨⟨metadata,expiresAt,present,expires,?_⟩,?_⟩
  · simpa [named.go.skew,named.go.lifetime,Go.maxLifetime] using upper
  · simp [names,audience,tenant,sender]

private theorem Signed.node_needs {verified : Msg}
    (accepted : Node.verifyProductionPacket crypto (unmarshal .node) raw stores.node (instant / 1000000) = .ok verified) :
    (Envelope.unsigned packet.message).get? 4 = some (.varint 1) ∧
    (∀ metadata expiresAt, Envelope.signatureMetadata packet.message = some metadata →
      Metadata.expiresAt metadata = some expiresAt →
      instant / 1000000 < Timestamp.inNanos expiresAt / 1000000) ∧
    ∀ name ∈ names packet.message, trimmed jsSpace name = true := by
  simp only [Node.verifyProductionPacket,Node.validateTrustAuthority,Node.validAuthority,bind_eq_ok,require_eq_ok,
    Prod.exists,Bool.and_eq_true,named.node.audience,named.node.tenant,named.node.sender] at accepted
  obtain ⟨-,⟨⟨⟨-,audience⟩,⟨-,tenant⟩⟩,⟨-,sender⟩⟩,unsigned,signature,extracted,decoded,closed,checked⟩ := accepted
  obtain ⟨same,version⟩ := signed.versioned_extracted nodeScanner_strict extracted
  simp only [Node.decodeClosedPacket,same,decodes,bind_eq_ok,Except.ok.injEq] at closed
  obtain ⟨-,-,rfl⟩ := closed
  simp only [signatureMetadata_unsigned] at checked
  obtain ⟨found,expiry,shaped,-,-,_,lifetime,-⟩ := checked
  refine ⟨version,?_,?_⟩
  · intro metadata expiresAt present expires
    simp only [present,Node.validateMetadataShape,expires] at shaped
    split at shaped
    · cases shaped
      simp only [Node.validateLifetime,Node.timestampMillis,bind_eq_ok,require_eq_ok,pure_eq_ok,
        named.node.skew] at lifetime
      obtain ⟨-,-,_,⟨-,-,rfl⟩,-,lower,-⟩ := lifetime
      simp only [sub_zero,decide_eq_true_eq] at lower
      unfold Timestamp.inNanos
      omega
    · cases shaped
  · simp [names,audience,tenant,sender]

private theorem Signed.python_needs {verified : Msg}
    (accepted : Python.verifyProductionPacket crypto (unmarshal .python) raw stores.python (instant / 1000) =
      .ok verified) :
    (Python.datetime (instant / 1000) = true ∧ Python.datetime (instant / 1000 + Python.maxLifetime) = true) ∧
    ∀ name ∈ names packet.message, trimmed pySpace name = true := by
  simp only [Python.verifyProductionPacket,Python.validateTrustAuthority,Python.validAuthority,bind_eq_ok,require_eq_ok,
    Prod.exists,Bool.and_eq_true,named.python.audience,named.python.tenant,named.python.sender] at accepted
  obtain ⟨-,⟨⟨⟨-,audience⟩,⟨-,tenant⟩⟩,⟨-,sender⟩⟩,unsigned,signature,extracted,checked⟩ := accepted
  rw [(signed.versioned_extracted pythonScanner_strict extracted).1,decodes] at checked
  simp only [Python.validateMetadata,Python.validateLifetime,bind_eq_ok,require_eq_ok,Bool.and_eq_true,
    named.python.skew,named.python.lifetime,sub_zero,add_zero] at checked
  obtain ⟨-,-,_,⟨-,-,-,-,-,-,-,⟨⟨⟨⟨⟨now,-⟩,-⟩,-⟩,-⟩,-⟩,_,⟨-,-,-,-,-,later,-⟩,-⟩,-⟩ := checked
  exact ⟨⟨now,later⟩,by simp [names,audience,tenant,sender]⟩

/-! ### Interoperable packets pass -/

variable (matching : Matching crypto key randomness) (able : Interoperable packet.message instant)

omit decodes named in
include matching in
private theorem Signed.reads (version : (Envelope.unsigned packet.message).get? 4 = some (.varint 1)) :
    ∃ last, Reads raw last ∧ last.unsigned = (Envelope.unsigned packet.message).encode ∧
      last.signature = some (crypto.sign key (productionDigest crypto (Envelope.unsigned packet.message).encode) randomness) ∧
      4 ∈ last.outer.seen := by
  have short := signed.short
  rw [signed.whole] at short ⊢
  obtain ⟨last,reads,bytes,found,seen⟩ := signed.bare.reads_signed (matching.filled _) short
    (by intro value get; rw [version] at get; exact (Option.some.inj get).symm)
  exact ⟨last,reads,bytes,found,seen (by rw [version]; rfl)⟩

include able

omit decodes named in
private theorem Signed.checked : ∃ metadata expiresAt, Checked packet instant metadata expiresAt := by
  obtain ⟨metadata,expiresAt,present,expires,lower,upper⟩ := able.expiry
  obtain ⟨found,present',profile,algorithm,length,audience,keyId,ranged⟩ := signed.metadata
  obtain rfl : metadata = found := by rw [present] at present'; exact Option.some.inj present'
  have version := (version_iff signed.bare).mp (by rw [protocolVersion_unsigned]; exact able.version)
  exact ⟨metadata,expiresAt,present,expires,profile,algorithm,length,audience,keyId,ranged expiresAt expires,lower,upper,
    version⟩

omit signed decodes in
private theorem go_trusted : Go.validateProductionTrust stores.go = .ok () := by
  obtain ⟨audience,audience',-⟩ := able.audience
  obtain ⟨tenant,tenant',-⟩ := able.tenant
  obtain ⟨sender,sender',-⟩ := able.sender
  have keys : stores.go.publicKeys.isEmpty = false := by
    have found := named.go.key
    cases empty : stores.go.publicKeys with
    | nil => simp [empty] at found
    | cons entry rest => rfl
  rw [Go.validateProductionTrust,require_eq_ok]
  simp [Go.validProductionAuthority,named.go.audience,named.go.tenant,named.go.sender,audience,audience',tenant,tenant',
    sender,sender',keys]

include matching in
private theorem Signed.go_accepts : ∃ m, accepts crypto pw unmarshal stores raw instant .go = some m ∧
    Envelope.unsigned m = Envelope.unsigned packet.message := by
  obtain ⟨metadata,expiresAt,checked⟩ := signed.checked able
  obtain ⟨last,reads,bytes,signature,-⟩ := signed.reads matching checked.version
  have extracted := (extractSignatureField_eq_ok pw).mpr ⟨last,reads,bytes,signature⟩
  have resolved : Go.resolveProductionKey crypto (Envelope.unsigned packet.message) (Metadata.keyId metadata) stores.go =
      .ok (crypto.publicKey key) := by
    simp only [Go.resolveProductionKey,tenantId_unsigned,senderId_unsigned,named.go.tenant,named.go.sender,ne_eq,
      not_true_eq_false,or_self,if_false,← checked.keyed]
    cases resolver : stores.go.resolveKey with
    | none => simp only [named.go.key,signed.p256,if_true]
    | some resolveKey => simp only [named.resolver resolveKey resolver,signed.p256,if_true]
  have shaped : Go.validateMetadataShape (some metadata) = .ok (metadata,expiresAt) := by
    simp [Go.validateMetadataShape,checked.expires,checked.profile,checked.algorithm,checked.length,checked.audience,
      checked.keyId,checked.ranged]
  have valid : Go.validateMetadata (some metadata) stores.go instant = .ok metadata := by
    have lower := checked.lower
    have upper := checked.upper
    simp only [Go.validateMetadata,bind_eq_ok,require_eq_ok,Prod.exists,pure_eq_ok,shaped,named.go.skew,named.go.lifetime,
      named.go.audience,checked.addressed,Go.maxLifetime]
    refine ⟨metadata,expiresAt,rfl,(),by decide,(),?_,(),by simpa using upper,(),by simp,rfl⟩
    simp only [sub_zero,decide_eq_true_eq]
    omega
  refine ⟨_,?_,signed.bare.unsigned_withSignature
    (crypto.sign key (productionDigest crypto (Envelope.unsigned packet.message).encode) randomness)⟩
  · simp only [accepts,Go.verifyProductionPacket,go_trusted named able,extracted,Go.liftWire,decodes,signed.bare.closed,
      require_true,signatureMetadata_unsigned,checked.present,valid,resolved,matching.accepts,bind,Except.bind,pure,
      Except.pure,Except.toOption,Option.map_some]

omit signed decodes in
private theorem node_trusted : Node.validateTrustAuthority stores.node = .ok () := by
  obtain ⟨audience,-,audience',-⟩ := able.audience
  obtain ⟨tenant,-,tenant',-⟩ := able.tenant
  obtain ⟨sender,-,sender',-⟩ := able.sender
  rw [Node.validateTrustAuthority,require_eq_ok]
  simp [Node.validAuthority,named.node.audience,named.node.tenant,named.node.sender,audience',tenant',sender',
    blank_trimmed audience' audience,blank_trimmed tenant' tenant,blank_trimmed sender' sender]

include matching in
private theorem Signed.node_accepts : ∃ m, accepts crypto pw unmarshal stores raw instant .node = some m ∧
    Envelope.unsigned m = Envelope.unsigned packet.message := by
  obtain ⟨metadata,expiresAt,checked⟩ := signed.checked able
  obtain ⟨last,reads,bytes,signature,seen⟩ := signed.reads matching checked.version
  have extracted := (extractVersioned_eq_ok nodeScanner_strict).mpr ⟨last,reads,seen,bytes,signature⟩
  have short : (Envelope.unsigned packet.message).encode.length < 2 ^ 53 := by
    have limit := signed.short
    rw [signed.whole,appendSignatureField,List.length_append] at limit
    unfold maxProductionRawBytes at limit
    omega
  have closed := ClosedWire.assertClosedNestedWire_conforms schema_numbered signed.bare.conforms signed.bare.closed short
  have shaped : Node.validateMetadataShape (some metadata) = .ok (metadata,expiresAt) := by
    simp [Node.validateMetadataShape,Node.metadataShape,checked.expires,checked.profile,checked.algorithm,checked.length,
      checked.audience,checked.keyId]
  have lifetime : Node.validateLifetime expiresAt stores.node (instant / 1000000) = .ok () := by
    have lower := checked.lower
    have upper := checked.upper
    have calendar := able.calendar.1
    simp only [Python.datetime,Bool.and_eq_true,decide_eq_true_eq] at calendar
    unfold Timestamp.inNanos at lower upper
    have ranged := checked.ranged
    simp only [Node.validateLifetime,Node.timestampMillis,ranged,require_true,named.node.skew,named.node.lifetime,
      Node.maxLifetime,bind_eq_ok,require_eq_ok,pure_eq_ok]
    refine ⟨(),?_,_,⟨(),trivial,rfl⟩,(),?_,?_⟩
    · simp [Node.safeInteger,Node.maxClockSkew]
      omega
    · simp only [sub_zero,decide_eq_true_eq]
      omega
    · simp only [add_zero,decide_eq_true_eq]
      omega
  have identified : (Envelope.identity packet.message).isSome = true := by
    have tenant := able.tenant.1
    unfold Envelope.tenantId at tenant
    cases identity : Envelope.identity packet.message with
    | none => simp [identity] at tenant
    | some binding => rfl
  have keyed := named.node.key
  rw [checked.keyed] at keyed
  refine ⟨_,?_,Msg.clear_of_get?_eq_none signed.bare.unsigned⟩
  · simp only [accepts,Node.verifyProductionPacket,extractProductionSignature,node_trusted named able,extracted,
      Node.decodeClosedPacket,closed,decodes,signatureMetadata_unsigned,checked.present,shaped,named.node.audience,
      checked.addressed,lifetime,identity_unsigned,identified,tenantId_unsigned,named.node.tenant,senderId_unsigned,
      named.node.sender,keyed,signed.p256,matching.accepts,decide_true,Bool.true_and,require_true,bind,Except.bind,pure,
      Except.pure,Except.toOption]

omit signed decodes in
private theorem python_trusted : Python.validateTrustAuthority stores.python = .ok () := by
  obtain ⟨audience,-,-,audience'⟩ := able.audience
  obtain ⟨tenant,-,-,tenant'⟩ := able.tenant
  obtain ⟨sender,-,-,sender'⟩ := able.sender
  rw [Python.validateTrustAuthority,require_eq_ok]
  simp [Python.validAuthority,named.python.audience,named.python.tenant,named.python.sender,audience',tenant',sender',
    blank_trimmed audience' audience,blank_trimmed tenant' tenant,blank_trimmed sender' sender]

include matching in
private theorem Signed.python_accepts : ∃ m, accepts crypto pw unmarshal stores raw instant .python = some m ∧
    Envelope.unsigned m = Envelope.unsigned packet.message := by
  obtain ⟨metadata,expiresAt,checked⟩ := signed.checked able
  obtain ⟨last,reads,bytes,signature,seen⟩ := signed.reads matching checked.version
  have extracted := (extractVersioned_eq_ok pythonScanner_strict).mpr ⟨last,reads,seen,bytes,signature⟩
  have closed : Python.rejectUnknownNestedFields (Envelope.unsigned packet.message) = .ok () :=
    rejectUnknown_eq_ok.mpr signed.bare.closed
  have valid : Python.validateMetadata (some metadata) stores.python (instant / 1000) = .ok metadata := by
    have lower := checked.lower
    have upper := checked.upper
    unfold Timestamp.inNanos at lower upper
    have later := able.calendar.2
    simp only [Python.maxLifetime] at later
    have expiry : Python.expiry metadata =
        .ok (Timestamp.seconds expiresAt * 1000000 + Timestamp.nanos expiresAt / 1000) := by
      simp only [Python.expiry,checked.expires,checked.ranged,require_true,bind,Except.bind,pure,Except.pure]
    simp only [Python.validateMetadata,Python.validateMetadataShape,Python.validateLifetime,checked.profile,
      checked.algorithm,checked.length,named.python.skew,named.python.lifetime,named.python.audience,checked.addressed,
      able.calendar.1,later,sub_zero,add_zero,Python.maxLifetime,Python.maxClockSkew,bind_eq_ok,require_eq_ok,
      pure_eq_ok]
    refine ⟨metadata,⟨(),by simp,(),by simp [checked.audience,checked.keyId],rfl⟩,(),by simp,_,expiry,(),by simp,(),
      ⟨(),trivial,(),?_,(),trivial,?_⟩,rfl⟩
    · simp only [decide_eq_true_eq]
      omega
    · simp only [decide_eq_true_eq]
      omega
  have keyed := named.python.key
  rw [checked.keyed] at keyed
  refine ⟨_,?_,signed.bare.unsigned_withSignature
    (crypto.sign key (productionDigest crypto (Envelope.unsigned packet.message).encode) randomness)⟩
  · simp only [accepts,Python.verifyProductionPacket,extractSignature,python_trusted named able,extracted,decodes,closed,
      signatureMetadata_unsigned,checked.present,valid,tenantId_unsigned,named.python.tenant,senderId_unsigned,
      named.python.sender,keyed,signed.p256,matching.accepts,beq_self_eq_true,require_true,bind,Except.bind,pure,
      Except.pure,Except.toOption]

end

end

/-- What any of the signers emits is accepted by all three verifiers at the same instant,
    and read as the packet that was signed, exactly when the packet is interoperable. The
    hypotheses are on the libraries: ECDSA accepts what it signed, and the decoders read back
    what the signer's encoder wrote. -/
theorem emitted_accepted_iff {Key Pub : Type} (crypto : Crypto Key Pub) (pw : Protowire) (unmarshal : Sdk → Unmarshal)
    (stores : Stores Pub) (signer : Sdk) (packet : BusPacket) (isNumber : Nat → Bool) (key : Key) (randomness : Nat)
    (instant : Int) (raw : Bytes) (emitted : emits crypto pw packet isNumber key instant randomness signer = some raw)
    (matching : Matching crypto key randomness)
    (decodes : ∀ sdk, unmarshal sdk (Envelope.unsigned packet.message).encode = some (Envelope.unsigned packet.message))
    (named : NamesAll stores packet.message (crypto.publicKey key)) :
    AcceptedByAll crypto pw unmarshal stores raw instant packet ↔ Interoperable packet.message instant := by
  have signed := signed_of_emits crypto pw emitted
  constructor
  · intro all
    obtain ⟨_,go,-⟩ := all .go
    obtain ⟨_,node,-⟩ := all .node
    obtain ⟨_,python,-⟩ := all .python
    simp only [accepts,Option.map_eq_some_iff,toOption_eq_some] at go node python
    obtain ⟨_,go,-⟩ := go
    obtain ⟨⟨metadata,expiresAt,present,expires,upper⟩,goNames⟩ := signed.go_needs decodes named go
    obtain ⟨version,lower,nodeNames⟩ := signed.node_needs decodes named node
    obtain ⟨calendar,pythonNames⟩ := signed.python_needs decodes named python
    have wellNamed : ∀ name ∈ names packet.message, WellNamed name := fun name member =>
      ⟨(goNames name member).1,(goNames name member).2,nodeNames name member,pythonNames name member⟩
    refine ⟨?_,⟨metadata,expiresAt,present,expires,lower metadata expiresAt present expires,upper⟩,calendar,
      wellNamed _ (by simp [names]),wellNamed _ (by simp [names]),wellNamed _ (by simp [names])⟩
    rw [← protocolVersion_unsigned]
    exact (version_iff signed.bare).mpr version
  · intro able verifier
    cases verifier with
    | go => exact signed.go_accepts decodes named matching able
    | node => exact signed.node_accepts decodes named matching able
    | python => exact signed.python_accepts decodes named matching able

/-! ### A packet without a protocol version -/

/-- One key, whose signatures are a single byte. -/
def sampleCrypto : Crypto Unit Unit := ⟨fun _ => (),fun _ => true,fun bytes => bytes.take 32,fun _ _ _ => [1],fun _ _ _ => true⟩

def sampleMetadata : Msg :=
  .field 1 (.text profileVersion) <| .field 2 (.text algorithm) <| .field 3 (.bytes (List.replicate 16 7)) <|
  .field 4 (.text "job.echo") <| .field 5 (.message (.field 1 (.varint 60) (.done []))) <|
  .field 6 (.text "key-1") (.done [])

/-- A heartbeat of worker-1, signed at the epoch to expire a minute later. -/
def sampleMessage (version : Msg → Msg) : Msg :=
  .field 1 (.text "trace-1") <| .field 2 (.text "worker-1") <| .field 3 (.message (.done [])) <| version <|
  .field 5 (.message sampleMetadata) <| .field 6 (.message (.field 1 (.text "tenant-1") (.done []))) <|
  .field 12 (.message (.field 1 (.text "worker-1") (.done []))) (.done [])

def unversionedPacket : BusPacket := ⟨sampleMessage id,by decide⟩
def versionedPacket : BusPacket := ⟨sampleMessage (.field 4 (.varint 1)),by decide⟩

def sampleTrust (lifetime : Int) : Trust Unit := ⟨"job.echo","tenant-1","worker-1",[("key-1",())],lifetime,0⟩
def sampleStores : Stores Unit :=
  ⟨⟨sampleTrust Go.maxLifetime,none⟩,sampleTrust Node.maxLifetime,sampleTrust Python.maxLifetime⟩

def sampleUnmarshal (packet : Msg) : Unmarshal := fun bytes => if bytes = packet.encode then some packet else none

def sampleRaw (packet : Msg) : Bytes := appendSignatureField packet.encode [1]

/-- Go signs and accepts the packet without a version; Node refuses Go's bytes. -/
theorem unversioned_packet_refused :
    emits sampleCrypto protowire unversionedPacket (fun _ => true) () 0 0 .go = some (sampleRaw unversionedPacket.message) ∧
    NamesAll sampleStores unversionedPacket.message () ∧
    accepts sampleCrypto protowire (fun _ => sampleUnmarshal unversionedPacket.message) sampleStores
      (sampleRaw unversionedPacket.message) 0 .node = none := by
  refine ⟨by decide +kernel,⟨?_,by simp [sampleStores],?_,?_⟩,by decide +kernel⟩ <;>
    exact ⟨by decide,by decide,by decide,by decide,rfl,rfl⟩

/-- With the version, Node's bytes are accepted everywhere. -/
theorem versioned_packet_accepted : AcceptedByAll sampleCrypto protowire
    (fun _ => sampleUnmarshal versionedPacket.message) sampleStores (sampleRaw versionedPacket.message) 0 versionedPacket :=
  (emitted_accepted_iff sampleCrypto protowire _ _ .node versionedPacket (fun _ => true) () 0 0 _ (by decide +kernel) ⟨by intro; rfl,by intro; simp [sampleCrypto]⟩ (by intro; decide +kernel)
    ⟨⟨by decide,by decide,by decide,by decide,rfl,rfl⟩,by simp [sampleStores],
      ⟨by decide,by decide,by decide,by decide,rfl,rfl⟩,⟨by decide,by decide,by decide,by decide,rfl,rfl⟩⟩).mpr
    ⟨by decide,⟨sampleMetadata,.field 1 (.varint 60) (.done []),by decide,by decide,by decide,by decide⟩,by decide,
      by decide,by decide,by decide⟩

end Cap.ProductionInterop
