import Cap.GoPreimage
import Cap.GoValidate
import Cap.TrustEncoding

/-!
The signatures of the Go SDK cannot be moved from one scheme to another (`trust_signing.go`,
`production_signing.go`, `signing.go`): every scheme but one hashes behind a domain of its own,
and ordinary packets start with the tag of their trace id.
-/
namespace Cap.SigningDomains
open Cap.Text Cap.Wire Cap.Proto Cap.Packets Cap.Objects Cap.Checks Cap.PacketSignature
open Cap.ProductionSigning (Crypto productionDomain)
open Cap.ProductionWire (Protowire extractSignatureField)
open Cap.Trust (Phase)
open Cap.Trust.Go (Error)
open Cap.Records (utf8_inj)

/-! ### Handshake packets as objects -/

namespace Go

def selectTrustHandshakePhase (packet : Obj) : Except Error Phase :=
  match payload? packet with
  | some (19,_) => .ok .challengeRequest
  | some (20,_) => .ok .challenge
  | some (21,_) => .ok .authenticate
  | some (22,_) => .ok .result
  | _ => .error .trustHandshakePayload

def proofAlgorithm? (packet : Obj) : Option Int :=
  match payload? packet with
  | some (19,request) => some (int 5 request)
  | some (20,challenge) => some (int 8 challenge)
  | some (21,authenticate) => (sub? 1 authenticate).map (int 8)
  | some (22,result) => (sub? 1 result).map (int 8)
  | _ => none

def validateTrustHandshakeAlgorithm (packet : Obj) : Except Error Unit :=
  require (proofAlgorithm? packet == some 1) (.trustHandshakeAlgorithm ((proofAlgorithm? packet).map Int32.ofInt))

def marshalTrustHandshakeTranscript (packet : Obj) : Except Error Bytes := do
  require packet.closed (.workerHandshakePacket "unknown fields")
  let phase ← selectTrustHandshakePhase packet
  validateTrustHandshakeAlgorithm packet
  pure (utf8 phase.domain ++ 0 :: PacketSignature.Go.marshalDeterministic (unsigned packet))

theorem marshalTrustHandshakeTranscript_eq_ok {packet : Obj} {transcript : Bytes} :
    marshalTrustHandshakeTranscript packet = .ok transcript ↔ packet.closed = true ∧ ∃ phase,
      selectTrustHandshakePhase packet = .ok phase ∧ proofAlgorithm? packet = some 1 ∧
      utf8 phase.domain ++ 0 :: PacketSignature.Go.marshalDeterministic (unsigned packet) = transcript := by
  simp [marshalTrustHandshakeTranscript,validateTrustHandshakeAlgorithm]

end Go

/-- A scheme of signatures; the phases of the handshake are apart. -/
inductive Scheme where
  | production
  | handshake (phase : Phase)
  | legacy
deriving DecidableEq

/-- A packet in memory. Its unknown bytes are such as a decoder leaves. -/
structure Held (skip : Nat → Nat → Bytes → Option Nat) where
  object : Obj
  conforms : object.conforms schema .busPacket 1 [] = true
  sorted : object.Maps Sorted
  known : object.Known schema skip .busPacket

def packetOf (m : Msg) : Obj := value (toObject schema insertEntry .busPacket m)

section
variable {Key Pub : Type} (crypto : Crypto Key Pub) (pw : Protowire) (skip : Nat → Nat → Bytes → Option Nat)
  (limits : GoValidate.Limits) (validateWorkerTrustPayload : Obj → Except GoValidate.ValidationError Unit)

/-- Go hashes the bytes for a signature of the scheme over the unsigned packet. Production packets
    are hashed as their encoder wrote them, with maps and fields in any order, and as they arrived;
    a slice has fewer than `2 ^ 63` bytes. -/
inductive Hashed : Scheme → Obj → Bytes → Prop
  | signProduction {packet : BusPacket} {key : Key} {now : Int} {randomness : Nat} {raw : Bytes} :
      ProductionSigning.Go.signProductionPacket crypto pw packet key now randomness = .ok raw →
      Hashed .production (packetOf (Envelope.unsigned packet.message).unpacked)
        (productionDomain ++ (Envelope.unsigned packet.message).encode)
  | verifyProduction {raw unsigned signature : Bytes} {packet : Msg} :
      extractSignatureField pw raw = .ok (unsigned,signature) →
      unmarshal schema skip .busPacket unsigned = some packet → packet.closed = true →
      Hashed .production (packetOf packet) (productionDomain ++ unsigned)
  | handshake {packet : Held skip} {phase : Phase} {transcript : Bytes} :
      Go.selectTrustHandshakePhase packet.object = .ok phase →
      Go.marshalTrustHandshakeTranscript packet.object = .ok transcript → transcript.length < 2 ^ 63 →
      Hashed (.handshake phase) (value (unsigned packet.object)) transcript
  | legacy {packet : Held skip} :
      GoValidate.validateBusPacket limits validateWorkerTrustPayload packet.object = .ok () →
      (PacketSignature.Go.marshalUnsignedForSignature packet.object).length < 2 ^ 63 →
      Hashed .legacy (value (unsigned packet.object)) (PacketSignature.Go.marshalUnsignedForSignature packet.object)

end

def Scheme.frame : Scheme → Bytes → Bytes
  | .production,bytes => productionDomain ++ bytes
  | .handshake phase,bytes => utf8 phase.domain ++ 0 :: bytes
  | .legacy,bytes => bytes

def ReadAs (skip : Nat → Nat → Bytes → Option Nat) : Scheme → Bytes → Obj → Prop
  | .production,bytes,o => ∃ m, unmarshal schema skip .busPacket bytes = some m ∧ o = packetOf m
  | _,bytes,o => ∃ p : Obj, p.conforms schema .busPacket 1 [] = true ∧ Reads skip bytes (value p) ∧ o = value p

theorem ReadAs.inj {skip : Nat → Nat → Bytes → Option Nat} {s : Scheme} {bytes : Bytes} {o p : Obj}
    (first : ReadAs skip s bytes o) (second : ReadAs skip s bytes p) : o = p := by
  have objects : ∀ {a b : Obj}, a.conforms schema .busPacket 1 [] = true → Reads skip bytes (value a) →
      b.conforms schema .busPacket 1 [] = true → Reads skip bytes (value b) → value a = value b :=
    fun conformsA readsA conformsB readsB => reads_inj conformsA conformsB readsA readsB
  cases s with
  | production =>
    obtain ⟨m,read,rfl⟩ := first
    obtain ⟨n,again,rfl⟩ := second
    rw [read,Option.some.injEq] at again
    rw [again]
  | handshake phase | legacy =>
    obtain ⟨a,conformsA,readsA,rfl⟩ := first
    obtain ⟨b,conformsB,readsB,rfl⟩ := second
    exact objects conformsA readsA conformsB readsB

/-! ### Reading what was hashed -/

section
variable {Key Pub : Type} {crypto : Crypto Key Pub} {pw : Protowire} {skip : Nat → Nat → Bytes → Option Nat}
  {limits : GoValidate.Limits} {validateWorkerTrustPayload : Obj → Except GoValidate.ValidationError Unit}

private theorem signProduction_reads {packet : BusPacket} {key : Key} {now : Int} {randomness : Nat} {raw : Bytes}
    (signed : ProductionSigning.Go.signProductionPacket crypto pw packet key now randomness = .ok raw) :
    unmarshal schema skip .busPacket (Envelope.unsigned packet.message).encode =
      some (Envelope.unsigned packet.message).unpacked := by
  simp only [ProductionSigning.Go.signProductionPacket,bind_eq_ok,require_eq_ok,pure_eq_ok,exists_const] at signed
  obtain ⟨-,_,-,closed,_,-,size,-⟩ := signed
  have short : (Envelope.unsigned packet.message).encode.length < 2 ^ 63 := by
    simp only [ProductionSigning.appendSignatureField,List.length_append,decide_eq_true_eq] at size
    have : ProductionWire.maxProductionRawBytes < 2 ^ 63 := by decide
    omega
  exact unmarshal_encode schema_sound (Msg.conforms_clear 14 packet.conforms)
    (Msg.known_of_closed _ (Msg.closed_clear closed)) short

namespace Held

variable (packet : Held skip)

theorem unsigned_conforms : (unsigned packet.object).conforms schema .busPacket 1 [] = true :=
  Obj.select_part.conforms packet.conforms

theorem unsigned_sorted : (unsigned packet.object).Maps Sorted := Obj.select_part.maps packet.sorted

theorem unsigned_known : (unsigned packet.object).Known schema skip .busPacket := Obj.select_part.known packet.known

theorem unsigned_bare : 14 ∉ (unsigned packet.object).numbers := fun member => by
  simpa using (Obj.mem_numbers_select.mp member).2

end Held

/-- What is hashed is the packet's encoding behind the domain; without a domain it starts with a tag. -/
theorem Hashed.framed {s : Scheme} {o : Obj} {x : Bytes}
    (hashed : Hashed crypto pw skip limits validateWorkerTrustPayload s o x) :
    ∃ bytes, x = s.frame bytes ∧ ReadAs skip s bytes o ∧ (s = .legacy → ∃ rest, bytes = 10 :: rest) := by
  cases hashed with
  | signProduction signed => exact ⟨_,rfl,⟨_,signProduction_reads signed,rfl⟩,by simp⟩
  | verifyProduction extracted read closed => exact ⟨_,rfl,⟨_,read,rfl⟩,by simp⟩
  | @handshake packet phase transcript selected marshalled short =>
    obtain ⟨-,phase',selected',-,rfl⟩ := Go.marshalTrustHandshakeTranscript_eq_ok.mp marshalled
    rw [selected,Except.ok.injEq] at selected'
    subst selected'
    simp only [List.length_append,List.length_cons] at short
    refine ⟨_,rfl,⟨_,packet.unsigned_conforms,?_,rfl⟩,by simp⟩
    exact reads_marshalDeterministic packet.unsigned_conforms packet.unsigned_known packet.unsigned_sorted
      packet.unsigned_bare (by omega)
  | @legacy packet valid short =>
    obtain ⟨named,-⟩ := (GoValidate.validateBusPacket_eq_ok limits validateWorkerTrustPayload).mp valid
    have kept : traceId (unsigned packet.object) = traceId packet.object := by
      rw [traceId,text,text,unsigned,get?_select (by simp)]
    refine ⟨_,rfl,⟨_,packet.unsigned_conforms,?_,rfl⟩,fun _ => ?_⟩
    · exact reads_marshalPacketForSignature packet.unsigned_conforms packet.unsigned_known packet.unsigned_sorted
        packet.unsigned_bare short
    · exact marshal_first packet.unsigned_conforms packet.unsigned_sorted packet.unsigned_bare (kept ▸ named)

end

private def productionName : String := "CAP-PRODUCTION-SIGNATURE-V1"

/-- The domain without the zero byte that ends it. -/
private def Scheme.domain? : Scheme → Option String
  | .production => some productionName
  | .handshake phase => some phase.domain
  | .legacy => none

private theorem frame_domain {s : Scheme} {domain : String} (named : s.domain? = some domain) (bytes : Bytes) :
    s.frame bytes = utf8 domain ++ 0 :: bytes := by
  cases s with
  | production =>
    obtain rfl : productionName = domain := Option.some.inj named
    simp [Scheme.frame,productionDomain,productionName]
  | handshake phase =>
    obtain rfl : phase.domain = domain := Option.some.inj named
    rfl
  | legacy => cases named

private theorem domain?_inj {s t : Scheme} {domain : String} (first : s.domain? = some domain)
    (second : t.domain? = some domain) : s = t := by
  have apart : ∀ phase : Phase, phase.domain ≠ productionName := by
    intro phase
    cases phase <;> decide
  cases s with
  | legacy => cases first
  | production =>
    obtain rfl : productionName = domain := Option.some.inj first
    cases t with
    | production => rfl
    | handshake phase => exact absurd (Option.some.inj second) (apart phase)
    | legacy => cases second
  | handshake phase =>
    obtain rfl : phase.domain = domain := Option.some.inj first
    cases t with
    | production => exact absurd (Option.some.inj second).symm (apart phase)
    | handshake other =>
      rw [Trust.domain_inj (congrArg utf8 (Option.some.inj second))]
    | legacy => cases second

private theorem domain?_shape {s : Scheme} {domain : String} (named : s.domain? = some domain) :
    0 ∉ utf8 domain ∧ ∃ rest, utf8 domain = 67 :: rest := by
  have shape : ∀ text ∈ [productionName,Phase.domain .challengeRequest,Phase.domain .challenge,
      Phase.domain .authenticate,Phase.domain .result], 0 ∉ utf8 text ∧ (utf8 text).head? = some 67 := by
    decide +kernel
  have listed : 0 ∉ utf8 domain ∧ (utf8 domain).head? = some 67 := by
    apply shape
    cases s with
    | production => simp [← Option.some.inj named]
    | handshake phase => cases phase <;> simp [← Option.some.inj named]
    | legacy => cases named
  exact ⟨listed.1,List.head?_eq_some_iff.mp listed.2⟩

theorem frame_inj {s t : Scheme} {a b : Bytes} (startA : s = .legacy → ∃ rest, a = 10 :: rest)
    (startB : t = .legacy → ∃ rest, b = 10 :: rest) (same : s.frame a = t.frame b) : s = t ∧ a = b := by
  cases first : s.domain? with
  | none =>
    obtain rfl : s = .legacy := by cases s <;> simp [Scheme.domain?] at first ⊢
    cases second : t.domain? with
    | none =>
      obtain rfl : t = .legacy := by cases t <;> simp [Scheme.domain?] at second ⊢
      exact ⟨rfl,same⟩
    | some domain =>
      obtain ⟨rest,rfl⟩ := startA rfl
      obtain ⟨-,letters,shape⟩ := domain?_shape second
      rw [frame_domain second,shape] at same
      cases same
  | some domain =>
    cases second : t.domain? with
    | none =>
      obtain rfl : t = .legacy := by cases t <;> simp [Scheme.domain?] at second ⊢
      obtain ⟨rest,rfl⟩ := startB rfl
      obtain ⟨-,letters,shape⟩ := domain?_shape first
      rw [frame_domain first,shape] at same
      cases same
    | some other =>
      rw [frame_domain first,frame_domain second] at same
      obtain ⟨domains,bytes⟩ := Trust.separated_inj (domain?_shape first).1 (domain?_shape second).1 same
      rw [utf8_inj domains] at first
      exact ⟨domain?_inj first second,bytes⟩

section
variable {Key Pub : Type} {crypto : Crypto Key Pub} {pw : Protowire} {skip : Nat → Nat → Bytes → Option Nat}
  {limits : GoValidate.Limits} {validateWorkerTrustPayload : Obj → Except GoValidate.ValidationError Unit}

/-- A signature over the hash of one input verifies for no other input. -/
def Unforgeable (crypto : Crypto Key Pub) (key : Key) : Prop :=
  ∀ x y randomness, crypto.verify (crypto.publicKey key) (crypto.sha256 y) (crypto.sign key (crypto.sha256 x) randomness) =
    true → x = y

/-- Inputs of two schemes or phases are different, inputs of one scheme are the same only for the
    same unsigned packet, and a signature over one packet verifies as a signature over another only
    within its scheme and over the same packet. -/
theorem signing_inputs_apart {s t : Scheme} {o p : Obj} {x y : Bytes}
    (first : Hashed crypto pw skip limits validateWorkerTrustPayload s o x)
    (second : Hashed crypto pw skip limits validateWorkerTrustPayload t p y) :
    (s ≠ t → x ≠ y) ∧ (s = t → x = y → o = p) ∧
    ∀ key randomness, Unforgeable crypto key →
      crypto.verify (crypto.publicKey key) (crypto.sha256 y) (crypto.sign key (crypto.sha256 x) randomness) = true →
      s = t ∧ o = p := by
  have both : x = y → s = t ∧ o = p := by
    rintro rfl
    obtain ⟨a,framedA,readA,startA⟩ := first.framed
    obtain ⟨b,framedB,readB,startB⟩ := second.framed
    obtain ⟨rfl,rfl⟩ := frame_inj startA startB (framedA.symm.trans framedB)
    exact ⟨rfl,readA.inj readB⟩
  refine ⟨fun different same => different (both same).1,fun _ same => (both same).2,?_⟩
  intro key randomness unforgeable verified
  exact both (unforgeable x y randomness verified)

end

/-! ### A cancellation and a request for a challenge -/

namespace Samples

private def envelope (payload : Obj) : Obj :=
  .set 1 (.scalar (.text "t")) (.set 2 (.scalar (.text "s")) (.set 3 (.message (.set 1 (.scalar (.varint 5)) (.done [])))
    (.set 4 (.scalar (.varint 1)) payload)))

/-- A packet that cancels a job, with a session token. -/
def cancellation : Held skipValue where
  object := envelope (.set 16 (.message (.set 1 (.scalar (.text "j")) (.done [])))
    (.set 18 (.scalar (.text "a")) (.done [])))
  conforms := by decide +kernel
  sorted := by simp [envelope,Obj.Maps,Item.Maps]
  known := Obj.known_of_closed _ (by decide +kernel)

/-- A request for a challenge, whose proof is by the known algorithm. -/
def request : Held skipValue where
  object := envelope (.set 19 (.message (.set 5 (.scalar (.varint 1)) (.done []))) (.done []))
  conforms := by decide +kernel
  sorted := by simp [envelope,Obj.Maps,Item.Maps]
  known := Obj.known_of_closed _ (by decide +kernel)

def plainCrypto : Crypto Unit Unit where
  publicKey key := key
  p256 _ := true
  sha256 data := data
  sign _ digest _ := digest
  verify _ digest signature := digest == signature

private def transcript : Bytes :=
  utf8 (Phase.domain .challengeRequest) ++ 0 :: PacketSignature.Go.marshalDeterministic (unsigned request.object)

/-- The cancellation and the request are hashed as different bytes, and a signature over the one
    does not verify over the other. -/
theorem cancellation_request_apart :
    PacketSignature.Go.marshalUnsignedForSignature cancellation.object ≠ transcript ∧
    Unforgeable plainCrypto () ∧
    plainCrypto.verify () (plainCrypto.sha256 transcript) (plainCrypto.sign ()
      (plainCrypto.sha256 (PacketSignature.Go.marshalUnsignedForSignature cancellation.object)) 0) ≠ true := by
  have legacy : Hashed plainCrypto ProductionWire.protowire skipValue GoValidate.defaultLimits (fun _ => .ok ()) .legacy
      (value (unsigned cancellation.object)) (PacketSignature.Go.marshalUnsignedForSignature cancellation.object) :=
    .legacy (by decide +kernel) (by decide +kernel)
  have handshake : Hashed plainCrypto ProductionWire.protowire skipValue GoValidate.defaultLimits (fun _ => .ok ())
      (.handshake .challengeRequest) (value (unsigned request.object)) transcript :=
    .handshake (by decide +kernel) (by decide +kernel) (by decide +kernel)
  have unforgeable : Unforgeable plainCrypto () := fun x y _ verified => (beq_iff_eq.mp verified).symm
  obtain ⟨apart,-,signatures⟩ := signing_inputs_apart legacy handshake
  refine ⟨apart (by decide),unforgeable,fun verified => ?_⟩
  cases (signatures () 0 unforgeable verified).1

end Samples

end Cap.SigningDomains
