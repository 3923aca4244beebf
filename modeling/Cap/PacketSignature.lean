import Cap.GoPreimage
import Cap.NodePreimage

/-!
Signatures of ordinary packets in Go (`signing.go`) and Node. Node's signature covers a packet
that `stripDefaults` takes nothing from, and Node accepts Go's signature where, besides, the two
write the fields and the entries of maps in one order.
-/
namespace Cap.PacketSignature
open Cap.Text Cap.Wire Cap.Proto Cap.Packets Cap.Objects
open Cap.ProductionSigning (Crypto)

def Go.signPacket {Key Pub : Type} (crypto : Crypto Key Pub) (key : Key) (random : Nat) (packet : Obj) : Bytes :=
  crypto.sign key (crypto.sha256 (marshalUnsignedForSignature packet)) random

section
open Trust.Node (isDefaultScalar)

mutual

private theorem written_value : ∀ o : Obj, written (value o) = written o
  | .done _ => rfl
  | .set number item rest => by
    have later := written_value rest
    have here := written_item item
    simp only [written,value,Obj.reorder,Obj.prune] at later ⊢
    cases pruned : item.prune isZero false with
    | none =>
      rw [pruned] at here
      rw [here]
      exact later
    | some kept =>
      rw [pruned] at here
      simp only [Obj.reorder,Obj.prune,later]
      rw [show (kept.reorder MapOrder.Node.mapOut).prune isDefaultScalar true = _ from here]

private theorem written_item : ∀ item : Item, match item.prune isZero false with
    | none => (item.reorder MapOrder.Node.mapOut).prune isDefaultScalar true = none
    | some kept => (kept.reorder MapOrder.Node.mapOut).prune isDefaultScalar true =
        (item.reorder MapOrder.Node.mapOut).prune isDefaultScalar true
  | .scalar v => by
    by_cases zero : isZero v = true
    · simp [Item.prune,Item.reorder,zero,isDefaultScalar_of_isZero zero]
    · simp [Item.prune,zero]
  | .numbers ns => by
    by_cases empty : ns = []
    · simp [Item.prune,Item.reorder,empty]
    · simp [Item.prune,empty]
  | .texts ss => by
    by_cases empty : ss = []
    · simp [Item.prune,Item.reorder,empty]
    · simp [Item.prune,empty]
  | .map entries => by
    by_cases empty : entries = []
    · subst empty
      rfl
    · simp [Item.prune,empty]
  | .message o => by
    have inner := written_value o
    simp only [written,value] at inner
    simp [Item.prune,Item.reorder,inner]
  | .element o => by
    have inner := written_value o
    simp only [written,value] at inner
    simp [Item.prune,Item.reorder,inner]

end

end

/-- Packets that stand for the same but for their signatures. -/
def Alike (p q : Packet) : Prop := value (unsigned p.object) = value (unsigned q.object)

theorem encodeUnsigned_alike {p q : Packet} (alike : Alike p q) :
    Node.encodeUnsignedForSignature p.object = Node.encodeUnsignedForSignature q.object := by
  rw [Node.encodeUnsignedForSignature,Node.encodeUnsignedForSignature,encode_written p.unsigned_conforms p.unsigned_closed,
    encode_written q.unsigned_conforms q.unsigned_closed,← written_value,alike,written_value]

theorem not_mem_unsigned (o : Obj) : 14 ∉ (unsigned o).numbers := fun member => by
  simpa using (Obj.mem_numbers_select.mp member).2

theorem preimages_eq_iff (p : Packet) :
    Node.encodeUnsignedForSignature p.object = Go.marshalUnsignedForSignature p.object ↔
      Kept (unsigned p.object) ∧ Ordered (unsigned p.object) ∧ InTurn (unsigned p.object) := by
  have conforms := p.unsigned_conforms
  have sorted := p.unsigned_sorted
  have closed := p.unsigned_closed
  have bare := not_mem_unsigned p.object
  have short := lt_of_le_of_lt (written_length sorted) p.unsigned_short
  rw [Node.encodeUnsignedForSignature,Go.marshalUnsignedForSignature,encode_written conforms closed]
  by_cases turn : InTurn (unsigned p.object)
  · rw [marshal_in_turn conforms sorted bare closed turn,← and_assoc,← written_eq_value_iff sorted]
    constructor
    · intro same
      exact ⟨record_inj (written_conforms conforms) (value_conforms conforms) (written_closed closed)
        ((Obj.prune_part _).closed closed) (Obj.prune_full _) (Obj.prune_full _) short same,turn⟩
    · rintro ⟨same,-⟩
      rw [same]
  · constructor
    · intro same
      have known : ∀ o : Obj, o.closed = true → o.Known schema skipValue .busPacket := fun o closed =>
        Obj.known_of_closed o closed
      exact absurd same (marshal_out_of_turn conforms (known _ closed) sorted bare turn (written_conforms conforms)
        (known _ (written_closed closed)) short)
    · rintro ⟨-,-,inTurn⟩
      exact absurd inTurn turn

/-- A signature verifies under the key of the signer. -/
def Signs {Key Pub : Type} (crypto : Crypto Key Pub) (key : Key) : Prop :=
  ∀ digest random, crypto.verify (crypto.publicKey key) digest (crypto.sign key digest random) = true

/-- Whatever the key, Node accepts the signature that Go makes over the packet, over every packet
    that stands for the same. -/
def Accepted (p : Packet) : Prop :=
  ∀ (Key Pub : Type) (crypto : Crypto Key Pub) (createPublicKey : String → Option Pub) (key : Key) (publicKey : String)
    (random : Nat) (decoded : Packet), Signs crypto key → createPublicKey publicKey = some (crypto.publicKey key) →
    crypto.p256 (crypto.publicKey key) = true → Alike decoded p →
    Node.verifySignature crypto createPublicKey decoded.object publicKey (Go.signPacket crypto key random p.object) =
      .ok true

theorem verifySignature_eq {Key Pub : Type} {crypto : Crypto Key Pub} {createPublicKey : String → Option Pub} {pub : Pub}
    {publicKey : String} (parsed : createPublicKey publicKey = some pub) (curve : crypto.p256 pub = true) (o : Obj)
    (signature : Bytes) : Node.verifySignature crypto createPublicKey o publicKey signature =
      .ok (crypto.verify pub (crypto.sha256 (Node.encodeUnsignedForSignature o)) signature) := by
  simp only [Node.verifySignature,Node.requireP256PublicKey,parsed,curve]
  rfl

/-- Signatures that are the signed bytes themselves. -/
private def plainCrypto : Crypto Unit Unit where
  publicKey key := key
  p256 _ := true
  sha256 data := data
  sign _ digest _ := digest
  verify _ digest signature := digest == signature

theorem accepted_iff (p : Packet) : Accepted p ↔
    Node.encodeUnsignedForSignature p.object = Go.marshalUnsignedForSignature p.object := by
  constructor
  · intro accepted
    have plain := accepted Unit Unit plainCrypto (fun _ => some ()) () "" 0 p (fun _ _ => beq_self_eq_true _) rfl rfl rfl
    have parsed : (fun _ : String => some ()) "" = some () := rfl
    have curve : plainCrypto.p256 () = true := rfl
    rw [verifySignature_eq parsed curve,Except.ok.injEq] at plain
    exact beq_iff_eq.mp plain
  · intro same Key Pub crypto createPublicKey key publicKey random decoded signs parsed curve alike
    rw [verifySignature_eq parsed curve,encodeUnsigned_alike alike,same]
    exact congrArg Except.ok (signs _ _)

section
open Cap.Checks

private theorem requireSender_eq_ok {v w : String} :
    Node.requireSender v = .ok w ↔ blank jsSpace v = false ∧ v = w := by
  unfold Node.requireSender
  split <;> simp_all

private theorem requireSignature_eq_ok {v w : Bytes} : Node.requireSignature v = .ok w ↔ v ≠ [] ∧ v = w := by
  unfold Node.requireSignature
  split <;> simp_all

private theorem lookupPublicKey_eq_ok {keys : List (String × String)} {sender publicKey : String} :
    Node.lookupPublicKey keys sender = .ok publicKey ↔
      keys.lookup sender = some publicKey ∧ blank jsSpace publicKey = false := by
  unfold Node.lookupPublicKey
  cases keys.lookup sender with
  | none => simp
  | some found =>
    dsimp only
    split
    · next spaces => simp only [throw_eq_ok,Option.some.injEq,false_iff,not_and]; rintro rfl; simp [spaces]
    · next visible =>
      simp only [pure_eq_ok,Option.some.injEq]
      constructor
      · rintro rfl
        exact ⟨rfl,by simpa using visible⟩
      · exact fun found => found.1

/-- With keys configured, an inbound packet is accepted exactly when it is valid and its signature
    verifies under the key of its sender. -/
theorem verifyInboundPacket_eq_ok {Key Pub : Type} {crypto : Crypto Key Pub} {createPublicKey : String → Option Pub}
    {o : Obj} {keys : List (String × String)} :
    Node.verifyInboundPacket crypto createPublicKey o (some keys) = .ok () ↔
      NodeValidate.validateBusPacket (fun _ => false) o.record = [] ∧ blank jsSpace (senderId o) = false ∧
      signature o ≠ [] ∧ ∃ publicKey, keys.lookup (senderId o) = some publicKey ∧ blank jsSpace publicKey = false ∧
        Node.verifySignature crypto createPublicKey o publicKey (signature o) = .ok true := by
  have checked : ∀ verified : Bool, (if verified = true then pure ()
      else throw (.invalid "inbound signature verification failed") : Except Node.Error Unit) = .ok () ↔
      verified = true := by
    intro verified
    cases verified <;> simp
  by_cases valid : NodeValidate.validateBusPacket (fun _ => false) o.record = []
  · simp only [Node.verifyInboundPacket,valid,ne_eq,not_true_eq_false,if_false,bind_eq_ok,requireSender_eq_ok,
      requireSignature_eq_ok,lookupPublicKey_eq_ok,checked]
    constructor
    · rintro ⟨_,⟨sender,rfl⟩,_,⟨signed,rfl⟩,publicKey,⟨pinned,visible⟩,_,verified,rfl⟩
      exact ⟨trivial,sender,signed,publicKey,pinned,visible,verified⟩
    · rintro ⟨-,sender,signed,publicKey,pinned,visible,verified⟩
      exact ⟨_,⟨sender,rfl⟩,_,⟨signed,rfl⟩,publicKey,⟨pinned,visible⟩,_,verified,rfl⟩
  · simp [Node.verifyInboundPacket,valid]

end

/-- The bytes that Node signs give back the packet without its signature. -/
def GivenBack (p : Packet) : Prop :=
  ∀ skip, decode schema skip .busPacket (Node.encodeUnsignedForSignature p.object) = some (value (unsigned p.object))

/-- Node's signature covers a packet exactly when nothing that is set in it is left out; such
    packets have one preimage only if they stand for the same. Go's signature over the packet is
    accepted exactly when, besides, its maps are ordered and its token is in turn. -/
theorem covered_iff (p : Packet) :
    (GivenBack p ↔ Kept (unsigned p.object)) ∧
    (∀ q : Packet, Kept (unsigned p.object) → Kept (unsigned q.object) →
      Node.encodeUnsignedForSignature p.object = Node.encodeUnsignedForSignature q.object → Alike p q) ∧
    (Accepted p ↔ Kept (unsigned p.object) ∧ Ordered (unsigned p.object) ∧ InTurn (unsigned p.object)) := by
  refine ⟨?_,?_,(accepted_iff p).trans (preimages_eq_iff p)⟩
  · simp [GivenBack,decode_encodeUnsignedForSignature,left_eq_value_iff]
  · intro q keptP keptQ same
    have readP := decode_encodeUnsignedForSignature skipValue p
    have readQ := decode_encodeUnsignedForSignature skipValue q
    rw [same,readQ,Option.some.injEq] at readP
    rw [Alike,← (left_eq_value_iff _).mpr keptP,← (left_eq_value_iff _).mpr keptQ,readP]

/-! ### Packets with and without an identity -/

namespace Samples

private def cancel (identity : Obj → Obj) : Obj :=
  .set 1 (.scalar (.text "t")) (.set 2 (.scalar (.text "s")) (.set 3 (.message (.set 1 (.scalar (.varint 5)) (.done [])))
    (.set 4 (.scalar (.varint 1)) (identity (.set 14 (.scalar (.bytes [1])) (.set 16 (.message
      (.set 1 (.scalar (.text "j")) (.done []))) (.set 18 (.scalar (.text "a")) (.done []))))))))

def plain : Packet :=
  ⟨cancel id,by decide +kernel,by simp [cancel,Obj.Maps,Item.Maps],by decide +kernel,by decide +kernel⟩

/-- The packet with an identity that has no field set. -/
def hollow : Packet :=
  ⟨cancel (.set 6 (.message (.done []))),by decide +kernel,by simp [cancel,Obj.Maps,Item.Maps],by decide +kernel,
    by decide +kernel⟩

/-- Node signs the packet with the empty identity as the one without: it does not get the identity
    back, and Go's signature over the packet is refused. -/
theorem hollow_identity_lost :
    Node.encodeUnsignedForSignature hollow.object = Node.encodeUnsignedForSignature plain.object ∧
    ¬ Alike hollow plain ∧ ¬ GivenBack hollow ∧ ¬ Accepted hollow := by
  refine ⟨by decide +kernel,by unfold Alike; decide +kernel,fun back => ?_,fun accepted => ?_⟩
  · have read := back skipValue
    revert read
    decide +kernel
  · have same := (accepted_iff hollow).mp accepted
    revert same
    decide +kernel

private theorem plain_kept : Kept (unsigned plain.object) := by
  rw [← left_eq_value_iff]
  decide +kernel

/-- The packet without an identity is covered. -/
theorem plain_covered : GivenBack plain ∧ Alike plain plain ∧ Accepted plain := by
  obtain ⟨back,apart,accepted⟩ := covered_iff plain
  refine ⟨back.mpr plain_kept,apart plain plain_kept plain_kept rfl,accepted.mpr ⟨plain_kept,?_,.inr ?_⟩⟩
  · simp [plain,cancel,unsigned,Obj.select,Ordered,Obj.Maps,Item.Maps]
  · decide +kernel

end Samples

end Cap.PacketSignature
