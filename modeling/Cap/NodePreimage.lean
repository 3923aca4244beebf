import Cap.NodeValidate
import Cap.PacketObject
import Cap.ProductionSigning

/-!
What Node signs of an ordinary packet (`codec.ts`, `security.ts`): the encoding of the decoded
object without its signature, as far as `stripDefaults` leaves it. A float is its bit pattern,
which a JavaScript number is taken to keep. Whether the decoder of protobufjs keeps an entry under
`__proto__` is of no concern here.
-/
namespace Cap.PacketSignature
open Cap.Text Cap.Wire Cap.Proto Cap.Packets Cap.Objects
open Cap.ProductionSigning (Crypto)

/-- A decoded packet without unknown fields. -/
structure Packet where
  object : Obj
  conforms : object.conforms schema .busPacket 1 [] = true
  sorted : object.Maps Sorted
  closed : object.closed = true
  short : object.record.encode.length < 2 ^ 63

namespace Node

inductive Error where
  | malformed (details : String)
  | missing (message : String)
  | invalid (message : String)
deriving DecidableEq

def encodeUnsignedForSignature (packet : Obj) : Bytes :=
  Trust.Node.encodeDeterministic .busPacket ((unsigned packet).reorder MapOrder.Node.mapOut).record

section
variable {Key Pub : Type} (crypto : Crypto Key Pub) (createPublicKey : String → Option Pub)

def requireP256PublicKey (publicKey : String) : Except Error Pub :=
  match createPublicKey publicKey with
  | none => throw (.invalid "trusted public key is invalid")
  | some key => if crypto.p256 key then pure key else throw (.invalid "trusted public key must use ECDSA P-256")

def verifySignature (packet : Obj) (publicKey : String) (signature : Bytes) : Except Error Bool := do
  let key ← requireP256PublicKey crypto createPublicKey publicKey
  pure (crypto.verify key (crypto.sha256 (encodeUnsignedForSignature packet)) signature)

def requireSender (value : String) : Except Error String :=
  if blank jsSpace value then throw (.invalid "authenticated sender identity is required") else pure value

def requireSignature (value : Bytes) : Except Error Bytes :=
  if value = [] then throw (.missing "inbound signature is required") else pure value

def lookupPublicKey (publicKeyMap : List (String × String)) (senderId : String) : Except Error String :=
  match publicKeyMap.lookup senderId with
  | none => throw (.invalid "no trusted public key for sender")
  | some publicKey => if blank jsSpace publicKey then throw (.invalid "trusted public key is invalid") else pure publicKey

/-- Inbound packets are validated, and verified where keys are configured. -/
def verifyInboundPacket (packet : Obj) (publicKeyMap : Option (List (String × String))) : Except Error Unit := do
  let validationErrors := NodeValidate.validateBusPacket (fun _ => false) packet.record
  if validationErrors ≠ [] then
    throw (.malformed ("; ".intercalate ((validationErrors.take 8).map fun error => error.field ++ ": " ++ error.message)))
  match publicKeyMap with
  | none => pure ()
  | some publicKeyMap =>
    let senderId ← requireSender (senderId packet)
    let signature ← requireSignature (signature packet)
    let publicKey ← lookupPublicKey publicKeyMap senderId
    if ← verifySignature crypto createPublicKey packet publicKey signature then pure ()
    else throw (.invalid "inbound signature verification failed")

end

end Node

mutual

/-- Nothing that is set is left out: no sub-message without a property that is set, no negative
    zero, no map entry under `__proto__`. -/
def Kept : Obj → Prop
  | .done _ => True
  | .set _ item rest => KeptItem item ∧ Kept rest

def KeptItem : Item → Prop
  | .scalar v => Trust.Node.isDefaultScalar v = true → isZero v = true
  | .map entries => "__proto__" ∉ entries.map Prod.fst
  | .message o => (value o).isEmpty = false ∧ Kept o
  | .element o => Kept o
  | .numbers _ | .texts _ => True

end

def settable (entries : Entries) : Entries := entries.filter (·.1 ≠ "__proto__")

def left (o : Obj) : Obj := (o.reorder settable).prune Trust.Node.isDefaultScalar true

mutual

def weight : Obj → Nat
  | .done _ => 0
  | .set _ item rest => itemWeight item + weight rest

def itemWeight : Item → Nat
  | .map entries => 1 + entries.length
  | .message o => 1 + weight o
  | .element o => 1 + weight o
  | .scalar _ | .numbers _ | .texts _ => 1

end

variable {v : Val}

theorem isDefaultScalar_of_isZero (zero : isZero v = true) : Trust.Node.isDefaultScalar v = true := by
  cases v <;> simp_all [isZero,Trust.Node.isDefaultScalar]

private theorem weight_prune (zero : Val → Bool) (hollow : Bool) (number : Nat) (item : Item) (rest : Obj) :
    weight ((Obj.set number item rest).prune zero hollow) =
      ((item.prune zero hollow).map itemWeight).getD 0 + weight (rest.prune zero hollow) := by
  rw [Obj.prune]
  cases item.prune zero hollow with
  | none => simp
  | some kept => simp [weight]

variable {entries : Entries}

private theorem settable_eq_self (absent : "__proto__" ∉ entries.map Prod.fst) :
    settable entries = entries := by
  refine List.filter_eq_self.mpr fun entry member => decide_eq_true ?_
  rintro same
  exact absent (List.mem_map.mpr ⟨entry,member,same⟩)

private theorem settable_length (present : "__proto__" ∈ entries.map Prod.fst) :
    (settable entries).length < entries.length := by
  obtain ⟨entry,member,named⟩ := List.mem_map.mp present
  exact List.length_filter_lt_length_iff_exists.mpr ⟨entry,member,by simp [named]⟩

mutual

private theorem left_or_less : ∀ o : Obj, Kept o ∧ left o = value o ∨ ¬ Kept o ∧ weight (left o) < weight (value o)
  | .done _ => .inl ⟨trivial,rfl⟩
  | .set number item rest => by
    have sizes := weight_prune Trust.Node.isDefaultScalar true number (item.reorder settable) (rest.reorder settable)
    have values := weight_prune isZero false number item rest
    rcases left_or_less_item item with ⟨kept,same⟩ | ⟨lost,less⟩
    · rcases left_or_less rest with ⟨keptRest,sameRest⟩ | ⟨lostRest,lessRest⟩
      · refine .inl ⟨⟨kept,keptRest⟩,?_⟩
        simp only [left,value,Obj.reorder,Obj.prune] at sameRest ⊢
        rw [same,sameRest]
      · refine .inr ⟨fun both => lostRest both.2,?_⟩
        simp only [left,value,Obj.reorder] at lessRest ⊢
        rw [sizes,same]
        omega
    · refine .inr ⟨fun both => lost both.1,?_⟩
      have le : weight (left rest) ≤ weight (value rest) := by
        rcases left_or_less rest with ⟨-,sameRest⟩ | ⟨-,lessRest⟩
        · rw [sameRest]
        · omega
      simp only [left,value,Obj.reorder] at le ⊢
      omega

private theorem left_or_less_item : ∀ item : Item,
    KeptItem item ∧ (item.reorder settable).prune Trust.Node.isDefaultScalar true = item.prune isZero false ∨
    ¬ KeptItem item ∧ (((item.reorder settable).prune Trust.Node.isDefaultScalar true).map itemWeight).getD 0 <
      ((item.prune isZero false).map itemWeight).getD 0
  | .scalar v => by
    by_cases zero : isZero v = true
    · exact .inl ⟨fun _ => zero,by simp [Item.reorder,Item.prune,zero,isDefaultScalar_of_isZero zero]⟩
    · by_cases default : Trust.Node.isDefaultScalar v = true
      · exact .inr ⟨fun kept => zero (kept default),by simp [Item.reorder,Item.prune,zero,default,itemWeight]⟩
      · exact .inl ⟨fun same => absurd same default,by simp [Item.reorder,Item.prune,zero,default]⟩
  | .map entries => by
    by_cases present : "__proto__" ∈ entries.map Prod.fst
    · refine .inr ⟨fun kept => kept present,?_⟩
      have less := settable_length present
      have some : entries ≠ [] := by
        rintro rfl
        simp at present
      simp only [Item.reorder,Item.prune,List.isEmpty_iff,some,if_false,Option.map_some,itemWeight]
      split
      · simp
      · simpa [itemWeight] using less
    · exact .inl ⟨present,by rw [Item.reorder,settable_eq_self present]; rfl⟩
  | .message o => by
    have unfolded : ((Item.message o).reorder settable).prune Trust.Node.isDefaultScalar true =
        if (left o).isEmpty then none else some (.message (left o)) := by
      rfl
    have whole : (Item.message o).prune isZero false = some (.message (value o)) := by simp [Item.prune,value]
    rw [unfolded,whole]
    rcases left_or_less o with ⟨kept,same⟩ | ⟨lost,less⟩
    · rw [same]
      cases empty : (value o).isEmpty with
      | true => exact .inr ⟨fun both => by simp [KeptItem,empty] at both,by simp [itemWeight]⟩
      | false => exact .inl ⟨⟨empty,kept⟩,rfl⟩
    · refine .inr ⟨fun both => lost both.2,?_⟩
      split
      · simp [itemWeight]
      · simpa [itemWeight] using less
  | .element o => by
    rcases left_or_less o with ⟨kept,same⟩ | ⟨lost,less⟩
    · exact .inl ⟨kept,by simp only [Item.reorder]; exact congrArg _ (congrArg _ same)⟩
    · refine .inr ⟨lost,?_⟩
      simpa [Item.reorder,Item.prune,itemWeight,left,value] using less
  | .numbers _ | .texts _ => .inl ⟨trivial,rfl⟩

end

theorem left_eq_value_iff (o : Obj) : left o = value o ↔ Kept o := by
  rcases left_or_less o with ⟨kept,same⟩ | ⟨lost,less⟩
  · exact ⟨fun _ => kept,fun _ => same⟩
  · refine ⟨fun same => ?_,fun kept => absurd kept lost⟩
    rw [same] at less
    omega

/-! ### The object that is written -/

section
open Trust.Node (stripDefaults stripValue isEmpty isDefaultScalar)

variable {o : Obj}

private theorem isEmpty_record (full : o.full = true) : isEmpty o.record = o.isEmpty := by
  cases o with
  | done unknown => rfl
  | set number item rest =>
    rw [Obj.full,Bool.and_eq_true] at full
    cases item with
    | numbers ns =>
      have some : ns ≠ [] := by simpa [Item.full] using full.1
      simp [Obj.record,Item.fields,some,isEmpty,Obj.isEmpty]
    | texts ss =>
      cases ss with
      | nil => simp [Item.full] at full
      | cons s ss => rfl
    | map entries =>
      cases entries with
      | nil => simp [Item.full] at full
      | cons entry entries => rfl
    | _ => rfl

private theorem strip_several {name : Name} {number : Nat} {desc : FieldDesc Name} {values : List Val} {rest : Msg}
    (found : schema.field name number = some desc)
    (kept : ∀ v ∈ values, stripValue desc.kind desc.label v = some v) :
    stripDefaults name (.several number values rest) = .several number values (stripDefaults name rest) := by
  induction values with
  | nil => rfl
  | cons v values ih =>
    rw [Msg.several_cons,stripDefaults,found]
    simp only [kept v (by simp),ih fun other member => kept other (by simp [member])]
    rfl

private theorem stripValue_held {type : Scalar} (held : type.holds v = true) :
    stripValue (.scalar type) .singular v = if isDefaultScalar v then none else some v := by
  cases v with
  | packed ns | message m => cases type <;> simp [Scalar.holds] at held
  | _ => rfl

mutual

theorem stripDefaults_record : ∀ (o : Obj) {name : Name} {least : Nat} {oneofs : List String},
    o.conforms schema name least oneofs = true → o.closed = true →
    stripDefaults name o.record = (o.prune isDefaultScalar true).record
  | .done unknown,_,_,_,_,closed => by
    rw [Obj.closed,List.isEmpty_iff] at closed
    rw [closed]
    rfl
  | .set number item rest,name,least,oneofs,conforms,closed => by
    obtain ⟨desc,found,-,fits,-,later⟩ := Obj.conforms_set.mp conforms
    rw [Obj.closed,Bool.and_eq_true] at closed
    rw [Obj.record,stripDefaults_fields item found fits closed.1,stripDefaults_record rest later closed.2,Obj.prune]
    cases item.prune isDefaultScalar true <;> rfl

theorem stripDefaults_fields : ∀ (item : Item) {name : Name} {number : Nat} {desc : FieldDesc Name} {rest : Msg},
    schema.field name number = some desc → item.fits schema desc.kind desc.label = true → item.closed = true →
    stripDefaults name (item.fields number rest) = match item.prune isDefaultScalar true with
      | none => stripDefaults name rest
      | some kept => kept.fields number (stripDefaults name rest)
  | .scalar v,name,number,desc,rest,found,fits,_ => by
    cases label : desc.label <;> cases kind : desc.kind <;> simp [Item.fits,label,kind] at fits
    rw [Item.fields,stripDefaults,found,Item.prune]
    simp only [label,kind,stripValue_held fits]
    cases isDefaultScalar v <;> rfl
  | .numbers ns,name,number,desc,rest,found,fits,_ => by
    by_cases empty : ns = []
    · simp [Item.fields,Item.prune,empty]
    · simp [Item.fields,Item.prune,empty,stripDefaults,found,stripValue]
  | .texts ss,name,number,desc,rest,found,fits,_ => by
    rw [Item.fields,strip_several found]
    · cases ss <;> rfl
    · intro v member
      obtain ⟨s,-,rfl⟩ := List.mem_map.mp member
      cases label : desc.label with
      | repeated packed => rfl
      | _ => simp [Item.fits,label] at fits
  | .map entries,name,number,desc,rest,found,fits,_ => by
    rw [Item.fields,strip_several found]
    · cases entries <;> rfl
    · intro v member
      obtain ⟨entry,-,rfl⟩ := List.mem_map.mp member
      cases label : desc.label with
      | map key => rfl
      | _ => simp [Item.fits,label] at fits
  | .message o,name,number,desc,rest,found,fits,closed => by
    cases label : desc.label <;> cases kind : desc.kind <;> simp [Item.fits,label,kind] at fits
    rw [Item.fields,stripDefaults,found,Item.prune]
    simp only [label,kind,stripValue,stripDefaults_record o fits closed,isEmpty_record (Obj.prune_full o)]
    cases (o.prune isDefaultScalar true).isEmpty <;> rfl
  | .element o,name,number,desc,rest,found,fits,closed => by
    cases label : desc.label <;> cases kind : desc.kind <;> simp [Item.fits,label,kind] at fits
    rw [Item.fields,stripDefaults,found]
    simp only [label,kind,stripValue,stripDefaults_record o fits closed]
    rfl

end

end

private theorem propertyOrder_perm (keys : List String) : (MapOrder.propertyOrder keys).Perm keys := by
  have parts := List.filter_append_perm (fun key => (Trust.Node.arrayIndex? key).isSome) keys
  simp only [Option.not_isSome] at parts
  exact ((List.perm_insertionSort _ _).append_right _).trans parts

theorem mapOut_perm (apart : (entries.map Prod.fst).Nodup) :
    (MapOrder.Node.mapOut entries).Perm (settable entries) := by
  have keys : (MapOrder.propertyOrder (((entries.map Prod.fst).insertionSort MapOrder.unitLe).filter (· ≠ "__proto__"))).Perm
      ((settable entries).map Prod.fst) := by
    refine (propertyOrder_perm _).trans (((List.perm_insertionSort _ _).filter _).trans ?_)
    rw [List.filter_map]
    exact List.Perm.refl _
  have within : ∀ entry ∈ settable entries, entry ∈ entries := fun entry member => (List.mem_filter.mp member).1
  have all := entriesOf_part apart within
  have listed := keys.filterMap fun key => (entries.lookup key).map (key,·)
  rw [MapOrder.entriesOf] at all
  rw [all] at listed
  exact listed

def written (o : Obj) : Obj := (o.reorder MapOrder.Node.mapOut).prune Trust.Node.isDefaultScalar true

private theorem mem_of_lookup {key : String} (found : entries.lookup key = some v) :
    (key,v) ∈ entries := by
  obtain ⟨before,later,rfl,-⟩ := List.lookup_eq_some_iff.mp found
  simp

theorem mapOut_within (entries : Entries) : ∀ entry ∈ MapOrder.Node.mapOut entries, entry ∈ entries := by
  intro entry member
  obtain ⟨key,-,found⟩ := List.mem_filterMap.mp member
  obtain ⟨v,looked,rfl⟩ := Option.map_eq_some_iff.mp found
  exact mem_of_lookup looked

private theorem sorted_settable (sorted : Sorted entries) : Sorted (settable entries) :=
  List.Pairwise.sublist (List.filter_sublist.map Prod.fst) sorted

private theorem isEmpty_read (entries : Entries) : (entries.foldr insertEntry []).isEmpty = entries.isEmpty := by
  cases entries with
  | nil => rfl
  | cons entry entries =>
    rw [List.foldr_cons,insertEntry]
    split
    · next found =>
      obtain ⟨other,member,-⟩ := List.any_eq_true.mp found
      cases read : entries.foldr insertEntry [] with
      | nil => rw [read] at member; cases member
      | cons first rest => rfl
    · have inside := (List.perm_orderedInsert (fun a b : String × Val => MapOrder.byteLe a.1 b.1) entry
        (entries.foldr insertEntry [])).mem_iff.mpr List.mem_cons_self
      cases read : (entries.foldr insertEntry []).orderedInsert (fun a b => MapOrder.byteLe a.1 b.1) entry with
      | nil => rw [read] at inside; cases inside
      | cons first rest => rfl

namespace Packet

theorem unsigned_conforms (p : Packet) : (unsigned p.object).conforms schema .busPacket 1 [] = true :=
  Obj.select_part.conforms p.conforms

theorem unsigned_sorted (p : Packet) : (unsigned p.object).Maps Sorted := Obj.select_part.maps p.sorted

theorem unsigned_closed (p : Packet) : (unsigned p.object).closed = true := Obj.select_part.closed p.closed

theorem unsigned_short (p : Packet) : (unsigned p.object).record.encode.length < 2 ^ 63 :=
  lt_of_le_of_lt Obj.select_part.length p.short

end Packet

section
variable {o : Obj} (conforms : o.conforms schema .busPacket 1 [] = true)
include conforms

theorem written_conforms : (written o).conforms schema .busPacket 1 [] = true :=
  (Obj.prune_part _).conforms (Obj.reorder_conforms mapOut_within o conforms)

theorem encode_written (closed : o.closed = true) :
    Trust.Node.encodeDeterministic .busPacket (o.reorder MapOrder.Node.mapOut).record = (written o).record.encode := by
  rw [Trust.Node.encodeDeterministic,stripDefaults_record _ (Obj.reorder_conforms mapOut_within o conforms)
    (by rw [Obj.reorder_closed,closed])]
  rfl

end

theorem written_closed (closed : o.closed = true) : (written o).closed = true :=
  (Obj.prune_part _).closed (by rw [Obj.reorder_closed,closed])

section
variable {o : Obj}

theorem written_length (sorted : o.Maps Sorted) : (written o).record.encode.length ≤ o.record.encode.length := by
  refine le_trans (Obj.prune_part _).length (Obj.reorder_length o (sorted.imp fun entries sorted => ?_))
  exact ⟨settable entries,(mapOut_perm sorted.nodup).symm,List.filter_sublist⟩

theorem written_read (sorted : o.Maps Sorted) : (written o).reorder (fun entries => entries.foldr insertEntry []) = left o := by
  have nonempty : ∀ o : Obj, o.Maps fun entries => (entries.foldr insertEntry []).isEmpty = entries.isEmpty :=
    Obj.maps_of_forall isEmpty_read
  have same : (o.reorder MapOrder.Node.mapOut).reorder (fun entries => entries.foldr insertEntry []) =
      o.reorder settable := by
    rw [Obj.reorder_reorder,Obj.reorder_eq_iff]
    exact sorted.imp fun entries sorted => (sorted_settable sorted).read (mapOut_perm sorted.nodup)
  rw [written,← Obj.prune_reorder _ (nonempty _),same]
  rfl

end

theorem decode_encodeUnsignedForSignature (skip : Nat → Nat → Bytes → Option Nat) (p : Packet) :
    decode schema skip .busPacket (Node.encodeUnsignedForSignature p.object) = some (left (unsigned p.object)) := by
  have conforms := p.unsigned_conforms
  have short := lt_of_le_of_lt (written_length p.unsigned_sorted) p.unsigned_short
  have known : (written (unsigned p.object)).Known schema skip .busPacket :=
    Obj.known_of_closed _ (written_closed p.unsigned_closed)
  rw [Node.encodeUnsignedForSignature,encode_written conforms p.unsigned_closed,
    decode_record schema_sound schema_unshared (written_conforms conforms) known (Obj.prune_full _) short,
    written_read p.unsigned_sorted]

/-! ### The order in which Node writes -/

mutual

private theorem kept_maps : ∀ {o : Obj}, Kept o → o.Maps fun entries => "__proto__" ∉ entries.map Prod.fst
  | .done _,_ => trivial
  | .set _ _ _,kept => ⟨keptItem_maps kept.1,kept_maps kept.2⟩

private theorem keptItem_maps : ∀ {item : Item}, KeptItem item → item.Maps fun entries => "__proto__" ∉ entries.map Prod.fst
  | .map _,kept => kept
  | .message _,kept => kept_maps kept.2
  | .element _,kept => kept_maps kept
  | .scalar _,_ | .numbers _,_ | .texts _,_ => trivial

end

theorem written_of_kept (sorted : o.Maps Sorted) (kept : Kept o) :
    written o = (value o).reorder MapOrder.Node.mapOut := by
  have maps := Obj.maps_and sorted (kept_maps kept)
  have whole : o.reorder settable = o := by
    rw [← Obj.reorder_id o,Obj.reorder_reorder,Obj.reorder_eq_iff]
    exact (kept_maps kept).imp fun entries absent => settable_eq_self absent
  have nonempty : o.Maps fun entries => (MapOrder.Node.mapOut entries).isEmpty = entries.isEmpty := by
    refine maps.imp fun entries both => ?_
    have perm := mapOut_perm both.1.nodup
    rw [settable_eq_self both.2] at perm
    cases entries with
    | nil => rfl
    | cons entry entries =>
      cases listed : MapOrder.Node.mapOut (entry :: entries) with
      | nil => rw [listed] at perm; simpa using perm.length_eq
      | cons first rest => rfl
  have same : o.prune Trust.Node.isDefaultScalar true = value o := by
    rw [← (left_eq_value_iff o).mpr kept,left,whole]
  rw [written,Obj.prune_reorder o nonempty,same]

theorem record_inj {a b : Obj} (conformsA : a.conforms schema .busPacket 1 [] = true)
    (conformsB : b.conforms schema .busPacket 1 [] = true) (closedA : a.closed = true) (closedB : b.closed = true)
    (fullA : a.full = true) (fullB : b.full = true) (short : a.record.encode.length < 2 ^ 63)
    (same : a.record.encode = b.record.encode) : a = b := by
  have read : ∀ {o : Obj}, o.conforms schema .busPacket 1 [] = true → o.closed = true → o.record.encode.length < 2 ^ 63 →
      unmarshal schema skipValue .busPacket o.record.encode = some o.record.unpacked := fun {o} conforms closed short =>
    unmarshal_encode schema_sound (record_conforms schema_unshared o [] conforms (by simp))
      (record_known o conforms (Obj.known_of_closed o closed)) short
  have readA := read conformsA closedA short
  have readB := read conformsB closedB (same ▸ short)
  rw [same,readB,Option.some.injEq] at readA
  exact unpacked_inj conformsA conformsB fullA fullB readA.symm

/-- The keys of every map are listed alike by Node and Go. -/
def Ordered (o : Obj) : Prop := o.Maps fun entries => MapOrder.Ordered (entries.map Prod.fst)

theorem written_eq_value_iff (sorted : o.Maps Sorted) : written o = value o ↔ Kept o ∧ Ordered o := by
  have values : (value o).Maps Sorted := (Obj.prune_part o).maps sorted
  have orders : (value o).reorder MapOrder.Node.mapOut = value o ↔
      (value o).Maps fun entries => MapOrder.Node.mapOut entries = entries := by
    rw [← Obj.reorder_eq_iff,Obj.reorder_id]
  have listed : ∀ entries, Sorted entries →
      (MapOrder.Node.mapOut entries = entries ↔ MapOrder.Ordered (entries.map Prod.fst)) := by
    intro entries sorted
    rw [← MapOrder.mapOut_eq_iff,mapEntries_sorted sorted]
  constructor
  · intro same
    have kept : Kept o := by
      rw [← left_eq_value_iff,← written_read sorted,same,← Obj.reorder_id (value o),Obj.reorder_reorder,
        Obj.reorder_eq_iff]
      exact values.imp fun entries sorted => sorted.read (List.Perm.refl _)
    rw [written_of_kept sorted kept,orders] at same
    refine ⟨kept,Obj.maps_of_prune isZero ?_ o ((Obj.maps_and values same).imp fun entries both => ?_)⟩
    · exact ⟨by simp,by simp⟩
    · exact (listed entries both.1).mp both.2
  · rintro ⟨kept,ordered⟩
    rw [written_of_kept sorted kept,orders]
    refine (Obj.maps_and values ((Obj.prune_part o).maps ordered)).imp fun entries both => ?_
    exact (listed entries both.1).mpr both.2

end Cap.PacketSignature
