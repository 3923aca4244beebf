import Mathlib.Data.List.Nodup
import Cap.ProductionSigning

/-!
The language of signed envelopes: which sequences of fields Go's `extractSignatureField` admits,
said without the walk that reads them, and what follows for signing and for the digest of the body.
-/
namespace Cap.ProductionWire
open Cap.Text Cap.Varint Cap.Wire Cap.Checks
open Cap.ProductionSigning (Crypto appendSignatureField)

/-! ### The fields of an envelope -/

/-- A field by itself: a known number with its wire type, version 1, and no empty signature. -/
def Proper (field : Field) : Prop :=
  busPacketWireType field.number = some field.value.wireType ∧ (field.number = 4 → field.value = .varint 1) ∧
    (field.number = 14 → field.value ≠ .bytes [])

/-- Fields that may follow what the walk has seen. -/
structure Follows (outer : Outer) (fields : List Field) : Prop where
  proper : ∀ field ∈ fields, Proper field
  once : (fields.map Field.number).Nodup
  unseen : ∀ field ∈ fields, field.number ∉ outer.seen
  single : outer.payloadSeen.toNat + fields.countP (productionPayloadField ·.number) ≤ 1

def Outer.after (outer : Outer) (field : Field) : Outer :=
  ⟨field.number :: outer.seen,outer.payloadSeen || productionPayloadField field.number⟩

theorem follows_nil (outer : Outer) : Follows outer [] :=
  ⟨by simp,by simp,by simp,by cases outer.payloadSeen <;> simp⟩

private theorem single_cons (seen payload : Bool) (n : Nat) : seen.toNat + (n + if payload = true then 1 else 0) ≤ 1 ↔
    ¬ (payload = true ∧ seen = true) ∧ (seen || payload).toNat + n ≤ 1 := by
  cases seen <;> cases payload <;> simp

variable {field : Field} {fields : List Field}

theorem follows_cons {outer : Outer} :
    Follows outer (field :: fields) ↔ Proper field ∧ field.number ∉ outer.seen ∧
      ¬ (productionPayloadField field.number = true ∧ outer.payloadSeen = true) ∧ Follows (outer.after field) fields := by
  constructor
  · intro follows
    have once := follows.once
    have single := follows.single
    rw [List.map_cons,List.nodup_cons] at once
    rw [List.countP_cons,single_cons] at single
    refine ⟨follows.proper field (by simp),follows.unseen field (by simp),single.1,⟨?_,once.2,?_,single.2⟩⟩
    · exact fun other member => follows.proper other (by simp [member])
    · intro other member
      rw [Outer.after,List.mem_cons]
      rintro (same | seen)
      · exact once.1 (same ▸ List.mem_map_of_mem member)
      · exact follows.unseen other (by simp [member]) seen
  · rintro ⟨proper,new,alone,follows⟩
    refine ⟨?_,?_,?_,?_⟩
    · rintro other (_ | ⟨_,later⟩)
      · exact proper
      · exact follows.proper other later
    · rw [List.map_cons,List.nodup_cons]
      refine ⟨?_,follows.once⟩
      intro again
      obtain ⟨other,member,same⟩ := List.mem_map.mp again
      exact follows.unseen other member (by simp [Outer.after,same])
    · rintro other (_ | ⟨_,later⟩)
      · exact new
      · exact fun seen => follows.unseen other later (List.mem_cons_of_mem _ seen)
    · rw [List.countP_cons,single_cons]
      exact ⟨alone,follows.single⟩

variable {w : Walk}

theorem admitField_isSome : (∃ next,admitField w field = some next) ↔ Proper field ∧
    field.number ∉ w.outer.seen ∧ ¬ (productionPayloadField field.number = true ∧ w.outer.payloadSeen = true) := by
  constructor
  · rintro ⟨next,admitted⟩
    obtain ⟨outer,⟨known,new,alone,-⟩,version,⟨-,data,value,filled,-⟩ | ⟨other,-⟩⟩ := admitField_eq_some.mp admitted
    · refine ⟨⟨known,version,fun _ empty => filled ?_⟩,new,alone⟩
      rw [value] at empty
      exact Value.bytes.inj empty
    · exact ⟨⟨known,version,fun signature => absurd signature other⟩,new,alone⟩
  · rintro ⟨⟨known,version,filled⟩,new,alone⟩
    by_cases signature : field.number = 14
    · cases value : field.value with
      | bytes data =>
        have present : data ≠ [] := fun empty => filled signature (by rw [value,empty])
        exact ⟨_,admitField_eq_some.mpr ⟨_,⟨known,new,alone,rfl⟩,version,.inl ⟨signature,data,value,present,rfl⟩⟩⟩
      | _ =>
        rw [signature,value] at known
        cases known
    · exact ⟨_,admitField_eq_some.mpr ⟨_,⟨known,new,alone,rfl⟩,version,.inr ⟨signature,rfl⟩⟩⟩

theorem admitField_after {next : Walk} (admitted : admitField w field = some next) :
    next.outer = w.outer.after field ∧
      next.unsigned = w.unsigned ++ encodeFields ([field].filter (·.number ≠ 14)) ∧
      (field.number ≠ 14 → next.signature = w.signature) ∧ ∀ data,field = ⟨14,.bytes data⟩ → next.signature = some data := by
  obtain ⟨outer,⟨-,-,-,rfl⟩,-,⟨signature,data,value,-,rfl⟩ | ⟨other,rfl⟩⟩ := admitField_eq_some.mp admitted
  · refine ⟨rfl,by simp [signature],fun other => absurd signature other,?_⟩
    rintro found rfl
    rw [Value.bytes.inj value]
  · refine ⟨rfl,by simp [other],fun _ => rfl,?_⟩
    rintro found rfl
    exact absurd rfl other

theorem run_isSome :
    (∃ last,Runs.run admitField w fields = some last) ↔ Follows w.outer fields := by
  induction fields generalizing w with
  | nil => exact ⟨fun _ => follows_nil _,fun _ => ⟨w,rfl⟩⟩
  | cons field fields ih =>
    rw [follows_cons]
    constructor
    · rintro ⟨last,ran⟩
      obtain ⟨next,admitted,ran⟩ := Runs.run_cons_eq_some.mp ran
      obtain ⟨proper,new,alone⟩ := admitField_isSome.mp ⟨next,admitted⟩
      refine ⟨proper,new,alone,?_⟩
      rw [← (admitField_after admitted).1]
      exact ih.mp ⟨last,ran⟩
    · rintro ⟨proper,new,alone,follows⟩
      obtain ⟨next,admitted⟩ := admitField_isSome.mpr ⟨proper,new,alone⟩
      rw [← (admitField_after admitted).1] at follows
      obtain ⟨last,ran⟩ := ih.mpr follows
      exact ⟨last,Runs.run_cons_eq_some.mpr ⟨next,admitted,ran⟩⟩

variable {last : Walk}

theorem run_unsigned (ran : Runs.run admitField w fields = some last) :
    last.unsigned = w.unsigned ++ encodeFields (fields.filter (·.number ≠ 14)) := by
  induction fields generalizing w with
  | nil =>
    obtain rfl := Option.some.inj ran
    simp
  | cons field fields ih =>
    obtain ⟨next,admitted,ran⟩ := Runs.run_cons_eq_some.mp ran
    rw [ih ran,(admitField_after admitted).2.1,List.append_assoc,← encodeFields_append,← List.filter_append]
    rfl

private theorem run_kept (ran : Runs.run admitField w fields = some last)
    (bare : ∀ field ∈ fields,field.number ≠ 14) : last.signature = w.signature := by
  induction fields generalizing w with
  | nil =>
    obtain rfl := Option.some.inj ran
    rfl
  | cons field fields ih =>
    obtain ⟨next,admitted,ran⟩ := Runs.run_cons_eq_some.mp ran
    rw [ih ran fun other member => bare other (by simp [member])]
    exact (admitField_after admitted).2.2.1 (bare field (by simp))

theorem run_signed {before after : List Field} {data : Bytes}
    (ran : Runs.run admitField w (before ++ ⟨14,.bytes data⟩ :: after) = some last) :
    last.signature = some data ∧ last.unsigned = w.unsigned ++ (encodeFields before ++ encodeFields after) := by
  have once := (run_isSome.mp ⟨last,ran⟩).once
  rw [List.map_append,List.map_cons,List.nodup_middle,← List.map_append,List.nodup_cons] at once
  have bare : ∀ field ∈ before ++ after,field.number ≠ 14 := by
    intro field member same
    exact once.1 (List.mem_map.mpr ⟨field,member,same⟩)
  constructor
  · rw [Runs.run_append] at ran
    obtain ⟨middle,-,ran⟩ := Option.bind_eq_some_iff.mp ran
    obtain ⟨next,admitted,ran⟩ := Runs.run_cons_eq_some.mp ran
    rw [run_kept ran fun field member => bare field (by simp [member])]
    exact (admitField_after admitted).2.2.2 data rfl
  · have all : (before ++ after).filter (fun field => decide (field.number ≠ 14)) = before ++ after :=
      List.filter_eq_self.mpr fun field member => decide_eq_true (bare field member)
    rw [run_unsigned ran,← encodeFields_append,← all,List.filter_append,List.filter_append,
      List.filter_cons_of_neg (by simp)]

/-- The fields of an envelope: known, proper and in no order, each number once, with one payload at most. -/
structure Closed (fields : List Field) : Prop where
  proper : ∀ field ∈ fields, Proper field
  once : (fields.map Field.number).Nodup
  single : fields.countP (productionPayloadField ·.number) ≤ 1

theorem closed_iff : Closed fields ↔ Follows Walk.start.outer fields := by
  constructor
  · rintro ⟨proper,once,single⟩
    exact ⟨proper,once,fun _ _ seen => (by cases seen),by simpa [Walk.start] using single⟩
  · rintro ⟨proper,once,-,single⟩
    exact ⟨proper,once,by simpa [Walk.start] using single⟩

theorem extractSignatureField_iff (pw : Protowire) {raw unsigned signature : Bytes} :
    extractSignatureField pw raw = .ok (unsigned,signature) ↔ raw.length ≤ maxProductionRawBytes ∧
      ∃ before after,Closed (before ++ ⟨14,.bytes signature⟩ :: after) ∧
        raw = encodeFields before ++ encodeField ⟨14,.bytes signature⟩ ++ encodeFields after ∧
        unsigned = encodeFields before ++ encodeFields after := by
  rw [extractSignatureField_eq_ok]
  constructor
  · rintro ⟨last,⟨short,fields,rfl,ran⟩,rfl,found⟩
    have closed := closed_iff.mpr (run_isSome.mp ⟨last,ran⟩)
    rcases (run_signature ran).mp (by rw [found]; rfl) with ⟨field,member,number⟩ | initial
    · obtain ⟨before,after,rfl⟩ := List.append_of_mem member
      obtain ⟨known,-⟩ := closed.proper field member
      cases field with
      | mk n value =>
        obtain rfl : n = 14 := number
        cases value with
        | bytes data =>
          obtain ⟨signed,kept⟩ := run_signed ran
          obtain rfl := Option.some.inj (signed.symm.trans found)
          exact ⟨short,before,after,closed,by simp,kept⟩
        | _ => cases known
    · cases initial
  · rintro ⟨short,before,after,closed,whole,rfl⟩
    obtain ⟨last,ran⟩ := run_isSome.mpr (closed_iff.mp closed)
    obtain ⟨signed,kept⟩ := run_signed ran
    exact ⟨last,⟨short,_,by rw [whole]; simp,ran⟩,kept,signed⟩

/-- A signature may stand anywhere among the fields of an unsigned envelope. -/
theorem Closed.sign {before after : List Field} {signature : Bytes} (closed : Closed (before ++ after))
    (bare : ∀ field ∈ before ++ after,field.number ≠ 14) (filled : signature ≠ []) :
    Closed (before ++ ⟨14,.bytes signature⟩ :: after) := by
  have moved : (before ++ ⟨14,.bytes signature⟩ :: after).Perm (⟨14,.bytes signature⟩ :: (before ++ after)) :=
    List.perm_middle
  refine ⟨?_,?_,?_⟩
  · intro field member
    rcases List.mem_cons.mp (moved.mem_iff.mp member) with rfl | other
    · exact ⟨rfl,by simp,fun _ empty => filled (Value.bytes.inj empty)⟩
    · exact closed.proper field other
  · rw [(moved.map Field.number).nodup_iff,List.map_cons,List.nodup_cons]
    refine ⟨?_,closed.once⟩
    intro again
    obtain ⟨field,member,same⟩ := List.mem_map.mp again
    exact bare field member same
  · rw [moved.countP_eq]
    exact closed.single

def Unsigned (unsigned : Bytes) : Prop :=
  ∃ fields,unsigned = encodeFields fields ∧ Closed fields ∧ ∀ field ∈ fields,field.number ≠ 14

theorem extract_signed (pw : Protowire) {before after : List Field} {signature : Bytes} (closed : Closed (before ++ after))
    (bare : ∀ field ∈ before ++ after,field.number ≠ 14) (filled : signature ≠ [])
    (short : (encodeFields before ++ encodeField ⟨14,.bytes signature⟩ ++ encodeFields after).length ≤
      maxProductionRawBytes) :
    extractSignatureField pw (encodeFields before ++ encodeField ⟨14,.bytes signature⟩ ++ encodeFields after) =
      .ok (encodeFields (before ++ after),signature) :=
  (extractSignatureField_iff pw).mpr ⟨short,before,after,closed.sign bare filled,rfl,encodeFields_append ..⟩

section

variable {Key Pub : Type} (crypto : Crypto Key Pub) (pw : Protowire)

def productionSignedBodyDigest (raw : Bytes) : Except GoWireError Bytes := do
  let (unsigned,_) ← extractSignatureField pw raw
  pure (crypto.sha256 unsigned)

theorem digest_signed {before after : List Field} {signature : Bytes} (closed : Closed (before ++ after))
    (bare : ∀ field ∈ before ++ after,field.number ≠ 14) (filled : signature ≠ [])
    (short : (encodeFields before ++ encodeField ⟨14,.bytes signature⟩ ++ encodeFields after).length ≤
      maxProductionRawBytes) :
    productionSignedBodyDigest crypto pw
      (encodeFields before ++ encodeField ⟨14,.bytes signature⟩ ++ encodeFields after) =
        .ok (crypto.sha256 (encodeFields (before ++ after))) := by
  rw [productionSignedBodyDigest,extract_signed pw closed bare filled short]
  rfl

/-- The language of `extractSignatureField`, what it takes out, and what signing and the digest get from it. -/
theorem envelope_grammar_exact :
    (∀ raw,(∃ parts,extractSignatureField pw raw = .ok parts) ↔ raw.length ≤ maxProductionRawBytes ∧
      ∃ fields,raw = encodeFields fields ∧ Closed fields ∧ ∃ field ∈ fields,field.number = 14) ∧
    (∀ raw unsigned signature,extractSignatureField pw raw = .ok (unsigned,signature) →
      ∃ before after,Closed (before ++ ⟨14,.bytes signature⟩ :: after) ∧
        raw = encodeFields before ++ encodeField ⟨14,.bytes signature⟩ ++ encodeFields after ∧
        unsigned = encodeFields before ++ encodeFields after) ∧
    (∀ unsigned signature,Unsigned unsigned → signature ≠ [] →
      (appendSignatureField unsigned signature).length ≤ maxProductionRawBytes →
      extractSignatureField pw (appendSignatureField unsigned signature) = .ok (unsigned,signature)) ∧
    ∀ before after before' after' signature signature',Closed (before ++ after) →
      (∀ field ∈ before ++ after,field.number ≠ 14) → before' ++ after' = before ++ after →
      signature ≠ [] → signature' ≠ [] →
      (encodeFields before ++ encodeField ⟨14,.bytes signature⟩ ++ encodeFields after).length ≤ maxProductionRawBytes →
      (encodeFields before' ++ encodeField ⟨14,.bytes signature'⟩ ++ encodeFields after').length ≤ maxProductionRawBytes →
      productionSignedBodyDigest crypto pw
          (encodeFields before ++ encodeField ⟨14,.bytes signature⟩ ++ encodeFields after) =
        .ok (crypto.sha256 (encodeFields (before ++ after))) ∧
      productionSignedBodyDigest crypto pw
          (encodeFields before' ++ encodeField ⟨14,.bytes signature'⟩ ++ encodeFields after') =
        .ok (crypto.sha256 (encodeFields (before ++ after))) := by
  refine ⟨fun raw => ⟨?_,?_⟩,?_,?_,?_⟩
  · rintro ⟨⟨unsigned,signature⟩,extracted⟩
    obtain ⟨short,before,after,closed,whole,-⟩ := (extractSignatureField_iff pw).mp extracted
    exact ⟨short,_,by rw [whole]; simp,closed,⟨14,.bytes signature⟩,by simp,rfl⟩
  · rintro ⟨short,fields,rfl,closed,⟨n,value⟩,member,number⟩
    obtain ⟨before,after,rfl⟩ := List.append_of_mem member
    obtain ⟨known,-⟩ := closed.proper _ member
    obtain rfl : n = 14 := number
    cases value with
    | bytes data => exact ⟨_,(extractSignatureField_iff pw).mpr ⟨short,before,after,closed,by simp,rfl⟩⟩
    | _ => cases known
  · intro raw unsigned signature extracted
    exact ((extractSignatureField_iff pw).mp extracted).2
  · rintro unsigned signature ⟨fields,rfl,closed,bare⟩ filled short
    have signed := @extract_signed pw fields [] signature (by simpa using closed) (by simpa using bare) filled
      (by simpa [appendSignatureField] using short)
    simpa [appendSignatureField] using signed
  · intro before after before' after' signature signature' closed bare same filled filled' short short'
    refine ⟨digest_signed crypto pw closed bare filled short,?_⟩
    rw [← same] at closed bare ⊢
    exact digest_signed crypto pw closed bare filled' short'

end

namespace Samples

def version : List Field := [⟨4,.varint 1⟩]

theorem version_closed : Closed version ∧ ∀ field ∈ version,field.number ≠ 14 := by
  refine ⟨⟨?_,by decide,by decide⟩,by simp [version]⟩
  intro field member
  obtain rfl := List.mem_singleton.mp member
  exact ⟨rfl,fun _ => rfl,fun signature => by cases signature⟩

def crypto : Crypto Unit Unit := ⟨id,fun _ => true,id,fun _ data _ => data,fun _ a b => a == b⟩

/-- The signature after the version or before it. -/
theorem version_signed :
    extractSignatureField protowire (appendSignatureField [0x20,1] [7]) = .ok ([0x20,1],[7]) ∧
    productionSignedBodyDigest crypto protowire ([0x72,1,8] ++ [0x20,1]) = .ok [0x20,1] ∧
    ∃ before after,Closed (before ++ ⟨14,.bytes [7]⟩ :: after) ∧
      [0x20,1,0x72,1,7] = encodeFields before ++ encodeField ⟨14,.bytes [7]⟩ ++ encodeFields after ∧
      [0x20,1] = encodeFields before ++ encodeFields after := by
  obtain ⟨-,cut,round,digest⟩ := envelope_grammar_exact crypto protowire
  refine ⟨?_,?_,?_⟩
  · exact round [0x20,1] [7] ⟨version,by decide,version_closed⟩ (by decide) (by decide)
  · exact (digest version [] [] version [7] [8] (by simpa using version_closed.1) (by simpa using version_closed.2) rfl
      (by decide) (by decide) (by decide) (by decide)).2
  · exact cut [0x20,1,0x72,1,7] [0x20,1] [7] (by decide)

/-- The version is 1 and the tags and lengths are minimal, but the varint of the version is not. -/
theorem overlong_version_refused : protowire.consumeVarint [0x81,0] = some (1,2) ∧
    extractSignatureField protowire (encodeTag 4 0 ++ [0x81,0] ++ encodeField ⟨14,.bytes [7]⟩) =
      .error .malformedProductionWire ∧
    extractSignatureField protowire (encodeTag 4 0 ++ [1] ++ encodeField ⟨14,.bytes [7]⟩) = .ok ([0x20,1],[7]) := by
  decide

end Samples

end Cap.ProductionWire
