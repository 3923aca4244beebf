import Mathlib.Data.List.Nodup
import Cap.ClosedWire

/-!
The language of Node's `assertClosedNestedWire`, for any schema: a message is a sequence of known
fields with their wire types, and what a field contains is again a message, the entry of a map, or
nothing that is looked at.
-/
namespace Cap.NestedGrammar
open Cap.Text Cap.Varint Cap.Wire Cap.Proto Cap.Checks Cap.ClosedWire

variable {σ : Type}

/-- The wire types a field may have; a packed scalar has two. -/
def Allowed (desc : FieldDesc σ) (wireType : Nat) : Prop :=
  match desc.label,desc.kind with
  | .map _,_ => wireType = 2
  | _,.message _ => wireType = 2
  | .repeated packed,.scalar type => wireType = type.wireType ∨ (packed = true ∧ type.wireType ≠ 2 ∧ wireType = 2)
  | .singular,.scalar type => wireType = type.wireType

/-- Varints have at most ten bytes, and fixed values their width. -/
def Fits : Value → Prop
  | .varint n => (encodeVarint n).length ≤ 10
  | .bytes data => (encodeVarint data.length).length ≤ 10
  | .fixed64 data => data.length = 8
  | .fixed32 data => data.length = 4

def Ten (field : Field) : Prop := (encodeTag field.number field.value.wireType).length ≤ 10 ∧ Fits field.value

section

variable (schema : Schema σ)

def singular (name : σ) (field : Field) : Bool :=
  (schema.field name field.number).any fun desc => Label.isSingular desc.label

def oneof? (name : σ) (field : Field) : Option String := (schema.field name field.number).bind FieldDesc.oneof

/-- Every singular field and every oneof occurs once at most. -/
structure Once (name : σ) (fields : List Field) : Prop where
  singular : ((fields.filter (singular schema name)).map Field.number).Nodup
  oneof : (fields.filterMap (oneof? schema name)).Nodup

mutual

inductive IsMessage : Bool → σ → Bytes → Prop where
  | fields {nested : Bool} {name : σ} (fields : List Field) (each : ∀ field ∈ fields, IsField name field)
      (once : nested = true → Once schema name fields) : IsMessage nested name (encodeFields fields)

inductive IsField : σ → Field → Prop where
  | known {name : σ} {field : Field} {desc : FieldDesc σ} (found : schema.field name field.number = some desc)
      (allowed : Allowed desc field.value.wireType) (ten : Ten field) (content : IsContent desc field.value) :
      IsField name field

inductive IsContent : FieldDesc σ → Value → Prop where
  | map {desc : FieldDesc σ} {key : Scalar} {data : Bytes} (label : desc.label = .map key)
      (entry : IsEntry key desc.kind data) : IsContent desc (.bytes data)
  | message {desc : FieldDesc σ} {name : σ} {data : Bytes} (label : ∀ key, desc.label ≠ .map key)
      (kind : desc.kind = .message name) (message : IsMessage true name data) : IsContent desc (.bytes data)
  | scalar {desc : FieldDesc σ} {type : Scalar} {value : Value} (label : ∀ key, desc.label ≠ .map key)
      (kind : desc.kind = .scalar type) : IsContent desc value

inductive IsEntry : Scalar → Kind σ → Bytes → Prop where
  | fields {key : Scalar} {kind : Kind σ} (fields : List Field) (each : ∀ field ∈ fields, IsEntryField key kind field)
      (once : (fields.map Field.number).Nodup) : IsEntry key kind (encodeFields fields)

inductive IsEntryField : Scalar → Kind σ → Field → Prop where
  | key {key : Scalar} {kind : Kind σ} {value : Value} (typed : value.wireType = key.wireType) (ten : Ten ⟨1,value⟩) :
      IsEntryField key kind ⟨1,value⟩
  | scalar {key type : Scalar} {value : Value} (typed : value.wireType = type.wireType) (ten : Ten ⟨2,value⟩) :
      IsEntryField key (.scalar type) ⟨2,value⟩
  | message {key : Scalar} {name : σ} {data : Bytes} (ten : Ten ⟨2,.bytes data⟩) (message : IsMessage true name data) :
      IsEntryField key (.message name) ⟨2,.bytes data⟩

end

end

variable {raw : Bytes} {size : Nat}

theorem readVarint_eq_ok {v : Nat} : readVarint raw = .ok (v,size) ↔
    ∃ rest, raw = encodeVarint v ++ rest ∧ size = (encodeVarint v).length ∧ size ≤ 10 := by
  rw [← ProductionWire.readVarint_eq_ok]
  unfold readVarint
  cases ProductionWire.readVarint raw <;> simp

variable {payload : Option Bytes}

theorem boundedValue_iff {width : Nat} :
    boundedValue raw width = .ok (size,payload) ↔
      ∃ data rest, raw = data ++ rest ∧ data.length = width ∧ size = width ∧ payload = none := by
  unfold boundedValue
  constructor
  · intro bounded
    split at bounded
    · cases bounded
    · obtain ⟨rfl,rfl⟩ := Prod.mk.inj (Except.ok.inj bounded)
      exact ⟨raw.take width,raw.drop width,(List.take_append_drop width raw).symm,by rw [List.length_take]; omega,rfl,rfl⟩
  · rintro ⟨data,rest,rfl,rfl,rfl,rfl⟩
    rw [List.length_append,if_neg (by omega)]

theorem readWireValue_iff {wireType : Nat} (short : raw.length < 2 ^ 53) :
    readWireValue raw wireType = .ok (size,payload) ↔ ∃ value rest, raw = encodeValue value ++ rest ∧
      value.wireType = wireType ∧ size = (encodeValue value).length ∧ Fits value ∧ payload? value = payload := by
  unfold readWireValue
  split
  · simp only [bind_eq_ok,Prod.exists,readVarint_eq_ok,pure_eq_ok,Prod.mk.injEq]
    constructor
    · rintro ⟨v,count,⟨rest,whole,rfl,few⟩,rfl,rfl⟩
      exact ⟨.varint v,rest,whole,rfl,rfl,few,rfl⟩
    · rintro ⟨value,rest,whole,type,rfl,fits,rfl⟩
      cases value <;> simp only [Value.wireType] at type <;> try omega
      exact ⟨_,_,⟨rest,whole,rfl,fits⟩,rfl,rfl⟩
  · rw [boundedValue_iff]
    constructor
    · rintro ⟨data,rest,rfl,width,rfl,rfl⟩
      exact ⟨.fixed64 data,rest,rfl,rfl,width.symm,width,rfl⟩
    · rintro ⟨value,rest,rfl,type,rfl,fits,rfl⟩
      cases value <;> simp only [Value.wireType] at type <;> try omega
      exact ⟨_,rest,rfl,fits,fits,rfl⟩
  · rw [boundedValue_iff]
    constructor
    · rintro ⟨data,rest,rfl,width,rfl,rfl⟩
      exact ⟨.fixed32 data,rest,rfl,rfl,width.symm,width,rfl⟩
    · rintro ⟨value,rest,rfl,type,rfl,fits,rfl⟩
      cases value <;> simp only [Value.wireType] at type <;> try omega
      exact ⟨_,rest,rfl,fits,fits,rfl⟩
  · simp only [bind_eq_ok,Prod.exists,readVarint_eq_ok]
    constructor
    · rintro ⟨length,count,⟨rest,rfl,rfl,few⟩,bounded⟩
      split_ifs at bounded with large room
      obtain ⟨rfl,rfl⟩ := Prod.mk.inj (Except.ok.inj bounded)
      rw [List.length_append] at room
      have width : (rest.take length).length = length := by rw [List.length_take]; omega
      refine ⟨.bytes (rest.take length),rest.drop length,?_,rfl,?_,?_,?_⟩
      · simp [encodeValue,width]
      · simp [encodeValue,width]
      · simpa [Fits,width] using few
      · simp [payload?]
    · rintro ⟨value,rest,rfl,type,rfl,fits,rfl⟩
      cases value <;> simp only [Value.wireType] at type <;> try omega
      next data =>
      simp only [encodeValue,List.append_assoc,List.length_append] at short ⊢
      refine ⟨_,_,⟨data ++ rest,rfl,rfl,fits⟩,?_⟩
      rw [if_neg (by omega),if_neg (by omega),List.drop_left,List.take_left]
      rfl
  · constructor
    · intro bounded
      cases bounded
    · rintro ⟨value,rest,rfl,rfl,rfl,fits,rfl⟩
      cases value <;> simp_all [Value.wireType]

theorem readField_iff (short : raw.length < 2 ^ 53) {P : Nat → Nat → Option Bytes → Bytes → Prop} :
    (∃ tag tagSize, readVarint raw = .ok (tag,tagSize) ∧ ∃ size payload,
      readWireValue (raw.drop tagSize) (tag % 8) = .ok (size,payload) ∧
      P (tag / 8) (tag % 8) payload ((raw.drop tagSize).drop size)) ↔
    ∃ field rest, raw = encodeField field ++ rest ∧ Ten field ∧
      P field.number field.value.wireType (payload? field.value) rest := by
  constructor
  · rintro ⟨tag,tagSize,read,size,payload,valued,holds⟩
    obtain ⟨after,rfl,rfl,few⟩ := readVarint_eq_ok.mp read
    rw [List.length_append] at short
    rw [List.drop_left] at valued holds
    obtain ⟨value,rest,rfl,type,rfl,fits,rfl⟩ := (readWireValue_iff (by omega)).mp valued
    have whole : tag / 8 * 8 + value.wireType = tag := by omega
    refine ⟨⟨tag / 8,value⟩,rest,?_,⟨?_,fits⟩,?_⟩
    · rw [encodeField,encodeTag,whole,List.append_assoc]
    · rwa [encodeTag,whole]
    · rwa [← type,List.drop_left] at holds
  · rintro ⟨⟨number,value⟩,rest,rfl,⟨few,fits⟩,holds⟩
    have type := wireType_lt value
    have quotient : (number * 8 + value.wireType) / 8 = number := by omega
    have remainder : (number * 8 + value.wireType) % 8 = value.wireType := by omega
    simp only [encodeField,List.append_assoc] at short ⊢
    refine ⟨_,_,readVarint_eq_ok.mpr ⟨_,rfl,rfl,few⟩,(encodeValue value).length,payload? value,?_,?_⟩
    · rw [← encodeTag,List.drop_left,remainder]
      rw [List.length_append] at short
      exact (readWireValue_iff (by omega)).mpr ⟨value,rest,rfl,rfl,rfl,fits,rfl⟩
    · rwa [← encodeTag,List.drop_left,List.drop_left,quotient,remainder]

theorem allowedWireTypes_contains (desc : FieldDesc σ) (wireType : Nat) :
    (allowedWireTypes desc).contains wireType = true ↔ Allowed desc wireType := by
  obtain ⟨number,kind,label,oneof⟩ := desc
  cases label with
  | map key => simp [allowedWireTypes,Allowed]
  | singular => cases kind <;> simp [allowedWireTypes,Allowed]
  | repeated packed =>
    cases kind with
    | message name => simp [allowedWireTypes,Allowed]
    | scalar type =>
      have packable : [0,1,5].contains type.wireType = true ↔ type.wireType ≠ 2 := by cases type <;> decide
      simp only [allowedWireTypes,Allowed,Bool.and_eq_true,packable]
      split
      · next both => simp [both]
      · next neither =>
        rw [List.contains_iff_mem,List.mem_singleton]
        exact ⟨.inl,fun either => either.resolve_right fun all => neither ⟨all.1,all.2.1⟩⟩

variable {desc : FieldDesc σ}

theorem Allowed.scalar {value : Value} (allowed : Allowed desc value.wireType)
    (plain : payload? value = none) : (∀ key, desc.label ≠ .map key) ∧ ∃ type, desc.kind = .scalar type := by
  have delimited : value.wireType ≠ 2 := by cases value <;> simp_all [payload?,Value.wireType]
  obtain ⟨number,kind,label,oneof⟩ := desc
  cases label <;> cases kind <;> simp_all [Allowed]

variable {schema : Schema σ}

def New (schema : Schema σ) (name : σ) (seen : List Nat) (oneofs : List String) (field : Field) : Prop :=
  (singular schema name field = true → field.number ∉ seen) ∧ ∀ member ∈ oneof? schema name field, member ∉ oneofs

variable {name : σ} {field : Field} {seen : List Nat} {oneofs : List String} {nested : Bool}

theorem validateOccurrence_eq_ok (found : schema.field name field.number = some desc) :
    validateOccurrence desc field.number field.value.wireType seen oneofs nested = .ok () ↔
      Allowed desc field.value.wireType ∧ (nested = true → New schema name seen oneofs field) := by
  unfold validateOccurrence
  rw [← allowedWireTypes_contains]
  by_cases allowed : (allowedWireTypes desc).contains field.value.wireType = true
  · have single : singular schema name field = Label.isSingular desc.label := by simp [singular,found]
    have group : oneof? schema name field = desc.oneof := by simp [oneof?,found]
    simp only [New,single,group]
    cases nested <;> cases Label.isSingular desc.label <;> cases desc.oneof <;> simp [ite_eq_iff]
  · rw [List.contains_iff_mem] at allowed
    simp [allowed]

def Fresh (schema : Schema σ) (name : σ) : List Nat → List String → List Field → Prop
  | _,_,[] => True
  | seen,oneofs,field :: rest =>
    New schema name seen oneofs field ∧
      Fresh schema name (field.number :: seen) ((oneof? schema name field).toList ++ oneofs) rest

theorem singular_congr {a b : Field} (same : a.number = b.number) :
    singular schema name a = singular schema name b := by
  rw [singular,singular,same]

theorem once_cons {rest : List Field} : Once schema name (field :: rest) ↔
    (∀ later ∈ rest, New schema name [field.number] (oneof? schema name field).toList later) ∧ Once schema name rest := by
  have oneofs : ((field :: rest).filterMap (oneof? schema name)).Nodup ↔
      (∀ later ∈ rest, ∀ member ∈ oneof? schema name later, member ∉ (oneof? schema name field).toList) ∧
        (rest.filterMap (oneof? schema name)).Nodup := by
    cases group : oneof? schema name field with
    | none => simp [group]
    | some member =>
      rw [List.filterMap_cons_some group,List.nodup_cons]
      apply and_congr_left'
      simp only [List.mem_filterMap,not_exists,not_and,Option.toList_some,List.mem_singleton]
      exact ⟨fun absent later among other belongs same => absent later among (same ▸ belongs),
        fun absent later among belongs => absent later among member belongs rfl⟩
  have numbers : (((field :: rest).filter (singular schema name)).map Field.number).Nodup ↔
      (∀ later ∈ rest, singular schema name later = true → later.number ∉ [field.number]) ∧
        ((rest.filter (singular schema name)).map Field.number).Nodup := by
    by_cases single : singular schema name field = true
    · rw [List.filter_cons_of_pos single,List.map_cons,List.nodup_cons]
      apply and_congr_left'
      simp only [List.mem_map,List.mem_filter,not_exists,not_and,List.mem_singleton]
      exact ⟨fun absent later among held => absent later ⟨among,held⟩,fun absent later held => absent later held.1 held.2⟩
    · rw [List.filter_cons_of_neg single]
      -- a singular field never has the number of one that is not
      refine ⟨fun once => ⟨fun later among held same => single ?_,once⟩,And.right⟩
      rwa [singular_congr (List.mem_singleton.mp same)] at held
  constructor
  · rintro ⟨first,second⟩
    obtain ⟨apart,first⟩ := numbers.mp first
    obtain ⟨others,second⟩ := oneofs.mp second
    exact ⟨fun later among => ⟨apart later among,others later among⟩,first,second⟩
  · rintro ⟨apart,first,second⟩
    exact ⟨numbers.mpr ⟨fun later among => (apart later among).1,first⟩,
      oneofs.mpr ⟨fun later among => (apart later among).2,second⟩⟩

theorem fresh_iff {fields : List Field} :
    Fresh schema name seen oneofs fields ↔
      (∀ field ∈ fields, New schema name seen oneofs field) ∧ Once schema name fields := by
  induction fields generalizing seen oneofs with
  | nil => exact ⟨fun _ => ⟨by simp,by simp,by simp⟩,fun _ => trivial⟩
  | cons field rest ih =>
    rw [Fresh,ih,once_cons,List.forall_mem_cons]
    have split : ∀ later, New schema name (field.number :: seen) ((oneof? schema name field).toList ++ oneofs) later ↔
        New schema name [field.number] (oneof? schema name field).toList later ∧ New schema name seen oneofs later := by
      simp only [New]
      grind
    simp only [split,forall_and]
    tauto

/-- What a round of the walk over a message asks of the tag, of the payload and of the rest. -/
def Passes (schema : Schema σ) (fuel : Nat) (nested : Bool) (name : σ) (seen : List Nat) (oneofs : List String)
    (number wireType : Nat) (payload : Option Bytes) (rest : Bytes) : Prop :=
  ∃ desc, schema.field name number = some desc ∧ validateOccurrence desc number wireType seen oneofs nested = .ok () ∧
    validateNestedValue (fun key kind raw => walkMapEntry schema fuel key kind [] raw)
      (fun inner raw => walkMessage schema fuel true inner [] [] raw) desc payload = .ok () ∧
    walkMessage schema fuel nested name (number :: seen) (desc.oneof.toList ++ oneofs) rest = .ok ()

variable {fuel : Nat}

theorem walkMessage_succ (more : raw ≠ []) (short : raw.length < 2 ^ 53) :
    walkMessage schema (fuel + 1) nested name seen oneofs raw = .ok () ↔
      ∃ field rest, raw = encodeField field ++ rest ∧ Ten field ∧
        Passes schema fuel nested name seen oneofs field.number field.value.wireType (payload? field.value) rest := by
  rw [← readField_iff short (P := Passes schema fuel nested name seen oneofs)]
  obtain ⟨byte,bytes,rfl⟩ := List.exists_cons_of_ne_nil more
  simp only [walkMessage,bind_eq_ok,Prod.exists,Passes]
  refine exists_congr fun tag => exists_congr fun tagSize => and_congr_right fun _ => ?_
  cases schema.field name (tag / 8) with
  | none => simp
  | some desc =>
    simp only [bind_eq_ok,Prod.exists,Option.some.injEq,exists_eq_left']
    constructor
    · rintro ⟨_,occurs,size,payload,valued,_,inner,later⟩
      exact ⟨size,payload,valued,occurs,inner,later⟩
    · rintro ⟨size,payload,valued,occurs,inner,later⟩
      exact ⟨(),occurs,size,payload,valued,(),inner,later⟩

def PassesEntry (schema : Schema σ) (fuel : Nat) (key : Scalar) (kind : Kind σ) (seen : List Nat)
    (number wireType : Nat) (payload : Option Bytes) (rest : Bytes) : Prop :=
  (number = 1 ∨ number = 2) ∧ number ∉ seen ∧ wireType = (if number = 1 then key.wireType else kind.wireType) ∧
    validateEntryValue (fun inner raw => walkMessage schema fuel true inner [] [] raw) number kind payload = .ok () ∧
    walkMapEntry schema fuel key kind (number :: seen) rest = .ok ()

variable {key : Scalar} {kind : Kind σ}

theorem walkMapEntry_succ
    (more : raw ≠ []) (short : raw.length < 2 ^ 53) : walkMapEntry schema (fuel + 1) key kind seen raw = .ok () ↔
      ∃ field rest, raw = encodeField field ++ rest ∧ Ten field ∧
        PassesEntry schema fuel key kind seen field.number field.value.wireType (payload? field.value) rest := by
  rw [← readField_iff short (P := PassesEntry schema fuel key kind seen)]
  obtain ⟨byte,bytes,rfl⟩ := List.exists_cons_of_ne_nil more
  simp only [walkMapEntry,bind_eq_ok,Prod.exists]
  refine exists_congr fun tag => exists_congr fun tagSize => and_congr_right fun _ => ?_
  constructor
  · intro walked
    by_cases unknown : (tag / 8 ≠ 1 ∧ tag / 8 ≠ 2) ∨ tag / 8 ∈ seen
    · rw [if_pos unknown] at walked
      cases walked
    by_cases type : tag % 8 = if tag / 8 = 1 then key.wireType else kind.wireType
    · rw [if_neg unknown,if_neg (not_not.mpr type)] at walked
      simp only [bind_eq_ok,Prod.exists] at walked
      obtain ⟨size,payload,valued,_,inner,later⟩ := walked
      exact ⟨size,payload,valued,by grind,by grind,type,inner,later⟩
    · rw [if_neg unknown,if_pos type] at walked
      cases walked
  · rintro ⟨size,payload,valued,known,new,type,inner,later⟩
    rw [if_neg (by grind),if_neg (not_not.mpr type)]
    simp only [bind_eq_ok,Prod.exists]
    exact ⟨size,payload,valued,(),inner,later⟩

/-! ### The language of the walk -/

/-- The walk accepts the rest of a message, after what was seen. -/
def AcceptsMessage (schema : Schema σ) (fuel : Nat) : Prop :=
  ∀ nested name seen oneofs raw, raw.length ≤ fuel → raw.length < 2 ^ 53 →
    (walkMessage schema fuel nested name seen oneofs raw = .ok () ↔
      ∃ fields, raw = encodeFields fields ∧ (∀ field ∈ fields, IsField schema name field) ∧
        (nested = true → Fresh schema name seen oneofs fields))

def AcceptsEntry (schema : Schema σ) (fuel : Nat) : Prop :=
  ∀ key kind seen raw, raw.length ≤ fuel → raw.length < 2 ^ 53 →
    (walkMapEntry schema fuel key kind seen raw = .ok () ↔
      ∃ fields, raw = encodeFields fields ∧ (∀ field ∈ fields, IsEntryField schema key kind field) ∧
        (fields.map Field.number).Nodup ∧ ∀ field ∈ fields, field.number ∉ seen)

theorem AcceptsMessage.whole (accepts : AcceptsMessage schema fuel)
    (enough : raw.length ≤ fuel) (short : raw.length < 2 ^ 53) :
    walkMessage schema fuel nested name [] [] raw = .ok () ↔ IsMessage schema nested name raw := by
  have first : ∀ fields, Fresh schema name [] [] fields ↔ Once schema name fields := by
    simp [fresh_iff,New]
  rw [accepts nested name [] [] raw enough short]
  simp only [first]
  constructor
  · rintro ⟨fields,rfl,each,once⟩
    exact .fields fields each once
  · rintro ⟨fields,each,once⟩
    exact ⟨fields,rfl,each,once⟩

theorem AcceptsEntry.whole (accepts : AcceptsEntry schema fuel)
    (enough : raw.length ≤ fuel) (short : raw.length < 2 ^ 53) :
    walkMapEntry schema fuel key kind [] raw = .ok () ↔ IsEntry schema key kind raw := by
  rw [accepts key kind [] raw enough short]
  constructor
  · rintro ⟨fields,rfl,each,once,_⟩
    exact .fields fields each once
  · rintro ⟨fields,each,once⟩
    exact ⟨fields,rfl,each,once,by simp⟩

variable {rest : Bytes}

theorem payload_length {data : Bytes} (found : payload? field.value = some data) :
    data.length < (encodeField field ++ rest).length := by
  have positive := encodeVarint_length_pos (field.number * 8 + field.value.wireType)
  obtain ⟨number,value⟩ := field
  cases value <;> simp only [payload?,reduceCtorEq,Option.some.injEq] at found
  subst found
  simp only [encodeField,encodeTag,encodeValue,List.length_append] at positive ⊢
  omega

theorem validateNestedValue_eq_ok (messages : AcceptsMessage schema fuel) (entries : AcceptsEntry schema fuel)
    {value : Value} (allowed : Allowed desc value.wireType)
    (enough : ∀ data, payload? value = some data → data.length ≤ fuel ∧ data.length < 2 ^ 53) :
    validateNestedValue (fun key kind raw => walkMapEntry schema fuel key kind [] raw)
      (fun inner raw => walkMessage schema fuel true inner [] [] raw) desc (payload? value) = .ok () ↔
    IsContent schema desc value := by
  cases found : payload? value with
  | none =>
    obtain ⟨label,type,kind⟩ := allowed.scalar found
    exact ⟨fun _ => .scalar label kind,fun _ => rfl⟩
  | some data =>
    obtain ⟨fits,short⟩ := enough data found
    cases value <;> simp only [payload?,reduceCtorEq,Option.some.injEq] at found
    subst found
    obtain ⟨number,kind,label,oneof⟩ := desc
    cases label with
    | map key =>
      refine (entries.whole fits short).trans ⟨fun entry => .map rfl entry,fun content => ?_⟩
      cases content with
      | map same entry =>
        cases same
        exact entry
      | message label | scalar label => exact absurd rfl (label key)
    | singular | repeated =>
      cases kind with
      | scalar type => exact ⟨fun _ => .scalar nofun rfl,fun _ => rfl⟩
      | message name =>
        refine (messages.whole fits short).trans ⟨fun message => .message nofun rfl message,fun content => ?_⟩
        cases content with
        | message _ same message =>
          cases same
          exact message
        | scalar _ same | map same => cases same

theorem validateEntryValue_eq_ok (messages : AcceptsMessage schema fuel)
    (enough : ∀ data, payload? field.value = some data → data.length ≤ fuel ∧ data.length < 2 ^ 53) :
    Ten field ∧ (field.number = 1 ∨ field.number = 2) ∧
      field.value.wireType = (if field.number = 1 then key.wireType else kind.wireType) ∧
      validateEntryValue (fun inner raw => walkMessage schema fuel true inner [] [] raw) field.number kind
        (payload? field.value) = .ok () ↔ IsEntryField schema key kind field := by
  obtain ⟨number,value⟩ := field
  constructor
  · rintro ⟨ten,rfl | rfl,type,inner⟩
    · exact .key type ten
    · cases kind with
      | scalar scalar => exact .scalar type ten
      | message name =>
        obtain ⟨data,rfl⟩ : ∃ data, value = .bytes data := by
          have delimited : value.wireType = 2 := type
          cases value <;> simp_all [Value.wireType]
        obtain ⟨fits,short⟩ := enough data rfl
        exact .message ten ((messages.whole fits short).mp inner)
  · intro entry
    cases entry with
    | key type ten =>
      refine ⟨ten,.inl rfl,type,?_⟩
      cases payload? value <;> cases kind <;> rfl
    | scalar type ten =>
      refine ⟨ten,.inr rfl,type,?_⟩
      cases payload? value <;> rfl
    | @message _ name data ten message =>
      obtain ⟨fits,short⟩ := enough data rfl
      exact ⟨ten,.inr rfl,rfl,(messages.whole fits short).mpr message⟩

theorem isField_iff (found : schema.field name field.number = some desc) :
    IsField schema name field ↔ Allowed desc field.value.wireType ∧ Ten field ∧ IsContent schema desc field.value := by
  constructor
  · rintro ⟨again,allowed,ten,content⟩
    cases found.symm.trans again
    exact ⟨allowed,ten,content⟩
  · rintro ⟨allowed,ten,content⟩
    exact .known found allowed ten content

theorem passes_iff (messages : AcceptsMessage schema fuel) (entries : AcceptsEntry schema fuel)
    (enough : (encodeField field ++ rest).length ≤ fuel + 1) (short : (encodeField field ++ rest).length < 2 ^ 53) :
    Ten field ∧ Passes schema fuel nested name seen oneofs field.number field.value.wireType (payload? field.value) rest ↔
      IsField schema name field ∧ (nested = true → New schema name seen oneofs field) ∧
        ∃ fields, rest = encodeFields fields ∧ (∀ field ∈ fields, IsField schema name field) ∧
          (nested = true → Fresh schema name (field.number :: seen) ((oneof? schema name field).toList ++ oneofs)
            fields) := by
  have positive := encodeField_length_pos field
  have payloads : ∀ data, payload? field.value = some data → data.length ≤ fuel ∧ data.length < 2 ^ 53 := by
    intro data found
    have shorter := @payload_length field rest data found
    omega
  rw [List.length_append] at enough short
  cases found : schema.field name field.number with
  | none =>
    constructor
    · rintro ⟨_,desc,same,_⟩
      cases found.symm.trans same
    · rintro ⟨⟨same,_⟩,_⟩
      cases found.symm.trans same
  | some desc =>
    have group : oneof? schema name field = desc.oneof := by simp [oneof?,found]
    rw [← messages nested name _ _ rest (by omega) (by omega),isField_iff found,group]
    constructor
    · rintro ⟨ten,desc,same,occurs,inner,later⟩
      cases found.symm.trans same
      obtain ⟨allowed,new⟩ := (validateOccurrence_eq_ok found).mp occurs
      exact ⟨⟨allowed,ten,(validateNestedValue_eq_ok messages entries allowed payloads).mp inner⟩,new,later⟩
    · rintro ⟨⟨allowed,ten,content⟩,new,later⟩
      exact ⟨ten,desc,found,(validateOccurrence_eq_ok found).mpr ⟨allowed,new⟩,
        (validateNestedValue_eq_ok messages entries allowed payloads).mpr content,later⟩

theorem passesEntry_iff (messages : AcceptsMessage schema fuel) (entries : AcceptsEntry schema fuel)
    (enough : (encodeField field ++ rest).length ≤ fuel + 1) (short : (encodeField field ++ rest).length < 2 ^ 53) :
    Ten field ∧ PassesEntry schema fuel key kind seen field.number field.value.wireType (payload? field.value) rest ↔
      IsEntryField schema key kind field ∧ field.number ∉ seen ∧
        ∃ fields, rest = encodeFields fields ∧ (∀ field ∈ fields, IsEntryField schema key kind field) ∧
          (fields.map Field.number).Nodup ∧ ∀ later ∈ fields, later.number ∉ field.number :: seen := by
  have positive := encodeField_length_pos field
  have payloads : ∀ data, payload? field.value = some data → data.length ≤ fuel ∧ data.length < 2 ^ 53 := by
    intro data found
    have shorter := @payload_length field rest data found
    omega
  rw [List.length_append] at enough short
  rw [← entries key kind _ rest (by omega) (by omega),← validateEntryValue_eq_ok messages payloads]
  constructor
  · rintro ⟨ten,known,new,type,inner,later⟩
    exact ⟨⟨ten,known,type,inner⟩,new,later⟩
  · rintro ⟨⟨ten,known,type,inner⟩,new,later⟩
    exact ⟨ten,known,new,type,inner,later⟩

theorem exists_fields_iff {P : List Field → Prop} (more : raw ≠ []) :
    (∃ fields, raw = encodeFields fields ∧ P fields) ↔
      ∃ field rest, raw = encodeField field ++ rest ∧ ∃ fields, rest = encodeFields fields ∧ P (field :: fields) := by
  constructor
  · rintro ⟨fields,rfl,holds⟩
    cases fields with
    | nil => exact absurd rfl more
    | cons field fields => exact ⟨field,_,rfl,fields,rfl,holds⟩
  · rintro ⟨field,_,rfl,fields,rfl,holds⟩
    exact ⟨field :: fields,rfl,holds⟩

/-- Both walks accept their languages; the induction is on the bytes that are left. -/
theorem accepts (schema : Schema σ) (fuel : Nat) : AcceptsMessage schema fuel ∧ AcceptsEntry schema fuel := by
  induction fuel with
  | zero =>
    constructor
    · intro nested name seen oneofs raw enough short
      obtain rfl := List.length_eq_zero_iff.mp (Nat.le_zero.mp enough)
      simp only [walkMessage,true_iff]
      exact ⟨[],rfl,by simp,fun _ => trivial⟩
    · intro key kind seen raw enough short
      obtain rfl := List.length_eq_zero_iff.mp (Nat.le_zero.mp enough)
      simp only [walkMapEntry,true_iff]
      exact ⟨[],rfl,by simp,by simp,by simp⟩
  | succ fuel ih =>
    obtain ⟨messages,entries⟩ := ih
    constructor
    · intro nested name seen oneofs raw enough short
      by_cases more : raw = []
      · subst more
        simp only [walkMessage,true_iff]
        exact ⟨[],rfl,by simp,fun _ => trivial⟩
      rw [walkMessage_succ more short,exists_fields_iff more]
      refine exists_congr fun field => exists_congr fun rest => and_congr_right fun whole => ?_
      subst whole
      rw [passes_iff messages entries enough short]
      simp only [List.forall_mem_cons]
      constructor
      · rintro ⟨first,new,fields,rfl,each,fresh⟩
        exact ⟨fields,rfl,⟨first,each⟩,fun inside => ⟨new inside,fresh inside⟩⟩
      · rintro ⟨fields,rfl,⟨first,each⟩,fresh⟩
        exact ⟨first,fun inside => (fresh inside).1,fields,rfl,each,fun inside => (fresh inside).2⟩
    · intro key kind seen raw enough short
      by_cases more : raw = []
      · subst more
        simp only [walkMapEntry,true_iff]
        exact ⟨[],rfl,by simp,by simp,by simp⟩
      rw [walkMapEntry_succ more short,exists_fields_iff more]
      refine exists_congr fun field => exists_congr fun rest => and_congr_right fun whole => ?_
      subst whole
      rw [passesEntry_iff messages entries enough short]
      simp only [List.forall_mem_cons,List.map_cons,List.nodup_cons]
      simp only [List.mem_map,List.mem_cons,not_or,not_exists,not_and]
      constructor
      · rintro ⟨first,new,fields,rfl,each,once,apart⟩
        exact ⟨fields,rfl,⟨first,each⟩,⟨fun later among => (apart later among).1,once⟩,new,
          fun later among => (apart later among).2⟩
      · rintro ⟨fields,rfl,⟨first,each⟩,⟨apart,once⟩,new,others⟩
        exact ⟨first,new,fields,rfl,each,once,fun later among => ⟨apart later among,others later among⟩⟩

/-! ### The walk comes to an end -/

theorem read_shorter {tag tagSize : Nat} (short : raw.length < 2 ^ 53) (read : readVarint raw = .ok (tag,tagSize))
    (valued : readWireValue (raw.drop tagSize) (tag % 8) = .ok (size,payload)) :
    ((raw.drop tagSize).drop size).length < raw.length ∧ ∀ data, payload = some data → data.length < raw.length := by
  obtain ⟨field,rest,rfl,_,taken,left⟩ := (readField_iff short (P := fun _ _ found rest =>
    payload = found ∧ (raw.drop tagSize).drop size = rest)).mp ⟨tag,tagSize,read,size,payload,valued,rfl,rfl⟩
  rw [left,taken]
  refine ⟨?_,fun data found => payload_length found⟩
  have positive := encodeField_length_pos field
  rw [List.length_append]
  omega

/-- One more round changes nothing, when there are as many as bytes. -/
def Steady (schema : Schema σ) (fuel : Nat) : Prop :=
  (∀ nested name seen oneofs raw, raw.length ≤ fuel → raw.length < 2 ^ 53 →
    walkMessage schema (fuel + 1) nested name seen oneofs raw = walkMessage schema fuel nested name seen oneofs raw) ∧
  ∀ key kind seen raw, raw.length ≤ fuel → raw.length < 2 ^ 53 →
    walkMapEntry schema (fuel + 1) key kind seen raw = walkMapEntry schema fuel key kind seen raw

theorem steady (schema : Schema σ) (fuel : Nat) : Steady schema fuel := by
  induction fuel with
  | zero =>
    constructor
    · intro nested name seen oneofs raw enough _
      obtain rfl := List.length_eq_zero_iff.mp (Nat.le_zero.mp enough)
      simp [walkMessage]
    · intro key kind seen raw enough _
      obtain rfl := List.length_eq_zero_iff.mp (Nat.le_zero.mp enough)
      simp [walkMapEntry]
  | succ fuel ih =>
    obtain ⟨messages,entries⟩ := ih
    constructor
    · intro nested name seen oneofs raw enough short
      cases raw with
      | nil => simp only [walkMessage]
      | cons byte bytes =>
        simp only [walkMessage]
        refine bind_congr_ok fun tagged read => ?_
        obtain ⟨tag,tagSize⟩ := tagged
        cases schema.field name (tag / 8) with
        | none => rfl
        | some desc =>
          refine bind_congr_ok fun _ _ => bind_congr_ok fun value valued => ?_
          obtain ⟨size,payload⟩ := value
          obtain ⟨left,inside⟩ := read_shorter short read valued
          dsimp only
          rw [messages nested name _ _ _ (by omega) (by omega)]
          congr 1
          cases payload with
          | none => rfl
          | some data =>
            have shorter := inside data rfl
            obtain ⟨number,kind,label,oneof⟩ := desc
            cases label <;> cases kind <;> simp only [validateNestedValue] <;>
              first | rfl | exact messages _ _ _ _ _ (by omega) (by omega) | exact entries _ _ _ _ (by omega) (by omega)
    · intro key kind seen raw enough short
      cases raw with
      | nil => simp only [walkMapEntry]
      | cons byte bytes =>
        refine bind_congr_ok fun tagged read => ?_
        refine if_congr Iff.rfl rfl (if_congr Iff.rfl rfl (bind_congr_ok fun value valued => ?_))
        obtain ⟨size,payload⟩ := value
        obtain ⟨left,inside⟩ := read_shorter short read valued
        dsimp only
        rw [entries key kind _ _ (by omega) (by omega)]
        cases payload with
        | none => rfl
        | some data =>
          have shorter := inside data rfl
          cases kind with
          | scalar type => rfl
          | message name => simp [validateEntryValue,messages true name [] [] data (by omega) (by omega)]

/-- The walk does not depend on the rounds it is given, so that it ends by itself. -/
theorem walkMessage_enough (schema : Schema σ) (enough : raw.length ≤ fuel) (short : raw.length < 2 ^ 53) :
    walkMessage schema fuel nested name [] [] raw = walkMessage schema raw.length nested name [] [] raw := by
  induction fuel, enough using Nat.le_induction with
  | base => rfl
  | succ fuel enough ih => rw [(steady schema fuel).1 nested name [] [] raw enough short,ih]

/-- Node's nested check ends on every byte string and accepts the messages of the schema. -/
theorem nested_grammar_exact (schema : Schema σ) (name : σ) (raw : Bytes) (short : raw.length < 2 ^ 53) :
    (assertClosedNestedWire schema name raw = .ok () ↔ IsMessage schema false name raw) ∧
      ∀ fuel, raw.length ≤ fuel → walkMessage schema fuel false name [] [] raw = assertClosedNestedWire schema name raw :=
  ⟨(accepts schema raw.length).1.whole le_rfl short,fun _ enough => walkMessage_enough schema enough short⟩

namespace Samples

def tree : Schema Unit := fun _ =>
  [⟨1,.message (),.singular,none⟩,⟨2,.message (),.map .string,none⟩,⟨3,.scalar .uint32,.repeated true,none⟩]

/-- A child may have one child and not two. -/
theorem one_grandchild : IsMessage tree false () [0x0a,2,0x0a,0] ∧ ¬ IsMessage tree false () [0x0a,4,0x0a,0,0x0a,0] := by
  constructor
  · exact (nested_grammar_exact tree () _ (by decide)).1.mp rfl
  · rw [← (nested_grammar_exact tree () _ (by decide)).1]
    exact nofun

end Samples

end Cap.NestedGrammar
