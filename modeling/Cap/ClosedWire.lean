import Cap.ProductionWire
import Cap.Proto

/-!
Node's check that a packet is closed: `assertClosedNestedWire` walks over the bytes of a message
and of those inside it, along the schema. Every message that conforms to its schema and has no
unknown fields passes, in whatever order its fields were written.
-/
namespace Cap.ClosedWire
open Cap.Text Cap.Varint Cap.Wire Cap.Proto Cap.Checks

def readVarint (raw : Bytes) : Except String (Nat × Nat) :=
  match ProductionWire.readVarint raw with
  | .ok read => .ok read
  | .error _ => .error "invalid nested protobuf wire"

def boundedValue (raw : Bytes) (size : Nat) : Except String (Nat × Option Bytes) :=
  if size > raw.length then .error "invalid nested protobuf wire" else .ok (size,none)

/-- The size of a value and, for a length-delimited one, its payload. -/
def readWireValue (raw : Bytes) (wireType : Nat) : Except String (Nat × Option Bytes) :=
  match wireType with
  | 0 => do
    let (_,size) ← readVarint raw
    pure (size,none)
  | 1 => boundedValue raw 8
  | 5 => boundedValue raw 4
  | 2 => do
    let (length,size) ← readVarint raw
    -- Number.MAX_SAFE_INTEGER
    if length > 2 ^ 53 - 1 then .error "invalid nested protobuf wire"
    else if size + length > raw.length then .error "invalid nested protobuf wire"
    else pure (size + length,some ((raw.drop size).take length))
  | _ => .error "invalid nested protobuf wire"

section
variable {σ : Type}

def allowedWireTypes (field : FieldDesc σ) : List Nat :=
  match field.label,field.kind with
  | .map _,_ => [2]
  | _,.message _ => [2]
  | .repeated packed,.scalar type =>
    if packed && [0,1,5].contains type.wireType then [type.wireType,2] else [type.wireType]
  | .singular,.scalar type => [type.wireType]

def Label.isSingular : Label → Bool
  | .singular => true
  | _ => false

def validateOccurrence (field : FieldDesc σ) (fieldNumber wireType : Nat) (seen : List Nat) (seenOneofs : List String)
    (nested : Bool) : Except String Unit :=
  if !(allowedWireTypes field).contains wireType then .error "invalid nested protobuf wire"
  else if nested && Label.isSingular field.label && seen.contains fieldNumber then .error "duplicate nested protobuf field"
  else if nested && field.oneof.toList.any seenOneofs.contains then .error "multiple nested protobuf oneof fields"
  else .ok ()

/-- The payload of a field, with the walks over a map entry and over a message. -/
def validateNestedValue (walkMapEntry : Scalar → Kind σ → Bytes → Except String Unit)
    (walkMessage : σ → Bytes → Except String Unit) (field : FieldDesc σ) : Option Bytes → Except String Unit
  | none => .ok ()
  | some payload => match field.label,field.kind with
    | .map key,kind => walkMapEntry key kind payload
    | _,.message name => walkMessage name payload
    | _,.scalar _ => .ok ()

def validateEntryValue (walkMessage : σ → Bytes → Except String Unit) (number : Nat) (kind : Kind σ) :
    Option Bytes → Except String Unit
  | none => .ok ()
  | some payload => match kind with
    | .message name => if number = 2 then walkMessage name payload else .ok ()
    | .scalar _ => .ok ()

variable (schema : Schema σ)

mutual

/-- The walk over the fields of a message. Each round and each level takes at least one byte. -/
def walkMessage : Nat → Bool → σ → List Nat → List String → Bytes → Except String Unit
  | _,_,_,_,_,[] => .ok ()
  | 0,_,_,_,_,_ :: _ => .error "invalid nested protobuf wire"
  | fuel + 1,nested,name,seen,seenOneofs,byte :: bytes => do
    let (tag,tagSize) ← readVarint (byte :: bytes)
    match schema.field name (tag / 8) with
    | none => .error "unknown nested protobuf field"
    | some field => do
      validateOccurrence field (tag / 8) (tag % 8) seen seenOneofs nested
      let (size,payload) ← readWireValue ((byte :: bytes).drop tagSize) (tag % 8)
      validateNestedValue (fun key kind raw => walkMapEntry fuel key kind [] raw)
        (fun inner raw => walkMessage fuel true inner [] [] raw) field payload
      walkMessage fuel nested name (tag / 8 :: seen) (field.oneof.toList ++ seenOneofs)
        (((byte :: bytes).drop tagSize).drop size)

def walkMapEntry : Nat → Scalar → Kind σ → List Nat → Bytes → Except String Unit
  | _,_,_,_,[] => .ok ()
  | 0,_,_,_,_ :: _ => .error "invalid nested protobuf wire"
  | fuel + 1,key,kind,seen,byte :: bytes => do
    let (tag,tagSize) ← readVarint (byte :: bytes)
    if (tag / 8 ≠ 1 ∧ tag / 8 ≠ 2) ∨ tag / 8 ∈ seen then .error "unknown nested protobuf field"
    else if tag % 8 ≠ (if tag / 8 = 1 then key.wireType else kind.wireType) then .error "invalid nested protobuf wire"
    else do
      let (size,payload) ← readWireValue ((byte :: bytes).drop tagSize) (tag % 8)
      validateEntryValue (fun inner raw => walkMessage fuel true inner [] [] raw) (tag / 8) kind payload
      walkMapEntry fuel key kind (tag / 8 :: seen) (((byte :: bytes).drop tagSize).drop size)

end

def assertClosedNestedWire (name : σ) (raw : Bytes) : Except String Unit :=
  walkMessage schema raw.length false name [] [] raw

end

/-! ### Reading what was written -/

private theorem readVarint_encoded {v : Nat} (rest : Bytes) (small : v < 2 ^ 64) :
    readVarint (encodeVarint v ++ rest) = .ok (v,(encodeVarint v).length) := by
  unfold readVarint
  rw [ProductionWire.readVarint_encodeVarint rest (by omega)]

def payload? : Value → Option Bytes
  | .bytes data => some data
  | _ => none

/-- The value has its width and its integers 64 bits. -/
def Plain : Value → Prop
  | .varint n => n < 2 ^ 64
  | value => value.Sized

theorem readWireValue_encoded {value : Value} (rest : Bytes) (plain : Plain value)
    (short : (encodeValue value).length < 2 ^ 53) :
    readWireValue (encodeValue value ++ rest) value.wireType = .ok ((encodeValue value).length,payload? value) := by
  cases value with
  | varint n =>
    simp [readWireValue,Value.wireType,encodeValue,readVarint_encoded rest plain,payload?]
  | fixed64 data =>
    have width : data.length = 8 := plain
    simp [readWireValue,Value.wireType,encodeValue,boundedValue,width,payload?]
  | fixed32 data =>
    have width : data.length = 4 := plain
    simp [readWireValue,Value.wireType,encodeValue,boundedValue,width,payload?]
  | bytes data =>
    simp only [encodeValue,List.length_append] at short
    have fits : ¬ (encodeVarint data.length).length + data.length >
        (encodeVarint data.length).length + (data.length + rest.length) := by omega
    have small : ¬ data.length > 2 ^ 53 - 1 := by omega
    have taken : ((encodeVarint data.length ++ (data ++ rest)).drop (encodeVarint data.length).length).take data.length =
        data := by simp
    simp only [readWireValue,Value.wireType,encodeValue,List.append_assoc,
      readVarint_encoded (data ++ rest) (by omega : data.length < 2 ^ 64),bind,Except.bind,pure,Except.pure,
      if_neg small,if_neg fits,taken,List.length_append,payload?]

section
variable {σ : Type} {schema : Schema σ}

private theorem readTag_encoded (number wireType : Nat) (rest : Bytes) (small : number < 2 ^ 29) (type : wireType < 8) :
    ∃ tag size, readVarint (encodeTag number wireType ++ rest) = .ok (tag,size) ∧ tag / 8 = number ∧ tag % 8 = wireType ∧
      (encodeTag number wireType ++ rest).drop size = rest := by
  refine ⟨number * 8 + wireType,_,readVarint_encoded rest (by omega),by omega,by omega,?_⟩
  exact List.drop_left

private theorem walkMessage_field {fuel number : Nat} {nested : Bool} {name : σ} {seen : List Nat} {oneofs : List String}
    {value : Value} {rest : Bytes} {field : FieldDesc σ} (found : schema.field name number = some field)
    (small : number < 2 ^ 29) (plain : Plain value) (short : (encodeValue value).length < 2 ^ 53)
    (occurs : validateOccurrence field number value.wireType seen oneofs nested = .ok ())
    (inner : validateNestedValue (fun key kind raw => walkMapEntry schema fuel key kind [] raw)
      (fun inner raw => walkMessage schema fuel true inner [] [] raw) field (payload? value) = .ok ()) :
    walkMessage schema (fuel + 1) nested name seen oneofs (encodeField ⟨number,value⟩ ++ rest) =
      walkMessage schema fuel nested name (number :: seen) (field.oneof.toList ++ oneofs) rest := by
  obtain ⟨tag,size,read,quotient,remainder,after⟩ :=
    readTag_encoded number value.wireType (encodeValue value ++ rest) small (wireType_lt value)
  simp only [encodeField,List.append_assoc]
  -- the walk looks at the first byte only to see that there is one
  cases whole : encodeTag number value.wireType ++ (encodeValue value ++ rest) with
  | nil =>
    have positive := encodeVarint_length_pos (number * 8 + value.wireType)
    have lengths := congrArg List.length whole
    simp only [encodeTag,List.length_append,List.length_nil] at lengths
    omega
  | cons byte bytes =>
    rw [whole] at read after
    simp [walkMessage,read,after,quotient,remainder,found,occurs,readWireValue_encoded rest plain short,inner,bind,
      Except.bind]

/-! ### Conforming messages pass -/

theorem holds_plain {type : Scalar} {value : Val} (held : type.holds value = true) :
    Plain value.wire ∧ value.wire.wireType = type.wireType := by
  cases value with
  | varint n =>
    refine ⟨?_,?_⟩
    · show n < 2 ^ 64
      cases type <;> simp [Scalar.holds] at held <;> omega
    · cases type <;> simp [Scalar.holds] at held <;> rfl
  | fixed64 data | fixed32 data => cases type <;> simp [Scalar.holds] at held <;> exact ⟨held,rfl⟩
  | text s | bytes data => cases type <;> simp [Scalar.holds] at held; exact ⟨trivial,rfl⟩
  | packed ns | message m => cases type <;> simp [Scalar.holds] at held

theorem fits_plain (field : FieldDesc σ) {value : Val} (fits : value.fits schema field.kind field.label = true) :
    Plain value.wire ∧ (allowedWireTypes field).contains value.wire.wireType = true := by
  obtain ⟨number,kind,label,oneof⟩ := field
  cases label with
  | map key => cases value <;> simp [Val.fits] at fits; exact ⟨trivial,rfl⟩
  | singular =>
    cases kind with
    | message name => cases value <;> simp [Val.fits] at fits; exact ⟨trivial,rfl⟩
    | scalar type =>
      have held : type.holds value = true := by cases value <;> simp_all [Val.fits]
      obtain ⟨plain,same⟩ := holds_plain held
      exact ⟨plain,by simp [allowedWireTypes,same]⟩
  | repeated packed =>
    cases kind with
    | message name => cases value <;> simp [Val.fits] at fits; exact ⟨trivial,rfl⟩
    | scalar type =>
      by_cases held : type.holds value = true
      · obtain ⟨plain,same⟩ := holds_plain held
        refine ⟨plain,?_⟩
        simp only [allowedWireTypes]
        split <;> simp [same]
      · cases value with
        | packed ns =>
          cases packed <;> simp [Val.fits] at fits
          exact ⟨trivial,by simp [allowedWireTypes,fits.1,Val.wire,Value.wireType]⟩
        | message m => simp [Val.fits] at fits
        | _ => simp at fits; exact absurd fits held

theorem fits_singular {kind : Kind σ} {value : Val} (fits : value.fits schema kind .singular = true) :
    Plain value.wire ∧ value.wire.wireType = kind.wireType := by
  obtain ⟨plain,allowed⟩ := fits_plain ⟨0,kind,.singular,none⟩ fits
  exact ⟨plain,by cases kind <;> simpa [allowedWireTypes,Kind.wireType] using allowed⟩

private theorem validateOccurrence_new {field : FieldDesc σ} {number wireType : Nat} {seen : List Nat}
    {oneofs : List String} (allowed : (allowedWireTypes field).contains wireType = true)
    (new : (match field.label with
      | .singular => !seen.contains number
      | _ => true) = true)
    (free : field.oneof.toList.all (!oneofs.contains ·) = true) (nested : Bool) :
    validateOccurrence field number wireType seen oneofs nested = .ok () := by
  have single : (Label.isSingular field.label && seen.contains number) = false := by
    cases label : field.label with
    | singular => simpa [label,Label.isSingular] using new
    | _ => rfl
  have other : field.oneof.toList.any oneofs.contains = false := by
    cases member : field.oneof with
    | none => rfl
    | some oneof =>
      rw [member] at free
      simpa using free
  unfold validateOccurrence
  simp only [allowed,Bool.not_true,Bool.false_eq_true,if_false,Bool.and_assoc,single,other,Bool.and_false]

theorem encodeValue_shorter (number : Nat) (value : Value) :
    (encodeValue value).length < (encodeField ⟨number,value⟩).length := by
  have positive := encodeVarint_length_pos (number * 8 + value.wireType)
  simp only [encodeField,encodeTag,List.length_append]
  omega

/-- The schema numbers its fields as protobuf does. -/
def Numbered (schema : Schema σ) : Prop := ∀ name number field, schema.field name number = some field → number < 2 ^ 29

private theorem walkMapEntry_field {fuel number : Nat} {key : Scalar} {kind : Kind σ} {seen : List Nat} {value : Value}
    {rest : Bytes} (known : number = 1 ∨ number = 2) (new : number ∉ seen)
    (type : value.wireType = if number = 1 then key.wireType else kind.wireType) (plain : Plain value)
    (short : (encodeValue value).length < 2 ^ 53)
    (inner : validateEntryValue (fun inner raw => walkMessage schema fuel true inner [] [] raw) number kind
      (payload? value) = .ok ()) :
    walkMapEntry schema (fuel + 1) key kind seen (encodeField ⟨number,value⟩ ++ rest) =
      walkMapEntry schema fuel key kind (number :: seen) rest := by
  obtain ⟨tag,size,read,quotient,remainder,after⟩ :=
    readTag_encoded number value.wireType (encodeValue value ++ rest) (by omega) (wireType_lt value)
  have allowed : ¬ ((number ≠ 1 ∧ number ≠ 2) ∨ number ∈ seen) := by
    rintro (⟨one,two⟩ | old)
    · rcases known with first | second
      · exact one first
      · exact two second
    · exact new old
  simp only [encodeField,List.append_assoc]
  cases whole : encodeTag number value.wireType ++ (encodeValue value ++ rest) with
  | nil =>
    have positive := encodeVarint_length_pos (number * 8 + value.wireType)
    have lengths := congrArg List.length whole
    simp only [encodeTag,List.length_append,List.length_nil] at lengths
    omega
  | cons byte bytes =>
    rw [whole] at read after
    simp [walkMapEntry,read,after,quotient,remainder,if_neg allowed,← type,
      readWireValue_encoded rest plain short,inner,bind,Except.bind]

private theorem validateEntryValue_eq {walkEntry : Scalar → Kind σ → Bytes → Except String Unit}
    {walk : σ → Bytes → Except String Unit} (kind : Kind σ) (found : Option Bytes) :
    validateEntryValue walk 2 kind found = validateNestedValue walkEntry walk ⟨2,kind,.singular,none⟩ found := by
  cases found with
  | none => rfl
  | some bytes => cases kind <;> rfl

private theorem validateEntryValue_key {walk : σ → Bytes → Except String Unit} (kind : Kind σ) (found : Option Bytes) :
    validateEntryValue walk 1 kind found = .ok () := by
  cases found with
  | none => rfl
  | some bytes => cases kind <;> rfl

mutual

theorem walkMessage_conforms (numbered : Numbered schema) : ∀ (m : Msg) (fuel : Nat) (nested : Bool) (name : σ)
    (seen : List Nat) (oneofs : List String), m.conforms schema name seen oneofs = true → m.closed = true →
    m.encode.length ≤ fuel → m.encode.length < 2 ^ 53 →
    walkMessage schema fuel nested name seen oneofs m.encode = .ok ()
  | .done unknown,fuel,nested,name,seen,oneofs,_,closed,_,_ => by
    simp only [Msg.closed,List.isEmpty_iff] at closed
    rw [Msg.encode,closed,walkMessage]
  | .field number value rest,fuel,nested,name,seen,oneofs,conforms,closed,enough,short => by
    simp only [Msg.closed,Bool.and_eq_true] at closed
    simp only [Msg.encode,List.length_append] at enough short
    cases found : schema.field name number with
    | none => simp [Msg.conforms,found] at conforms
    | some field =>
      simp only [Msg.conforms,found,Bool.and_eq_true] at conforms
      obtain ⟨⟨⟨fits,new⟩,free⟩,later⟩ := conforms
      obtain ⟨plain,allowed⟩ := fits_plain field fits
      have shorter := encodeValue_shorter number value.wire
      cases fuel with
      | zero => omega
      | succ fuel =>
        rw [Msg.encode,walkMessage_field found (numbered name number field found) plain (by omega)
          (validateOccurrence_new allowed new free nested)
          (validateNestedValue_fits numbered value fuel field fits closed.1 (by omega) (by omega))]
        exact walkMessage_conforms numbered rest fuel nested name _ _ later closed.2 (by omega) (by omega)

theorem validateNestedValue_fits (numbered : Numbered schema) : ∀ (value : Val) (fuel : Nat) (field : FieldDesc σ),
    value.fits schema field.kind field.label = true → value.closed = true → (encodeValue value.wire).length ≤ fuel →
    (encodeValue value.wire).length < 2 ^ 53 →
    validateNestedValue (fun key kind raw => walkMapEntry schema fuel key kind [] raw)
      (fun inner raw => walkMessage schema fuel true inner [] [] raw) field (payload? value.wire) = .ok ()
  | .message m,fuel,⟨_,kind,label,_⟩,fits,closed,enough,short => by
    simp only [Val.wire,encodeValue,List.length_append] at enough short
    cases label with
    | map key =>
      obtain ⟨first,second,rfl,held,typed⟩ := isEntry_eq (by simpa [Val.fits] using fits)
      simp only [Val.closed,Msg.closed,Bool.and_eq_true] at closed
      obtain ⟨plain,keyType⟩ := holds_plain held
      obtain ⟨plain',valueType⟩ := fits_singular typed
      simp only [Msg.encode,List.length_append] at enough short
      have firstShorter := encodeValue_shorter 1 first.wire
      have secondShorter := encodeValue_shorter 2 second.wire
      obtain ⟨fuel,rfl⟩ : ∃ less, fuel = less + 2 := ⟨fuel - 2,by omega⟩
      show walkMapEntry schema (fuel + 2) key kind [] (Msg.encode _) = .ok ()
      simp only [Msg.encode]
      rw [walkMapEntry_field (.inl rfl) (by simp) keyType plain (by omega) (validateEntryValue_key kind _),
        walkMapEntry_field (.inr rfl) (by simp) valueType plain' (by omega)
          ((validateEntryValue_eq kind _).trans (validateNestedValue_fits numbered second fuel ⟨2,kind,.singular,none⟩ typed
            closed.2.1 (by omega) (by omega))),walkMapEntry]
    | singular | repeated packed =>
      cases kind with
      | scalar type => simp [Val.fits] at fits
      | message name =>
        exact walkMessage_conforms numbered m fuel true name [] [] (by simpa [Val.fits] using fits) closed
          (by omega) (by omega)
  | .varint n,fuel,field,fits,closed,enough,short => rfl
  | .fixed64 n,fuel,field,fits,closed,enough,short => rfl
  | .fixed32 n,fuel,field,fits,closed,enough,short => rfl
  | .text s,fuel,⟨_,kind,label,_⟩,fits,closed,enough,short => by
    cases label <;> cases kind <;> simp_all [Val.fits,validateNestedValue,Val.wire,payload?]
  | .bytes s,fuel,⟨_,kind,label,_⟩,fits,closed,enough,short => by
    cases label <;> cases kind <;> simp_all [Val.fits,validateNestedValue,Val.wire,payload?]
  | .packed ns,fuel,⟨_,kind,label,_⟩,fits,closed,enough,short => by
    cases label <;> cases kind <;> simp_all [Val.fits,validateNestedValue,Val.wire,payload?]

end

theorem assertClosedNestedWire_conforms (numbered : Numbered schema) {m : Msg} {name : σ}
    (conforms : m.conforms schema name [] [] = true) (closed : m.closed = true) (short : m.encode.length < 2 ^ 53) :
    assertClosedNestedWire schema name m.encode = .ok () :=
  walkMessage_conforms numbered m _ false name [] [] conforms closed le_rfl short

end

end Cap.ClosedWire
