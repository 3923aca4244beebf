import Cap.Checks
import Cap.Runs
import Cap.Wire

/-!
Strict extraction of the signature field from a production packet, in the three SDKs. Offsets of
the source appear as the bytes that are left. Node's conversions of varint values to `Number` are
exact where they matter: a value too large for that is neither a known field number nor a length
that fits.
-/
namespace Cap.ProductionWire
open Cap.Text Cap.Varint Cap.Wire Cap.Checks

def busPacketWireType : Nat → Option Nat
  | 4 => some 0
  | 1 | 2 | 3 | 5 | 6 | 10 | 11 | 12 | 13 | 14 | 15 | 16 | 17 | 18 | 19 | 20 | 21 | 22 => some 2
  | _ => none

def productionPayloadField : Nat → Bool
  | 10 | 11 | 12 | 13 | 15 | 16 | 17 | 19 | 20 | 21 | 22 => true
  | _ => false

def maxProductionRawBytes : Nat := 2 ^ 20

/-- The outer field numbers seen so far and whether one of them was a payload. -/
structure Outer where
  seen : List Nat
  payloadSeen : Bool
deriving DecidableEq

/-- The check of one outer field, with the SDK's errors for each reason to refuse it. -/
def validateOuterField {ε : Type} (unknown wrongType : ε) (duplicate : Nat → ε) (multiple : ε) (outer : Outer)
    (number wireType : Nat) : Except ε Outer :=
  match busPacketWireType number with
  | none => .error unknown
  | some expected =>
    if wireType ≠ expected then .error wrongType
    else if number ∈ outer.seen then .error (duplicate number)
    else if productionPayloadField number && outer.payloadSeen then .error multiple
    else .ok ⟨number :: outer.seen,outer.payloadSeen || productionPayloadField number⟩

structure Walk where
  outer : Outer
  unsigned : Bytes
  signature : Option Bytes
deriving DecidableEq

def Walk.start : Walk := ⟨⟨[],false⟩,[],none⟩

/-- The parts in which the three walks differ: how a tag is read (number, wire type and
    size), the outer check, the size of a value, and the signature inside a value. -/
structure Scanner (ε : Type) where
  tag : Bytes → Except ε (Nat × Nat × Nat)
  outer : Outer → Nat → Nat → Except ε Outer
  value : Nat → Nat → Bytes → Except ε Nat
  signature : Bytes → Nat → Except ε Bytes
  /-- Never reported: the walk takes at least one byte a round. -/
  stuck : ε

/-- What is kept of a field: the signature of field 14, the bytes of every other field. -/
def Scanner.keep {ε : Type} (scanner : Scanner ε) (w : Walk) (outer : Outer) (number tagSize valueSize : Nat)
    (rest : Bytes) : Except ε Walk :=
  if number = 14 then do
    let signature ← scanner.signature (rest.drop tagSize) valueSize
    pure {w with outer := outer,signature := some signature}
  else .ok {w with outer := outer,unsigned := w.unsigned ++ rest.take (tagSize + valueSize)}

/-- One round of the walk: the bytes after the first field, and what is collected by then. -/
def Scanner.round {ε : Type} (scanner : Scanner ε) (rest : Bytes) (w : Walk) : Except ε (Bytes × Walk) := do
  let (number,wireType,tagSize) ← scanner.tag rest
  let outer ← scanner.outer w.outer number wireType
  let valueSize ← scanner.value number wireType (rest.drop tagSize)
  let next ← scanner.keep w outer number tagSize valueSize rest
  pure ((rest.drop tagSize).drop valueSize,next)

def Scanner.walk {ε : Type} (scanner : Scanner ε) : Nat → Bytes → Walk → Except ε Walk
  | _,[],w => .ok w
  | 0,_ :: _,_ => .error scanner.stuck
  | fuel + 1,byte :: rest,w => do
    let (after,next) ← scanner.round (byte :: rest) w
    scanner.walk fuel after next

inductive GoWireError where
  | malformedProductionWire
  | missingSignature
  | duplicateSignatureField
deriving DecidableEq

/-- The varint reader of the Go protobuf runtime: it reads back what is encoded in at most
    64 bits and never returns a larger value. -/
structure Protowire where
  consumeVarint : Bytes → Option (Nat × Nat)
  consume_encoded : ∀ v rest, v < 2 ^ 64 → consumeVarint (encodeVarint v ++ rest) = some (v,(encodeVarint v).length)
  consume_bounded : ∀ raw v size, consumeVarint raw = some (v,size) → v < 2 ^ 64 ∧ size ≤ raw.length

variable (pw : Protowire)

/-- `protowire.ConsumeTag`: field numbers are positive and fit in 31 bits. -/
def Protowire.consumeTag (raw : Bytes) : Option (Nat × Nat × Nat) :=
  match pw.consumeVarint raw with
  | none => none
  | some (v,size) => if v / 8 > 2 ^ 31 - 1 || v / 8 < 1 then none else some (v / 8,v % 8,size)

def consumeCanonicalTag (raw : Bytes) : Except GoWireError (Nat × Nat × Nat) :=
  match pw.consumeTag raw with
  | none => .error .malformedProductionWire
  | some (number,wireType,size) =>
    if encodeTag number wireType = raw.take size then .ok (number,wireType,size)
    else .error .malformedProductionWire

/-- A failed second read leaves the value zero. -/
def canonicalVarint (raw : Bytes) (size : Nat) : Bool :=
  !(decide (size = 0) || decide (size > raw.length)) &&
    encodeVarint (((pw.consumeVarint (raw.take size)).map Prod.fst).getD 0) == raw.take size

def consumeCanonicalFieldValue (number wireType : Nat) (raw : Bytes) : Except GoWireError Nat :=
  match wireType with
  | 0 => match pw.consumeVarint raw with
    | none => .error .malformedProductionWire
    | some (value,size) =>
      if canonicalVarint pw raw size && (number != 4 || value == 1) then .ok size
      else .error .malformedProductionWire
  | 5 => if raw.length ≥ 4 then .ok 4 else .error .malformedProductionWire
  | 1 => if raw.length ≥ 8 then .ok 8 else .error .malformedProductionWire
  | 2 => match pw.consumeVarint raw with
    | none => .error .malformedProductionWire
    | some (length,size) =>
      if !canonicalVarint pw raw size || decide (length > raw.length - size) then .error .malformedProductionWire
      else .ok (size + length)
  | _ => .error .malformedProductionWire

/-- `protowire.ConsumeBytes`: the bytes after a length, and how many bytes that took in all. -/
def Protowire.consumeBytes (raw : Bytes) : Option (Bytes × Nat) :=
  match pw.consumeVarint raw with
  | none => none
  | some (length,size) =>
    if length > (raw.drop size).length then none else some ((raw.drop size).take length,size + length)

def goSignature (raw : Bytes) (valueSize : Nat) : Except GoWireError Bytes :=
  match pw.consumeBytes (raw.take valueSize) with
  | none => .error .malformedProductionWire
  | some (value,consumed) =>
    if consumed ≠ valueSize ∨ value = [] then .error .malformedProductionWire else .ok value

def goScanner : Scanner GoWireError where
  tag := consumeCanonicalTag pw
  outer := validateOuterField .malformedProductionWire .malformedProductionWire
    (fun number => if number = 14 then .duplicateSignatureField else .malformedProductionWire) .malformedProductionWire
  value := consumeCanonicalFieldValue pw
  signature := goSignature pw
  stuck := .malformedProductionWire

/-- Go's `extractSignatureField`: the unsigned bytes and the signature. -/
def extractSignatureField (raw : Bytes) : Except GoWireError (Bytes × Bytes) :=
  if raw.length > maxProductionRawBytes then .error .malformedProductionWire
  else do
    let w ← (goScanner pw).walk raw.length raw .start
    match w.signature with
    | none => .error .missingSignature
    | some signature => .ok (w.unsigned,signature)

def readVarint (raw : Bytes) : Except String (Nat × Nat) :=
  match readShifted 10 0 0 raw with
  | none => .error (if raw.length < 10 then "truncated varint" else "oversize varint")
  | some (value,size) => if encodeVarint value = raw.take size then .ok (value,size) else .error "non-minimal varint"

def skipValue (wireType : Nat) (raw : Bytes) : Except String Nat :=
  let bounded (size : Nat) : Except String Nat := if size > raw.length then .error "truncated field" else .ok size
  match wireType with
  | 0 => do
    let (_,size) ← readVarint raw
    pure size
  | 1 => bounded 8
  | 2 => do
    let (length,size) ← readVarint raw
    bounded (size + length)
  | 5 => bounded 4
  | _ => .error "unsupported wire type"

def readTag (raw : Bytes) : Except String (Nat × Nat × Nat) := do
  let (tag,size) ← readVarint raw
  pure (tag / 8,tag % 8,size)

/-- The protocol version must be the single byte 1; other values are skipped over. -/
def readValue (number wireType : Nat) (raw : Bytes) : Except String Nat :=
  if number = 4 then do
    let (version,size) ← readVarint raw
    if version ≠ 1 ∨ raw.take size ≠ [1] then .error "invalid protocol version wire" else pure size
  else skipValue wireType raw

/-- Node reads the length of the signature again and compares where it ends. -/
def nodeSignature (raw : Bytes) (valueSize : Nat) : Except String Bytes := do
  let (length,size) ← readVarint raw
  if size + length ≠ valueSize ∨ size + length = size then .error "malformed signature"
  else pure ((raw.drop size).take (size + length - size))

def pythonSignature (raw : Bytes) (valueSize : Nat) : Except String Bytes := do
  let (length,size) ← readVarint raw
  if size + length ≠ valueSize ∨ length = 0 then .error "malformed signature"
  else pure ((raw.drop size).take (valueSize - size))

def validateBusPacketField : Outer → Nat → Nat → Except String Outer :=
  validateOuterField "unknown BusPacket field" "wrong BusPacket field wire type"
    (fun _ => "duplicate singular BusPacket field") "multiple BusPacket payload fields"

def nodeScanner : Scanner String :=
  ⟨readTag,validateBusPacketField,readValue,nodeSignature,"truncated varint"⟩

def pythonScanner : Scanner String :=
  ⟨readTag,validateBusPacketField,readValue,pythonSignature,"truncated varint"⟩

/-- The extraction around a walk; Node and Python also insist on the protocol version. -/
def extractVersioned (scanner : Scanner String) (raw : Bytes) : Except String (Bytes × Bytes) :=
  if raw.length > maxProductionRawBytes then .error "production packet exceeds size limit"
  else do
    let w ← scanner.walk raw.length raw .start
    if 4 ∉ w.outer.seen then .error "invalid protocol version wire"
    else match w.signature with
      | none => .error "missing signature"
      | some signature => .ok (w.unsigned,signature)

def extractProductionSignature : Bytes → Except String (Bytes × Bytes) := extractVersioned nodeScanner

def extractSignature : Bytes → Except String (Bytes × Bytes) := extractVersioned pythonScanner

/-! ### The grammar the three walks share -/

def Admits (outer : Outer) (number wireType : Nat) (next : Outer) : Prop :=
  busPacketWireType number = some wireType ∧ number ∉ outer.seen ∧
    ¬ (productionPayloadField number = true ∧ outer.payloadSeen = true) ∧
    next = ⟨number :: outer.seen,outer.payloadSeen || productionPayloadField number⟩

variable {number size v wireType : Nat} {field : Field} {last next w : Walk} {raw rest signature : Bytes}
  {fields : List Field}

theorem validateOuterField_eq_ok {ε : Type} {unknown wrongType multiple : ε} {duplicate : Nat → ε}
    {outer next : Outer} :
    validateOuterField unknown wrongType duplicate multiple outer number wireType = .ok next ↔
      Admits outer number wireType next := by
  unfold validateOuterField Admits
  cases known : busPacketWireType number with
  | none => simp
  | some expected =>
    by_cases type : wireType = expected
    · subst type
      simp only [ne_eq,not_true_eq_false]
      by_cases repeated : number ∈ outer.seen
      · simp [repeated]
      · by_cases second : productionPayloadField number = true ∧ outer.payloadSeen = true
        · simp [repeated,second]
        · simp only [repeated,if_false,second,not_false_eq_true,true_and,Bool.and_eq_true,Except.ok.injEq]
          exact eq_comm
    · simp [type,Ne.symm type]

/-- One field of the packet added to what the walk has collected. -/
def admitField (w : Walk) (field : Field) : Option Walk :=
  if busPacketWireType field.number = some field.value.wireType ∧ field.number ∉ w.outer.seen ∧
      ¬ (productionPayloadField field.number = true ∧ w.outer.payloadSeen = true) ∧
      (field.number = 4 → field.value = .varint 1) then
    let outer : Outer := ⟨field.number :: w.outer.seen,w.outer.payloadSeen || productionPayloadField field.number⟩
    if field.number = 14 then match field.value with
      | .bytes data => if data = [] then none else some {w with outer := outer,signature := some data}
      | _ => none
    else some {w with outer := outer,unsigned := w.unsigned ++ encodeField field}
  else none

/-- What a walk needs of its parts: tags and values are read exactly in their shortest form,
    as far as known fields and packets within the size limit go. -/
structure Scanner.Strict {ε : Type} (scanner : Scanner ε) : Prop where
  tag_sound : ∀ raw number wireType size, scanner.tag raw = .ok (number,wireType,size) →
    ∃ rest, raw = encodeTag number wireType ++ rest ∧ size = (encodeTag number wireType).length
  tag_complete : ∀ number wireType rest, busPacketWireType number = some wireType →
    scanner.tag (encodeTag number wireType ++ rest) = .ok (number,wireType,(encodeTag number wireType).length)
  outer_iff : ∀ outer number wireType next,
    scanner.outer outer number wireType = .ok next ↔ Admits outer number wireType next
  value_sound : ∀ number wireType raw size, busPacketWireType number = some wireType →
    scanner.value number wireType raw = .ok size → ∃ value rest, value.wireType = wireType ∧
      (number = 4 → value = .varint 1) ∧ raw = encodeValue value ++ rest ∧ size = (encodeValue value).length
  value_complete : ∀ number value rest, busPacketWireType number = some value.wireType →
    (number = 4 → value = .varint 1) → (encodeValue value ++ rest).length ≤ maxProductionRawBytes →
    scanner.value number value.wireType (encodeValue value ++ rest) = .ok (encodeValue value).length
  signature_iff : ∀ data rest signature, (encodeValue (.bytes data) ++ rest).length ≤ maxProductionRawBytes →
    (scanner.signature (encodeValue (.bytes data) ++ rest) (encodeValue (.bytes data)).length = .ok signature ↔
      signature = data ∧ data ≠ [])

theorem admitField_eq_some :
    admitField w field = some next ↔ ∃ outer, Admits w.outer field.number field.value.wireType outer ∧
      (field.number = 4 → field.value = .varint 1) ∧
      ((field.number = 14 ∧ ∃ data, field.value = .bytes data ∧ data ≠ [] ∧
          next = {w with outer := outer,signature := some data}) ∨
        (field.number ≠ 14 ∧ next = {w with outer := outer,unsigned := w.unsigned ++ encodeField field})) := by
  constructor
  · intro accepted
    unfold admitField at accepted
    split at accepted
    · next allowed =>
      obtain ⟨known,new,single,version⟩ := allowed
      refine ⟨_,⟨known,new,single,rfl⟩,version,?_⟩
      split at accepted
      · next signature =>
        split at accepted
        · next data value =>
          split at accepted
          · cases accepted
          · next filled => cases accepted; exact .inl ⟨signature,data,value,filled,rfl⟩
        · cases accepted
      · next other => cases accepted; exact .inr ⟨other,rfl⟩
    · cases accepted
  · rintro ⟨outer,⟨known,new,single,rfl⟩,version,⟨signature,data,value,filled,rfl⟩ | ⟨other,rfl⟩⟩
    · unfold admitField
      rw [if_pos ⟨known,new,single,version⟩]
      simp [signature,value,filled]
    · unfold admitField
      rw [if_pos ⟨known,new,single,version⟩]
      simp [other]

section
variable {ε : Type} {scanner : Scanner ε}

private theorem drop_length_append {α : Type} (xs ys : List α) : (xs ++ ys).drop xs.length = ys := by simp

private theorem take_field (field : Field) (tail : Bytes) :
    (encodeTag field.number field.value.wireType ++ (encodeValue field.value ++ tail)).take
      ((encodeTag field.number field.value.wireType).length + (encodeValue field.value).length) = encodeField field := by
  rw [← List.append_assoc,← List.length_append]
  exact List.take_left

variable {w : Walk}

private theorem keep_eq_ok (strict : scanner.Strict) {next : Walk} {outer : Outer} (field : Field) {tail : Bytes}
    (allowed : Admits w.outer field.number field.value.wireType outer)
    (version : field.number = 4 → field.value = .varint 1)
    (short : (encodeValue field.value ++ tail).length ≤ maxProductionRawBytes) :
    scanner.keep w outer field.number (encodeTag field.number field.value.wireType).length (encodeValue field.value).length
      (encodeTag field.number field.value.wireType ++ (encodeValue field.value ++ tail)) = .ok next ↔
    admitField w field = some next := by
  unfold Scanner.keep
  rw [drop_length_append,take_field,admitField_eq_some]
  have unique : ∀ other, Admits w.outer field.number field.value.wireType other → other = outer :=
    fun other admits => admits.2.2.2.trans allowed.2.2.2.symm
  by_cases signed : field.number = 14
  · have type : field.value.wireType = 2 := by simpa [signed,busPacketWireType] using allowed.1.symm
    obtain ⟨data,value⟩ : ∃ data, field.value = .bytes data := by
      cases value : field.value with
      | bytes data => exact ⟨data,rfl⟩
      | _ => simp [value,Value.wireType] at type
    rw [if_pos signed,value,bind_eq_ok]
    rw [value] at short
    constructor
    · rintro ⟨signature,found,kept⟩
      obtain ⟨rfl,filled⟩ := (strict.signature_iff data tail signature short).mp found
      exact ⟨outer,value ▸ allowed,value ▸ version,.inl ⟨signed,_,rfl,filled,(pure_eq_ok.mp kept).symm⟩⟩
    · rintro ⟨other,admits,-,⟨-,found,same,filled,rfl⟩ | ⟨different,-⟩⟩
      · cases same
        rw [unique other (value ▸ admits)]
        exact ⟨data,(strict.signature_iff data tail data short).mpr ⟨rfl,filled⟩,rfl⟩
      · exact absurd signed different
  · rw [if_neg signed,Except.ok.injEq]
    constructor
    · rintro rfl
      exact ⟨outer,allowed,version,.inr ⟨signed,rfl⟩⟩
    · rintro ⟨other,admits,-,⟨impossible,-⟩ | ⟨-,rfl⟩⟩
      · exact absurd impossible signed
      · rw [unique other admits]

private theorem round_eq_ok (strict : scanner.Strict) {rest tail : Bytes} {next : Walk}
    (short : rest.length ≤ maxProductionRawBytes) :
    scanner.round rest w = .ok (tail,next) ↔ ∃ field, rest = encodeField field ++ tail ∧ admitField w field = some next := by
  constructor
  · intro read
    simp only [Scanner.round,bind_eq_ok,Prod.exists] at read
    obtain ⟨number,wireType,tagSize,tag,outer,admits,valueSize,sized,next',kept,done⟩ := read
    obtain ⟨after,rfl,rfl⟩ := strict.tag_sound _ _ _ _ tag
    have allowed := (strict.outer_iff _ _ _ _).mp admits
    rw [drop_length_append] at sized done
    obtain ⟨value,tail',rfl,version,rfl,rfl⟩ := strict.value_sound _ _ _ _ allowed.1 sized
    rw [drop_length_append] at done
    obtain ⟨rfl,rfl⟩ := Prod.mk.inj (pure_eq_ok.mp done)
    refine ⟨⟨number,value⟩,by rw [encodeField,List.append_assoc],?_⟩
    refine (keep_eq_ok strict ⟨number,value⟩ allowed version ?_).mp kept
    simp only [List.length_append] at short ⊢
    omega
  · rintro ⟨field,rfl,admitted⟩
    obtain ⟨outer,allowed,version,-⟩ := admitField_eq_some.mp admitted
    rw [encodeField,List.append_assoc] at short ⊢
    have fits : (encodeValue field.value ++ tail).length ≤ maxProductionRawBytes := by
      simp only [List.length_append] at short ⊢
      omega
    simp only [Scanner.round,bind_eq_ok,Prod.exists]
    refine ⟨_,_,_,strict.tag_complete _ _ _ allowed.1,outer,(strict.outer_iff _ _ _ _).mpr allowed,_,?_,next,
      (keep_eq_ok strict field allowed version fits).mpr admitted,?_⟩
    · rw [drop_length_append]
      exact strict.value_complete _ _ _ allowed.1 version fits
    · rw [drop_length_append,drop_length_append]
      rfl

private theorem encodeField_ne_nil (field : Field) (tail : Bytes) : encodeField field ++ tail ≠ [] := by
  intro empty
  have positive := encodeField_length_pos field
  have lengths := congrArg List.length empty
  simp only [List.length_append,List.length_nil] at lengths
  omega

private theorem nothing_to_read {last : Walk} :
    (Except.ok w : Except ε Walk) = .ok last ↔ ∃ fields, [] = encodeFields fields ∧ Runs.run admitField w fields = some last := by
  rw [Except.ok.injEq]
  constructor
  · rintro rfl; exact ⟨[],rfl,rfl⟩
  · rintro ⟨fields,none,ran⟩
    cases fields with
    | nil => exact Option.some.inj ran
    | cons field fields => exact absurd none.symm (encodeField_ne_nil field _)

/-- The walk accepts exactly the encodings of sequences of fields that are admitted one by one. -/
theorem walk_eq_ok (strict : scanner.Strict) {fuel : Nat} {rest : Bytes} {last : Walk} (enough : rest.length ≤ fuel)
    (short : rest.length ≤ maxProductionRawBytes) :
    scanner.walk fuel rest w = .ok last ↔ ∃ fields, rest = encodeFields fields ∧ Runs.run admitField w fields = some last := by
  induction fuel generalizing rest w with
  | zero =>
    obtain rfl : rest = [] := List.eq_nil_of_length_eq_zero (by omega)
    exact nothing_to_read
  | succ fuel ih =>
    cases rest with
    | nil => exact nothing_to_read
    | cons byte bytes =>
      simp only [Scanner.walk,bind_eq_ok,Prod.exists]
      constructor
      · rintro ⟨after,next,read,later⟩
        obtain ⟨field,whole,admitted⟩ := (round_eq_ok strict short).mp read
        have positive := encodeField_length_pos field
        have lengths := congrArg List.length whole
        simp only [List.length_append] at lengths enough short
        obtain ⟨fields,rfl,ran⟩ := (ih (by omega) (by omega)).mp later
        exact ⟨field :: fields,whole,Runs.run_cons_eq_some.mpr ⟨next,admitted,ran⟩⟩
      · rintro ⟨fields,whole,ran⟩
        cases fields with
        | nil => cases whole
        | cons field fields =>
          obtain ⟨next,admitted,ran⟩ := Runs.run_cons_eq_some.mp ran
          have positive := encodeField_length_pos field
          have lengths := congrArg List.length whole
          simp only [encodeFields_cons,List.length_append] at lengths enough short
          exact ⟨encodeFields fields,next,(round_eq_ok strict (by simpa using short)).mpr ⟨field,whole,admitted⟩,
            (ih (by omega) (by omega)).mpr ⟨fields,rfl,ran⟩⟩

end

/-! ### The three scanners are strict -/

theorem known_small (known : busPacketWireType number = some wireType) :
    1 ≤ number ∧ number ≤ 22 ∧ (number = 4 ∧ wireType = 0 ∨ number ≠ 4 ∧ wireType = 2) := by
  unfold busPacketWireType at known
  split at known <;> simp at known <;> omega

theorem readVarint_eq_ok :
    readVarint raw = .ok (v,size) ↔ ∃ rest, raw = encodeVarint v ++ rest ∧ size = (encodeVarint v).length ∧ size ≤ 10 := by
  constructor
  · intro read
    unfold readVarint at read
    split at read
    · cases read
    · next value count shifted =>
      split at read
      · next shortest =>
        cases read
        obtain ⟨few,inside⟩ := readShifted_count shifted
        refine ⟨raw.drop size,by rw [shortest,List.take_append_drop],?_,by omega⟩
        rw [shortest,List.length_take]
        omega
      · cases read
  · rintro ⟨rest,rfl,rfl,few⟩
    have shifted := readShifted_encodeVarint 10 0 0 v rest (by simp) few
    simp [readVarint,shifted]

theorem encodeVarint_length_le_ten (small : v < 128 ^ 10) : (encodeVarint v).length ≤ 10 :=
  encodeVarint_length_le (k := 9) small

theorem readVarint_encodeVarint (rest : Bytes) (small : v < 128 ^ 10) :
    readVarint (encodeVarint v ++ rest) = .ok (v,(encodeVarint v).length) :=
  readVarint_eq_ok.mpr ⟨rest,rfl,rfl,encodeVarint_length_le_ten small⟩

private theorem readTag_sound (read : readTag raw = .ok (number,wireType,size)) :
    ∃ rest, raw = encodeTag number wireType ++ rest ∧ size = (encodeTag number wireType).length := by
  simp only [readTag,bind_eq_ok,Prod.exists,pure_eq_ok,Prod.mk.injEq] at read
  obtain ⟨tag,count,varint,rfl,rfl,rfl⟩ := read
  obtain ⟨rest,rfl,length,-⟩ := readVarint_eq_ok.mp varint
  have whole : tag / 8 * 8 + tag % 8 = tag := by omega
  exact ⟨rest,by rw [encodeTag,whole],by rw [encodeTag,whole,length]⟩

private theorem readTag_complete (rest : Bytes) (known : busPacketWireType number = some wireType) :
    readTag (encodeTag number wireType ++ rest) = .ok (number,wireType,(encodeTag number wireType).length) := by
  obtain ⟨positive,small,type⟩ := known_small known
  have read := readVarint_encodeVarint (v := number * 8 + wireType) rest (by norm_num; omega)
  simp only [readTag,encodeTag,read,bind,Except.bind,pure,Except.pure]
  have quotient : (number * 8 + wireType) / 8 = number := by omega
  have remainder : (number * 8 + wireType) % 8 = wireType := by omega
  rw [quotient,remainder]

private theorem readValue_sound (known : busPacketWireType number = some wireType)
    (read : readValue number wireType raw = .ok size) : ∃ value rest, value.wireType = wireType ∧
      (number = 4 → value = .varint 1) ∧ raw = encodeValue value ++ rest ∧ size = (encodeValue value).length := by
  obtain ⟨-,-,⟨rfl,rfl⟩ | ⟨other,rfl⟩⟩ := known_small known
  · simp only [readValue,if_true,bind_eq_ok,Prod.exists] at read
    obtain ⟨version,count,varint,checked⟩ := read
    obtain ⟨rest,rfl,length,-⟩ := readVarint_eq_ok.mp varint
    split at checked
    · cases checked
    · next same =>
      simp only [ne_eq,not_or,not_not] at same
      obtain ⟨rfl,-⟩ := same
      exact ⟨.varint 1,rest,rfl,fun _ => rfl,rfl,by rw [← pure_eq_ok.mp checked,length]; rfl⟩
  · simp only [readValue,other,if_false,skipValue,bind_eq_ok,Prod.exists] at read
    obtain ⟨length,count,varint,bounded⟩ := read
    obtain ⟨rest,rfl,size',-⟩ := readVarint_eq_ok.mp varint
    split at bounded
    · cases bounded
    · next inside =>
      simp only [List.length_append] at inside
      have exact' : (rest.take length).length = length := by rw [List.length_take]; omega
      refine ⟨.bytes (rest.take length),rest.drop length,rfl,fun four => absurd four other,?_,?_⟩
      · simp only [encodeValue,exact',List.append_assoc,List.take_append_drop]
      · rw [← Except.ok.inj bounded]
        simp only [encodeValue,List.length_append,exact',size']

private theorem readValue_complete {value : Value}
    (known : busPacketWireType number = some value.wireType) (version : number = 4 → value = .varint 1)
    (short : (encodeValue value ++ rest).length ≤ maxProductionRawBytes) :
    readValue number value.wireType (encodeValue value ++ rest) = .ok (encodeValue value).length := by
  obtain ⟨-,-,⟨four,-⟩ | ⟨other,type⟩⟩ := known_small known
  · subst four
    rw [version rfl]
    rfl
  · cases value with
    | bytes data =>
      have small : data.length < 128 ^ 10 := by
        simp only [encodeValue,List.length_append,maxProductionRawBytes] at short
        omega
      simp only [readValue,other,if_false,Value.wireType,skipValue,encodeValue,List.append_assoc,
        readVarint_encodeVarint _ small,bind,Except.bind]
      rw [if_neg (by simp only [List.length_append]; omega),List.length_append]
    | _ => simp [Value.wireType] at type

private theorem readSignature_length {data : Bytes}
    (short : (encodeValue (.bytes data) ++ rest).length ≤ maxProductionRawBytes) :
    readVarint (encodeVarint data.length ++ (data ++ rest)) = .ok (data.length,(encodeVarint data.length).length) := by
  apply readVarint_encodeVarint
  simp only [encodeValue,List.length_append,maxProductionRawBytes] at short
  omega

private theorem validateBusPacketField_eq_ok (outer : Outer) (number wireType : Nat) (next : Outer) :
    validateBusPacketField outer number wireType = .ok next ↔ Admits outer number wireType next := by
  unfold validateBusPacketField
  exact validateOuterField_eq_ok

theorem nodeScanner_strict : nodeScanner.Strict where
  tag_sound _ _ _ _ := readTag_sound
  tag_complete _ _ _ := readTag_complete _
  outer_iff := validateBusPacketField_eq_ok
  value_sound _ _ _ _ := readValue_sound
  value_complete _ _ _ := readValue_complete
  signature_iff data rest signature short := by
    simp only [nodeScanner,nodeSignature,encodeValue,List.append_assoc,readSignature_length short,bind,Except.bind,
      pure,Except.pure]
    by_cases empty : data = []
    · simp [empty]
    · simp [empty,eq_comm]

theorem pythonScanner_strict : pythonScanner.Strict where
  tag_sound _ _ _ _ := readTag_sound
  tag_complete _ _ _ := readTag_complete _
  outer_iff := validateBusPacketField_eq_ok
  value_sound _ _ _ _ := readValue_sound
  value_complete _ _ _ := readValue_complete
  signature_iff data rest signature short := by
    simp only [pythonScanner,pythonSignature,encodeValue,List.append_assoc,readSignature_length short,bind,Except.bind,
      pure,Except.pure]
    by_cases empty : data = []
    · simp [empty]
    · simp [empty,eq_comm]

theorem consume_canonical :
    pw.consumeVarint raw = some (v,size) ∧ canonicalVarint pw raw size = true ↔
      ∃ rest, raw = encodeVarint v ++ rest ∧ size = (encodeVarint v).length ∧ v < 2 ^ 64 := by
  constructor
  · rintro ⟨consumed,canonical⟩
    simp only [canonicalVarint,Bool.and_eq_true,Bool.not_eq_true',Bool.or_eq_false_iff,
      beq_iff_eq] at canonical
    obtain ⟨⟨-,inside⟩,shortest⟩ := canonical
    -- the value of the second read, zero when it fails
    generalize again : ((pw.consumeVarint (raw.take size)).map Prod.fst).getD 0 = u at shortest
    have small : u < 2 ^ 64 := by
      cases second : pw.consumeVarint (raw.take size) with
      | none => simp [second] at again; omega
      | some read =>
        have := (pw.consume_bounded _ read.1 read.2 second).1
        simp [second] at again
        omega
    have whole : raw = encodeVarint u ++ raw.drop size := by rw [shortest,List.take_append_drop]
    have first := pw.consume_encoded u (raw.drop size) small
    rw [← whole,consumed] at first
    cases first
    exact ⟨_,whole,rfl,small⟩
  · rintro ⟨rest,rfl,rfl,small⟩
    have taken : (encodeVarint v ++ rest).take (encodeVarint v).length = encodeVarint v := by simp
    have again := pw.consume_encoded v [] small
    rw [List.append_nil] at again
    have positive := encodeVarint_length_pos v
    refine ⟨pw.consume_encoded v rest small,?_⟩
    simp only [canonicalVarint,taken,again,Option.map_some,Option.getD_some,beq_self_eq_true,Bool.and_true,
      List.length_append,Bool.not_eq_true',Bool.or_eq_false_iff,decide_eq_false_iff_not]
    omega

private theorem consumeCanonicalTag_sound
    (read : consumeCanonicalTag pw raw = .ok (number,wireType,size)) :
    ∃ rest, raw = encodeTag number wireType ++ rest ∧ size = (encodeTag number wireType).length := by
  unfold consumeCanonicalTag at read
  split at read
  · cases read
  · next tag =>
    split at read
    · next canonical =>
      cases read
      unfold Protowire.consumeTag at tag
      split at tag
      · cases tag
      · next v count consumed =>
        split at tag
        · cases tag
        · cases tag
          have inside := (pw.consume_bounded raw v size consumed).2
          refine ⟨raw.drop size,by rw [canonical,List.take_append_drop],?_⟩
          rw [canonical,List.length_take]
          omega
    · cases read

private theorem consumeCanonicalTag_complete (rest : Bytes)
    (known : busPacketWireType number = some wireType) :
    consumeCanonicalTag pw (encodeTag number wireType ++ rest) =
      .ok (number,wireType,(encodeTag number wireType).length) := by
  obtain ⟨positive,small,type⟩ := known_small known
  have read := pw.consume_encoded (number * 8 + wireType) rest (by omega)
  have quotient : (number * 8 + wireType) / 8 = number := by omega
  have remainder : (number * 8 + wireType) % 8 = wireType := by omega
  have tag : pw.consumeTag (encodeTag number wireType ++ rest) =
      some (number,wireType,(encodeTag number wireType).length) := by
    simp only [Protowire.consumeTag,encodeTag,read,quotient,remainder]
    rw [if_neg (by simp; omega)]
  have taken : (encodeTag number wireType ++ rest).take (encodeTag number wireType).length =
      encodeTag number wireType := by simp
  simp only [consumeCanonicalTag,tag,taken,if_true]

private theorem consumeCanonicalFieldValue_sound
    (known : busPacketWireType number = some wireType)
    (read : consumeCanonicalFieldValue pw number wireType raw = .ok size) : ∃ value rest, value.wireType = wireType ∧
      (number = 4 → value = .varint 1) ∧ raw = encodeValue value ++ rest ∧ size = (encodeValue value).length := by
  obtain ⟨-,-,⟨rfl,rfl⟩ | ⟨other,rfl⟩⟩ := known_small known
  · simp only [consumeCanonicalFieldValue] at read
    split at read
    · cases read
    · next value count consumed =>
      split at read
      · next accepted =>
        cases read
        simp only [Bool.and_eq_true,bne_self_eq_false,Bool.false_or,beq_iff_eq] at accepted
        obtain ⟨canonical,rfl⟩ := accepted
        obtain ⟨rest,whole,length,-⟩ := (consume_canonical pw).mp ⟨consumed,canonical⟩
        exact ⟨.varint 1,rest,rfl,fun _ => rfl,whole,length⟩
      · cases read
  · simp only [consumeCanonicalFieldValue] at read
    split at read
    · cases read
    · next length count consumed =>
      split at read
      · cases read
      · next accepted =>
        cases read
        simp only [Bool.or_eq_true,Bool.not_eq_true',decide_eq_true_eq,not_or,Bool.not_eq_false,not_lt] at accepted
        obtain ⟨canonical,inside⟩ := accepted
        obtain ⟨rest,rfl,rfl,-⟩ := (consume_canonical pw).mp ⟨consumed,canonical⟩
        simp only [List.length_append] at inside
        have exact' : (rest.take length).length = length := by rw [List.length_take]; omega
        refine ⟨.bytes (rest.take length),rest.drop length,rfl,fun four => absurd four other,?_,?_⟩
        · simp only [encodeValue,exact',List.append_assoc,List.take_append_drop]
        · simp only [encodeValue,List.length_append,exact']

private theorem consumeCanonicalFieldValue_complete {value : Value}
    (known : busPacketWireType number = some value.wireType) (version : number = 4 → value = .varint 1)
    (short : (encodeValue value ++ rest).length ≤ maxProductionRawBytes) :
    consumeCanonicalFieldValue pw number value.wireType (encodeValue value ++ rest) = .ok (encodeValue value).length := by
  obtain ⟨-,-,⟨four,-⟩ | ⟨other,type⟩⟩ := known_small known
  · subst four
    rw [version rfl]
    obtain ⟨consumed,canonical⟩ := (consume_canonical pw).mpr ⟨rest,rfl,rfl,(by decide : 1 < 2 ^ 64)⟩
    simp only [consumeCanonicalFieldValue,Value.wireType,encodeValue,consumed,canonical,Bool.true_and,bne_self_eq_false,
      Bool.false_or,beq_self_eq_true,if_true]
  · cases value with
    | bytes data =>
      have small : data.length < 2 ^ 64 := by
        simp only [encodeValue,List.length_append,maxProductionRawBytes] at short
        omega
      obtain ⟨consumed,canonical⟩ := (consume_canonical pw).mpr ⟨data ++ rest,rfl,rfl,small⟩
      simp only [consumeCanonicalFieldValue,Value.wireType,encodeValue,List.append_assoc,consumed,canonical,
        Bool.not_true,Bool.false_or,decide_eq_true_eq]
      rw [if_neg (by simp only [List.length_append]; omega),List.length_append]
    | _ => simp [Value.wireType] at type

private theorem goSignature_eq_ok {data : Bytes}
    (short : (encodeValue (.bytes data) ++ rest).length ≤ maxProductionRawBytes) :
    goSignature pw (encodeValue (.bytes data) ++ rest) (encodeValue (.bytes data)).length = .ok signature ↔
      signature = data ∧ data ≠ [] := by
  have small : data.length < 2 ^ 64 := by
    simp only [encodeValue,List.length_append,maxProductionRawBytes] at short
    omega
  have read : pw.consumeBytes (encodeValue (.bytes data)) = some (data,(encodeValue (.bytes data)).length) := by
    simp only [Protowire.consumeBytes,encodeValue,pw.consume_encoded data.length data small,drop_length_append,
      gt_iff_lt,lt_irrefl,if_false,List.take_length,List.length_append]
  simp only [goSignature,List.take_left,read,ne_eq,not_true_eq_false,false_or]
  by_cases empty : data = []
  · simp [empty]
  · simp [empty,eq_comm]

theorem goScanner_strict : (goScanner pw).Strict where
  tag_sound _ _ _ _ := consumeCanonicalTag_sound pw
  tag_complete _ _ _ := consumeCanonicalTag_complete pw _
  outer_iff _ _ _ _ := by
    simp only [goScanner]
    exact validateOuterField_eq_ok
  value_sound _ _ _ _ := consumeCanonicalFieldValue_sound pw
  value_complete _ _ _ := consumeCanonicalFieldValue_complete pw
  signature_iff _ _ _ := goSignature_eq_ok pw

/-! ### What the three extractions accept -/

/-- The packet is within the size limit and its fields are admitted one by one, up to `last`. -/
def Reads (raw : Bytes) (last : Walk) : Prop :=
  raw.length ≤ maxProductionRawBytes ∧ ∃ fields, raw = encodeFields fields ∧ Runs.run admitField .start fields = some last

private theorem admitted_sized (admitted : admitField w field = some next) :
    field.value.Sized := by
  obtain ⟨outer,⟨known,-⟩,-⟩ := admitField_eq_some.mp admitted
  obtain ⟨-,-,type⟩ := known_small known
  cases value : field.value with
  | varint n | bytes data => trivial
  | _ => simp [value,Value.wireType] at type

theorem run_sized (ran : Runs.run admitField w fields = some last) :
    ∀ field ∈ fields, field.value.Sized := by
  induction fields generalizing w with
  | nil => intro field member; cases member
  | cons field fields ih =>
    obtain ⟨next,admitted,ran⟩ := Runs.run_cons_eq_some.mp ran
    intro other member
    rcases List.mem_cons.mp member with rfl | later
    · exact admitted_sized admitted
    · exact ih ran other later

theorem Reads.unique {a b : Walk} (left : Reads raw a) (right : Reads raw b) : a = b := by
  obtain ⟨-,fs,rfl,ranF⟩ := left
  obtain ⟨-,gs,same,ranG⟩ := right
  rw [encodeFields_inj (run_sized ranF) (run_sized ranG) same,ranG] at ranF
  exact (Option.some.inj ranF).symm

theorem extractSignatureField_eq_ok {unsigned : Bytes} :
    extractSignatureField pw raw = .ok (unsigned,signature) ↔
      ∃ last, Reads raw last ∧ last.unsigned = unsigned ∧ last.signature = some signature := by
  unfold extractSignatureField Reads
  by_cases short : raw.length ≤ maxProductionRawBytes
  · rw [if_neg (Nat.not_lt.mpr short),bind_eq_ok]
    apply exists_congr
    intro last
    rw [walk_eq_ok (goScanner_strict pw) le_rfl short]
    cases last.signature <;> simp [short]
  · simp [Nat.not_le.mp short]

theorem extractVersioned_eq_ok {scanner : Scanner String} (strict : scanner.Strict) {unsigned : Bytes} :
    extractVersioned scanner raw = .ok (unsigned,signature) ↔
      ∃ last, Reads raw last ∧ 4 ∈ last.outer.seen ∧ last.unsigned = unsigned ∧ last.signature = some signature := by
  unfold extractVersioned Reads
  by_cases short : raw.length ≤ maxProductionRawBytes
  · rw [if_neg (Nat.not_lt.mpr short),bind_eq_ok]
    apply exists_congr
    intro last
    rw [walk_eq_ok strict le_rfl short]
    by_cases version : 4 ∈ last.outer.seen
    · cases last.signature <;> simp [short,version]
    · simp [version]
  · simp [Nat.not_le.mp short]

private theorem admitField_seen (admitted : admitField w field = some next) (number : Nat) :
    number ∈ next.outer.seen ↔ field.number = number ∨ number ∈ w.outer.seen := by
  obtain ⟨outer,⟨-,-,-,rfl⟩,-,⟨-,data,-,-,rfl⟩ | ⟨-,rfl⟩⟩ := admitField_eq_some.mp admitted <;>
    simp [eq_comm]

private theorem admitField_signature (admitted : admitField w field = some next) :
    next.signature.isSome ↔ field.number = 14 ∨ w.signature.isSome := by
  obtain ⟨outer,-,-,⟨signed,data,-,-,rfl⟩ | ⟨other,rfl⟩⟩ := admitField_eq_some.mp admitted
  · simp [signed]
  · simp [other]

theorem run_seen (ran : Runs.run admitField w fields = some last) (number : Nat) :
    number ∈ last.outer.seen ↔ (∃ field ∈ fields, field.number = number) ∨ number ∈ w.outer.seen := by
  induction fields generalizing w with
  | nil => cases ran; simp
  | cons field fields ih =>
    obtain ⟨next,admitted,ran⟩ := Runs.run_cons_eq_some.mp ran
    rw [ih ran,admitField_seen admitted]
    simp only [List.mem_cons,exists_eq_or_imp]
    rw [or_left_comm,or_assoc]

theorem run_signature (ran : Runs.run admitField w fields = some last) :
    last.signature.isSome ↔ (∃ field ∈ fields, field.number = 14) ∨ w.signature.isSome := by
  induction fields generalizing w with
  | nil => cases ran; simp
  | cons field fields ih =>
    obtain ⟨next,admitted,ran⟩ := Runs.run_cons_eq_some.mp ran
    rw [ih ran,admitField_signature admitted]
    simp only [List.mem_cons,exists_eq_or_imp]
    rw [or_left_comm,or_assoc]

/-- The three extractions all refuse the packet, or all accept it with the same unsigned and
    signature bytes. -/
def Agree (raw : Bytes) : Prop :=
  (extractSignatureField pw raw).toOption = (extractProductionSignature raw).toOption ∧
    (extractProductionSignature raw).toOption = (extractSignature raw).toOption
deriving Decidable

/-- A signed packet within the size limit whose outer fields are all in order but carry no
    protocol version. -/
def Unversioned (raw : Bytes) : Prop :=
  raw.length ≤ maxProductionRawBytes ∧ ∃ fields, raw = encodeFields fields ∧
    (Runs.run admitField .start fields).isSome ∧ (∃ field ∈ fields, field.number = 14) ∧ ∀ field ∈ fields, field.number ≠ 4

private theorem toOption_eq_iff {α β ε δ : Type} {x : Except ε (α × β)} {y : Except δ (α × β)} :
    x.toOption = y.toOption ↔ ∀ a b, x = .ok (a,b) ↔ y = .ok (a,b) := by
  cases x with
  | error e =>
    cases y with
    | error e' => simp [Except.toOption]
    | ok q => simpa [Except.toOption] using ⟨q.1,q.2,rfl⟩
  | ok p =>
    cases y with
    | error e' => simpa [Except.toOption] using ⟨p.1,p.2,rfl⟩
    | ok q =>
      simp only [Except.toOption,Option.some.injEq,Except.ok.injEq]
      exact ⟨fun same _ _ => by rw [same],fun all => ((all p.1 p.2).mp rfl).symm⟩

theorem node_python_agree (raw : Bytes) : (extractProductionSignature raw).toOption = (extractSignature raw).toOption := by
  apply toOption_eq_iff.mpr
  intro unsigned signature
  unfold extractProductionSignature extractSignature
  rw [extractVersioned_eq_ok nodeScanner_strict,extractVersioned_eq_ok pythonScanner_strict]

/-- The three SDKs agree on every byte string except the signed packets without a protocol
    version: Go extracts their signature, Node and Python refuse them. -/
theorem extractions_agree_iff (raw : Bytes) : Agree pw raw ↔ ¬ Unversioned raw := by
  unfold Agree
  rw [and_iff_left (node_python_agree raw),toOption_eq_iff]
  simp only [extractProductionSignature,extractVersioned_eq_ok nodeScanner_strict,extractSignatureField_eq_ok]
  constructor
  · rintro same ⟨short,fields,rfl,accepted,signed,versionless⟩
    obtain ⟨last,ran⟩ := Option.isSome_iff_exists.mp accepted
    obtain ⟨signature,found⟩ := Option.isSome_iff_exists.mp ((run_signature ran).mpr (.inl signed))
    have reads : Reads (encodeFields fields) last := ⟨short,fields,rfl,ran⟩
    obtain ⟨other,reads',version,-⟩ := (same last.unsigned signature).mp ⟨last,reads,rfl,found⟩
    rw [reads'.unique reads,run_seen ran] at version
    rcases version with ⟨field,member,four⟩ | initial
    · exact versionless field member four
    · cases initial
  · intro versioned unsigned signature
    apply exists_congr
    intro last
    refine ⟨fun ⟨reads,kept,found⟩ => ⟨reads,?_,kept,found⟩,fun ⟨reads,_,kept,found⟩ => ⟨reads,kept,found⟩⟩
    obtain ⟨short,fields,whole,ran⟩ := reads
    by_contra missing
    have signed := (run_signature ran).mp (by rw [found]; rfl)
    refine versioned ⟨short,fields,whole,Option.isSome_iff_exists.mpr ⟨last,ran⟩,?_,fun field member four => missing ?_⟩
    · rcases signed with signed | initial
      · exact signed
      · cases initial
    · exact (run_seen ran 4).mpr (.inl ⟨field,member,four⟩)

/-- The reader of the Go protobuf runtime: at most ten bytes, values of 64 bits. -/
def protowire : Protowire where
  consumeVarint raw := match readShifted 10 0 0 raw with
    | none => none
    | some (v,size) => if v < 2 ^ 64 then some (v,size) else none
  consume_encoded v rest small := by
    have few : (encodeVarint v).length ≤ 10 := encodeVarint_length_le_ten (by omega)
    have shifted := readShifted_encodeVarint 10 0 0 v rest (by simp) few
    simp only [Nat.zero_mul,pow_zero,Nat.mul_one,Nat.zero_add] at shifted
    simp only [shifted,small,if_true]
  consume_bounded raw v size read := by
    split at read
    · cases read
    · next value count shifted =>
      split at read
      · next small =>
        cases read
        exact ⟨small,by simpa using (readShifted_count shifted).2⟩
      · cases read

/-- A trace id and a signature, and no protocol version. -/
def unversionedPacket : Bytes := [0x0a,1,0x74,0x72,1,1]

theorem unversioned_packet_disagrees : ¬ Agree protowire unversionedPacket := by decide

/-- The same packet with the protocol version is read alike. -/
theorem versioned_packet_agrees : Agree protowire ([0x20,1] ++ unversionedPacket) ∧
    ¬ Unversioned ([0x20,1] ++ unversionedPacket) :=
  ⟨by decide,(extractions_agree_iff protowire _).mp (by decide)⟩

end Cap.ProductionWire
