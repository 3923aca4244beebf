import Cap.Unmarshal

/-!
Decoding gives back what was encoded. A message of a schema without unknown fields is read
field by field, in the order in which it was written; only lists of numbers that were packed
come back one number at a time.
-/
namespace Cap.Proto
open Cap.Text Cap.Varint Cap.Wire

/-! ### Reading an encoded field -/

private theorem readShifted_encoded {n : Nat} (rest : Bytes) (fits : n < 128 ^ 10) :
    readShifted 10 0 0 (encodeVarint n ++ rest) = some (n,(encodeVarint n).length) := by
  simpa using readShifted_encodeVarint 10 0 0 n rest (by simp) (encodeVarint_length_le (k := 9) fits)

/-- A value that the wire can hold: a varint of 64 bits, a width that is right, a length of 63 bits. -/
def Readable : Value → Prop
  | .varint n => n < 2 ^ 64
  | .fixed64 data => data.length = 8
  | .bytes data => data.length < 2 ^ 63
  | .fixed32 data => data.length = 4

theorem readValue_encodeValue {value : Value} (fits : Readable value) (rest : Bytes) :
    readValue value.wireType (encodeValue value ++ rest) = some (value,(encodeValue value).length) := by
  cases value with
  | varint n =>
    have small : n < 128 ^ 10 := lt_trans (b := 2 ^ 64) fits (by norm_num)
    simp [Value.wireType,readValue,encodeValue,readShifted_encoded rest small]
  | fixed64 data =>
    have width : data.length = 8 := fits
    have front : (data ++ rest).take 8 = data := by rw [← width,List.take_left]
    simp [Value.wireType,readValue,encodeValue,width]
  | bytes data =>
    have small : data.length < 128 ^ 10 := lt_trans (b := 2 ^ 63) fits (by norm_num)
    simp only [Value.wireType,readValue,encodeValue,List.append_assoc,readShifted_encoded _ small]
    simp
  | fixed32 data =>
    have width : data.length = 4 := fits
    have front : (data ++ rest).take 4 = data := by rw [← width,List.take_left]
    simp [Value.wireType,readValue,encodeValue,width]

theorem readTag_encodeField (field : Field) (rest : Bytes) (range : 1 ≤ field.number ∧ field.number < 2 ^ 29) :
    readTag (encodeField field ++ rest) =
      some (field.number,field.value.wireType,(encodeTag field.number field.value.wireType).length) := by
  have type := wireType_lt field.value
  have small : field.number * 8 + field.value.wireType < 128 ^ 10 := by norm_num; omega
  rw [encodeField,List.append_assoc,readTag_eq_some]
  exact ⟨readShifted_encoded _ small,type,range⟩

theorem drop_encodeTag (field : Field) (rest : Bytes) :
    (encodeField field ++ rest).drop (encodeTag field.number field.value.wireType).length =
      encodeValue field.value ++ rest := by
  simp [encodeField]

namespace Msg

def precede (bytes : Bytes) : Msg → Msg
  | .done unknown => .done (bytes ++ unknown)
  | .field number value rest => .field number value (rest.precede bytes)

def append : Msg → Msg → Msg
  | .done unknown,m => m.precede unknown
  | .field number value rest,m => .field number value (rest.append m)

def several (number : Nat) (values : List Val) (rest : Msg) : Msg := values.foldr (.field number) rest

@[simp] theorem several_nil (number : Nat) (rest : Msg) : several number [] rest = rest := rfl
@[simp] theorem several_cons (number : Nat) (value : Val) (values : List Val) (rest : Msg) :
    several number (value :: values) rest = .field number value (several number values rest) := rfl

@[simp] theorem precede_nil (m : Msg) : m.precede [] = m := by
  induction m with
  | done unknown => rfl
  | field number value rest ih => rw [precede,ih]

theorem precede_precede (a b : Bytes) (m : Msg) : (m.precede b).precede a = m.precede (a ++ b) := by
  induction m with
  | done unknown => simp [precede]
  | field number value rest ih => rw [precede,precede,precede,ih]

theorem precede_append (bytes : Bytes) (a b : Msg) : (a.precede bytes).append b = (a.append b).precede bytes := by
  induction a with
  | done unknown => rw [precede,append,append,precede_precede]
  | field number value rest ih => rw [precede,append,append,precede,ih]

theorem append_assoc (a b c : Msg) : (a.append b).append c = a.append (b.append c) := by
  induction a with
  | done unknown => exact precede_append unknown b c
  | field number value rest ih => rw [append,append,append,ih]

@[simp] theorem nil_append (m : Msg) : (Msg.done []).append m = m := precede_nil m

@[simp] theorem append_nil (m : Msg) : m.append (.done []) = m := by
  induction m with
  | done unknown => simp [append,precede]
  | field number value rest ih => rw [append,ih]

theorem several_append (number : Nat) (values : List Val) (a b : Msg) :
    (several number values a).append b = several number values (a.append b) := by
  induction values with
  | nil => rfl
  | cons value values ih => simp [append,ih]

theorem precede_several (number : Nat) (values : List Val) (bytes : Bytes) (m : Msg) :
    (several number values m).precede bytes = several number values (m.precede bytes) := by
  induction values with
  | nil => rfl
  | cons value values ih => simp [precede,ih]

theorem append_several (number : Nat) (values : List Val) (m rest : Msg) :
    (m.append (several number values (.done []))).append rest = m.append (several number values rest) := by
  rw [append_assoc,several_append,nil_append]

theorem addUnknown_eq (bytes : Bytes) (m : Msg) : m.addUnknown bytes = m.append (.done bytes) := by
  induction m with
  | done unknown => rfl
  | field number value rest ih => rw [addUnknown,append,ih]

theorem add_eq (number : Nat) (value : Val) (m : Msg) :
    m.add number value = m.append (.field number value (.done [])) := by
  induction m with
  | done unknown => simp [add,append,precede]
  | field other first rest ih => rw [add,append,ih]

theorem addAll_eq (number : Nat) (values : List Val) (m : Msg) :
    m.addAll number values = m.append (several number values (.done [])) := by
  induction values generalizing m with
  | nil => exact (append_nil m).symm
  | cons value values ih =>
    have first : m.addAll number (value :: values) = (m.add number value).addAll number values := rfl
    rw [first,add_eq,ih,append_assoc,append,nil_append]
    rfl

variable {number : Nat}

theorem setScalar_eq {value : Val} {m : Msg} (absent : number ∉ m.numbers) :
    m.setScalar number value = m.append (.field number value (.done [])) := by
  induction m with
  | done unknown => simp [setScalar,append,precede]
  | field other old rest ih =>
    simp only [numbers,List.mem_cons,not_or] at absent
    have later := ih absent.2
    cases old <;> simp [setScalar,append,later,Ne.symm absent.1]

theorem inner?_of_not_mem {m : Msg} (absent : number ∉ m.numbers) : m.inner? number = none := by
  induction m with
  | done unknown => rfl
  | field other old rest ih =>
    simp only [numbers,List.mem_cons,not_or] at absent
    have later := ih absent.2
    cases old <;> simp [inner?,later,Ne.symm absent.1]

theorem setInner_eq {value m : Msg} (absent : number ∉ m.numbers) :
    setInner number value m = m.append (.field number (.message value) (.done [])) := by
  induction m with
  | done unknown => simp [setInner,append,precede]
  | field other old rest ih =>
    simp only [numbers,List.mem_cons,not_or] at absent
    have later := ih absent.2
    cases old <;> simp [setInner,append,later,Ne.symm absent.1]

@[simp] theorem numbers_precede (bytes : Bytes) (m : Msg) : (m.precede bytes).numbers = m.numbers := by
  induction m with
  | done unknown => rfl
  | field number value rest ih => rw [precede,numbers,numbers,ih]

theorem numbers_append (a b : Msg) : (a.append b).numbers = a.numbers ++ b.numbers := by
  induction a with
  | done unknown => exact numbers_precede unknown b
  | field number value rest ih => simp [append,numbers,ih]

theorem clear_precede (number : Nat) (bytes : Bytes) (m : Msg) : (m.precede bytes).clear number = (m.clear number).precede bytes := by
  induction m with
  | done unknown => rfl
  | field other value rest ih => by_cases same : other = number <;> simp [precede,clear,same,ih]

theorem clear_append (number : Nat) (a b : Msg) : (a.append b).clear number = (a.clear number).append (b.clear number) := by
  induction a with
  | done unknown => exact clear_precede number unknown b
  | field other value rest ih => by_cases same : other = number <;> simp [append,clear,same,ih]

theorem mem_numbers_several {other : Nat} {values : List Val} :
    other ∈ (several number values (.done [])).numbers → other = number := by
  induction values with
  | nil => simp [numbers]
  | cons value values ih =>
    simp only [several_cons,numbers,List.mem_cons]
    rintro (rfl | later)
    · rfl
    · exact ih later

end Msg

private theorem fromUTF8?_utf8 (s : String) : String.fromUTF8? ⟨(utf8 s).toArray⟩ = some s := by
  unfold String.fromUTF8?
  have whole : (⟨(utf8 s).toArray⟩ : ByteArray) = s.toUTF8 := by simp [utf8]
  rw [whole,String.toUTF8_eq_toByteArray,dif_pos s.isValidUTF8]
  rfl

variable {type : Scalar}

theorem Scalar.narrow_held {n : Nat} (held : type.holds (.varint n) = true) :
    type.narrow n = n ∧ n < 2 ^ 64 := by
  cases type <;> simp [Scalar.holds] at held <;> simp only [Scalar.narrow]
  all_goals first | omega | (split <;> omega) | exact ⟨trivial,held⟩

variable {v : Val}

theorem Scalar.decode_held (held : type.holds v = true) : type.decode v.wire = some v := by
  cases v with
  | varint n =>
    obtain ⟨same,small⟩ := Scalar.narrow_held held
    rw [Val.wire,Scalar.decode,if_pos small,same]
  | text s =>
    have string : type = .string := by cases type <;> simp [Scalar.holds] at held ⊢
    simp [Val.wire,Scalar.decode,string,fromUTF8?_utf8]
  | bytes data =>
    have bytes : type ≠ .string := by cases type <;> simp [Scalar.holds] at held ⊢
    simp [Val.wire,Scalar.decode,bytes]
  | fixed64 data | fixed32 data => rfl
  | packed ns | message m => cases type <;> simp [Scalar.holds] at held

theorem Scalar.wireType_held (held : type.holds v = true) :
    v.wire.wireType = type.wireType := by
  cases v <;> cases type <;> simp [Scalar.holds] at held <;> rfl

theorem Scalar.sized_held (held : type.holds v = true) : v.wire.Sized := by
  cases v with
  | fixed64 data =>
    cases type <;> simp [Scalar.holds] at held <;> exact held
  | fixed32 data =>
    cases type <;> simp [Scalar.holds] at held <;> exact held
  | _ => trivial

theorem Scalar.readable_held (held : type.holds v = true)
    (short : (encodeValue v.wire).length < 2 ^ 63) : Readable v.wire := by
  cases v with
  | varint n => exact (Scalar.narrow_held held).2
  | fixed64 data | fixed32 data => exact Scalar.sized_held held
  | _ =>
    simp only [Val.wire,encodeValue,List.length_append] at short
    show _ < _
    omega

variable {fuel : Nat}

theorem unpack_flatMap (number : type.wireType = 0) {ns : List Nat}
    (held : ∀ n ∈ ns, type.holds (.varint n) = true) (enough : (ns.flatMap encodeVarint).length ≤ fuel) :
    unpack type fuel (ns.flatMap encodeVarint) = some (ns.map .varint) := by
  induction ns generalizing fuel with
  | nil => cases fuel <;> rfl
  | cons n rest ih =>
    obtain ⟨same,small⟩ := Scalar.narrow_held (held n (by simp))
    have positive := encodeVarint_length_pos n
    simp only [List.flatMap_cons,List.length_append] at enough ⊢
    obtain ⟨byte,bytes,front⟩ := List.exists_cons_of_length_pos positive
    have fits : Readable (.varint n) := small
    have read := readValue_encodeValue fits (rest.flatMap encodeVarint)
    obtain ⟨fuel,rfl⟩ : ∃ k, fuel = k + 1 := ⟨fuel - 1,by omega⟩
    have later : unpack type fuel (rest.flatMap encodeVarint) = some (rest.map .varint) :=
      ih (fun n member => held n (by simp [member])) (by omega)
    have dropped : (encodeVarint n ++ rest.flatMap encodeVarint).drop (encodeVarint n).length =
        rest.flatMap encodeVarint := List.drop_left
    simp only [Value.wireType,encodeValue] at read
    rw [front,List.cons_append] at read dropped ⊢
    rw [unpack,number,read]
    simp only [Option.bind_eq_bind,Option.bind_some,Scalar.decode,if_pos small,same,dropped]
    rw [later]
    rfl

mutual

/-- The message with every number of a packed list as a field of its own. -/
def Msg.unpacked : Msg → Msg
  | .done unknown => .done unknown
  | .field number value rest => .several number value.unpacked rest.unpacked

def Val.unpacked : Val → List Val
  | .packed ns => ns.map .varint
  | .message m => [.message m.unpacked]
  | value => [value]

end

theorem Msg.unpacked_append (a b : Msg) : (a.append b).unpacked = a.unpacked.append b.unpacked := by
  have precede : ∀ (bytes : Bytes) (m : Msg), (m.precede bytes).unpacked = m.unpacked.precede bytes := by
    intro bytes m
    induction m with
    | done unknown => rfl
    | field number value rest ih =>
      rw [Msg.precede,Msg.unpacked,ih,Msg.unpacked,Msg.precede_several]
  induction a with
  | done unknown => exact precede unknown b
  | field number value rest ih => rw [Msg.append,Msg.unpacked,ih,Msg.unpacked,Msg.several_append]

theorem Scalar.unpacked_held (held : type.holds v = true) : v.unpacked = [v] := by
  cases v with
  | packed ns | message m => cases type <;> simp [Scalar.holds] at held
  | _ => rfl

/-- The fields of every message type have different numbers, and numbers that a tag can hold. -/
structure Schema.Sound {σ : Type} (schema : Schema σ) : Prop where
  range : ∀ name number desc, schema.field name number = some desc → 1 ≤ number ∧ number < 2 ^ 29
  found : ∀ name, ∀ desc ∈ schema name, schema.field name desc.number = some desc

section
variable {σ : Type} {schema : Schema σ} {skip : Nat → Nat → Bytes → Option Nat}

variable {name : σ} {desc : FieldDesc σ}

theorem Schema.field_number (found : schema.field name number = some desc) : desc.number = number := by
  simpa using List.find?_some found

/-- A known field at the front is stored, and the rest is decoded into what comes of it. -/
theorem decodeInto_encodeField {m : Msg} {field : Field}
    (rest : Bytes) (range : 1 ≤ field.number ∧ field.number < 2 ^ 29) (found : schema.field name field.number = some desc)
    (reads : desc.reads field.value.wireType = true) (readable : Readable field.value) :
    decodeInto schema skip (fuel + 1) name m (encodeField field ++ rest) =
      (desc.store (fun inner m raw => decodeInto schema skip fuel inner m raw)
        (fun key kind raw => decodeEntry schema skip fuel key kind key.zero kind.zero raw)
        (m.clearAll (schema.rivals name desc)) field.value).bind fun next => decodeInto schema skip fuel name next rest := by
  obtain ⟨byte,bytes,front⟩ := List.exists_cons_of_length_pos
    (show 0 < (encodeField field ++ rest).length by have := encodeField_length_pos field; simp; omega)
  have tag := readTag_encodeField field rest range
  have after := drop_encodeTag field rest
  rw [front] at tag after ⊢
  rw [decodeInto,tag]
  simp only [Option.bind_eq_bind,Option.bind_some,found,Option.filter_some,reads,if_true,after,
    readValue_encodeValue readable,List.drop_left]

variable {kind : Kind σ}

theorem Val.readable_fits {value : Val} {label : Label} (fits : value.fits schema kind label = true)
    (short : (encodeValue value.wire).length < 2 ^ 63) : Readable value.wire := by
  cases value with
  | message m | packed ns =>
    simp only [Val.wire,encodeValue,List.length_append] at short
    show _ < _
    omega
  | _ =>
    cases label <;> cases kind <;> simp [Val.fits] at fits
    all_goals exact Scalar.readable_held fits short

theorem FieldDesc.reads_fits {value : Val} (fits : value.fits schema desc.kind desc.label = true) :
    desc.reads value.wire.wireType = true := by
  cases value with
  | message m | packed ns =>
    cases label : desc.label <;> cases kind : desc.kind
    all_goals simp_all [Val.fits,FieldDesc.reads,Val.wire,Value.wireType]
  | _ =>
    cases label : desc.label <;> cases kind : desc.kind <;> simp [Val.fits,label,kind] at fits
    all_goals simp [FieldDesc.reads,label,kind,Scalar.wireType_held fits]

theorem FieldDesc.store_held {decodeInto : σ → Msg → Bytes → Option Msg}
    {decodeEntry : Scalar → Kind σ → Bytes → Option (Val × Val)} {m : Msg}
    (held : type.holds v = true) (kind : desc.kind = .scalar type) (plain : ∀ key, desc.label ≠ .map key)
    (absent : desc.label = .singular → desc.number ∉ m.numbers) :
    desc.store decodeInto decodeEntry m v.wire = some (m.append (.field desc.number v (.done []))) := by
  have decoded := Scalar.decode_held held
  have wired := Scalar.wireType_held held
  cases label : desc.label with
  | map key => exact absurd label (plain key)
  | singular =>
    rw [← Msg.setScalar_eq (absent label)]
    cases v <;> simp_all [FieldDesc.store,Val.wire]
  | repeated packed =>
    rw [← Msg.add_eq]
    cases v <;> simp_all [FieldDesc.store,Val.wire,Value.wireType]

/-- What a message holds already, of the fields seen and the oneofs used. -/
structure Holding (schema : Schema σ) (name : σ) (seen : List Nat) (oneofs : List String) (m : Msg) : Prop where
  seen : ∀ number ∈ m.numbers, number ∈ seen
  oneofs : ∀ number ∈ m.numbers, ∀ desc, schema.field name number = some desc → ∀ oneof ∈ desc.oneof, oneof ∈ oneofs

variable {seen : List Nat} {oneofs : List String}

private theorem Holding.clearAll {m : Msg} (holding : Holding schema name seen oneofs m) (sound : schema.Sound)
    (free : desc.oneof.toList.all (!oneofs.contains ·) = true) : m.clearAll (schema.rivals name desc) = m := by
  apply Msg.clearAll_of_not_mem
  intro number rival member
  unfold Schema.rivals at rival
  cases oneof : desc.oneof with
  | none => simp [oneof] at rival
  | some shared =>
    simp only [oneof,List.mem_map,List.mem_filter,Bool.and_eq_true,beq_iff_eq] at rival
    obtain ⟨other,⟨known,same,-⟩,rfl⟩ := rival
    have used := holding.oneofs _ member other (sound.found name other known) shared same
    simp [oneof,used] at free

private theorem Holding.next {m : Msg}
    (holding : Holding schema name seen oneofs m) (found : schema.field name number = some desc)
    (values : List Val) :
    Holding schema name (number :: seen) (desc.oneof.toList ++ oneofs) (m.append (.several number values (.done []))) where
  seen other member := by
    rw [Msg.numbers_append,List.mem_append] at member
    rcases member with old | new
    · exact List.mem_cons_of_mem _ (holding.seen other old)
    · rw [Msg.mem_numbers_several new]
      exact List.mem_cons_self
  oneofs other member desc' found' oneof used := by
    rw [Msg.numbers_append,List.mem_append] at member
    rcases member with old | new
    · exact List.mem_append_right _ (holding.oneofs other old desc' found' oneof used)
    · rw [Msg.mem_numbers_several new,found] at found'
      cases found'
      exact List.mem_append_left _ (Option.mem_toList.mpr used)

private theorem decodeEntry_key {key : Scalar} {first second : Val} (rest : Bytes)
    (held : key.holds v = true) (readable : Readable v.wire) :
    decodeEntry schema skip (fuel + 1) key kind first second (encodeField ⟨1,v.wire⟩ ++ rest) =
      decodeEntry schema skip fuel key kind v second rest := by
  obtain ⟨byte,bytes,front⟩ := List.exists_cons_of_length_pos
    (show 0 < (encodeField ⟨1,v.wire⟩ ++ rest).length by have := encodeField_length_pos ⟨1,v.wire⟩; simp; omega)
  have tag := readTag_encodeField ⟨1,v.wire⟩ rest (by norm_num)
  have after := drop_encodeTag ⟨1,v.wire⟩ rest
  rw [front] at tag after ⊢
  rw [decodeEntry,tag]
  simp only [Option.bind_eq_bind,Option.bind_some,Scalar.wireType_held held,and_self,if_true] at after ⊢
  rw [after,← Scalar.wireType_held held,readValue_encodeValue readable]
  simp [Scalar.decode_held held]

private theorem decodeEntry_value {key : Scalar} {first second : Val} (rest : Bytes)
    (wired : v.wire.wireType = kind.wireType) (readable : Readable v.wire) :
    decodeEntry schema skip (fuel + 1) key kind first second (encodeField ⟨2,v.wire⟩ ++ rest) =
      (kind.store (fun inner m raw => decodeInto schema skip fuel inner m raw) second v.wire).bind fun second =>
        decodeEntry schema skip fuel key kind first second rest := by
  obtain ⟨byte,bytes,front⟩ := List.exists_cons_of_length_pos
    (show 0 < (encodeField ⟨2,v.wire⟩ ++ rest).length by have := encodeField_length_pos ⟨2,v.wire⟩; simp; omega)
  have tag := readTag_encodeField ⟨2,v.wire⟩ rest (by norm_num)
  have after := drop_encodeTag ⟨2,v.wire⟩ rest
  rw [front] at tag after ⊢
  rw [decodeEntry,tag]
  simp only [Option.bind_eq_bind,Option.bind_some,wired,and_self,if_true,show ¬(2 = 1) by omega,false_and,if_false]
    at after ⊢
  rw [after,← wired,readValue_encodeValue readable]
  simp only [Option.bind_some,List.drop_left]

private theorem wireType_fits (fits : v.fits schema kind .singular = true) :
    v.wire.wireType = kind.wireType := by
  cases kind with
  | scalar type => cases v <;> simp [Val.fits] at fits <;> exact Scalar.wireType_held fits
  | message name => cases v <;> first | rfl | simp [Val.fits] at fits

private theorem encodeValue_lt (field : Field) : (encodeValue field.value).length < (encodeField field).length := by
  have := encodeVarint_length_pos (field.number * 8 + field.value.wireType)
  simp only [encodeField,encodeTag,List.length_append]
  omega

private theorem length_le_encodeValue (data : Bytes) : data.length ≤ (encodeValue (.bytes data)).length := by
  simp [encodeValue]

theorem holding_nothing (name : σ) : Holding schema name [] [] (.done []) where
  seen number member := by simp [Msg.numbers] at member
  oneofs number member := by simp [Msg.numbers] at member

def Val.isScalar : Val → Bool
  | .packed _ | .message _ => false
  | _ => true

private theorem store_scalar {decodeInto : σ → Msg → Bytes → Option Msg}
    {decodeEntry : Scalar → Kind σ → Bytes → Option (Val × Val)} {value : Val} {held : Msg}
    (fits : value.fits schema desc.kind desc.label = true) (scalar : value.isScalar = true)
    (absent : desc.label = .singular → desc.number ∉ held.numbers) :
    desc.store decodeInto decodeEntry held value.wire =
      some (held.append (.several desc.number value.unpacked (.done []))) := by
  have single : value.unpacked = [value] := by
    cases value <;> first | rfl | cases scalar
  rw [single]
  cases value <;> simp only [Val.isScalar,Bool.false_eq_true] at scalar
  all_goals
    cases label : desc.label <;> cases kind : desc.kind <;> simp [Val.fits,label,kind] at fits
    all_goals exact FieldDesc.store_held fits kind (by simp [label]) absent

private theorem kindStore_scalar {decodeInto : σ → Msg → Bytes → Option Msg} {old value : Val}
    (fits : value.fits schema kind .singular = true) (scalar : value.isScalar = true) :
    ∃ read, value.unpacked = [read] ∧ kind.store decodeInto old value.wire = some read := by
  refine ⟨value,?_⟩
  cases value <;> simp only [Val.isScalar,Bool.false_eq_true] at scalar
  all_goals
    cases kind <;> simp [Val.fits] at fits
    exact ⟨rfl,Scalar.decode_held fits⟩

/-- Decoding takes the bytes for unknown fields, whatever stands before and after them. -/
def Foreign (schema : Schema σ) (skip : Nat → Nat → Bytes → Option Nat) (name : σ) (bytes : Bytes) : Prop :=
  ∀ (held : Msg) (after : Bytes) (fuel : Nat), (bytes ++ after).length ≤ fuel → ∃ more, after.length ≤ more ∧
    decodeInto schema skip fuel name held (bytes ++ after) = decodeInto schema skip more name (held.addUnknown bytes) after

theorem foreign_nil (name : σ) : Foreign schema skip name [] := by
  intro held after fuel enough
  refine ⟨fuel,enough,?_⟩
  rw [Msg.addUnknown_eq,Msg.append_nil,List.nil_append]

mutual

/-- The unknown bytes of the message and of those inside it are foreign to their types. -/
def Msg.Known (schema : Schema σ) (skip : Nat → Nat → Bytes → Option Nat) (name : σ) : Msg → Prop
  | .done unknown => Foreign schema skip name unknown
  | .field number value rest =>
    (∀ desc, schema.field name number = some desc → value.Known schema skip desc.kind desc.label) ∧
      rest.Known schema skip name

def Val.Known (schema : Schema σ) (skip : Nat → Nat → Bytes → Option Nat) (kind : Kind σ) (label : Label) : Val → Prop
  | .message m => match label,kind with
    | .map _,_ => m.EntryKnown schema skip kind
    | _,.message name => m.Known schema skip name
    | _,_ => True
  | _ => True

def Msg.EntryKnown (schema : Schema σ) (skip : Nat → Nat → Bytes → Option Nat) (kind : Kind σ) : Msg → Prop
  | .field _ _ (.field _ second _) => second.Known schema skip kind .singular
  | _ => True

end

mutual

theorem Msg.known_of_closed : ∀ (m : Msg) {name : σ}, m.closed = true → m.Known schema skip name
  | .done unknown,name,closed => by
    rw [Msg.closed,List.isEmpty_iff] at closed
    rw [closed]
    exact foreign_nil name
  | .field number value rest,name,closed => by
    rw [Msg.closed,Bool.and_eq_true] at closed
    exact ⟨fun desc _ => Val.known_of_closed value closed.1,Msg.known_of_closed rest closed.2⟩

theorem Val.known_of_closed : ∀ (value : Val) {kind : Kind σ} {label : Label}, value.closed = true →
    value.Known schema skip kind label
  | .message m,kind,label,closed => by
    cases label with
    | map key => exact Msg.entryKnown_of_closed m closed
    | _ =>
      cases kind with
      | message name => exact Msg.known_of_closed m closed
      | scalar type => trivial
  | .varint _,_,_,_ | .fixed64 _,_,_,_ | .fixed32 _,_,_,_ | .text _,_,_,_ | .bytes _,_,_,_ | .packed _,_,_,_ => trivial

theorem Msg.entryKnown_of_closed : ∀ (m : Msg) {kind : Kind σ}, m.closed = true → m.EntryKnown schema skip kind
  | .field _ _ (.field _ second _),kind,closed => by
    simp only [Msg.closed,Bool.and_eq_true] at closed
    exact Val.known_of_closed second closed.2.1
  | .done _,_,_ | .field _ _ (.done _),_,_ => trivial

end

@[simp] theorem decodeInto_nil (fuel : Nat) (name : σ) (m : Msg) : decodeInto schema skip fuel name m [] = some m := by
  cases fuel <;> rfl

mutual

theorem decodeInto_encode (sound : schema.Sound) : ∀ (m : Msg) {name : σ} {seen : List Nat} {oneofs : List String}
    {held : Msg} (fuel : Nat) (after : Bytes), m.conforms schema name seen oneofs = true → m.Known schema skip name →
    m.encode.length < 2 ^ 63 → (m.encode ++ after).length ≤ fuel → Holding schema name seen oneofs held →
    ∃ more, after.length ≤ more ∧ decodeInto schema skip fuel name held (m.encode ++ after) =
      decodeInto schema skip more name (held.append m.unpacked) after
  | .done unknown,_,_,_,held,fuel,after,_,known,_,enough,_ => by
    obtain ⟨more,left,decoded⟩ := known held after fuel enough
    exact ⟨more,left,by rw [Msg.unpacked,← Msg.addUnknown_eq]; exact decoded⟩
  | .field number value rest,name,seen,oneofs,held,fuel,after,conforms,known,short,enough,holding => by
    cases found : schema.field name number with
    | none => simp [Msg.conforms,found] at conforms
    | some desc =>
      simp only [Msg.conforms,found,Bool.and_eq_true] at conforms
      obtain ⟨⟨⟨fits,new⟩,free⟩,later⟩ := conforms
      have inside := encodeValue_lt ⟨number,value.wire⟩
      simp only [Msg.encode,List.length_append] at short enough inside ⊢
      obtain ⟨fuel,rfl⟩ : ∃ k, fuel = k + 1 := ⟨fuel - 1,by omega⟩
      have named := Schema.field_number found
      have absent : desc.label = .singular → desc.number ∉ held.numbers := by
        intro singular member
        simp only [singular,Bool.not_eq_true',List.contains_eq_mem,decide_eq_false_iff_not] at new
        exact new (named ▸ holding.seen _ member)
      obtain ⟨more,left,decoded⟩ := decodeInto_encode sound rest fuel after later known.2 (by omega)
        (by simp only [List.length_append]; omega) (holding.next found value.unpacked)
      refine ⟨more,left,?_⟩
      rw [List.append_assoc,decodeInto_encodeField _ (sound.range _ _ _ found) found (FieldDesc.reads_fits fits)
        (Val.readable_fits fits (by omega)),holding.clearAll sound free,
        store_fits sound value fits (known.1 desc found) (by omega) (by omega) absent,Option.bind_some,named,decoded,
        Msg.append_several]
      rfl

theorem store_fits (sound : schema.Sound) : ∀ (value : Val) {desc : FieldDesc σ} {held : Msg} {fuel : Nat},
    value.fits schema desc.kind desc.label = true → value.Known schema skip desc.kind desc.label →
    (encodeValue value.wire).length < 2 ^ 63 → (encodeValue value.wire).length ≤ fuel →
    (desc.label = .singular → desc.number ∉ held.numbers) →
    desc.store (fun inner m raw => decodeInto schema skip fuel inner m raw)
      (fun key kind raw => decodeEntry schema skip fuel key kind key.zero kind.zero raw) held value.wire =
        some (held.append (.several desc.number value.unpacked (.done [])))
  | .message m,desc,held,fuel,fits,known,short,enough,absent => by
    have inside := length_le_encodeValue m.encode
    simp only [Val.wire] at short enough
    cases label : desc.label with
    | map key =>
      simp only [Val.Known,label] at fits known
      obtain ⟨first,second,same,stored⟩ := decodeEntry_isEntry sound m fuel fits known (by omega) (by omega)
      simp only [FieldDesc.store,Val.wire,label,stored,Option.map_some,Val.unpacked,same]
      rw [Msg.add_eq]
      rfl
    | singular =>
      cases kind : desc.kind with
      | scalar type => simp [Val.fits,label,kind] at fits
      | message name =>
        simp only [label,kind] at fits known
        obtain ⟨more,-,decoded⟩ := decodeInto_encode sound m fuel [] fits known (by omega)
          (by rw [List.append_nil]; omega) (holding_nothing name)
        rw [List.append_nil,decodeInto_nil,Msg.nil_append] at decoded
        simp only [FieldDesc.store,Val.wire,label,kind,Msg.inner?_of_not_mem (absent label),Option.getD_none,decoded,
          Option.map_some]
        rw [Msg.setInner_eq (absent label)]
        rfl
    | repeated packed =>
      cases kind : desc.kind with
      | scalar type => simp [Val.fits,label,kind] at fits
      | message name =>
        simp only [label,kind] at fits known
        obtain ⟨more,-,decoded⟩ := decodeInto_encode sound m fuel [] fits known (by omega)
          (by rw [List.append_nil]; omega) (holding_nothing name)
        rw [List.append_nil,decodeInto_nil,Msg.nil_append] at decoded
        simp only [FieldDesc.store,Val.wire,label,kind,decoded,Option.map_some]
        rw [Msg.add_eq]
        rfl
  | .packed ns,desc,held,fuel,fits,_,short,enough,absent => by
    cases label : desc.label with
    | repeated packed =>
      cases kind : desc.kind with
      | message name => simp [Val.fits,kind] at fits
      | scalar type =>
        cases packed with
        | false => simp [Val.fits,label] at fits
        | true =>
          simp only [Val.fits,label,kind,Bool.and_eq_true,beq_iff_eq,List.all_eq_true] at fits
          simp only [FieldDesc.store,Val.wire,label,kind,fits.1,show ¬(0 = 2) by omega,if_false,
            unpack_flatMap fits.1 fits.2 le_rfl,Option.map_some,Msg.addAll_eq,Val.unpacked]
    | _ => simp [Val.fits,label] at fits
  | .varint _,_,_,_,fits,_,_,_,absent | .fixed64 _,_,_,_,fits,_,_,_,absent | .fixed32 _,_,_,_,fits,_,_,_,absent
  | .text _,_,_,_,fits,_,_,_,absent | .bytes _,_,_,_,fits,_,_,_,absent => store_scalar fits rfl absent

theorem decodeEntry_isEntry (sound : schema.Sound) : ∀ (m : Msg) {key : Scalar} {kind : Kind σ} (fuel : Nat),
    m.isEntry schema key kind = true → m.EntryKnown schema skip kind → m.encode.length < 2 ^ 63 →
    m.encode.length ≤ fuel →
    ∃ first second, m.unpacked = .field 1 first (.field 2 second (.done [])) ∧
      decodeEntry schema skip fuel key kind key.zero kind.zero m.encode = some (first,second)
  | .field one first (.field two second (.done unknown)),key,kind,fuel,entry,known,short,enough => by
    obtain ⟨_,_,same,held,fits⟩ := isEntry_eq entry
    cases same
    have insideFirst := encodeValue_lt ⟨1,first.wire⟩
    have insideSecond := encodeValue_lt ⟨2,second.wire⟩
    simp only [Msg.encode,List.length_append] at short enough insideFirst insideSecond ⊢
    obtain ⟨fuel,rfl⟩ : ∃ k, fuel = k + 2 := ⟨fuel - 2,by omega⟩
    obtain ⟨value,same,stored⟩ := kindStore_fits sound second fuel fits known (by omega) (by omega)
    refine ⟨first,value,by simp [Msg.unpacked,Scalar.unpacked_held held,same],?_⟩
    rw [decodeEntry_key _ held (Scalar.readable_held held (by omega)),
      decodeEntry_value _ (wireType_fits fits) (Val.readable_fits fits (by omega)),stored]
    cases fuel <;> rfl
  | .done _,_,_,_,entry,_,_,_ => by
    obtain ⟨_,_,same,-⟩ := isEntry_eq entry
    cases same
  | .field _ _ (.done _),_,_,_,entry,_,_,_ => by
    obtain ⟨_,_,same,-⟩ := isEntry_eq entry
    cases same
  | .field _ _ (.field _ _ (.field _ _ _)),_,_,_,entry,_,_,_ => by
    obtain ⟨_,_,same,-⟩ := isEntry_eq entry
    cases same

theorem kindStore_fits (sound : schema.Sound) : ∀ (value : Val) {kind : Kind σ} (fuel : Nat),
    value.fits schema kind .singular = true → value.Known schema skip kind .singular →
    (encodeValue value.wire).length < 2 ^ 63 → (encodeValue value.wire).length ≤ fuel →
    ∃ read, value.unpacked = [read] ∧
      kind.store (fun inner m raw => decodeInto schema skip fuel inner m raw) kind.zero value.wire = some read
  | .message m,kind,fuel,fits,known,short,enough => by
    have inside := length_le_encodeValue m.encode
    simp only [Val.wire] at short enough
    cases kind with
    | scalar type => simp [Val.fits] at fits
    | message name =>
      obtain ⟨more,-,decoded⟩ := decodeInto_encode sound m fuel [] fits known (by omega)
        (by rw [List.append_nil]; omega) (holding_nothing name)
      rw [List.append_nil,decodeInto_nil,Msg.nil_append] at decoded
      refine ⟨_,rfl,?_⟩
      simp [Kind.store,Kind.zero,Val.wire,decoded]
  | .packed _,_,_,fits,_,_,_ => by simp [Val.fits] at fits
  | .varint _,_,_,fits,_,_,_ | .fixed64 _,_,_,fits,_,_,_ | .fixed32 _,_,_,fits,_,_,_ | .text _,_,_,fits,_,_,_
  | .bytes _,_,_,fits,_,_,_ => kindStore_scalar fits rfl

end

theorem unmarshal_encode (sound : schema.Sound) {m : Msg} (conforms : m.conforms schema name [] [] = true)
    (known : m.Known schema skip name) (short : m.encode.length < 2 ^ 63) :
    unmarshal schema skip name m.encode = some m.unpacked := by
  obtain ⟨more,-,decoded⟩ := decodeInto_encode sound m m.encode.length [] conforms known short (by simp)
    (holding_nothing name)
  rwa [List.append_nil,decodeInto_nil,Msg.nil_append] at decoded

/-- Messages written one after the other are read as one, its unknown bytes behind its fields. -/
theorem unmarshal_append (sound : schema.Sound) {a b : Msg}
    (conformsA : a.conforms schema name [] [] = true) (conformsB : b.conforms schema name seen oneofs = true)
    (knownA : a.Known schema skip name) (knownB : b.Known schema skip name)
    (holding : Holding schema name seen oneofs a.unpacked) (short : (a.encode ++ b.encode).length < 2 ^ 63) :
    unmarshal schema skip name (a.encode ++ b.encode) = some (a.unpacked.append b.unpacked) := by
  rw [List.length_append] at short
  obtain ⟨more,enough,first⟩ := decodeInto_encode sound a (a.encode ++ b.encode).length b.encode conformsA knownA (by omega) le_rfl
    (holding_nothing name)
  rw [Msg.nil_append] at first
  obtain ⟨rest,-,second⟩ := decodeInto_encode sound b more [] conformsB knownB (by omega) (by simpa using enough) holding
  rw [List.append_nil,decodeInto_nil] at second
  exact first.trans second

end

end Cap.Proto
