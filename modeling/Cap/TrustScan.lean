import Cap.ClosedWire
import Cap.PacketObject
import Cap.TrustNode

/-!
The scan of the wire in the Node SDK (`worker-trust-wire.ts`) over what an encoder wrote: every
packet that conforms to the schema and has no unknown fields passes.
-/
namespace Cap.Trust.Node
open Cap.Text Cap.Varint Cap.Wire Cap.Proto Cap.Checks Cap.Packets Cap.ClosedWire

/-- The reader reads integers of 32 bits and skips values, where they were written. -/
structure Reader.Lawful (reader : Reader) : Prop where
  uint32 {data rest : Bytes} {pos n : Nat} : data.drop pos = encodeVarint n ++ rest → n < 2 ^ 32 →
    reader.uint32 data pos = some (n,pos + (encodeVarint n).length)
  skipType {data rest : Bytes} {pos : Nat} {value : Value} : data.drop pos = encodeValue value ++ rest → Plain value →
    (encodeValue value).length < 2 ^ 32 → reader.skipType value.wireType data pos = some (pos + (encodeValue value).length)

private theorem drop_after {data written rest : Bytes} {pos : Nat} (here : data.drop pos = written ++ rest) :
    data.drop (pos + written.length) = rest := by
  rw [← List.drop_drop,here,List.drop_left]

private theorem wireMatches_allowed {field : FieldDesc Name} {wire : Nat}
    (allowed : (allowedWireTypes field).contains wire = true) : wireMatches field wire = true := by
  obtain ⟨number,kind,label,oneof⟩ := field
  cases label with
  | map key => simpa [allowedWireTypes,wireMatches,expectedWire] using allowed
  | singular => cases kind <;> simpa [allowedWireTypes,wireMatches,expectedWire,Kind.wireType] using allowed
  | repeated packed =>
    cases kind with
    | message name => simpa [allowedWireTypes,wireMatches,expectedWire,Kind.wireType] using allowed
    | scalar type =>
      cases packed with
      | false => simpa [allowedWireTypes,wireMatches,expectedWire,Kind.wireType] using allowed
      | true => cases type <;> simpa [allowedWireTypes,wireMatches,expectedWire,Kind.wireType,Scalar.wireType] using allowed

private theorem rejectDuplicate_new {field : FieldDesc Name} {seen : List Nat} {oneofs : List String}
    (new : (match field.label with
      | .singular => !seen.contains field.number
      | _ => true) = true)
    (free : field.oneof.toList.all (!oneofs.contains ·) = true) : rejectDuplicate field seen oneofs = .ok () :=
  bind_eq_ok.mpr ⟨(),require_eq_ok.mpr new,require_eq_ok.mpr free⟩

section
variable {reader : Reader} {data : Bytes} (lawful : reader.Lawful)
include lawful

variable {rest : Bytes} {value : Value} {fuel last number pos : Nat} {field : FieldDesc Name}

private theorem uint32_tag
    (here : data.drop pos = encodeField ⟨number,value⟩ ++ rest) (small : number < 2 ^ 29) :
    ∃ tag next, reader.uint32 data pos = some (tag,next) ∧ tag / 8 = number ∧ tag % 8 = value.wireType ∧
      data.drop next = encodeValue value ++ rest ∧
      next + (encodeValue value).length = pos + (encodeField ⟨number,value⟩).length := by
  have type := wireType_lt value
  simp only [encodeField,encodeTag,List.append_assoc] at here
  refine ⟨number * 8 + value.wireType,_,lawful.uint32 here (by omega),by omega,by omega,drop_after here,?_⟩
  simp only [encodeField,encodeTag,List.length_append]
  omega

private theorem scanMapEntry_field {seen : List Nat}
    (here : data.drop pos = encodeField ⟨number,value⟩ ++ rest) (inside : pos < last) (known : number = 1 ∨ number = 2)
    (new : number ∉ seen) (plain : Plain value) (short : (encodeValue value).length < 2 ^ 32) :
    scanMapEntry reader data (fuel + 1) seen pos last =
      scanMapEntry reader data fuel (number :: seen) (pos + (encodeField ⟨number,value⟩).length) last := by
  obtain ⟨tag,next,read,quotient,remainder,after,size⟩ := uint32_tag lawful here (by omega)
  have allowed : (!((number != 1 && number != 2) || seen.contains number)) = true := by
    rcases known with rfl | rfl <;> simpa using new
  simp only [scanMapEntry,if_pos inside,read,malformed,quotient,remainder,allowed,require,if_true,
    lawful.skipType after plain short,size,bind,Except.bind]

private theorem scanMessage_field {name : Name} {seen : List Nat} {oneofs : List String}
    (here : data.drop pos = encodeField ⟨number,value⟩ ++ rest) (inside : pos < last)
    (found : schema.field name number = some field) (new : rejectDuplicate field seen oneofs = .ok ())
    (scanned : ∀ next, data.drop next = encodeValue value ++ rest →
      next + (encodeValue value).length = pos + (encodeField ⟨number,value⟩).length →
      scanField reader data fuel field value.wireType next last = .ok (next + (encodeValue value).length)) :
    scanMessage reader data (fuel + 1) name seen oneofs pos last =
      scanMessage reader data fuel name (number :: seen) (field.oneof.toList ++ oneofs)
        (pos + (encodeField ⟨number,value⟩).length) last := by
  obtain ⟨tag,next,read,quotient,remainder,after,size⟩ := uint32_tag lawful here (PacketSignature.schema_sound.range name number field found).2
  have same : field.number = number := Schema.field_number found
  simp only [scanMessage,if_pos inside,read,malformed,quotient,remainder,found,new,scanned next after size,size,same,bind,
    Except.bind]

private theorem scanField_bytes (fuel : Nat) {payload : Bytes}
    (here : data.drop pos = encodeValue (.bytes payload) ++ rest) (allowed : wireMatches field 2 = true)
    (short : payload.length < 2 ^ 32) (within : pos + (encodeValue (.bytes payload)).length ≤ last) :
    ∃ next, data.drop next = payload ++ rest ∧ next + payload.length = pos + (encodeValue (.bytes payload)).length ∧
      (∀ key, field.label = .map key → scanField reader data (fuel + 1) field 2 pos last =
        scanMapEntry reader data fuel [] next (next + payload.length)) ∧
      ((∀ key, field.label ≠ .map key) →
        (∀ name, field.kind = .message name → scanField reader data (fuel + 1) field 2 pos last =
          scanMessage reader data fuel name [] [] next (next + payload.length)) ∧
        ∀ type, field.kind = .scalar type → scanField reader data (fuel + 1) field 2 pos last =
          .ok (next + payload.length)) := by
  simp only [encodeValue,List.append_assoc] at here
  simp only [encodeValue,List.length_append] at within
  have fits : decide (pos + (encodeVarint payload.length).length + payload.length ≤ last) = true := decide_eq_true (by omega)
  refine ⟨_,drop_after here,by simp only [encodeValue,List.length_append]; omega,?_,?_⟩
  · intro key map
    simp only [scanField,allowed,require,if_true,ne_eq,not_true_eq_false,if_false,lawful.uint32 here short,malformed,fits,
      bind,Except.bind,map]
  · intro listed
    constructor
    · intro name kind
      cases label : field.label with
      | map key => exact absurd label (listed key)
      | _ =>
        simp only [scanField,allowed,require,if_true,ne_eq,not_true_eq_false,if_false,lawful.uint32 here short,malformed,fits,
          bind,Except.bind,label,kind]
    · intro type kind
      cases label : field.label with
      | map key => exact absurd label (listed key)
      | _ =>
        simp only [scanField,allowed,require,if_true,ne_eq,not_true_eq_false,if_false,lawful.uint32 here short,malformed,fits,
          bind,Except.bind,pure,Except.pure,label,kind]

private theorem scanField_skip
    (here : data.drop pos = encodeValue value ++ rest) (allowed : wireMatches field value.wireType = true)
    (other : value.wireType ≠ 2) (plain : Plain value) (short : (encodeValue value).length < 2 ^ 32) :
    scanField reader data (fuel + 1) field value.wireType pos last = .ok (pos + (encodeValue value).length) := by
  simp only [scanField,allowed,require,if_true,if_pos other,lawful.skipType here plain short,malformed,bind,Except.bind]

omit lawful in
private theorem encodeValue_pos (value : Value) (plain : Plain value) : 0 < (encodeValue value).length := by
  cases value with
  | varint n => exact encodeVarint_length_pos n
  | fixed64 data => exact lt_of_lt_of_eq (by decide) (show data.length = 8 from plain).symm
  | fixed32 data => exact lt_of_lt_of_eq (by decide) (show data.length = 4 from plain).symm
  | bytes data =>
    have := encodeVarint_length_pos data.length
    simp only [encodeValue,List.length_append]
    omega

mutual

theorem scanMessage_conforms : ∀ (m : Msg) (fuel pos : Nat) (name : Name) (seen : List Nat) (oneofs : List String)
    (rest : Bytes), m.conforms schema name seen oneofs = true → m.closed = true → data.drop pos = m.encode ++ rest →
    2 * m.encode.length < fuel → m.encode.length < 2 ^ 32 →
    scanMessage reader data fuel name seen oneofs pos (pos + m.encode.length) = .ok (pos + m.encode.length)
  | .done unknown,fuel,pos,name,seen,oneofs,rest,_,closed,_,enough,_ => by
    simp only [Msg.closed,List.isEmpty_iff] at closed
    obtain ⟨fuel,rfl⟩ : ∃ less, fuel = less + 1 := ⟨fuel - 1,by omega⟩
    subst closed
    simp [scanMessage,Msg.encode]
  | .field number value later,fuel,pos,name,seen,oneofs,rest,conforms,closed,here,enough,short => by
    simp only [Msg.closed,Bool.and_eq_true] at closed
    simp only [Msg.encode,List.append_assoc] at here
    simp only [Msg.encode,List.length_append] at enough short
    cases found : schema.field name number with
    | none => simp [Msg.conforms,found] at conforms
    | some field =>
      simp only [Msg.conforms,found,Bool.and_eq_true] at conforms
      obtain ⟨⟨⟨fits,new⟩,free⟩,conforms⟩ := conforms
      have shorter := encodeValue_shorter number value.wire
      have same : field.number = number := Schema.field_number found
      obtain ⟨fuel,rfl⟩ : ∃ less, fuel = less + 1 := ⟨fuel - 1,by omega⟩
      rw [scanMessage_field lawful here (by rw [Msg.encode,List.length_append]; omega) found
        (rejectDuplicate_new (by rw [same]; exact new) free)
        fun next after size => scanField_fits value fuel next _ field _ fits closed.1 after (by omega) (by omega) ?_]
      · have next := scanMessage_conforms later fuel (pos + (encodeField ⟨number,value.wire⟩).length) name (number :: seen)
          (field.oneof.toList ++ oneofs) rest conforms closed.2 (drop_after here) (by omega) (by omega)
        simpa [Msg.encode,Nat.add_assoc] using next
      · rw [Msg.encode,List.length_append]
        omega

theorem scanField_fits : ∀ (value : Val) (fuel pos last : Nat) (field : FieldDesc Name) (rest : Bytes),
    value.fits schema field.kind field.label = true → value.closed = true →
    data.drop pos = encodeValue value.wire ++ rest → 2 * (encodeValue value.wire).length ≤ fuel →
    (encodeValue value.wire).length < 2 ^ 32 → pos + (encodeValue value.wire).length ≤ last →
    scanField reader data fuel field value.wire.wireType pos last = .ok (pos + (encodeValue value.wire).length)
  | .message m,fuel,pos,last,⟨number,kind,label,oneof⟩,rest,fits,closed,here,enough,short,within => by
    obtain ⟨-,allowed⟩ := fits_plain ⟨number,kind,label,oneof⟩ fits
    have size := encodeVarint_length_pos m.encode.length
    simp only [Val.wire,encodeValue,List.length_append] at enough short
    obtain ⟨fuel,rfl⟩ : ∃ less, fuel = less + 1 := ⟨fuel - 1,by omega⟩
    obtain ⟨next,inner,total,entry,nested⟩ :=
      scanField_bytes lawful fuel here (wireMatches_allowed allowed) (by omega) within
    show scanField _ _ _ _ 2 _ _ = Except.ok (pos + (encodeValue (.bytes m.encode)).length)
    rw [← total]
    cases label with
    | map key =>
      rw [entry key rfl]
      obtain ⟨first,second,rfl,held,typed⟩ := isEntry_eq (by simpa [Val.fits] using fits)
      obtain ⟨plain,-⟩ := holds_plain held
      obtain ⟨plain',-⟩ := fits_singular typed
      have firstShorter := encodeValue_shorter 1 first.wire
      have secondShorter := encodeValue_shorter 2 second.wire
      simp only [Msg.encode,List.append_assoc,List.length_append] at inner enough short ⊢
      obtain ⟨fuel,rfl⟩ : ∃ less, fuel = less + 3 := ⟨fuel - 3,by omega⟩
      rw [scanMapEntry_field lawful inner (by omega) (.inl rfl) (by simp) plain (by omega),
        scanMapEntry_field lawful (drop_after inner) (by omega) (.inr rfl) (by simp) plain' (by omega)]
      simp [scanMapEntry,Nat.add_assoc]
    | singular | repeated packed =>
      cases kind with
      | scalar type => simp [Val.fits] at fits
      | message name =>
        rw [(nested nofun).1 name rfl]
        exact scanMessage_conforms m fuel next name [] [] rest (by simpa [Val.fits] using fits) closed inner
          (by omega) (by omega)
  | .varint n,fuel,pos,last,field,rest,fits,closed,here,enough,short,within
  | .fixed64 n,fuel,pos,last,field,rest,fits,closed,here,enough,short,within
  | .fixed32 n,fuel,pos,last,field,rest,fits,closed,here,enough,short,within => by
    obtain ⟨plain,allowed⟩ := fits_plain field fits
    have size := encodeValue_pos _ plain
    obtain ⟨fuel,rfl⟩ : ∃ less, fuel = less + 1 := ⟨fuel - 1,by omega⟩
    exact scanField_skip lawful here (wireMatches_allowed allowed) (by simp [Val.wire,Value.wireType]) plain short
  | .text s,fuel,pos,last,⟨number,kind,label,oneof⟩,rest,fits,closed,here,enough,short,within
  | .bytes s,fuel,pos,last,⟨number,kind,label,oneof⟩,rest,fits,closed,here,enough,short,within
  | .packed s,fuel,pos,last,⟨number,kind,label,oneof⟩,rest,fits,closed,here,enough,short,within => by
    obtain ⟨plain,allowed⟩ := fits_plain ⟨number,kind,label,oneof⟩ fits
    have size := encodeValue_pos _ plain
    obtain ⟨fuel,rfl⟩ : ∃ less, fuel = less + 1 := ⟨fuel - 1,by omega⟩
    obtain ⟨type,rfl⟩ : ∃ type, kind = .scalar type := by
      cases kind with
      | scalar type => exact ⟨type,rfl⟩
      | message name => cases label <;> simp [Val.fits] at fits
    have listed : ∀ key, label ≠ .map key := by
      rintro key rfl
      simp [Val.fits] at fits
    simp only [Val.wire,encodeValue,List.length_append] at short
    obtain ⟨next,-,total,-,nested⟩ := scanField_bytes lawful fuel here (wireMatches_allowed allowed) (by omega) within
    exact ((nested listed).2 type rfl).trans (congrArg Except.ok total)

end

theorem rejectUnknownWire_conforms {m : Msg} (conforms : m.conforms schema .busPacket [] [] = true)
    (closed : m.closed = true) (short : m.encode.length < 2 ^ 32) : rejectUnknownWire reader m.encode = .ok () := by
  have scanned : scanMessage reader m.encode (2 * m.encode.length + 2) .busPacket [] [] 0 (0 + m.encode.length) =
      .ok (0 + m.encode.length) :=
    scanMessage_conforms lawful m _ 0 .busPacket [] [] [] conforms closed (by simp) (by omega) short
  rw [Nat.zero_add] at scanned
  simp [rejectUnknownWire,scanned]

end

end Cap.Trust.Node
