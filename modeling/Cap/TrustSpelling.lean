import Cap.TrustReading

/-!
The seconds of a timestamp as the Node SDK takes them: a number, a `Long`, or any other value whose
text is an integer. Only the text is validated; what is written is up to protobufjs, which knows the
number of a text and the halves of an object.
-/
namespace Cap.Trust.Node
open Cap.Text Cap.Varint Cap.Wire Cap.Proto Cap.Records Cap.Checks Cap.Packets

/-- The `int64` properties that are neither a number nor a `Long`, by the path to the property, with the bits
    that are written of them. -/
abbrev Spelling := List Nat → Option UInt64

namespace Spelling

def under (spelling : Spelling) (number : Nat) : Spelling := fun path => spelling (number :: path)

/-- A value of another type is no default, whatever its text. -/
def mark (spelling : Spelling) : Spelling := fun path => (spelling path).map fun _ => 1

end Spelling

mutual

/-- The message with the bits in place of the properties. -/
def spell (spelling : Spelling) (name : Name) : Msg → Msg
  | .done unknown => .done unknown
  | .field number value rest =>
    let value := match schema.field name number with
      | none => value
      | some desc => spellValue (spelling.under number) desc.kind desc.label value
    .field number value (spell spelling name rest)

def spellValue (spelling : Spelling) (kind : Kind Name) (label : Label) : Val → Val
  | .message m =>
    match label,kind with
    | .singular,.message name => .message (spell spelling name m)
    | _,_ => .message m
  | .varint n =>
    match label,kind,spelling [] with
    | .singular,.scalar .int64,some bits => .varint bits.toNat
    | _,_,_ => .varint n
  | value => value

end

mutual

/-- What is spelled otherwise is written as the integer that its text is, and is not zero. -/
def faithful (spelling : Spelling) (name : Name) : Msg → Bool
  | .done _ => true
  | .field number value rest =>
    (match schema.field name number with
      | none => true
      | some desc => faithfulValue (spelling.under number) desc.kind desc.label value) && faithful spelling name rest

def faithfulValue (spelling : Spelling) (kind : Kind Name) (label : Label) : Val → Bool
  | .message m =>
    match label,kind with
    | .singular,.message name => faithful spelling name m
    | _,_ => true
  | .varint n =>
    match label,kind,spelling [] with
    | .singular,.scalar .int64,some bits => n != 0 && bits.toNat == n
    | _,_,_ => true
  | _ => true

end

/-- What is written of an object: `stripDefaults` keeps what is spelled otherwise, and its bits are written. -/
def spelled (spelling : Spelling) (name : Name) (object : Msg) : Msg :=
  spell spelling name (stripDefaults name (spell spelling.mark name object))

def spelledValue (spelling : Spelling) (kind : Kind Name) (label : Label) (value : Val) : Option Val :=
  (stripValue kind label (spellValue spelling.mark kind label value)).map (spellValue spelling kind label)

variable {spelling : Spelling} {name : Name} {kind : Kind Name} {label : Label} {number : Nat} {value : Val} {rest : Msg}

theorem spelled_unknown (found : schema.field name number = none) :
    spelled spelling name (.field number value rest) = spelled spelling name rest := by
  simp [spelled,spell,stripDefaults,found]

theorem spelled_field {desc : FieldDesc Name} (found : schema.field name number = some desc) :
    spelled spelling name (.field number value rest) =
      match spelledValue (spelling.under number) desc.kind desc.label value with
      | none => spelled spelling name rest
      | some kept => .field number kept (spelled spelling name rest) := by
  have mark : spelling.mark.under number = (spelling.under number).mark := rfl
  simp only [spelled,spell,stripDefaults,found,spelledValue,mark]
  cases stripValue desc.kind desc.label (spellValue (spelling.under number).mark desc.kind desc.label value) with
  | none => rfl
  | some kept => simp [spell,found]

theorem isEmpty_iff_wireFields {m : Msg} : isEmpty m = true ↔ m.wireFields = [] := by
  cases m <;> simp [isEmpty,Msg.wireFields]

theorem spelledValue_message (inner : Name) (m : Msg) : spelledValue spelling (.message inner) .singular (.message m) =
    if isEmpty (spelled spelling inner m) then none else some (.message (spelled spelling inner m)) := by
  have same : ∀ m, isEmpty (spell spelling inner m) = isEmpty m := by
    intro m
    cases m <;> rfl
  simp only [spelledValue,spellValue,stripValue,spelled,same]
  split <;> rfl

theorem spelledValue_int64 {bits : UInt64} (given : spelling [] = some bits) (n : Nat) :
    spelledValue spelling (.scalar .int64) .singular (.varint n) = some (.varint bits.toNat) := by
  simp [spelledValue,spellValue,Spelling.mark,given,stripValue,isDefaultScalar]

/-- A value is a nested message, spelled otherwise or neither. -/
theorem spelledValue_cases (spelling : Spelling) (kind : Kind Name) (label : Label) (value : Val) :
    (∃ inner m, kind = .message inner ∧ label = .singular ∧ value = .message m) ∨
    (∃ n bits, kind = .scalar .int64 ∧ label = .singular ∧ value = .varint n ∧ spelling [] = some bits) ∨
    spelledValue spelling kind label value = stripValue kind label value ∧
      faithfulValue spelling kind label value = true := by
  cases value with
  | message m =>
    cases label with
    | singular =>
      cases kind with
      | message inner => exact .inl ⟨inner,m,rfl,rfl,rfl⟩
      | scalar type => exact .inr (.inr ⟨rfl,rfl⟩)
    | _ => cases kind <;> exact .inr (.inr ⟨rfl,rfl⟩)
  | varint n =>
    by_cases other : kind = .scalar .int64 ∧ label = .singular
    · obtain ⟨rfl,rfl⟩ := other
      cases given : spelling [] with
      | some bits => exact .inr (.inl ⟨n,bits,rfl,rfl,rfl,rfl⟩)
      | none =>
        refine .inr (.inr ⟨?_,by simp [faithfulValue,given]⟩)
        simp only [spelledValue,spellValue,Spelling.mark,given,Option.map_none,stripValue]
        split <;> simp [spellValue,given]
    · have kept : ∀ spelling x, spellValue spelling kind label (.varint x) = .varint x := by
        intro spelling x
        simp only [spellValue]
        split
        · exact absurd ⟨rfl,rfl⟩ other
        · rfl
      refine .inr (.inr ⟨?_,?_⟩)
      · rw [spelledValue,kept]
        cases label <;> simp only [stripValue]
        · split <;> simp [kept]
        all_goals rw [Option.map_some,kept]
      · simp only [faithfulValue]
        split
        · exact absurd ⟨rfl,rfl⟩ other
        · rfl
  | packed ns =>
    refine .inr (.inr ⟨?_,rfl⟩)
    simp only [spelledValue,spellValue,stripValue]
    split <;> rfl
  | _ =>
    refine .inr (.inr ⟨?_,rfl⟩)
    cases label <;> simp only [spelledValue,spellValue,stripValue]
    · split <;> rfl
    all_goals rfl

mutual

theorem spelled_of_faithful : ∀ (m : Msg) {spelling : Spelling} {name : Name}, faithful spelling name m = true →
    spelled spelling name m = stripDefaults name m
  | .done _,_,_,_ => rfl
  | .field number value rest,spelling,name,read => by
    cases found : schema.field name number with
    | none =>
      simp only [faithful,found] at read
      simp [spelled_unknown found,stripDefaults,found,spelled_of_faithful rest read]
    | some desc =>
      simp only [faithful,found,Bool.and_eq_true] at read
      have here := spelledValue_of_faithful value read.1
      have later := spelled_of_faithful rest read.2
      cases kept : stripValue desc.kind desc.label value <;> simp [spelled_field found,stripDefaults,found,here,later,kept]

theorem spelledValue_of_faithful : ∀ (value : Val) {spelling : Spelling} {kind : Kind Name} {label : Label},
    faithfulValue spelling kind label value = true → spelledValue spelling kind label value = stripValue kind label value
  | value,spelling,kind,label,read => by
    rcases spelledValue_cases spelling kind label value with ⟨inner,m,rfl,rfl,rfl⟩ | ⟨n,bits,rfl,rfl,rfl,given⟩ | plain
    · rw [spelledValue_message,spelled_of_faithful m read]
      rfl
    · simp only [faithfulValue,given,Bool.and_eq_true,bne_iff_ne,beq_iff_eq] at read
      simp [spelledValue_int64 given,stripValue,isDefaultScalar,read]
    · exact plain.1

end

theorem Val.sized_fits (fits : value.fits schema kind label = true) : value.wire.Sized := by
  cases value with
  | fixed64 data | fixed32 data =>
    cases label <;> cases kind <;> simp only [Val.fits,Bool.false_eq_true] at fits
    all_goals exact Scalar.sized_held fits
  | _ => trivial

theorem Msg.sized_conforms {m : Msg} {seen : List Nat} {oneofs : List String}
    (conforms : m.conforms schema name seen oneofs = true) : ∀ field ∈ m.wireFields, field.value.Sized := by
  induction m generalizing seen oneofs with
  | done unknown => simp [Msg.wireFields]
  | field number value rest ih =>
    cases found : schema.field name number with
    | none => simp [Msg.conforms,found] at conforms
    | some desc =>
      simp only [Msg.conforms,found,Bool.and_eq_true] at conforms
      simp only [Msg.wireFields,List.mem_cons,forall_eq_or_imp]
      exact ⟨Val.sized_fits conforms.1.1.1,ih conforms.2⟩

/-- What is written of a message beside what is kept of it: no less, and the same only where the spelling is faithful. -/
structure Compared (spelling : Spelling) (name : Name) (m : Msg) : Prop where
  closed : (spelled spelling name m).closed = true
  sized : ∀ field ∈ (spelled spelling name m).wireFields, field.value.Sized
  longer : (stripDefaults name m).wireFields.length ≤ (spelled spelling name m).wireFields.length
  forced : (spelled spelling name m).wireFields = (stripDefaults name m).wireFields → faithful spelling name m = true

structure ComparedValue (spelling : Spelling) (kind : Kind Name) (label : Label) (value : Val) : Prop where
  closed : ∀ kept ∈ spelledValue spelling kind label value, kept.closed = true
  sized : ∀ kept ∈ spelledValue spelling kind label value, kept.wire.Sized
  gone : spelledValue spelling kind label value = none →
    stripValue kind label value = none ∧ faithfulValue spelling kind label value = true
  forced : ∀ kept ∈ spelledValue spelling kind label value, ∀ plain ∈ stripValue kind label value,
    kept.wire = plain.wire → faithfulValue spelling kind label value = true

/-- A nested message that is left out of what is written is left out of what is kept. -/
theorem ComparedValue.message {inner : Name} {m : Msg} (compared : Compared spelling inner m)
    (conforms : (stripDefaults inner m).conforms schema inner [] [] = true) (closed : (stripDefaults inner m).closed = true) :
    ComparedValue spelling (.message inner) .singular (.message m) := by
  constructor
  all_goals rw [spelledValue_message]
  all_goals simp only [stripValue,Option.mem_def,Option.ite_none_left_eq_some,Option.some.injEq]
  · rintro kept ⟨-,rfl⟩
    exact compared.closed
  · rintro kept ⟨-,rfl⟩
    trivial
  · intro none
    have empty : isEmpty (spelled spelling inner m) = true := by
      by_contra filled
      simp [filled] at none
    have longer := compared.longer
    rw [isEmpty_iff_wireFields] at empty
    rw [empty,List.length_nil,Nat.le_zero,List.length_eq_zero_iff] at longer
    rw [isEmpty_iff_wireFields.mpr longer]
    exact ⟨rfl,compared.forced (empty.trans longer.symm)⟩
  · rintro kept ⟨-,rfl⟩ plain ⟨-,rfl⟩ same
    have bytes := Value.bytes.inj same
    rw [Msg.encode_eq_encodeFields compared.closed,Msg.encode_eq_encodeFields closed] at bytes
    exact compared.forced (encodeFields_inj compared.sized (Msg.sized_conforms conforms) bytes)

theorem Compared.field {desc : FieldDesc Name} (found : schema.field name number = some desc)
    (values : ComparedValue (spelling.under number) desc.kind desc.label value)
    (ih : Compared spelling name rest) : Compared spelling name (.field number value rest) := by
  have longer := ih.longer
  cases kept : spelledValue (spelling.under number) desc.kind desc.label value with
  | none =>
    obtain ⟨plain,read⟩ := values.gone kept
    constructor <;> simp only [spelled_field found,kept,stripDefaults,found,plain,faithful,read]
    · exact ih.closed
    · exact ih.sized
    · exact ih.longer
    · exact ih.forced
  | some x =>
    constructor
    all_goals simp only [spelled_field found,kept,Msg.closed,Msg.wireFields,List.mem_cons,forall_eq_or_imp,stripDefaults,found]
    · simp [values.closed x kept,ih.closed]
    · exact ⟨values.sized x kept,ih.sized⟩
    all_goals cases plain : stripValue desc.kind desc.label value
    all_goals simp only [faithful,found,Bool.and_eq_true]
    · exact longer.trans (Nat.le_succ _)
    · exact Nat.succ_le_succ longer
    · intro wires
      have size := congrArg List.length wires
      rw [List.length_cons] at size
      omega
    · intro wires
      obtain ⟨first,others⟩ := List.cons.inj wires
      exact ⟨values.forced x kept _ plain (congrArg Field.value first),ih.forced others⟩

theorem stripDefaults_hollow {m : Msg} (hollow : isEmpty (stripDefaults name m) = true) :
    stripDefaults name m = .done [] := by
  induction m with
  | done unknown => rfl
  | field number value rest ih =>
    cases found : schema.field name number with
    | none =>
      simp only [stripDefaults,found] at hollow ⊢
      exact ih hollow
    | some desc =>
      cases kept : stripValue desc.kind desc.label value with
      | none =>
        simp only [stripDefaults,found,kept] at hollow ⊢
        exact ih hollow
      | some x => simp [stripDefaults,found,kept,isEmpty] at hollow

mutual

theorem compared : ∀ (m : Msg) {spelling : Spelling} {name : Name} {seen : List Nat} {oneofs : List String},
    (stripDefaults name m).conforms schema name seen oneofs = true → (stripDefaults name m).closed = true →
    Compared spelling name m
  | .done unknown,_,_,_,_,_,_ => ⟨rfl,by simp [spelled,spell,stripDefaults,Msg.wireFields],le_rfl,fun _ => rfl⟩
  | .field number value rest,spelling,name,seen,oneofs,conforms,closed => by
    cases found : schema.field name number with
    | none =>
      simp only [stripDefaults,found] at conforms closed
      have ih : Compared spelling name rest := compared rest conforms closed
      constructor <;> simp only [spelled_unknown found,stripDefaults,found,faithful]
      · exact ih.closed
      · exact ih.sized
      · exact ih.longer
      · exact ih.forced
    | some desc =>
      cases plain : stripValue desc.kind desc.label value with
      | none =>
        simp only [stripDefaults,found,plain] at conforms closed
        exact Compared.field found (comparedValue value (by simp [plain])) (compared rest conforms closed)
      | some y =>
        simp only [stripDefaults,found,plain,Msg.conforms,Msg.closed,Bool.and_eq_true] at conforms closed
        exact Compared.field found (comparedValue value (by simp [plain,conforms.1.1.1,closed.1]))
          (compared rest conforms.2 closed.2)

theorem comparedValue : ∀ (value : Val) {spelling : Spelling} {kind : Kind Name} {label : Label},
    (∀ plain ∈ stripValue kind label value, plain.fits schema kind label = true ∧ plain.closed = true) →
    ComparedValue spelling kind label value
  | value,spelling,kind,label,fits => by
    rcases spelledValue_cases spelling kind label value with ⟨inner,m,rfl,rfl,rfl⟩ | ⟨n,bits,rfl,rfl,rfl,given⟩ | ⟨same,read⟩
    · obtain ⟨conforms,closed⟩ : (stripDefaults inner m).conforms schema inner [] [] = true ∧
          (stripDefaults inner m).closed = true := by
        by_cases hollow : isEmpty (stripDefaults inner m) = true
        · rw [stripDefaults_hollow hollow]
          exact ⟨rfl,rfl⟩
        · exact fits (.message (stripDefaults inner m)) (by simp [stripValue,hollow])
      exact ComparedValue.message (compared m conforms closed) conforms closed
    · constructor
      all_goals simp only [spelledValue_int64 given,Option.mem_def,Option.some.injEq,forall_eq',reduceCtorEq,false_implies]
      · rfl
      · trivial
      · intro plain kept wires
        simp only [stripValue,isDefaultScalar,Option.ite_none_left_eq_some,Option.some.injEq,beq_iff_eq] at kept
        obtain ⟨nonzero,rfl⟩ := kept
        simpa [faithfulValue,given,nonzero] using Value.varint.inj wires
    · constructor
      all_goals rw [same]
      · exact fun kept member => (fits kept member).2
      · exact fun kept member => Val.sized_fits (fits kept member).1
      · exact fun none => ⟨none,read⟩
      · exact fun _ _ _ _ _ => read

end

theorem faithful_of_encode {m : Msg} {seen : List Nat} {oneofs : List String}
    (conforms : (stripDefaults name m).conforms schema name seen oneofs = true) (closed : (stripDefaults name m).closed = true)
    (same : (spelled spelling name m).encode = (stripDefaults name m).encode) : faithful spelling name m = true := by
  have compared : Compared spelling name m := compared m conforms closed
  rw [Msg.encode_eq_encodeFields compared.closed,Msg.encode_eq_encodeFields closed] at same
  exact compared.forced (encodeFields_inj compared.sized (Msg.sized_conforms conforms) same)

mutual

/-- Where nothing is spelled otherwise, the object is written as it reads. -/
theorem faithful_plain : ∀ (m : Msg) (name : Name), faithful (fun _ => none) name m = true
  | .done _,_ => rfl
  | .field number value rest,name => by
    have read := faithful_plain rest name
    cases found : schema.field name number with
    | none => simp only [faithful,found,read,Bool.and_self]
    | some desc =>
      have first := faithfulValue_plain value desc.kind desc.label
      simp only [faithful,found,read,Bool.and_true]
      exact first

theorem faithfulValue_plain : ∀ (value : Val) (kind : Kind Name) (label : Label),
    faithfulValue (fun _ => none) kind label value = true
  | value,kind,label => by
    rcases spelledValue_cases (fun _ => none) kind label value with ⟨inner,m,rfl,rfl,rfl⟩ | ⟨n,bits,rfl,rfl,rfl,given⟩ | plain
    · exact faithful_plain m inner
    · cases given
    · exact plain.2

end

/-- What is nested in an object with a faithful spelling has one. -/
theorem faithful_get {m object : Msg} {inner : Name} {oneof : Option String} (read : faithful spelling name m = true)
    (known : schema.field name number = some ⟨number,.message inner,.singular,oneof⟩)
    (here : m.get? number = some (.message object)) : faithful (spelling.under number) inner object = true := by
  induction m with
  | done unknown => simp [Msg.get?] at here
  | field other value rest ih =>
    simp only [faithful,Bool.and_eq_true] at read
    by_cases same : other = number
    · subst same
      simp only [Msg.get?,if_true,Option.some.injEq] at here
      subst here
      simpa [known,faithfulValue] using read.1
    · rw [Msg.get?,if_neg same] at here
      exact ih read.2 here

/-! ### Packet objects -/

/-- An object that is given for a packet: the packet that it is validated as, and the seconds that are spelled
    otherwise. -/
structure TrustObject where
  packet : Packet
  spelling : Spelling

namespace TrustObject

variable {object : TrustObject}

/-- What is written of the object. -/
def fields (object : TrustObject) : Msg := spelled object.spelling .busPacket (Record.packet object.packet)

def marshalWorkerTrustPacket (object : TrustObject) : Except Error Bytes := do
  validateWorkerTrustPacket object.packet
  require (object.fields.encode.length ≤ maxPacketSize) (fail "size exceeds 65536 bytes")
  pure object.fields.encode

def writeMessage (object : TrustObject) (number : Nat) (name : Name) (value : Option Msg) : Fields :=
  entry number (sub (value.map (spelled (object.spelling.under number) name)))

def workerTrustTranscript (object : TrustObject) : Except Error Bytes :=
  writtenTranscript object.writeMessage object.packet

/-- No second is spelled in a way that is not read back. -/
def Faithful (object : TrustObject) : Prop := faithful object.spelling .busPacket (Record.packet object.packet) = true

instance : Decidable object.Faithful := inferInstanceAs (Decidable (_ = true))

theorem Faithful.transcript (read : object.Faithful) (valid : ValidPacket object.packet) :
    object.workerTrustTranscript = Node.workerTrustTranscript object.packet := by
  obtain ⟨phase,isPhase⟩ := Option.isSome_iff_exists.mp valid.payload.phase
  obtain ⟨member,carried⟩ := Packet.exists_payload isPhase
  obtain ⟨t,created,-⟩ := valid.created
  obtain ⟨known,last⟩ := payload_known carried isPhase
  have record := Record.packet_valid valid carried last
  simp only [created,Option.map_some,Records.sub,entry,Option.toList_some,List.map_singleton,prepend,List.foldr_cons,
    List.foldr_nil] at record
  have stamp : faithful (object.spelling.under 3) .timestamp (Record.timestamp t) = true :=
    faithful_get read rfl (by rw [record]; rfl)
  have payload : faithful (object.spelling.under member.number) (payloadType phase) (Record.payload member) = true := by
    refine faithful_get read known ?_
    rw [record]
    simp (disch := omega) only [Msg.get?,if_neg,if_true]
  simp [workerTrustTranscript,Node.workerTrustTranscript,writtenTranscript,encodeWorkerTrustUnsigned,writeMessage,
    Node.writeMessage,created,carried,isPhase,workerTrustPhase,
    spelled_of_faithful _ stamp,spelled_of_faithful _ payload]

/-- An object with numbers and `Long`s only is marshalled as its packet. -/
theorem marshal_plain (p : Packet) :
    marshalWorkerTrustPacket ⟨p,fun _ => none⟩ = Node.marshalWorkerTrustPacket p := by
  simp only [TrustObject.marshalWorkerTrustPacket,fields,
    spelled_of_faithful _ (faithful_plain _ _)]
  rfl

end TrustObject

end Cap.Trust.Node
