import Cap.PacketObject

/-!
What Go signs of an ordinary packet (`signing.go`). The payload comes after the other fields, and
`marshalPacketForSignature` puts the session token behind everything.
-/
namespace Cap.PacketSignature
open Cap.Text Cap.Wire Cap.Proto Cap.Packets Cap.Objects

namespace Go

/-- Deterministic marshalling of a bus packet: the payload comes after the other fields. -/
def marshalDeterministic (packet : Obj) : Bytes :=
  let set := (value packet).reorder MapOrder.Go.mapEntries
  (((set.select fun number => !isPayload number).withUnknown []).record.append (set.select isPayload).record).encode

def marshalPacketForSignature (packet : Obj) : Bytes :=
  if authToken packet = "" ∨ packet.numbers.any isPayload = false then marshalDeterministic packet
  else marshalDeterministic (packet.select (· ≠ 18)) ++
    marshalDeterministic (.set 18 (.scalar (.text (authToken packet))) (.done []))

def marshalUnsignedForSignature (packet : Obj) : Bytes := marshalPacketForSignature (unsigned packet)

end Go

/-- A session token is not together with a payload whose number comes after it. -/
def InTurn (o : Obj) : Prop := authToken o = "" ∨ ∀ number ∈ o.numbers, isPayload number = true → number < 18

/-! ### The numbers of a packet -/

section
variable {o : Obj} {least : Nat} {oneofs : List String}

private theorem numbers_known (conforms : o.conforms schema .busPacket least oneofs = true) :
    ∀ number ∈ o.numbers, number ≤ 6 ∨ number = 14 ∨ number = 18 ∨ 10 ≤ number ∧ isPayload number = true := by
  have every : ∀ desc ∈ schema .busPacket, desc.number ≤ 6 ∨ desc.number = 14 ∨ desc.number = 18 ∨
      10 ≤ desc.number ∧ isPayload desc.number = true := by decide
  induction o generalizing least oneofs with
  | done unknown => simp [Obj.numbers]
  | set first item rest ih =>
    obtain ⟨desc,found,-,-,-,later⟩ := Obj.conforms_set.mp conforms
    intro number member
    rcases List.mem_cons.mp member with rfl | after
    · rw [← Schema.field_number found]
      exact every desc (List.mem_of_find?_eq_some found)
    · exact ih later number after

private theorem isPayload_small {number : Nat} (small : number ≤ 6) : isPayload number = false := by
  have : ∀ n, n ≤ 6 → isPayload n = false := by decide
  exact this number small

theorem value_numbers {number : Nat} (member : number ∈ (value o).numbers) : number ∈ o.numbers := by
  unfold value at member
  induction o with
  | done unknown => exact member
  | set first item rest ih =>
    rw [Obj.prune] at member
    cases pruned : item.prune isZero false with
    | none =>
      rw [pruned] at member
      exact List.mem_cons_of_mem _ (ih member)
    | some kept =>
      rw [pruned] at member
      rcases List.mem_cons.mp member with rfl | after
      · exact List.mem_cons_self
      · exact List.mem_cons_of_mem _ (ih after)

theorem payload_set (conforms : o.conforms schema .busPacket least oneofs = true) {number : Nat}
    (payload : isPayload number = true) (member : number ∈ o.numbers) : number ∈ (value o).numbers := by
  have every : ∀ desc ∈ schema .busPacket, isPayload desc.number = false ∨ (match desc.kind with
      | .message _ => true
      | .scalar _ => false) = true := by decide
  unfold value
  induction o generalizing least oneofs with
  | done unknown => exact member
  | set first item rest ih =>
    obtain ⟨desc,found,-,fits,-,later⟩ := Obj.conforms_set.mp conforms
    rw [Obj.prune]
    rcases List.mem_cons.mp member with rfl | after
    · have kind := every desc (List.mem_of_find?_eq_some found)
      rw [Schema.field_number found] at kind
      cases item with
      | message inner | element inner => simp [Item.prune,Obj.numbers]
      | _ =>
        cases label : desc.label <;> cases scalar : desc.kind <;> simp_all [Item.fits]
    · cases item.prune isZero false with
      | none => exact ih later after
      | some kept => exact List.mem_cons_of_mem _ (ih later after)

theorem value_select (keep : Nat → Bool) : value (o.select keep) = (value o).select keep := by
  unfold value
  induction o with
  | done unknown => rfl
  | set number item rest ih =>
    cases kept : keep number <;> cases pruned : item.prune isZero false
    all_goals simp [Obj.prune,Obj.select,kept,pruned,ih]

theorem value_token (conforms : o.conforms schema .busPacket least oneofs = true) :
    (value o).get? 18 = if authToken o = "" then none else some (.scalar (.text (authToken o))) := by
  unfold value
  induction o generalizing least oneofs with
  | done unknown => rfl
  | set number item rest ih =>
    obtain ⟨desc,found,-,fits,-,later⟩ := Obj.conforms_set.mp conforms
    by_cases here : number = 18
    · subst here
      obtain rfl : (⟨18,.scalar .string,.singular,none⟩ : FieldDesc Name) = desc := Option.some.inj found
      obtain ⟨s,rfl⟩ : ∃ s, item = .scalar (.text s) := by
        cases item with
        | scalar v => cases v <;> simp [Item.fits,Scalar.holds] at fits ⊢
        | _ => simp [Item.fits] at fits
      have token : authToken (.set 18 (.scalar (.text s)) rest) = s := rfl
      rw [token,Obj.prune,Item.prune]
      by_cases empty : s = ""
      · have absent : 18 ∉ (value rest).numbers := by
          intro member
          have := Obj.numbers_of_conforms later 18 (value_numbers member)
          simp [Item.after] at this
        have gone := Obj.get?_of_not_mem absent
        simpa [isZero,empty,value] using gone
      · simp [isZero,empty,Obj.get?]
    · have token : authToken (.set number item rest) = authToken rest := by simp [authToken,text,Obj.get?,here]
      rw [token,Obj.prune]
      cases item.prune isZero false with
      | none => exact ih later
      | some kept => simpa [Obj.get?,here] using ih later

end

/-! ### The parts that Go writes -/

private theorem value_listed {o : Obj} (sorted : o.Maps Sorted) : (value o).reorder MapOrder.Go.mapEntries = value o := by
  rw [← Obj.reorder_id (value o),Obj.reorder_reorder,Obj.reorder_eq_iff]
  exact ((Obj.prune_part o).maps sorted).imp fun entries sorted => mapEntries_sorted sorted

private def tokenField (token : String) (rest : Msg) : Msg := .field 18 (.text token) rest

private def front (o : Obj) : Obj := ((value o).select (· < 10)).withUnknown []

private def back (o : Obj) : Obj := (value o).select isPayload

private theorem marshal_token {token : String} (some : token ≠ "") :
    Go.marshalDeterministic (.set 18 (.scalar (.text token)) (.done [])) = (tokenField token (.done [])).encode := by
  simp [Go.marshalDeterministic,value,Obj.prune,Item.prune,isZero,some,Obj.reorder,Item.reorder,Obj.select,isPayload,
    Obj.withUnknown,Obj.record,Item.fields,tokenField]

section
variable {o : Obj} (conforms : o.conforms schema .busPacket 1 [] = true) (sorted : o.Maps Sorted)
  (bare : 14 ∉ o.numbers)
include conforms

private theorem marshal_ascending (sorted : o.Maps Sorted) (bound : Nat)
    (payload : ∀ number ∈ (value o).numbers, isPayload number = decide (bound ≤ number)) :
    Go.marshalDeterministic o = (value o).record.encode := by
  have others : ∀ number ∈ (value o).numbers, (!isPayload number) = decide (number < bound) := by
    intro number member
    rw [payload number member,← decide_not,decide_eq_decide]
    omega
  rw [Go.marshalDeterministic,value_listed sorted,Obj.select_congr payload,Obj.select_congr others]
  exact congrArg Msg.encode (record_split bound (value_conforms conforms))

private theorem token_unset (empty : authToken o = "") : 18 ∉ (value o).numbers := by
  intro member
  apply Obj.get?_of_mem member
  rw [value_token conforms,if_pos empty]

include bare

private theorem sides : ∀ number ∈ (value o).numbers, number ≤ 6 ∧ isPayload number = false ∨
    number = 18 ∧ isPayload number = false ∨ 10 ≤ number ∧ number ≠ 18 ∧ isPayload number = true := by
  intro number member
  rcases numbers_known (value_conforms conforms) number member with small | rfl | rfl | ⟨large,payload⟩
  · exact .inl ⟨small,isPayload_small small⟩
  · exact absurd (value_numbers member) bare
  · exact .inr (.inl ⟨rfl,rfl⟩)
  · refine .inr (.inr ⟨large,?_,payload⟩)
    rintro rfl
    cases payload

include sorted

private theorem marshal_plain (plain : 18 ∉ (value o).numbers) : Go.marshalDeterministic o = (value o).record.encode := by
  refine marshal_ascending conforms sorted 10 fun number member => ?_
  rcases sides conforms bare number member with ⟨small,none⟩ | ⟨rfl,-⟩ | ⟨large,-,some⟩
  · simpa [none] using by omega
  · exact absurd member plain
  · simpa [some] using large

private theorem marshal_bare (none : o.numbers.any isPayload = false) :
    Go.marshalDeterministic o = (value o).record.encode := by
  refine marshal_ascending conforms sorted 19 fun number member => ?_
  have unset : isPayload number = false := by simpa using List.any_eq_false.mp none number (value_numbers member)
  rcases sides conforms bare number member with ⟨small,-⟩ | ⟨rfl,-⟩ | ⟨-,-,some⟩
  · simpa [unset] using by omega
  · rfl
  · rw [unset] at some
    cases some

private theorem marshal_early (some : authToken o ≠ "") :
    Go.marshalDeterministic o = (front o).record.encode ++ (tokenField (authToken o) (back o).record).encode := by
  have found : (value o).get? 18 = .some (.scalar (.text (authToken o))) := by rw [value_token conforms,if_neg some]
  have others : (((value o).select fun number => !isPayload number).withUnknown []).record =
      (front o).record.append (tokenField (authToken o) (.done [])) := by
    have typed : ((value o).select fun number => !isPayload number).conforms schema .busPacket 1 [] = true :=
      Obj.select_part.conforms (value_conforms conforms)
    have before : ∀ number ∈ (value o).numbers, (!isPayload number && decide (number < 18)) = decide (number < 10) := by
      intro number member
      rcases sides conforms bare number member with ⟨small,none⟩ | ⟨rfl,-⟩ | ⟨large,-,payload⟩
      · simp [none,show number < 18 by omega,show number < 10 by omega]
      · rfl
      · simp [payload,show ¬ number < 10 by omega]
    have after : ∀ number ∈ (value o).numbers, (!isPayload number && decide (18 ≤ number)) = decide (number = 18) := by
      intro number member
      rcases sides conforms bare number member with ⟨small,none⟩ | ⟨rfl,-⟩ | ⟨-,other,payload⟩
      · simp [show ¬ 18 ≤ number by omega,show number ≠ 18 by omega]
      · rfl
      · simp [payload,other]
    rw [← record_split 18 (Obj.withUnknown_conforms [] typed),Obj.select_withUnknown,Obj.select_withUnknown,
      Obj.select_select,Obj.select_select,Obj.select_congr before,Obj.select_congr after,
      Obj.select_single (value_conforms conforms) found rfl,Obj.withUnknown_withUnknown]
    rfl
  rw [Go.marshalDeterministic,value_listed sorted,others,Msg.append_assoc,front,encode_record_append,tokenField,Msg.append,
    Msg.nil_append]
  rfl

private theorem marshal_late (some : authToken o ≠ "") (payload : o.numbers.any isPayload = true) :
    Go.marshalPacketForSignature o =
      ((value o).select (· ≠ 18)).record.encode ++ (tokenField (authToken o) (.done [])).encode := by
  have rest : Go.marshalDeterministic (o.select (· ≠ 18)) = (value (o.select (· ≠ 18))).record.encode := by
    refine marshal_plain (Obj.select_part.conforms conforms) (Obj.select_part.maps sorted) ?_ ?_
    · exact fun member => bare (Obj.mem_numbers_select.mp member).1
    · rw [value_select]
      intro member
      simpa using (Obj.mem_numbers_select.mp member).2
  rw [Go.marshalPacketForSignature,if_neg (by simp [some,payload]),marshal_token some,rest,value_select]

theorem marshal_in_turn (closed : o.closed = true) (turn : InTurn o) :
    Go.marshalPacketForSignature o = (value o).record.encode := by
  by_cases empty : authToken o = ""
  · rw [Go.marshalPacketForSignature,if_pos (.inl empty)]
    exact marshal_plain conforms sorted bare (token_unset conforms empty)
  by_cases payload : o.numbers.any isPayload = true
  · have upTo : ∀ number ∈ (value o).numbers, number ≤ 18 := by
      intro number member
      rcases sides conforms bare number member with ⟨small,-⟩ | ⟨rfl,-⟩ | ⟨-,-,some⟩
      · omega
      · omega
      · exact le_of_lt (turn.resolve_left empty number (value_numbers member) some)
    have before : ∀ number ∈ (value o).numbers, decide (number < 18) = decide (number ≠ 18) := by
      intro number member
      rw [decide_eq_decide]
      have := upTo number member
      omega
    have after : ∀ number ∈ (value o).numbers, decide (18 ≤ number) = decide (number = 18) := by
      intro number member
      rw [decide_eq_decide]
      have := upTo number member
      omega
    have whole : ∀ keep, ((value o).select keep).withUnknown [] = (value o).select keep :=
      fun keep => Obj.withUnknown_closed (Obj.select_part.closed ((Obj.prune_part o).closed closed))
    have found : (value o).get? 18 = some (.scalar (.text (authToken o))) := by rw [value_token conforms,if_neg empty]
    have token : ((value o).select (· = 18)).withUnknown [] = _ := Obj.select_single (value_conforms conforms) found rfl
    rw [whole] at token
    rw [marshal_late conforms sorted bare empty payload,← record_split 18 (value_conforms conforms),
      encode_record_append,Obj.select_congr before,Obj.select_congr after,whole,token]
    rfl
  · rw [Go.marshalPacketForSignature,if_pos (.inr (by simpa using payload))]
    exact marshal_bare conforms sorted bare (by simpa using payload)

end

theorem value_authToken {o : Obj} (conforms : o.conforms schema .busPacket 1 [] = true) :
    authToken (value o) = authToken o := by
  have found := value_token conforms
  change text 18 (value o) = authToken o
  by_cases empty : authToken o = ""
  · rw [text,found,if_pos empty,empty]
  · rw [text,found,if_neg empty]

section
variable (skip : Nat → Nat → Bytes → Option Nat)

/-- The bytes are read as the object, wherever its session token stands. -/
def Reads (bytes : Bytes) (o : Obj) : Prop :=
  ∃ m, unmarshal schema skip .busPacket bytes = some m ∧ m.clear 18 = (o.select (· ≠ 18)).record.unpacked ∧
    m.text 18 = authToken o

end

section
variable {skip : Nat → Nat → Bytes → Option Nat} {bytes : Bytes}

theorem reads_inj {o p : Obj} (conformsO : o.conforms schema .busPacket 1 [] = true)
    (conformsP : p.conforms schema .busPacket 1 [] = true) (readsO : Reads skip bytes (value o))
    (readsP : Reads skip bytes (value p)) : value o = value p := by
  obtain ⟨m,decoded,rest,token⟩ := readsO
  obtain ⟨m',decoded',rest',token'⟩ := readsP
  rw [decoded,Option.some.injEq] at decoded'
  subst decoded'
  have others : (value o).select (· ≠ 18) = (value p).select (· ≠ 18) := by
    refine unpacked_inj (Obj.select_part.conforms (value_conforms conformsO)) (Obj.select_part.conforms (value_conforms conformsP))
      (Obj.select_full (Obj.prune_full o)) (Obj.select_full (Obj.prune_full p)) ?_
    rw [← rest,rest']
  have tokens : authToken o = authToken p := by
    rw [← value_authToken conformsO,← value_authToken conformsP,← token,token']
  have foundO := value_token conformsO
  have foundP := value_token conformsP
  rw [← tokens] at foundP
  by_cases empty : authToken o = ""
  · have whole : ∀ {q : Obj}, (value q).get? 18 = none → (value q).select (· ≠ 18) = value q := by
      intro q unset
      refine Obj.select_eq_self fun number member => ?_
      have : number ≠ 18 := by
        rintro rfl
        exact Obj.get?_of_mem member unset
      simpa using this
    rw [if_pos empty] at foundO foundP
    rw [← whole foundO,← whole foundP,others]
  · rw [if_neg empty] at foundO foundP
    have back : ((value o).select (· ≠ 18)).put insertEntry 18 (.scalar (.text (authToken o))) = value o :=
      Obj.put_select (value_conforms conformsO) foundO rfl
    rw [← back,others,Obj.put_select (value_conforms conformsP) foundP rfl]

private structure Part (skip : Nat → Nat → Bytes → Option Nat) (part : Obj) : Prop where
  conforms : part.conforms schema .busPacket 1 [] = true
  known : part.Known schema skip .busPacket
  apart : 18 ∉ part.numbers

namespace Part
variable {part : Obj}

private theorem typed (p : Part skip part) : part.record.conforms schema .busPacket [] [] = true :=
  record_conforms schema_unshared part [] p.conforms (by simp)

private theorem record_known (p : Part skip part) : part.record.Known schema skip .busPacket :=
  Objects.record_known part p.conforms p.known

private theorem not_mem (p : Part skip part) : 18 ∉ part.record.unpacked.numbers :=
  fun member => p.apart (mem_numbers_of_record p.conforms 18 member)

private theorem clear (p : Part skip part) : part.record.unpacked.clear 18 = part.record.unpacked :=
  Msg.clear_of_get?_eq_none (Msg.get?_of_not_mem p.not_mem)

end Part

private theorem text_append {m rest : Msg} {token : String} (absent : 18 ∉ m.numbers) :
    (m.append (tokenField token rest)).text 18 = token := by
  induction m with
  | done unknown => rfl
  | field number v inner ih =>
    simp only [Msg.numbers,List.mem_cons,not_or] at absent
    have later := ih absent.2
    simpa [Msg.append,Msg.text,Msg.get?,Ne.symm absent.1] using later

section
variable {o : Obj} (conforms : o.conforms schema .busPacket 1 [] = true) (known : o.Known schema skip .busPacket)
include conforms known

private theorem part_select {keep : Nat → Bool} (apart : 18 ∉ ((value o).select keep).numbers) :
    Part skip ((value o).select keep) :=
  ⟨Obj.select_part.conforms (value_conforms conforms),Obj.select_part.known ((Obj.prune_part o).known known),apart⟩

private theorem reads_plain (plain : 18 ∉ (value o).numbers) (short : (value o).record.encode.length < 2 ^ 63) :
    Reads skip (value o).record.encode (value o) := by
  have whole : (value o).select (· ≠ 18) = value o := Obj.select_eq_self fun number member => by
    have : number ≠ 18 := fun same => plain (same ▸ member)
    simpa using this
  have part : Part skip (value o) := ⟨value_conforms conforms,(Obj.prune_part o).known known,plain⟩
  refine ⟨_,unmarshal_encode schema_sound part.typed part.record_known short,?_,?_⟩
  · rw [whole,part.clear]
  · rw [Msg.text,Msg.get?_of_not_mem part.not_mem,authToken,text,Obj.get?_of_not_mem plain]

private theorem rest_part : Part skip ((value o).select (· ≠ 18)) :=
  part_select conforms known fun member => by simpa using (Obj.mem_numbers_select.mp member).2

private theorem unmarshal_late (short : (((value o).select (· ≠ 18)).record.encode ++
    (tokenField (authToken o) (.done [])).encode).length < 2 ^ 63) :
    unmarshal schema skip .busPacket (((value o).select (· ≠ 18)).record.encode ++
      (tokenField (authToken o) (.done [])).encode) =
      some (((value o).select (· ≠ 18)).record.unpacked.append (tokenField (authToken o) (.done []))) := by
  have part := rest_part conforms known
  -- the only oneof is that of the payload
  have holding : Holding schema .busPacket ((value o).select (· ≠ 18)).record.unpacked.numbers ["payload"]
      ((value o).select (· ≠ 18)).record.unpacked := by
    refine ⟨fun number member => member,fun number _ desc found oneof used => ?_⟩
    have every : ∀ desc ∈ schema .busPacket, ∀ oneof ∈ desc.oneof, oneof ∈ ["payload"] := by decide
    exact every desc (List.mem_of_find?_eq_some found) oneof used
  have typed : (tokenField (authToken o) (.done [])).conforms schema .busPacket
      ((value o).select (· ≠ 18)).record.unpacked.numbers ["payload"] = true := by
    have absent := part.not_mem
    have found : schema.field .busPacket 18 = some ⟨18,.scalar .string,.singular,none⟩ := rfl
    simpa [tokenField,Msg.conforms,found,Val.fits,Scalar.holds] using absent
  exact unmarshal_append schema_sound part.typed typed part.record_known ⟨fun _ _ => trivial,foreign_nil _⟩ holding short

private theorem reads_late (short : (((value o).select (· ≠ 18)).record.encode ++
    (tokenField (authToken o) (.done [])).encode).length < 2 ^ 63) :
    Reads skip (((value o).select (· ≠ 18)).record.encode ++ (tokenField (authToken o) (.done [])).encode) (value o) := by
  have part := rest_part conforms known
  refine ⟨_,unmarshal_late conforms known short,?_,?_⟩
  · rw [Msg.clear_append,part.clear]
    simp [tokenField,Msg.clear]
  · rw [value_authToken conforms]
    exact text_append part.not_mem

private theorem front_part : Part skip (front o) := by
  refine ⟨Obj.withUnknown_conforms [] (Obj.select_part.conforms (value_conforms conforms)),?_,fun member => ?_⟩
  · exact Obj.withUnknown_known (foreign_nil _) (Obj.select_part.known ((Obj.prune_part o).known known))
  · rw [front,Obj.numbers_withUnknown] at member
    simpa using (Obj.mem_numbers_select.mp member).2

private theorem back_part : Part skip (back o) :=
  part_select conforms known fun member => by cases (Obj.mem_numbers_select.mp member).2

omit known in
private theorem front_small : ∀ number ∈ (front o).record.unpacked.numbers, number < 10 := by
  have typed : (front o).conforms schema .busPacket 1 [] = true :=
    Obj.withUnknown_conforms [] (Obj.select_part.conforms (value_conforms conforms))
  intro number member
  have inside := mem_numbers_of_record typed number member
  rw [front,Obj.numbers_withUnknown] at inside
  simpa using (Obj.mem_numbers_select.mp inside).2

omit known in
private theorem front_holding : Holding schema .busPacket (front o).record.unpacked.numbers [] (front o).record.unpacked := by
  refine ⟨fun number member => member,fun number member desc found oneof used => ?_⟩
  have every : ∀ desc ∈ schema .busPacket, desc.number < 10 → desc.oneof = none := by decide
  have none := every desc (List.mem_of_find?_eq_some found) (by
    rw [Schema.field_number found]
    exact front_small conforms number member)
  rw [none] at used
  cases used

private theorem back_typed : (tokenField (authToken o) (back o).record).conforms schema .busPacket
    (front o).record.unpacked.numbers [] = true := by
  have rest := record_conforms schema_unshared (back o) (18 :: (front o).record.unpacked.numbers)
    (back_part conforms known).conforms (by
      intro number member inside
      rcases List.mem_cons.mp member with rfl | old
      · exact absurd inside (back_part conforms known).apart
      · have none : ∀ n, n < 10 → isPayload n = false := by decide
        have some := (Obj.mem_numbers_select.mp inside).2
        rw [none number (front_small conforms number old)] at some
        cases some)
  have found : schema.field .busPacket 18 = some ⟨18,.scalar .string,.singular,none⟩ := rfl
  have absent := (front_part conforms known).not_mem
  simpa [tokenField,Msg.conforms,found,Val.fits,Scalar.holds,rest] using absent

omit known in
private theorem front_append_back (bare : 14 ∉ o.numbers) :
    (front o).record.append (back o).record = ((value o).select (· ≠ 18)).record := by
  have low : ∀ number ∈ (value o).numbers, (decide (number ≠ 18) && decide (number < 10)) = decide (number < 10) := by
    intro number _
    by_cases small : number < 10
    · simp [small,show number ≠ 18 by omega]
    · simp [small]
  have high : ∀ number ∈ (value o).numbers, (decide (number ≠ 18) && decide (10 ≤ number)) = isPayload number := by
    intro number member
    rcases sides conforms bare number member with ⟨small,none⟩ | ⟨rfl,-⟩ | ⟨large,other,some⟩
    · simp [none,show ¬ 10 ≤ number by omega]
    · rfl
    · simp [some,large,other]
  have typed : ((value o).select (· ≠ 18)).conforms schema .busPacket 1 [] = true :=
    Obj.select_part.conforms (value_conforms conforms)
  rw [← record_split 10 typed,Obj.select_select,Obj.select_select,Obj.select_congr low,Obj.select_congr high]
  rfl

private theorem reads_early (bare : 14 ∉ o.numbers)
    (short : ((front o).record.encode ++ (tokenField (authToken o) (back o).record).encode).length < 2 ^ 63) :
    Reads skip ((front o).record.encode ++ (tokenField (authToken o) (back o).record).encode) (value o) := by
  have first := front_part conforms known
  have second := back_part conforms known
  refine ⟨_,unmarshal_append schema_sound first.typed (back_typed conforms known) first.record_known
    ⟨fun _ _ => trivial,second.record_known⟩ (front_holding conforms) short,?_,?_⟩
  · rw [← front_append_back conforms bare,Msg.unpacked_append,Msg.clear_append,first.clear]
    simp [tokenField,Msg.unpacked,Val.unpacked,Msg.clear,second.clear]
  · rw [value_authToken conforms]
    exact text_append first.not_mem

variable (sorted : o.Maps Sorted) (bare : 14 ∉ o.numbers)
include sorted bare

theorem reads_marshalDeterministic (short : (Go.marshalDeterministic o).length < 2 ^ 63) :
    Reads skip (Go.marshalDeterministic o) (value o) := by
  by_cases empty : authToken o = ""
  · have plain := token_unset conforms empty
    rw [marshal_plain conforms sorted bare plain] at short ⊢
    exact reads_plain conforms known plain short
  · rw [marshal_early conforms sorted bare empty] at short ⊢
    exact reads_early conforms known bare short

theorem reads_marshalPacketForSignature (short : (Go.marshalPacketForSignature o).length < 2 ^ 63) :
    Reads skip (Go.marshalPacketForSignature o) (value o) := by
  by_cases plain : authToken o = "" ∨ o.numbers.any isPayload = false
  · rw [Go.marshalPacketForSignature,if_pos plain] at short ⊢
    exact reads_marshalDeterministic conforms known sorted bare short
  · simp only [not_or,Bool.not_eq_false] at plain
    rw [marshal_late conforms sorted bare plain.1 plain.2] at short ⊢
    exact reads_late conforms known short

theorem marshal_out_of_turn (turn : ¬ InTurn o) {other : Obj} (typed : other.conforms schema .busPacket 1 [] = true)
    (otherKnown : other.Known schema skip .busPacket) (short : other.record.encode.length < 2 ^ 63) :
    other.record.encode ≠ Go.marshalPacketForSignature o := by
  simp only [InTurn,not_or,not_forall] at turn
  obtain ⟨some,number,member,payload,late⟩ := turn
  have apart : number ≠ 18 := by
    rintro rfl
    cases payload
  intro same
  rw [marshal_late conforms sorted bare some (List.any_eq_true.mpr ⟨number,member,payload⟩)] at same
  have read := unmarshal_encode schema_sound (record_conforms schema_unshared other [] typed (by simp))
    (record_known other typed otherKnown) short
  rw [same,unmarshal_late conforms known (same ▸ short),Option.some.injEq] at read
  -- the payload comes before the token, though its number is larger
  have inside : number ∈ ((value o).select (· ≠ 18)).record.unpacked.numbers := by
    refine mem_record_numbers (Obj.select_part.conforms (value_conforms conforms)) (Obj.select_full (Obj.prune_full o)) ?_
    exact Obj.mem_numbers_select.mpr ⟨payload_set conforms payload member,by simpa using apart⟩
  have ascending := (record_numbers typed).1
  rw [← read,Msg.numbers_append] at ascending
  have before := (List.pairwise_append.mp ascending).2.2 number inside 18 List.mem_cons_self
  omega

end

end

section
variable {o : Obj}

theorem get?_select {keep : Nat → Bool} {number : Nat} (kept : keep number = true) :
    (o.select keep).get? number = o.get? number := by
  induction o with
  | done unknown => rfl
  | set first item rest ih =>
    by_cases here : first = number
    · subst here
      simp [Obj.select,Obj.get?,kept]
    · cases keeps : keep first <;> simp [Obj.select,Obj.get?,keeps,here,ih]

variable (conforms : o.conforms schema .busPacket 1 [] = true)
include conforms

private theorem value_traceId (named : traceId o ≠ "") :
    ∃ rest, value o = .set 1 (.scalar (.text (traceId o))) rest := by
  cases o with
  | done unknown => exact absurd rfl named
  | set number item rest =>
    obtain ⟨desc,found,least,fits,-,later⟩ := Obj.conforms_set.mp conforms
    by_cases here : number = 1
    · subst here
      obtain rfl : (⟨1,.scalar .string,.singular,none⟩ : FieldDesc Name) = desc := Option.some.inj found
      obtain ⟨s,rfl⟩ : ∃ s, item = .scalar (.text s) := by
        cases item with
        | scalar v => cases v <;> simp [Item.fits,Scalar.holds] at fits ⊢
        | _ => simp [Item.fits] at fits
      have trace : traceId (.set 1 (.scalar (.text s)) rest) = s := rfl
      rw [trace] at named ⊢
      exact ⟨value rest,by simp [value,Obj.prune,Item.prune,isZero,named]⟩
    · have absent : 1 ∉ rest.numbers := by
        intro member
        have := Obj.numbers_of_conforms later 1 member
        have := Item.le_after number item
        omega
      refine absurd ?_ named
      rw [traceId,text,Obj.get?,if_neg here,Obj.get?_of_not_mem absent]

omit conforms in
private theorem encode_first (s : String) (rest : Obj) :
    ∃ bytes, (Obj.set 1 (.scalar (.text s)) rest).record.encode = 10 :: bytes := by
  refine ⟨encodeValue (.bytes (utf8 s)) ++ rest.record.encode,?_⟩
  rw [encode_record_set]
  simp [Item.bytes,Item.fields,Msg.encode,encodeField,Val.wire]
  rfl

variable (sorted : o.Maps Sorted) (bare : 14 ∉ o.numbers)
include sorted bare

theorem marshal_first (named : traceId o ≠ "") : ∃ rest, Go.marshalPacketForSignature o = 10 :: rest := by
  obtain ⟨rest,first⟩ := value_traceId conforms named
  have append : ∀ {a b : Bytes}, (∃ rest, a = 10 :: rest) → ∃ rest, a ++ b = 10 :: rest := by
    rintro a b ⟨rest,rfl⟩
    exact ⟨rest ++ b,rfl⟩
  by_cases empty : authToken o = ""
  · rw [Go.marshalPacketForSignature,if_pos (.inl empty),
      marshal_plain conforms sorted bare (token_unset conforms empty),first]
    exact encode_first _ _
  by_cases payload : o.numbers.any isPayload = true
  · rw [marshal_late conforms sorted bare empty payload,first]
    exact append (encode_first _ _)
  · rw [Go.marshalPacketForSignature,if_pos (.inr (by simpa using payload)),
      marshal_bare conforms sorted bare (by simpa using payload),first]
    exact encode_first _ _

end

end Cap.PacketSignature
