import Mathlib.Data.List.Flatten
import Mathlib.Data.List.Perm.Subperm
import Cap.Objects

/-!
Parts and variants of an object: what is left when properties that are not set are pruned, the
object with its maps in another order, and the properties of some of the numbers. All of them
keep the type of the object and make its encoding no longer.
-/
namespace Cap.Objects
open Cap.Text Cap.Wire Cap.Proto

/-! ### Leaving out what is not set -/

def Obj.isEmpty : Obj → Bool
  | .done _ => true
  | .set _ _ _ => false

mutual

/-- The object without scalars that count as zero and without empty lists and maps; `hollow` says
    whether messages without properties are left out as well. -/
def Obj.prune (zero : Val → Bool) (hollow : Bool) : Obj → Obj
  | .done unknown => .done unknown
  | .set number item rest => match item.prune zero hollow with
    | none => rest.prune zero hollow
    | some kept => .set number kept (rest.prune zero hollow)

def Item.prune (zero : Val → Bool) (hollow : Bool) : Item → Option Item
  | .scalar v => if zero v then none else some (.scalar v)
  | .numbers ns => if ns.isEmpty then none else some (.numbers ns)
  | .texts ss => if ss.isEmpty then none else some (.texts ss)
  | .map entries => if entries.isEmpty then none else some (.map entries)
  | .message o =>
    if hollow && (o.prune zero hollow).isEmpty then none else some (.message (o.prune zero hollow))
  | .element o => some (.element (o.prune zero hollow))

end

mutual

/-- The first object has some of the properties of the second, and parts of the messages in them. -/
inductive Obj.Part : Obj → Obj → Prop where
  | done (unknown : Bytes) : Obj.Part (.done unknown) (.done unknown)
  | skip {number : Nat} {item : Item} {a b : Obj} : Obj.Part a b → Obj.Part a (.set number item b)
  | keep {number : Nat} {kept item : Item} {a b : Obj} : Item.Part kept item → Obj.Part a b →
    Obj.Part (.set number kept a) (.set number item b)

inductive Item.Part : Item → Item → Prop where
  | whole (item : Item) : Item.Part item item
  | message {a b : Obj} : Obj.Part a b → Item.Part (.message a) (.message b)
  | element {a b : Obj} : Obj.Part a b → Item.Part (.element a) (.element b)

end

section
variable {zero : Val → Bool} {hollow : Bool}

mutual

theorem Obj.prune_part : ∀ o : Obj, (o.prune zero hollow).Part o
  | .done unknown => .done unknown
  | .set number item rest => by
    rw [Obj.prune]
    cases pruned : item.prune zero hollow with
    | none => exact .skip (Obj.prune_part rest)
    | some kept => exact .keep (Item.prune_part item pruned) (Obj.prune_part rest)

theorem Item.prune_part : ∀ (item : Item) {kept : Item}, item.prune zero hollow = some kept → kept.Part item
  | .message o,kept,pruned => by
    simp only [Item.prune,Option.ite_none_left_eq_some,Option.some.injEq] at pruned
    rw [← pruned.2]
    exact .message (Obj.prune_part o)
  | .element o,kept,pruned => by
    cases pruned
    exact .element (Obj.prune_part o)
  | .scalar _,kept,pruned | .numbers _,kept,pruned | .texts _,kept,pruned | .map _,kept,pruned => by
    simp only [Item.prune,Option.ite_none_left_eq_some,Option.some.injEq] at pruned
    rw [← pruned.2]
    exact .whole _

end

mutual

theorem Obj.prune_full : ∀ o : Obj, (o.prune zero hollow).full = true
  | .done _ => rfl
  | .set number item rest => by
    have later := Obj.prune_full rest
    rw [Obj.prune]
    cases pruned : item.prune zero hollow with
    | none => exact later
    | some kept =>
      rw [Obj.full,later,Item.prune_full item pruned]
      rfl

theorem Item.prune_full : ∀ (item : Item) {kept : Item}, item.prune zero hollow = some kept → kept.full = true
  | .message o,kept,pruned => by
    simp only [Item.prune,Option.ite_none_left_eq_some,Option.some.injEq] at pruned
    rw [← pruned.2]
    exact Obj.prune_full o
  | .element o,kept,pruned => by
    cases pruned
    exact Obj.prune_full o
  | .scalar _,kept,pruned | .numbers _,kept,pruned | .texts _,kept,pruned | .map _,kept,pruned => by
    simp only [Item.prune,Option.ite_none_left_eq_some,Option.some.injEq] at pruned
    simp [← pruned.2,Item.full,pruned.1]

end

end

mutual

theorem Obj.Part.maps {P : Entries → Prop} : ∀ {a b : Obj}, a.Part b → b.Maps P → a.Maps P
  | _,_,.done _,_ => trivial
  | _,_,.skip part,maps => part.maps maps.2
  | _,_,.keep item part,maps => ⟨item.maps maps.1,part.maps maps.2⟩

theorem Item.Part.maps {P : Entries → Prop} : ∀ {a b : Item}, a.Part b → b.Maps P → a.Maps P
  | _,_,.whole _,maps => maps
  | _,_,.message part,maps | _,_,.element part,maps => part.maps maps

end

mutual

theorem Obj.Part.closed : ∀ {a b : Obj}, a.Part b → b.closed = true → a.closed = true
  | _,_,.done _,closed => closed
  | _,_,.skip part,closed => part.closed (Bool.and_eq_true_iff.mp closed).2
  | _,_,.keep item part,closed => by
    rw [Obj.closed,Bool.and_eq_true] at closed ⊢
    exact ⟨item.closed closed.1,part.closed closed.2⟩

theorem Item.Part.closed : ∀ {a b : Item}, a.Part b → b.closed = true → a.closed = true
  | _,_,.whole _,closed => closed
  | _,_,.message part,closed | _,_,.element part,closed => part.closed closed

end

mutual

theorem Obj.reorder_closed (order : Entries → Entries) : ∀ o : Obj, (o.reorder order).closed = o.closed
  | .done _ => rfl
  | .set _ item rest => by
    rw [Obj.reorder,Obj.closed,Obj.closed,Item.reorder_closed order item,Obj.reorder_closed order rest]

theorem Item.reorder_closed (order : Entries → Entries) : ∀ item : Item, (item.reorder order).closed = item.closed
  | .message o => Obj.reorder_closed order o
  | .element o => Obj.reorder_closed order o
  | .map _ | .scalar _ | .numbers _ | .texts _ => rfl

end

section
variable {σ : Type} {schema : Schema σ}

theorem Obj.conforms_mono {name : σ} {o : Obj} {least less : Nat} {oneofs fewer : List String} (le : less ≤ least)
    (inside : ∀ oneof ∈ fewer, oneof ∈ oneofs) (conforms : o.conforms schema name least oneofs = true) :
    o.conforms schema name less fewer = true := by
  induction o generalizing least less oneofs fewer with
  | done unknown => rfl
  | set number item rest ih =>
    obtain ⟨desc,found,from_,fits,free,later⟩ := conforms_set.mp conforms
    refine conforms_set.mpr ⟨desc,found,le_trans le from_,fits,?_,ih le_rfl ?_ later⟩
    · simp only [List.all_eq_true,Bool.not_eq_true',List.contains_eq_mem,decide_eq_false_iff_not] at free ⊢
      exact fun oneof member old => free oneof member (inside oneof old)
    · intro oneof member
      rcases List.mem_append.mp member with here | old
      · exact List.mem_append_left _ here
      · exact List.mem_append_right _ (inside oneof old)

mutual

theorem Obj.Part.conforms : ∀ {a b : Obj} {name : σ} {least : Nat} {oneofs : List String}, a.Part b →
    b.conforms schema name least oneofs = true → a.conforms schema name least oneofs = true
  | _,_,_,_,_,.done _,_ => rfl
  | _,_,_,_,_,.skip part,conforms => by
    obtain ⟨desc,-,from_,-,-,later⟩ := Obj.conforms_set.mp conforms
    refine Obj.conforms_mono (le_trans from_ (Item.le_after _ _)) ?_ (part.conforms later)
    exact fun oneof member => List.mem_append_right _ member
  | _,_,_,_,_,.keep item part,conforms => by
    obtain ⟨desc,found,from_,fits,free,later⟩ := Obj.conforms_set.mp conforms
    refine Obj.conforms_set.mpr ⟨desc,found,from_,item.fits fits,free,?_⟩
    have next := part.conforms later
    cases item <;> exact next

theorem Item.Part.fits : ∀ {a b : Item} {kind : Kind σ} {label : Label}, a.Part b →
    b.fits schema kind label = true → a.fits schema kind label = true
  | _,_,_,_,.whole _,fits => fits
  | _,_,kind,label,.message part,fits | _,_,kind,label,.element part,fits => by
    cases label <;> cases kind <;> simp [Item.fits] at fits ⊢
    exact part.conforms fits

end

mutual

theorem Obj.Part.known {skip : Nat → Nat → Bytes → Option Nat} : ∀ {a b : Obj} {name : σ}, a.Part b →
    b.Known schema skip name → a.Known schema skip name
  | _,_,_,.done _,known => known
  | _,_,_,.skip part,known => part.known known.2
  | _,_,_,.keep item part,known => ⟨fun desc found => item.known (known.1 desc found),part.known known.2⟩

theorem Item.Part.known {skip : Nat → Nat → Bytes → Option Nat} : ∀ {a b : Item} {kind : Kind σ}, a.Part b →
    b.Known schema skip kind → a.Known schema skip kind
  | _,_,_,.whole _,known => known
  | _,_,.scalar _,.message _,_ | _,_,.scalar _,.element _,_ => trivial
  | _,_,.message _,.message part,known | _,_,.message _,.element part,known => part.known known

end

section
variable {order : Entries → Entries}

mutual

theorem Obj.reorder_conforms (within : ∀ entries, ∀ entry ∈ order entries, entry ∈ entries) : ∀ (o : Obj) {name : σ}
    {least : Nat} {oneofs : List String}, o.conforms schema name least oneofs = true →
    (o.reorder order).conforms schema name least oneofs = true
  | .done _,_,_,_,_ => rfl
  | .set number item rest,name,least,oneofs,conforms => by
    obtain ⟨desc,found,from_,fits,free,later⟩ := Obj.conforms_set.mp conforms
    refine Obj.conforms_set.mpr ⟨desc,found,from_,Item.reorder_fits within item fits,free,?_⟩
    rw [Item.after_reorder]
    exact Obj.reorder_conforms within rest later

theorem Item.reorder_fits (within : ∀ entries, ∀ entry ∈ order entries, entry ∈ entries) : ∀ (item : Item)
    {kind : Kind σ} {label : Label}, item.fits schema kind label = true →
    (item.reorder order).fits schema kind label = true
  | .map entries,kind,label,fits => by
    obtain ⟨rfl,type,rfl,held⟩ := Item.fits_map fits
    exact List.all_eq_true.mpr fun entry member => held entry (within entries entry member)
  | .message o,kind,label,fits | .element o,kind,label,fits => by
    cases label <;> cases kind <;> simp [Item.reorder,Item.fits] at fits ⊢
    exact Obj.reorder_conforms within o fits
  | .scalar _,_,_,fits | .numbers _,_,_,fits | .texts _,_,_,fits => fits

end

end

end

mutual

theorem Obj.reorder_reorder (f g : Entries → Entries) : ∀ o : Obj,
    (o.reorder f).reorder g = o.reorder fun entries => g (f entries)
  | .done _ => rfl
  | .set number item rest => by
    rw [Obj.reorder,Obj.reorder,Obj.reorder,Item.reorder_reorder f g item,Obj.reorder_reorder f g rest]

theorem Item.reorder_reorder (f g : Entries → Entries) : ∀ item : Item,
    (item.reorder f).reorder g = item.reorder fun entries => g (f entries)
  | .message o => congrArg Item.message (Obj.reorder_reorder f g o)
  | .element o => congrArg Item.element (Obj.reorder_reorder f g o)
  | .map _ | .scalar _ | .numbers _ | .texts _ => rfl

end

mutual

theorem Obj.reorder_eq_iff (f g : Entries → Entries) : ∀ o : Obj,
    o.reorder f = o.reorder g ↔ o.Maps fun entries => f entries = g entries
  | .done _ => by simp [Obj.reorder,Obj.Maps]
  | .set number item rest => by
    simp [Obj.reorder,Obj.Maps,Item.reorder_eq_iff f g item,Obj.reorder_eq_iff f g rest]

theorem Item.reorder_eq_iff (f g : Entries → Entries) : ∀ item : Item,
    item.reorder f = item.reorder g ↔ item.Maps fun entries => f entries = g entries
  | .message o => by simp only [Item.reorder,Item.Maps,Item.message.injEq,Obj.reorder_eq_iff f g o]
  | .element o => by simp only [Item.reorder,Item.Maps,Item.element.injEq,Obj.reorder_eq_iff f g o]
  | .map entries => by simp only [Item.reorder,Item.Maps,Item.map.injEq]
  | .scalar _ | .numbers _ | .texts _ => by simp [Item.reorder,Item.Maps]

end

def Item.bytes (number : Nat) (item : Item) : Bytes := (item.fields number (.done [])).encode

private theorem encode_several (number : Nat) (values : List Val) (rest : Msg) :
    (Msg.several number values rest).encode =
      values.flatMap (fun value => encodeField ⟨number,value.wire⟩) ++ rest.encode := by
  induction values with
  | nil => rfl
  | cons value values ih => rw [Msg.several_cons,Msg.encode,ih,List.flatMap_cons,List.append_assoc]

theorem encode_fields (number : Nat) (item : Item) (rest : Msg) :
    (item.fields number rest).encode = item.bytes number ++ rest.encode := by
  cases item with
  | numbers ns =>
    by_cases empty : ns = [] <;> simp [Item.bytes,Item.fields,empty,Msg.encode]
  | texts ss | map entries => simp [Item.bytes,Item.fields,encode_several,Msg.encode]
  | _ => simp [Item.bytes,Item.fields,Msg.encode]

theorem encode_record_set (number : Nat) (item : Item) (rest : Obj) :
    (Obj.set number item rest).record.encode = item.bytes number ++ rest.record.encode := by
  rw [Obj.record,encode_fields]

variable {number : Nat}

private theorem message_length_le {small large : Msg} (le : small.encode.length ≤ large.encode.length) :
    (encodeField ⟨number,.bytes small.encode⟩).length ≤ (encodeField ⟨number,.bytes large.encode⟩).length := by
  have := Cap.Varint.encodeVarint_length_mono le
  simp only [encodeField,Value.wireType,encodeValue,List.length_append]
  omega

mutual

theorem Obj.Part.length : ∀ {a b : Obj}, a.Part b → a.record.encode.length ≤ b.record.encode.length
  | _,_,.done _ => le_rfl
  | _,_,.skip part => by
    have later := part.length
    rw [encode_record_set,List.length_append]
    omega
  | _,_,.keep item part => by
    have here := item.length
    have later := part.length
    rw [encode_record_set,encode_record_set,List.length_append,List.length_append]
    exact Nat.add_le_add (here _) later

theorem Item.Part.length : ∀ {a b : Item}, a.Part b → ∀ number, (a.bytes number).length ≤ (b.bytes number).length
  | _,_,.whole _,_ => le_rfl
  | _,_,.message part,number | _,_,.element part,number => by
    simpa [Item.bytes,Item.fields,Msg.encode,Val.wire] using message_length_le part.length

end

private theorem flatMap_length_le {values others : List Val} (part : values.Subperm others) (number : Nat) :
    (values.flatMap fun value => encodeField ⟨number,value.wire⟩).length ≤
      (others.flatMap fun value => encodeField ⟨number,value.wire⟩).length := by
  obtain ⟨same,perm,sub⟩ := part
  rw [← (perm.flatMap_right _).length_eq]
  exact (sub.flatMap _).length_le

section
variable {order : Entries → Entries}

mutual

theorem Obj.reorder_length : ∀ o : Obj, (o.Maps fun entries => (order entries).Subperm entries) →
    (o.reorder order).record.encode.length ≤ o.record.encode.length
  | .done _,_ => le_rfl
  | .set number item rest,maps => by
    have here := Item.reorder_length item maps.1 number
    have later := Obj.reorder_length rest maps.2
    rw [Obj.reorder,encode_record_set,encode_record_set,List.length_append,List.length_append]
    omega

theorem Item.reorder_length : ∀ item : Item, (item.Maps fun entries => (order entries).Subperm entries) → ∀ number,
    ((item.reorder order).bytes number).length ≤ (item.bytes number).length
  | .map entries,part,number => by
    simp only [Item.reorder,Item.bytes,Item.fields,encode_several,List.length_append]
    obtain ⟨same,perm,sub⟩ := part
    exact Nat.add_le_add_right (flatMap_length_le ⟨_,perm.map entryValue,sub.map entryValue⟩ number) _
  | .message o,maps,number | .element o,maps,number => by
    simpa [Item.reorder,Item.bytes,Item.fields,Msg.encode,Val.wire] using message_length_le (Obj.reorder_length o maps)
  | .scalar _,_,_ | .numbers _,_,_ | .texts _,_,_ => le_rfl

end

end

mutual

theorem Obj.reorder_id : ∀ o : Obj, o.reorder (fun entries => entries) = o
  | .done _ => rfl
  | .set number item rest => by rw [Obj.reorder,Item.reorder_id item,Obj.reorder_id rest]

theorem Item.reorder_id : ∀ item : Item, item.reorder (fun entries => entries) = item
  | .message o => congrArg Item.message (Obj.reorder_id o)
  | .element o => congrArg Item.element (Obj.reorder_id o)
  | .map _ | .scalar _ | .numbers _ | .texts _ => rfl

end

mutual

theorem Obj.Maps.imp {P Q : Entries → Prop} (weaker : ∀ entries, P entries → Q entries) : ∀ {o : Obj},
    o.Maps P → o.Maps Q
  | .done _,_ => trivial
  | .set _ _ _,maps => ⟨Item.Maps.imp weaker maps.1,Obj.Maps.imp weaker maps.2⟩

theorem Item.Maps.imp {P Q : Entries → Prop} (weaker : ∀ entries, P entries → Q entries) : ∀ {item : Item},
    item.Maps P → item.Maps Q
  | .map entries,maps => weaker entries maps
  | .message _,maps | .element _,maps => Obj.Maps.imp weaker maps
  | .scalar _,_ | .numbers _,_ | .texts _,_ => trivial

end

mutual

theorem Obj.maps_of_forall {P : Entries → Prop} (all : ∀ entries, P entries) : ∀ o : Obj, o.Maps P
  | .done _ => trivial
  | .set _ item rest => ⟨Item.maps_of_forall all item,Obj.maps_of_forall all rest⟩

theorem Item.maps_of_forall {P : Entries → Prop} (all : ∀ entries, P entries) : ∀ item : Item, item.Maps P
  | .map entries => all entries
  | .message o | .element o => Obj.maps_of_forall all o
  | .scalar _ | .numbers _ | .texts _ => trivial

end

mutual

theorem Obj.maps_and {P Q : Entries → Prop} : ∀ {o : Obj}, o.Maps P → o.Maps Q →
    o.Maps fun entries => P entries ∧ Q entries
  | .done _,_,_ => trivial
  | .set _ _ _,first,second => ⟨Item.maps_and first.1 second.1,Obj.maps_and first.2 second.2⟩

theorem Item.maps_and {P Q : Entries → Prop} : ∀ {item : Item}, item.Maps P → item.Maps Q →
    item.Maps fun entries => P entries ∧ Q entries
  | .map _,first,second => ⟨first,second⟩
  | .message _,first,second | .element _,first,second => Obj.maps_and first second
  | .scalar _,_,_ | .numbers _,_,_ | .texts _,_,_ => trivial

end

theorem Obj.isEmpty_reorder (order : Entries → Entries) (o : Obj) : (o.reorder order).isEmpty = o.isEmpty := by
  cases o <;> rfl

section
variable {zero : Val → Bool} {hollow : Bool} {order : Entries → Entries}

mutual

/-- An order that leaves no map empty may come before or after. -/
theorem Obj.prune_reorder : ∀ o : Obj, (o.Maps fun entries => (order entries).isEmpty = entries.isEmpty) →
    (o.reorder order).prune zero hollow = (o.prune zero hollow).reorder order
  | .done _,_ => rfl
  | .set number item rest,maps => by
    rw [Obj.reorder,Obj.prune,Obj.prune,Item.prune_reorder item maps.1,Obj.prune_reorder rest maps.2]
    cases item.prune zero hollow <;> rfl

theorem Item.prune_reorder : ∀ item : Item, (item.Maps fun entries => (order entries).isEmpty = entries.isEmpty) →
    (item.reorder order).prune zero hollow = (item.prune zero hollow).map (Item.reorder order)
  | .map entries,same => by
    rw [Item.reorder,Item.prune,Item.prune,same]
    split <;> rfl
  | .message o,maps => by
    rw [Item.reorder,Item.prune,Item.prune,Obj.prune_reorder o maps,Obj.isEmpty_reorder]
    split <;> rfl
  | .element o,maps => by
    rw [Item.reorder,Item.prune,Obj.prune_reorder o maps]
    rfl
  | .scalar _,_ | .numbers _,_ | .texts _,_ => by
    simp only [Item.reorder,Item.prune]
    split <;> rfl

end

end

mutual

/-- A condition on the maps that are left holds of all, if it holds of the empty one. -/
theorem Obj.maps_of_prune (zero : Val → Bool) {P : Entries → Prop} (empty : P []) : ∀ o : Obj,
    (o.prune zero false).Maps P → o.Maps P
  | .done _,_ => trivial
  | .set number item rest,maps => by
    rw [Obj.prune] at maps
    cases pruned : item.prune zero false with
    | none =>
      rw [pruned] at maps
      exact ⟨Item.maps_of_prune zero empty item (by simp [pruned]),Obj.maps_of_prune zero empty rest maps⟩
    | some kept =>
      rw [pruned] at maps
      exact ⟨Item.maps_of_prune zero empty item (by simp [pruned,maps.1]),Obj.maps_of_prune zero empty rest maps.2⟩

theorem Item.maps_of_prune (zero : Val → Bool) {P : Entries → Prop} (empty : P []) : ∀ item : Item,
    (∀ kept ∈ item.prune zero false, kept.Maps P) → item.Maps P
  | .map entries,maps => by
    by_cases none : entries = []
    · subst none
      exact empty
    · exact maps (.map entries) (by simp [Item.prune,none])
  | .message o,maps => Obj.maps_of_prune zero empty o (maps (.message (o.prune zero false)) (by simp [Item.prune]))
  | .element o,maps => Obj.maps_of_prune zero empty o (maps (.element (o.prune zero false)) (by simp [Item.prune]))
  | .scalar _,_ | .numbers _,_ | .texts _,_ => trivial

end

def Obj.select (keep : Nat → Bool) : Obj → Obj
  | .done unknown => .done unknown
  | .set number item rest => if keep number then .set number item (rest.select keep) else rest.select keep

def Obj.get? (number : Nat) : Obj → Option Item
  | .done _ => none
  | .set other item rest => if other = number then some item else rest.get? number

section
variable {keep : Nat → Bool}

theorem Obj.select_part {o : Obj} : (o.select keep).Part o := by
  induction o with
  | done unknown => exact .done unknown
  | set number item rest ih =>
    rw [select]
    split
    · exact .keep (.whole item) ih
    · exact .skip ih

theorem Obj.select_full {o : Obj} (full : o.full = true) : (o.select keep).full = true := by
  induction o with
  | done unknown => rfl
  | set number item rest ih =>
    rw [Obj.full,Bool.and_eq_true] at full
    rw [select]
    split
    · rw [Obj.full,full.1,ih full.2]
      rfl
    · exact ih full.2

theorem Obj.mem_numbers_select {o : Obj} :
    number ∈ (o.select keep).numbers ↔ number ∈ o.numbers ∧ keep number = true := by
  induction o with
  | done unknown => simp [select,numbers]
  | set first item rest ih =>
    by_cases kept : keep first = true
    · simp only [select,kept,if_true,numbers,List.mem_cons,ih]
      constructor
      · rintro (rfl | later)
        · exact ⟨.inl rfl,kept⟩
        · exact ⟨.inr later.1,later.2⟩
      · rintro ⟨rfl | later,keeps⟩
        · exact .inl rfl
        · exact .inr ⟨later,keeps⟩
    · simp only [select,kept,if_false,Bool.false_eq_true,numbers,List.mem_cons,ih]
      constructor
      · exact fun later => ⟨.inr later.1,later.2⟩
      · rintro ⟨rfl | later,keeps⟩
        · exact absurd keeps kept
        · exact ⟨later,keeps⟩

end

section
variable {o : Obj} {keep other : Nat → Bool}

theorem Obj.select_congr (same : ∀ number ∈ o.numbers, keep number = other number) : o.select keep = o.select other := by
  induction o with
  | done unknown => rfl
  | set number item rest ih =>
    rw [select,select,same number (by simp [numbers]),ih fun n member => same n (by simp [numbers,member])]

theorem Obj.select_eq_self (all : ∀ number ∈ o.numbers, keep number = true) : o.select keep = o := by
  induction o with
  | done unknown => rfl
  | set number item rest ih =>
    rw [select,if_pos (all number (by simp [numbers])),ih fun n member => all n (by simp [numbers,member])]

theorem Obj.select_select : (o.select keep).select other = o.select fun number => keep number && other number := by
  induction o with
  | done unknown => rfl
  | set number item rest ih => cases kept : keep number <;> simp [select,kept,ih]

theorem Obj.get?_of_not_mem (absent : number ∉ o.numbers) : o.get? number = none := by
  induction o with
  | done unknown => rfl
  | set first item rest ih =>
    simp only [numbers,List.mem_cons,not_or] at absent
    rw [get?,if_neg (Ne.symm absent.1),ih absent.2]

theorem Obj.get?_of_mem (member : number ∈ o.numbers) : o.get? number ≠ none := by
  induction o with
  | done unknown => cases member
  | set first item rest ih =>
    rw [get?]
    by_cases here : first = number
    · simp [here]
    · rw [if_neg here]
      exact ih ((List.mem_cons.mp member).resolve_left (Ne.symm here))

variable {σ : Type} {schema : Schema σ} {name : σ} {least : Nat} {oneofs : List String}

theorem Obj.put_select {insert : String × Val → Entries → Entries} {item : Item}
    (conforms : o.conforms schema name least oneofs = true) (found : o.get? number = some item)
    (single : item.after number = number + 1) : (o.select (· ≠ number)).put insert number item = o := by
  induction o generalizing least oneofs with
  | done unknown => cases found
  | set first head rest ih =>
    obtain ⟨desc,-,-,-,-,later⟩ := conforms_set.mp conforms
    by_cases here : first = number
    · subst here
      obtain rfl : head = item := by simpa [get?] using found
      have others : rest.select (· ≠ first) = rest := by
        apply select_eq_self
        intro n member
        have := numbers_of_conforms later n member
        simpa using by omega
      rw [select,if_neg (by simp),others]
      exact put_first (from_of_conforms later)
    · rw [get?,if_neg here] at found
      have before : first < number := by
        have member : number ∈ rest.numbers := by
          by_contra absent
          rw [get?_of_not_mem absent] at found
          cases found
        have := numbers_of_conforms later number member
        have := Item.le_after first head
        omega
      rw [select,if_pos (by simpa using here),put,if_neg (by omega),if_pos before,ih later found]

end

/-! ### Writing an object in parts -/

def Obj.withUnknown (bytes : Bytes) : Obj → Obj
  | .done _ => .done bytes
  | .set number item rest => .set number item (rest.withUnknown bytes)

variable {bytes : Bytes}

theorem Obj.select_none {o : Obj} {keep : Nat → Bool} (none : ∀ number ∈ o.numbers, keep number = false) :
    (o.select keep).withUnknown bytes = .done bytes := by
  induction o with
  | done unknown => rfl
  | set number item rest ih =>
    rw [select,none number (by simp [numbers])]
    exact ih fun n member => none n (by simp [numbers,member])

private theorem fields_append (number : Nat) (item : Item) (rest more : Msg) :
    (item.fields number rest).append more = item.fields number (rest.append more) := by
  cases item with
  | numbers ns => by_cases empty : ns = [] <;> simp [Item.fields,empty,Msg.append]
  | texts ss | map entries => exact Msg.several_append ..
  | _ => rfl

theorem record_append_set (number : Nat) (item : Item) (rest : Obj) (m : Msg) :
    (((Obj.set number item rest).withUnknown []).record).append m =
      item.fields number ((rest.withUnknown []).record.append m) := by
  rw [Obj.withUnknown,Obj.record,fields_append]

theorem encode_record_append (o : Obj) (m : Msg) :
    ((o.withUnknown []).record.append m).encode = (o.withUnknown []).record.encode ++ m.encode := by
  induction o with
  | done unknown =>
    rw [Obj.withUnknown,Obj.record,Msg.nil_append]
    rfl
  | set number item rest ih =>
    rw [record_append_set,encode_fields,ih,Obj.withUnknown,encode_record_set,List.append_assoc]

section
variable {o : Obj} {σ : Type} {schema : Schema σ} {name : σ} {least : Nat} {oneofs : List String}

theorem Obj.withUnknown_conforms (bytes : Bytes) (conforms : o.conforms schema name least oneofs = true) :
    (o.withUnknown bytes).conforms schema name least oneofs = true := by
  induction o generalizing least oneofs with
  | done unknown => rfl
  | set number item rest ih =>
    obtain ⟨desc,found,from_,fits,free,later⟩ := conforms_set.mp conforms
    exact conforms_set.mpr ⟨desc,found,from_,fits,free,ih later⟩

theorem Obj.withUnknown_known {skip : Nat → Nat → Bytes → Option Nat}
    (foreign : Foreign schema skip name bytes) (known : o.Known schema skip name) :
    (o.withUnknown bytes).Known schema skip name := by
  induction o with
  | done unknown => exact foreign
  | set number item rest ih => exact ⟨known.1,ih known.2⟩

@[simp] theorem Obj.numbers_withUnknown (bytes : Bytes) (o : Obj) : (o.withUnknown bytes).numbers = o.numbers := by
  induction o with
  | done unknown => rfl
  | set number item rest ih => rw [withUnknown,numbers,numbers,ih]

theorem Obj.select_withUnknown (keep : Nat → Bool) (bytes : Bytes) (o : Obj) :
    (o.withUnknown bytes).select keep = (o.select keep).withUnknown bytes := by
  induction o with
  | done unknown => rfl
  | set number item rest ih => cases kept : keep number <;> simp [withUnknown,select,kept,ih]

@[simp] theorem Obj.withUnknown_withUnknown (first second : Bytes) (o : Obj) :
    (o.withUnknown first).withUnknown second = o.withUnknown second := by
  induction o with
  | done unknown => rfl
  | set number item rest ih => rw [withUnknown,withUnknown,withUnknown,ih]

theorem Obj.withUnknown_closed (closed : o.closed = true) : o.withUnknown [] = o := by
  induction o with
  | done unknown =>
    rw [Obj.closed,List.isEmpty_iff] at closed
    rw [withUnknown,closed]
  | set number item rest ih =>
    rw [Obj.closed,Bool.and_eq_true] at closed
    rw [withUnknown,ih closed.2]

theorem Obj.select_single {item : Item}
    (conforms : o.conforms schema name least oneofs = true) (found : o.get? number = some item)
    (single : item.after number = number + 1) :
    (o.select (· = number)).withUnknown bytes = .set number item (.done bytes) := by
  induction o generalizing least oneofs with
  | done unknown => cases found
  | set first head rest ih =>
    obtain ⟨desc,-,-,-,-,later⟩ := conforms_set.mp conforms
    by_cases here : first = number
    · subst here
      obtain rfl : head = item := by simpa [get?] using found
      have none : (rest.select (· = first)).withUnknown bytes = .done bytes := by
        apply select_none
        intro n member
        have := numbers_of_conforms later n member
        simpa using by omega
      rw [select,if_pos (by simp),withUnknown,none]
    · rw [get?,if_neg here] at found
      rw [select,if_neg (by simpa using here)]
      exact ih later found

theorem record_split (bound : Nat) (conforms : o.conforms schema name least oneofs = true) :
    ((o.select (· < bound)).withUnknown []).record.append (o.select (bound ≤ ·)).record = o.record := by
  induction o generalizing least oneofs with
  | done unknown => exact Msg.nil_append _
  | set number item rest ih =>
    obtain ⟨desc,-,-,-,-,later⟩ := Obj.conforms_set.mp conforms
    by_cases small : number < bound
    · have large : ¬ bound ≤ number := by omega
      rw [Obj.select,if_pos (by simpa using small),Obj.select,if_neg (by simpa using large),record_append_set,ih later]
      rfl
    · have large : bound ≤ number := by omega
      have after : ∀ n ∈ rest.numbers, bound ≤ n := fun n member =>
        le_trans large (le_trans (Item.le_after number item) (Obj.numbers_of_conforms later n member))
      -- no property after this one is small
      have whole : rest.select (bound ≤ ·) = rest := Obj.select_eq_self fun n member => by simpa using after n member
      have none : (rest.select (· < bound)).withUnknown [] = .done [] :=
        Obj.select_none fun n member => by simpa using after n member
      rw [Obj.select,if_neg (by simpa using small),Obj.select,if_pos (by simpa using large),whole,none]
      exact Msg.nil_append _

end

theorem unpacked_inj {σ : Type} {schema : Schema σ} {name : σ} {a b : Obj} {least : Nat} {oneofs : List String}
    (conformsA : a.conforms schema name least oneofs = true) (conformsB : b.conforms schema name least oneofs = true)
    (fullA : a.full = true) (fullB : b.full = true) (same : a.record.unpacked = b.record.unpacked) : a = b := by
  have objects := congrArg (toObject schema List.cons name) same
  rw [toObject_record (fun _ => rfl) a conformsA fullA,toObject_record (fun _ => rfl) b conformsB fullB] at objects
  simpa [Obj.reorder_id] using objects

/-! ### The numbers on the wire -/

private theorem numbers_several (number : Nat) (values : List Val) (rest : Msg) :
    (Msg.several number values rest).numbers = List.replicate values.length number ++ rest.numbers := by
  induction values with
  | nil => rfl
  | cons v values ih => rw [Msg.several_cons,Msg.numbers,ih,List.length_cons,List.replicate_succ,List.cons_append]

private theorem numbers_unpacked_several (number : Nat) (values : List Val) (rest : Msg) : ∃ count,
    (Msg.several number values rest).unpacked.numbers = List.replicate count number ++ rest.unpacked.numbers ∧
      ((∀ v ∈ values, v.unpacked ≠ []) → values ≠ [] → 0 < count) := by
  induction values with
  | nil => exact ⟨0,rfl,fun _ some => absurd rfl some⟩
  | cons v values ih =>
    obtain ⟨count,same,-⟩ := ih
    refine ⟨v.unpacked.length + count,?_,fun each _ => ?_⟩
    · rw [Msg.several_cons,Msg.unpacked,numbers_several,same,List.replicate_add,List.append_assoc]
    · have := List.length_pos_iff.mpr (each v (by simp))
      omega

section
variable {σ : Type} {schema : Schema σ} {name : σ} {o : Obj} {least : Nat} {oneofs : List String}

private theorem numbers_fields {item : Item} {kind : Kind σ} {label : Label}
    (fits : item.fits schema kind label = true) (rest : Msg) : ∃ count,
    (item.fields number rest).unpacked.numbers = List.replicate count number ++ rest.unpacked.numbers ∧
      (item.full = true → 0 < count) := by
  cases item with
  | scalar v =>
    cases label <;> cases kind <;> simp [Item.fits] at fits
    exact ⟨1,by simp [Item.fields,Msg.unpacked,Scalar.unpacked_held fits,Msg.numbers],by simp⟩
  | numbers ns =>
    by_cases empty : ns = []
    · exact ⟨0,by simp [Item.fields,empty],by simp [Item.full,empty]⟩
    · refine ⟨ns.length,?_,fun _ => List.length_pos_iff.mpr empty⟩
      simp [Item.fields,empty,Msg.unpacked,Val.unpacked,numbers_several]
  | texts ss =>
    obtain ⟨count,same,positive⟩ := numbers_unpacked_several number (ss.map .text) rest
    refine ⟨count,same,fun full => positive ?_ ?_⟩
    · simp [Val.unpacked]
    · simpa [Item.full] using full
  | map entries =>
    obtain ⟨count,same,positive⟩ := numbers_unpacked_several number (entries.map entryValue) rest
    refine ⟨count,same,fun full => positive ?_ ?_⟩
    · intro v member
      obtain ⟨entry,-,rfl⟩ := List.mem_map.mp member
      simp [entryValue,Val.unpacked]
    · simpa [Item.full] using full
  | message inner | element inner => exact ⟨1,rfl,fun _ => by simp⟩

theorem record_numbers (conforms : o.conforms schema name least oneofs = true) :
    o.record.unpacked.numbers.Pairwise (· ≤ ·) ∧ ∀ number ∈ o.record.unpacked.numbers, least ≤ number := by
  induction o generalizing least oneofs with
  | done unknown => simp [Obj.record,Msg.unpacked,Msg.numbers]
  | set number item rest ih =>
    obtain ⟨desc,-,from_,fits,-,later⟩ := Obj.conforms_set.mp conforms
    obtain ⟨sorted,bounded⟩ := ih later
    obtain ⟨count,same,-⟩ := numbers_fields fits rest.record
    have after : ∀ n ∈ rest.record.unpacked.numbers, number ≤ n := fun n member =>
      le_trans (Item.le_after number item) (bounded n member)
    rw [Obj.record,same]
    refine ⟨List.pairwise_append.mpr ⟨?_,sorted,?_⟩,?_⟩
    · exact List.pairwise_replicate.mpr (.inr le_rfl)
    · intro a memberA b memberB
      rw [List.eq_of_mem_replicate memberA]
      exact after b memberB
    · intro n member
      rcases List.mem_append.mp member with here | there
      · rw [List.eq_of_mem_replicate here]
        exact from_
      · exact le_trans from_ (after n there)

theorem mem_numbers_of_record (conforms : o.conforms schema name least oneofs = true) :
    ∀ number ∈ o.record.unpacked.numbers, number ∈ o.numbers := by
  induction o generalizing least oneofs with
  | done unknown => simp [Obj.record,Msg.unpacked,Msg.numbers]
  | set first item rest ih =>
    obtain ⟨desc,-,-,fits,-,later⟩ := Obj.conforms_set.mp conforms
    obtain ⟨count,same,-⟩ := numbers_fields fits rest.record
    intro number member
    rw [Obj.record,same] at member
    rcases List.mem_append.mp member with here | there
    · rw [List.eq_of_mem_replicate here]
      exact List.mem_cons_self
    · exact List.mem_cons_of_mem _ (ih later number there)

theorem mem_record_numbers (conforms : o.conforms schema name least oneofs = true) (full : o.full = true)
    (member : number ∈ o.numbers) : number ∈ o.record.unpacked.numbers := by
  induction o generalizing least oneofs with
  | done unknown => cases member
  | set first item rest ih =>
    obtain ⟨desc,-,-,fits,-,rests⟩ := Obj.conforms_set.mp conforms
    rw [Obj.full,Bool.and_eq_true] at full
    obtain ⟨count,same,positive⟩ := numbers_fields fits rest.record
    rw [Obj.record,same]
    rcases List.mem_cons.mp member with rfl | later
    · exact List.mem_append_left _ (List.mem_replicate.mpr ⟨by have := positive full.1; omega,rfl⟩)
    · exact List.mem_append_right _ (ih rests full.2 later)

end

end Cap.Objects
