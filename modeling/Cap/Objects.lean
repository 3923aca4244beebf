import Cap.MapOrder
import Cap.RoundTrip

/-!
Messages as objects. An object has a property for each field that is set, lists and maps being
single values, and the bytes of unknown fields.
-/
namespace Cap.Objects
open Cap.Text Cap.Wire Cap.Proto
open Cap.MapOrder (byteLe)

abbrev Entries := List (String × Val)

mutual

inductive Item where
  | scalar (v : Val)
  | numbers (ns : List Nat)
  | texts (ss : List String)
  | map (entries : Entries)
  | message (o : Obj)
  | element (o : Obj)

inductive Obj where
  /-- The bytes of unknown fields. -/
  | done (unknown : Bytes)
  | set (number : Nat) (item : Item) (rest : Obj)

end

deriving instance DecidableEq for Item
deriving instance DecidableEq for Obj

/-- Induction along the properties of an object, without going into them. -/
@[elab_as_elim, induction_eliminator]
theorem Obj.spine {motive : Obj → Prop} (done : ∀ unknown, motive (.done unknown))
    (set : ∀ number item rest, motive rest → motive (.set number item rest)) : ∀ o, motive o
  | .done unknown => done unknown
  | .set number item rest => set number item rest (Obj.spine done set rest)

def entryValue (entry : String × Val) : Val := .message (.field 1 (.text entry.1) (.field 2 entry.2 (.done [])))

mutual

/-- The fields of an object, in the order of its properties; numbers are packed. -/
def Obj.record : Obj → Msg
  | .done unknown => .done unknown
  | .set number item rest => item.fields number rest.record

def Item.fields (number : Nat) (rest : Msg) : Item → Msg
  | .scalar v => .field number v rest
  | .numbers ns => if ns = [] then rest else .field number (.packed ns) rest
  | .texts ss => .several number (ss.map .text) rest
  | .map entries => .several number (entries.map entryValue) rest
  | .message o => .field number (.message o.record) rest
  | .element o => .field number (.message o.record) rest

end

def Item.join (insert : String × Val → Entries → Entries) : Item → Item → Option Item
  | .numbers ns,.numbers more => some (.numbers (ns ++ more))
  | .texts ss,.texts more => some (.texts (ss ++ more))
  | .map entries,.map more => some (.map (entries.foldr insert more))
  | _,_ => none

def Obj.put (insert : String × Val → Entries → Entries) (number : Nat) (item : Item) : Obj → Obj
  | .done unknown => .set number item (.done unknown)
  | .set other old rest =>
    if number < other then .set number item (.set other old rest)
    else if other < number then .set other old (rest.put insert number item)
    else match item.join insert old with
      | some joined => .set number joined rest
      | none => .set number item (.set other old rest)

section
variable {σ : Type} (schema : Schema σ) (insert : String × Val → Entries → Entries)

mutual

/-- The object of a message; `insert` adds an entry to the later ones of its map. -/
def toObject (name : σ) : Msg → Obj
  | .done unknown => .done unknown
  | .field number value rest =>
    match (schema.field name number).bind fun desc => toItem desc.kind desc.label value with
    | none => toObject name rest
    | some item => (toObject name rest).put insert number item

def toItem (kind : Kind σ) (label : Label) : Val → Option Item
  | .message m =>
    match label,kind with
    | .singular,.message name => some (.message (toObject name m))
    | .repeated _,.message name => some (.element (toObject name m))
    | .map _,_ => match m with
      | .field 1 (.text key) (.field 2 value (.done [])) => some (.map [(key,value)])
      | _ => none
    | _,_ => none
  | .varint n => match label with
    | .repeated _ => some (.numbers [n])
    | _ => some (.scalar (.varint n))
  | .text s => match label with
    | .repeated _ => some (.texts [s])
    | _ => some (.scalar (.text s))
  | .packed ns => some (.numbers ns)
  | value => some (.scalar value)

end

end

/-- An entry before others: of entries with one key the last counts. -/
def insertEntry (entry : String × Val) (entries : Entries) : Entries :=
  if entries.any (·.1 == entry.1) then entries
  else entries.orderedInsert (fun a b => byteLe a.1 b.1) entry

/-- The entries stand in the order of their keys, each key once. -/
def Sorted (entries : Entries) : Prop := (entries.map Prod.fst).Pairwise fun a b => byteLe a b ∧ a ≠ b
deriving Decidable

/-- The number from which on the next property may have its number. -/
def Item.after (number : Nat) : Item → Nat
  | .element _ => number
  | _ => number + 1

section
variable {σ : Type} (schema : Schema σ)

mutual

/-- The properties are those of fields of the type, by their numbers from `least` on; the members
    of a oneof come once. -/
def Obj.conforms (name : σ) (least : Nat) (oneofs : List String) : Obj → Bool
  | .done _ => true
  | .set number item rest =>
    match schema.field name number with
    | none => false
    | some desc =>
      least ≤ number && item.fits desc.kind desc.label && desc.oneof.toList.all (!oneofs.contains ·) &&
        rest.conforms name (item.after number) (desc.oneof.toList ++ oneofs)

def Item.fits (kind : Kind σ) (label : Label) : Item → Bool
  | .scalar v => match label,kind with
    | .singular,.scalar type => type.holds v
    | _,_ => false
  | .numbers ns => match label,kind with
    | .repeated true,.scalar type => type.wireType == 0 && ns.all fun n => type.holds (.varint n)
    | _,_ => false
  | .texts _ => match label,kind with
    | .repeated _,.scalar .string => true
    | _,_ => false
  | .map entries => match label,kind with
    | .map .string,.scalar type => entries.all fun entry => type.holds entry.2
    | _,_ => false
  | .message o => match label,kind with
    | .singular,.message name => o.conforms name 1 []
    | _,_ => false
  | .element o => match label,kind with
    | .repeated _,.message name => o.conforms name 1 []
    | _,_ => false

end

end

mutual

def Obj.full : Obj → Bool
  | .done _ => true
  | .set _ item rest => item.full && rest.full

def Item.full : Item → Bool
  | .numbers ns => !ns.isEmpty
  | .texts ss => !ss.isEmpty
  | .map entries => !entries.isEmpty
  | .message o => o.full
  | .element o => o.full
  | .scalar _ => true

end

mutual

def Obj.closed : Obj → Bool
  | .done unknown => unknown.isEmpty
  | .set _ item rest => item.closed && rest.closed

def Item.closed : Item → Bool
  | .message o => o.closed
  | .element o => o.closed
  | .scalar _ | .numbers _ | .texts _ | .map _ => true

end

section
variable {σ : Type} (schema : Schema σ) (skip : Nat → Nat → Bytes → Option Nat)

mutual

/-- The unknown bytes are foreign to the types that have them. -/
def Obj.Known (name : σ) : Obj → Prop
  | .done unknown => Foreign schema skip name unknown
  | .set number item rest => (∀ desc, schema.field name number = some desc → item.Known desc.kind) ∧ rest.Known name

def Item.Known (kind : Kind σ) : Item → Prop
  | .message o => match kind with
    | .message name => o.Known name
    | .scalar _ => True
  | .element o => match kind with
    | .message name => o.Known name
    | .scalar _ => True
  | .scalar _ | .numbers _ | .texts _ | .map _ => True

end

end

mutual

def Obj.Maps (P : Entries → Prop) : Obj → Prop
  | .done _ => True
  | .set _ item rest => item.Maps P ∧ rest.Maps P

def Item.Maps (P : Entries → Prop) : Item → Prop
  | .map entries => P entries
  | .message o => o.Maps P
  | .element o => o.Maps P
  | .scalar _ | .numbers _ | .texts _ => True

end

mutual

/-- The object with other entries in every map. -/
def Obj.reorder (order : Entries → Entries) : Obj → Obj
  | .done unknown => .done unknown
  | .set number item rest => .set number (item.reorder order) (rest.reorder order)

def Item.reorder (order : Entries → Entries) : Item → Item
  | .map entries => .map (order entries)
  | .message o => .message (o.reorder order)
  | .element o => .element (o.reorder order)
  | item => item

end

/-! ### What was written is read back -/

/-- The first property has at least this number. -/
def Obj.From (least : Nat) : Obj → Prop
  | .done _ => True
  | .set number _ _ => least ≤ number

@[simp] theorem Item.after_reorder (order : Entries → Entries) (number : Nat) (item : Item) :
    (item.reorder order).after number = item.after number := by
  cases item <;> rfl

variable {least : Nat} {o : Obj}

theorem Obj.from_reorder {order : Entries → Entries} (from_ : o.From least) :
    (o.reorder order).From least := by
  cases o with
  | done unknown => trivial
  | set number item rest => exact from_

section
variable {σ : Type} {schema : Schema σ}

variable {name : σ} {number : Nat} {oneofs : List String} {item : Item}

theorem Obj.conforms_set {rest : Obj} :
    (Obj.set number item rest).conforms schema name least oneofs = true ↔ ∃ desc, schema.field name number = some desc ∧
      least ≤ number ∧ item.fits schema desc.kind desc.label = true ∧
      desc.oneof.toList.all (!oneofs.contains ·) = true ∧
      rest.conforms schema name (item.after number) (desc.oneof.toList ++ oneofs) = true := by
  rw [Obj.conforms]
  cases found : schema.field name number with
  | none => simp
  | some desc =>
    simp [and_assoc]

variable {label : Label}

theorem Item.fits_map {entries : Entries} {kind : Kind σ} (fits : (Item.map entries).fits schema kind label = true) :
    label = .map .string ∧ ∃ type, kind = .scalar type ∧ ∀ entry ∈ entries, type.holds entry.2 = true := by
  simp only [Item.fits] at fits
  split at fits
  · exact ⟨rfl,_,rfl,List.all_eq_true.mp fits⟩
  · cases fits

theorem Obj.from_of_conforms (conforms : o.conforms schema name least oneofs = true) : o.From least := by
  cases o with
  | done unknown => trivial
  | set number item rest =>
    obtain ⟨-,-,le,-⟩ := conforms_set.mp conforms
    exact le

end

section
variable {insert : String × Val → Entries → Entries}

theorem Obj.put_first (first : o.From (item.after number)) :
    o.put insert number item = .set number item o := by
  cases o with
  | done unknown => rfl
  | set other old rest =>
    have le : item.after number ≤ other := first
    cases item with
    | element inner =>
      have le : number ≤ other := le
      by_cases less : number < other
      · simp [put,less]
      · obtain rfl : number = other := by omega
        simp [put,Item.join]
    | _ =>
      have less : number < other := le
      simp [put,less]

theorem Obj.put_join {old joined : Item} {rest : Obj} (join : item.join insert old = some joined) :
    (Obj.set number old rest).put insert number item = .set number joined rest := by
  simp [put,join]

end

/-- Values that are read into one item are read into it one after the other. -/
private theorem toObject_several {σ α : Type} {schema : Schema σ} {insert : String × Val → Entries → Entries} {name : σ}
    {desc : FieldDesc σ} {rest : Msg} {value : α → Val} (make : List α → Item)
    (found : schema.field name number = some desc)
    (read : ∀ a, toItem schema insert desc.kind desc.label (value a) = some (make [a]))
    (join : ∀ a as, (make [a]).join insert (make as) = some (make (a :: as)))
    (first : ∀ a, (toObject schema insert name rest).From ((make [a]).after number)) {as : List α} (some : as ≠ []) :
    toObject schema insert name (.several number (as.map value) rest) =
      .set number (make as) (toObject schema insert name rest) := by
  induction as with
  | nil => exact absurd rfl some
  | cons a as ih =>
    simp only [List.map_cons,Msg.several_cons,toObject,found,Option.bind_some,read]
    by_cases last : as = []
    · subst last
      exact Obj.put_first (first a)
    · rw [ih last]
      exact Obj.put_join (join a as)

private theorem unpacked_several (number : Nat) (values : List Val) (rest : Msg) :
    (Msg.several number values rest).unpacked = .several number (values.flatMap Val.unpacked) rest.unpacked := by
  induction values with
  | nil => rfl
  | cons value values ih =>
    rw [Msg.several_cons,Msg.unpacked,ih,List.flatMap_cons]
    simp [Msg.several]

variable {values : List Val}

private theorem flatMap_unpacked (single : ∀ value ∈ values, value.unpacked = [value]) :
    values.flatMap Val.unpacked = values := by
  induction values with
  | nil => rfl
  | cons value values ih =>
    rw [List.flatMap_cons,single value (by simp),ih fun other member => single other (by simp [member])]
    rfl

variable {type : Scalar}

private theorem unpacked_entry {entry : String × Val} (held : type.holds entry.2 = true) :
    (entryValue entry).unpacked = [entryValue entry] := by
  simp only [entryValue,Val.unpacked,Msg.unpacked,Msg.several,Scalar.unpacked_held held,List.foldr_cons,List.foldr_nil]

section
variable {σ : Type} {schema : Schema σ} {insert : String × Val → Entries → Entries}

variable {v : Val}

private theorem toItem_held (held : type.holds v = true) :
    toItem schema insert (.scalar type) .singular v = some (.scalar v) := by
  cases v with
  | packed ns | message m => cases type <;> simp [Scalar.holds] at held
  | _ => rfl

mutual

/-- The message of an object has the object back, with every map as its entries were added. -/
theorem toObject_record (single : ∀ entry, insert entry [] = [entry]) : ∀ (o : Obj) {name : σ} {least : Nat}
    {oneofs : List String}, o.conforms schema name least oneofs = true → o.full = true →
    toObject schema insert name o.record.unpacked = o.reorder fun entries => entries.foldr insert []
  | .done _,_,_,_,_,_ => rfl
  | .set number item rest,name,least,oneofs,conforms,full => by
    obtain ⟨desc,found,-,fits,-,later⟩ := Obj.conforms_set.mp conforms
    rw [Obj.full,Bool.and_eq_true] at full
    have read := toObject_record single rest later full.2
    have first : (toObject schema insert name rest.record.unpacked).From (item.after number) := by
      rw [read]
      exact Obj.from_reorder (Obj.from_of_conforms later)
    rw [Obj.record,toObject_fields single item found fits full.1 first,read,Obj.reorder]

theorem toObject_fields (single : ∀ entry, insert entry [] = [entry]) : ∀ (item : Item) {name : σ} {number : Nat}
    {desc : FieldDesc σ} {rest : Msg}, schema.field name number = some desc →
    item.fits schema desc.kind desc.label = true → item.full = true →
    (toObject schema insert name rest.unpacked).From (item.after number) →
    toObject schema insert name (item.fields number rest).unpacked =
      .set number (item.reorder fun entries => entries.foldr insert []) (toObject schema insert name rest.unpacked)
  | .scalar v,name,number,desc,rest,found,fits,_,first => by
    cases label : desc.label <;> cases kind : desc.kind <;> simp [Item.fits,label,kind] at fits
    rw [Item.fields,Msg.unpacked,Scalar.unpacked_held fits,Msg.several_cons,toObject,found,
      Option.bind_some,label,kind,toItem_held fits]
    exact Obj.put_first first
  | .numbers ns,name,number,desc,rest,found,fits,full,first => by
    have some : ns ≠ [] := by simpa [Item.full] using full
    cases label : desc.label with
    | repeated packed =>
      rw [Item.fields,if_neg some]
      exact toObject_several .numbers found (fun n => by rw [label]; rfl) (fun _ _ => rfl) (fun _ => first) some
    | _ => simp [Item.fits,label] at fits
  | .texts ss,name,number,desc,rest,found,fits,full,first => by
    have some : ss ≠ [] := by simpa [Item.full] using full
    cases label : desc.label with
    | repeated packed =>
      rw [Item.fields,unpacked_several,flatMap_unpacked]
      · exact toObject_several .texts found (fun s => by rw [label]; rfl) (fun _ _ => rfl) (fun _ => first) some
      · intro value member
        obtain ⟨s,-,rfl⟩ := List.mem_map.mp member
        rfl
    | _ => simp [Item.fits,label] at fits
  | .map entries,name,number,desc,rest,found,fits,full,first => by
    have some : entries ≠ [] := by simpa [Item.full] using full
    obtain ⟨label,type,-,held⟩ := Item.fits_map fits
    rw [Item.fields,unpacked_several,flatMap_unpacked]
    · exact toObject_several (fun entries => .map (entries.foldr insert [])) found
        (fun entry => by rw [label,List.foldr_cons,List.foldr_nil,single]; rfl)
        (fun entry entries => by simp [Item.join,single]) (fun _ => first) some
    · intro value member
      obtain ⟨entry,inside,rfl⟩ := List.mem_map.mp member
      exact unpacked_entry (held entry inside)
  | .message o,name,number,desc,rest,found,fits,full,first | .element o,name,number,desc,rest,found,fits,full,first => by
    cases label : desc.label <;> cases kind : desc.kind <;> simp [Item.fits,label,kind] at fits
    rw [Item.fields,Msg.unpacked,Val.unpacked,Msg.several_cons,toObject,found,Option.bind_some,label,kind,
      toItem,toObject_record single o fits full]
    exact Obj.put_first first

end

end

def Obj.numbers : Obj → List Nat
  | .done _ => []
  | .set number _ rest => number :: rest.numbers

theorem Item.le_after (number : Nat) (item : Item) : number ≤ item.after number := by
  cases item <;> simp [Item.after]

section
variable {σ : Type} {schema : Schema σ}

theorem Obj.numbers_of_conforms
    (conforms : o.conforms schema name least oneofs = true) : ∀ number ∈ o.numbers, least ≤ number := by
  induction o generalizing least oneofs with
  | done unknown => simp [numbers]
  | set number item rest ih =>
    obtain ⟨desc,-,from_,-,-,later⟩ := conforms_set.mp conforms
    intro n member
    rcases List.mem_cons.mp member with rfl | after
    · exact from_
    · exact le_trans from_ (le_trans (Item.le_after number item) (ih later n after))

end

/-! ### The message of an object -/

section
variable {σ : Type} {schema : Schema σ}

/-- Lists and maps are in no oneof. -/
def Unshared (schema : Schema σ) : Prop :=
  ∀ name number desc, schema.field name number = some desc → desc.label ≠ .singular → desc.oneof = none

private theorem conforms_several {desc : FieldDesc σ} {seen : List Nat} {rest : Msg}
    (unshared : Unshared schema) (found : schema.field name number = some desc) (plural : desc.label ≠ .singular)
    (fits : ∀ value ∈ values, value.fits schema desc.kind desc.label = true)
    (later : rest.conforms schema name (number :: seen) (desc.oneof.toList ++ oneofs) = true) :
    (Msg.several number values rest).conforms schema name seen oneofs = true := by
  have alone := unshared _ _ _ found plural
  rw [alone,Option.toList_none,List.nil_append] at later
  induction values generalizing seen with
  | nil => exact Msg.conforms_mono (fun _ member => List.mem_cons_of_mem _ member) (fun _ member => member) later
  | cons value values ih =>
    have again : rest.conforms schema name (number :: number :: seen) oneofs = true := by
      refine Msg.conforms_mono ?_ (fun _ member => member) later
      intro n member
      simpa using member
    have next := ih (fun v member => fits v (by simp [member])) again
    rw [Msg.several_cons,Msg.conforms]
    simp only [found,fits value (by simp),alone,Option.toList_none,List.all_nil,List.nil_append,next,Bool.and_true]

private theorem fits_held (held : type.holds v = true)
    (plain : ∀ key, label ≠ .map key) : v.fits schema (.scalar type) label = true := by
  cases v with
  | packed ns | message m => cases type <;> simp [Scalar.holds] at held
  | _ =>
    cases label with
    | map key => exact absurd rfl (plain key)
    | _ => exact held

private theorem fits_entry {entry : String × Val} (held : type.holds entry.2 = true) :
    (entryValue entry).fits schema (.scalar type) (.map .string) = true := by
  simp only [entryValue,Val.fits,Msg.isEntry,Scalar.holds,Bool.true_and]
  exact fits_held held (by simp)

mutual

theorem record_conforms (unshared : Unshared schema) : ∀ (o : Obj) {name : σ} {least : Nat} {oneofs : List String}
    (seen : List Nat), o.conforms schema name least oneofs = true →
    (∀ n ∈ seen, n ∈ o.numbers → ∀ desc, schema.field name n = some desc → desc.label ≠ .singular) →
    o.record.conforms schema name seen oneofs = true
  | .done _,_,_,_,_,_,_ => rfl
  | .set number item rest,name,least,oneofs,seen,conforms,plural => by
    obtain ⟨desc,found,-,fits,free,later⟩ := Obj.conforms_set.mp conforms
    refine fields_conform unshared item found fits free ?_ (record_conforms unshared rest (number :: seen) later ?_)
    · intro singular
      simp only [Bool.not_eq_true',List.contains_eq_mem,decide_eq_false_iff_not]
      exact fun old => plural number old List.mem_cons_self desc found singular
    · intro n member again other same
      rcases List.mem_cons.mp member with rfl | old
      · -- only the elements of a list share their number
        have after := Obj.numbers_of_conforms later n again
        rw [found] at same
        cases same
        intro singular
        cases item with
        | element inner => simp [Item.fits,singular] at fits
        | _ => exact absurd after (by simp [Item.after])
      · exact plural n old (List.mem_cons_of_mem _ again) other same

theorem fields_conform (unshared : Unshared schema) : ∀ (item : Item) {name : σ} {number : Nat} {desc : FieldDesc σ}
    {oneofs : List String} {seen : List Nat} {rest : Msg}, schema.field name number = some desc →
    item.fits schema desc.kind desc.label = true → desc.oneof.toList.all (!oneofs.contains ·) = true →
    (desc.label = .singular → (!seen.contains number) = true) →
    rest.conforms schema name (number :: seen) (desc.oneof.toList ++ oneofs) = true →
    (item.fields number rest).conforms schema name seen oneofs = true
  | .scalar v,name,number,desc,oneofs,seen,rest,found,fits,free,new,later => by
    cases label : desc.label <;> cases kind : desc.kind <;> simp [Item.fits,label,kind] at fits
    have held : v.fits schema (.scalar _) .singular = true := fits_held fits (by simp)
    rw [Item.fields,Msg.conforms]
    simp only [found,kind,label,held,new label,free,later,Bool.and_self]
  | .numbers ns,name,number,desc,oneofs,seen,rest,found,fits,free,new,later => by
    cases label : desc.label with
    | repeated packed =>
      have alone := unshared _ _ _ found (by simp [label])
      rw [alone,Option.toList_none,List.nil_append] at later
      rw [Item.fields]
      split
      · exact Msg.conforms_mono (fun _ member => List.mem_cons_of_mem _ member) (fun _ member => member) later
      · have held : (Val.packed ns).fits schema desc.kind (.repeated packed) = true := by
          cases packed <;> cases kind : desc.kind <;> simp [Item.fits,label,kind] at fits
          simpa [Val.fits] using fits
        simp [Msg.conforms,found,label,held,alone,later]
    | _ => simp [Item.fits,label] at fits
  | .texts ss,name,number,desc,oneofs,seen,rest,found,fits,free,new,later => by
    cases label : desc.label with
    | repeated packed =>
      refine conforms_several unshared found (by simp [label]) ?_ later
      intro value member
      obtain ⟨s,-,rfl⟩ := List.mem_map.mp member
      cases kind : desc.kind with
      | message inner => simp [Item.fits,kind] at fits
      | scalar type =>
        cases type <;> simp [Item.fits,kind] at fits
        simp [Val.fits,label,Scalar.holds]
    | _ => simp [Item.fits,label] at fits
  | .map entries,name,number,desc,oneofs,seen,rest,found,fits,free,new,later => by
    obtain ⟨label,type,kind,held⟩ := Item.fits_map fits
    refine conforms_several unshared found (by simp [label]) ?_ later
    intro value member
    obtain ⟨entry,inside,rfl⟩ := List.mem_map.mp member
    rw [label,kind]
    exact fits_entry (held entry inside)
  | .message o,name,number,desc,oneofs,seen,rest,found,fits,free,new,later => by
    cases label : desc.label <;> cases kind : desc.kind <;> simp [Item.fits,label,kind] at fits
    have inner := record_conforms unshared o [] fits (by simp)
    simp only [Item.fields,Msg.conforms,Val.fits,found,kind,label,inner,new label,free,later,Bool.and_self]
  | .element o,name,number,desc,oneofs,seen,rest,found,fits,free,new,later => by
    cases label : desc.label <;> cases kind : desc.kind <;> simp [Item.fits,label,kind] at fits
    have inner := record_conforms unshared o [] fits (by simp)
    simp only [Item.fields,Msg.conforms,Val.fits,found,kind,label,inner,free,later,Bool.and_self]

end

variable {skip : Nat → Nat → Bytes → Option Nat}

private theorem known_held {kind : Kind σ} (held : type.holds v = true) :
    v.Known schema skip kind label := by
  cases v with
  | message m => cases type <;> simp [Scalar.holds] at held
  | _ => trivial

private theorem known_several {desc : FieldDesc σ} {rest : Msg} (found : schema.field name number = some desc)
    (known : ∀ value ∈ values, value.Known schema skip desc.kind desc.label) (later : rest.Known schema skip name) :
    (Msg.several number values rest).Known schema skip name := by
  induction values with
  | nil => exact later
  | cons value values ih =>
    refine ⟨fun other same => ?_,ih fun v member => known v (by simp [member])⟩
    rw [found,Option.some.injEq] at same
    exact same ▸ known value (by simp)

mutual

theorem record_known : ∀ (o : Obj) {name : σ} {least : Nat} {oneofs : List String},
    o.conforms schema name least oneofs = true → o.Known schema skip name → o.record.Known schema skip name
  | .done _,_,_,_,_,known => known
  | .set number item rest,name,least,oneofs,conforms,known => by
    obtain ⟨desc,found,-,fits,-,later⟩ := Obj.conforms_set.mp conforms
    exact fields_known item found fits (known.1 desc found) (record_known rest later known.2)

theorem fields_known : ∀ (item : Item) {name : σ} {number : Nat} {desc : FieldDesc σ} {rest : Msg},
    schema.field name number = some desc → item.fits schema desc.kind desc.label = true →
    item.Known schema skip desc.kind → rest.Known schema skip name → (item.fields number rest).Known schema skip name
  | .scalar v,name,number,desc,rest,found,fits,_,later => by
    cases label : desc.label <;> cases kind : desc.kind <;> simp [Item.fits,label,kind] at fits
    exact ⟨fun other _ => known_held fits,later⟩
  | .numbers ns,name,number,desc,rest,found,fits,_,later => by
    rw [Item.fields]
    split
    · exact later
    · exact ⟨fun other _ => trivial,later⟩
  | .texts ss,name,number,desc,rest,found,fits,_,later => by
    refine known_several found (fun value member => ?_) later
    obtain ⟨s,-,rfl⟩ := List.mem_map.mp member
    trivial
  | .map entries,name,number,desc,rest,found,fits,_,later => by
    refine known_several found (fun value member => ?_) later
    obtain ⟨entry,inside,rfl⟩ := List.mem_map.mp member
    obtain ⟨label,type,kind,held⟩ := Item.fits_map fits
    rw [label,kind]
    show Val.Known schema skip (.scalar type) .singular entry.2
    exact known_held (held entry inside)
  | .message o,name,number,desc,rest,found,fits,known,later | .element o,name,number,desc,rest,found,fits,known,later => by
    cases label : desc.label <;> cases kind : desc.kind <;> simp [Item.fits,label,kind] at fits
    refine ⟨fun other same => ?_,later⟩
    rw [found,Option.some.injEq] at same
    subst same
    rw [kind] at known
    rw [label,kind]
    exact record_known o fits known

end

mutual

theorem Obj.known_of_closed : ∀ (o : Obj) {name : σ}, o.closed = true → o.Known schema skip name
  | .done unknown,name,closed => by
    rw [Obj.closed,List.isEmpty_iff] at closed
    rw [closed]
    exact foreign_nil name
  | .set number item rest,name,closed => by
    rw [Obj.closed,Bool.and_eq_true] at closed
    exact ⟨fun desc _ => Item.known_of_closed item closed.1,Obj.known_of_closed rest closed.2⟩

theorem Item.known_of_closed : ∀ (item : Item) {kind : Kind σ}, item.closed = true → item.Known schema skip kind
  | .message o,kind,closed | .element o,kind,closed => by
    cases kind with
    | scalar type => trivial
    | message name => exact Obj.known_of_closed o closed
  | .scalar _,_,_ | .numbers _,_,_ | .texts _,_,_ | .map _,_,_ => trivial

end

end

/-! ### Maps that are read back -/

theorem insertEntry_nil (entry : String × Val) : insertEntry entry [] = [entry] := rfl

private theorem foldr_insertEntry {entries : Entries} (apart : (entries.map Prod.fst).Nodup) :
    entries.foldr insertEntry [] = entries.insertionSort fun a b => byteLe a.1 b.1 := by
  induction entries with
  | nil => rfl
  | cons entry entries ih =>
    rw [List.map_cons,List.nodup_cons] at apart
    rw [List.foldr_cons,ih apart.2,insertEntry,if_neg]
    · rfl
    · intro found
      obtain ⟨other,member,same⟩ := List.any_eq_true.mp found
      refine apart.1 (List.mem_map.mpr ⟨other,?_,by simpa using same⟩)
      exact (List.perm_insertionSort _ _).mem_iff.mp member

theorem Sorted.nodup {entries : Entries} (sorted : Sorted entries) : (entries.map Prod.fst).Nodup :=
  sorted.imp fun pair => pair.2

theorem Sorted.read {entries written : Entries} (sorted : Sorted entries) (perm : written.Perm entries) :
    written.foldr insertEntry [] = entries := by
  have apart : (written.map Prod.fst).Nodup := (perm.map Prod.fst).nodup_iff.mpr sorted.nodup
  rw [foldr_insertEntry apart]
  refine List.Perm.eq_of_pairwise ?_ (List.pairwise_insertionSort _ _)
    ((List.pairwise_map.mp sorted).imp fun pair => pair.1) ((List.perm_insertionSort _ _).trans perm)
  intro a b memA memB le ge
  have inside : a ∈ entries := perm.mem_iff.mp ((List.perm_insertionSort _ _).mem_iff.mp memA)
  exact List.inj_on_of_nodup_map sorted.nodup inside memB (MapOrder.byteLe_antisymm le ge)

section
variable {σ : Type} {schema : Schema σ} {skip : Nat → Nat → Bytes → Option Nat}

def decode (schema : Schema σ) (skip : Nat → Nat → Bytes → Option Nat) (name : σ) (raw : Bytes) : Option Obj :=
  (unmarshal schema skip name raw).map (toObject schema insertEntry name)

theorem decode_record (sound : schema.Sound) (unshared : Unshared schema)
    (conforms : o.conforms schema name 1 [] = true) (known : o.Known schema skip name) (full : o.full = true)
    (short : o.record.encode.length < 2 ^ 63) :
    decode schema skip name o.record.encode = some (o.reorder fun entries => entries.foldr insertEntry []) := by
  have typed := record_conforms unshared o [] conforms (by simp)
  rw [decode,unmarshal_encode sound typed (record_known o conforms known) short,Option.map_some,toObject_record insertEntry_nil o conforms full]

end

end Cap.Objects
