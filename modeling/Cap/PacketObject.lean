import Cap.ObjectParts
import Cap.Packets

/-!
Bus packets as objects: the properties that the signing code reads, the value of an object, in
which what is not set is absent, and the facts about the schema on which reading back rests.
-/
namespace Cap.PacketSignature
open Cap.Text Cap.Wire Cap.Proto Cap.Packets Cap.Objects

def text (number : Nat) (o : Obj) : String :=
  match o.get? number with
  | some (.scalar (.text s)) => s
  | _ => ""

def int (number : Nat) (o : Obj) : Int :=
  match o.get? number with
  | some (.scalar (.varint n)) => if n < 2 ^ 63 then n else (n : Int) - 2 ^ 64
  | _ => 0

def sub? (number : Nat) (o : Obj) : Option Obj :=
  match o.get? number with
  | some (.message inner) => some inner
  | _ => none

def size (number : Nat) (o : Obj) : Nat :=
  match o.get? number with
  | some (.texts ss) => ss.length
  | some (.map entries) => entries.length
  | _ => 0

def traceId : Obj → String := text 1
def senderId : Obj → String := text 2
def authToken : Obj → String := text 18

def signature (o : Obj) : Bytes :=
  match o.get? 14 with
  | some (.scalar (.bytes data)) => data
  | _ => []

def unsigned (o : Obj) : Obj := o.select (· ≠ 14)

def isPayload (number : Nat) : Bool := [10,11,12,13,15,16,17,19,20,21,22].contains number

def payload? : Obj → Option (Nat × Obj)
  | .done _ => none
  | .set number (.message inner) rest => if isPayload number then some (number,inner) else payload? rest
  | .set _ _ rest => payload? rest

/-- The zero of a type, which a field without presence has when it is absent. A negative zero is
    not among them. -/
def isZero : Val → Bool
  | .varint n => n == 0
  | .text s => s == ""
  | .bytes data => data == []
  | .fixed64 data => data == List.replicate 8 0
  | .fixed32 data => data == List.replicate 4 0
  | _ => false

/-- What the object stands for: scalars that are zero and empty lists and maps are as good as
    absent, messages are not. -/
def value (o : Obj) : Obj := o.prune isZero false

private theorem find?_number {descs : List (FieldDesc Name)} (apart : (descs.map FieldDesc.number).Nodup)
    {desc : FieldDesc Name} (member : desc ∈ descs) : descs.find? (fun other => other.number == desc.number) = some desc := by
  induction descs with
  | nil => cases member
  | cons first descs ih =>
    rw [List.map_cons,List.nodup_cons] at apart
    rcases List.mem_cons.mp member with rfl | later
    · simp
    · have different : ¬ first.number = desc.number := fun same => apart.1 (same ▸ List.mem_map_of_mem later)
      simp [different,ih apart.2 later]

theorem schema_sound : schema.Sound where
  range name number desc found := by
    have small : ∀ desc ∈ schema name, 1 ≤ desc.number ∧ desc.number < 2 ^ 29 := by cases name <;> decide
    rw [← Schema.field_number found]
    exact small desc (List.mem_of_find?_eq_some found)
  found name desc member := by
    have apart : ((schema name).map FieldDesc.number).Nodup := by cases name <;> decide
    exact find?_number apart member

theorem schema_unshared : Unshared schema := by
  intro name number desc found plural
  have every : ∀ desc ∈ schema name, desc.oneof = none ∨
      (Label.casesOn desc.label true (fun _ => false) fun _ => false : Bool) = true := by
    cases name <;> decide
  rcases every desc (List.mem_of_find?_eq_some found) with alone | singular
  · exact alone
  · cases label : desc.label with
    | singular => exact absurd label plural
    | _ => simp [label] at singular

theorem value_conforms {o : Obj} {least : Nat} {oneofs : List String} {name : Name}
    (conforms : o.conforms schema name least oneofs = true) : (value o).conforms schema name least oneofs = true :=
  (Obj.prune_part o).conforms conforms

private theorem lookup_of_mem {entries : Entries} (apart : (entries.map Prod.fst).Nodup) {entry : String × Val}
    (member : entry ∈ entries) : entries.lookup entry.1 = some entry.2 := by
  induction entries with
  | nil => cases member
  | cons first entries ih =>
    rw [List.map_cons,List.nodup_cons] at apart
    rcases List.mem_cons.mp member with rfl | later
    · rw [List.lookup_cons,beq_self_eq_true]
    · have different : (entry.1 == first.1) = false := by
        rw [beq_eq_false_iff_ne]
        intro same
        exact apart.1 (same ▸ List.mem_map_of_mem later)
      rw [List.lookup_cons,different]
      exact ih apart.2 later

theorem entriesOf_part {entries part : Entries} (apart : (entries.map Prod.fst).Nodup)
    (within : ∀ entry ∈ part, entry ∈ entries) : MapOrder.entriesOf entries (part.map Prod.fst) = part := by
  induction part with
  | nil => rfl
  | cons entry part ih =>
    have rest := ih fun other member => within other (by simp [member])
    simp only [MapOrder.entriesOf,List.map_cons,List.filterMap_cons,lookup_of_mem apart (within entry (by simp)),
      Option.map_some] at rest ⊢
    rw [rest]

theorem mapEntries_sorted {entries : Entries} (sorted : Sorted entries) : MapOrder.Go.mapEntries entries = entries := by
  have keys : (entries.map Prod.fst).insertionSort MapOrder.byteLe = entries.map Prod.fst :=
    List.Pairwise.insertionSort_eq (sorted.imp fun pair => pair.1)
  rw [MapOrder.Go.mapEntries,keys,entriesOf_part sorted.nodup fun _ member => member]

end Cap.PacketSignature
