import Cap.LexOrder
import Cap.TrustNode
import Cap.Wire

/-!
The order of map entries in the preimage of an ordinary packet signature. Go and Python write the
entries by the bytes of their keys. Node sorts the keys by UTF-16 code units and copies the
entries into an object, which lists array indices first.
-/
namespace Cap.MapOrder
open Cap.Text Cap.LexOrder Cap.Wire
open Cap.Records (utf8_inj)
open Cap.Trust.Node (codeUnits utf16 arrayIndex?)

def unitLe (a b : String) : Prop := lexLe (utf16 a) (utf16 b) = true

def byteLe (a b : String) : Prop := lexLe ((utf8 a).map UInt8.toNat) ((utf8 b).map UInt8.toNat) = true

def indexLe (a b : String) : Prop := (arrayIndex? a).getD 0 ≤ (arrayIndex? b).getD 0

instance : DecidableRel unitLe := fun _ _ => inferInstanceAs (Decidable (lexLe _ _ = true))
instance : DecidableRel byteLe := fun _ _ => inferInstanceAs (Decidable (lexLe _ _ = true))
instance : DecidableRel indexLe := fun _ _ => inferInstanceAs (Decidable (_ ≤ _))

/-- How an object lists properties that were set in this order. -/
def propertyOrder (keys : List String) : List String :=
  (keys.filter fun key => (arrayIndex? key).isSome).insertionSort indexLe ++
    keys.filter fun key => (arrayIndex? key).isNone

section
variable {α : Type}

def entriesOf (entries : List (String × α)) (keys : List String) : List (String × α) :=
  keys.filterMap fun key => (entries.lookup key).map (key,·)

/-- `stripDefaults` on a map field: the entries set by sorted keys. Setting `__proto__` to a
    text or a flag sets no property. -/
def Node.mapOut (entries : List (String × α)) : List (String × α) :=
  let keys := (entries.map Prod.fst).insertionSort unitLe
  entriesOf entries (propertyOrder (keys.filter (· ≠ "__proto__")))

/-- The entries as deterministic marshalling writes them. -/
def Go.mapEntries (entries : List (String × α)) : List (String × α) :=
  entriesOf entries ((entries.map Prod.fst).insertionSort byteLe)

def Python.mapEntries (entries : List (String × α)) : List (String × α) :=
  entriesOf entries ((entries.map Prod.fst).insertionSort byteLe)

end

def entryField (number : Nat) (entry : String × String) : Field :=
  ⟨number,.bytes (encodeFields [⟨1,.bytes (utf8 entry.1)⟩,⟨2,.bytes (utf8 entry.2)⟩])⟩

/-- Where a map stands in a packet: the fields around it in its message, and around each
    message that it is inside of. -/
inductive Place where
  | here (before after : List Field)
  | inside (before : List Field) (number : Nat) (place : Place) (after : List Field)

def Place.fill : Place → List Field → List Field
  | .here before after,fields => before ++ fields ++ after
  | .inside before number place after,fields => before ++ ⟨number,.bytes (encodeFields (place.fill fields))⟩ :: after

def preimage (place : Place) (number : Nat) (entries : List (String × String)) : Bytes :=
  encodeFields (place.fill (entries.map (entryField number)))

theorem Place.fill_inj {place : Place} {xs ys : List Field}
    (same : encodeFields (place.fill xs) = encodeFields (place.fill ys)) : encodeFields xs = encodeFields ys := by
  induction place with
  | here before after =>
    simp only [Place.fill,encodeFields_append,List.append_assoc,List.append_cancel_left_eq] at same
    exact List.append_cancel_right same
  | inside before number place after ih =>
    simp only [Place.fill,encodeFields_append,List.append_cancel_left_eq] at same
    have sized : ∀ data, (⟨number,.bytes data⟩ : Field).value.Sized := fun _ => trivial
    obtain ⟨field,-⟩ := encodeField_append_inj (sized _) (sized _) same
    simp only [Field.mk.injEq,Value.bytes.injEq,true_and] at field
    exact ih field

private theorem entryField_inj {number : Nat} {entry other : String × String}
    (same : entryField number entry = entryField number other) : entry = other := by
  simp only [entryField,Field.mk.injEq,Value.bytes.injEq,true_and] at same
  have fields := encodeFields_inj (by simp [Value.Sized]) (by simp [Value.Sized]) same
  simp only [List.cons.injEq,Field.mk.injEq,Value.bytes.injEq,true_and,and_true] at fields
  exact Prod.ext (utf8_inj fields.1) (utf8_inj fields.2)

theorem preimage_inj {place : Place} {number : Nat} {entries others : List (String × String)} :
    preimage place number entries = preimage place number others ↔ entries = others := by
  constructor
  · intro same
    have sized : ∀ list : List (String × String), ∀ field ∈ list.map (entryField number), field.value.Sized := by
      intro list field member
      obtain ⟨_,-,rfl⟩ := List.mem_map.mp member
      trivial
    have fields := encodeFields_inj (sized _) (sized _) (Place.fill_inj same)
    exact List.map_injective_iff.mpr (fun _ _ => entryField_inj) fields
  · rintro rfl
    rfl

/-! ### JavaScript's order of keys -/

def decimal (digits : List Char) : Nat := digits.foldl (fun n c => n * 10 + (c.toNat - 48)) 0

private theorem decimal_snoc (digits : List Char) (c : Char) :
    decimal (digits ++ [c]) = decimal digits * 10 + (c.toNat - 48) := by
  simp [decimal]

def Plain (digits : List Char) : Prop := (∀ c ∈ digits, '0' ≤ c ∧ c ≤ '9') ∧ digits.head? ≠ some '0'

private theorem Plain.init {digits : List Char} {c : Char} (plain : Plain (digits ++ [c])) : Plain digits := by
  refine ⟨fun d member => plain.1 d (by simp [member]),?_⟩
  cases digits with
  | nil => simp
  | cons d rest => exact plain.2

private theorem digit_range {c : Char} (digit : '0' ≤ c ∧ c ≤ '9') : 48 ≤ c.toNat ∧ c.toNat ≤ 57 := by
  obtain ⟨low,high⟩ := digit
  rw [Char.le_def,UInt32.le_iff_toNat_le] at low high
  exact ⟨low,high⟩

private theorem Plain.pos {digits : List Char} (plain : Plain digits) (some : digits ≠ []) : 0 < decimal digits := by
  induction digits using List.reverseRecOn with
  | nil => exact absurd rfl some
  | append_singleton digits c ih =>
    rw [decimal_snoc]
    obtain ⟨low,high⟩ := digit_range (plain.1 c (by simp))
    by_cases first : digits = []
    · subst first
      have nonzero : c.toNat ≠ 48 := fun zero => plain.2 (by simp [show c = '0' from Char.toNat_inj.mp zero])
      omega
    · have := ih plain.init first
      omega

private theorem decimal_inj {digits others : List Char} (plain : Plain digits) (plain' : Plain others)
    (same : decimal digits = decimal others) : digits = others := by
  induction digits using List.reverseRecOn generalizing others with
  | nil =>
    by_contra different
    have := plain'.pos (Ne.symm different)
    rw [← same] at this
    simp [decimal] at this
  | append_singleton digits c ih =>
    rcases List.eq_nil_or_concat others with rfl | ⟨others,d,rfl⟩
    · have := plain.pos (by simp)
      rw [same] at this
      simp [decimal] at this
    · rw [List.concat_eq_append] at plain' same ⊢
      obtain ⟨low,high⟩ := digit_range (plain.1 c (by simp))
      obtain ⟨low',high'⟩ := digit_range (plain'.1 d (by simp))
      rw [decimal_snoc,decimal_snoc] at same
      obtain rfl : c = d := Char.toNat_inj.mp (by omega)
      rw [ih plain.init plain'.init (by omega)]

private theorem arrayIndex?_eq_some {key : String} {n : Nat} (index : arrayIndex? key = some n) :
    decimal key.toList = n ∧ (key.toList = ['0'] ∨ Plain key.toList) ∧ key.toList ≠ [] := by
  simp only [arrayIndex?] at index
  split at index
  · next valid =>
    obtain ⟨nonempty,digits,zero,-⟩ := valid
    cases index
    refine ⟨rfl,?_,nonempty⟩
    rcases zero with zero | nonzero
    · exact .inl zero
    · refine .inr ⟨fun c member => ?_,nonzero⟩
      have digit := List.all_eq_true.mp digits c member
      simpa using digit
  · cases index

theorem arrayIndex?_inj {a b : String} {n : Nat} (first : arrayIndex? a = some n) (second : arrayIndex? b = some n) :
    a = b := by
  obtain ⟨value,form,some⟩ := arrayIndex?_eq_some first
  obtain ⟨value',form',some'⟩ := arrayIndex?_eq_some second
  apply String.toList_injective
  rcases form with zero | plain
  · rcases form' with zero' | plain'
    · rw [zero,zero']
    · have positive := plain'.pos some'
      rw [zero] at value
      simp [decimal] at value
      omega
  · rcases form' with zero' | plain'
    · have positive := plain.pos some
      rw [zero'] at value'
      simp [decimal] at value'
      omega
    · exact decimal_inj plain plain' (value.trans value'.symm)

/-- The rank of a character by its code units: the pairs of surrogates come before U+E000. -/
def unitRank (c : Char) : Nat :=
  if c.toNat < 0xe000 then c.toNat
  else if c.toNat < 0x10000 then c.toNat + 0x100000
  else c.toNat - 0x10000 + 0xd800

private theorem char_range (c : Char) : c.toNat < 0xd800 ∨ 0xe000 ≤ c.toNat ∧ c.toNat < 0x110000 := by
  rcases c.valid with low | ⟨high,bounded⟩
  · exact .inl low
  · exact .inr ⟨by unfold Char.toNat; omega,bounded⟩

theorem units_ranked : Ranked codeUnits unitRank where
  injective x y same := by
    apply Char.toNat_inj.mp
    have rangeX := char_range x
    have rangeY := char_range y
    unfold unitRank at same
    split_ifs at same <;> omega
  before x y less := by
    have rangeX := char_range x
    have rangeY := char_range y
    unfold unitRank at less
    unfold codeUnits
    generalize x.toNat = m at *
    generalize y.toNat = n at *
    split_ifs at less ⊢
    all_goals try exact before_head (by omega) _ _
    by_cases high : (m - 0x10000) / 0x400 = (n - 0x10000) / 0x400
    · exact before_tail (by omega) (before_head (by omega) _ _)
    · exact before_head (by omega) _ _
  filled c := by
    unfold codeUnits
    split_ifs <;> simp

private theorem units_le (a b : String) :
    lexLe (utf16 a) (utf16 b) = lexLe (a.toList.map unitRank) (b.toList.map unitRank) :=
  units_ranked.flatMap_le _ _

/-- How an object lists two keys, set in the order of their code units. -/
def nodeLe (a b : String) : Prop :=
  match arrayIndex? a,arrayIndex? b with
  | some m,some n => m ≤ n
  | some _,none => True
  | none,some _ => False
  | none,none => unitLe a b

instance : DecidableRel nodeLe := fun a b => by
  unfold nodeLe
  split <;> infer_instance

theorem byteLe_antisymm {a b : String} (le : byteLe a b) (ge : byteLe b a) : a = b := by
  have bytes := lexLe_antisymm le ge
  exact utf8_inj (List.map_injective_iff.mpr (fun _ _ => UInt8.toNat_inj.mp) bytes)

theorem unitLe_antisymm {a b : String} (le : unitLe a b) (ge : unitLe b a) : a = b := by
  unfold unitLe at le ge
  rw [units_le] at le ge
  exact String.toList_injective (List.map_injective_iff.mpr units_ranked.injective (lexLe_antisymm le ge))

theorem nodeLe_antisymm {a b : String} (le : nodeLe a b) (ge : nodeLe b a) : a = b := by
  unfold nodeLe at le ge
  cases first : arrayIndex? a with
  | some m =>
    cases second : arrayIndex? b with
    | some n =>
      simp only [first,second] at le ge
      obtain rfl : m = n := by omega
      exact arrayIndex?_inj first second
    | none => simp [first,second] at ge
  | none =>
    cases second : arrayIndex? b with
    | some n => simp [first,second] at le
    | none =>
      simp only [first,second] at le ge
      exact unitLe_antisymm le ge

instance : Std.Total byteLe := ⟨fun _ _ => lexLe_total _ _⟩
instance : IsTrans String byteLe := ⟨fun _ _ _ => lexLe_trans⟩
instance : Std.Total unitLe := ⟨fun _ _ => lexLe_total _ _⟩
instance : IsTrans String unitLe := ⟨fun _ _ _ => lexLe_trans⟩
instance : Std.Total indexLe := ⟨fun _ _ => Nat.le_total _ _⟩
instance : IsTrans String indexLe := ⟨fun _ _ _ => Nat.le_trans⟩

instance : Std.Total nodeLe where
  total a b := by
    unfold nodeLe
    cases arrayIndex? a <;> cases arrayIndex? b
    · exact lexLe_total _ _
    · exact .inr trivial
    · exact .inl trivial
    · exact Nat.le_total _ _

instance : IsTrans String nodeLe where
  trans a b c := by
    unfold nodeLe
    cases arrayIndex? a <;> cases arrayIndex? b <;> cases arrayIndex? c <;> intro first second
    all_goals first
      | exact lexLe_trans first second
      | exact Nat.le_trans first second
      | exact trivial
      | exact first.elim
      | exact second.elim

theorem propertyOrder_sorted (keys : List String) :
    propertyOrder (keys.insertionSort unitLe) = keys.insertionSort nodeLe := by
  have sorted : (keys.insertionSort unitLe).Pairwise unitLe := List.pairwise_insertionSort _ _
  refine List.Perm.eq_of_pairwise (fun _ _ _ _ => nodeLe_antisymm) ?_ (List.pairwise_insertionSort _ _) ?_
  · refine List.pairwise_append.mpr ⟨?_,?_,?_⟩
    · refine List.Pairwise.imp_of_mem ?_ (List.pairwise_insertionSort indexLe _)
      intro a b memA memB le
      have indexA := (List.mem_filter.mp ((List.perm_insertionSort _ _).mem_iff.mp memA)).2
      have indexB := (List.mem_filter.mp ((List.perm_insertionSort _ _).mem_iff.mp memB)).2
      obtain ⟨m,first⟩ := Option.isSome_iff_exists.mp indexA
      obtain ⟨n,second⟩ := Option.isSome_iff_exists.mp indexB
      simpa [nodeLe,indexLe,first,second] using le
    · refine List.Pairwise.imp_of_mem ?_ (sorted.filter _)
      intro a b memA memB le
      have textA := (List.mem_filter.mp memA).2
      have textB := (List.mem_filter.mp memB).2
      rw [Option.isNone_iff_eq_none] at textA textB
      simpa [nodeLe,textA,textB] using le
    · intro a memA b memB
      have indexA := (List.mem_filter.mp ((List.perm_insertionSort _ _).mem_iff.mp memA)).2
      have textB := (List.mem_filter.mp memB).2
      obtain ⟨m,first⟩ := Option.isSome_iff_exists.mp indexA
      rw [Option.isNone_iff_eq_none] at textB
      simp [nodeLe,first,textB]
  · have parts := List.filter_append_perm (fun key => (arrayIndex? key).isSome) (keys.insertionSort unitLe)
    simp only [Option.not_isSome] at parts
    exact (((List.perm_insertionSort _ _).append_right _).trans parts).trans
      ((List.perm_insertionSort _ _).trans (List.perm_insertionSort _ _).symm)

/-- Node lists the first key before the second, though its bytes come after. Either the first
    is an array index, and the second a larger one or no index at all, such as `"9"` and `"10"` or `"1"`
    and `"+"`; or neither is, and where they differ first the first key has a character
    beyond U+FFFF and the second one from U+E000 on. -/
def Divides (a b : String) : Prop :=
  match arrayIndex? a,arrayIndex? b with
  | some m,some n => m < n ∧ ¬ byteLe a b
  | some _,none => ¬ byteLe a b
  | none,some _ => False
  | none,none => ∃ x y, Splits a.toList b.toList x y ∧ 0x10000 ≤ x.toNat ∧ 0xe000 ≤ y.toNat ∧ y.toNat < 0x10000

private theorem texts_divide (a b : String) : (unitLe a b → byteLe a b) ↔
    ¬∃ x y, Splits a.toList b.toList x y ∧ 0x10000 ≤ x.toNat ∧ 0xe000 ≤ y.toNat ∧ y.toNat < 0x10000 := by
  unfold unitLe byteLe
  rw [units_le,utf8_le,map_le_map_iff units_ranked.injective utf8_ranked.injective]
  refine not_congr (exists_congr fun x => exists_congr fun y => and_congr_right fun _ => ?_)
  have rangeX := char_range x
  have rangeY := char_range y
  unfold unitRank
  constructor
  · rintro ⟨less,more⟩
    split_ifs at less <;> omega
  · rintro ⟨astral,low,high⟩
    split_ifs <;> omega

theorem nodeLe_imp_byteLe (a b : String) : (nodeLe a b → byteLe a b) ↔ ¬ Divides a b := by
  unfold nodeLe Divides
  cases first : arrayIndex? a with
  | some m =>
    cases second : arrayIndex? b with
    | some n =>
      constructor
      · rintro agree ⟨less,differ⟩
        exact differ (agree (by omega))
      · intro undivided le
        by_cases same : m = n
        · subst same
          obtain rfl := arrayIndex?_inj first second
          exact (Std.Total.total (r := byteLe) a a).elim id id
        · by_contra differ
          exact undivided ⟨by omega,differ⟩
    | none => simp
  | none =>
    cases second : arrayIndex? b with
    | some n => simp
    | none => exact texts_divide a b

/-- The keys are listed alike by all SDKs, and Node can set all of them. -/
structure Ordered (keys : List String) : Prop where
  settable : "__proto__" ∉ keys
  undivided : ∀ a ∈ keys, ∀ b ∈ keys, ¬ Divides a b

section
variable {α : Type} {entries : List (String × α)}

private theorem mem_of_mem_entriesOf {keys : List String} {entry : String × α}
    (mem : entry ∈ entriesOf entries keys) : entry.1 ∈ keys := by
  obtain ⟨key,member,found⟩ := List.mem_filterMap.mp mem
  obtain ⟨_,-,rfl⟩ := Option.map_eq_some_iff.mp found
  exact member

private theorem entriesOf_keys {keys : List String} (known : ∀ key ∈ keys, key ∈ entries.map Prod.fst) :
    (entriesOf entries keys).map Prod.fst = keys := by
  induction keys with
  | nil => rfl
  | cons key keys ih =>
    have found : (entries.lookup key).isSome := by
      obtain ⟨entry,mem,named⟩ := List.mem_map.mp (known key (by simp))
      exact List.lookup_isSome_iff.mpr ⟨entry,mem,by simp [named]⟩
    obtain ⟨value,looked⟩ := Option.isSome_iff_exists.mp found
    have rest := ih fun other member => known other (by simp [member])
    simp only [entriesOf,List.filterMap_cons,looked,Option.map_some,List.map_cons]
    exact congrArg _ rest

theorem mapOut_eq_iff : Node.mapOut entries = Go.mapEntries entries ↔ Ordered (entries.map Prod.fst) := by
  have bytes : ∀ key, key ∈ (entries.map Prod.fst).insertionSort byteLe ↔ key ∈ entries.map Prod.fst :=
    fun key => (List.perm_insertionSort _ _).mem_iff
  by_cases settable : "__proto__" ∈ entries.map Prod.fst
  · refine ⟨fun same => ?_,fun ordered => absurd settable ordered.settable⟩
    -- the key that Node cannot set is among the keys of Go's entries
    have kept : "__proto__" ∈ (Go.mapEntries entries).map Prod.fst := by
      rw [Go.mapEntries,entriesOf_keys fun key member => (bytes key).mp member]
      exact (bytes _).mpr settable
    rw [← same] at kept
    obtain ⟨entry,mem,named⟩ := List.mem_map.mp kept
    have listed := mem_of_mem_entriesOf mem
    rw [named,propertyOrder] at listed
    simp at listed
  · have all : ((entries.map Prod.fst).insertionSort unitLe).filter (· ≠ "__proto__") =
        (entries.map Prod.fst).insertionSort unitLe := by
      rw [List.filter_eq_self]
      intro key member
      have known : key ∈ entries.map Prod.fst := (List.perm_insertionSort _ _).mem_iff.mp member
      simp only [decide_not,Bool.not_eq_true',decide_eq_false_iff_not]
      rintro rfl
      exact settable known
    have units : ∀ key, key ∈ (entries.map Prod.fst).insertionSort nodeLe ↔ key ∈ entries.map Prod.fst :=
      fun key => (List.perm_insertionSort _ _).mem_iff
    have orders : Node.mapOut entries = Go.mapEntries entries ↔
        (entries.map Prod.fst).insertionSort nodeLe = (entries.map Prod.fst).insertionSort byteLe := by
      rw [Node.mapOut,Go.mapEntries,all,propertyOrder_sorted]
      constructor
      · intro same
        have keys := congrArg (List.map Prod.fst) same
        rwa [entriesOf_keys fun key member => (units key).mp member,
          entriesOf_keys fun key member => (bytes key).mp member] at keys
      · exact congrArg _
    rw [orders,insertionSort_eq_iff (fun _ _ => nodeLe_antisymm) (fun _ _ => byteLe_antisymm)]
    constructor
    · intro agree
      exact ⟨settable,fun a memA b memB => (nodeLe_imp_byteLe a b).mp (agree a memA b memB)⟩
    · intro ordered a memA b memB
      exact (nodeLe_imp_byteLe a b).mpr (ordered.undivided a memA b memB)

end

/-- All SDKs emit the entries of the map in one order, and every packet with the map has one
    preimage. -/
structure Agree (entries : List (String × String)) : Prop where
  order : Node.mapOut entries = Go.mapEntries entries ∧ Go.mapEntries entries = Python.mapEntries entries
  preimage : ∀ place number, preimage place number (Node.mapOut entries) = preimage place number (Go.mapEntries entries) ∧
    MapOrder.preimage place number (Go.mapEntries entries) = MapOrder.preimage place number (Python.mapEntries entries)

/-- The SDKs agree on a map from texts to texts exactly when its keys are ordered; otherwise no
    packet with the map has the same preimage in Node and Go. -/
theorem agree_iff_ordered (entries : List (String × String)) :
    (Agree entries ↔ Ordered (entries.map Prod.fst)) ∧
    ∀ place number, preimage place number (Node.mapOut entries) = preimage place number (Go.mapEntries entries) ↔
      Ordered (entries.map Prod.fst) := by
  refine ⟨⟨fun agree => mapOut_eq_iff.mp agree.order.1,fun ordered => ?_⟩,fun place number => ?_⟩
  · have same := mapOut_eq_iff.mpr ordered
    exact ⟨⟨same,rfl⟩,fun place number => ⟨by rw [same],rfl⟩⟩
  · rw [preimage_inj,mapOut_eq_iff]

namespace Samples

def labels : List (String × String) := [("9","b"),("10","a")]

/-- Go and Python sign `10` before `9`, Node `9` before `10`. -/
theorem numbered_labels_divide : Node.mapOut labels = [("9","b"),("10","a")] ∧
    Go.mapEntries labels = [("10","a"),("9","b")] ∧ Python.mapEntries labels = [("10","a"),("9","b")] ∧
    ¬ Agree labels := by
  have node : Node.mapOut labels = [("9","b"),("10","a")] := by decide +kernel
  have go : Go.mapEntries labels = [("10","a"),("9","b")] := by decide +kernel
  refine ⟨node,go,go,fun agree => ?_⟩
  have same := agree.order.1
  rw [node,go] at same
  simp at same

end Samples

end Cap.MapOrder
