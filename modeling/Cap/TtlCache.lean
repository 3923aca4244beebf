import Mathlib.Data.List.Basic
import Mathlib.Data.Rat.Defs
import Mathlib.Algebra.Order.Ring.Rat

/-!
A bounded cache whose entries expire. The entries stand in the order of their last use, the one
that goes first at the front.
-/
namespace Cap.TtlCache

variable {κ ν : Type} [DecidableEq κ]

/-- A key, its value and when it expires. -/
structure Entry (κ ν : Type) where
  key : κ
  value : ν
  expiry : ℚ
deriving DecidableEq

abbrev Cache (κ ν : Type) : Type := List (Entry κ ν)

/-- The value of a key and what is left: an entry that has expired is dropped, any other one becomes
    the last used. -/
def get (now : ℚ) (key : κ) (cache : Cache κ ν) : Option ν × Cache κ ν :=
  match cache.find? (·.key = key) with
  | none => (none,cache)
  | some entry =>
    if now > entry.expiry then (none,cache.filter (·.key ≠ key))
    else (some entry.value,cache.filter (·.key ≠ key) ++ [entry])

/-- A value for a key. A new key displaces the least recently used one when the cache is full;
    without any entry to displace there is no result. -/
def put (maxSize : Int) (ttl now : ℚ) (key : κ) (value : ν) (cache : Cache κ ν) : Option (Cache κ ν) :=
  let entry := ⟨key,value,now + ttl⟩
  if cache.any (·.key = key) then some (cache.filter (·.key ≠ key) ++ [entry])
  else if maxSize ≤ cache.length then
    match cache with
    | [] => none
    | _ :: rest => some (rest ++ [entry])
  else some (cache ++ [entry])

def Holds (P : Entry κ ν → Prop) (cache : Cache κ ν) : Prop := ∀ entry ∈ cache, P entry

variable {P : Entry κ ν → Prop} {cache : Cache κ ν}

omit [DecidableEq κ] in
@[simp] theorem holds_nil : Holds P ([] : Cache κ ν) := by simp [Holds]

omit [DecidableEq κ] in
theorem Holds.mono {Q : Entry κ ν → Prop} (holds : Holds P cache) (weaker : ∀ entry, P entry → Q entry) : Holds Q cache :=
  fun entry member => weaker entry (holds entry member)

theorem get_holds (now : ℚ) (key : κ) (holds : Holds P cache) : Holds P (get now key cache).2 := by
  unfold get
  cases found : cache.find? (·.key = key) with
  | none => exact holds
  | some entry =>
    have kept : Holds P (cache.filter (·.key ≠ key)) := fun other member => holds other (List.mem_of_mem_filter member)
    dsimp only
    split
    · exact kept
    · intro other member
      rcases List.mem_append.mp member with earlier | last
      · exact kept other earlier
      · obtain rfl := List.mem_singleton.mp last
        exact holds other (List.mem_of_find?_eq_some found)

theorem get_some {now : ℚ} {key : κ} {value : ν} (holds : Holds P cache) (found : (get now key cache).1 = some value) :
    ∃ expiry, now ≤ expiry ∧ P ⟨key,value,expiry⟩ := by
  unfold get at found
  cases hit : cache.find? (·.key = key) with
  | none => simp [hit] at found
  | some entry =>
    have named : entry.key = key := by simpa using List.find?_some hit
    simp only [hit] at found
    split at found
    · cases found
    · rename_i fresh
      have same : entry.value = value := Option.some.inj found
      refine ⟨entry.expiry,not_lt.mp fresh,?_⟩
      rw [← named,← same]
      exact holds entry (List.mem_of_find?_eq_some hit)

theorem put_holds {maxSize : Int} {ttl now : ℚ} {key : κ} {value : ν} {after : Cache κ ν} (holds : Holds P cache)
    (new : P ⟨key,value,now + ttl⟩) (stored : put maxSize ttl now key value cache = some after) : Holds P after := by
  have append : ∀ kept : Cache κ ν, (∀ entry ∈ kept, entry ∈ cache) → Holds P (kept ++ [⟨key,value,now + ttl⟩]) := by
    intro kept old entry member
    rcases List.mem_append.mp member with earlier | last
    · exact holds entry (old entry earlier)
    · obtain rfl := List.mem_singleton.mp last
      exact new
  unfold put at stored
  split at stored
  · cases stored
    exact append _ fun entry member => List.mem_of_mem_filter member
  · split at stored
    · split at stored
      · cases stored
      · cases stored
        exact append _ fun entry member => List.mem_cons_of_mem _ member
    · cases stored
      exact append _ fun entry member => member

theorem put_isSome {maxSize : Int} {ttl now : ℚ} {key : κ} {value : ν} (room : 0 < maxSize) :
    (put maxSize ttl now key value cache).isSome = true := by
  unfold put
  split
  · rfl
  · split
    · rename_i full
      cases cache with
      | nil =>
        simp only [List.length_nil] at full
        omega
      | cons entry rest => rfl
    · rfl

/-- One entry for a key, and no more entries than there is room for. -/
structure Bounded (maxSize : Int) (cache : Cache κ ν) : Prop where
  distinct : (cache.map (·.key)).Nodup
  size : (cache.length : Int) ≤ max maxSize 0

variable {maxSize : Int}

omit [DecidableEq κ] in
theorem Bounded.append {kept : Cache κ ν} {entry : Entry κ ν} (bounded : Bounded maxSize cache) (some : kept.Sublist cache)
    (room : (kept.length : Int) < max maxSize 0) (fresh : ∀ other ∈ kept, other.key ≠ entry.key) :
    Bounded maxSize (kept ++ [entry]) := by
  refine ⟨?_,by simpa using Int.add_one_le_of_lt room⟩
  rw [List.map_append,List.nodup_append]
  exact ⟨bounded.distinct.sublist (some.map _),by simp,by simpa using fresh⟩

theorem filter_room {entry : Entry κ ν} (bounded : Bounded maxSize cache) (member : entry ∈ cache) :
    ((cache.filter (·.key ≠ entry.key)).length : Int) < max maxSize 0 := by
  have less := List.length_filter_lt_length_iff_exists (p := (·.key ≠ entry.key)) |>.mpr ⟨entry,member,by simp⟩
  have := bounded.size
  omega

theorem get_bounded (now : ℚ) (key : κ) (bounded : Bounded maxSize cache) : Bounded maxSize (get now key cache).2 := by
  unfold get
  cases found : cache.find? (·.key = key) with
  | none => exact bounded
  | some entry =>
    obtain rfl : entry.key = key := by simpa using List.find?_some found
    have room := filter_room bounded (List.mem_of_find?_eq_some found)
    dsimp only
    split
    · exact ⟨bounded.distinct.sublist (List.filter_sublist.map _),room.le⟩
    · exact bounded.append List.filter_sublist room (by simp)

theorem put_bounded {ttl now : ℚ} {key : κ} {value : ν} {after : Cache κ ν} (bounded : Bounded maxSize cache)
    (stored : put maxSize ttl now key value cache = some after) : Bounded maxSize after := by
  have size := bounded.size
  unfold put at stored
  split at stored
  · rename_i present
    cases stored
    obtain ⟨entry,member,same⟩ := List.any_eq_true.mp present
    obtain rfl := of_decide_eq_true same
    exact bounded.append List.filter_sublist (filter_room bounded member) (by simp)
  · rename_i absent
    have fresh : ∀ other ∈ cache, other.key ≠ key := by simpa using absent
    split at stored
    · split at stored
      · cases stored
      · cases stored
        refine bounded.append (List.sublist_cons_self ..) ?_ fun other member => fresh other (.tail _ member)
        simp only [List.length_cons] at size
        omega
    · cases stored
      exact bounded.append (List.Sublist.refl _) (by omega) fresh

end Cap.TtlCache
