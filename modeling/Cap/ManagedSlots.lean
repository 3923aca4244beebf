import Cap.Runs

/-!
The slots of the managed worker (`worker/managed_dispatch.go`) and the counter that its heartbeats
read. Taking and giving back a slot and moving the counter are single steps, and other goroutines
run between them.
-/
namespace Cap.ManagedSlots
open Cap.Runs

def defaultMaxParallel : Int32 := 1

def resolveMaxParallel (configured : Int32) : Int32 := if configured ≤ 0 then defaultMaxParallel else configured

inductive Stage where
  | waiting
  /-- It has a slot and is not counted yet. -/
  | acquired
  /-- `handleManagedMessage` is running. -/
  | handling
  | handled
  /-- It has given its slot back and is still counted. -/
  | released
  | done
deriving DecidableEq

def Stage.isCounted : Stage → Bool
  | .handling | .handled | .released => true
  | .waiting | .acquired | .done => false

/-- Between the acquisition and the end of the release. -/
def Stage.isBetween : Stage → Bool
  | .acquired | .handling | .handled | .released => true
  | .waiting | .done => false

structure State where
  goroutines : List Stage
  sem : Nat
  active : Int32
  cancelled : Bool
  /-- What the heartbeats read, the latest last. -/
  reported : List Int32

def init : State := ⟨[],0,0,false,[]⟩

inductive Act where
  /-- A message is dispatched. -/
  | dispatch
  /-- The goroutine puts an element into the channel. -/
  | acquire (i : Nat)
  /-- It sees that the context is done. -/
  | giveUp (i : Nat)
  /-- It adds one to the counter. -/
  | countIn (i : Nat)
  /-- Its handler returns. -/
  | complete (i : Nat)
  /-- It takes an element out of the channel. -/
  | release (i : Nat)
  /-- It subtracts one from the counter. -/
  | countOut (i : Nat)
  | heartbeat
  | cancel
deriving DecidableEq

def State.move (s : State) (i : Nat) (here there : Stage) : Option State :=
  if s.goroutines[i]? = some here then some { s with goroutines := s.goroutines.set i there } else none

def step (maxParallel : Int32) (s : State) : Act → Option State
  | .dispatch => if s.cancelled then some s else some { s with goroutines := s.goroutines ++ [.waiting] }
  | .acquire i =>
    if (s.sem : Int) < maxParallel.toInt then (s.move i .waiting .acquired).map fun t => { t with sem := s.sem + 1 }
    else none
  | .giveUp i => if s.cancelled then s.move i .waiting .done else none
  | .countIn i => (s.move i .acquired .handling).map fun t => { t with active := s.active + 1 }
  | .complete i => s.move i .handling .handled
  | .release i =>
    if 0 < s.sem then (s.move i .handled .released).map fun t => { t with sem := s.sem - 1 } else none
  | .countOut i => (s.move i .released .done).map fun t => { t with active := s.active - 1 }
  | .heartbeat => some { s with reported := s.reported ++ [s.active] }
  | .cancel => some { s with cancelled := true }

/-- The advertised load fits the capacity, and is nothing when no message is in between. -/
structure LoadFits (maxParallel : Int32) (s : State) : Prop where
  nonnegative : 0 ≤ s.active.toInt
  within : s.active.toInt ≤ maxParallel.toInt
  idle : (∀ stage ∈ s.goroutines,stage.isBetween = false) → s.active = 0
  reported : ∀ load ∈ s.reported,0 ≤ load.toInt ∧ load.toInt ≤ maxParallel.toInt

/-- A message that got a slot is counted only while the counter is below the capacity: those who gave theirs back
    and are still counted come first. -/
def Unhurried (maxParallel : Int32) (s : State) : Act → Prop
  | .countIn i => s.goroutines[i]? = some .acquired → s.active < maxParallel
  | _ => True

instance (maxParallel : Int32) (s : State) (act : Act) : Decidable (Unhurried maxParallel s act) := by
  unfold Unhurried
  split <;> infer_instance

/-- The counter is the number of goroutines that are counted, as long as that is no more than the capacity. -/
structure Inv (maxParallel : Int32) (s : State) : Prop where
  active : s.active = Int32.ofInt (s.goroutines.countP Stage.isCounted : Nat)
  room : ((s.goroutines.countP Stage.isCounted : Nat) : Int) ≤ maxParallel.toInt
  reported : ∀ load ∈ s.reported,0 ≤ load.toInt ∧ load.toInt ≤ maxParallel.toInt

section

variable {maxParallel : Int32} {s t : State} {i : Nat} {here there : Stage}

theorem Inv.toInt_active (inv : Inv maxParallel s) : s.active.toInt = (s.goroutines.countP Stage.isCounted : Nat) := by
  have room := inv.room
  have most := maxParallel.toInt_lt
  rw [inv.active]
  apply Int32.toInt_ofInt_of_le <;> omega

theorem Inv.load (inv : Inv maxParallel s) : 0 ≤ s.active.toInt ∧ s.active.toInt ≤ maxParallel.toInt := by
  rw [inv.toInt_active]
  exact ⟨Int.natCast_nonneg _,inv.room⟩

theorem Inv.loadFits (inv : Inv maxParallel s) : LoadFits maxParallel s := by
  refine ⟨inv.load.1,inv.load.2,?_,inv.reported⟩
  intro idle
  have none : s.goroutines.countP Stage.isCounted = 0 := by
    rw [List.countP_eq_zero]
    intro stage member counted
    have between := idle stage member
    cases stage <;> simp [Stage.isCounted,Stage.isBetween] at counted between
  rw [inv.active,none]
  rfl

theorem move_eq_some : s.move i here there = some t ↔
    s.goroutines[i]? = some here ∧ { s with goroutines := s.goroutines.set i there } = t := by
  simp [State.move]

theorem Inv.move (inv : Inv maxParallel s) (stands : s.goroutines[i]? = some here) {sem : Nat} {active : Int32}
    (counts : active = s.active + Int32.ofInt (there.isCounted.toNat - here.isCounted.toNat))
    (room : s.goroutines.countP Stage.isCounted + there.isCounted.toNat ≤ maxParallel.toInt + here.isCounted.toNat) :
    Inv maxParallel { s with goroutines := s.goroutines.set i there,sem,active } := by
  have counted := @countP_set_add _ Stage.isCounted s.goroutines i here there stands
  have change : ((s.goroutines.set i there).countP Stage.isCounted : Int) =
      (s.goroutines.countP Stage.isCounted : Nat) + ((there.isCounted.toNat : Int) - here.isCounted.toNat) := by omega
  refine ⟨?_,?_,inv.reported⟩
  · rw [change,Int32.ofInt_add,counts,inv.active]
  · dsimp only
    omega

theorem step_inv {act : Act} (inv : Inv maxParallel s) (unhurried : Unhurried maxParallel s act)
    (next : step maxParallel s act = some t) : Inv maxParallel t := by
  have room := inv.room
  cases act with simp only [step] at next
  | dispatch =>
    split_ifs at next
    · obtain rfl : s = t := Option.some.inj next
      exact inv
    · cases next
      refine ⟨?_,?_,inv.reported⟩
      · simpa [Stage.isCounted] using inv.active
      · simpa [Stage.isCounted] using inv.room
  | acquire i | release i =>
    split_ifs at next
    obtain ⟨moved,went,rfl⟩ := Option.map_eq_some_iff.mp next
    obtain ⟨stands,rfl⟩ := move_eq_some.mp went
    exact inv.move stands (by simp [Stage.isCounted]) (Int.add_le_add_right room _)
  | giveUp i =>
    split_ifs at next
    obtain ⟨stands,rfl⟩ := move_eq_some.mp next
    exact inv.move stands (by simp [Stage.isCounted]) (Int.add_le_add_right room _)
  | countIn i =>
    obtain ⟨moved,went,rfl⟩ := Option.map_eq_some_iff.mp next
    obtain ⟨stands,rfl⟩ := move_eq_some.mp went
    have below := Int32.lt_iff_toInt_lt.mp (unhurried stands)
    rw [inv.toInt_active] at below
    refine inv.move stands rfl ?_
    simp only [Stage.isCounted,Bool.toNat_true]
    omega
  | complete i =>
    obtain ⟨stands,rfl⟩ := move_eq_some.mp next
    exact inv.move stands (by simp [Stage.isCounted]) (Int.add_le_add_right room _)
  | countOut i =>
    obtain ⟨moved,went,rfl⟩ := Option.map_eq_some_iff.mp next
    obtain ⟨stands,rfl⟩ := move_eq_some.mp went
    refine inv.move stands ?_ ?_
    · rw [Int32.sub_eq_add_neg]
      rfl
    · simp only [Stage.isCounted,Bool.toNat_false]
      omega
  | heartbeat =>
    cases next
    refine ⟨inv.active,inv.room,?_⟩
    intro load read
    rcases List.mem_append.mp read with earlier | now
    · exact inv.reported load earlier
    · obtain rfl := List.mem_singleton.mp now
      exact inv.load
  | cancel =>
    cases next
    exact ⟨inv.active,inv.room,inv.reported⟩

/-- Counting a message at full load leaves the range. -/
theorem unhurried_of_fits (inv : Inv maxParallel s) (act : Act)
    (fits : ∀ t ∈ step maxParallel s act,LoadFits maxParallel t) : Unhurried maxParallel s act := by
  cases act with
  | countIn i =>
    intro stands
    have moved : s.move i _ .handling = some _ := move_eq_some.mpr ⟨stands,rfl⟩
    obtain ⟨least,most,-,-⟩ := fits _ (Option.map_eq_some_iff.mpr ⟨_,moved,rfl⟩)
    have load := inv.load
    have bound := maxParallel.toInt_lt
    rw [Int32.lt_iff_toInt_lt]
    have wrapped : (s.active + 1).toInt = (s.active.toInt + 1).bmod (2 ^ 32) := Int32.toInt_add _ _
    rw [wrapped,Int.bmod_def] at least most
    split_ifs at least most <;> omega
  | _ => trivial

end

theorem resolveMaxParallel_pos (configured : Int32) : 0 ≤ (resolveMaxParallel configured).toInt := by
  unfold resolveMaxParallel
  split_ifs with low
  · decide
  · exact Int.le_of_lt (Int32.lt_iff_toInt_lt.mp (Int32.not_le.mp low))

/-- In an interleaving the advertised load is within the capacity all the time exactly when no message is counted in
    a hurry. -/
theorem load_within_capacity (configured : Int32) (acts : List Act) :
    Always (step (resolveMaxParallel configured)) (LoadFits (resolveMaxParallel configured)) init acts ↔
      Every (step (resolveMaxParallel configured)) (Unhurried (resolveMaxParallel configured)) init acts := by
  refine always_iff_allowed (fun s act t inv fine next => step_inv inv fine next) (fun s inv => inv.loadFits)
    (fun s act inv fits => unhurried_of_fits inv act fits) ?_
  exact ⟨rfl,resolveMaxParallel_pos configured,by simp [init]⟩

namespace Samples

/-- With one slot: a second message gets it while the first is still counted. -/
def overtaking : List Act :=
  [.dispatch,.dispatch,.acquire 0,.countIn 0,.complete 0,.release 0,.acquire 1,.countIn 1,.heartbeat]

/-- The second message waits until the first is not counted any more. -/
def patient : List Act :=
  [.dispatch,.dispatch,.acquire 0,.countIn 0,.heartbeat,.complete 0,.release 0,.countOut 0,.acquire 1,.countIn 1,.heartbeat]

theorem overtaking_exceeds :
    (run (step (resolveMaxParallel 0)) init overtaking).any (fun s => s.reported = [2] ∧ 1 < s.active.toInt) = true ∧
      resolveMaxParallel 0 = 1 := by
  decide

theorem patient_within : Always (step (resolveMaxParallel 0)) (LoadFits (resolveMaxParallel 0)) init patient :=
  (load_within_capacity 0 patient).mpr (by decide)

end Samples

end Cap.ManagedSlots
