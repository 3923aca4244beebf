import Cap.ReplayStore

/-!
Concurrent calls of one in-memory replay store. The clock is read before the lock is taken, so a
call may purge with a later reading than the call that gets the lock after it, and a call that
expires no later than that purge can be admitted a second time.
-/
namespace Cap.ReplayRace
open Cap.Runs Cap.ReplayStore
variable {κ : Type}

/-- Where one call stands. From `locked` to `leaving` it holds the lock. -/
inductive Pc where
  | ready
  | sampled (now : Int)
  | locked (now : Int)
  | purged (now : Int)
  | absent (now : Int)
  | leaving (outcome : ReplayOutcome)
  | returned (outcome : ReplayOutcome)
deriving DecidableEq

structure Thread where
  call : AdmitCall
  pc : Pc
deriving DecidableEq

/-- The shared clock, the lock's holder, the entries, all calls so far, and the clock
    readings that purges were made with. -/
structure State (κ : Type) where
  clock : Int
  lock : Option Nat
  entries : Entries κ
  threads : List Thread
  purges : List Int

def State.start (κ : Type) (clock : Int) : State κ := ⟨clock,none,fun _ => none,[],[]⟩

inductive Act where
  | call (args : AdmitCall)
  | advance (elapsed : Nat)
  | sample (index : Nat)
  | acquire (index : Nat)
  | purge (index : Nat)
  | lookup (index : Nat)
  | insert (index : Nat)
  | release (index : Nat)
deriving DecidableEq

def State.goto (s : State κ) (index : Nat) (thread : Thread) (pc : Pc) : State κ :=
  {s with threads := s.threads.set index {thread with pc := pc}}

/-- The steps of the calls: read the clock, take the lock, purge, look up, insert, release. -/
def State.step [DecidableEq κ] (impl : Impl κ) (s : State κ) : Act → Option (State κ)
  | .call args => some {s with threads := s.threads ++ [⟨args,.ready⟩]}
  | .advance elapsed => some {s with clock := s.clock + elapsed}
  | .sample index => s.threads[index]?.bind fun thread => match thread.pc with
    | .ready => some (s.goto index thread (if thread.call.valid s.clock then .sampled s.clock else .returned .unavailable))
    | _ => none
  | .acquire index => s.threads[index]?.bind fun thread => match thread.pc,s.lock with
    | .sampled now,none => some {s.goto index thread (.locked now) with lock := some index}
    | _,_ => none
  | .purge index => s.threads[index]?.bind fun thread => match thread.pc with
    | .locked now => some
      {s.goto index thread (.purged now) with entries := ReplayStore.purge now s.entries,purges := s.purges ++ [now]}
    | _ => none
  | .lookup index => s.threads[index]?.bind fun thread => match thread.pc with
    | .purged now => some (s.goto index thread (match impl.lookup now s.entries thread.call with
      | some outcome => .leaving outcome
      | none => .absent now))
    | _ => none
  | .insert index => s.threads[index]?.bind fun thread => match thread.pc with
    | .absent _ => some {s.goto index thread (.leaving .first) with entries := impl.insert s.entries thread.call}
    | _ => none
  | .release index => s.threads[index]?.bind fun thread => match thread.pc with
    | .leaving outcome => some {s.goto index thread (.returned outcome) with lock := none}
    | _ => none

def Pc.inside : Pc → Bool
  | .locked _ | .purged _ | .absent _ | .leaving _ => true
  | _ => false

/-- The call returns first, or is about to. -/
def Pc.first : Pc → Bool
  | .leaving .first | .returned .first => true
  | _ => false

def State.firsts (s : State κ) (args : AdmitCall) : Nat := s.threads.countP fun t => t.call = args && t.pc.first

/-- Of equal calls at most one returns first. -/
def FirstOnce (s : State κ) : Prop := ∀ args, s.firsts args ≤ 1

/-- When a call inserts its entry after an equal one was admitted, every purge so far used a clock reading before
    their expiry. -/
def Unpurged (s : State κ) : Act → Prop
  | .insert index => ∀ thread ∈ s.threads[index]?, 0 < s.firsts thread.call →
    ∀ reading ∈ s.purges, reading < thread.call.expires
  | _ => True

structure Sound (impl : Impl κ) (s : State κ) (index : Nat) (thread : Thread) : Prop where
  holder : thread.pc.inside = true → s.lock = some index
  fresh : ∀ now, thread.pc = .purged now → ∀ key entry, s.entries key = some entry → now < entry.expires
  missing : ∀ now, thread.pc = .absent now → s.entries (impl.key thread.call) = none
  kept : thread.pc.first = true → s.entries (impl.key thread.call) = some ⟨thread.call.digest,thread.call.expires⟩ ∨
    ∃ reading ∈ s.purges, thread.call.expires ≤ reading

def Invariant (impl : Impl κ) (s : State κ) : Prop :=
  ∀ index thread, s.threads[index]? = some thread → Sound impl s index thread

section

variable {thread : Thread} {index : Nat} {later s : State κ} {impl : Impl κ} {now : Int}

private theorem Sound.outside (out : thread.pc.inside = false)
    (kept : thread.pc.first = true →
      later.entries (impl.key thread.call) = some ⟨thread.call.digest,thread.call.expires⟩ ∨
      ∃ reading ∈ later.purges, thread.call.expires ≤ reading) : Sound impl later index thread where
  holder inside := by simp [out] at inside
  fresh now purged := by simp [purged,Pc.inside] at out
  missing now absent := by simp [absent,Pc.inside] at out
  kept := kept

private theorem Sound.outside_of_lock {holder : Nat}
    (sound : Sound impl s index thread) (other : index ≠ holder) (lock : s.lock = none ∨ s.lock = some holder) :
    thread.pc.inside = false := by
  by_contra inside
  have held := sound.holder (by simpa using inside)
  rcases lock with free | taken
  · rw [free] at held; cases held
  · rw [taken] at held; cases held; exact other rfl

private theorem Invariant.moved {pc : Pc} (found : s.threads[index]? = some thread)
    (threads : later.threads = s.threads.set index {thread with pc := pc})
    (self : Sound impl later index {thread with pc := pc})
    (others : ∀ j other, j ≠ index → s.threads[j]? = some other → Sound impl later j other) : Invariant impl later := by
  have inside : index < s.threads.length := (List.getElem?_eq_some_iff.mp found).1
  intro j t there
  rw [threads] at there
  by_cases same : j = index
  · subst same
    rw [List.getElem?_set_self inside] at there
    obtain rfl := Option.some.inj there
    exact self
  · rw [List.getElem?_set_ne (Ne.symm same)] at there
    exact others j t same there

private theorem Sound.goto {j : Nat} {other : Thread} (sound : Sound impl s j other)
    (index : Nat) (thread : Thread) (pc : Pc) : Sound impl (s.goto index thread pc) j other :=
  ⟨sound.holder,sound.fresh,sound.missing,sound.kept⟩

private theorem firsts_moved {pc : Pc} (found : s.threads[index]? = some thread)
    (threads : later.threads = s.threads.set index {thread with pc := pc}) (args : AdmitCall) :
    later.firsts args + (thread.call = args && thread.pc.first).toNat =
      s.firsts args + (thread.call = args && pc.first).toNat := by
  rw [State.firsts,threads]
  exact countP_set_add _ found

/-- A call that moves on without being admitted. -/
private theorem firstOnce_moved {pc : Pc} (found : s.threads[index]? = some thread)
    (threads : later.threads = s.threads.set index {thread with pc := pc}) (same : pc.first = thread.pc.first) :
    FirstOnce later ↔ FirstOnce s ∧ True := by
  rw [and_true]
  refine forall_congr' fun args => ?_
  have counted := firsts_moved found threads args
  rw [same] at counted
  omega

private theorem sample_keeps (invariant : Invariant impl s) (found : s.threads[index]? = some thread) :
    Invariant impl
      (s.goto index thread (if thread.call.valid s.clock then .sampled s.clock else .returned .unavailable)) := by
  have others := fun pc j other (_ : j ≠ index) there => (invariant j other there).goto index thread pc
  split
  all_goals exact .moved found rfl ⟨by simp [Pc.inside],by simp,by simp,by simp [Pc.first]⟩ (others _)

private theorem acquire_keeps (invariant : Invariant impl s) (found : s.threads[index]? = some thread)
    (free : s.lock = none) : Invariant impl {s.goto index thread (.locked now) with lock := some index} := by
  refine .moved found rfl ⟨fun _ => rfl,by simp,by simp,by simp [Pc.first]⟩ ?_
  intro j other different there
  have sound := invariant j other there
  exact .outside (sound.outside_of_lock different (.inl free)) sound.kept

private theorem purge_keeps
    (invariant : Invariant impl s) (found : s.threads[index]? = some thread) (locked : thread.pc = .locked now) :
    Invariant impl
      {s.goto index thread (.purged now) with entries := purge now s.entries,purges := s.purges ++ [now]} := by
  have held := (invariant index thread found).holder (by simp [locked,Pc.inside])
  refine .moved found rfl ⟨fun _ => held,?_,by simp,by simp [Pc.first]⟩ ?_
  · rintro reading ⟨⟩ key entry there
    exact (purge_eq_some.mp there).2
  · intro j other different there
    have sound := invariant j other there
    refine .outside (sound.outside_of_lock different (.inr held)) fun first => ?_
    rcases sound.kept first with entry | ⟨reading,member,past⟩
    · by_cases alive : now < other.call.expires
      · exact .inl (purge_eq_some.mpr ⟨entry,alive⟩)
      · exact .inr ⟨now,by simp,by omega⟩
    · exact .inr ⟨reading,by simp [member],past⟩

/-- The lookup answers with a comparison, or there is no entry. -/
private theorem lookup_keeps (compares : impl.Compares) (invariant : Invariant impl s)
    (found : s.threads[index]? = some thread) (purged : thread.pc = .purged now) :
    ∃ pc, (match impl.lookup now s.entries thread.call with
      | some outcome => .leaving outcome
      | none => .absent now) = pc ∧ pc.first = thread.pc.first ∧ Invariant impl (s.goto index thread pc) := by
  have self := invariant index thread found
  have inside : thread.pc.inside = true := by simp [purged,Pc.inside]
  have others := fun pc j other (_ : j ≠ index) there => (invariant j other there).goto index thread pc
  rw [purged]
  cases entry : s.entries (impl.key thread.call) with
  | none =>
    have missed : impl.lookup now s.entries thread.call = none := by simp [Impl.lookup,entry]
    rw [missed]
    exact ⟨_,rfl,rfl,.moved found rfl ⟨fun _ => self.holder inside,by simp,fun _ _ => entry,by simp [Pc.first]⟩ (others _)⟩
  | some existing =>
    have alive := self.fresh now purged _ existing entry
    have answered : impl.lookup now s.entries thread.call = some (compareDigest existing thread.call.digest) := by
      simp [Impl.lookup,entry,compares.answers now _ existing alive]
    have refused : (Pc.leaving (compareDigest existing thread.call.digest)).first = false := by
      unfold compareDigest; split <;> rfl
    rw [answered]
    exact ⟨_,rfl,refused,.moved found rfl ⟨fun _ => self.holder inside,by simp,by simp,by simp [refused]⟩ (others _)⟩

private theorem insert_keeps [DecidableEq κ]
    (invariant : Invariant impl s) (found : s.threads[index]? = some thread) (absent : thread.pc = .absent now) :
    Invariant impl {s.goto index thread (.leaving .first) with entries := impl.insert s.entries thread.call} := by
  have self := invariant index thread found
  have held := self.holder (by simp [absent,Pc.inside])
  refine .moved found rfl ⟨fun _ => held,by simp,by simp,fun _ => .inl (by simp [Impl.insert])⟩ ?_
  intro j other different there
  have sound := invariant j other there
  refine .outside (sound.outside_of_lock different (.inr held)) fun first => ?_
  rcases sound.kept first with entry | past
  · left
    have apart : impl.key other.call ≠ impl.key thread.call := by
      intro same
      rw [same,self.missing now absent] at entry
      cases entry
    simpa [Impl.insert,apart] using entry
  · exact .inr past

/-- A call that finds no entry is admitted; an equal call admitted before had its entry purged. -/
private theorem insert_firstOnce [DecidableEq κ]
    (invariant : Invariant impl s) (found : s.threads[index]? = some thread) (absent : thread.pc = .absent now) :
    FirstOnce {s.goto index thread (.leaving .first) with entries := impl.insert s.entries thread.call} ↔
      FirstOnce s ∧ Unpurged s (.insert index) := by
  have again : 0 < s.firsts thread.call → ∃ reading ∈ s.purges, thread.call.expires ≤ reading := by
    intro some
    obtain ⟨other,member,equal⟩ := List.countP_pos_iff.mp some
    obtain ⟨j,there⟩ := List.mem_iff_getElem?.mp member
    simp only [Bool.and_eq_true,decide_eq_true_eq] at equal
    rcases (invariant j other there).kept equal.2 with entry | past
    · rw [equal.1,(invariant index thread found).missing now absent] at entry
      cases entry
    · rwa [equal.1] at past
  have unpurged : Unpurged s (.insert index) ↔ s.firsts thread.call = 0 := by
    simp only [Unpurged,found,Option.mem_def,Option.some.injEq,forall_eq']
    constructor
    · intro alone
      by_contra some
      obtain ⟨reading,member,past⟩ := again (Nat.pos_of_ne_zero some)
      exact absurd (alone (Nat.pos_of_ne_zero some) reading member) (not_lt.mpr past)
    · intro none some
      omega
  have counted : ∀ args, State.firsts {s.goto index thread (.leaving .first) with
      entries := impl.insert s.entries thread.call} args + _ = s.firsts args + _ := firsts_moved found rfl
  simp only [absent,Pc.first,Bool.and_false,Bool.and_true,Bool.toNat_false,Nat.add_zero] at counted
  simp only [unpurged,FirstOnce,counted]
  constructor
  · intro once
    have own := once thread.call
    rw [decide_eq_true rfl,Bool.toNat_true] at own
    exact ⟨fun args => le_trans (Nat.le_add_right _ _) (once args),by omega⟩
  · rintro ⟨once,alone⟩ args
    by_cases same : thread.call = args
    · subst same
      simp [alone]
    · simpa [same] using once args

private theorem release_keeps {outcome : ReplayOutcome}
    (invariant : Invariant impl s) (found : s.threads[index]? = some thread) (leaving : thread.pc = .leaving outcome) :
    Invariant impl {s.goto index thread (.returned outcome) with lock := none} := by
  have self := invariant index thread found
  have held := self.holder (by simp [leaving,Pc.inside])
  have same : (Pc.returned outcome).first = thread.pc.first := by rw [leaving]; cases outcome <;> rfl
  refine .moved found rfl ⟨by simp [Pc.inside],by simp,by simp,fun first => self.kept (same ▸ first)⟩ ?_
  intro j other different there
  have sound := invariant j other there
  exact .outside (sound.outside_of_lock different (.inr held)) sound.kept

private theorem call_keeps (invariant : Invariant impl s) (args : AdmitCall) :
    Invariant impl {s with threads := s.threads ++ [⟨args,.ready⟩]} := by
  intro j t there
  by_cases old : j < s.threads.length
  · rw [List.getElem?_append_left old] at there
    have sound := invariant j t there
    exact ⟨sound.holder,sound.fresh,sound.missing,sound.kept⟩
  · rw [List.getElem?_append_right (by omega)] at there
    obtain rfl := List.mem_singleton.mp (List.mem_of_getElem? there)
    exact .outside rfl (by simp [Pc.first])

theorem step_spec [DecidableEq κ] (compares : impl.Compares) {act : Act}
    (invariant : Invariant impl s) (stepped : s.step impl act = some later) :
    Invariant impl later ∧ (FirstOnce later ↔ FirstOnce s ∧ Unpurged s act) := by
  cases act with
  | call args =>
    cases stepped
    exact ⟨call_keeps invariant args,by simp [FirstOnce,State.firsts,Pc.first,Unpurged]⟩
  | advance elapsed =>
    cases stepped
    refine ⟨fun j t there => ?_,by simp [FirstOnce,State.firsts,Unpurged]⟩
    have sound := invariant j t there
    exact ⟨sound.holder,sound.fresh,sound.missing,sound.kept⟩
  | insert index =>
    obtain ⟨thread,found,moved⟩ := Option.bind_eq_some_iff.mp stepped
    split at moved
    · next now absent => cases moved; exact ⟨insert_keeps invariant found absent,insert_firstOnce invariant found absent⟩
    · cases moved
  | sample index =>
    obtain ⟨thread,found,moved⟩ := Option.bind_eq_some_iff.mp stepped
    split at moved
    · next ready =>
      cases moved
      exact ⟨sample_keeps invariant found,firstOnce_moved found rfl (by rw [ready]; split <;> rfl)⟩
    · cases moved
  | acquire index =>
    obtain ⟨thread,found,moved⟩ := Option.bind_eq_some_iff.mp stepped
    split at moved
    · next now sampled free =>
      cases moved
      exact ⟨acquire_keeps invariant found free,firstOnce_moved found rfl (by rw [sampled]; rfl)⟩
    · cases moved
  | purge index =>
    obtain ⟨thread,found,moved⟩ := Option.bind_eq_some_iff.mp stepped
    split at moved
    · next now locked =>
      cases moved
      exact ⟨purge_keeps invariant found locked,firstOnce_moved found rfl (by rw [locked]; rfl)⟩
    · cases moved
  | lookup index =>
    obtain ⟨thread,found,moved⟩ := Option.bind_eq_some_iff.mp stepped
    split at moved
    · next now purged =>
      cases moved
      obtain ⟨pc,same,refused,keeps⟩ := lookup_keeps compares invariant found purged
      rw [same]
      exact ⟨keeps,firstOnce_moved found rfl refused⟩
    · cases moved
  | release index =>
    obtain ⟨thread,found,moved⟩ := Option.bind_eq_some_iff.mp stepped
    split at moved
    · next outcome leaving =>
      cases moved
      exact ⟨release_keeps invariant found leaving,firstOnce_moved found rfl (by rw [leaving]; cases outcome <;> rfl)⟩
    · cases moved

end

private theorem first_once [DecidableEq κ] {impl : Impl κ} (compares : impl.Compares) (clock : Int) {acts : List Act}
    {s : State κ} (reached : run (State.step impl) (State.start κ clock) acts = some s) :
    FirstOnce s ↔ Every (State.step impl) Unpurged (State.start κ clock) acts := by
  have start : Invariant impl (State.start κ clock) := by simp [Invariant,State.start]
  have none : FirstOnce (State.start κ clock) := by simp [FirstOnce,State.firsts,State.start]
  have tracked := every_iff_of_tracks (fun _ _ _ holds stepped => (step_spec compares holds stepped).1)
    (fun _ _ _ holds _ stepped => (step_spec compares holds stepped).2) start (every_true _ _) reached
  rwa [and_iff_right none] at tracked

/-- In the Go and in the Python store, equal calls return first at most once exactly in the runs in which no call
    inserts its entry after an equal one was admitted and a purge used a clock reading at or past their expiry. -/
theorem first_once_iff_unpurged (clock : Int) (acts : List Act) :
    (∀ s, run (State.step goStore) (State.start _ clock) acts = some s →
      (FirstOnce s ↔ Every (State.step goStore) Unpurged (State.start _ clock) acts)) ∧
    (∀ s, run (State.step pythonStore) (State.start _ clock) acts = some s →
      (FirstOnce s ↔ Every (State.step pythonStore) Unpurged (State.start _ clock) acts)) :=
  ⟨fun _ reached => first_once goStore_compares clock reached,fun _ reached => first_once pythonStore_compares clock reached⟩

def sampleID : Text.Bytes := List.replicate 16 7

def sampleCall : AdmitCall := ⟨"t","a","s",sampleID,[1],10⟩

def otherCall : AdmitCall := ⟨"t","a","s",List.replicate 16 8,[2],20⟩

/-- A call from its lock to its return, when it is admitted. -/
def admitted (index : Nat) : List Act :=
  [.acquire index,.purge index,.lookup index,.insert index,.release index]

/-- The second of two equal calls reads the clock at 5 and gets the lock only after another
    call purged at 11. -/
def staleRun : List Act :=
  [.call sampleCall,.call sampleCall,.call otherCall,.sample 0] ++ admitted 0 ++
    [.advance 5,.sample 1,.advance 6,.sample 2] ++ admitted 2 ++ admitted 1

/-- Both equal calls get the lock before the purge at 11. -/
def promptRun : List Act :=
  [.call sampleCall,.call sampleCall,.call otherCall,.sample 0] ++ admitted 0 ++
    [.advance 5,.sample 1,.acquire 1,.purge 1,.lookup 1,.release 1,.advance 6,.sample 2] ++ admitted 2

instance (s : State κ) (act : Act) : Decidable (Unpurged s act) :=
  match act with
  | .insert index => inferInstanceAs (Decidable (∀ thread ∈ s.threads[index]?, _ → ∀ reading ∈ s.purges, _))
  | .call _ | .advance _ | .sample _ | .acquire _ | .purge _ | .lookup _ | .release _ => isTrue trivial

/-- Two equal calls return first, in the Go and in the Python store. -/
theorem stale_reading_first_twice :
    ((run (State.step goStore) (State.start _ 0) staleRun).map State.threads =
      some [⟨sampleCall,.returned .first⟩,⟨sampleCall,.returned .first⟩,⟨otherCall,.returned .first⟩]) ∧
    ((run (State.step pythonStore) (State.start _ 0) staleRun).map State.threads =
      some [⟨sampleCall,.returned .first⟩,⟨sampleCall,.returned .first⟩,⟨otherCall,.returned .first⟩]) :=
  ⟨by decide +kernel,by decide +kernel⟩

theorem prompt_reading_first_once :
    ∃ s t, run (State.step goStore) (State.start _ 0) promptRun = some s ∧ FirstOnce s ∧
      s.threads = [⟨sampleCall,.returned .first⟩,⟨sampleCall,.returned .duplicate⟩,⟨otherCall,.returned .first⟩] ∧
      run (State.step pythonStore) (State.start _ 0) promptRun = some t ∧ FirstOnce t ∧ t.threads = s.threads :=
  ⟨_,_,rfl,((first_once_iff_unpurged 0 promptRun).1 _ rfl).mpr (by decide +kernel),rfl,
    rfl,((first_once_iff_unpurged 0 promptRun).2 _ rfl).mpr (by decide +kernel),rfl⟩

end Cap.ReplayRace
