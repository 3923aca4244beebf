import Cap.ManagedAgreement

/-!
The race between the end of a handler and the renewal of its lease. `stop()` cancels the renewal
context before it waits for the renewal goroutine, so a renewal that has already taken the ticker
branch fails and turns a good outcome into an abort.
-/
namespace Cap.ManagedLease
open Cap.Runs Cap.ManagedReplay Cap.ManagedDelivery Cap.ManagedAgreement
variable {κ : Type}

def healthy (d : Delivery) : Bool :=
  d.leaseErr.isNone && match d.renewer with
    | .failing _ => false
    | _ => true

/-- A renewal step in time: it is attempted before the entry expires, its store call runs
    under a live context, and the broker takes its progress report. -/
def renewsInTime (now : Int) (d : Delivery) : Act → Bool
  | .tick => now < d.entry.expiresAt
  | .renew _ => !(d.parentDone || d.renewDone)
  | .inProgress accepted => accepted
  | _ => true

def AtDelivery (index : Nat) (P : World κ → Delivery → Act → Bool) (w : World κ) : WorldAct → Prop
  | .at other act => other = index → ∀ d ∈ w.deliveries[index]?, P w d act = true
  | _ => True

instance (index : Nat) (P : World κ → Delivery → Act → Bool) (w : World κ) (act : WorldAct) :
    Decidable (AtDelivery index P w act) :=
  match act with
  | .receive .. => isTrue trivial
  | .advance .. => isTrue trivial
  | .at other act => decidable_of_iff (other = index → w.deliveries[index]?.all (P w · act) = true) (by
      simp [AtDelivery,Option.all_eq_true])

theorem renewUntil_isSome (d : Delivery) (now : Int) : (renewUntil d now).isSome ↔ now < d.entry.expiresAt := by
  have positive := d.worker.lease_pos
  simp only [renewUntil]
  split <;> split <;> simp <;> omega

section
variable [DecidableEq κ]

/-- The store itself grants every renewal: no failure, and the lease is still held. -/
def storeAccepts (env : Env κ) (w : World κ) (d : Delivery) : Act → Bool
  | .renew reply => reply = .answered && match d.renewer with
    | .renewing leaseUntil => (w.store.renew (d.key env) false w.now d.leaseID leaseUntil).2.isOk
    | _ => true
  | _ => true

def RenewsInTime (index : Nat) : World κ → WorldAct → Prop := AtDelivery index fun w => renewsInTime w.now

def StoreAccepts (env : Env κ) (index : Nat) : World κ → WorldAct → Prop := AtDelivery index (storeAccepts env)

instance (index : Nat) (w : World κ) (act : WorldAct) : Decidable (RenewsInTime index w act) :=
  inferInstanceAs (Decidable (AtDelivery index _ w act))

instance (env : Env κ) (index : Nat) (w : World κ) (act : WorldAct) : Decidable (StoreAccepts env index w act) :=
  inferInstanceAs (Decidable (AtDelivery index _ w act))

variable {events : List (Event κ)} {act : Act} {d next : Delivery} {later store : Store κ} {now : Int} {env : Env κ}
  {w : World κ}

private theorem mainStep_healthy (idle : d.main = .admitted → d.renewer = .off)
    (stepped : d.mainStep env now store d.main act = some (later,next,events)) : healthy next = healthy d := by
  unfold Delivery.mainStep at stepped
  split at stepped
  · next reply admitted =>
    cases stepped
    have off := idle admitted
    unfold handleClaim
    split
    · rfl
    split
    · rfl
    split
    · rfl
    · rfl
    · simp [healthy,off]
  all_goals first
    | cases stepped; rfl
    | split at stepped <;> cases stepped; rfl
    | cases stepped

private theorem renewerStep_healthy
    (accepts : storeAccepts env w d act = true)
    (stepped : d.renewerStep env w.now w.store d.renewer act = some (later,next)) :
    healthy next = (healthy d && renewsInTime w.now d act) := by
  unfold Delivery.renewerStep at stepped
  split at stepped
  · next selecting =>
    have possible := renewUntil_isSome d w.now
    split at stepped
    · next leaseUntil found =>
      cases stepped
      have early : w.now < d.entry.expiresAt := possible.mp (by simp [found])
      simp [healthy,renewsInTime,selecting,early]
    · next missing =>
      cases stepped
      have late : ¬ w.now < d.entry.expiresAt := fun early => by simpa [missing] using possible.mpr early
      simp [healthy,renewsInTime,late]
  · next selecting =>
    split at stepped
    · cases stepped; simp [healthy,renewsInTime,selecting]
    · cases stepped
  · next leaseUntil reply renewing =>
    simp only [storeAccepts,renewing,Bool.and_eq_true,decide_eq_true_eq] at accepts
    obtain ⟨rfl,granted⟩ := accepts
    cases stepped
    cases done : d.parentDone || d.renewDone with
    | true => simp [healthy,renewsInTime,done,Reply.deliver,Store.renew]
    | false =>
      cases told : (w.store.renew (d.key env) false w.now d.leaseID leaseUntil).2 with
      | error error => simp [told,Except.toBool] at granted
      | ok u =>
        simp only [healthy,renewsInTime,done,Reply.deliver,told,renewing]
        cases d.jetStream <;> simp
  · next accepted reporting =>
    cases stepped
    cases accepted <;> simp [healthy,renewsInTime,reporting]
  · next error failing =>
    cases stepped
    cases d.leaseErr <;> simp [healthy,leaseFail,failing]
  · cases stepped

theorem step_healthy (idle : d.main = .admitted → d.renewer = .off)
    (accepts : storeAccepts env w d act = true)
    (stepped : d.step env w.now w.store act = some (later,next,events)) :
    healthy next = (healthy d && renewsInTime w.now d act) := by
  unfold Delivery.step at stepped
  split at stepped
  · cases stepped
  split at stepped
  · cases stepped; simp [healthy,renewsInTime]
  · cases stepped; simp [healthy,renewsInTime]
  · split at stepped
    · obtain ⟨⟨after,moved⟩,renewal,same⟩ := Option.map_eq_some_iff.mp stepped
      cases same
      exact renewerStep_healthy accepts renewal
    · next processing =>
      rw [mainStep_healthy idle stepped]
      have untouched : renewsInTime w.now d act = true := by
        cases act <;> simp [Act.renewal] at processing <;> rfl
      simp [untouched]

/-! ### The two goroutines together -/

/-- How the two program counters go together: no renewer before the claim, one from then on
    until the decision, and a cancelled renewal context while the decision waits for it. -/
structure Paired (d : Delivery) : Prop where
  idle : d.main = .admitted → d.renewer = .off
  started : d.renewer = .off → d.main ≠ .handling ∧ (∀ r, d.main ≠ .preparing r) ∧
    (∀ p, d.main ≠ .stopping p) ∧ ∀ p, d.main ≠ .waiting p
  cancelled : ∀ p, d.main = .waiting p → d.renewDone = true

private theorem mainStep_paired (paired : Paired d)
    (stepped : d.mainStep env now store d.main act = some (later,next,events)) : Paired next := by
  obtain ⟨idle,started,cancelled⟩ := paired
  unfold Delivery.mainStep at stepped
  split at stepped
  · cases stepped
    unfold handleClaim
    split
    · exact ⟨by simp,by simp,by simp⟩
    split
    · exact ⟨by simp,by simp,by simp⟩
    split <;> exact ⟨by simp,by simp,by simp⟩
  · next handling => cases stepped; exact ⟨by simp,fun off => absurd handling (started off).1,by simp⟩
  · next preparing => cases stepped; exact ⟨by simp,fun off => absurd preparing ((started off).2.1 _),by simp⟩
  · next stopping => cases stepped; exact ⟨by simp,fun off => absurd stopping ((started off).2.2.1 _),by simp⟩
  · next prepared waiting =>
    split at stepped
    · cases stepped
      unfold decideOutcome
      split
      · exact ⟨by simp,by simp,by simp⟩
      · split <;> exact ⟨by simp,by simp,by simp⟩
    · cases stepped
  · cases stepped; exact ⟨by simp,by simp,by simp⟩
  · cases stepped
    split <;> exact ⟨by simp,by simp,by simp⟩
  · cases stepped; exact ⟨by simp,by simp,by simp⟩
  · cases stepped

private theorem renewerStep_started
    (stepped : d.renewerStep env now store d.renewer act = some (later,next)) :
    d.renewer ≠ .off ∧ next.renewer ≠ .off ∧ next.main = d.main ∧ next.renewDone = d.renewDone := by
  unfold Delivery.renewerStep at stepped
  split at stepped
  · next here => split at stepped <;> cases stepped <;> simp [here]
  · next here => split at stepped <;> cases stepped; simp [here]
  · next here =>
    cases stepped
    refine ⟨by simp [here],?_,rfl,rfl⟩
    dsimp only
    split
    · simp
    · split <;> simp
  · next accepted here => cases stepped; cases accepted <;> simp [here]
  · next here => cases stepped; simp [here,leaseFail]
  · cases stepped

theorem step_paired (paired : Paired d) (stepped : d.step env now store act = some (later,next,events)) :
    Paired next := by
  unfold Delivery.step at stepped
  split at stepped
  · cases stepped
  split at stepped
  · cases stepped; exact ⟨paired.idle,paired.started,paired.cancelled⟩
  · cases stepped; exact ⟨by simp,by simp,by simp⟩
  · split at stepped
    · obtain ⟨⟨after,moved⟩,renewal,same⟩ := Option.map_eq_some_iff.mp stepped
      cases same
      obtain ⟨was,still,main,done⟩ := renewerStep_started renewal
      refine ⟨fun admitted => ?_,fun off => absurd off still,fun p waiting => ?_⟩
      · exact absurd (paired.idle (main ▸ admitted)) was
      · rw [done]; exact paired.cancelled p (main ▸ waiting)
    · exact mainStep_paired paired stepped

theorem step_all_paired {next : World κ} {act : WorldAct} (paired : ∀ d ∈ w.deliveries, Paired d)
    (stepped : w.step env act = some next) : ∀ d ∈ next.deliveries, Paired d := by
  cases act with
  | receive worker message =>
    cases stepped
    intro d member
    rcases List.mem_append.mp member with old | new
    · exact paired d old
    · cases List.mem_singleton.mp new
      exact ⟨fun _ => rfl,by simp [Delivery.received],by simp [Delivery.received]⟩
  | advance elapsed => cases stepped; exact paired
  | «at» index act =>
    simp only [World.step,Option.bind_eq_some_iff,Option.map_eq_some_iff] at stepped
    obtain ⟨d,found,⟨later,moved,events⟩,stepped,rfl⟩ := stepped
    intro other member
    rcases List.mem_or_eq_of_mem_set member with old | rfl
    · exact paired other old
    · exact step_paired (paired d (List.mem_of_getElem? found)) stepped

theorem step_tracks (index : Nat) {next : World κ} {act : WorldAct}
    (paired : ∀ d ∈ w.deliveries, Paired d) (accepts : StoreAccepts env index w act)
    (stepped : w.step env act = some next) :
    (∀ d ∈ next.deliveries[index]?, healthy d = true) ↔
      (∀ d ∈ w.deliveries[index]?, healthy d = true) ∧ RenewsInTime index w act := by
  cases act with
  | receive worker message =>
    cases stepped
    simp only [RenewsInTime,AtDelivery,and_true,List.getElem?_append]
    split
    · rfl
    · -- the new delivery starts with a healthy lease, and there was none at its index
      have absent : w.deliveries[index]? = none := List.getElem?_eq_none (by omega)
      have fresh : ∀ d ∈ [Delivery.received worker message w.now],healthy d = true := by
        simp [healthy,Delivery.received]
      simp only [absent,Option.not_mem_none,false_imp_iff,implies_true,iff_true]
      exact fun d found => fresh d (List.mem_of_getElem? found)
  | advance elapsed => cases stepped; simp [RenewsInTime,AtDelivery]
  | «at» other act =>
    simp only [World.step,Option.bind_eq_some_iff,Option.map_eq_some_iff] at stepped
    obtain ⟨d,found,⟨later,moved,events⟩,stepped,rfl⟩ := stepped
    by_cases same : other = index
    · subst same
      have inside : other < w.deliveries.length := (List.getElem?_eq_some_iff.mp found).1
      have changed := step_healthy (paired d (List.mem_of_getElem? found)).idle (accepts rfl d found) stepped
      have after : (w.deliveries.set other moved)[other]? = some moved := by simp [inside]
      simp [RenewsInTime,AtDelivery,found,after,changed]
    · simp [RenewsInTime,AtDelivery,same]

/-- A good outcome is completed exactly when no renewal of its delivery came late. The store
    is assumed to accept every renewal on its own account and the parent context to be live. -/
theorem completes_iff_renewals_in_time (env : Env κ) (now : Int) {acts : List WorldAct} {w : World κ}
    (reached : run (World.step env) (World.start κ now) acts = some w) {index : Nat} {d : Delivery}
    {outcome : ManagedReplayOutcome} (found : w.deliveries[index]? = some d) (waiting : d.main = .waiting (.ok outcome))
    (exited : d.renewer = .exited) (live : d.parentDone = false)
    (accepts : Every (World.step env) (StoreAccepts env index) (World.start κ now) acts) :
    (∃ next, w.step env (.at index .decide) = some next ∧
      next.deliveries[index]? = some {d with main := .completing outcome}) ↔
    Every (World.step env) (RenewsInTime index) (World.start κ now) acts := by
  have inside : index < w.deliveries.length := (List.getElem?_eq_some_iff.mp found).1
  have decided : w.step env (.at index .decide) = some {w with
      deliveries := w.deliveries.set index {d with main := decideOutcome d (.ok outcome)},log := w.log ++ []} := by
    simp [World.step,found,Delivery.step,Delivery.mainStep,waiting,exited,Main.dead,Act.renewal]
  have tracked := every_iff_of_tracks (fun _ _ _ paired stepped => step_all_paired paired stepped)
    (fun _ _ _ paired accepted stepped => step_tracks index paired accepted stepped)
    (by simp [World.start]) accepts reached
  have begins : ∀ d ∈ (World.start κ now).deliveries[index]?, healthy d = true := by simp [World.start]
  rw [and_iff_right begins,found] at tracked
  rw [← tracked,decided]
  simp only [Option.some.injEq,exists_eq_left',List.getElem?_set_self inside,Option.mem_def,forall_eq',decideOutcome,
    live,healthy,exited]
  cases d.leaseErr <;> simp

/-- The delivery can go on to a state where the renewer has ended and the decision is due. -/
def CanDecide (env : Env κ) (index : Nat) (prepared : Except String ManagedReplayOutcome) (w : World κ) : Prop :=
  ∃ more later d, run (World.step env) w more = some later ∧ later.deliveries[index]? = some d ∧
    d.main = .waiting prepared ∧ d.renewer = .exited

private theorem canDecide_of_renewerStep {index : Nat}
    {prepared : Except String ManagedReplayOutcome} (found : w.deliveries[index]? = some d)
    (alive : d.main.dead = false) (act : Act) (renewal : act.renewal = true) (later : Store κ) (moved : Delivery)
    (stepped : d.renewerStep env w.now w.store d.renewer act = some (later,moved))
    (rest : ∀ next : World κ, next.deliveries[index]? = some moved → CanDecide env index prepared next) :
    CanDecide env index prepared w := by
  have inside : index < w.deliveries.length := (List.getElem?_eq_some_iff.mp found).1
  have step : d.step env w.now w.store act = some (later,moved,[]) := by
    unfold Delivery.step
    rw [if_neg (by simp [alive])]
    split
    · cases renewal
    · cases renewal
    · simp [renewal,stepped]
  let next : World κ := {w with store := later,deliveries := w.deliveries.set index moved,log := w.log ++ []}
  have first : w.step env (.at index act) = some next := by simp [World.step,found,step,next]
  obtain ⟨more,final,e,reached,ends⟩ := rest next (by simp [next,inside])
  exact ⟨.at index act :: more,final,e,run_cons_eq_some.mpr ⟨next,first,reached⟩,ends⟩

/-- While the decision waits, the renewer can always run to its end: `stop()` never blocks for good. -/
theorem waiting_canDecide (env : Env κ) (now : Int) {acts : List WorldAct}
    (reached : run (World.step env) (World.start κ now) acts = some w) {index : Nat}
    {prepared : Except String ManagedReplayOutcome} (found : w.deliveries[index]? = some d)
    (waiting : d.main = .waiting prepared) : CanDecide env index prepared w := by
  have paired := Runs.invariant (fun _ _ _ paired stepped => step_all_paired paired stepped)
    (by simp [World.start]) reached d (List.mem_of_getElem? found)
  have exits : ∀ (w : World κ) (d : Delivery), w.deliveries[index]? = some d → d.main = .waiting prepared →
      d.renewer = .exited → CanDecide env index prepared w :=
    fun w d found waiting exited => ⟨[],w,d,rfl,found,waiting,exited⟩
  have fails : ∀ (w : World κ) (d : Delivery) (error : StoreError), w.deliveries[index]? = some d →
      d.main = .waiting prepared → d.renewer = .failing error → CanDecide env index prepared w := by
    intro w d error found waiting failing
    refine canDecide_of_renewerStep found (by simp [waiting,Main.dead]) .fail rfl w.store (leaseFail d error)
      (by rw [failing]; rfl) fun next there => exits next _ there waiting rfl
  have selects : ∀ (w : World κ) (d : Delivery), w.deliveries[index]? = some d → d.main = .waiting prepared →
      d.renewDone = true → d.renewer = .selecting → CanDecide env index prepared w := by
    intro w d found waiting done selecting
    refine canDecide_of_renewerStep found (by simp [waiting,Main.dead]) .renewExit rfl w.store
      {d with renewer := .exited} (by simp [selecting,Delivery.renewerStep,done]) fun next there =>
        exits next _ there waiting rfl
  have alive : d.main.dead = false := by simp [waiting,Main.dead]
  have done := paired.cancelled prepared waiting
  cases renewer : d.renewer with
  | off => exact absurd waiting ((paired.started renewer).2.2.2 prepared)
  | selecting => exact selects w d found waiting done renewer
  | renewing leaseUntil =>
    -- the store call comes back with an error: its context is already done
    refine canDecide_of_renewerStep found alive (.renew .answered) rfl w.store
      {d with renewer := .failing .unavailable} ?_ fun next there => fails next _ .unavailable there waiting rfl
    simp [renewer,Delivery.renewerStep,Reply.deliver,Store.renew,done,managedReplayError]
  | reporting =>
    refine canDecide_of_renewerStep found alive (.inProgress true) rfl w.store {d with renewer := .selecting}
      (by rw [renewer]; rfl) fun next there => selects next _ there waiting done rfl
  | failing error => exact fails w d error found waiting renewer
  | exited => exact exits w d found waiting renewer

end

def renewingRun : List WorldAct :=
  [.receive sampleWorker sampleMessage,.at 0 (.begin .answered),.advance 5000000000,.at 0 .tick]

def finishRun : List WorldAct :=
  [.at 0 (.handlerReturn (.returned (some sampleResult) none) "j" 0),.at 0 .prepare,.at 0 .cancelRenew]

def lateRun : List WorldAct := renewingRun ++ finishRun ++ [.at 0 (.renew .answered),.at 0 .fail]

def timelyRun : List WorldAct :=
  renewingRun ++ [.at 0 (.renew .answered),.at 0 (.inProgress true)] ++ finishRun ++ [.at 0 .renewExit]

def worldAfter (acts : List WorldAct) : World Text.Bytes :=
  (run (World.step sampleEnv) (World.start _ 0) acts).getD (World.start _ 0)

/-- A result the preparation accepted, a live parent and a store that grants every renewal,
    and still the claim is aborted and the message offered again. -/
theorem late_renewal_aborts :
    run (World.step sampleEnv) (World.start _ 0) lateRun = some (worldAfter lateRun) ∧
    Every (World.step sampleEnv) (StoreAccepts sampleEnv 0) (World.start _ 0) lateRun ∧
    (∃ d, (worldAfter lateRun).deliveries[0]? = some d ∧ d.main = .waiting (.ok ⟨"trace",sampleBytes⟩) ∧
      d.parentDone = false ∧ d.renewer = .exited) ∧
    ((worldAfter (lateRun ++ [.at 0 .decide])).deliveries[0]?).map Delivery.main = some .aborting ∧
    ((worldAfter (lateRun ++ [.at 0 .decide,.at 0 (.abort .answered)])).deliveries[0]?).map Delivery.main =
      some (.settled .nak) :=
  ⟨rfl,by decide +kernel,⟨_,rfl,rfl,rfl,rfl⟩,rfl,rfl⟩

theorem completes_after_timely_renewal :
    ∃ d next, (worldAfter timelyRun).deliveries[0]? = some d ∧
      (worldAfter timelyRun).step sampleEnv (.at 0 .decide) = some next ∧
      next.deliveries[0]? = some {d with main := .completing ⟨"trace",sampleBytes⟩} := by
  obtain ⟨next,decided,completing⟩ := (completes_iff_renewals_in_time sampleEnv 0
    (show run (World.step sampleEnv) (World.start _ 0) timelyRun = some (worldAfter timelyRun) from rfl)
    (show (worldAfter timelyRun).deliveries[0]? = some _ from rfl) rfl rfl rfl (by decide +kernel)).mpr (by decide +kernel)
  exact ⟨_,next,rfl,decided,completing⟩

theorem finishing_canDecide :
    CanDecide sampleEnv 0 (.ok ⟨"trace",sampleBytes⟩) (worldAfter (renewingRun ++ finishRun)) :=
  waiting_canDecide sampleEnv 0
    (show run (World.step sampleEnv) (World.start _ 0) (renewingRun ++ finishRun) = some (worldAfter _) from rfl)
    (show (worldAfter (renewingRun ++ finishRun)).deliveries[0]? = some _ from rfl) rfl

end Cap.ManagedLease
