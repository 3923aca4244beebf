import Cap.Checks
import Cap.ManagedDelivery

/-!
Agreement on managed production outcomes. At most one `Complete` takes effect for a key, and every
result that leaves a worker under that key is the one that it stored, across any number of
workers, redeliveries, lost store replies, lease takeovers and crashes.
-/
namespace Cap.ManagedAgreement
open Cap.Checks Cap.Runs Cap.ManagedReplay Cap.ManagedDelivery
variable {κ : Type}

/-! ### The completed outcome of a key -/

def outcomeAt (store : Store κ) (key : κ) : Option ManagedReplayOutcome :=
  (store.records key).bind fun record => if record.completed then some record.outcome else none

@[simp] theorem outcomeAt_new (key : κ) : outcomeAt (Store.new κ) key = none := rfl

variable {store : Store κ} {key : κ}

theorem held_eq_some {leaseID : String} {record : Record} (held : store.held key leaseID = some record) :
    store.records key = some record ∧ record.completed = false ∧ record.leaseID = leaseID := by
  unfold Store.held at held
  split at held
  · cases held
  · next found =>
    split at held
    · cases held
    · next open' =>
      cases held
      simp only [Bool.or_eq_true,bne_iff_ne,not_or,Bool.not_eq_true,not_not] at open'
      exact ⟨found,open'⟩

theorem held_unfinished {leaseID : String} {record : Record}
    (held : store.held key leaseID = some record) : outcomeAt store key = none := by
  obtain ⟨found,unfinished,-⟩ := held_eq_some held
  simp [outcomeAt,found,unfinished]

section
variable [DecidableEq κ]

theorem outcomeAt_put (store : Store κ) (key other : κ) (record : Option Record) :
    outcomeAt (store.put key record) other =
      if other = key then record.bind fun record => if record.completed then some record.outcome else none
      else outcomeAt store other := by
  by_cases same : other = key
  · subst same; simp [outcomeAt,Store.put]
  · simp [outcomeAt,Store.put,same]

private theorem outcomeAt_put_unfinished (store : Store κ) (key : κ) (record : Option Record)
    (before : outcomeAt store key = none) (unfinished : ∀ r ∈ record, r.completed = false) :
    outcomeAt (store.put key record) = outcomeAt store := by
  funext other
  rw [outcomeAt_put]
  split
  · next same =>
    subst same
    rw [before]
    cases record with
    | none => rfl
    | some r => simp [unfinished r rfl]
  · rfl

theorem begin_outcomeAt (store : Store κ) (key : κ) (cancelled : Bool) (now : Int) (entry : ManagedReplayEntry) :
    outcomeAt (store.begin key cancelled now entry).1 = outcomeAt store := by
  unfold Store.begin
  split
  · rfl
  split
  · rfl
  split
  · next missing =>
    exact outcomeAt_put_unfinished store key _ (by simp [outcomeAt,missing]) (by simp)
  · next record found =>
    split
    · rfl
    split
    · rfl
    · next unfinished =>
      split
      · rfl
      · exact outcomeAt_put_unfinished store key _ (by simp [outcomeAt,found,unfinished]) (by simp)

variable {now : Int}

theorem begin_completed {cancelled : Bool} {entry : ManagedReplayEntry}
    {claim : ManagedReplayClaim} (claimed : (store.begin key cancelled now entry).2 = .ok claim)
    (completed : claim.state = .completed) : outcomeAt store key = some claim.outcome := by
  unfold Store.begin at claimed
  split at claimed
  · cases claimed
  split at claimed
  · cases claimed
  split at claimed
  · cases claimed; cases completed
  · next record found =>
    split at claimed
    · cases claimed
    split at claimed
    · next finished => cases claimed; simp [outcomeAt,found,finished]
    split at claimed
    · cases claimed; cases completed
    · cases claimed; cases completed

theorem renew_outcomeAt (store : Store κ) (key : κ) (cancelled : Bool) (now : Int) (leaseID : String) (until' : Int) :
    outcomeAt (store.renew key cancelled now leaseID until').1 = outcomeAt store := by
  unfold Store.renew
  split
  · rfl
  split
  · rfl
  · next record held =>
    split
    · exact outcomeAt_put_unfinished store key _ (held_unfinished held) (by simp [(held_eq_some held).2.1])
    · rfl

theorem abort_outcomeAt (store : Store κ) (key : κ) (cancelled : Bool) (leaseID : String) :
    outcomeAt (store.abort key cancelled leaseID).1 = outcomeAt store := by
  unfold Store.abort
  split
  · rfl
  split
  · rfl
  · next held => exact outcomeAt_put_unfinished store key _ (held_unfinished held) (by simp)

theorem complete_outcomeAt (store : Store κ) (key : κ) (cancelled : Bool) (leaseID : String)
    (outcome : ManagedReplayOutcome) :
    (∃ error, store.complete key cancelled leaseID outcome = (store,.error error)) ∨
    (store.complete key cancelled leaseID outcome).2 = .ok () ∧ outcomeAt store key = none ∧
      outcomeAt (store.complete key cancelled leaseID outcome).1 =
        Function.update (outcomeAt store) key (some outcome) := by
  unfold Store.complete
  split
  · exact .inl ⟨_,rfl⟩
  split
  · exact .inl ⟨_,rfl⟩
  · next record held =>
    refine .inr ⟨rfl,held_unfinished held,?_⟩
    funext other
    rw [outcomeAt_put]
    by_cases same : other = key
    · subst same; simp
    · simp [same]

end

theorem deliver_store {α : Type} (reply : Reply) (store : Store κ) (called : Store κ × Except StoreError α) :
    (reply.deliver store called).1 = store ∨ (reply.deliver store called).1 = called.1 := by
  cases reply with
  | answered | lost error => exact .inr rfl
  | failed error => exact .inl rfl

theorem deliver_ok {α : Type} {reply : Reply} {called : Store κ × Except StoreError α} {a : α}
    (told : (reply.deliver store called).2 = .ok a) : reply = .answered ∧ called.2 = .ok a := by
  cases reply with
  | answered => exact ⟨rfl,told⟩
  | lost error | failed error => cases told

/-- The outcome encodes a result that already carries its authority. -/
def Bound (env : Env κ) (outcome : ManagedReplayOutcome) : Prop :=
  ∃ result, env.marshal result = some outcome.result ∧ result.jobID ≠ "" ∧
    result.identity.isSome ∧ result.dispatch.isSome

variable {result : JobResult} {authority : ManagedEventAuthority}

theorem bindManagedResult_eq_ok {bound : JobResult} (accepted : bindManagedResult result authority = .ok bound) :
    (result.jobID = "" ∨ result.jobID = authority.jobID) ∧
    (∀ identity ∈ result.identity, identity = authority.identity) ∧
    (∀ dispatch ∈ result.dispatch, dispatch = authority.dispatch) ∧
    bound = {result with
      jobID := authority.jobID,identity := some authority.identity,dispatch := some authority.dispatch} := by
  unfold bindManagedResult bindManagedJobID validateManagedEcho at accepted
  split at accepted
  · cases accepted
  · next job =>
    split at accepted
    · cases accepted
    · next identity =>
      split at accepted
      · cases accepted
      · next dispatch =>
        cases accepted
        refine ⟨?_,?_,?_,rfl⟩
        · by_contra neither
          simp only [not_or] at neither
          exact job neither
        · simpa [Option.any_eq_true] using identity
        · simpa [Option.any_eq_true] using dispatch

theorem bindManagedResult_again {bound : JobResult}
    (accepted : bindManagedResult result authority = .ok bound) (job : result.jobID ≠ "")
    (identity : result.identity.isSome) (dispatch : result.dispatch.isSome) : bound = result := by
  obtain ⟨sameJob,sameIdentity,sameDispatch,rfl⟩ := bindManagedResult_eq_ok accepted
  obtain ⟨i,foundIdentity⟩ := Option.isSome_iff_exists.mp identity
  obtain ⟨e,foundDispatch⟩ := Option.isSome_iff_exists.mp dispatch
  have jobs := sameJob.resolve_left job
  rw [← sameIdentity i foundIdentity,← sameDispatch e foundDispatch,← jobs,← foundIdentity,← foundDispatch]

theorem snapshot_job_ne_empty {request : JobRequest}
    (taken : snapshotManagedEventAuthority request = .ok authority) : authority.jobID ≠ "" := by
  unfold snapshotManagedEventAuthority at taken
  split at taken
  · cases taken
  · next named =>
    split at taken
    · cases taken; exact named
    · cases taken

variable {env : Env κ} {outcome : ManagedReplayOutcome}

theorem prepare_bound {worker : ManagedWorker} {cancelled : Bool} {traceID : String} {request : JobRequest}
    (prepared : prepareManagedReplayOutcome env worker cancelled now traceID request result = .ok outcome) :
    Bound env outcome ∧ outcome.traceID = traceID := by
  simp only [prepareManagedReplayOutcome,bind_eq_ok] at prepared
  obtain ⟨authority,publisher,bound,binds,later⟩ := prepared
  split at later
  · simp at later
  simp only [bind_eq_ok] at later
  obtain ⟨-,-,-,-,encoded⟩ := later
  split at encoded
  · simp at encoded
  · next data marshalled =>
    simp only [pure_eq_ok] at encoded
    subst encoded
    obtain ⟨-,-,-,rfl⟩ := bindManagedResult_eq_ok binds
    unfold managedPublisherFromContext at publisher
    split at publisher
    · cases publisher
    · exact ⟨⟨_,marshalled,snapshot_job_ne_empty publisher,rfl,rfl⟩,rfl⟩

/-- What the processing goroutine holds on to: a prepared outcome is bound and has the
    packet's trace id, and an outcome about to be published is the stored one. -/
def Holds (env : Env κ) (store : Store κ) (key : κ) (traceID : String) : Main → Prop
  | .stopping prepared | .waiting prepared =>
    ∀ outcome, prepared = .ok outcome → Bound env outcome ∧ outcome.traceID = traceID
  | .completing outcome => Bound env outcome ∧ outcome.traceID = traceID
  | .publishing replayed outcome =>
    outcomeAt store key = some outcome ∧ (replayed = false → outcome.traceID = traceID)
  | _ => True

def Sound (env : Env κ) (store : Store κ) (d : Delivery) : Prop :=
  Holds env store (d.key env) d.traceID d.main

variable {d : Delivery}

theorem Sound.later {later : Store κ} (sound : Sound env store d)
    (kept : ∀ key outcome, outcomeAt store key = some outcome → outcomeAt later key = some outcome) :
    Sound env later d := by
  unfold Sound at sound ⊢
  cases main : d.main with
  | publishing replayed outcome =>
    rw [main] at sound
    exact ⟨kept _ _ sound.1,sound.2⟩
  | _ => rw [main] at sound; exact sound

/-- The three ways a step shows outside its delivery: not at all, as the one `Complete`
    that takes effect for its key, or as the publication of the stored outcome. -/
inductive Effect (env : Env κ) (store later : Store κ) (d : Delivery) : List (Event κ) → Prop where
  | quiet (same : outcomeAt later = outcomeAt store) : Effect env store later d []
  | completes (outcome : ManagedReplayOutcome) (bound : Bound env outcome) (first : outcomeAt store (d.key env) = none)
      (stored : outcomeAt later (d.key env) = some outcome)
      (others : ∀ key, key ≠ d.key env → outcomeAt later key = outcomeAt store key) :
      Effect env store later d [.completed (d.key env) outcome]
  | publishes (outcome : ManagedReplayOutcome) (result : JobResult) (same : later = store)
      (stored : outcomeAt store (d.key env) = some outcome) (bytes : env.marshal result = some outcome.result) :
      Effect env store later d [.published (d.key env) outcome.traceID result]

variable {events : List (Event κ)}

theorem Effect.keeps {later : Store κ}
    (effect : Effect env store later d events) (key : κ) (outcome : ManagedReplayOutcome)
    (found : outcomeAt store key = some outcome) : outcomeAt later key = some outcome := by
  cases effect with
  | quiet same | publishes new result same => rw [same]; exact found
  | completes new bound first stored others =>
    by_cases same : key = d.key env
    · subst same; rw [first] at found; cases found
    · rw [others key same]; exact found

theorem publish_effect (env : Env κ) (store : Store κ) (d : Delivery) (cancelled : Bool)
    (outcome : ManagedReplayOutcome) (transport : Transport) (bound : Bound env outcome)
    (stored : outcomeAt store (d.key env) = some outcome) :
    Effect env store store d
      (publishManagedReplayOutcome env (d.key env) cancelled outcome.traceID d.request outcome transport).1 := by
  obtain ⟨result,marshalled,job,identity,dispatch⟩ := bound
  simp only [publishManagedReplayOutcome,env.roundTrip result _ marshalled]
  split
  · exact .quiet rfl
  · next published accepted =>
    obtain ⟨authority,-,binds⟩ := bind_eq_ok.mp accepted
    rw [bindManagedResult_again binds job identity dispatch]
    split
    · split
      · exact .publishes outcome result rfl stored marshalled
      · exact .quiet rfl
    · exact .quiet rfl

variable [DecidableEq κ]

private theorem handleClaim_sound (env : Env κ) (store : Store κ) (now : Int) (d : Delivery) (reply : Reply) :
    let called := reply.deliver store (store.begin (d.key env) d.parentDone now d.entry)
    Sound env called.1 (handleClaim d called.2) := by
  intro called
  unfold handleClaim
  split
  · trivial
  · next claim told =>
    obtain ⟨answered,claimed⟩ := deliver_ok told
    split
    · trivial
    · split
      · trivial
      · next completed =>
        have kept : called.1 = (store.begin (d.key env) d.parentDone now d.entry).1 := by
          simp [called,answered,Reply.deliver]
        refine ⟨?_,by simp⟩
        rw [kept,begin_outcomeAt]
        exact begin_completed claimed completed
      · trivial

private theorem complete_effect (env : Env κ) (store : Store κ) (d : Delivery) (reply : Reply)
    (outcome : ManagedReplayOutcome) (bound : Bound env outcome) :
    let answer := store.complete (d.key env) false d.leaseID outcome
    let called := reply.deliver store answer
    Effect env store called.1 d (completeEvents (d.key env) outcome reply answer.2) ∧
      (∀ u, called.2 = .ok u → outcomeAt called.1 (d.key env) = some outcome) := by
  intro answer called
  rcases complete_outcomeAt store (d.key env) false d.leaseID outcome with ⟨error,refused⟩ | ⟨accepted,first,after⟩
  · have unchanged : called.1 = store := by
      rcases deliver_store reply store answer with same | same
      · exact same
      · exact same.trans (by simp [answer,refused])
    have silent : completeEvents (d.key env) outcome reply answer.2 = [] := by
      cases reply <;> simp [completeEvents,answer,refused]
    rw [silent,unchanged]
    refine ⟨.quiet rfl,fun u told => ?_⟩
    have ok := (deliver_ok told).2
    simp [answer,refused] at ok
  · have stored : outcomeAt answer.1 (d.key env) = some outcome := by simp [answer,after]
    have others : ∀ key, key ≠ d.key env → outcomeAt answer.1 key = outcomeAt store key := by
      intro key different
      simp [answer,after,different]
    cases reply with
    | answered =>
      refine ⟨?_,fun _ _ => stored⟩
      simp only [completeEvents,answer,accepted]
      exact .completes outcome bound first stored others
    | lost error =>
      refine ⟨?_,fun _ told => by cases told⟩
      simp only [completeEvents,answer,accepted]
      exact .completes outcome bound first stored others
    | failed error => exact ⟨.quiet rfl,fun _ told => by cases told⟩

variable {next : Delivery} {act : Act}

private theorem mainStep_effect {later : Store κ}
    (bound : ∀ key outcome, outcomeAt store key = some outcome → Bound env outcome)
    (sound : Sound env store d) (stepped : d.mainStep env now store d.main act = some (later,next,events)) :
    Effect env store later d events ∧ Sound env later next := by
  unfold Sound at sound
  unfold Delivery.mainStep at stepped
  split at stepped
  · next reply admitted =>
    cases stepped
    refine ⟨.quiet ?_,handleClaim_sound env store now d reply⟩
    rcases deliver_store reply store (store.begin (d.key env) d.parentDone now d.entry) with same | same
    · rw [same]
    · rw [same,begin_outcomeAt]
  · cases stepped; exact ⟨.quiet rfl,trivial⟩
  · next result preparing =>
    cases stepped
    exact ⟨.quiet rfl,fun outcome prepared => prepare_bound prepared⟩
  · next prepared stopping =>
    cases stepped
    rw [stopping] at sound
    exact ⟨.quiet rfl,sound⟩
  · next prepared waiting =>
    split at stepped
    · cases stepped
      rw [waiting] at sound
      refine ⟨.quiet rfl,?_⟩
      unfold Sound decideOutcome
      cases prepared with
      | error text => trivial
      | ok outcome =>
        simp only
        split
        · trivial
        · exact sound outcome rfl
    · cases stepped
  · next reply aborting =>
    cases stepped
    refine ⟨.quiet ?_,trivial⟩
    rcases deliver_store reply store (store.abort (d.key env) false d.leaseID) with same | same
    · rw [same]
    · rw [same,abort_outcomeAt]
  · next outcome reply completing =>
    cases stepped
    rw [completing] at sound
    obtain ⟨effect,told⟩ := complete_effect env store d reply outcome sound.1
    refine ⟨effect,?_⟩
    unfold Sound
    simp only
    split
    · trivial
    · next u accepted => exact ⟨told u accepted,fun _ => sound.2⟩
  · next replayed outcome transport publishing =>
    cases stepped
    rw [publishing] at sound
    refine ⟨?_,trivial⟩
    obtain ⟨stored,trace⟩ := sound
    cases replayed with
    | true => exact publish_effect env store d false outcome transport (bound _ _ stored) stored
    | false =>
      simp only [Bool.false_eq_true,if_false,← trace rfl]
      exact publish_effect env store d _ outcome transport (bound _ _ stored) stored
  · cases stepped

private theorem renewerStep_effect {later : Store κ}
    (stepped : d.renewerStep env now store d.renewer act = some (later,next)) :
    outcomeAt later = outcomeAt store ∧ next.main = d.main ∧ next.entry = d.entry ∧ next.traceID = d.traceID := by
  unfold Delivery.renewerStep at stepped
  split at stepped
  · split at stepped <;> cases stepped <;> exact ⟨rfl,rfl,rfl,rfl⟩
  · split at stepped
    · cases stepped; exact ⟨rfl,rfl,rfl,rfl⟩
    · cases stepped
  · next leaseUntil reply renewing =>
    cases stepped
    refine ⟨?_,rfl,rfl,rfl⟩
    rcases deliver_store reply store
      (store.renew (d.key env) (d.parentDone || d.renewDone) now d.leaseID leaseUntil) with same | same
    · rw [same]
    · rw [same,renew_outcomeAt]
  · cases stepped; exact ⟨rfl,rfl,rfl,rfl⟩
  · cases stepped; exact ⟨rfl,rfl,rfl,rfl⟩
  · cases stepped

theorem step_effect {later : Store κ} (bound : ∀ key outcome, outcomeAt store key = some outcome → Bound env outcome)
    (sound : Sound env store d) (stepped : d.step env now store act = some (later,next,events)) :
    Effect env store later d events ∧ Sound env later next := by
  unfold Delivery.step at stepped
  split at stepped
  · cases stepped
  split at stepped
  · cases stepped; exact ⟨.quiet rfl,sound⟩
  · cases stepped; exact ⟨.quiet rfl,trivial⟩
  · split at stepped
    · obtain ⟨⟨after,moved⟩,renewal,same⟩ := Option.map_eq_some_iff.mp stepped
      cases same
      obtain ⟨kept,main,entry,trace⟩ := renewerStep_effect renewal
      refine ⟨.quiet kept,?_⟩
      have unmoved : Sound env store moved := by
        unfold Sound Delivery.key at sound ⊢
        rw [main,entry,trace]
        exact sound
      exact unmoved.later fun key outcome found => by rw [kept]; exact found
    · exact mainStep_effect bound sound stepped

def completions (key : κ) (log : List (Event κ)) : List ManagedReplayOutcome :=
  log.filterMap fun
    | .completed other outcome => if other = key then some outcome else none
    | .published .. => none

variable {log : List (Event κ)}

theorem mem_completions :
    outcome ∈ completions key log ↔ .completed key outcome ∈ log := by
  simp only [completions,List.mem_filterMap]
  constructor
  · rintro ⟨event,member,kept⟩
    cases event with
    | completed other stored =>
      simp only [Option.ite_none_right_eq_some,Option.some.injEq] at kept
      obtain ⟨rfl,rfl⟩ := kept
      exact member
    | published other traceID result => cases kept
  · intro member
    exact ⟨_,member,by simp⟩

private theorem completions_eq_singleton (one : completions key log = [outcome]) :
    ∃ before after, log = before ++ .completed key outcome :: after ∧
      completions key before = [] ∧ completions key after = [] := by
  obtain ⟨before,event,after,split,none,here,later⟩ := List.filterMap_eq_cons_iff.mp one
  cases event with
  | completed other stored =>
    simp only [Option.ite_none_right_eq_some,Option.some.injEq] at here
    obtain ⟨rfl,rfl⟩ := here
    exact ⟨before,after,split,List.filterMap_eq_nil_iff.mpr none,later⟩
  | published other traceID result => cases here

def Justified (env : Env κ) (log : List (Event κ)) : Prop :=
  ∀ before key traceID result after, log = before ++ .published key traceID result :: after →
    ∃ outcome, .completed key outcome ∈ before ∧ outcome.traceID = traceID ∧ env.marshal result = some outcome.result

omit [DecidableEq κ] in
private theorem justified_snoc {event : Event κ} (justified : Justified env log)
    (new : ∀ key traceID result, event = .published key traceID result →
      ∃ outcome, .completed key outcome ∈ log ∧ outcome.traceID = traceID ∧ env.marshal result = some outcome.result) :
    Justified env (log ++ [event]) := by
  intro before key traceID result after split
  rcases List.eq_nil_or_concat after with rfl | ⟨rest,last,rfl⟩
  · obtain ⟨rfl,same⟩ := List.append_inj' split rfl
    exact new key traceID result (by simpa using same)
  · rw [List.concat_eq_append,← List.cons_append,← List.append_assoc] at split
    exact justified before key traceID result rest (List.append_inj' split rfl).1

/-- The invariant of a run: the log's completions are the stored outcomes, stored outcomes
    are bound, every delivery is sound and every publication justified. -/
structure Invariant (env : Env κ) (w : World κ) : Prop where
  stored : ∀ key, completions key w.log = (outcomeAt w.store key).toList
  bound : ∀ key outcome, outcomeAt w.store key = some outcome → Bound env outcome
  deliveries : ∀ d ∈ w.deliveries, Sound env w.store d
  justified : Justified env w.log

theorem invariant_start (env : Env κ) (now : Int) : Invariant env (World.start κ now) where
  stored key := rfl
  bound key outcome found := by simp [World.start] at found
  deliveries d member := by simp [World.start] at member
  justified before key traceID result after split := by simp [World.start] at split

private theorem effect_log {later : Store κ}
    (effect : Effect env store later d events) (stored : ∀ key, completions key log = (outcomeAt store key).toList)
    (justified : Justified env log) :
    (∀ key, completions key (log ++ events) = (outcomeAt later key).toList) ∧ Justified env (log ++ events) := by
  cases effect with
  | quiet same => simp only [List.append_nil,same]; exact ⟨stored,justified⟩
  | completes outcome bound first complete others =>
    refine ⟨fun key => ?_,justified_snoc justified (by simp)⟩
    by_cases same : d.key env = key
    · subst same
      simp [completions] at stored ⊢
      simp [stored,first,complete]
    · have before := stored key
      simp only [completions] at before ⊢
      simp [before,same,others key (Ne.symm same)]
  | publishes outcome result same found bytes =>
    subst same
    refine ⟨fun key => ?_,justified_snoc justified ?_⟩
    · rw [← stored key]; simp [completions]
    · rintro key traceID sent ⟨⟩
      exact ⟨outcome,mem_completions.mp (by rw [stored,found]; simp),rfl,bytes⟩

theorem invariant_step {w next : World κ} {act : WorldAct} (invariant : Invariant env w)
    (stepped : w.step env act = some next) : Invariant env next := by
  obtain ⟨stored,bound,deliveries,justified⟩ := invariant
  cases act with
  | receive worker message =>
    cases stepped
    refine ⟨stored,bound,?_,justified⟩
    intro d member
    rcases List.mem_append.mp member with old | new
    · exact deliveries d old
    · cases List.mem_singleton.mp new; trivial
  | advance elapsed => cases stepped; exact ⟨stored,bound,deliveries,justified⟩
  | «at» index act =>
    simp only [World.step,Option.bind_eq_some_iff,Option.map_eq_some_iff] at stepped
    obtain ⟨d,found,⟨later,moved,events⟩,stepped,rfl⟩ := stepped
    obtain ⟨effect,sound⟩ := step_effect bound (deliveries d (List.mem_of_getElem? found)) stepped
    obtain ⟨log,published⟩ := effect_log effect stored justified
    refine ⟨log,?_,?_,published⟩
    · intro key outcome after
      cases effect with
      | quiet same => exact bound key outcome (by rw [← same]; exact after)
      | completes first well none complete others =>
        by_cases same : key = d.key env
        · subst same; cases complete.symm.trans after; exact well
        · exact bound key outcome (by rw [← others key same]; exact after)
      | publishes first result same => subst same; exact bound key outcome after
    · intro other member
      rcases List.mem_or_eq_of_mem_set member with old | rfl
      · exact (deliveries other old).later effect.keeps
      · exact sound

/-- All results ever published under one replay tuple are the outcome of the one `Complete`
    that took effect for it, and none leaves a worker before that `Complete`. -/
theorem outcome_agreement (env : Env κ) (now : Int) {acts : List WorldAct} {w : World κ}
    (reached : run (World.step env) (World.start κ now) acts = some w) (entry : ManagedReplayEntry) :
    let key := managedReplayTestKey env.sha256 entry
    (∀ traceID result, .published key traceID result ∉ w.log) ∨
    ∃ before outcome after, w.log = before ++ .completed key outcome :: after ∧
      outcomeAt w.store key = some outcome ∧
      (∀ other, .completed key other ∉ before ∧ .completed key other ∉ after) ∧
      (∀ traceID result, .published key traceID result ∉ before) ∧
      ∀ traceID result, .published key traceID result ∈ after →
        traceID = outcome.traceID ∧ env.marshal result = some outcome.result := by
  intro key
  obtain ⟨stored,-,-,justified⟩ :=
    Runs.invariant (fun _ _ _ holds stepped => invariant_step holds stepped) (invariant_start env now) reached
  have completed := stored key
  cases found : outcomeAt w.store key with
  | none =>
    refine .inl fun traceID result member => ?_
    obtain ⟨before,after,split⟩ := List.append_of_mem member
    obtain ⟨outcome,earlier,-⟩ := justified before key traceID result after split
    have listed : outcome ∈ completions key w.log := mem_completions.mpr (by rw [split]; simp [earlier])
    rw [completed,found] at listed
    cases listed
  | some outcome =>
    right
    rw [found] at completed
    obtain ⟨before,after,split,noneBefore,noneAfter⟩ := completions_eq_singleton completed
    have notBefore : ∀ other, .completed key other ∉ before := fun other member => by
      simpa [noneBefore] using mem_completions.mpr member
    have notAfter : ∀ other, .completed key other ∉ after := fun other member => by
      simpa [noneAfter] using mem_completions.mpr member
    refine ⟨before,outcome,after,split,rfl,fun other => ⟨notBefore other,notAfter other⟩,?_,?_⟩
    · intro traceID result member
      obtain ⟨first,rest,here⟩ := List.append_of_mem member
      obtain ⟨other,earlier,-⟩ := justified first key traceID result (rest ++ .completed key outcome :: after)
        (by rw [split,here]; simp)
      exact notBefore other (by rw [here]; simp [earlier])
    · intro traceID result member
      obtain ⟨first,rest,here⟩ := List.append_of_mem member
      obtain ⟨other,earlier,trace,bytes⟩ := justified (before ++ .completed key outcome :: first) key traceID result rest
        (by rw [split,here]; simp)
      have listed : other ∈ completions key w.log :=
        mem_completions.mpr (by rw [split,here]; simp at earlier ⊢; tauto)
      rw [completed] at listed
      cases List.mem_singleton.mp listed
      exact ⟨trace.symm,bytes⟩

/-! ### A run with a lost reply -/

def sampleWorker : ManagedWorker := ⟨"w","t","s",[],⟨0,0,0,0⟩,by decide⟩

def sampleRequest : JobRequest := ⟨"j",some ⟨"t","p","a",""⟩,some ⟨"d",1,"w"⟩⟩

def sampleMessage : Message := ⟨"job.a",[1],[2],60 * second,"trace",sampleRequest,true⟩

def sampleResult : JobResult :=
  ⟨"j",.succeeded,"","w",0,"","",[],0,some ⟨"d",1,"w"⟩,some ⟨"t","p","a",""⟩,none,[]⟩

def sampleBytes : Text.Bytes :=
  [0x0a,1,0x6a,0x10,5,0x22,1,0x77,0x52,8,0x0a,1,0x64,0x10,1,0x1a,1,0x77,0x5a,9,0x0a,1,0x74,0x12,1,0x70,0x1a,1,0x61]

def sampleEnv : Env Text.Bytes where
  sha256 := id
  marshal result := if result = sampleResult then some sampleBytes else none
  unmarshal data := if data = sampleBytes then some sampleResult else none
  roundTrip result data encoded := by
    split at encoded
    · next same => cases encoded; simp [same]
    · cases encoded
  resources _ _ _ := .ok ()

/-- The first delivery completes but never learns of it; the second one publishes. -/
def lostReplyRun : List WorldAct :=
  [.receive sampleWorker sampleMessage,.at 0 (.begin .answered),
    .at 0 (.handlerReturn (.returned (some sampleResult) none) "j" 0),.at 0 .prepare,.at 0 .cancelRenew,
    .at 0 .renewExit,.at 0 .decide,.at 0 (.complete (.lost .unavailable)),.at 0 .crash,
    .receive sampleWorker sampleMessage,.at 1 (.begin .answered),.at 1 (.publish ⟨true,true,true,false,false⟩)]

def lostReplyWorld : World Text.Bytes :=
  (run (World.step sampleEnv) (World.start _ 0) lostReplyRun).getD (World.start _ 0)

theorem lostReplyRun_reaches : run (World.step sampleEnv) (World.start _ 0) lostReplyRun = some lostReplyWorld := rfl

theorem outcome_agreement_lost_reply :
    let key := managedReplayTestKey sampleEnv.sha256 (managedReplayEntry sampleWorker sampleMessage 0)
    .published key "trace" sampleResult ∈ lostReplyWorld.log ∧
    ((∀ traceID result, .published key traceID result ∉ lostReplyWorld.log) ∨
      ∃ before outcome after, lostReplyWorld.log = before ++ .completed key outcome :: after ∧
        outcomeAt lostReplyWorld.store key = some outcome ∧
        (∀ other, .completed key other ∉ before ∧ .completed key other ∉ after) ∧
        (∀ traceID result, .published key traceID result ∉ before) ∧
        ∀ traceID result, .published key traceID result ∈ after →
          traceID = outcome.traceID ∧ sampleEnv.marshal result = some outcome.result) :=
  ⟨by decide +kernel,outcome_agreement sampleEnv 0 lostReplyRun_reaches _⟩

end Cap.ManagedAgreement
