import Cap.GuardClient

/-!
The decision cache of the Python guard against a client without one. The job of an evaluation is
not part of the key, so the cache is transparent for a gateway that does not look at the job
either.
-/
namespace Cap.Guard
open Cap.Checks Cap.TtlCache

/-- One evaluation, some time after the one before it, and the time until its answer. -/
structure Call where
  evaluation : Evaluation
  delay : ℚ
  roundTrip : ℚ

section

variable (py : Builtins) (client : Client) (gateway : Json → Http)

def evaluateAll : ℚ → Cache CacheKey SafetyDecision → List Call → List (Except Failure SafetyDecision)
  | _,_,[] => []
  | clock,cache,call :: rest =>
    let now := clock + call.delay
    let later := now + call.roundTrip
    let (result,cache) := evaluatePolicy py client now later call.evaluation (gateway (requestBody call.evaluation)) cache
    result :: evaluateAll later cache rest

def Client.uncached (client : Client) : Client := { client with cacheTtl := 0 }

def fresh (e : Evaluation) : Except Failure SafetyDecision :=
  (resolve py client.uncached 0 e (gateway (requestBody e)) []).1

end

/-- Two evaluations that differ in the order of their tags and labels, and in their jobs. -/
structure SameInput (a b : Evaluation) : Prop where
  topic : a.topic = b.topic
  capability : a.capability = b.capability
  riskTags : a.riskTags.Perm b.riskTags
  labels : a.labels.Perm b.labels

theorem sameInput_of_key {a b : Evaluation} (same : makeCacheKey a = makeCacheKey b) : SameInput a b := by
  simp only [makeCacheKey,Prod.mk.injEq] at same
  obtain ⟨topic,capability,tags,labels⟩ := same
  refine ⟨topic,capability,?_,?_⟩
  · exact (List.perm_insertionSort _ a.riskTags).symm.trans (tags ▸ List.perm_insertionSort _ b.riskTags)
  · exact (List.perm_insertionSort _ a.labels).symm.trans (labels ▸ List.perm_insertionSort _ b.labels)

section

variable {py : Builtins} {client : Client} {gateway : Json → Http}

@[simp] theorem uncached_caches : client.uncached.caches = false := by simp [Client.caches,Client.uncached]

theorem evaluatePolicy_uncached (now later : ℚ) (e : Evaluation) (cache : Cache CacheKey SafetyDecision) :
    (evaluatePolicy py client.uncached now later e (gateway (requestBody e)) cache).1 = fresh py client gateway e := by
  simp only [evaluatePolicy,lookup,fresh,resolve,uncached_caches]
  cases request (gateway (requestBody e)) with
  | error failure => cases failure <;> rfl
  | ok data =>
    simp only
    cases parseSafetyDecision py client.uncached.production data <;> rfl

variable (insensitive : ∀ a b, SameInput a b → gateway (requestBody a) = gateway (requestBody b))

def Current (py : Builtins) (client : Client) (gateway : Json → Http) (entry : Entry CacheKey SafetyDecision) : Prop :=
  ∀ e, makeCacheKey e = entry.key → fresh py client gateway e = .ok entry.value

variable {cache : Cache CacheKey SafetyDecision}

theorem putDecision_spec {P : Entry CacheKey SafetyDecision → Prop} {now : ℚ} {key : CacheKey}
    {decision : SafetyDecision} (room : 0 < client.cacheMaxSize) (holds : Holds P cache)
    (new : P ⟨key,decision,now + client.cacheTtl⟩) :
    ∃ after, putDecision client now key decision cache = some after ∧ Holds P after := by
  unfold putDecision
  split
  · exact ⟨cache,rfl,holds⟩
  · have takes : (put client.cacheMaxSize client.cacheTtl now key decision cache).isSome = true := put_isSome room
    obtain ⟨after,stored⟩ := Option.isSome_iff_exists.mp takes
    exact ⟨after,stored,put_holds holds new stored⟩

include insensitive in
theorem resolve_spec (room : 0 < client.cacheMaxSize) (now : ℚ) (e : Evaluation)
    (holds : Holds (Current py client gateway) cache) :
    (resolve py client now e (gateway (requestBody e)) cache).1 = fresh py client gateway e ∧
      Holds (Current py client gateway) (resolve py client now e (gateway (requestBody e)) cache).2 := by
  have freshly : fresh py client gateway e = (resolve py client.uncached 0 e (gateway (requestBody e)) []).1 := rfl
  cases answered : request (gateway (requestBody e)) with
  | error failure =>
    rw [freshly]
    simp only [resolve,answered]
    cases failure <;> exact ⟨rfl,holds⟩
  | ok data =>
    cases parsed : parseSafetyDecision py client.production data with
    | error failure =>
      have same : parseSafetyDecision py client.uncached.production data = .error failure := parsed
      simp only [freshly,resolve,answered,parsed,same]
      exact ⟨trivial,holds⟩
    | ok decision =>
      have same : parseSafetyDecision py client.uncached.production data = .ok decision := parsed
      have decided : fresh py client gateway e = .ok decision := by
        simp only [freshly,resolve,answered,same,uncached_caches,Bool.false_eq_true,if_false]
      -- Any other evaluation with the key gets the same answer.
      have current : ∀ expiry, Current py client gateway ⟨makeCacheKey e,decision,expiry⟩ := by
        intro expiry other key
        have gate := insensitive other e (sameInput_of_key key)
        have production : client.uncached.production = client.production := rfl
        simp only [fresh,resolve,gate,answered,production,parsed,uncached_caches,Bool.false_eq_true,if_false]
      rw [decided]
      by_cases caching : client.caches = true
      · obtain ⟨after,stored,kept⟩ := putDecision_spec room holds (current (now + client.cacheTtl))
        simp only [resolve,answered,parsed,caching,if_true,stored]
        exact ⟨trivial,kept⟩
      · simp only [resolve,answered,parsed,caching,Bool.false_eq_true,if_false]
        exact ⟨trivial,holds⟩

include insensitive in
theorem evaluatePolicy_spec (room : 0 < client.cacheMaxSize) (now later : ℚ) (e : Evaluation)
    (holds : Holds (Current py client gateway) cache) :
    (evaluatePolicy py client now later e (gateway (requestBody e)) cache).1 = fresh py client gateway e ∧
      Holds (Current py client gateway) (evaluatePolicy py client now later e (gateway (requestBody e)) cache).2 := by
  have kept : Holds (Current py client gateway) (lookup client now e cache).2 := by
    unfold lookup
    split
    · exact get_holds now _ holds
    · exact holds
  unfold evaluatePolicy
  cases found : lookup client now e cache with
  | mk hit after =>
    rw [found] at kept
    cases hit with
    | none => exact resolve_spec insensitive room later e kept
    | some decision =>
      refine ⟨?_,kept⟩
      unfold lookup at found
      split at found
      · obtain ⟨expiry,-,current⟩ := get_some holds (congrArg Prod.fst found)
        exact (current e rfl).symm
      · cases found

include insensitive in
theorem evaluateAll_cached (room : 0 < client.cacheMaxSize) (calls : List Call) (clock : ℚ)
    (holds : Holds (Current py client gateway) cache) :
    evaluateAll py client gateway clock cache calls = calls.map fun call => fresh py client gateway call.evaluation := by
  induction calls generalizing clock cache with
  | nil => rfl
  | cons call rest ih =>
    have spec := evaluatePolicy_spec insensitive room (clock + call.delay) (clock + call.delay + call.roundTrip)
      call.evaluation holds
    simp only [evaluateAll,List.map_cons]
    rw [spec.1,ih _ spec.2]

theorem evaluateAll_uncached (calls : List Call) (clock : ℚ) (cache : Cache CacheKey SafetyDecision) :
    evaluateAll py client.uncached gateway clock cache calls =
      calls.map fun call => fresh py client gateway call.evaluation := by
  induction calls generalizing clock cache with
  | nil => rfl
  | cons call rest ih =>
    simp only [evaluateAll,List.map_cons]
    rw [evaluatePolicy_uncached,ih]

/-- Every evaluation of every sequence gives what a client without a cache would give, whatever the
    size of the cache, the time to live and the clock are. -/
theorem cache_transparent (room : 0 < client.cacheMaxSize)
    (insensitive : ∀ a b, SameInput a b → gateway (requestBody a) = gateway (requestBody b))
    (clock : ℚ) (calls : List Call) :
    evaluateAll py client gateway clock [] calls = evaluateAll py client.uncached gateway clock [] calls := by
  rw [evaluateAll_cached insensitive room calls clock holds_nil,evaluateAll_uncached]

end

namespace Samples

def roomless : Client := ⟨false,60,0,.closed,client.profile⟩

/-- Only the first job is allowed. -/
def perJob : Json → Http
  | .object members => match members.lookup "job_id" with
    | some (.string "first") => verdict "DECISION_TYPE_ALLOW"
    | _ => verdict "DECISION_TYPE_DENY"
  | _ => verdict "DECISION_TYPE_DENY"

/-- Writing is not allowed. -/
def perTag : Json → Http
  | .object members => match members.lookup "meta" with
    | some (.object details) => match details.lookup "risk_tags" with
      | some (.array tags) =>
        if tags.any (fun | .string tag => tag = "write" | _ => false) then verdict "deny" else verdict "allow"
      | _ => verdict "allow"
    | _ => verdict "allow"
  | _ => verdict "deny"

def verdicts (results : List (Except Failure SafetyDecision)) : List (Option Decision) :=
  results.map fun result => result.toOption.map (·.decision)

theorem perJob_body (e : Evaluation) : perJob (requestBody e) =
    if e.jobId = "first" then verdict "DECISION_TYPE_ALLOW" else verdict "DECISION_TYPE_DENY" := by
  have found : ∃ members, requestBody e = .object members ∧
      members.lookup "job_id" = if e.jobId ≠ "" then some (.string e.jobId) else none := by
    refine ⟨_,rfl,?_⟩
    by_cases job : e.jobId = "" <;> split_ifs <;> simp_all [List.lookup_cons]
  obtain ⟨members,body,job⟩ := found
  rw [body,perJob,job]
  by_cases first : e.jobId = "first"
  · simp [first]
  · by_cases empty : e.jobId = ""
    · simp [empty]
    · simp [first]

theorem perTag_body (e : Evaluation) : perTag (requestBody e) =
    if "write" ∈ e.riskTags then verdict "deny" else verdict "allow" := by
  have job : List.lookup "meta" (if e.jobId = "" then [] else [("job_id",Json.string e.jobId)]) = none := by
    split <;> simp
  -- Without a tag, a capability and labels there are no details at all.
  by_cases tags : e.riskTags = [] <;> by_cases capability : e.capability = "" <;> by_cases labels : e.labels = [] <;>
    simp [requestBody,perTag,tags,capability,labels,job,List.lookup_cons]

/-- The second job gets the verdict about the first, and a cache of size zero makes every verdict
    fail. -/
theorem cache_not_transparent :
    (∀ a b, SameInput a b → a.jobId = b.jobId → perJob (requestBody a) = perJob (requestBody b)) ∧
      verdicts (evaluateAll py client perJob 0 [] [⟨evaluation "first",0,1⟩,⟨evaluation "second",1,1⟩]) =
        [some .allow,some .allow] ∧
      verdicts (evaluateAll py client.uncached perJob 0 [] [⟨evaluation "first",0,1⟩,⟨evaluation "second",1,1⟩]) =
        [some .allow,some .deny] ∧
      verdicts (evaluateAll py roomless perJob 0 [] [⟨evaluation "first",0,1⟩]) = [none] := by
  refine ⟨fun a b _ job => ?_,by decide +kernel,by decide +kernel,by decide +kernel⟩
  rw [perJob_body,perJob_body,job]

/-- Two jobs, and the second is answered by the cache. -/
theorem cache_transparent_per_tag :
    evaluateAll py client perTag 0 [] [⟨evaluation "first",0,1⟩,⟨evaluation "second",1,1⟩] =
      evaluateAll py client.uncached perTag 0 [] [⟨evaluation "first",0,1⟩,⟨evaluation "second",1,1⟩] := by
  refine cache_transparent (by decide) ?_ 0 _
  intro a b same
  simp [perTag_body,same.riskTags.mem_iff]

end Samples

end Cap.Guard
