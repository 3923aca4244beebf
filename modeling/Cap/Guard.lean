import Cap.GuardClient
import Cap.Runs

/-!
A guarded call of the Python guard (`cordum_guard/guard.py`), from the evaluation of its policy
over the wait for an approval to the execution of the function. The cache is shared with every
other call.
-/
namespace Cap.Guard
open Cap.Checks Cap.TtlCache Cap.Runs

/-- Gate a call on a verdict; the result is the time to wait first. -/
def checkDecision (decision : SafetyDecision) : Except Failure Number :=
  if decision.decision = .deny then .error (.blocked decision)
  else if decision.decision = .requireApproval ∨ decision.approvalRequired = true then .error (.approvalRequired decision)
  else if decision.decision = .throttle then .ok decision.throttleDurationSeconds
  else .ok (.finite 0)

def submitJob (answer : Http) : Except Failure String := do
  match ← request answer with
  | .object members =>
    let some jobId := members.lookup "job_id" | throw .validation
    let jobId ← text jobId
    let _ ← text (member members "trace_id" (.string ""))
    return jobId
  -- Only a mapping can be unpacked into arguments.
  | _ => throw .type

structure JobStatus where
  jobId : String
  state : String
  topic : String
  resultPtr : String
  failureReason : String
  tenantId : String
  approvalStatus : String
  approvalDecision : String
  approvalBy : String
  approvalReason : String
deriving DecidableEq

def getJob (jobId : String) (answer : Http) : Except Failure JobStatus := do
  match ← request answer with
  | .object members =>
    let plain (key : String) := text (member members key (.string ""))
    let optional (key : String) := text ((member members key .null).either (.string ""))
    return ⟨← text (member members "job_id" (.string jobId)),← plain "state",← plain "topic",← plain "result_ptr",
      ← plain "failure_reason",← plain "tenant_id",← optional "approval_status",← optional "approval_decision",
      ← optional "approval_by",← optional "approval_reason"⟩
  | _ => throw .attribute

/-- The states that end an approval without letting the action run. -/
def failedStates : List String := ["failed","cancelled","denied","timeout","quarantined"]

section

variable (py : Builtins)

/-- The approval decision when it is a transition, otherwise the approval status. -/
def approvalOutcome (status : JobStatus) : String :=
  match py.lower status.approvalDecision with
  | "approve" => "approved"
  | "reject" => "rejected"
  | "expire" => "expired"
  | "invalidate" => "invalidated"
  | _ => py.lower status.approvalStatus

/-- What one poll decides: the approval, nothing yet, or an end without it. -/
def judge (status : JobStatus) : Except Failure Bool :=
  let state := py.lower status.state
  let outcome := approvalOutcome py status
  let outcome := if state = "timeout" ∧ outcome = "pending" then "expired" else outcome
  if outcome ∈ ["rejected","expired","invalidated"] then
    let reason := "approval " ++ outcome ++
      if outcome = "rejected" ∧ status.approvalReason ≠ "" then ": " ++ status.approvalReason else ""
    .error (.blocked (.plain .deny reason))
  else if state ∈ failedStates then .error (.blocked (.plain .deny ("approval job ended " ++ status.state)))
  else if outcome = "approved" ∧ status.approvalBy ≠ "" then .ok true
  else if state = "succeeded" then .error (.blocked (.plain .deny "approval job succeeded without an approval"))
  else .ok false

/-- `wait_for_approval`: each poll has its answer and the clock after it. Without a result it is
    still waiting. -/
def waitForApproval (jobId : String) (deadline : ℚ) : List (Http × ℚ) → Option (Except Failure JobStatus)
  | [] => none
  | (answer,now) :: rest =>
    match getJob jobId answer with
    | .error failure => some (.error failure)
    | .ok status =>
      match judge py status with
      | .error failure => some (.error failure)
      | .ok true => some (.ok status)
      | .ok false => if deadline - now ≤ 0 then some (.error (.timeout jobId)) else waitForApproval jobId deadline rest

structure Surroundings where
  submission : Http
  deadline : ℚ
  polls : List (Http × ℚ)
  /-- The throttling, which may be interrupted. -/
  slept : Except Failure Unit
  /-- The async wrapper may be cancelled while it waits for the approval. -/
  waited : Except Failure Unit

/-- What came of a call, if it has ended, and how often the function was executed. -/
structure Outcome where
  result : Option (Except Failure Unit)
  executions : Nat

/-- `_handle_decision_sync` and `_handle_decision_async`; the function may fail as it likes. -/
def handleDecision (function : Except Failure Unit) (decision : SafetyDecision) (around : Surroundings) : Outcome :=
  match checkDecision decision with
  | .error (.approvalRequired _) =>
    match submitJob around.submission with
    | .error failure => ⟨some (.error failure),0⟩
    | .ok jobId =>
      match waitForApproval py jobId around.deadline around.polls with
      | none => ⟨none,0⟩
      | some (.error failure) => ⟨some (.error failure),0⟩
      | some (.ok _) =>
        match around.waited with
        | .error failure => ⟨some (.error failure),0⟩
        | .ok () => ⟨some function,1⟩
  | .error failure => ⟨some (.error failure),0⟩
  | .ok delay =>
    if delay ≠ .finite 0 then
      match around.slept with
      | .error failure => ⟨some (.error failure),0⟩
      | .ok () => ⟨some function,1⟩
    else ⟨some function,1⟩

end

/-- An answer of the gateway to an evaluation with this key. -/
structure Answer where
  key : CacheKey
  data : Json
  time : ℚ

/-- The cache of a client and the answers that the gateway has given so far. -/
structure Shared where
  cache : Cache CacheKey SafetyDecision
  answers : List Answer

def unused : Shared := ⟨[],[]⟩

inductive Op where
  | lookup (now : ℚ) (e : Evaluation)
  | resolve (now : ℚ) (e : Evaluation) (answer : Http)
  | clear

section

variable (py : Builtins) (client : Client)

def step (s : Shared) : Op → Option Shared
  | .lookup now e => some { s with cache := (lookup client now e s.cache).2 }
  | .resolve now e answer => some {
      cache := (resolve py client now e answer s.cache).2
      answers := match request answer with
        | .ok data => s.answers ++ [⟨makeCacheKey e,data,now⟩]
        | .error _ => s.answers }
  | .clear => some { s with cache := [] }

/-- The verdict of a call: the cache is read at one time, and the answer arrives at a later one, when
    other threads may have changed the cache. -/
def evaluate (now later : ℚ) (e : Evaluation) (answer : Http) (before after : Cache CacheKey SafetyDecision) :
    Except Failure SafetyDecision :=
  match (lookup client now e before).1 with
  | some decision => .ok decision
  | none => (resolve py client later e answer after).1

def guardedCall (function : Except Failure Unit) (now later : ℚ) (e : Evaluation) (answer : Http)
    (before after : Cache CacheKey SafetyDecision) (around : Surroundings) : Outcome :=
  match evaluate py client now later e answer before after with
  | .error failure => ⟨some (.error failure),0⟩
  | .ok decision => handleDecision py function decision around

end

def Permits (decision : SafetyDecision) : Prop :=
  decision.decision ∈ [.allow,.allowWithConstraints,.throttle] ∧ decision.approvalRequired = false

def AsksForApproval (decision : SafetyDecision) : Prop :=
  decision.decision = .requireApproval ∨ decision.decision ≠ .deny ∧ decision.approvalRequired = true

section

variable (py : Builtins)

def Approved (status : JobStatus) : Prop :=
  approvalOutcome py status = "approved" ∧ status.approvalBy ≠ "" ∧ py.lower status.state ∉ failedStates

/-- The approval was refused or has lapsed, or the job has ended. -/
def Ended (status : JobStatus) : Prop :=
  approvalOutcome py status ∈ ["rejected","expired","invalidated"] ∨ py.lower status.state ∈ failedStates ∨
    py.lower status.state = "succeeded"

/-- Some poll of the job showed an approval, and none before it showed an end. -/
def ApprovedByPoll (jobId : String) (polls : List (Http × ℚ)) : Prop :=
  ∃ earlier answer now rest status, polls = earlier ++ (answer,now) :: rest ∧ getJob jobId answer = .ok status ∧
    Approved py status ∧ ∀ poll ∈ earlier, ∃ shown, getJob jobId poll.1 = .ok shown ∧ ¬ Ended py shown

/-- The verdict that is in force for a call: the answer to the call itself, or an earlier one that is
    not older than the time to live. -/
inductive InForce (client : Client) (s : Shared) (now : ℚ) (e : Evaluation) (answer : Http) (decision : SafetyDecision) : Prop where
  | fresh {data : Json} (answered : request answer = .ok data)
      (parsed : parseSafetyDecision py client.production data = .ok decision)
  | cached {earlier : Answer} (given : earlier ∈ s.answers) (key : earlier.key = makeCacheKey e)
      (parsed : parseSafetyDecision py client.production earlier.data = .ok decision)
      (young : now ≤ earlier.time + client.cacheTtl)

end

section

variable {py : Builtins} {client : Client}

variable {status : JobStatus}

theorem judge_true (approved : judge py status = .ok true) : Approved py status := by
  unfold judge at approved
  dsimp only at approved
  split_ifs at approved with late ended failed good <;> simp_all [Approved]

theorem judge_false (undecided : judge py status = .ok false) : ¬ Ended py status := by
  unfold judge at undecided
  dsimp only at undecided
  split_ifs at undecided with late ended failed good succeeded <;> simp_all [Ended]

theorem waitForApproval_ok {jobId : String} {deadline : ℚ} {polls : List (Http × ℚ)}
    (returned : waitForApproval py jobId deadline polls = some (.ok status)) : ApprovedByPoll py jobId polls := by
  induction polls with
  | nil => simp [waitForApproval] at returned
  | cons poll rest ih =>
    obtain ⟨answer,now⟩ := poll
    rw [waitForApproval] at returned
    cases found : getJob jobId answer with
    | error failure => simp [found] at returned
    | ok shown =>
      simp only [found] at returned
      cases judged : judge py shown with
      | error failure => simp [judged] at returned
      | ok approved =>
        simp only [judged] at returned
        cases approved with
        | true => exact ⟨[],answer,now,rest,shown,rfl,found,judge_true judged,by simp⟩
        | false =>
          by_cases timeout : deadline - now ≤ 0
          · simp [timeout] at returned
          · simp only [timeout] at returned
            obtain ⟨earlier,last,clock,after,status,split,shows,approved,before⟩ := ih returned
            refine ⟨(answer,now) :: earlier,last,clock,after,status,by rw [split]; rfl,shows,approved,?_⟩
            intro poll member
            rcases List.mem_cons.mp member with rfl | later
            · exact ⟨shown,found,judge_false judged⟩
            · exact before poll later

variable {decision : SafetyDecision}

theorem checkDecision_ok {delay : Number} (passed : checkDecision decision = .ok delay) :
    Permits decision := by
  unfold checkDecision at passed
  split_ifs at passed with denied asks throttled
  · simp_all [Permits]
  · cases kind : decision.decision <;> simp_all [Permits]

theorem checkDecision_approval {asked : SafetyDecision}
    (failed : checkDecision decision = .error (.approvalRequired asked)) : AsksForApproval decision := by
  unfold checkDecision at failed
  by_cases denied : decision.decision = .deny
  · simp [denied] at failed
  · by_cases asks : decision.decision = .requireApproval ∨ decision.approvalRequired = true
    · rcases asks with required | flagged
      · exact .inl required
      · exact .inr ⟨denied,flagged⟩
    · simp only [denied,asks,if_false] at failed
      split at failed <;> cases failed

theorem handleDecision_spec (function : Except Failure Unit) (decision : SafetyDecision) (around : Surroundings) :
    (handleDecision py function decision around).executions ≤ 1 ∧
      ((handleDecision py function decision around).executions ≠ 0 → Permits decision ∨ AsksForApproval decision ∧
        ∃ jobId, submitJob around.submission = .ok jobId ∧ ApprovedByPoll py jobId around.polls) := by
  unfold handleDecision
  split
  · rename_i asked asks
    split
    · simp
    · rename_i jobId submitted
      split
      · simp
      · simp
      · rename_i status returned
        split
        · simp
        · refine ⟨le_rfl,fun _ => .inr ⟨checkDecision_approval asks,jobId,submitted,?_⟩⟩
          exact waitForApproval_ok returned
  · simp
  · rename_i delay passed
    have permits := checkDecision_ok passed
    split_ifs
    · split
      · simp
      · exact ⟨le_rfl,fun _ => .inl permits⟩
    · exact ⟨le_rfl,fun _ => .inl permits⟩

def Stored (py : Builtins) (client : Client) (answers : List Answer) (entry : Entry CacheKey SafetyDecision) : Prop :=
  ∃ answer ∈ answers, answer.key = entry.key ∧ parseSafetyDecision py client.production answer.data = .ok entry.value ∧
    entry.expiry = answer.time + client.cacheTtl

theorem Stored.append {answers : List Answer} {entry : Entry CacheKey SafetyDecision} (more : List Answer)
    (stored : Stored py client answers entry) : Stored py client (answers ++ more) entry := by
  obtain ⟨answer,given,rest⟩ := stored
  exact ⟨answer,List.mem_append_left _ given,rest⟩

variable {now : ℚ} {e : Evaluation} {answer : Http} {s : Shared}

theorem resolve_stored (holds : Holds (Stored py client s.answers) s.cache) :
    ∀ t, step py client s (.resolve now e answer) = some t → Holds (Stored py client t.answers) t.cache := by
  intro t next
  cases next
  simp only [resolve]
  cases answered : request answer with
  | error failure => cases failure <;> exact holds
  | ok data =>
    have kept : Holds (Stored py client (s.answers ++ [⟨makeCacheKey e,data,now⟩])) s.cache :=
      holds.mono fun entry stored => stored.append _
    simp only
    cases parsed : parseSafetyDecision py client.production data with
    | error failure => exact kept
    | ok decision =>
      have new : Stored py client (s.answers ++ [⟨makeCacheKey e,data,now⟩])
          ⟨makeCacheKey e,decision,now + client.cacheTtl⟩ :=
        ⟨⟨makeCacheKey e,data,now⟩,List.mem_append_right _ (by simp),rfl,parsed,rfl⟩
      simp only
      split
      · cases stored : putDecision client now (makeCacheKey e) decision s.cache with
        | none => exact kept
        | some after =>
          unfold putDecision at stored
          split at stored
          · obtain rfl := Option.some.inj stored
            exact kept
          · exact put_holds kept new stored
      · exact kept

theorem step_stored {t : Shared} {op : Op} (holds : Holds (Stored py client s.answers) s.cache)
    (next : step py client s op = some t) : Holds (Stored py client t.answers) t.cache := by
  cases op with
  | lookup now e =>
    cases next
    simp only [lookup]
    split
    · exact get_holds now _ holds
    · exact holds
  | resolve now e answer => exact resolve_stored holds t next
  | clear =>
    cases next
    exact holds_nil

theorem evaluate_inForce {later : ℚ} {after : Cache CacheKey SafetyDecision} (closed : client.onError = .closed)
    (holds : Holds (Stored py client s.answers) s.cache)
    (decided : evaluate py client now later e answer s.cache after = .ok decision) :
    InForce py client s now e answer decision := by
  unfold evaluate at decided
  split at decided
  · rename_i hit found
    obtain rfl := Except.ok.inj decided
    unfold lookup at found
    split at found
    · obtain ⟨expiry,young,earlier,given,key,parsed,same⟩ := get_some holds found
      exact .cached given key parsed (same ▸ young)
    · cases found
  · unfold resolve at decided
    cases answered : request answer with
    | error failure => cases failure <;> simp [answered,handleError,closed] at decided
    | ok data =>
      simp only [answered] at decided
      cases parsed : parseSafetyDecision py client.production data with
      | error failure => simp [parsed] at decided
      | ok fresh =>
        simp only [parsed] at decided
        split at decided
        · split at decided
          · cases decided
          · obtain rfl := Except.ok.inj decided
            exact .fresh answered parsed
        · obtain rfl := Except.ok.inj decided
          exact .fresh answered parsed

/-- A guarded call of a client that fails closed, after whatever the other calls have done to the
    cache: the function runs at most once, and only under a verdict in force that permits it, or
    that asks for an approval which a poll has shown. -/
theorem guarded_call_authorised {ops : List Op} {s : Shared} (closed : client.onError = .closed)
    (reached : run (step py client) unused ops = some s) (function : Except Failure Unit) (now later : ℚ)
    (e : Evaluation) (answer : Http) (after : Cache CacheKey SafetyDecision) (around : Surroundings) :
    (guardedCall py client function now later e answer s.cache after around).executions ≤ 1 ∧
      ((guardedCall py client function now later e answer s.cache after around).executions ≠ 0 →
        ∃ decision, InForce py client s now e answer decision ∧ (Permits decision ∨ AsksForApproval decision ∧
          ∃ jobId, submitJob around.submission = .ok jobId ∧ ApprovedByPoll py jobId around.polls)) := by
  have holds : Holds (Stored py client s.answers) s.cache :=
    invariant (fun s a t holds next => step_stored holds next) (by simp [unused]) reached
  unfold guardedCall
  cases decided : evaluate py client now later e answer s.cache after with
  | error failure => simp
  | ok decision =>
    obtain ⟨once,only⟩ := @handleDecision_spec py function decision around
    exact ⟨once,fun executed => ⟨decision,evaluate_inForce closed holds decided,only executed⟩⟩

structure Tidy (client : Client) (cache : Cache CacheKey SafetyDecision) : Prop where
  bounded : Bounded client.cacheMaxSize cache
  decided : Holds (·.value.decision ≠ .requireApproval) cache

theorem resolve_tidy {cache : Cache CacheKey SafetyDecision}
    (tidy : Tidy client cache) : Tidy client (resolve py client now e answer cache).2 := by
  unfold resolve
  split
  · exact tidy
  · exact tidy
  · split
    · exact tidy
    · rename_i decision parsed
      split_ifs
      · cases stored : putDecision client now (makeCacheKey e) decision cache with
        | none => exact tidy
        | some after =>
          unfold putDecision at stored
          split at stored
          · cases stored
            exact tidy
          · rename_i decided
            exact ⟨put_bounded tidy.bounded stored,put_holds tidy.decided decided stored⟩
      · exact tidy

/-- Whatever the threads of a client do, its cache has one entry for a key, no more entries than it
    may have, and no decision whose verdict is `REQUIRE_APPROVAL`; one that only sets the flag is stored. -/
theorem cache_stays_tidy {ops : List Op} {s : Shared} (reached : run (step py client) unused ops = some s) :
    (s.cache.map (·.key)).Nodup ∧ (s.cache.length : Int) ≤ max client.cacheMaxSize 0 ∧
      ∀ entry ∈ s.cache, entry.value.decision ≠ .requireApproval := by
  have empty : Tidy client [] := ⟨⟨by simp,by simp⟩,holds_nil⟩
  have keeps : ∀ s op t, Tidy client s.cache → step py client s op = some t → Tidy client t.cache := by
    intro s op t tidy next
    cases op with
    | lookup now e =>
      cases next
      simp only [lookup]
      split
      · exact ⟨get_bounded now _ tidy.bounded,get_holds now _ tidy.decided⟩
      · exact tidy
    | resolve now e answer =>
      cases next
      exact resolve_tidy tidy
    | clear =>
      cases next
      exact empty
  have tidy := invariant keeps empty reached
  exact ⟨tidy.bounded.distinct,tidy.bounded.size,tidy.decided⟩

end

namespace Samples

def approvalJob : Http := .response 200 (.json (.object [("job_id",.string "job")]))

/-- The job waits for its approval. -/
def pending : Http := .response 200 (.json (.object [("state",.string "APPROVAL_REQUIRED"),("approval_status",.string "pending")]))

def approved : Http := .response 200 (.json (.object
  [("state",.string "pending"),("approval_status",.string "pending"),("approval_decision",.string "approve"),
    ("approval_by",.string "reviewer")]))

def around : Surroundings := ⟨approvalJob,300,[(pending,1),(approved,3)],.ok (),.ok ()⟩

def approvedCall : Outcome :=
  guardedCall py client (.ok ()) 0 1 (evaluation "") (verdict "DECISION_TYPE_REQUIRE_HUMAN") unused.cache [] around

/-- A call that asks for approval runs after the second poll. -/
theorem approved_call_authorised :
    approvedCall.executions = 1 ∧ ∃ decision,
      InForce py client unused 0 (evaluation "") (verdict "DECISION_TYPE_REQUIRE_HUMAN") decision ∧
        (Permits decision ∨ AsksForApproval decision ∧
          ∃ jobId, submitJob around.submission = .ok jobId ∧ ApprovedByPoll py jobId around.polls) := by
  have executed : approvedCall.executions = 1 := by
    decide +kernel
  have authorised := (guarded_call_authorised rfl (show run (step py client) unused [] = some unused from rfl) (.ok ()) 0 1
    (evaluation "") (verdict "DECISION_TYPE_REQUIRE_HUMAN") [] around).2
  refine ⟨executed,authorised ?_⟩
  show approvedCall.executions ≠ 0
  rw [executed]
  decide

/-- Two answers for one key, and a verdict that is not stored. -/
def asked : List Op := [.resolve 0 (evaluation "") (verdict "ALLOW"),.lookup 1 (evaluation ""),
  .resolve 2 (evaluation "") (verdict "DENY"),.resolve 3 (evaluation "other") (verdict "REQUIRE_HUMAN")]

theorem asked_tidy : ∃ s, run (step py client) unused asked = some s ∧ s.cache.length = 1 ∧ (s.cache.map (·.key)).Nodup := by
  refine ⟨_,rfl,?_,(cache_stays_tidy (show run (step py client) unused asked = _ from rfl)).1⟩
  decide +kernel

end Samples

end Cap.Guard
