import Cap.Checks
import Cap.TtlCache
import Mathlib.Data.List.Sort

/-!
The client of the Python guard (`cordum_guard/client.py`, `cordum_guard/cache.py`). Whoever
answers for the gateway chooses the status and the JSON of every response; Python's own functions
on text and numbers are parameters.
-/
namespace Cap.Guard
open Cap.Checks Cap.TtlCache

/-- A Python float. -/
inductive Number where
  | finite (value : ℚ)
  | infinite (negative : Bool)
  | nan
deriving DecidableEq

/-- What `resp.json()` gives; the keys of an object are distinct. -/
inductive Json where
  | null
  | bool (value : Bool)
  | number (value : Number)
  | string (value : String)
  | array (items : List Json)
  | object (members : List (String × Json))

namespace Json

/-- `bool(value)`. -/
def truthy : Json → Bool
  | .null => false
  | .bool value => value
  | .number value => value ≠ .finite 0
  | .string value => value ≠ ""
  | .array items => !items.isEmpty
  | .object members => !members.isEmpty

/-- `left or right`. -/
def either (left right : Json) : Json := if left.truthy then left else right

end Json

/-- `data.get(key, default)`. -/
def member (members : List (String × Json)) (key : String) (default : Json) : Json := (members.lookup key).getD default

inductive Decision where
  | allow | deny | requireApproval | throttle | allowWithConstraints
deriving DecidableEq

/-- `Decision(value)`. -/
def Decision.ofValue : String → Option Decision
  | "allow" => some .allow
  | "deny" => some .deny
  | "require_approval" => some .requireApproval
  | "throttle" => some .throttle
  | "allow_with_constraints" => some .allowWithConstraints
  | _ => none

structure SafetyDecision where
  decision : Decision
  reason : String
  matchedRules : List String
  remediations : List (List (String × Json))
  throttleDurationSeconds : Number
  ruleId : String
  policySnapshot : String
  approvalRequired : Bool
  approvalRef : String
  constraints : List (String × Json)

def SafetyDecision.plain (decision : Decision) (reason : String) : SafetyDecision :=
  ⟨decision,reason,[],[],.finite 0,"","",false,"",[]⟩

inductive Failure where
  | connection
  | auth
  /-- `CordumError` for any other status. -/
  | api
  | blocked (decision : SafetyDecision)
  | approvalRequired (decision : SafetyDecision)
  | timeout (jobId : String)
  /-- Any other error of the HTTP library. -/
  | transport
  | decode
  | type
  | attribute
  | value
  | validation
  | stopIteration
  | cancelled

structure Builtins where
  lower : String → String
  strip : String → String
  repr : String → String
  float : Json → Except Failure Number

inductive Content where
  | empty
  | json (value : Json)
  | malformed

inductive Http where
  | connectError
  | timeoutException
  | otherError
  | response (status : Nat) (content : Content)

def request : Http → Except Failure Json
  | .connectError | .timeoutException => .error .connection
  | .otherError => .error .transport
  | .response status content =>
    if status = 401 ∨ status = 403 then .error .auth
    else if 400 ≤ status then .error .api
    else match content with
      | .empty => .ok (.object [])
      | .json value => .ok value
      | .malformed => .error .decode

def text : Json → Except Failure String
  | .string value => .ok value
  | _ => .error .validation

def object : Json → Except Failure (List (String × Json))
  | .object members => .ok members
  | _ => .error .validation

def list {α : Type} (item : Json → Except Failure α) : Json → Except Failure (List α)
  | .array items => items.mapM item
  | _ => .error .validation

/-- `text.removeprefix(start)`. -/
def removePrefix (start value : String) : String :=
  if start.toList.isPrefixOf value.toList then String.ofList (value.toList.drop start.toList.length) else value

/-- `text.replace(old, new)` for single characters. -/
def replace (old new : Char) (value : String) : String := String.ofList (value.toList.map fun c => if c = old then new else c)

def mentionsDecision : Json → Except Failure Bool
  | .object members => .ok (members.any (·.1 = "decision"))
  | .array items => .ok (items.any fun
      | .string value => value = "decision"
      | _ => false)
  | .string value => .ok (value.toList.tails.any fun rest => "decision".toList.isPrefixOf rest)
  | .null | .bool _ | .number _ => .error .type

section

variable (py : Builtins)

def parseDecision (raw : String) : Option Decision :=
  let name := removePrefix "decision_type_" (replace '-' '_' (py.lower (py.strip raw)))
  if name = "require_human" then some .requireApproval else Decision.ofValue name

def parseSafetyDecision (production : Bool) (data : Json) : Except Failure SafetyDecision := do
  if !(← mentionsDecision data) then return .plain .deny "missing gateway decision; failing closed"
  match data with
  | .object members =>
    match member members "decision" .null with
    | .string raw =>
      match parseDecision py raw with
      | none => return .plain .deny ("unknown gateway decision " ++ py.repr raw ++ "; failing closed")
      | some decision =>
        let throttle ← py.float (member members "throttle_duration_seconds" (.number (.finite 0)))
        let reason ← text (member members "reason" (.string ""))
        let matchedRules ← list text (member members "matched_rules" (.array []))
        let remediations ← list object (member members "remediations" (.array []))
        let ruleId ← text (((member members "rule_id" .null).either (member members "ruleId" .null)).either (.string ""))
        let policySnapshot ← text
          (((member members "policy_snapshot" .null).either (member members "policySnapshot" .null)).either (.string ""))
        let approvalRequired := ((member members "approval_required" .null).either (member members "approvalRequired" .null)).truthy
        let approvalRef ← text
          (((member members "approval_ref" .null).either (member members "approvalRef" .null)).either (.string ""))
        let constraints ← object ((member members "constraints" .null).either (.object []))
        return ⟨decision,reason,matchedRules,remediations,throttle,ruleId,policySnapshot,approvalRequired,approvalRef,constraints⟩
    | _ =>
      if production then return .plain .deny "CAP-PRODUCTION: non-string gateway decision; failing closed"
      else throw .type
  -- A list or a text cannot be indexed with a text.
  | _ => throw .type

end

/-- The arguments of `evaluate_policy`; the labels are in the order in which they were set. -/
structure Evaluation where
  topic : String
  capability : String
  riskTags : List String
  labels : List (String × String)
  jobId : String
  cache : Bool

/-- The order of Python's tuples. -/
def labelLe (a b : String × String) : Bool := a.1 < b.1 || (a.1 = b.1 && a.2 ≤ b.2)

abbrev CacheKey : Type := String × String × List String × List (String × String)

def makeCacheKey (e : Evaluation) : CacheKey :=
  (e.topic,e.capability,e.riskTags.insertionSort (· ≤ ·),e.labels.insertionSort (labelLe · ·))

def labelsJson (labels : List (String × String)) : Json := .object (labels.map fun label => (label.1,.string label.2))

/-- The body of the request; what is empty is left out. -/
def requestBody (e : Evaluation) : Json :=
  let details := (if e.capability ≠ "" then [("capability",Json.string e.capability)] else []) ++
    (if e.riskTags ≠ [] then [("risk_tags",Json.array (e.riskTags.map .string))] else []) ++
    (if e.labels ≠ [] then [("labels",labelsJson e.labels)] else [])
  .object ([("topic",Json.string e.topic)] ++
    (if e.labels ≠ [] then [("labels",labelsJson e.labels)] else []) ++
    (if details.isEmpty then [] else [("meta",.object details)]) ++
    (if e.jobId ≠ "" then [("job_id",Json.string e.jobId)] else []))

/-- What a client does when the gateway cannot be reached. -/
inductive OnError where
  | closed
  | opened
  | callback (answer : Failure → Except Failure SafetyDecision)
  | unknown

structure Client where
  production : Bool
  cacheTtl : ℚ
  cacheMaxSize : Int
  onError : OnError
  profile : production = true → onError = .closed

def Client.caches (client : Client) : Bool := !client.production && decide (0 < client.cacheTtl)

def handleError (client : Client) (failure : Failure) : Except Failure SafetyDecision :=
  match client.onError with
  | .closed | .unknown => .error failure
  | .opened => .ok (.plain .allow "fail-open: gateway unreachable")
  | .callback answer => answer failure

/-- `put` of the policy cache, which never stores a decision that asks for approval. -/
def putDecision (client : Client) (now : ℚ) (key : CacheKey) (decision : SafetyDecision) (cache : Cache CacheKey SafetyDecision) :
    Option (Cache CacheKey SafetyDecision) :=
  if decision.decision = .requireApproval then some cache
  else put client.cacheMaxSize client.cacheTtl now key decision cache

section

variable (py : Builtins) (client : Client)

def lookup (now : ℚ) (e : Evaluation) (cache : Cache CacheKey SafetyDecision) :
    Option SafetyDecision × Cache CacheKey SafetyDecision :=
  if client.caches && e.cache then get now (makeCacheKey e) cache else (none,cache)

def resolve (now : ℚ) (e : Evaluation) (answer : Http) (cache : Cache CacheKey SafetyDecision) :
    Except Failure SafetyDecision × Cache CacheKey SafetyDecision :=
  match request answer with
  | .error .connection => (handleError client .connection,cache)
  | .error failure => (.error failure,cache)
  | .ok data =>
    match parseSafetyDecision py client.production data with
    | .error failure => (.error failure,cache)
    | .ok decision =>
      if client.caches then
        match putDecision client now (makeCacheKey e) decision cache with
        | none => (.error .stopIteration,cache)
        | some cache => (.ok decision,cache)
      else (.ok decision,cache)

/-- An evaluation that looks at the cache at one time and is answered at a later one. -/
def evaluatePolicy (now later : ℚ) (e : Evaluation) (answer : Http) (cache : Cache CacheKey SafetyDecision) :
    Except Failure SafetyDecision × Cache CacheKey SafetyDecision :=
  match lookup client now e cache with
  | (some decision,cache) => (.ok decision,cache)
  | (none,cache) => resolve py client later e answer cache

end

namespace Samples

/-- Python as far as the samples use it. -/
def py : Builtins where
  lower := fun text => String.ofList (text.toList.map Char.toLower)
  strip := fun text => String.ofList ((text.toList.dropWhile Char.isWhitespace).reverse.dropWhile Char.isWhitespace).reverse
  repr := fun text => "'" ++ text ++ "'"
  float := fun
    | .number value => .ok value
    | .bool value => .ok (.finite (if value then 1 else 0))
    | _ => .error .type

def client : Client := ⟨false,60,1000,.closed,by simp⟩

def verdict (text : String) : Http := .response 200 (.json (.object [("decision",.string text)]))

def evaluation (jobId : String) : Evaluation := ⟨"job.guard","transfer",["write","financial"],[("arg.amount","10")],jobId,true⟩

end Samples

end Cap.Guard
