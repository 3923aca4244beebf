import Cap.Guard

/-!
What a guarded call of the Python guard (`cordum_guard/guard.py`) shows the gateway of its
arguments: the labels of the evaluation and the prompt of the approval job. Signatures and values
are parameters.
-/
namespace Cap.Guard
open Cap.Checks Cap.TtlCache Cap.Runs

/-- The words of the pattern; an optional underscore gives two. -/
def secretWords : List String :=
  ["password","passwd","passphrase","secret","token","apikey","api_key","accesskey","access_key","privatekey",
    "private_key","authorization","auth","credential","credentials","cookie","session"]

/-- An underscore wherever a capital follows a small letter or a digit. -/
def splitCamel : List Char → List Char
  | a :: b :: rest =>
    if (a.isLower || a.isDigit) && b.isUpper then a :: '_' :: splitCamel (b :: rest) else a :: splitCamel (b :: rest)
  | short => short

/-- `(?:_|$)`, where a newline may still follow the end. -/
def endsWord : List Char → Bool
  | [] => true
  | c :: rest => c = '_' || (c = '\n' && rest.isEmpty)

def afterUnderscores : List Char → List (List Char)
  | [] => []
  | c :: rest => if c = '_' then rest :: afterUnderscores rest else afterUnderscores rest

def isSecretName (py : Builtins) (name : String) : Bool :=
  let text := (py.lower (String.ofList (splitCamel name.toList))).toList
  (text :: afterUnderscores text).any fun rest =>
    secretWords.any fun word => word.toList.isPrefixOf rest && endsWord (rest.drop word.length)

/-- The full match of `_ARG_NAME`. -/
def isArgName (name : String) : Bool :=
  match name.toList with
  | [] => false
  | first :: rest =>
    (first.isAlpha || first = '_') && decide (rest.length ≤ 63) && rest.all fun c => c.isAlpha || c.isDigit || c = '_'

def cut (count : Nat) (text : String) : String := String.ofList (text.toList.take count)

/-- `dict[key] = value`; a new key comes last. -/
def assign {α : Type} (dict : List (String × α)) (entry : String × α) : List (String × α) :=
  if dict.any (·.1 = entry.1) then dict.map fun old => if old.1 = entry.1 then entry else old else dict ++ [entry]

def update {α : Type} (dict entries : List (String × α)) : List (String × α) := entries.foldl assign dict

/-- How many arguments a call passes by position, and the keywords of the others. -/
structure Shape where
  count : Nat
  names : List String

abbrev Shape.Source (shape : Shape) : Type := Fin shape.count ⊕ Fin shape.names.length

def Shape.keywords (shape : Shape) : List (String × shape.Source) :=
  (List.finRange shape.names.length).map fun i => (shape.names.get i,.inr i)

inductive Bound (S : Type) where
  | single (name : String) (source : S)
  | positional (name : String) (sources : List S)
  | keywords (name : String) (members : List (String × S))

/-- `inspect.signature(fn).bind_partial`: what goes where depends on the shape of a call only. There is
    no result when the signature cannot be read or the call does not fit it. -/
structure Signature where
  bind : (shape : Shape) → Option (List (Bound shape.Source))

/-- What the guard asks a value. -/
inductive ValueKind where
  | bool (value : Bool)
  /-- `int`, `float` or `Decimal`. -/
  | number
  | text (value : String)
  | other

structure Values (V : Type) where
  kind : V → ValueKind
  unequal : V → Except Failure Bool
  str : V → Except Failure String
  repr : V → Except Failure String

section

variable {V : Type} {shape : Shape}

def valued (call : shape.Source → V) (members : List (String × shape.Source)) : List (String × V) :=
  members.map fun member => (member.1,call member.2)

/-- What a parameter adds to the named arguments. -/
def addParameter (call : shape.Source → V) (named : List (String × V)) : Bound shape.Source → List (String × V)
  | .keywords _ members => update named (valued call members)
  | .positional _ _ => named
  | .single name source => assign named (name,call source)

def namedArgs (signature : Signature) (call : shape.Source → V) : List (String × V) :=
  match signature.bind shape with
  | none => valued call shape.keywords
  | some bound => bound.foldl (addParameter call) []

variable (py : Builtins) (values : Values V)

def labelText (value : V) : Except Failure (Option String) :=
  match values.kind value with
  | .bool truth => .ok (some (if truth then "true" else "false"))
  | .number => do
    if ← values.unequal value then return some "inf"
    return some (← values.str value)
  | .text text => .ok (some text)
  | .other => .ok none

/-- The loop of `_arg_labels`, with the labels so far. -/
def argLabels (labels : List (String × String)) : List (String × V) → Except Failure (List (String × String))
  | [] => .ok labels
  | (name,value) :: rest =>
    if 16 ≤ labels.length then .ok labels
    else if !isArgName name || isSecretName py name then argLabels labels rest
    else do
      match ← labelText values value with
      | none => argLabels labels rest
      | some text => argLabels (assign labels ("arg." ++ name,cut 256 text)) rest

def summarizePart (named : String × V) : Except Failure String := do
  let shown ← if isSecretName py named.1 then pure "***" else values.repr named.2
  return if 50 < shown.length then named.1 ++ "=" ++ cut 50 shown ++ "..." else named.1 ++ "=" ++ shown

def summarizeArgs (named : List (String × V)) : Except Failure String := do
  let parts ← named.mapM (summarizePart py values)
  let summary := ", ".intercalate parts
  return if 200 < summary.length then cut 200 summary ++ "..." else summary

end

inductive Sent where
  | evaluation (body : Json)
  | submission (body : Json)
  | poll (jobId : String)
  | cancel (jobId : String)

def jobBody (prompt : String) (e : Evaluation) : Json :=
  .object ([("prompt",.string prompt),("topic",.string e.topic)] ++
    (if e.capability ≠ "" then [("capability",.string e.capability)] else []) ++
    (if e.riskTags ≠ [] then [("risk_tags",.array (e.riskTags.map .string))] else []) ++
    (if e.labels ≠ [] then [("labels",labelsJson e.labels)] else []))

structure Decorator where
  policy : String
  riskTags : List String
  capability : String
  topic : String
  includeArgs : Bool

structure Function where
  name : String
  qualname : String
  signature : Signature

def Decorator.cap (decorator : Decorator) (fn : Function) : String :=
  if decorator.capability ≠ "" then decorator.capability else fn.name

def Decorator.labels (decorator : Decorator) (fn : Function) : List (String × String) :=
  if decorator.policy ≠ "" then [("policy",decorator.policy),("function",fn.qualname)] else [("function",fn.qualname)]

/-- What a call meets from its start: the clock and the cache before and after the evaluation, the
    answer to it, and what comes after the verdict. -/
structure Environment where
  now : ℚ
  later : ℚ
  answer : Http
  before : Cache CacheKey SafetyDecision
  after : Cache CacheKey SafetyDecision
  around : Surroundings

section

variable (py : Builtins)

def pollsSent (jobId : String) (deadline : ℚ) : List (Http × ℚ) → List Sent
  | [] => []
  | poll :: rest =>
    .poll jobId :: match waitForApproval py jobId deadline [poll] with
      | some _ => []
      | none => pollsSent jobId deadline rest

/-- What `_await_approval` sends; the job is cancelled however the wait ends. -/
def approvalSent (around : Surroundings) : List Sent :=
  match submitJob around.submission with
  | .error _ => []
  | .ok jobId => pollsSent py jobId around.deadline around.polls ++
      if (waitForApproval py jobId around.deadline around.polls).isSome then [.cancel jobId] else []

variable {V : Type} {shape : Shape} (values : Values V) (decorator : Decorator) (fn : Function)

def callLabels (call : shape.Source → V) : Except Failure (List (String × String)) :=
  if decorator.includeArgs then do
    let labels ← argLabels py values [] (namedArgs fn.signature call)
    return update (decorator.labels fn) labels
  else .ok (decorator.labels fn)

def approvalPrompt (call : shape.Source → V) : Except Failure String := do
  let summary ← if decorator.includeArgs then summarizeArgs py values (namedArgs fn.signature call) else pure "..."
  return "Approval required: " ++ decorator.cap fn ++ "(" ++ summary ++ ")"

def Decorator.evaluation (labels : List (String × String)) : Evaluation :=
  ⟨decorator.topic,decorator.cap fn,decorator.riskTags,labels,"",true⟩

variable (client : Client)

/-- `sync_wrapper` and `async_wrapper`: what comes of the call and what was sent for it. -/
def wrapper (call : shape.Source → V) (function : Except Failure Unit) (env : Environment) : Outcome × List Sent :=
  match callLabels py values decorator fn call with
  | .error failure => (⟨some (.error failure),0⟩,[])
  | .ok labels =>
    let e := decorator.evaluation fn labels
    let asked := if (lookup client env.now e env.before).1.isSome then [] else [Sent.evaluation (requestBody e)]
    match evaluate py client env.now env.later e env.answer env.before env.after with
    | .error failure => (⟨some (.error failure),0⟩,asked)
    | .ok decision =>
      match checkDecision decision with
      | .error (.approvalRequired _) =>
        match approvalPrompt py values decorator fn call with
        | .error failure => (⟨some (.error failure),0⟩,asked)
        | .ok prompt =>
          (handleDecision py function decision env.around,asked ++ .submission (jobBody prompt e) :: approvalSent py env.around)
      | _ => (handleDecision py function decision env.around,asked)

structure ToolGuard where
  policy : String
  riskTags : List String
  topic : String
  includeArgs : Bool
  name : String
  description : String
  signature : Signature

def toolLabels (tool : ToolGuard) (call : shape.Source → V) : Except Failure (List (String × String)) :=
  let labels := [("policy",tool.policy),("tool",tool.name),("description",cut 200 tool.description)]
  if tool.includeArgs then do return update labels (← argLabels py values [] (namedArgs tool.signature call))
  else .ok labels

/-- `_gate_tool_call`: the message that blocks the tool, if any, and the time to wait first. -/
def gateToolCall (tool : ToolGuard) (call : shape.Source → V) (env : Environment) :
    Except Failure (Option String × Number) × List Sent :=
  match toolLabels py values tool call with
  | .error failure => (.error failure,[])
  | .ok labels =>
    let e : Evaluation := ⟨tool.topic,tool.name,tool.riskTags,labels,"",true⟩
    let asked := if (lookup client env.now e env.before).1.isSome then [] else [Sent.evaluation (requestBody e)]
    match evaluate py client env.now env.later e env.answer env.before env.after with
    | .error failure => (.error failure,asked)
    | .ok decision =>
      match checkDecision decision with
      | .ok delay => (.ok (none,delay),asked)
      | .error (.blocked _) => (.ok (some ("[BLOCKED] " ++ tool.name ++ ": " ++ decision.reason),.finite 0),asked)
      | .error failure => (.error failure,asked)

end

section

variable {V : Type} {shape : Shape}

/-- The names that arguments are bound to, by position, by keyword or inside the parameter with two stars. -/
def Bound.named {S : Type} : Bound S → List (String × S)
  | .single name source => [(name,source)]
  | .positional _ _ => []
  | .keywords _ members => members

def Signature.bindings (signature : Signature) (shape : Shape) : List (String × shape.Source) :=
  match signature.bind shape with
  | none => shape.keywords
  | some bound => bound.flatMap Bound.named

/-- Calls of one shape, with the same value under every name that is not that of a secret. -/
def SameButSecrets (py : Builtins) (signature : Signature) (a b : shape.Source → V) : Prop :=
  ∀ binding ∈ signature.bindings shape, isSecretName py binding.1 = false → a binding.2 = b binding.2

def Alike (py : Builtins) (a b : String × V) : Prop := a.1 = b.1 ∧ (isSecretName py a.1 = false → a.2 = b.2)

variable {py : Builtins} {values : Values V}

variable {named named' : List (String × V)} {a b : shape.Source → V} {signature : Signature}

theorem assign_alike {entry entry' : String × V}
    (dicts : List.Forall₂ (Alike py) named named') (entries : Alike py entry entry') :
    List.Forall₂ (Alike py) (assign named entry) (assign named' entry') := by
  have present : named.any (·.1 = entry.1) = named'.any (·.1 = entry'.1) := by
    rw [← entries.1]
    induction dicts with
    | nil => rfl
    | cons head _ ih => rw [List.any_cons,List.any_cons,ih,head.1]
  unfold assign
  rw [present]
  split
  · rw [List.forall₂_map_left_iff,List.forall₂_map_right_iff]
    refine dicts.imp fun old old' alike => ?_
    rw [← alike.1,← entries.1]
    split
    · exact entries
    · exact alike
  · exact List.rel_append dicts (.cons entries .nil)

theorem update_alike {members members' : List (String × V)} (dicts : List.Forall₂ (Alike py) named named')
    (entries : List.Forall₂ (Alike py) members members') :
    List.Forall₂ (Alike py) (update named members) (update named' members') := by
  induction entries generalizing named named' with
  | nil => exact dicts
  | cons head _ ih => exact ih (assign_alike dicts head)

theorem valued_alike (same : SameButSecrets py signature a b)
    {members : List (String × shape.Source)} (among : members ⊆ signature.bindings shape) :
    List.Forall₂ (Alike py) (valued a members) (valued b members) := by
  unfold valued
  rw [List.forall₂_map_left_iff,List.forall₂_map_right_iff,List.forall₂_same]
  exact fun member found => ⟨rfl,fun plain => same member (among found) plain⟩

theorem addParameter_alike (same : SameButSecrets py signature a b) (dicts : List.Forall₂ (Alike py) named named')
    {parameter : Bound shape.Source}
    (among : parameter.named ⊆ signature.bindings shape) :
    List.Forall₂ (Alike py) (addParameter a named parameter) (addParameter b named' parameter) := by
  cases parameter with
  | single name source => exact assign_alike dicts ⟨rfl,fun plain => same (name,source) (among (by simp [Bound.named])) plain⟩
  | positional name sources => exact dicts
  | keywords name members => exact update_alike dicts (valued_alike same among)

theorem namedArgs_alike (same : SameButSecrets py signature a b) :
    List.Forall₂ (Alike py) (namedArgs signature a) (namedArgs signature b) := by
  unfold namedArgs
  cases bound : signature.bind shape with
  | none => exact valued_alike same (by simp [Signature.bindings,bound])
  | some parameters =>
    have among : ∀ parameter ∈ parameters, parameter.named ⊆ signature.bindings shape := by
      intro parameter member binding found
      simp only [Signature.bindings,bound]
      exact List.mem_flatMap.mpr ⟨parameter,member,found⟩
    -- the loop over the parameters, from any two dictionaries that are alike
    suffices loop : ∀ named named' : List (String × V), List.Forall₂ (Alike py) named named' →
        List.Forall₂ (Alike py) (parameters.foldl (addParameter a) named) (parameters.foldl (addParameter b) named') from
      loop [] [] .nil
    clear bound
    induction parameters with
    | nil => exact fun _ _ dicts => dicts
    | cons parameter rest ih =>
      intro named named' dicts
      exact ih (fun parameter member => among parameter (List.mem_cons_of_mem _ member)) _ _
        (addParameter_alike same dicts (among parameter List.mem_cons_self))

theorem argLabels_alike (alike : List.Forall₂ (Alike py) named named')
    (labels : List (String × String)) : argLabels py values labels named = argLabels py values labels named' := by
  induction alike generalizing labels with
  | nil => rfl
  | @cons entry entry' rest rest' head _ ih =>
    obtain ⟨name,value⟩ := entry
    obtain ⟨name',value'⟩ := entry'
    obtain ⟨rfl,same⟩ : name = name' ∧ (isSecretName py name = false → value = value') := head
    unfold argLabels
    by_cases secret : isSecretName py name = true
    · simp [secret,ih]
    · obtain rfl := same (Bool.not_eq_true _ ▸ secret)
      simp [ih]

theorem summarizePart_alike {entry entry' : String × V} (alike : Alike py entry entry') :
    summarizePart py values entry = summarizePart py values entry' := by
  obtain ⟨name,value⟩ := entry
  obtain ⟨name',value'⟩ := entry'
  obtain ⟨rfl,same⟩ : name = name' ∧ (isSecretName py name = false → value = value') := alike
  unfold summarizePart
  by_cases secret : isSecretName py name = true
  · simp [secret]
  · obtain rfl := same (Bool.not_eq_true _ ▸ secret)
    rfl

theorem summarizeArgs_alike (alike : List.Forall₂ (Alike py) named named') :
    summarizeArgs py values named = summarizeArgs py values named' := by
  have parts : named.mapM (summarizePart py values) = named'.mapM (summarizePart py values) := by
    induction alike with
    | nil => rfl
    | cons head _ ih => rw [List.mapM_cons,List.mapM_cons,summarizePart_alike head,ih]
  rw [summarizeArgs,summarizeArgs,parts]

variable {decorator : Decorator} {fn : Function} {a b : shape.Source → V}

theorem callLabels_same (same : SameButSecrets py fn.signature a b) :
    callLabels py values decorator fn a = callLabels py values decorator fn b := by
  rw [callLabels,callLabels,argLabels_alike (namedArgs_alike same)]

theorem approvalPrompt_same (same : SameButSecrets py fn.signature a b) :
    approvalPrompt py values decorator fn a = approvalPrompt py values decorator fn b := by
  rw [approvalPrompt,approvalPrompt,summarizeArgs_alike (namedArgs_alike same)]

end

/-- Two calls that differ in secrets only send the same requests, whatever the function makes of them. -/
theorem secrets_never_sent {V : Type} (py : Builtins) (client : Client) (values : Values V) (decorator : Decorator)
    (fn : Function) {shape : Shape} {a b : shape.Source → V} (same : SameButSecrets py fn.signature a b)
    (first second : Except Failure Unit) (env : Environment) :
    (wrapper py values decorator fn client a first env).2 = (wrapper py values decorator fn client b second env).2 := by
  unfold wrapper
  rw [callLabels_same same,approvalPrompt_same same]
  cases callLabels py values decorator fn b with
  | error failure => rfl
  | ok labels =>
    dsimp only
    cases evaluate py client env.now env.later (decorator.evaluation fn labels) env.answer env.before env.after with
    | error failure => rfl
    | ok decision =>
      dsimp only
      cases checkDecision decision with
      | ok delay => rfl
      | error failure =>
        cases failure <;> try rfl
        cases approvalPrompt py values decorator fn b <;> rfl

/-- A guarded tool does not even answer differently. -/
theorem tool_secrets_never_sent {V : Type} (py : Builtins) (client : Client) (values : Values V) (tool : ToolGuard)
    {shape : Shape} {a b : shape.Source → V} (same : SameButSecrets py tool.signature a b) (env : Environment) :
    gateToolCall py values client tool a env = gateToolCall py values client tool b env := by
  have labels : toolLabels py values tool a = toolLabels py values tool b := by
    rw [toolLabels,toolLabels,argLabels_alike (namedArgs_alike same)]
  rw [gateToolCall,gateToolCall,labels]

/-- A guarded tool runs only under a verdict in force that permits it: unlike a decorated function
    it never waits for an approval. -/
theorem tool_runs_permitted {V : Type} {py : Builtins} {client : Client} {values : Values V} {tool : ToolGuard}
    {shape : Shape} {call : shape.Source → V} {env : Environment} {ops : List Op} {s : Shared} {delay : Number} (closed : client.onError = .closed)
    (reached : run (step py client) unused ops = some s) (before : env.before = s.cache)
    (passed : (gateToolCall py values client tool call env).1 = .ok (none,delay)) :
    ∃ labels decision, toolLabels py values tool call = .ok labels ∧ Permits decision ∧
      InForce py client s env.now ⟨tool.topic,tool.name,tool.riskTags,labels,"",true⟩ env.answer decision := by
  have holds : Holds (Stored py client s.answers) s.cache :=
    invariant (fun s a t holds next => step_stored holds next) (by simp [unused]) reached
  unfold gateToolCall at passed
  rw [before] at passed
  split at passed
  · cases passed
  · rename_i labels labelled
    dsimp only at passed
    split at passed
    · cases passed
    · rename_i decision decided
      split at passed
      · rename_i allowed
        exact ⟨labels,decision,labelled,checkDecision_ok allowed,evaluate_inForce closed holds decided⟩
      all_goals simp at passed

/-- The function is executed as by a guarded call with the labels that were sent, or not at all. -/
theorem wrapper_executions {V : Type} {py : Builtins} {client : Client} {values : Values V} {decorator : Decorator}
    {fn : Function} {shape : Shape} {call : shape.Source → V} {function : Except Failure Unit} {env : Environment}
    (executed : (wrapper py values decorator fn client call function env).1.executions ≠ 0) :
    ∃ labels, callLabels py values decorator fn call = .ok labels ∧
      (wrapper py values decorator fn client call function env).1 =
        guardedCall py client function env.now env.later (decorator.evaluation fn labels) env.answer env.before env.after
          env.around := by
  unfold wrapper guardedCall at *
  cases labelled : callLabels py values decorator fn call with
  | error failure => simp [labelled] at executed
  | ok labels =>
    refine ⟨labels,rfl,?_⟩
    simp only [labelled] at executed ⊢
    cases decided : evaluate py client env.now env.later (decorator.evaluation fn labels) env.answer env.before env.after with
    | error failure => rfl
    | ok decision =>
      simp only [decided] at executed ⊢
      cases gated : checkDecision decision with
      | ok delay => rfl
      | error failure =>
        cases failure <;> try rfl
        simp only [gated] at executed ⊢
        cases prompted : approvalPrompt py values decorator fn call with
        | error failure => simp [prompted] at executed
        | ok prompt => rfl

inductive Passing where
  | positionalOnly | positionalOrKeyword | varPositional | keywordOnly | varKeyword
deriving DecidableEq

structure Parameter where
  name : String
  passing : Passing

/-- The parameters in their order, with the arguments that are left. -/
def fill {S : Type} : List Parameter → List S → List (String × S) → Option (List (Bound S))
  | [],positional,keywords => if positional.isEmpty && keywords.isEmpty then some [] else none
  | ⟨name,passing⟩ :: rest,positional,keywords =>
    let byKeyword := match keywords.lookup name with
      | some source => (.single name source :: ·) <$> fill rest [] (keywords.filter (·.1 ≠ name))
      | none => fill rest [] keywords
    match passing,positional with
    | .positionalOnly,source :: positional => (.single name source :: ·) <$> fill rest positional keywords
    | .positionalOnly,[] => fill rest [] keywords
    | .positionalOrKeyword,source :: positional =>
      if keywords.any (·.1 = name) then none else (.single name source :: ·) <$> fill rest positional keywords
    | .positionalOrKeyword,[] => byKeyword
    | .varPositional,[] => fill rest [] keywords
    | .varPositional,positional => (.positional name positional :: ·) <$> fill rest [] keywords
    | .keywordOnly,[] => byKeyword
    | .varKeyword,[] => if keywords.isEmpty then fill rest [] [] else (.keywords name keywords :: ·) <$> fill rest [] []
    | _,_ :: _ => none

def Signature.of (parameters : List Parameter) : Signature where
  bind shape := fill parameters ((List.finRange shape.count).map .inl) shape.keywords

namespace Samples

def texts : Values String := ⟨.text,fun _ => .ok false,.ok,fun value => .ok (py.repr value)⟩

/-- `def transfer(amount, accessToken, **options)`. -/
def transfer : Function :=
  ⟨"transfer","transfer",.of [⟨"amount",.positionalOrKeyword⟩,⟨"accessToken",.positionalOrKeyword⟩,⟨"options",.varKeyword⟩]⟩

/-- `transfer("10", token, memo="rent", api_key=key)`. -/
def transferCall (token key : String) : Shape.Source ⟨2,["memo","api_key"]⟩ → String
  | .inl i => ["10",token].get i
  | .inr i => ["rent",key].get i

def environment : Environment := ⟨0,1,verdict "DECISION_TYPE_REQUIRE_HUMAN",[],[],around⟩

/-- One token or another, by position, and one key or another, among the options. -/
theorem transfer_secrets : transferCall "s-1" "k-1" ≠ transferCall "s-2" "k-2" ∧
    (wrapper py texts ⟨"",[],"","job.guard",true⟩ transfer client (transferCall "s-1" "k-1") (.ok ()) environment).2 =
      (wrapper py texts ⟨"",[],"","job.guard",true⟩ transfer client (transferCall "s-2" "k-2") (.ok ()) environment).2 := by
  constructor
  · intro same
    have := congrFun same (.inl 1)
    revert this
    decide
  · refine secrets_never_sent py client texts _ transfer ?_ (.ok ()) (.ok ()) environment
    unfold SameButSecrets
    decide +kernel

def tool : ToolGuard := ⟨"",[],"job.guard",true,"transfer","",transfer.signature⟩

theorem throttled_tool_permitted : ∃ labels decision,
    toolLabels py texts tool (transferCall "s" "k") = .ok labels ∧ Permits decision ∧
      InForce py client unused 0 ⟨"job.guard","transfer",[],labels,"",true⟩ (verdict "THROTTLE") decision := by
  have passed : (gateToolCall py texts client tool (transferCall "s" "k")
      ⟨0,1,verdict "THROTTLE",unused.cache,[],around⟩).1 = .ok (none,.finite 0) := by rfl
  exact tool_runs_permitted rfl (show run (step py client) unused [] = some unused from rfl) rfl passed

theorem tool_secrets : transferCall "s-1" "k-1" ≠ transferCall "s-2" "k-2" ∧
    gateToolCall py texts client tool (transferCall "s-1" "k-1") environment =
      gateToolCall py texts client tool (transferCall "s-2" "k-2") environment := by
  constructor
  · intro same
    have := congrFun same (.inl 1)
    revert this
    decide
  · refine tool_secrets_never_sent py client texts tool ?_ environment
    unfold SameButSecrets
    decide +kernel

end Samples

end Cap.Guard
