import Mathlib.Tactic.Ring
import Cap.Checks
import Cap.LexOrder

/-!
The conformance kit: a runner that sends the scenarios of a profile to an adapter process and
grades what comes back. The process writes what it likes, and which of the channels, the timer and
the context a `select` finds ready first is up to it.
-/
namespace Cap.Tck
open Cap.Text Cap.Checks Cap.LexOrder

abbrev Role := String
abbrev Status := String

def roleWorker : Role := "worker"
def roleControlPlane : Role := "control-plane"

def validRole (r : Role) : Bool := r = roleWorker || r = roleControlPlane

def statusPass : Status := "PASS"
def statusFail : Status := "FAIL"
def statusError : Status := "ERROR"
def statusUnsupported : Status := "UNSUPPORTED"
def statusNA : Status := "N/A"

def validStatus (s : Status) : Bool :=
  s = statusPass || s = statusFail || s = statusError || s = statusUnsupported || s = statusNA

def isRequiredNonPass (s : Status) : Bool := s ≠ statusPass

def protocolVersion : Int := 1
def maxLineBytes : Nat := 2 ^ 20

structure Command where
  type : String
  id : String
  scenario : String
  params : List (String × String)
deriving DecidableEq

structure AdapterMessage where
  type : String
  id : String
  protocolVersion : Int
  role : Role
  sdk : String
  transport : String
  status : Status
  detail : String
  evidence : List (String × String)
deriving DecidableEq

inductive Failure where
  | timeout
  | eof
  | unexpectedEOF
  | lineTooLong
  | malformed (cause : String)
  | trailing
  /-- Reading the process's output or writing to it fails. -/
  | pipe (cause : String)
  | context (cause : String)
  | expectedHandshake (type : String)
  | wrongVersion (version : Int)
  | invalidRole (role : Role)
  | expectedResult (type : String)
  | mismatch (id expected : String)
  | invalidStatus (status : Status)
deriving DecidableEq

structure Scenario where
  id : String
  role : Role
  profile : String
  required : Bool
  params : List (String × String)
deriving DecidableEq

structure Suite where
  version : Int
  scenarios : List Scenario
deriving DecidableEq

/-- What the runner takes from the language's own packages. -/
structure Library where
  /-- `json.Decoder` on a line, unknown fields refused: the first value and what is left. -/
  message : Bytes → Except String (AdapterMessage × Bytes)
  suite : Bytes → Except String Suite
  /-- The length of `json.Marshal`. -/
  size : Command → Nat
  /-- `%q`. -/
  quote : String → String

section

variable (lib : Library)

def Failure.text : Failure → String
  | .timeout => "tck: adapter timed out"
  | .eof => "EOF"
  | .unexpectedEOF => "unexpected EOF"
  | .lineTooLong => "tck: adapter message exceeds max line length"
  | .malformed cause => "tck: malformed adapter message: " ++ cause
  | .trailing => "tck: unexpected trailing data after adapter message"
  | .pipe cause => cause
  | .context cause => cause
  | .expectedHandshake type => "tck: expected handshake, got " ++ lib.quote type
  | .wrongVersion version => "tck: adapter protocol version " ++ toString version ++ ", want 1"
  | .invalidRole role => "tck: adapter declared invalid role " ++ lib.quote role ++ ", want " ++ lib.quote roleWorker ++
      " or " ++ lib.quote roleControlPlane
  | .expectedResult type => "tck: expected result, got " ++ lib.quote type
  | .mismatch id expected => "tck: result id " ++ lib.quote id ++ " does not match command id " ++ lib.quote expected
  | .invalidStatus status => "tck: invalid status " ++ lib.quote status

def isSpace (b : UInt8) : Bool := b = 0x20 || b = 0x09 || b = 0x0d || b = 0x0a

def trimSpace (line : Bytes) : Bytes := (line.dropWhile isSpace).rdropWhile isSpace

/-- One object on a line and nothing after it. -/
def decodeLine (line : Bytes) : Except Failure AdapterMessage :=
  match lib.message line with
  | .error cause => .error (.malformed cause)
  | .ok (message,rest) => do
    require (trimSpace rest).isEmpty .trailing
    pure message

/-- The next message of the lines that are left; the output ends with an error or without one. -/
def decode (ending : Option String) : List Bytes → Except Failure (AdapterMessage × List Bytes)
  | [] => .error (ending.elim .eof .pipe)
  | line :: lines =>
    if maxLineBytes ≤ line.length then .error .lineTooLong
    else if (trimSpace line).isEmpty then decode ending lines
    else match decodeLine lib line with
      | .error failure => .error failure
      | .ok message => .ok (message,lines)

structure Adapter where
  name : String
  handshake : AdapterMessage
  /-- The lines of its output that nobody has read. -/
  output : List Bytes
  /-- What reading fails with after the last line, if it does not just end. -/
  ending : Option String
  /-- `kill` has closed the pipe for commands. -/
  killed : Bool
deriving DecidableEq

inductive Event where
  /-- A message or the end of the reader. -/
  | ready
  | timer
  | done (cause : String)
deriving DecidableEq

structure Turn where
  /-- Writing the command fails. -/
  refused : Option String
  event : Event
  /-- Milliseconds between the two readings of the clock. -/
  elapsed : Int
deriving DecidableEq

def Adapter.read (event : Event) (a : Adapter) : Except Failure AdapterMessage × Adapter :=
  match event with
  | .ready =>
    match decode lib a.ending a.output with
    | .ok (message,lines) => (.ok message,{ a with output := lines })
    | .error .eof => (.error .unexpectedEOF,a)
    | .error failure => (.error failure,a)
  | .timer => (.error .timeout,{ a with killed := true })
  | .done cause => (.error (.context cause),{ a with killed := true })

def Adapter.encode (a : Adapter) (cmd : Command) (refused : Option String) : Except Failure Unit := do
  require (lib.size cmd + 1 ≤ maxLineBytes) .lineTooLong
  require (!a.killed) (.pipe "write |1: file already closed")
  match refused with
  | none => pure ()
  | some cause => .error (.pipe cause)

def start (process : Adapter) (turn : Turn) : Except Failure Adapter := do
  process.encode lib ⟨"hello","","",[]⟩ turn.refused
  let (answer,a) := process.read lib turn.event
  let hs ← answer
  require (hs.type = "handshake") (.expectedHandshake hs.type)
  require (hs.protocolVersion = protocolVersion) (.wrongVersion hs.protocolVersion)
  require (validRole hs.role) (.invalidRole hs.role)
  pure { a with handshake := hs }

def checkResult (cmd : Command) (msg : AdapterMessage) : Except Failure AdapterMessage := do
  require (msg.type = "result") (.expectedResult msg.type)
  require (msg.id = cmd.id) (.mismatch msg.id cmd.id)
  require (validStatus msg.status) (.invalidStatus msg.status)
  pure msg

/-- A command that was sent, and what was consumed in answer to it. -/
abbrev Exchange := Command × Except Failure AdapterMessage

/-- `Adapter.Run`, with the exchange if there was one. -/
def Adapter.run (cmd : Command) (turn : Turn) (a : Adapter) : Except Failure AdapterMessage × List Exchange × Adapter :=
  match a.encode lib cmd turn.refused with
  | .error failure => (.error failure,[],a)
  | .ok _ =>
    let (answer,a) := a.read lib turn.event
    (answer.bind (checkResult cmd),[(cmd,answer)],a)

def idLe (a b : String) : Bool := lexLe ((utf8 a).map UInt8.toNat) ((utf8 b).map UInt8.toNat)

def Suite.validateScenarios (seen : List String) : List Scenario → Except String Unit
  | [] => pure ()
  | sc :: rest => do
    require (sc.id ≠ "") "tck: scenario id must not be empty"
    require (!seen.contains sc.id) ("tck: duplicate scenario id " ++ lib.quote sc.id)
    require (validRole sc.role) ("tck: scenario " ++ lib.quote sc.id ++ " has unknown role " ++ lib.quote sc.role)
    require (sc.profile ≠ "") ("tck: scenario " ++ lib.quote sc.id ++ " has empty profile")
    Suite.validateScenarios (sc.id :: seen) rest

def Suite.validate (s : Suite) : Except String Unit := do
  require (1 ≤ s.version) ("tck: suite version must be >= 1, got " ++ toString s.version)
  Suite.validateScenarios lib [] s.scenarios

def loadSuite (data : Bytes) : Except String Suite :=
  match lib.suite data with
  | .error cause => .error ("tck: parse suite: " ++ cause)
  | .ok s => do
    s.validate lib
    pure { s with scenarios := s.scenarios.insertionSort (idLe ·.id ·.id) }

def Suite.select (s : Suite) (profile : String) : List Scenario := s.scenarios.filter (·.profile = profile)

structure CaseResult where
  id : String
  profile : String
  role : Role
  required : Bool
  applicable : Bool
  status : Status
  detail : String
  durationMs : Int
  evidence : List (String × String)
deriving DecidableEq

def Scenario.command (sc : Scenario) : Command := ⟨"run",sc.id,sc.id,sc.params⟩

def runCase (role : Role) (sc : Scenario) (turn : Turn) (a : Adapter) : CaseResult × List Exchange × Adapter :=
  if sc.role ≠ role then
    (⟨sc.id,sc.profile,sc.role,sc.required,false,statusNA,
      "adapter role " ++ lib.quote role ++ " does not own scenario role " ++ lib.quote sc.role,0,[]⟩,[],a)
  else
    let (answer,exchanges,a) := a.run lib sc.command turn
    match answer with
    | .error failure =>
      (⟨sc.id,sc.profile,sc.role,sc.required,true,statusError,failure.text lib,turn.elapsed,[]⟩,exchanges,a)
    | .ok msg =>
      (⟨sc.id,sc.profile,sc.role,sc.required,true,msg.status,msg.detail,turn.elapsed,msg.evidence⟩,exchanges,a)

/-- The scenarios one after another, each with its own turn. -/
def runCases (role : Role) : List Scenario → (Nat → Turn) → Adapter → List CaseResult × List Exchange × Adapter
  | [],_,a => ([],[],a)
  | sc :: rest,turns,a =>
    let (result,exchanges,a) := runCase lib role sc (turns 0) a
    let (results,more,a) := runCases role rest (fun n => turns (n + 1)) a
    (result :: results,exchanges ++ more,a)

structure Summary where
  total : Nat
  pass : Nat
  fail : Nat
  error : Nat
  unsupported : Nat
  na : Nat
  conformant : Bool
deriving DecidableEq

structure Report where
  adapter : String
  sdk : String
  role : Role
  profile : String
  transport : String
  toolVersion : String
  summary : Summary
  cases : List CaseResult
deriving DecidableEq

def countCase (s : Summary) (c : CaseResult) : Summary :=
  if c.status = statusPass then { s with pass := s.pass + 1 }
  else if c.status = statusFail then { s with fail := s.fail + 1 }
  else if c.status = statusError then { s with error := s.error + 1 }
  else if c.status = statusUnsupported then { s with unsupported := s.unsupported + 1 }
  else if c.status = statusNA then { s with na := s.na + 1 }
  else s

def grade (s : Summary) (c : CaseResult) : Summary :=
  let s := countCase s c
  if c.applicable && c.required && isRequiredNonPass c.status then { s with conformant := false } else s

def newReport (adapter : String) (hs : AdapterMessage) (profile toolVersion : String) (cases : List CaseResult) : Report :=
  let cases := cases.insertionSort (idLe ·.id ·.id)
  let summary := cases.foldl grade ⟨cases.length,0,0,0,0,0,true⟩
  ⟨adapter,hs.sdk,hs.role,profile,hs.transport,toolVersion,summary,cases⟩

/-- `Runner.Run`, with what was sent and consumed. -/
def run (toolVersion : String) (a : Adapter) (suite : Suite) (profile : String) (turns : Nat → Turn) :
    Report × List Exchange :=
  let (cases,exchanges,_) := runCases lib a.handshake.role (suite.select profile) turns a
  (newReport a.name a.handshake profile toolVersion cases,exchanges)

end

/-- How many cases the counters have counted. -/
def Summary.counted (s : Summary) : Nat := s.pass + s.fail + s.error + s.unsupported + s.na

/-- Whether a case forbids the verdict. -/
def CaseResult.blocks (c : CaseResult) : Bool := c.applicable && c.required && isRequiredNonPass c.status

theorem countCase_counted {c : CaseResult} (valid : validStatus c.status = true) (s : Summary) :
    (countCase s c).counted = s.counted + 1 := by
  simp only [validStatus,Bool.or_eq_true,decide_eq_true_eq] at valid
  rcases valid with (((pass | fail) | error) | unsupported) | na
  · simp [countCase,pass,Summary.counted]
    omega
  · simp [countCase,fail,Summary.counted,statusFail,statusPass]
    omega
  · simp [countCase,error,Summary.counted,statusFail,statusPass,statusError]
    omega
  · simp [countCase,unsupported,Summary.counted,statusFail,statusPass,statusError,statusUnsupported]
    omega
  · simp [countCase,na,Summary.counted,statusFail,statusPass,statusError,statusUnsupported,statusNA]
    omega

theorem countCase_total (s : Summary) (c : CaseResult) : (countCase s c).total = s.total := by
  unfold countCase
  split_ifs <;> rfl

theorem countCase_conformant (s : Summary) (c : CaseResult) : (countCase s c).conformant = s.conformant := by
  unfold countCase
  split_ifs <;> rfl

theorem grade_eq (s : Summary) (c : CaseResult) :
    grade s c = { countCase s c with conformant := s.conformant && !c.blocks } := by
  unfold grade
  cases blocks : c.blocks with
  | false =>
    rw [CaseResult.blocks] at blocks
    simp [blocks,← countCase_conformant s c]
  | true =>
    rw [CaseResult.blocks] at blocks
    simp [blocks]

theorem foldl_grade {cases : List CaseResult} (valid : ∀ c ∈ cases,validStatus c.status = true) (s : Summary) :
    (cases.foldl grade s).total = s.total ∧ (cases.foldl grade s).counted = s.counted + cases.length ∧
      (cases.foldl grade s).conformant = (s.conformant && cases.all fun c => !c.blocks) := by
  induction cases generalizing s with
  | nil => simp
  | cons c cases ih =>
    obtain ⟨total,counted,conformant⟩ := ih (fun d member => valid d (by simp [member])) (grade s c)
    have one := countCase_counted (valid c (by simp)) s
    rw [List.foldl_cons]
    refine ⟨?_,?_,?_⟩
    · rw [total,grade_eq]
      exact countCase_total s c
    · rw [counted,grade_eq]
      have same : Summary.counted { countCase s c with conformant := s.conformant && !c.blocks } = (countCase s c).counted := rfl
      rw [List.length_cons]
      omega
    · rw [conformant,grade_eq,List.all_cons,Bool.and_assoc]

section

variable {lib : Library}

variable {msg : AdapterMessage} {a : Adapter} {cmd : Command} {sc : Scenario} {scenarios : List Scenario}
  {cases : List CaseResult}

theorem decode_eq_ok {ending : Option String} {lines rest : List Bytes}
    (decoded : decode lib ending lines = .ok (msg,rest)) :
    (∃ line ∈ lines,decodeLine lib line = .ok msg) ∧ rest <:+ lines := by
  induction lines with
  | nil => cases decoded
  | cons line lines ih =>
    rw [decode] at decoded
    split at decoded
    case isTrue => cases decoded
    case isFalse =>
      split at decoded
      case isTrue =>
        obtain ⟨⟨found,member,parsed⟩,suffix⟩ := ih decoded
        exact ⟨⟨found,List.mem_cons_of_mem _ member,parsed⟩,suffix.trans (List.suffix_cons ..)⟩
      case isFalse =>
        split at decoded
        case h_1 => cases decoded
        case h_2 parsed =>
          obtain ⟨rfl,rfl⟩ := Prod.mk.inj (Except.ok.inj decoded)
          exact ⟨⟨line,by simp,parsed⟩,List.suffix_cons ..⟩

theorem read_output (event : Event) (a : Adapter) : (a.read lib event).2.output <:+ a.output := by
  unfold Adapter.read
  cases event with
  | ready =>
    dsimp only
    split
    case h_1 decoded => exact (decode_eq_ok decoded).2
    all_goals exact List.suffix_rfl
  | timer | done cause => exact List.suffix_rfl

theorem read_eq_ok {event : Event} (answered : (a.read lib event).1 = .ok msg) :
    ∃ line ∈ a.output,decodeLine lib line = .ok msg := by
  unfold Adapter.read at answered
  cases event with
  | ready =>
    dsimp only at answered
    split at answered
    case h_1 decoded =>
      obtain rfl := Except.ok.inj answered
      exact (decode_eq_ok decoded).1
    all_goals cases answered
  | timer | done cause => cases answered

theorem checkResult_eq_ok {accepted : AdapterMessage} : checkResult cmd msg = .ok accepted ↔
    msg.type = "result" ∧ msg.id = cmd.id ∧ validStatus msg.status = true ∧ msg = accepted := by
  simp [checkResult]

/-- What a case may say about its scenario, and about what was consumed for it. -/
structure Graded (lib : Library) (role : Role) (sc : Scenario) (a : Adapter) (c : CaseResult) (exchanges : List Exchange)
    (after : Adapter) : Prop where
  scenario : c.id = sc.id ∧ c.profile = sc.profile ∧ c.role = sc.role ∧ c.required = sc.required
  applicable : c.applicable = decide (sc.role = role)
  valid : validStatus c.status = true
  /-- A pass of the adapter's own comes from a message. -/
  passed : sc.role = role → c.status = statusPass → ∃ msg,(sc.command,.ok msg) ∈ exchanges ∧ msg.type = "result" ∧
    msg.id = sc.id ∧ msg.status = statusPass
  consumed : ∀ cmd msg,(cmd,.ok msg) ∈ exchanges → ∃ line ∈ a.output,decodeLine lib line = .ok msg
  output : after.output <:+ a.output

theorem run_exchanges {turn : Turn} {cmd' : Command}
    (member : (cmd',.ok msg) ∈ (a.run lib cmd turn).2.1) : ∃ line ∈ a.output,decodeLine lib line = .ok msg := by
  unfold Adapter.run at member
  split at member
  case h_1 => cases member
  case h_2 =>
    obtain ⟨_,answered⟩ := Prod.mk.inj (List.mem_singleton.mp member)
    exact read_eq_ok answered.symm

theorem run_output (cmd : Command) (turn : Turn) (a : Adapter) : (a.run lib cmd turn).2.2.output <:+ a.output := by
  unfold Adapter.run
  split
  · exact List.suffix_rfl
  · exact read_output ..

theorem run_eq_ok {turn : Turn}
    (answered : (a.run lib cmd turn).1 = .ok msg) : (cmd,.ok msg) ∈ (a.run lib cmd turn).2.1 ∧ msg.type = "result" ∧
      msg.id = cmd.id ∧ validStatus msg.status = true := by
  unfold Adapter.run at answered ⊢
  split at answered
  case h_1 => cases answered
  case h_2 sent =>
    cases taken : (a.read lib turn.event).1 with
    | error failure =>
      simp only [taken] at answered
      cases answered
    | ok found =>
      simp only [taken] at answered
      obtain ⟨type,id,valid,rfl⟩ := checkResult_eq_ok.mp answered
      exact ⟨by simp [taken],type,id,valid⟩

theorem runCase_graded (role : Role) (sc : Scenario) (turn : Turn) (a : Adapter) :
    Graded lib role sc a (runCase lib role sc turn a).1 (runCase lib role sc turn a).2.1 (runCase lib role sc turn a).2.2 := by
  unfold runCase
  by_cases own : sc.role = role
  · subst own
    simp only [ne_eq,not_true_eq_false,if_false]
    split
    case h_1 failure answered =>
      have different : statusError ≠ statusPass := by decide
      exact ⟨⟨rfl,rfl,rfl,rfl⟩,by simp,rfl,fun _ pass => absurd pass different,fun _ _ => run_exchanges,run_output ..⟩
    case h_2 msg answered =>
      obtain ⟨member,type,id,valid⟩ := run_eq_ok answered
      exact ⟨⟨rfl,rfl,rfl,rfl⟩,by simp,valid,fun _ pass => ⟨msg,member,type,id,pass⟩,fun _ _ => run_exchanges,run_output ..⟩
  · simp only [ne_eq,own]
    exact ⟨⟨rfl,rfl,rfl,rfl⟩,by simp [own],rfl,fun owned => absurd owned own,
      fun _ _ member => absurd member List.not_mem_nil,List.suffix_rfl⟩

def CaseResult.key (c : CaseResult) : String × String × Role × Bool := (c.id,c.profile,c.role,c.required)

def Scenario.key (sc : Scenario) : String × String × Role × Bool := (sc.id,sc.profile,sc.role,sc.required)

/-- What holds of the cases of a run, whatever the process does. -/
structure Cases (lib : Library) (role : Role) (scenarios : List Scenario) (a : Adapter) (cases : List CaseResult)
    (exchanges : List Exchange) : Prop where
  listed : cases.map CaseResult.key = scenarios.map Scenario.key
  applicable : ∀ c ∈ cases,c.applicable = decide (c.role = role)
  valid : ∀ c ∈ cases,validStatus c.status = true
  passed : ∀ c ∈ cases,c.role = role → c.status = statusPass → ∃ sc ∈ scenarios,sc.key = c.key ∧
    ∃ msg,(sc.command,.ok msg) ∈ exchanges ∧ msg.type = "result" ∧ msg.id = c.id ∧ msg.status = statusPass
  consumed : ∀ cmd msg,(cmd,.ok msg) ∈ exchanges → ∃ line ∈ a.output,decodeLine lib line = .ok msg

theorem Scenario.of_key {c : CaseResult} (same : c.key = sc.key) :
    c.id = sc.id ∧ c.profile = sc.profile ∧ c.role = sc.role ∧ c.required = sc.required := by
  simpa [Scenario.key,CaseResult.key] using same

theorem Graded.key {role : Role} {after : Adapter} {c : CaseResult} {exchanges : List Exchange}
    (graded : Graded lib role sc a c exchanges after) : c.key = sc.key := by
  obtain ⟨id,profile,owner,required⟩ := graded.scenario
  rw [CaseResult.key,Scenario.key,id,profile,owner,required]

theorem runCases_cases (role : Role) (scenarios : List Scenario) (turns : Nat → Turn) (a : Adapter) :
    Cases lib role scenarios a (runCases lib role scenarios turns a).1 (runCases lib role scenarios turns a).2.1 := by
  induction scenarios generalizing turns a with
  | nil => exact ⟨rfl,by simp [runCases],by simp [runCases],by simp [runCases],by simp [runCases]⟩
  | cons sc scenarios ih =>
    have first := @runCase_graded lib role sc (turns 0) a
    have rest := ih (fun n => turns (n + 1)) (runCase lib role sc (turns 0) a).2.2
    rw [runCases]
    dsimp only
    refine ⟨?_,?_,?_,?_,?_⟩
    · rw [List.map_cons,List.map_cons,first.key,rest.listed]
    · rintro c (_ | ⟨_,later⟩)
      · rw [first.applicable,first.scenario.2.2.1]
      · exact rest.applicable c later
    · rintro c (_ | ⟨_,later⟩)
      · exact first.valid
      · exact rest.valid c later
    · rintro c (_ | ⟨_,later⟩) own pass
      · obtain ⟨msg,member,type,id,status⟩ := first.passed (first.scenario.2.2.1 ▸ own) pass
        exact ⟨sc,by simp,first.key.symm,msg,List.mem_append_left _ member,type,by rw [id,first.scenario.1],status⟩
      · obtain ⟨found,inside,same,msg,member,facts⟩ := rest.passed c later own pass
        exact ⟨found,List.mem_cons_of_mem _ inside,same,msg,List.mem_append_right _ member,facts⟩
    · intro cmd msg member
      rcases List.mem_append.mp member with now | later
      · exact first.consumed cmd msg now
      · obtain ⟨line,inside,parsed⟩ := rest.consumed cmd msg later
        exact ⟨line,first.output.subset inside,parsed⟩

theorem idLe_pairwise {α : Type} (id : α → String) (items : List α) :
    (items.insertionSort fun x y => idLe (id x) (id y) = true).Pairwise fun x y => idLe (id x) (id y) = true := by
  have total : Std.Total fun x y : α => idLe (id x) (id y) = true := ⟨fun _ _ => lexLe_total _ _⟩
  have trans : IsTrans α fun x y => idLe (id x) (id y) = true := ⟨fun _ _ _ => lexLe_trans⟩
  exact List.pairwise_insertionSort _ items

theorem validateScenarios_eq_ok {seen : List String}
    (ok : Suite.validateScenarios lib seen scenarios = .ok ()) :
    (scenarios.map Scenario.id).Nodup ∧ ∀ sc ∈ scenarios,sc.id ∉ seen := by
  induction scenarios generalizing seen with
  | nil => simp
  | cons sc rest ih =>
    rw [Suite.validateScenarios] at ok
    obtain ⟨_,ok⟩ := check_bind_eq_ok.mp ok
    obtain ⟨fresh,ok⟩ := check_bind_eq_ok.mp ok
    obtain ⟨_,ok⟩ := check_bind_eq_ok.mp ok
    obtain ⟨_,ok⟩ := check_bind_eq_ok.mp ok
    obtain ⟨distinct,apart⟩ := ih ok
    have fresh : sc.id ∉ seen := by simpa using require_eq_ok.mp fresh
    refine ⟨?_,?_⟩
    · rw [List.map_cons,List.nodup_cons]
      refine ⟨?_,distinct⟩
      intro again
      obtain ⟨other,member,same⟩ := List.mem_map.mp again
      exact apart other member (by simp [same])
    · rintro other (_ | ⟨_,later⟩)
      · exact fresh
      · exact fun old => apart other later (List.mem_cons_of_mem _ old)

/-- The scenarios of a suite are in the order of their identifiers, each one once. -/
theorem loadSuite_ordered {data : Bytes} {suite : Suite} (loaded : loadSuite lib data = .ok suite) :
    suite.scenarios.Pairwise fun a b => idLe a.id b.id = true ∧ a.id ≠ b.id := by
  unfold loadSuite at loaded
  split at loaded
  case h_1 => cases loaded
  case h_2 parsed _ =>
    obtain ⟨valid,made⟩ := check_bind_eq_ok.mp loaded
    obtain rfl := pure_eq_ok.mp made
    obtain ⟨_,valid⟩ := check_bind_eq_ok.mp valid
    have distinct := (validateScenarios_eq_ok valid).1
    have kept : ((parsed.scenarios.insertionSort (idLe ·.id ·.id)).map Scenario.id).Nodup :=
      ((List.perm_insertionSort _ _).map _).nodup_iff.mpr distinct
    exact (idLe_pairwise Scenario.id parsed.scenarios).and (List.pairwise_map.mp kept)

/-- A report about these scenarios that nothing on the wire has forged and that is not empty praise. -/
structure Trustworthy (lib : Library) (role : Role) (scenarios : List Scenario) (a : Adapter) (report : Report)
    (exchanges : List Exchange) : Prop where
  listed : report.cases.map CaseResult.key = scenarios.map Scenario.key
  ordered : report.cases.Pairwise fun c d => idLe c.id d.id = true ∧ c.id ≠ d.id
  total : report.summary.total = report.cases.length
  counted : report.summary.counted = report.summary.total
  passed : ∀ c ∈ report.cases,c.role = role → c.status = statusPass → ∃ sc ∈ scenarios,sc.key = c.key ∧
    ∃ msg,(sc.command,.ok msg) ∈ exchanges ∧ msg.type = "result" ∧ msg.id = c.id ∧ msg.status = statusPass
  consumed : ∀ cmd msg,(cmd,.ok msg) ∈ exchanges → ∃ line ∈ a.output,decodeLine lib line = .ok msg
  conformant : report.summary.conformant = true →
    (∃ sc ∈ scenarios,sc.role = role ∧ sc.required = true ∧ ∃ answer,(sc.command,answer) ∈ exchanges) ∧
      ∀ c ∈ report.cases,c.role = role → c.required = true → c.status = statusPass

theorem conformant_iff {role : Role}
    {exchanges : List Exchange} (sound : Cases lib role scenarios a cases exchanges) :
    (cases.all fun c => !c.blocks) = true ↔ ∀ c ∈ cases,c.role = role → c.required = true → c.status = statusPass := by
  rw [List.all_eq_true]
  refine forall₂_congr fun c member => ?_
  simp only [CaseResult.blocks,sound.applicable c member,isRequiredNonPass,Bool.not_eq_true',Bool.and_eq_false_iff,
    decide_eq_false_iff_not,not_not]
  constructor
  · rintro ((foreign | optional) | pass) own required
    · exact absurd own foreign
    · rw [optional] at required
      cases required
    · exact pass
  · intro pass
    by_cases own : c.role = role
    · cases required : c.required with
      | false => exact .inl (.inr rfl)
      | true => exact .inr (pass own required)
    · exact .inl (.inl own)

theorem key_mem
    (listed : cases.map CaseResult.key = scenarios.map Scenario.key) (member : sc ∈ scenarios) :
    ∃ c ∈ cases,c.key = sc.key := by
  have : sc.key ∈ cases.map CaseResult.key := listed ▸ List.mem_map_of_mem member
  exact List.mem_map.mp this

theorem newReport_eq (ordered : cases.Pairwise fun c d => idLe c.id d.id = true)
    (valid : ∀ c ∈ cases,validStatus c.status = true) (adapter : String) (hs : AdapterMessage)
    (profile toolVersion : String) :
    (newReport adapter hs profile toolVersion cases).cases = cases ∧
      (newReport adapter hs profile toolVersion cases).summary.total = cases.length ∧
      (newReport adapter hs profile toolVersion cases).summary.counted = cases.length ∧
      ((newReport adapter hs profile toolVersion cases).summary.conformant = true ↔
        (cases.all fun c => !c.blocks) = true) := by
  obtain ⟨total,counted,conformant⟩ := foldl_grade valid ⟨cases.length,0,0,0,0,0,true⟩
  have sorted : (cases.insertionSort fun c d => idLe c.id d.id = true) = cases := ordered.insertionSort_eq
  unfold newReport
  simp only [sorted]
  refine ⟨trivial,total,?_,?_⟩
  · rw [counted]
    simp [Summary.counted]
  · rw [conformant,Bool.true_and]

/-- The verdict can be trusted exactly when the adapter's role owns a required scenario of the
profile; without one the report calls every adapter conformant. -/
theorem verdict_trustworthy_iff {data : Bytes} {suite : Suite} (loaded : loadSuite lib data = .ok suite)
    (toolVersion profile : String) (a : Adapter) (turns : Nat → Turn) :
    Trustworthy lib a.handshake.role (suite.select profile) a (run lib toolVersion a suite profile turns).1
        (run lib toolVersion a suite profile turns).2 ↔
      ∃ sc ∈ suite.select profile,sc.role = a.handshake.role ∧ sc.required = true := by
  have sound := @runCases_cases lib a.handshake.role (suite.select profile) turns a
  have ordered : (runCases lib a.handshake.role (suite.select profile) turns a).1.Pairwise
      fun c d => idLe c.id d.id = true ∧ c.id ≠ d.id := by
    have scenarios : (suite.select profile).Pairwise fun x y => idLe x.id y.id = true ∧ x.id ≠ y.id :=
      (loadSuite_ordered loaded).sublist List.filter_sublist
    have keys : ((suite.select profile).map Scenario.key).Pairwise fun x y => idLe x.1 y.1 = true ∧ x.1 ≠ y.1 :=
      List.pairwise_map.mpr scenarios
    rw [← sound.listed] at keys
    exact List.pairwise_map.mp keys
  obtain ⟨reported,total,counted,conformant⟩ :=
    newReport_eq (ordered.imp fun pair => pair.1) sound.valid a.name a.handshake profile toolVersion
  have verdict := conformant.trans (conformant_iff sound)
  unfold run
  constructor
  · intro trustworthy
    by_contra absent
    -- Without a required scenario of its own nothing blocks the verdict.
    have vacuous : ∀ c ∈ (runCases lib a.handshake.role (suite.select profile) turns a).1,
        c.role = a.handshake.role → c.required = true → c.status = statusPass := by
      intro c member own required
      have key : c.key ∈ (suite.select profile).map Scenario.key := sound.listed ▸ List.mem_map_of_mem member
      obtain ⟨sc,inside,same⟩ := List.mem_map.mp key
      obtain ⟨_,_,role,needed⟩ := Scenario.of_key same.symm
      exact absurd ⟨sc,inside,role.symm.trans own,needed.symm.trans required⟩ absent
    obtain ⟨⟨sc,inside,own,required,_⟩,_⟩ := trustworthy.conformant (verdict.mpr vacuous)
    exact absent ⟨sc,inside,own,required⟩
  · rintro ⟨sc,inside,own,required⟩
    refine ⟨?_,?_,?_,?_,?_,sound.consumed,?_⟩
    · rw [reported]
      exact sound.listed
    · rw [reported]
      exact ordered
    · rw [total,reported]
    · rw [counted,total]
    · rw [reported]
      exact sound.passed
    · intro granted
      have all := verdict.mp granted
      obtain ⟨c,member,same⟩ := key_mem sound.listed inside
      have role : c.role = a.handshake.role := (Scenario.of_key same).2.2.1.trans own
      have needed : c.required = true := (Scenario.of_key same).2.2.2.trans required
      obtain ⟨found,there,key,msg,exchanged,_⟩ := sound.passed c member role (all c member role needed)
      refine ⟨⟨found,there,?_,?_,_,exchanged⟩,?_⟩
      · exact (Scenario.of_key key.symm).2.2.1.symm.trans role
      · exact (Scenario.of_key key.symm).2.2.2.symm.trans needed
      · rw [reported]
        exact all

end

namespace Samples

def blank : AdapterMessage := ⟨"","",0,"","","","","",[]⟩

def handshake : AdapterMessage := { blank with type := "handshake",protocolVersion := 1,role := roleWorker }

def passed : AdapterMessage := { blank with type := "result",id := "w/pass",status := statusPass }

def suite : Suite := ⟨1,[⟨"w/pass",roleWorker,"core",true,[]⟩]⟩

/-- Two lines and one suite. -/
def library : Library where
  message line := if line = [1] then .ok (handshake,[]) else if line = [2] then .ok (passed,[]) else .error "invalid"
  suite _ := .ok suite
  size _ := 0
  quote s := s

def process : Adapter := ⟨"sample",blank,[[1],[2]],none,false⟩

def adapter : Adapter := { process with handshake := handshake,output := [[2]] }

def ready : Turn := ⟨none,.ready,1⟩

/-- A worker that ran its only scenario. -/
theorem passing_trustworthy : loadSuite library [] = .ok suite ∧
    Trustworthy library roleWorker (suite.select "core") adapter (run library "cap-tck/1" adapter suite "core" fun _ => ready).1
      (run library "cap-tck/1" adapter suite "core" fun _ => ready).2 :=
  ⟨by decide,(@verdict_trustworthy_iff library [] suite (by decide) "cap-tck/1" "core" adapter fun _ => ready).mpr
    ⟨⟨"w/pass",roleWorker,"core",true,[]⟩,by decide⟩⟩

/-- No scenario has the profile that was asked for, nothing is sent, and the worker is conformant. -/
theorem unknown_profile_conformant : start library process ready = .ok adapter ∧ loadSuite library [] = .ok suite ∧
    suite.select "cap-production" = [] ∧
    run library "cap-tck/1" adapter suite "cap-production" (fun _ => ready) =
      (⟨"sample","",roleWorker,"cap-production","","cap-tck/1",⟨0,0,0,0,0,0,true⟩,[]⟩,[]) := by decide

end Samples

end Cap.Tck
