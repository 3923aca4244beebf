import Mathlib.Computability.RegularExpressions
import Cap.Text

/-!
The release manifest and its checks (`internal/releasetruth`: `manifest.go`, `validate.go`,
`release_state.go`, `paths.go`). The regular expressions are those of the source, matched as a
whole unless they are searched for.
-/
namespace Cap.Release
open Cap.Text RegularExpression

structure Published where
  version : String
  tag : String
  date : String
  commit : String
  channel : String
deriving DecidableEq

/-- `Candidate` and `Snapshot`: a release that is prepared. -/
structure Prepared where
  version : String
  tag : String
  channel : String
deriving DecidableEq

structure Development where
  commit : String
  describe : String
  released : Bool
deriving DecidableEq

structure WireInfo where
  protocolVersion : Int
  schemaVersion : String
  compatMin : Int
  compatMax : Int
deriving DecidableEq

structure Spec where
  id : String
  file : String
  title : String
deriving DecidableEq

structure Component where
  name : String
  kind : String
  tier : String
  language : String
  package : String
  registry : String
  importPath : String
  version : String
  toolchain : String
  publication : String
  evidence : String
deriving DecidableEq

structure Transport where
  name : String
  state : String
  limitations : String
  evidence : String
deriving DecidableEq

structure ToolReq where
  tested : String
  minimum : String
deriving DecidableEq

structure Toolchains where
  go : ToolReq
  node : ToolReq
  python : ToolReq
deriving DecidableEq

structure Security where
  supportedLines : List String
  reportingRoute : String
deriving DecidableEq

structure Link where
  name : String
  url : String
deriving DecidableEq

structure Manifest where
  schemaVersion : String
  release : Published
  candidate : Option Prepared
  snapshot : Option Prepared
  development : Development
  wire : WireInfo
  specs : List Spec
  components : List Component
  transports : List Transport
  toolchains : Toolchains
  security : Security
  links : List Link
deriving DecidableEq

structure Problem where
  field : String
  msg : String
deriving DecidableEq

def demand (condition : Bool) (field msg : String) : List Problem := if condition then [] else [⟨field,msg⟩]

@[simp] theorem demand_eq_nil {condition : Bool} {field msg : String} : demand condition field msg = [] ↔ condition = true := by
  cases condition <;> simp [demand]

def oneOf (s : String) : RegularExpression Char := s.toList.foldr (fun c rest => char c + rest) 0

def digit : RegularExpression Char := oneOf "0123456789"

def numeral : RegularExpression Char := char '0' + oneOf "123456789" * star digit

def reSemver : RegularExpression Char := numeral * (char '.' * (numeral * (char '.' * numeral)))

def reDate : RegularExpression Char := digit ^ 4 * (char '-' * (digit ^ 2 * (char '-' * digit ^ 2)))

def hexDigit : RegularExpression Char := oneOf "0123456789abcdef"

def reFullSHA : RegularExpression Char := hexDigit ^ 40

/-- Between seven and forty hexadecimal digits. -/
def reHexSHA : RegularExpression Char := hexDigit ^ 7 * (1 + hexDigit) ^ 33

/-- `[0-9a-z]` without regard to case; two more letters fold to these. -/
def foldedAlphanumeric : RegularExpression Char :=
  oneOf "0123456789abcdefghijklmnopqrstuvwxyzABCDEFGHIJKLMNOPQRSTUVWXYZ\u017f\u212a"

def evidenceVersion : RegularExpression Char :=
  (1 + oneOf "vV") * (numeral * (char '.' * (numeral * (char '.' * ((oneOf "xX" + numeral) *
    star (oneOf ".-" * (foldedAlphanumeric * star foldedAlphanumeric)))))))

def isMatch (re : RegularExpression Char) (s : String) : Bool := re.rmatch s.toList

def wordChar (c : Char) : Bool := c.isAlphanum || c == '_'

/-- `\b`: one side of the position is a word character and the other is not. -/
def boundary (before after : List Char) : Bool := before.getLast?.any wordChar != after.head?.any wordChar

/-- The pattern between two word boundaries matches somewhere. -/
def searchWord (re : RegularExpression Char) (s : String) : Bool :=
  let cs := s.toList
  (List.range (cs.length + 1)).any fun i => (List.range (cs.length + 1)).any fun j =>
    decide (i ≤ j) && boundary (cs.take i) (cs.drop i) && boundary (cs.take j) (cs.drop j) &&
      re.rmatch ((cs.drop i).take (j - i))

def splitAt (separator : Char) (s : String) : List String := (s.toList.splitOn separator).map String.ofList

/-- Strings are compared byte by byte. -/
def greater (a b : String) : Bool := !lexLe ((utf8 a).map UInt8.toNat) ((utf8 b).map UInt8.toNat)

/-- The first parts that differ decide, the longer one being greater; nothing when there are too few parts. -/
def greaterParts : Nat → List String → List String → Option Bool
  | 0,_,_ => some false
  | rounds + 1,a :: as,b :: bs =>
    if (utf8 a).length ≠ (utf8 b).length then some (decide ((utf8 b).length < (utf8 a).length))
    else if a ≠ b then some (greater a b)
    else greaterParts rounds as bs
  | _ + 1,_,_ => none

def semverGreater (candidate published : String) : Option Bool :=
  greaterParts 3 (splitAt '.' candidate) (splitAt '.' published)

def checkSchema (m : Manifest) : List Problem :=
  demand (["1.0.0","1.1.0","1.2.0"].contains m.schemaVersion) "schemaVersion"
    ("unsupported manifest schema: " ++ m.schemaVersion)

def checkReleaseState (m : Manifest) : List Problem :=
  demand (!(m.candidate.isSome && m.snapshot.isSome)) "releaseState" "candidate and snapshot are mutually exclusive" ++
  demand (!(m.candidate.isSome && m.schemaVersion == "1.0.0")) "candidate.schemaVersion"
    "candidate requires schemaVersion >= 1.1.0" ++
  demand (!(m.snapshot.isSome && m.schemaVersion != "1.2.0")) "snapshot.schemaVersion"
    "snapshot requires schemaVersion 1.2.0"

def checkRelease (m : Manifest) : List Problem :=
  let r := m.release
  demand (isMatch reSemver r.version) "release.version" ("must be MAJOR.MINOR.PATCH: " ++ r.version) ++
  demand (r.tag == "v" ++ r.version) "release.tag" ("tag must equal v" ++ r.version ++ ", got " ++ r.tag) ++
  demand (isMatch reDate r.date) "release.date" ("must be YYYY-MM-DD: " ++ r.date) ++
  demand (isMatch reFullSHA r.commit) "release.commit" ("must be the full 40-char tag target sha: " ++ r.commit) ++
  demand (r.channel == "stable") "release.channel" ("stable version/tag require channel stable, got " ++ r.channel)

/-- A prepared release is canonical and newer than the published one. -/
def checkFutureVersion (field version published : String) : List Problem :=
  if !isMatch reSemver version then
    [⟨field ++ ".version","must be canonical MAJOR.MINOR.PATCH: " ++ version⟩]
  else if isMatch reSemver published && semverGreater version published != some true then
    [⟨field ++ ".version","must be newer than published release " ++ published⟩]
  else []

def checkFutureCoordinate (field : String) (c : Prepared) (published : String) : List Problem :=
  checkFutureVersion field c.version published ++
  demand (c.tag == "v" ++ c.version) (field ++ ".tag") ("tag must equal v" ++ c.version ++ ", got " ++ c.tag) ++
  demand (c.channel == "stable") (field ++ ".channel")
    ("stable version/tag require channel stable, got " ++ c.channel)

def checkCandidate (m : Manifest) : List Problem :=
  match m.candidate with
  | none => []
  | some c => checkFutureCoordinate "candidate" c m.release.version

def checkSnapshot (m : Manifest) : List Problem :=
  match m.snapshot with
  | none => []
  | some s => checkFutureCoordinate "snapshot" s m.release.version

def checkDevelopment (m : Manifest) : List Problem :=
  let d := m.development
  demand (!d.released) "development.released" "development state must be unreleased (released=false)" ++
  demand (!blank goSpace d.describe) "development.describe" "must record git describe output" ++
  demand (d.commit == "" || isMatch reHexSHA d.commit) "development.commit" ("must be a 7-40 char hex sha: " ++ d.commit)

def checkWire (m : Manifest) : List Problem :=
  let w := m.wire
  demand (decide (1 ≤ w.protocolVersion)) "wire.protocolVersion" "must be >= 1" ++
  demand (isMatch reSemver w.schemaVersion) "wire.schemaVersion" ("must be MAJOR.MINOR.PATCH: " ++ w.schemaVersion) ++
  demand (!(decide (w.compatMin < 1) || decide (w.compatMax < w.compatMin) || decide (w.protocolVersion < w.compatMin) ||
      decide (w.compatMax < w.protocolVersion))) "wire.compat"
    "protocolVersion must lie within [compatMin,compatMax] and compatMin>=1"

/-- The error of `safeRelPath`, if there is one. -/
def safeRelPath (p : String) : Option String :=
  if p = "" then some "empty path"
  else if p.toList.contains '\\' then some "backslash not allowed; use forward slashes"
  else if p.toList.head? = some '/' then some "absolute path not allowed"
  else (splitAt '/' p).findSome? fun segment =>
    if segment = "" then some "empty path segment (leading, trailing, or double slash)"
    else if segment = "." ∨ segment = ".." then some ("relative segment \"" ++ segment ++ "\" not allowed")
    else none

def checkSpec (seen : List String) (s : Spec) : List Problem :=
  demand (!(s.id == "" || s.title == "")) "specs.field" "spec id and title are required" ++
  demand (!seen.contains s.id) "specs.id.duplicate" ("duplicate spec id: " ++ s.id) ++
  match safeRelPath s.file with
  | none => []
  | some error => [⟨"specs.file","unsafe spec path " ++ s.file ++ ": " ++ error⟩]

/-- A check of every item, with the keys of those before it. -/
def checkEach {α : Type} (key : α → String) (check : List String → α → List Problem) : List String → List α → List Problem
  | _,[] => []
  | seen,item :: rest => check seen item ++ checkEach key check (key item :: seen) rest

def checkSpecs (m : Manifest) : List Problem :=
  if m.specs = [] then [⟨"specs.empty","at least one normative spec is required"⟩]
  else checkEach Spec.id checkSpec [] m.specs

/-- No other character is a letter of the word in lower case. -/
def mentionsGuard (s : String) : Bool := ((s.toList.map Char.toLower).tails).any ("guard".toList.isPrefixOf ·)

def isGuard (c : Component) : Bool := mentionsGuard c.name || mentionsGuard c.package

def checkStableComponent (c : Component) : List Problem :=
  demand (!(c.package == "" || c.registry == "" || c.importPath == "" || c.version == "")) "components.stable.coordinates"
    ("stable component " ++ c.name ++ " needs package, registry, import, and version") ++
  demand (!blank goSpace c.evidence) "components.stable.evidence"
    ("stable component " ++ c.name ++ " needs behavioral evidence")

def checkComponent (seen : List String) (c : Component) : List Problem :=
  demand (!seen.contains c.name) "components.name.duplicate" ("duplicate component name: " ++ c.name) ++
  demand (["sdk","extension"].contains c.kind) "components.kind" ("unknown kind for " ++ c.name ++ ": " ++ c.kind) ++
  demand (["stable","experimental","community"].contains c.tier) "components.tier"
    ("unknown tier for " ++ c.name ++ ": " ++ c.tier) ++
  demand (!(isGuard c && c.kind != "extension")) "components.guard.kind"
    "Guard must be kind=extension, not a protocol SDK" ++
  if c.tier = "stable" then checkStableComponent c else []

def checkComponents (m : Manifest) : List Problem :=
  if m.components = [] then [⟨"components.empty","at least one component is required"⟩]
  else checkEach Component.name checkComponent [] m.components

def checkPublishedComponentClaims (m : Manifest) : List Problem :=
  (m.components.filter (·.tier == "stable")).flatMap fun c =>
    demand (c.version == m.release.version) "components.published.version"
      ("stable component " ++ c.name ++ " must remain at published release " ++ m.release.version) ++
    demand (c.publication == "published") "components.published.publication"
      ("stable component " ++ c.name ++ " must be marked published") ++
    demand (!searchWord evidenceVersion c.evidence) "components.published.evidence"
      ("stable component " ++ c.name ++
        " evidence must be version-neutral; version binding belongs in components[].version")

def checkTransport (seen : List String) (t : Transport) : List Problem :=
  demand (!seen.contains t.name) "transports.name.duplicate" ("duplicate transport: " ++ t.name) ++
  demand (["supported","experimental"].contains t.state) "transports.state"
    ("unknown state for " ++ t.name ++ ": " ++ t.state) ++
  demand (!(t.state == "supported" && blank goSpace t.evidence)) "transports.supported.evidence"
    (t.name ++ " marked supported without behavioral evidence")

def checkTransports (m : Manifest) : List Problem := checkEach Transport.name checkTransport [] m.transports

def checkTool (field : String) (req : ToolReq) : List Problem :=
  demand (!(blank goSpace req.tested || blank goSpace req.minimum)) field
    "tested and minimum toolchain versions are required"

def checkToolchains (m : Manifest) : List Problem :=
  checkTool "toolchains.go" m.toolchains.go ++ checkTool "toolchains.node" m.toolchains.node ++
    checkTool "toolchains.python" m.toolchains.python

/-- The line of a canonical version; nothing for another string. -/
def currentReleaseLine (version : String) : Option String :=
  if !isMatch reSemver version then none
  else match splitAt '.' version with
    | major :: minor :: _ => some (major ++ "." ++ minor ++ ".x")
    | _ => none

def checkSecurity (m : Manifest) : List Problem :=
  demand (m.security.supportedLines != []) "security.supportedLines"
    "at least one supported release line is required" ++
  (match currentReleaseLine m.release.version with
    | none => []
    | some current => demand (m.security.supportedLines.contains current) "security.supportedLines.current"
        ("supported lines must include current release line " ++ current)) ++
  demand (!blank goSpace m.security.reportingRoute) "security.reportingRoute"
    "a vulnerability reporting route is required"

def startsWith (start s : String) : Bool := start.toList.isPrefixOf s.toList

def validLinkURL (u : String) : Bool :=
  startsWith "http://" u || startsWith "https://" u || startsWith "#" u || (safeRelPath u).isNone

def checkLink (seen : List String) (l : Link) : List Problem :=
  demand (!seen.contains l.name) "links.name.duplicate" ("duplicate link name: " ++ l.name) ++
  demand (validLinkURL l.url) "links.url" ("link " ++ l.name ++ " has an unsafe or empty url: " ++ l.url)

def checkLinks (m : Manifest) : List Problem := checkEach Link.name checkLink [] m.links

/-- `Validate`: every problem, in the order of the checks. -/
def validate (m : Manifest) : List Problem :=
  checkSchema m ++ checkReleaseState m ++ checkRelease m ++ checkCandidate m ++ checkSnapshot m ++ checkDevelopment m ++
    checkWire m ++ checkSpecs m ++ checkComponents m ++ checkPublishedComponentClaims m ++ checkTransports m ++
    checkToolchains m ++ checkSecurity m ++ checkLinks m

namespace Samples

/-- A prepared release beside the published one. -/
def manifest : Manifest where
  schemaVersion := "1.2.0"
  release := ⟨"2.14.0","v2.14.0","2026-01-02","0123456789abcdef0123456789abcdef01234567","stable"⟩
  candidate := none
  snapshot := some ⟨"2.15.0","v2.15.0","stable"⟩
  development := ⟨"","v2.14.0-3",false⟩
  wire := ⟨1,"1.3.0",1,1⟩
  specs := [⟨"01","spec/01.md","Overview"⟩]
  components := [⟨"Go SDK","sdk","stable","Go","cap","proxy","cap/sdk","2.14.0","1.24","published","tests"⟩]
  transports := [⟨"nats","supported","","tests"⟩]
  toolchains := ⟨⟨"1.24","1.23"⟩,⟨"22","20"⟩,⟨"3.12","3.10"⟩⟩
  security := ⟨["2.14.x"],"SECURITY.md"⟩
  links := []

theorem manifest_valid : validate manifest = [] := by decide +kernel

end Samples

end Cap.Release
