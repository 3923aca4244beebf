import Mathlib.Data.List.Dedup
import Mathlib.Data.List.Sort
import Cap.FileTree
import Cap.Lines
import Cap.ReplayStore

/-!
Drift detection for generated code (`tools/codegen`: `manifest.go`, `check.go`, `snapshot.go`,
`normalize.go`). `Snapshot` pins the files that some rule's glob matches; `Check` compares a manifest with
a tree in both directions.
-/
namespace Cap.Codegen
open Cap.Text Cap.Lines Cap.FileTree Cap.ReplayStore

inductive Code where
  | unsortedPaths
  | duplicatePath
  | pathTraversal
  | absolutePath
  | sourceMissing
  | outputMissing
  | outputStale
  | outputEmpty
  | outputUnmanifested
  | generatorNoOutputs
  | unknownOutputRef
  | outputUnclaimed
deriving DecidableEq

structure Problem where
  code : Code
  path : String
  detail : String
deriving DecidableEq

structure Output where
  path : String
  sha256 : String
deriving DecidableEq

structure Generator where
  id : String
  outputs : List String
deriving DecidableEq

structure Manifest where
  version : Nat
  sources : List String
  outputs : List Output
  generatedGlobs : List String
  generators : List Generator
deriving DecidableEq

structure GeneratorRule where
  id : String
  globs : List String

/-- What Go's library is asked: whether `path.Match` matches a name (it does not with a malformed pattern), the digest, and
    the text of an error of `fs.ReadFile`. -/
structure Library where
  pathMatch : String → String → Bool
  sha256 : Bytes → Bytes
  readError : String → String

abbrev Root := {t : Tree // t.wf = true}

variable (lib : Library)

def hashContent (b : Bytes) : String := hex (lib.sha256 (crlfToLf b))

/-- `strings.EqualFold` with a text of hexadecimal digits, which have no other variants than capital letters. -/
def equalFold (a b : String) : Bool := a.toList.map Char.toLower == b.toList.map Char.toLower

def isAbsPath (p : String) : Bool := p.toList.head? == some '/' || (utf8 p)[1]? == some 58

def hasDotDot (p : String) : Bool := (split p).contains ".."

def sortStrings (l : List String) : List String := l.insertionSort fun a b => less b a = false

def stringsAreSorted : List String → Bool
  | a :: b :: rest => !less b a && stringsAreSorted (b :: rest)
  | _ => true

def matchesAnyGlob (name : String) (globs : List String) : Bool := globs.any (lib.pathMatch · name)

/-- The source may be a file or a directory. -/
def exists' (root : Root) (name : String) : Bool := validPath name && (stat root.1 name).isSome

def checkPath (seen : List String) (p : String) : List Problem :=
  (if isAbsPath p then [⟨.absolutePath,p,""⟩] else if hasDotDot p then [⟨.pathTraversal,p,""⟩] else []) ++
    if seen.contains p then [⟨.duplicatePath,p,""⟩] else []

def checkPaths : List String → List String → List Problem
  | _,[] => []
  | seen,p :: rest => checkPath seen p ++ checkPaths (p :: seen) rest

def checkOutputPaths (m : Manifest) : List Problem :=
  let names := m.outputs.map Output.path
  checkPaths [] names ++ if stringsAreSorted names then [] else [⟨.unsortedPaths,"",""⟩]

def checkSources (m : Manifest) (root : Root) : List Problem :=
  m.sources.flatMap fun s => if exists' root s then [] else [⟨.sourceMissing,s,""⟩]

def checkOutputOnDisk (root : Root) (o : Output) : List Problem :=
  if !validPath o.path then []
  else
    match readFile root.1 o.path with
    | none => [⟨.outputMissing,o.path,lib.readError o.path⟩]
    | some data =>
      if data = [] then [⟨.outputEmpty,o.path,""⟩]
      else if !equalFold (hashContent lib data) o.sha256 then [⟨.outputStale,o.path,""⟩]
      else []

def checkOutputsOnDisk (m : Manifest) (root : Root) : List Problem := m.outputs.flatMap (checkOutputOnDisk lib root)

def checkUnmanifested (m : Manifest) (root : Root) : List Problem :=
  (walkDir root.1).flatMap fun (name,isDir) =>
    if isDir || (m.outputs.map Output.path).contains name then []
    else if matchesAnyGlob lib name m.generatedGlobs then [⟨.outputUnmanifested,name,""⟩]
    else []

def checkGenerator (m : Manifest) (g : Generator) : List Problem :=
  if g.outputs = [] then [⟨.generatorNoOutputs,"",g.id⟩]
  else g.outputs.flatMap fun out =>
    if (m.outputs.map Output.path).contains out then [] else [⟨.unknownOutputRef,out,g.id⟩]

def checkGenerators (m : Manifest) : List Problem :=
  m.generators.flatMap (checkGenerator m) ++ m.outputs.flatMap fun o =>
    if (m.generators.flatMap Generator.outputs).contains o.path then [] else [⟨.outputUnclaimed,o.path,""⟩]

def check (m : Manifest) (root : Root) : List Problem :=
  checkOutputPaths m ++ checkSources m root ++ checkOutputsOnDisk lib m root ++ checkUnmanifested lib m root ++
    checkGenerators m

def matchRule (rules : List GeneratorRule) (name : String) : Option String :=
  (rules.find? fun r => matchesAnyGlob lib name r.globs).map GeneratorRule.id

def collect (root : Root) (rules : List GeneratorRule) : List (String × Bool) → Option (List (String × Output))
  | [] => some []
  | (name,isDir) :: rest =>
    if isDir then collect root rules rest
    else
      match matchRule lib rules name with
      | none => collect root rules rest
      | some rule => do
        let data ← readFile root.1 name
        let more ← collect root rules rest
        some ((rule,⟨name,hashContent lib data⟩) :: more)

def finalizeManifest (sources : List String) (rules : List GeneratorRule) (found : List (String × Output)) : Manifest where
  version := 1
  sources := sources
  outputs := (found.map Prod.snd).insertionSort fun a b => less b.path a.path = false
  generatedGlobs := sortStrings (rules.flatMap GeneratorRule.globs).dedup
  generators := (sortStrings (found.map Prod.fst).dedup).map fun id =>
    ⟨id,sortStrings ((found.filter fun (rule,_) => rule == id).map fun (_,o) => o.path)⟩

def snapshot (root : Root) (sources : List String) (rules : List GeneratorRule) : Option Manifest :=
  (collect lib root rules (walkDir root.1)).map (finalizeManifest sources rules)

variable {lib}

theorem digitChar_inj {a b : Nat} (smallA : a < 16) (smallB : b < 16) (same : Nat.digitChar a = Nat.digitChar b) : a = b := by
  have table : ∀ a < 16, ∀ b < 16, Nat.digitChar a = Nat.digitChar b → a = b := by decide
  exact table a smallA b smallB same

theorem hex_injective : Function.Injective hex := by
  intro a b same
  have digits := String.ofList_injective same
  induction a generalizing b with
  | nil =>
    cases b with
    | nil => rfl
    | cons y ys => cases digits
  | cons x xs ih =>
    cases b with
    | nil => cases digits
    | cons y ys =>
      obtain ⟨high,rest⟩ := List.cons.inj digits
      obtain ⟨low,more⟩ := List.cons.inj rest
      have sizeX := x.toNat_lt
      have sizeY := y.toNat_lt
      have sameHigh := digitChar_inj (by omega) (by omega) high
      have sameLow := digitChar_inj (by omega) (by omega) low
      have number : x = y := UInt8.toNat_inj.mp (by omega)
      rw [number,ih (congrArg String.ofList more) more]

theorem toLower_hex (b : Bytes) : (hex b).toList.map Char.toLower = (hex b).toList := by
  have table : ∀ n < 16, (Nat.digitChar n).toLower = Nat.digitChar n := by decide
  rw [hex,String.toList_ofList]
  refine (List.map_congr_left ?_).trans (List.map_id _)
  intro c member
  obtain ⟨byte,-,inside⟩ := List.mem_flatMap.mp member
  have size := byte.toNat_lt
  simp only [List.mem_cons,List.not_mem_nil,or_false] at inside
  rcases inside with rfl | rfl
  · exact table _ (by omega)
  · exact table _ (by omega)

theorem equalFold_hex {a b : Bytes} : equalFold (hex a) (hex b) = true ↔ a = b := by
  rw [equalFold,toLower_hex,toLower_hex,beq_iff_eq,String.toList_inj]
  exact hex_injective.eq_iff

theorem equalFold_hashContent (noCollision : Function.Injective lib.sha256) {a b : Bytes} :
    equalFold (hashContent lib a) (hashContent lib b) = true ↔ crlfToLf a = crlfToLf b := by
  rw [hashContent,hashContent,equalFold_hex]
  exact noCollision.eq_iff

variable {rules : List GeneratorRule} {o : Output} {root : Root} {m : Manifest} {sources : List String}

theorem isSome_matchRule {name : String} :
    (matchRule lib rules name).isSome = true ↔ ∃ r ∈ rules, ∃ g ∈ r.globs, lib.pathMatch g name = true := by
  simp [matchRule,matchesAnyGlob]

theorem mem_sortStrings {l : List String} {s : String} : s ∈ sortStrings l ↔ s ∈ l := List.mem_insertionSort _

theorem matchesAnyGlob_sorted {name : String} :
    matchesAnyGlob lib name (sortStrings (rules.flatMap GeneratorRule.globs).dedup) = (matchRule lib rules name).isSome := by
  rw [Bool.eq_iff_iff,isSome_matchRule,matchesAnyGlob,List.any_eq_true]
  simp only [mem_sortStrings,List.mem_dedup,List.mem_flatMap]
  constructor
  · rintro ⟨g,⟨r,member,among⟩,matched⟩
    exact ⟨r,member,g,among,matched⟩
  · rintro ⟨r,member,g,among,matched⟩
    exact ⟨g,⟨r,member,among⟩,matched⟩

def Managed (lib : Library) (rules : List GeneratorRule) (root : Root) (p : String) : Prop :=
  (∃ data, readFile root.1 p = some data) ∧ (matchRule lib rules p).isSome = true

theorem mem_collect {visits : List (String × Bool)}
    {found : List (String × Output)} (collected : collect lib root rules visits = some found) :
    o ∈ found.map Prod.snd ↔ (o.path,false) ∈ visits ∧ (matchRule lib rules o.path).isSome = true ∧
      ∃ data, readFile root.1 o.path = some data ∧ o.sha256 = hashContent lib data := by
  induction visits generalizing found with
  | nil =>
    obtain rfl := Option.some.inj collected
    simp
  | cons visit rest ih =>
    obtain ⟨name,isDir⟩ := visit
    cases isDir with
    | true =>
      have later : collect lib root rules rest = some found := by simpa [collect] using collected
      simpa using ih later
    | false =>
      cases rule : matchRule lib rules name with
      | none =>
        have later : collect lib root rules rest = some found := by simpa [collect,rule] using collected
        rw [ih later,List.mem_cons]
        constructor
        · rintro ⟨visited,managed⟩
          exact ⟨.inr visited,managed⟩
        · rintro ⟨here | visited,managed,content⟩
          · rw [(Prod.mk.inj here).1,rule] at managed
            cases managed
          · exact ⟨visited,managed,content⟩
      | some id =>
        simp only [collect,rule,Bool.false_eq_true,if_false,Option.bind_eq_bind,Option.bind_eq_some_iff,Option.some.injEq]
          at collected
        obtain ⟨data,read,more,later,rfl⟩ := collected
        rw [List.map_cons,List.mem_cons,ih later,List.mem_cons]
        constructor
        · rintro (rfl | ⟨visited,managed,content⟩)
          · exact ⟨.inl rfl,by simp [rule],data,read,rfl⟩
          · exact ⟨.inr visited,managed,content⟩
        · rintro ⟨here | visited,managed,content⟩
          · cases o
            simp_all
          · exact .inr ⟨visited,managed,content⟩

theorem mem_outputs
    (built : snapshot lib root sources rules = some m) :
    o ∈ m.outputs ↔ (matchRule lib rules o.path).isSome = true ∧
      ∃ data, readFile root.1 o.path = some data ∧ o.sha256 = hashContent lib data := by
  obtain ⟨found,collected,rfl⟩ := Option.map_eq_some_iff.mp built
  have visited := mem_collect collected (o := o)
  rw [finalizeManifest,List.mem_insertionSort,visited,mem_walkDir root.2]
  constructor
  · rintro ⟨-,managed⟩
    exact managed
  · rintro ⟨managed,data,read,digest⟩
    exact ⟨⟨data,read⟩,managed,data,read,digest⟩

theorem mem_paths
    (built : snapshot lib root sources rules = some m) {p : String} :
    p ∈ m.outputs.map Output.path ↔ Managed lib rules root p := by
  rw [List.mem_map]
  constructor
  · rintro ⟨o,member,rfl⟩
    obtain ⟨managed,data,read,-⟩ := (mem_outputs built).mp member
    exact ⟨⟨data,read⟩,managed⟩
  · rintro ⟨⟨data,read⟩,managed⟩
    exact ⟨⟨p,hashContent lib data⟩,(mem_outputs built).mpr ⟨managed,data,read,rfl⟩,rfl⟩

theorem checkSources_eq_nil :
    checkSources m root = [] ↔ ∀ s ∈ m.sources, exists' root s = true := by
  simp [checkSources]

theorem checkOutputOnDisk_eq_nil (valid : validPath o.path = true) :
    checkOutputOnDisk lib root o = [] ↔
      ∃ data, readFile root.1 o.path = some data ∧ data ≠ [] ∧ equalFold (hashContent lib data) o.sha256 = true := by
  rw [checkOutputOnDisk,valid]
  cases read : readFile root.1 o.path with
  | none => simp
  | some data =>
    by_cases empty : data = []
    · simp [empty]
    · cases fold : equalFold (hashContent lib data) o.sha256 <;> simp [empty]

theorem checkUnmanifested_eq_nil : checkUnmanifested lib m root = [] ↔
    ∀ p, (∃ data, readFile root.1 p = some data) → matchesAnyGlob lib p m.generatedGlobs = true →
      p ∈ m.outputs.map Output.path := by
  rw [checkUnmanifested,List.flatMap_eq_nil_iff]
  constructor
  · intro none p file matched
    have visited := none (p,false) ((mem_walkDir root.2).mpr file)
    by_contra undeclared
    simp [undeclared,matched] at visited
  · rintro declared ⟨p,isDir⟩ visited
    cases isDir with
    | true => simp
    | false =>
      have file := (mem_walkDir root.2).mp visited
      cases matched : matchesAnyGlob lib p m.generatedGlobs with
      | false => simp [matched]
      | true => simpa [matched] using declared p file matched

/-- The tree holds the managed files of the other one and no others, none of them empty, with the same contents up to
    line ends. -/
structure SameGenerated (lib : Library) (rules : List GeneratorRule) (root other : Root) : Prop where
  files : ∀ p, Managed lib rules other p ↔ Managed lib rules root p
  contents : ∀ p, Managed lib rules other p → ∃ data data', readFile root.1 p = some data ∧ readFile other.1 p = some data' ∧
    data' ≠ [] ∧ crlfToLf data' = crlfToLf data

theorem outputs_eq_nil_iff (noCollision : Function.Injective lib.sha256) {other : Root}
    (built : snapshot lib root sources rules = some m) :
    checkOutputsOnDisk lib m other = [] ↔ ∀ p, Managed lib rules root p → ∃ data data', readFile root.1 p = some data ∧
      readFile other.1 p = some data' ∧ data' ≠ [] ∧ crlfToLf data' = crlfToLf data := by
  rw [checkOutputsOnDisk,List.flatMap_eq_nil_iff]
  constructor
  · rintro each p ⟨⟨data,read⟩,managed⟩
    have valid := (readFile_eq_some.mp read).1
    have listed := (mem_outputs (o := ⟨p,hashContent lib data⟩) built).mpr ⟨managed,data,read,rfl⟩
    obtain ⟨data',readOther,nonempty,fold⟩ := (checkOutputOnDisk_eq_nil valid).mp (each _ listed)
    exact ⟨data,data',read,readOther,nonempty,(equalFold_hashContent noCollision).mp fold⟩
  · intro same o listed
    obtain ⟨managed,data,read,digest⟩ := (mem_outputs built).mp listed
    refine (checkOutputOnDisk_eq_nil (readFile_eq_some.mp read).1).mpr ?_
    obtain ⟨first,data',readAgain,readOther,nonempty,content⟩ := same o.path ⟨⟨data,read⟩,managed⟩
    rw [read] at readAgain
    obtain rfl := Option.some.inj readAgain
    refine ⟨data',readOther,nonempty,?_⟩
    rw [digest,equalFold_hashContent noCollision]
    exact content

theorem unmanifested_eq_nil_iff {other : Root}
    (built : snapshot lib root sources rules = some m) :
    checkUnmanifested lib m other = [] ↔ ∀ p, Managed lib rules other p → Managed lib rules root p := by
  have globs : ∀ p, matchesAnyGlob lib p m.generatedGlobs = (matchRule lib rules p).isSome := by
    obtain ⟨found,-,rfl⟩ := Option.map_eq_some_iff.mp built
    exact fun p => matchesAnyGlob_sorted
  rw [checkUnmanifested_eq_nil]
  constructor
  · rintro declared p ⟨file,managed⟩
    exact (mem_paths built).mp (declared p file (by rw [globs,managed]))
  · intro within p file matched
    rw [globs] at matched
    exact (mem_paths built).mpr (within p ⟨file,matched⟩)

/-- Against the snapshot of a tree that it accepts itself, a check accepts exactly the trees with the declared sources and
    the same generated files. -/
theorem check_exact (noCollision : Function.Injective lib.sha256) (root other : Root) (sources : List String)
    (rules : List GeneratorRule) (m : Manifest) (built : snapshot lib root sources rules = some m)
    (clean : check lib m root = []) :
    check lib m other = [] ↔ (∀ s ∈ sources, exists' other s = true) ∧ SameGenerated lib rules root other := by
  have declared : m.sources = sources := by
    obtain ⟨found,-,rfl⟩ := Option.map_eq_some_iff.mp built
    rfl
  simp only [check,List.append_eq_nil_iff] at clean
  obtain ⟨⟨⟨⟨paths,-⟩,-⟩,-⟩,generators⟩ := clean
  simp only [check,List.append_eq_nil_iff,paths,generators,true_and,and_true,checkSources_eq_nil,declared,
    outputs_eq_nil_iff noCollision built,unmanifested_eq_nil_iff built,and_assoc]
  refine and_congr_right fun _ => ?_
  constructor
  · rintro ⟨contents,within⟩
    have files : ∀ p, Managed lib rules other p ↔ Managed lib rules root p := by
      refine fun p => ⟨within p,fun managed => ?_⟩
      obtain ⟨-,data',-,read,-⟩ := contents p managed
      exact ⟨⟨data',read⟩,managed.2⟩
    exact ⟨files,fun p managed => contents p (within p managed)⟩
  · intro same
    exact ⟨fun p managed => same.contents p ((same.files p).mpr managed),fun p managed => (same.files p).mp managed⟩

namespace Samples

/-- Patterns without special characters, and a digest that keeps everything. -/
def library : Library := ⟨fun pattern name => pattern == name,id,fun p => "open " ++ p ++ ": file does not exist"⟩

def checkout (generated : Bytes) : Tree :=
  .file "a.proto" (utf8 "message A") (.dir "gen" (.file "a.go" generated .nil) .nil)

def unixRoot : Root := ⟨checkout (utf8 "package a\n"),by decide +kernel⟩

def windowsRoot : Root := ⟨checkout (utf8 "package a\r\n"),by decide +kernel⟩

def manifest : Manifest where
  version := 1
  sources := ["a.proto"]
  outputs := [⟨"gen/a.go",hex (utf8 "package a\n")⟩]
  generatedGlobs := ["gen/a.go"]
  generators := [⟨"go",["gen/a.go"]⟩]

/-- The check accepts a checkout with other line ends. -/
theorem windows_checkout_same : check library manifest windowsRoot = [] ∧
    SameGenerated library [⟨"go",["gen/a.go"]⟩] unixRoot windowsRoot := by
  have accepted : check library manifest windowsRoot = [] := by decide +kernel
  have noCollision : Function.Injective library.sha256 := fun _ _ same => same
  have exactness := check_exact noCollision unixRoot windowsRoot ["a.proto"] [⟨"go",["gen/a.go"]⟩] manifest
    (by decide +kernel) (by decide +kernel)
  exact ⟨accepted,(exactness.mp accepted).2⟩

end Samples

end Cap.Codegen
