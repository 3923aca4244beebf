import Cap.Squeeze
import Cap.Text

/-!
Display names of agents (`sdk/go/displayname.go`, `sdk/node/src/protos.ts`,
`sdk/python/cap/heartbeat.py`). The SDKs differ in what white space is, in the characters that
they drop, and in what they do after the cut.
-/
namespace Cap.DisplayName
open Cap.Text Cap.Squeeze

abbrev Name := List Char

def maxAgentNameLen : Nat := 128

/-- `unicode.IsControl`: the category Cc. -/
def isControl (c : Char) : Bool := decide (c.toNat < 0x20) || (decide (0x7f ≤ c.toNat) && decide (c.toNat < 0xa0))

def runeError : Char := '�'

def classOf (space : Char → Bool) (c : Char) : Fate := if space c then .space else .keep

def goClass (r : Char) : Fate :=
  if r = runeError then .drop else if goSpace r then .space else if isControl r then .drop else .keep

/-- The cut in Go, which trims again. -/
def Go.bounded (out : Name) : Name :=
  if maxAgentNameLen < out.length then trimBy goSpace (out.take maxAgentNameLen) else out

def Go.sanitizeAgentName (name : Name) : Name :=
  if trimBy goSpace name = [] then []
  else Go.bounded (trimBy goSpace (collapse ' ' goClass false (trimBy goSpace name)))

/-- `/\s+/g` matches the white space that `trim` strips. -/
def Node.sanitizeAgentName (name : Name) : Name :=
  (trimBy jsSpace (collapse ' ' (classOf jsSpace) false name)).take maxAgentNameLen

/-- `split` leaves out empty words. -/
def Python.sanitizeAgentName (name : Name) : Name :=
  ([' '].intercalate ((name.splitOnP pySpace).filter (!·.isEmpty))).take maxAgentNameLen

/-! ### One scan behind the three -/

def squeezed (name : Name) : Name := squeeze ' ' (classOf commonSpace) .start name

variable {c : Char}

theorem classOf_eq_space {space : Char → Bool} : space c = true ↔ classOf space c = .space := by
  cases h : space c <;> simp [classOf,h]

theorem classOf_ne_drop {space : Char → Bool} (c : Char) : classOf space c ≠ .drop := by
  cases h : space c <;> simp [classOf,h]

theorem goClass_eq_space (c : Char) : goSpace c = true ↔ goClass c = .space := by
  unfold goClass
  split_ifs with replaced space control
  · rw [replaced]
    decide
  · simp [space]
  · simp [space]
  · simp [space]

theorem Node.sanitizeAgentName_eq (name : Name) :
    Node.sanitizeAgentName name = (squeeze ' ' (classOf jsSpace) .start name).take maxAgentNameLen := by
  rw [Node.sanitizeAgentName,trimBy,trim_collapse (fun _ => classOf_eq_space) (by decide)]

theorem Python.sanitizeAgentName_eq (name : Name) :
    Python.sanitizeAgentName name = (squeeze ' ' (classOf pySpace) .start name).take maxAgentNameLen := by
  rw [Python.sanitizeAgentName,intercalate_words (fun _ => classOf_eq_space) classOf_ne_drop]

theorem Go.sanitizeAgentName_eq (name : Name) :
    Go.sanitizeAgentName name = Go.bounded (squeeze ' ' goClass .start name) := by
  have trimmed : squeeze ' ' goClass .start (trimBy goSpace name) = squeeze ' ' goClass .start name := by
    rw [trimBy,squeeze_rdropWhile goClass_eq_space,squeeze_dropWhile goClass_eq_space]
  rw [Go.sanitizeAgentName,← trimmed]
  split_ifs with empty
  · rw [empty]
    rfl
  · rw [← trim_collapse goClass_eq_space (by decide),trimBy]

/-- A character that no SDK drops and that is white space in all of them or in none. -/
def Plain (c : Char) : Prop := isControl c = false ∧ c ≠ runeError ∧ c ≠ '\uFEFF'
deriving Decidable

theorem Plain.spaces (plain : Plain c) :
    goSpace c = commonSpace c ∧ jsSpace c = commonSpace c ∧ pySpace c = commonSpace c := by
  obtain ⟨control,-,mark⟩ := plain
  simp only [isControl,Bool.or_eq_false_iff,Bool.and_eq_false_iff,decide_eq_false_iff_not] at control
  have next : (c.toNat == 0x85) = false := beq_false_of_ne (by omega)
  have separators : (decide (0x1c ≤ c.toNat) && decide (c.toNat ≤ 0x1f)) = false := by
    rw [Bool.and_eq_false_iff,decide_eq_false_iff_not,decide_eq_false_iff_not]
    omega
  have order : (c.toNat == 0xfeff) = false := beq_false_of_ne fun same => mark (Char.toNat_inj.mp same)
  refine ⟨?_,?_,?_⟩
  · rw [goSpace,next,Bool.or_false]
  · rw [jsSpace,order,Bool.or_false]
  · rw [pySpace,next,separators,Bool.or_false,Bool.or_false]

theorem Plain.goClass (plain : Plain c) : goClass c = classOf commonSpace c := by
  rw [DisplayName.goClass,if_neg plain.2.1,plain.spaces.1,plain.1]
  cases h : commonSpace c <;> simp [classOf,h]

variable {name : Name}

theorem keep_of_mem_squeezed (member : c ∈ squeezed name) :
    c = ' ' ∨ classOf commonSpace c = .keep := (keep_of_mem_squeeze member).imp_right And.right

/-- A class that agrees with the common white space on plain characters, and has no less white space. -/
structure Refines (cls : Char → Fate) : Prop where
  spaces : ∀ c, classOf commonSpace c = .space → cls c = .space
  plain : ∀ c, Plain c → cls c = classOf commonSpace c

theorem refines_go : Refines goClass where
  spaces c common := by
    refine (goClass_eq_space c).mp ?_
    rw [goSpace,classOf_eq_space.mpr common,Bool.true_or]
  plain _ plain := plain.goClass

theorem refines_js : Refines (classOf jsSpace) where
  spaces c common := by
    refine classOf_eq_space.mp ?_
    rw [jsSpace,classOf_eq_space.mpr common,Bool.true_or]
  plain c plain := by rw [classOf,plain.spaces.2.1,classOf]

theorem refines_py : Refines (classOf pySpace) where
  spaces c common := by
    refine classOf_eq_space.mp ?_
    rw [pySpace,classOf_eq_space.mpr common,Bool.true_or,Bool.true_or]
  plain c plain := by rw [classOf,plain.spaces.2.2,classOf]

/-- A beginning of the squeezed name, of which every character is plain or kept. -/
theorem Refines.prefix_stream {cls : Char → Fate} (refines : Refines cls) {p : Name} (part : p <+: squeezed name)
    (last : ∀ c ∈ p.getLast?, c ≠ ' ') (kept : ∀ c ∈ p, Plain c ∨ cls c = .keep) : p <+: squeeze ' ' cls .start name := by
  refine prefix_squeeze refines.spaces classOf_ne_drop (by decide) part last ?_
  intro c member
  rcases keep_of_mem_squeezed (part.subset member) with blank | common
  · exact .inl blank
  · rcases kept c member with plain | keep
    · exact .inr ((refines.plain c plain).trans common)
    · exact .inr keep

/-- The beginning of the squeezed name that is sent holds plain characters only and does not end in a blank. -/
structure Fit (name : Name) : Prop where
  plain : ∀ c ∈ (squeezed name).take maxAgentNameLen, Plain c
  cut : maxAgentNameLen < (squeezed name).length → (squeezed name)[maxAgentNameLen - 1]? ≠ some ' '

theorem spaced_squeezed (name : Name) : Spaced commonSpace (squeezed name) :=
  spaced_squeeze (fun _ => classOf_eq_space) name

theorem Fit.last (fit : Fit name) : ∀ c ∈ ((squeezed name).take maxAgentNameLen).getLast?, c ≠ ' ' := by
  intro c found
  by_cases long : maxAgentNameLen < (squeezed name).length
  · have final : ((squeezed name).take maxAgentNameLen).getLast? = (squeezed name)[maxAgentNameLen - 1]? := by
      rw [List.getLast?_eq_getElem?,List.length_take,Nat.min_eq_left (le_of_lt long),List.getElem?_take]
      exact if_pos (by decide)
    rintro rfl
    exact fit.cut long (final ▸ found)
  · rw [List.take_of_length_le (by omega)] at found
    rintro rfl
    exact absurd ((spaced_squeezed name).back ' ' found) (by decide)

theorem Fit.stream (fit : Fit name) {cls : Char → Fate} (refines : Refines cls) :
    (squeeze ' ' cls .start name).take maxAgentNameLen = (squeezed name).take maxAgentNameLen := by
  by_cases long : maxAgentNameLen < (squeezed name).length
  · have part := refines.prefix_stream (List.take_prefix _ _) fit.last fun c member => .inl (fit.plain c member)
    have whole := List.prefix_iff_eq_take.mp part
    rw [List.length_take,Nat.min_eq_left (le_of_lt long)] at whole
    exact whole.symm
  · -- nothing is cut, so that all characters are plain or common white space
    have all : ∀ c ∈ name, cls c = classOf commonSpace c := by
      intro c member
      cases h : classOf commonSpace c with
      | space => exact refines.spaces c h
      | drop => exact absurd h (classOf_ne_drop c)
      | keep =>
        have shown : c ∈ squeezed name := mem_squeeze_of_keep member h
        rw [← h]
        exact refines.plain c (fit.plain c (by rwa [List.take_of_length_le (by omega)]))
    rw [squeeze_congr all,squeezed]

theorem Fit.spaced (fit : Fit name) : squeezed ((squeezed name).take maxAgentNameLen) =
    (squeezed name).take maxAgentNameLen :=
  squeeze_part (by decide) (List.take_prefix _ _) fit.last

theorem Fit.again (fit : Fit name) : Fit ((squeezed name).take maxAgentNameLen) := by
  constructor
  · rw [fit.spaced,List.take_take]
    exact fit.plain
  · intro long
    rw [fit.spaced,List.length_take] at long
    omega

def anySpace (c : Char) : Bool := goSpace c || jsSpace c || pySpace c

theorem Fit.spaced_any (fit : Fit name) : Spaced anySpace ((squeezed name).take maxAgentNameLen) := by
  have common := spaced_squeezed ((squeezed name).take maxAgentNameLen)
  rw [fit.spaced] at common
  have same : ∀ c ∈ (squeezed name).take maxAgentNameLen, anySpace c = commonSpace c := by
    intro c member
    obtain ⟨go,js,py⟩ := (fit.plain c member).spaces
    rw [anySpace,go,js,py,Bool.or_self,Bool.or_self]
  refine ⟨?_,?_,?_⟩
  · intro c found
    rw [same c (List.mem_of_mem_head? found)]
    exact common.front c found
  · intro c found
    rw [same c (List.mem_of_mem_getLast? found)]
    exact common.back c found
  · refine List.IsChain.imp_of_mem_imp ?_ common.apart
    intro a b memberA memberB apart
    rwa [same a memberA,same b memberB]

theorem Fit.go (fit : Fit name) : Go.sanitizeAgentName name = (squeezed name).take maxAgentNameLen := by
  have stream := fit.stream refines_go
  have spaced : Spaced goSpace ((squeezed name).take maxAgentNameLen) := fit.spaced_any.mono fun c space => by
    rw [anySpace,space,Bool.true_or,Bool.true_or]
  have trimmed : trimBy goSpace ((squeezed name).take maxAgentNameLen) = (squeezed name).take maxAgentNameLen :=
    spaced.trimmed
  rw [Go.sanitizeAgentName_eq,Go.bounded,stream,trimmed]
  split_ifs with long
  · rfl
  · rw [← stream,List.take_of_length_le (by omega)]

/-- The name that all SDKs send, in normal form. -/
structure Agreed (name sent : Name) : Prop where
  go : Go.sanitizeAgentName name = sent
  node : Node.sanitizeAgentName name = sent
  python : Python.sanitizeAgentName name = sent
  short : sent.length ≤ maxAgentNameLen
  noControl : ∀ c ∈ sent, isControl c = false
  spaced : Spaced anySpace sent
  goAgain : Go.sanitizeAgentName sent = sent
  nodeAgain : Node.sanitizeAgentName sent = sent
  pythonAgain : Python.sanitizeAgentName sent = sent

theorem Fit.agreed (fit : Fit name) : Agreed name ((squeezed name).take maxAgentNameLen) where
  go := fit.go
  node := by rw [Node.sanitizeAgentName_eq,fit.stream refines_js]
  python := by rw [Python.sanitizeAgentName_eq,fit.stream refines_py]
  short := List.length_take_le ..
  noControl c member := (fit.plain c member).1
  spaced := fit.spaced_any
  goAgain := by rw [fit.again.go,fit.spaced,List.take_take,Nat.min_self]
  nodeAgain := by rw [Node.sanitizeAgentName_eq,fit.again.stream refines_js,fit.spaced,List.take_take,Nat.min_self]
  pythonAgain := by rw [Python.sanitizeAgentName_eq,fit.again.stream refines_py,fit.spaced,List.take_take,Nat.min_self]

section
variable {name sent : Name} (agreed : Agreed name sent)
include agreed

/-- Go drops replacement characters, and Node takes the byte order mark for white space. -/
theorem Agreed.plain (member : c ∈ sent) : Plain c := by
  refine ⟨agreed.noControl c member,?_,?_⟩
  · rintro rfl
    have inside : runeError ∈ squeeze ' ' goClass .start name := by
      rw [← agreed.go,Go.sanitizeAgentName_eq,Go.bounded] at member
      split_ifs at member
      · exact List.mem_of_mem_take ((List.dropWhile_suffix _).subset ((List.rdropWhile_prefix _ _).subset member))
      · exact member
    rcases keep_of_mem_squeeze inside with blank | ⟨-,kept⟩
    · exact absurd blank (by decide)
    · exact absurd kept (by decide)
  · rintro rfl
    rw [← agreed.node,Node.sanitizeAgentName_eq] at member
    rcases keep_of_mem_squeeze (List.mem_of_mem_take member) with blank | ⟨-,kept⟩
    · exact absurd blank (by decide)
    · exact absurd kept (by decide)

theorem Agreed.prefix_sent {p : Name} (part : p ++ [c] <+: squeezed name) (plain : ∀ d ∈ p, Plain d)
    (last : c ≠ ' ') : (p ++ [c]).take maxAgentNameLen <+: sent := by
  have common : classOf commonSpace c = .keep := (keep_of_mem_squeezed (part.subset (by simp))).resolve_left last
  have ends : ∀ d ∈ (p ++ [c]).getLast?, d ≠ ' ' := by simpa using last
  have notCommon : commonSpace c = false := by
    rw [Bool.eq_false_iff,Ne,classOf_eq_space,common]
    decide
  have cases : classOf jsSpace c = .keep ∨ classOf pySpace c = .keep := by
    by_cases mark : c = '\uFEFF'
    · rw [mark]
      decide
    · have order : (c.toNat == 0xfeff) = false := beq_false_of_ne fun same => mark (Char.toNat_inj.mp same)
      simp [classOf,jsSpace,notCommon,order]
  have kept : ∀ {cls : Char → Fate}, cls c = .keep → ∀ d ∈ p ++ [c], Plain d ∨ cls d = .keep := by
    intro cls keep d member
    rcases List.mem_append.mp member with early | late
    · exact .inl (plain d early)
    · obtain rfl := List.mem_singleton.mp late
      exact .inr keep
  have cut : ∀ {stream : Name}, p ++ [c] <+: stream → (p ++ [c]).take maxAgentNameLen <+: stream.take maxAgentNameLen := by
    intro stream whole
    exact List.prefix_take_iff.mpr ⟨(List.take_prefix _ _).trans whole,List.length_take_le ..⟩
  rcases cases with js | py
  · rw [← agreed.node,Node.sanitizeAgentName_eq]
    exact cut (refines_js.prefix_stream part ends (kept js))
  · rw [← agreed.python,Python.sanitizeAgentName_eq]
    exact cut (refines_py.prefix_stream part ends (kept py))

theorem Agreed.fit : Fit name := by
  have plain : ∀ c ∈ (squeezed name).take maxAgentNameLen, Plain c := by
    intro c member
    by_contra bad
    -- the first character that is not plain would be sent
    obtain ⟨front,d,part,good,notPlain⟩ := exists_first member bad
    have sentPart := agreed.prefix_sent (part.trans (List.take_prefix _ _)) good (by
      rintro rfl
      exact notPlain (by decide))
    rw [List.take_of_length_le (part.length_le.trans (List.length_take_le ..))] at sentPart
    exact notPlain (agreed.plain (sentPart.subset (by simp)))
  refine ⟨plain,?_⟩
  intro long blank
  obtain ⟨next,found⟩ : ∃ next, (squeezed name)[maxAgentNameLen]? = some next := ⟨_,List.getElem?_eq_getElem long⟩
  have whole : (squeezed name).take maxAgentNameLen ++ [next] <+: squeezed name := by
    have := List.take_prefix (maxAgentNameLen + 1) (squeezed name)
    rwa [List.take_add_one,found] at this
  have apart : next ≠ ' ' := by
    rintro rfl
    obtain ⟨inside,before⟩ := List.getElem?_eq_some_iff.mp blank
    obtain ⟨_,after⟩ := List.getElem?_eq_some_iff.mp found
    refine List.isChain_iff_getElem.mp (spaced_squeezed name).apart (maxAgentNameLen - 1) long ⟨?_,?_⟩
    · rw [before]
      decide
    · exact after ▸ by decide
  have sentPart := agreed.prefix_sent whole plain apart
  rw [List.take_append_of_le_length (by rw [List.length_take]; omega),List.take_take,Nat.min_self] at sentPart
  have same : (squeezed name).take maxAgentNameLen = sent :=
    sentPart.eq_of_length_le (by rw [List.length_take,Nat.min_eq_left (le_of_lt long)]; exact agreed.short)
  have final : sent.getLast? = some ' ' := by
    rw [← same,List.getLast?_eq_getElem?,List.length_take,Nat.min_eq_left (le_of_lt long),List.getElem?_take]
    exact (if_pos (by decide)).trans blank
  exact absurd (agreed.spaced.back ' ' final) (by decide)

end

/-- The three SDKs agree on a name and send it in normal form exactly when it fits. -/
theorem display_names_agree_iff (name : Name) : (∃ sent, Agreed name sent) ↔ Fit name :=
  ⟨fun ⟨_,agreed⟩ => agreed.fit,fun fit => ⟨_,fit.agreed⟩⟩

/-- A name with a control character in it. -/
theorem control_divides : Go.sanitizeAgentName ['a','\x00','b'] = ['a','b'] ∧
    Node.sanitizeAgentName ['a','\x00','b'] = ['a','\x00','b'] ∧
    Python.sanitizeAgentName ['a','\x00','b'] = ['a','\x00','b'] := by decide

end Cap.DisplayName
