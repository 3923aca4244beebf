import Cap.Lines
import Cap.ReleaseOrder

/-!
The generated blocks of the documents (`internal/releasetruth/blocks.go`). Texts are bytes, as
Go's strings are.
-/
namespace Cap.Release
open Cap.Text Cap.Lines RegularExpression

def tableLine (cells : List Bytes) : Bytes := utf8 "| " ++ (utf8 " | ").intercalate cells ++ utf8 " |"

def mdTable (header : List Bytes) (rows : List (List Bytes)) : Bytes :=
  tableLine header ++ [lf] ++ tableLine (header.map fun _ => utf8 "---") ++ rows.flatMap fun row => lf :: tableLine row

def dash (s : String) : Bytes := if blank goSpace s then utf8 "-" else utf8 s

def specRows (m : Manifest) : List (List Bytes) :=
  m.specs.map fun s => [utf8 s.id,utf8 "[" ++ utf8 s.title ++ utf8 "](" ++ utf8 s.file ++ utf8 ")"]

def sdkRows (m : Manifest) : List (List Bytes) :=
  m.components.map fun c => [utf8 c.name,utf8 c.language,utf8 c.kind,utf8 c.tier,dash c.registry,dash c.package,
    dash c.version,dash c.toolchain]

def transportRows (m : Manifest) : List (List Bytes) :=
  m.transports.map fun t => [utf8 t.name,utf8 t.state,dash t.limitations]

def securityRows (m : Manifest) : List (List Bytes) :=
  m.security.supportedLines.map fun line => [utf8 line,utf8 ":white_check_mark:"]

def renderSpecTOC (m : Manifest) : Bytes := mdTable [utf8 "#",utf8 "Document"] (specRows m)

def renderSDKTable (m : Manifest) : Bytes :=
  mdTable (["Component","Language","Kind","Tier","Registry","Package","Version","Toolchain"].map utf8) (sdkRows m)

def renderTransportTable (m : Manifest) : Bytes := mdTable (["Transport","Status","Notes"].map utf8) (transportRows m)

def renderSecurityLines (m : Manifest) : Bytes := mdTable (["Version","Supported"].map utf8) (securityRows m)

def decimal (n : Int) : Bytes := utf8 (toString n)

def candidateLine (ending : String) (c : Prepared) : Bytes :=
  utf8 "- **Release candidate (not published):** " ++ utf8 c.version ++ utf8 " (tag `" ++ utf8 c.tag ++
    utf8 "`, channel " ++ utf8 c.channel ++ utf8 ending

def renderSnapshotStatus (s : Prepared) : Bytes :=
  utf8 "- **Prepared release snapshot:** " ++ utf8 s.version ++ utf8 " (tag `" ++ utf8 s.tag ++ utf8 "`, channel " ++
    utf8 s.channel ++ utf8 "); publication status is not asserted by this source state."

def statusLines (m : Manifest) : List Bytes :=
  [utf8 "- **Current verified published release:** " ++ utf8 m.release.version ++ utf8 " (tag `" ++ utf8 m.release.tag ++
      utf8 "`, " ++ utf8 m.release.date ++ utf8 ", channel " ++ utf8 m.release.channel ++ utf8 ")",
    utf8 "- **Wire protocol:** " ++ decimal m.wire.protocolVersion ++ utf8 " (compatible range " ++
      decimal m.wire.compatMin ++ utf8 "–" ++ decimal m.wire.compatMax ++ utf8 ")",
    utf8 "- **Wire schema:** " ++ utf8 m.wire.schemaVersion,
    utf8 "- **Specifications:** " ++ decimal m.specs.length ++ utf8 " normative documents"] ++
    m.candidate.toList.map (candidateLine ")") ++ m.snapshot.toList.map renderSnapshotStatus

def renderReleaseStatus (m : Manifest) : Bytes := joinLines (statusLines m)

def policyLines (m : Manifest) : List Bytes :=
  [utf8 "- **Wire protocol version:** " ++ decimal m.wire.protocolVersion ++
      utf8 ". Wire evolution is append-only within the compatible range " ++ decimal m.wire.compatMin ++ utf8 "–" ++
      decimal m.wire.compatMax ++ utf8 ".",
    utf8 "- **Current published release:** " ++ utf8 m.release.version ++ utf8 " (tag `" ++ utf8 m.release.tag ++
      utf8 "`). SDK and repository releases track implementation and are pinned by tag.",
    utf8 ("- **Source versus release:** development source may carry an in-progress version distinct from the latest " ++
      "published artifact; the release manifest is the authority on what is published.")] ++
    m.candidate.toList.map (candidateLine ").") ++ m.snapshot.toList.map renderSnapshotStatus

def renderVersionPolicy (m : Manifest) : Bytes := joinLines (policyLines m)

/-- The errors of `FindBlocks`, `Render` and `RenderBlock`, with line numbers from 1. -/
inductive RenderError where
  | nested (line : Nat) (current : Bytes)
  | emptyId (line : Nat)
  | duplicate (id : Bytes) (line : Nat)
  | unopened (line : Nat)
  | unclosed (id : Bytes) (line : Nat)
  | unknown (id : Bytes)
deriving DecidableEq

def renderBlock (m : Manifest) (id : Bytes) : Except RenderError Bytes :=
  if id = utf8 "spec-count" then .ok (decimal m.specs.length)
  else if id = utf8 "spec-toc" then .ok (renderSpecTOC m)
  else if id = utf8 "release-status" then .ok (renderReleaseStatus m)
  else if id = utf8 "sdk-table" then .ok (renderSDKTable m)
  else if id = utf8 "transport-table" then .ok (renderTransportTable m)
  else if id = utf8 "version-policy" then .ok (renderVersionPolicy m)
  else if id = utf8 "security-lines" then .ok (renderSecurityLines m)
  else .error (.unknown id)

/-- The rows of manifest strings that the block shows. -/
def shownRows (m : Manifest) (id : Bytes) : List (List Bytes) :=
  if id = utf8 "spec-toc" then specRows m
  else if id = utf8 "sdk-table" then sdkRows m
  else if id = utf8 "transport-table" then transportRows m
  else if id = utf8 "security-lines" then securityRows m
  else []

/-! ### Values without line ends -/

/-- The characters that a pattern can match. -/
def alphabet : RegularExpression Char → List Char
  | .zero => []
  | .epsilon => []
  | .char c => [c]
  | .plus p q => alphabet p ++ alphabet q
  | .comp p q => alphabet p ++ alphabet q
  | .star p => alphabet p

theorem mem_alphabet {re : RegularExpression Char} {cs : List Char} (matched : re.rmatch cs = true) :
    ∀ c ∈ cs, c ∈ alphabet re := by
  induction re generalizing cs with
  | zero => simp at matched
  | epsilon =>
    obtain rfl := (one_rmatch_iff cs).mp matched
    simp
  | char a =>
    obtain rfl := (char_rmatch_iff a cs).mp matched
    simp [alphabet]
  | plus p q ihp ihq =>
    intro c member
    rcases (add_rmatch_iff p q cs).mp matched with first | second
    · exact List.mem_append_left _ (ihp first c member)
    · exact List.mem_append_right _ (ihq second c member)
  | comp p q ihp ihq =>
    obtain ⟨t,u,rfl,first,second⟩ := (mul_rmatch_iff p q cs).mp matched
    intro c member
    rcases List.mem_append.mp member with left | right
    · exact List.mem_append_left _ (ihp first c left)
    · exact List.mem_append_right _ (ihq second c right)
  | star p ih =>
    obtain ⟨parts,rfl,each⟩ := (star_rmatch_iff p cs).mp matched
    intro c member
    obtain ⟨part,among,inside⟩ := List.mem_flatten.mp member
    exact ih (each part among).2 c inside

/-- Text that stays on its line. -/
def Inline (s : Bytes) : Prop := lf ∉ s ∧ cr ∉ s
deriving Decidable

@[simp] theorem inline_append {a b : Bytes} : Inline (a ++ b) ↔ Inline a ∧ Inline b := by
  simp only [Inline,List.mem_append]
  tauto

variable {s : String}

theorem inline_utf8 (none : ∀ c ∈ s.toList, c ≠ '\n' ∧ c ≠ '\r') : Inline (utf8 s) := by
  constructor
  · intro member
    obtain ⟨c,among,number⟩ := mem_of_utf8 member (by decide)
    exact (none c among).1 (Char.toNat_inj.mp number)
  · intro member
    obtain ⟨c,among,number⟩ := mem_of_utf8 member (by decide)
    exact (none c among).2 (Char.toNat_inj.mp number)

theorem inline_of_match {re : RegularExpression Char} (matched : isMatch re s = true)
    (none : '\n' ∉ alphabet re ∧ '\r' ∉ alphabet re) : Inline (utf8 s) := by
  refine inline_utf8 fun c member => ?_
  have among := mem_alphabet matched c member
  exact ⟨ne_of_mem_of_not_mem among none.1,ne_of_mem_of_not_mem among none.2⟩

theorem inline_version (canonical : isMatch reSemver s = true) : Inline (utf8 s) :=
  inline_of_match canonical (by decide)

theorem digit_of_mem {n : Nat} {c : Char} (member : c ∈ (toString n).toList) : 48 ≤ c.toNat ∧ c.toNat ≤ 57 := by
  have isDigit : c.isDigit = true :=
    Nat.isDigit_of_mem_toDigits (b := 10) (n := n) (by decide) (by decide) (by simpa using member)
  simp only [Char.isDigit,Bool.and_eq_true,decide_eq_true_eq] at isDigit
  exact isDigit

theorem inline_nat (n : Nat) : Inline (utf8 (toString n)) := by
  refine inline_utf8 fun c member => ?_
  have bounds := digit_of_mem member
  constructor
  · rintro rfl
    exact absurd bounds (by decide)
  · rintro rfl
    exact absurd bounds (by decide)

theorem inline_decimal (n : Int) : Inline (decimal n) := by
  cases n with
  | ofNat n => exact inline_nat n
  | negSucc n =>
    have signed : decimal (Int.negSucc n) = utf8 "-" ++ utf8 (toString (n + 1)) := utf8_append "-" (toString (n + 1))
    rw [signed,inline_append]
    exact ⟨by decide,inline_nat _⟩

/-- A line that nothing breaks and that starts with a visible character other than `<`. -/
structure Steady (line : Bytes) : Prop where
  inline : Inline line
  start : ∃ b ∈ line.head?, 33 ≤ b ∧ b < 128 ∧ b ≠ 60

instance (s : Bytes) : Decidable (Steady s) :=
  decidable_of_iff (Inline s ∧ ∃ b ∈ s.head?, 33 ≤ b ∧ b < 128 ∧ b ≠ 60) ⟨fun h => ⟨h.1,h.2⟩,fun h => ⟨h.1,h.2⟩⟩

theorem steady_append {a b : Bytes} (first : Steady a) (rest : Inline b) : Steady (a ++ b) := by
  refine ⟨inline_append.mpr ⟨first.inline,rest⟩,?_⟩
  obtain ⟨byte,head,bounds⟩ := first.start
  exact ⟨byte,by rw [List.head?_append,head]; rfl,bounds⟩

theorem steady_count (n : Nat) : Steady (decimal n) := by
  refine ⟨inline_decimal n,?_⟩
  have digits : ∀ c ∈ (toString n).toList, 48 ≤ c.toNat ∧ c.toNat ≤ 57 := fun c => digit_of_mem
  have bytes : (decimal n).map UInt8.toNat = (toString n).toList.map Char.toNat := by
    refine utf8_ascii fun c member => ?_
    have := digits c member
    omega
  have nonempty : (toString n).toList ≠ [] := by simp
  obtain ⟨c,cs,chars⟩ := List.exists_cons_of_ne_nil nonempty
  have bounds := digits c (by rw [chars]; exact List.mem_cons_self)
  rw [chars] at bytes
  cases shape : decimal n with
  | nil => simp [shape] at bytes
  | cons b rest =>
    rw [shape] at bytes
    have number : b.toNat = c.toNat := (List.cons.inj bytes).1
    refine ⟨b,rfl,?_,?_,?_⟩
    · rw [UInt8.le_iff_toNat_le,number]
      exact le_trans (by decide) bounds.1
    · rw [UInt8.lt_iff_toNat_lt,number]
      exact lt_of_le_of_lt bounds.2 (by decide)
    · rintro rfl
      have : c.toNat = 60 := number.symm
      omega

structure InlineRelease (version tag channel : String) : Prop where
  version : Inline (utf8 version)
  tag : Inline (utf8 tag)
  channel : Inline (utf8 channel)

theorem inlineRelease {version tag channel : String} (canonical : isMatch reSemver version = true)
    (tagged : tag = "v" ++ version) (stable : channel = "stable") : InlineRelease version tag channel := by
  have inline := inline_version canonical
  refine ⟨inline,?_,?_⟩
  · rw [tagged,utf8_append,inline_append]
    exact ⟨by decide,inline⟩
  · rw [stable]
    decide

variable {m : Manifest} {c : Prepared}

theorem inlineRelease_prepared (valid : validate m = []) (member : c ∈ m.prepared) :
    InlineRelease c.version c.tag c.channel := by
  obtain ⟨field,accepted⟩ := validate_prepared valid c member
  have canonical := ((validate_newer valid).2 c member).1
  simp only [checkFutureCoordinate,List.append_eq_nil_iff,demand_eq_nil,beq_iff_eq] at accepted
  exact inlineRelease canonical accepted.1.2 accepted.2

theorem validate_inline (valid : validate m = []) :
    InlineRelease m.release.version m.release.tag m.release.channel ∧ Inline (utf8 m.release.date) ∧
      Inline (utf8 m.wire.schemaVersion) := by
  simp only [validate,List.append_eq_nil_iff] at valid
  obtain ⟨⟨⟨⟨⟨⟨⟨⟨⟨⟨⟨⟨-,release⟩,-⟩,-⟩,-⟩,wire⟩,-⟩,-⟩,-⟩,-⟩,-⟩,-⟩,-⟩ := valid
  simp only [checkRelease,List.append_eq_nil_iff,demand_eq_nil,beq_iff_eq] at release
  simp only [checkWire,List.append_eq_nil_iff,demand_eq_nil] at wire
  obtain ⟨⟨⟨⟨canonical,tag⟩,date⟩,-⟩,channel⟩ := release
  exact ⟨inlineRelease canonical tag channel,inline_of_match date (by decide),inline_version wire.1.2⟩

theorem mdTable_eq (header : List Bytes) (rows : List (List Bytes)) : mdTable header rows =
    joinLines ([tableLine header,tableLine (header.map fun _ => utf8 "---")] ++ rows.map tableLine) := by
  have more : ∀ (start : Bytes) (parts : List Bytes), joinLines (start :: parts) = start ++ parts.flatMap (lf :: ·) := by
    intro start parts
    induction parts generalizing start with
    | nil => simp [joinLines]
    | cons part parts ih =>
      rw [joinLines_cons (List.cons_ne_nil _ _),ih]
      rfl
  simp [more,List.flatMap_map,mdTable]

theorem steady_candidate (inline : InlineRelease c.version c.tag c.channel) {ending : String}
    (closing : Inline (utf8 ending)) : Steady (candidateLine ending c) := by
  simp only [candidateLine,List.append_assoc]
  refine steady_append (by decide) ?_
  simp only [inline_append,inline.version,inline.tag,inline.channel,closing]
  decide

theorem steady_snapshot (inline : InlineRelease c.version c.tag c.channel) :
    Steady (renderSnapshotStatus c) := by
  simp only [renderSnapshotStatus,List.append_assoc]
  refine steady_append (by decide) ?_
  simp only [inline_append,inline.version,inline.tag,inline.channel]
  decide

theorem steady_prepared (valid : validate m = []) {ending : String} (closing : Inline (utf8 ending)) :
    ∀ line ∈ m.candidate.toList.map (candidateLine ending) ++ m.snapshot.toList.map renderSnapshotStatus, Steady line := by
  intro line member
  rcases List.mem_append.mp member with candidate | snapshot
  · obtain ⟨c,among,rfl⟩ := List.mem_map.mp candidate
    exact steady_candidate (inlineRelease_prepared valid (List.mem_append_left _ among)) closing
  · obtain ⟨s,among,rfl⟩ := List.mem_map.mp snapshot
    exact steady_snapshot (inlineRelease_prepared valid (List.mem_append_right _ among))

theorem steady_statusLines (valid : validate m = []) : ∀ line ∈ statusLines m, Steady line := by
  obtain ⟨release,date,schema⟩ := validate_inline valid
  intro line member
  rw [statusLines,List.append_assoc] at member
  rcases List.mem_append.mp member with fixed | prepared
  · simp only [List.mem_cons,List.not_mem_nil,or_false,List.append_assoc] at fixed
    rcases fixed with rfl | rfl | rfl | rfl
    all_goals
      refine steady_append (by decide) ?_
      simp only [inline_append,release.version,release.tag,release.channel,date,schema,inline_decimal]
      try decide
  · exact steady_prepared valid (by decide) line prepared

theorem steady_policyLines (valid : validate m = []) : ∀ line ∈ policyLines m, Steady line := by
  obtain ⟨release,-,-⟩ := validate_inline valid
  intro line member
  rw [policyLines,List.append_assoc] at member
  rcases List.mem_append.mp member with fixed | prepared
  · simp only [List.mem_cons,List.not_mem_nil,or_false,List.append_assoc] at fixed
    rcases fixed with rfl | rfl | rfl
    · refine steady_append (by decide) ?_
      simp only [inline_append,inline_decimal]
      decide
    · refine steady_append (by decide) ?_
      simp only [inline_append,release.version,release.tag]
      decide
    · decide
  · exact steady_prepared valid (by decide) line prepared

/-- A block is made of steady lines and of the rows that it shows. -/
theorem renderBlock_parts {id text : Bytes} (valid : validate m = []) (rendered : renderBlock m id = .ok text) :
    ∃ fixed, fixed ≠ [] ∧ (∀ line ∈ fixed, Steady line) ∧ text = joinLines (fixed ++ (shownRows m id).map tableLine) := by
  unfold renderBlock at rendered
  split_ifs at rendered with count toc status sdk transport policy security
  all_goals
    obtain rfl := Except.ok.inj rendered
    subst id
  · refine ⟨[decimal m.specs.length],List.cons_ne_nil _ _,?_,?_⟩
    · intro line member
      obtain rfl := List.mem_singleton.mp member
      exact steady_count _
    · have none : shownRows m (utf8 "spec-count") = [] := rfl
      rw [none]
      simp [joinLines]
  · refine ⟨[_,_],List.cons_ne_nil _ _,?_,mdTable_eq _ _⟩
    decide
  · have none : shownRows m (utf8 "release-status") = [] := rfl
    exact ⟨statusLines m,by simp [statusLines],steady_statusLines valid,by simp [none,renderReleaseStatus]⟩
  · refine ⟨[_,_],List.cons_ne_nil _ _,?_,mdTable_eq _ _⟩
    decide
  · refine ⟨[_,_],List.cons_ne_nil _ _,?_,mdTable_eq _ _⟩
    decide
  · have none : shownRows m (utf8 "version-policy") = [] := rfl
    exact ⟨policyLines m,by simp [policyLines],steady_policyLines valid,by simp [none,renderVersionPolicy]⟩
  · refine ⟨[_,_],List.cons_ne_nil _ _,?_,mdTable_eq _ _⟩
    decide

end Cap.Release
