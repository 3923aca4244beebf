import Cap.ReleaseRender

/-!
Rendering twice. A second rendering changes nothing exactly when no generated line is a marker and
none holds a carriage return; only strings in the tables can break out of their rows.
-/
namespace Cap.Release
open Cap.Text Cap.Lines Cap.Checks Cap.Regions

variable {content id line : Bytes} {m : Manifest} {doc : List (Segment Bytes Bytes)} {cells : List Bytes}

theorem lf_not_mem_generated (member : line ∈ generated m id) : lf ∉ line := by
  unfold generated at member
  split at member
  · split_ifs at member
    · simp at member
    · exact lf_not_mem member
  · simp at member

theorem splitLines_rendered
    (lines : splitLines (normalizeNewlines content) = flatten doc) :
    splitLines (joinLines (flatten (refillAll (generated m) doc))) = flatten (refillAll (generated m) doc) := by
  refine splitLines_joinLines ?_ ?_
  · intro line member
    rcases mem_refillAll member with old | ⟨id,-,new⟩
    · exact lf_not_mem (lines ▸ old)
    · exact lf_not_mem_generated new
  · have nonempty : flatten doc ≠ [] := lines ▸ splitLines_ne_nil _
    simpa using nonempty

/-- What the generated lines must not do. -/
structure Calm (m : Manifest) (id : Bytes) : Prop where
  plain : ∀ line ∈ generated m id, lineKind line = .plain
  clean : ∀ line ∈ generated m id, cr ∉ line

/-- Carriage returns in the rendered document come from the generated lines. -/
theorem cr_not_mem_rendered
    (lines : splitLines (normalizeNewlines content) = flatten doc) :
    cr ∉ joinLines (flatten (refillAll (generated m) doc)) ↔ ∀ id ∈ ids doc, ∀ line ∈ generated m id, cr ∉ line := by
  rw [mem_joinLines (by decide)]
  constructor
  · intro none id named line member inside
    exact none ⟨line,mem_refillAll_of_fill named member,inside⟩
  · rintro clean ⟨line,member,inside⟩
    rcases mem_refillAll member with old | ⟨id,named,new⟩
    · exact cr_not_mem_normalizeNewlines content ((mem_iff_line (by decide)).mpr ⟨line,lines ▸ old,inside⟩)
    · exact clean id named line new inside

theorem stable_iff (document : Document doc)
    (lines : splitLines (normalizeNewlines content) = flatten doc)
    (known : ∀ id ∈ ids doc, ∃ text, renderBlock m id = .ok text) {out : Bytes}
    (rendered : out = joinLines (flatten (refillAll (generated m) doc))) :
    (render m out = .ok out ∧ checkDrift m out = .ok (out,false)) ↔ ∀ id ∈ ids doc, Calm m id := by
  have split : splitLines out = flatten (refillAll (generated m) doc) := rendered ▸ splitLines_rendered lines
  have clean : cr ∉ out ↔ ∀ id ∈ ids doc, ∀ line ∈ generated m id, cr ∉ line := rendered ▸ cr_not_mem_rendered lines
  constructor
  · rintro ⟨again,drift⟩
    have noDrift : out = normalizeNewlines out := by
      simpa [checkDrift,again] using drift
    have noCr : cr ∉ out := by
      rw [noDrift]
      exact cr_not_mem_normalizeNewlines out
    obtain ⟨doc',document',lines',-,same⟩ := render_eq_ok.mp again
    rw [← noDrift] at lines'
    -- the second rendering leaves the lines of its own document as they are
    have unchanged : flatten (refillAll (generated m) doc') = flatten doc' := by
      rw [← splitLines_rendered (lines'.symm ▸ congrArg splitLines noDrift.symm),← same,lines']
    have plain := plain_of_refillAll_eq document'.marked.sound unchanged
    intro id named
    refine ⟨?_,clean.mp noCr id named⟩
    obtain ⟨first,member,opens⟩ := opening_mem_refillAll document.marked.sound named
    rw [← split,lines'] at member
    exact plain id ((mem_ids_iff document'.marked.sound).mpr ⟨first,member,opens⟩)
  · intro calm
    have noCr : cr ∉ out := clean.mpr fun id named => (calm id named).clean
    have normal := normalizeNewlines_eq_self noCr
    have again : render m out = .ok out := by
      refine render_eq_ok.mpr ⟨refillAll (generated m) doc,⟨?_,?_⟩,?_,?_,?_⟩
      · exact document.marked.refillAll fun id named => (calm id named).plain
      · simpa using document.named
      · rw [normal,split]
      · simpa using known
      · rw [refillAll_refillAll,rendered]
    simp [checkDrift,again,normal]

theorem stripFront_suffix (units : List Bytes) (rounds : Nat) (s : Bytes) : stripFront units rounds s <:+ s := by
  induction rounds generalizing s with
  | zero => exact List.suffix_refl s
  | succ rounds ih =>
    rw [stripFront]
    split
    · exact List.suffix_refl s
    · exact (ih _).trans (List.drop_suffix _ _)

theorem stripFront_spaces {b : UInt8} (visible : 33 ≤ b ∧ b < 128) (rounds : Nat) (rest : Bytes) :
    stripFront spaces rounds (b :: rest) = b :: rest := by
  cases rounds with
  | zero => rfl
  | succ rounds =>
    have none : spaces.find? (·.isPrefixOf (b :: rest)) = none := by
      have starts : ∀ unit ∈ spaces, ∃ c ∈ unit.head?, c < 33 ∨ 128 ≤ c := by decide
      rw [List.find?_eq_none]
      intro unit member isStart
      obtain ⟨c,head,outside⟩ := starts unit member
      obtain ⟨more,rfl⟩ : ∃ more, unit = c :: more := by
        cases unit with
        | nil => cases head
        | cons d more => exact ⟨more,by rw [Option.some.inj head]⟩
      have same : c = b := by
        simp only [List.isPrefixOf,Bool.and_eq_true,beq_iff_eq] at isStart
        exact isStart.1
      subst same
      rcases outside with low | high
      · exact absurd visible.1 (by simpa using low)
      · exact absurd visible.2 (by simpa using high)
    rw [stripFront,none]

theorem lineKind_plain (start : ∃ b ∈ line.head?, 33 ≤ b ∧ b < 128 ∧ b ≠ 60) : lineKind line = .plain := by
  obtain ⟨b,head,low,high,other⟩ := start
  obtain ⟨rest,rfl⟩ : ∃ rest, line = b :: rest := by
    cases line with
    | nil => cases head
    | cons c rest => exact ⟨rest,by rw [Option.some.inj head]⟩
  have within : trimSpace (b :: rest) <+: b :: rest := by
    rw [trimSpace,stripFront_spaces ⟨low,high⟩,← List.reverse_suffix,List.reverse_reverse]
    exact stripFront_suffix _ _ _
  have apart : ∀ marker : Bytes, marker.head? = some 60 → ¬ marker <+: trimSpace (b :: rest) := by
    intro marker head marked
    obtain ⟨more,same⟩ := marked.trans within
    cases marker with
    | nil => cases head
    | cons c marker =>
      obtain rfl := Option.some.inj head
      exact other (List.cons.inj same).1.symm
  have noBegin : parseBeginID (trimSpace (b :: rest)) = none := by
    rw [parseBeginID,if_neg]
    intro both
    rw [Bool.and_eq_true,List.isPrefixOf_iff_prefix] at both
    exact apart blockBeginPrefix (by decide) both.1
  have noEnd : trimSpace (b :: rest) ≠ blockEndMarker := by
    intro same
    exact apart blockEndMarker (by decide) (same ▸ List.prefix_refl _)
  rw [lineKind,noBegin,if_neg noEnd]

/-- The strings of the row bring no carriage return, and no line break in them is followed by a marker. -/
structure Contained (cells : List Bytes) : Prop where
  clean : ∀ cell ∈ cells, cr ∉ cell
  plain : ∀ line ∈ (splitLines (tableLine cells)).tail, lineKind line = .plain

theorem mem_tableLine {b : UInt8} (other : b ∉ utf8 " | ") :
    b ∈ tableLine cells ↔ ∃ cell ∈ cells, b ∈ cell := by
  have between : b ∈ (utf8 " | ").intercalate cells ↔ ∃ cell ∈ cells, b ∈ cell := by
    induction cells with
    | nil => simp
    | cons cell rest ih =>
      by_cases last : rest = []
      · subst last
        simp
      · rw [List.intercalate_cons_of_ne_nil last,List.mem_append,ih]
        simp [other]
  have left : b ∉ utf8 "| " := fun member => other (List.mem_cons_of_mem _ member)
  have right : b ∉ utf8 " |" := fun member => other (List.mem_append_left (utf8 " ") member)
  rw [tableLine,List.mem_append,List.mem_append,between]
  simp [left,right]

theorem contained_iff : Contained cells ↔
    ∀ line ∈ splitLines (tableLine cells), lineKind line = .plain ∧ cr ∉ line := by
  obtain ⟨rest,row⟩ : ∃ rest, tableLine cells = 124 :: rest := ⟨_,rfl⟩
  obtain ⟨first,later,lines⟩ : ∃ first later, splitLines (tableLine cells) = (124 :: first) :: later := by
    obtain ⟨first,later,lines⟩ := List.exists_cons_of_ne_nil (splitLines_ne_nil rest)
    exact ⟨first,later,by rw [row,splitLines_cons,lines]; rfl⟩
  have start : lineKind (124 :: first) = .plain := lineKind_plain ⟨124,rfl,by decide⟩
  have clean : (∀ cell ∈ cells, cr ∉ cell) ↔ ∀ line ∈ splitLines (tableLine cells), cr ∉ line := by
    have := mem_iff_line (b := cr) (s := tableLine cells) (by decide)
    rw [mem_tableLine (by decide)] at this
    simpa using not_congr this
  constructor
  · intro contained line member
    refine ⟨?_,clean.mp contained.clean line member⟩
    rw [lines] at member
    rcases List.mem_cons.mp member with rfl | among
    · exact start
    · exact contained.plain line (by rw [lines]; exact among)
  · intro each
    exact ⟨clean.mpr fun line member => (each line member).2,fun line member => (each line (List.mem_of_mem_tail member)).1⟩

instance (cells : List Bytes) : Decidable (Contained cells) :=
  decidable_of_iff ((∀ cell ∈ cells, cr ∉ cell) ∧ ∀ line ∈ (splitLines (tableLine cells)).tail, lineKind line = .plain)
    ⟨fun both => ⟨both.1,both.2⟩,fun contained => ⟨contained.clean,contained.plain⟩⟩

theorem splitLines_steady (steady : Steady line) : splitLines line = [line] :=
  List.splitOn_eq_singleton steady.inline.1

theorem mem_generated {text : Bytes} (valid : validate m = []) (rendered : renderBlock m id = .ok text) :
    ∃ fixed : List Bytes, (∀ line ∈ fixed, Steady line) ∧
      ∀ line, line ∈ generated m id ↔ line ∈ fixed ∨ ∃ row ∈ shownRows m id, line ∈ splitLines (tableLine row) := by
  obtain ⟨fixed,nonempty,steady,parts⟩ := renderBlock_parts valid rendered
  have lines : ∀ line, line ∈ splitLines text ↔ line ∈ fixed ∨ ∃ row ∈ shownRows m id, line ∈ splitLines (tableLine row) := by
    intro line
    have single : fixed.flatMap splitLines = fixed := by
      rw [List.flatMap_congr fun line member => splitLines_steady (steady line member),List.flatMap_singleton']
    rw [parts,splitLines_joinLines_parts (by simp [nonempty]),List.flatMap_append,List.flatMap_map,single,List.mem_append,
      List.mem_flatMap]
  have some : text ≠ [] := by
    rintro rfl
    obtain ⟨first,rest,rfl⟩ := List.exists_cons_of_ne_nil nonempty
    obtain ⟨b,head,-⟩ := (steady first List.mem_cons_self).start
    have alone : first ∈ splitLines [] := (lines first).mpr (.inl List.mem_cons_self)
    obtain rfl := List.mem_singleton.mp alone
    cases head
  refine ⟨fixed,steady,fun line => ?_⟩
  rw [generated_eq rendered,if_neg some]
  exact lines line

theorem calm_iff {text : Bytes} (valid : validate m = []) (rendered : renderBlock m id = .ok text) :
    Calm m id ↔ ∀ row ∈ shownRows m id, Contained row := by
  obtain ⟨fixed,steady,lines⟩ := mem_generated valid rendered
  constructor
  · intro calm row among
    refine contained_iff.mpr fun line member => ?_
    have shown := (lines line).mpr (.inr ⟨row,among,member⟩)
    exact ⟨calm.plain line shown,calm.clean line shown⟩
  · intro contained
    have each : ∀ line ∈ generated m id, lineKind line = .plain ∧ cr ∉ line := by
      intro line member
      rcases (lines line).mp member with isFixed | ⟨row,among,inside⟩
      · exact ⟨lineKind_plain (steady line isFixed).start,(steady line isFixed).inline.2⟩
      · exact contained_iff.mp (contained row among) line inside
    exact ⟨fun line member => (each line member).1,fun line member => (each line member).2⟩

/-- The lines outside the blocks of the content, and the markers, are those of the result. -/
def Framed (content out : Bytes) : Prop :=
  ∃ doc doc', findBlocks content = .ok (blocksAt 1 doc) ∧ splitLines (normalizeNewlines content) = flatten doc ∧
    (∀ segment ∈ doc, segment.Sound lineKind) ∧ splitLines out = flatten doc' ∧ frames doc' = frames doc

/-- Rendering only touches blocks, and rendering again changes nothing, without drift, exactly when the strings of the
    manifest that the document's tables show are contained in their rows. -/
theorem render_stable_iff {m : Manifest} {content out : Bytes} (valid : validate m = [])
    (rendered : render m content = .ok out) :
    Framed content out ∧ ((render m out = .ok out ∧ checkDrift m out = .ok (out,false)) ↔
      ∀ blocks, findBlocks content = .ok blocks → ∀ b ∈ blocks, ∀ row ∈ shownRows m b.id, Contained row) := by
  obtain ⟨doc,document,lines,known,same⟩ := render_eq_ok.mp rendered
  have found : findBlocks content = .ok (blocksAt 1 doc) := findBlocks_eq_ok.mpr ⟨doc,document,lines,rfl⟩
  refine ⟨⟨doc,refillAll (generated m) doc,found,lines,document.marked.sound,?_,frames_refillAll⟩,?_⟩
  · rw [same,splitLines_rendered lines]
  · rw [stable_iff document lines known same]
    constructor
    · intro calm blocks listed b member
      obtain rfl := Except.ok.inj (found.symm.trans listed)
      have named : b.id ∈ ids doc := map_id_blocksAt 1 doc ▸ List.mem_map_of_mem member
      obtain ⟨text,block⟩ := known b.id named
      exact (calm_iff valid block).mp (calm b.id named)
    · intro contained id named
      obtain ⟨text,block⟩ := known id named
      rw [← map_id_blocksAt 1 doc] at named
      obtain ⟨b,member,rfl⟩ := List.mem_map.mp named
      exact (calm_iff valid block).mpr (contained _ found b member)

namespace Samples

/-- A page with a line of its own and the table of specifications. -/
def page : Bytes := utf8 "intro\r\n<!-- cap-release:begin:spec-toc -->\nold\n<!-- cap-release:end -->\n"

def renderedPage : Bytes :=
  utf8 ("intro\n<!-- cap-release:begin:spec-toc -->\n| # | Document |\n| --- | --- |\n| 01 | [Overview](spec/01.md) |\n" ++
    "<!-- cap-release:end -->\n")

theorem page_stable : render manifest page = .ok renderedPage ∧ render manifest renderedPage = .ok renderedPage ∧
    checkDrift manifest renderedPage = .ok (renderedPage,false) := by
  have rendered : render manifest page = .ok renderedPage := toOption_eq_some.mp (by decide +kernel)
  refine ⟨rendered,(render_stable_iff manifest_valid rendered).2.mpr ?_⟩
  intro blocks listed
  have found : findBlocks page = .ok [⟨utf8 "spec-toc",2,4,utf8 "old"⟩] := toOption_eq_some.mp (by decide +kernel)
  obtain rfl := Except.ok.inj (found.symm.trans listed)
  decide +kernel

/-- A valid manifest with the end marker on a line of a title. -/
def titled : Manifest := { manifest with specs := [⟨"01","spec/01.md","Overview\n<!-- cap-release:end -->\n"⟩] }

def titledPage : Bytes :=
  utf8 ("intro\n<!-- cap-release:begin:spec-toc -->\n| # | Document |\n| --- | --- |\n| 01 | [Overview\n" ++
    "<!-- cap-release:end -->\n](spec/01.md) |\n<!-- cap-release:end -->\n")

/-- What is rendered with it cannot be rendered again. -/
theorem title_not_stable : validate titled = [] ∧ (render titled page).toOption = some titledPage ∧
    (render titled titledPage).toOption = none := by
  refine ⟨?_,?_,?_⟩
  · have same : validate titled = validate manifest := by
      rfl
    rw [same,manifest_valid]
  · decide +kernel
  · decide +kernel

end Samples

end Cap.Release
