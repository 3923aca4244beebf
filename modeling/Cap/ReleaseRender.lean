import Cap.Checks
import Cap.Regions
import Cap.ReleaseBlocks

/-!
Rendering of the documents (`internal/releasetruth/render.go`). A document is scanned for
protected blocks; `Render` puts the generated text between their markers and `CheckDrift` compares
the result with the document.
-/
namespace Cap.Release
open Cap.Text Cap.Lines Cap.Checks Cap.Regions

def normalizeNewlines (s : Bytes) : Bytes := crToLf (crlfToLf s)

theorem cr_not_mem_normalizeNewlines (s : Bytes) : cr ∉ normalizeNewlines s := cr_not_mem_crToLf _

theorem normalizeNewlines_eq_self {s : Bytes} (none : cr ∉ s) : normalizeNewlines s = s := by
  rw [normalizeNewlines,crlfToLf_eq_self none,crToLf_eq_self none]

@[simp] theorem normalizeNewlines_idem (s : Bytes) : normalizeNewlines (normalizeNewlines s) = normalizeNewlines s :=
  normalizeNewlines_eq_self (cr_not_mem_normalizeNewlines s)

def spaces : List Bytes :=
  [9,10,11,12,13,0x20,0x85,0xa0,0x1680,0x2000,0x2001,0x2002,0x2003,0x2004,0x2005,0x2006,0x2007,0x2008,0x2009,0x200a,0x2028,
    0x2029,0x202f,0x205f,0x3000].map fun n => utf8 (String.singleton (Char.ofNat n))

/-- The text without the units at its front, of which there are no more than the rounds. -/
def stripFront (units : List Bytes) : Nat → Bytes → Bytes
  | 0,s => s
  | rounds + 1,s =>
    match units.find? (·.isPrefixOf s) with
    | none => s
    | some unit => stripFront units rounds (s.drop unit.length)

def trimSpace (s : Bytes) : Bytes :=
  let front := stripFront spaces s.length s
  (stripFront (spaces.map List.reverse) front.length front.reverse).reverse

def blockBeginPrefix : Bytes := utf8 "<!-- cap-release:begin:"

def blockMarkerClose : Bytes := utf8 " -->"

def blockEndMarker : Bytes := utf8 "<!-- cap-release:end -->"

def parseBeginID (trimmed : Bytes) : Option Bytes :=
  if blockBeginPrefix.isPrefixOf trimmed && blockMarkerClose.isSuffixOf trimmed then
    some (trimSpace ((trimmed.take (trimmed.length - blockMarkerClose.length)).drop blockBeginPrefix.length))
  else none

/-- A begin marker is looked for first. -/
def lineKind (raw : Bytes) : Kind Bytes :=
  match parseBeginID (trimSpace raw) with
  | some id => .opening id
  | none => if trimSpace raw = blockEndMarker then .closing else .plain

structure Block where
  id : Bytes
  beginLine : Nat
  endLine : Nat
  inner : Bytes
deriving DecidableEq

/-- The state of the loop of `FindBlocks`; the open block's name and first line, if one is open. -/
structure Scan where
  blocks : List Block
  seen : List Bytes
  current : Option (Bytes × Nat)
  inner : List Bytes

def scanLine (scan : Scan) (line : Nat) (raw : Bytes) : Except RenderError Scan :=
  match lineKind raw,scan.current with
  | .opening _,some (current,_) => .error (.nested line current)
  | .opening id,none =>
    if id = [] then .error (.emptyId line)
    else if id ∈ scan.seen then .error (.duplicate id line)
    else .ok ⟨scan.blocks,id :: scan.seen,some (id,line),[]⟩
  | .closing,none => .error (.unopened line)
  | .closing,some (id,start) => .ok ⟨scan.blocks ++ [⟨id,start,line,joinLines scan.inner⟩],scan.seen,none,scan.inner⟩
  | .plain,some _ => .ok { scan with inner := scan.inner ++ [raw] }
  | .plain,none => .ok scan

def scanLines : Scan → Nat → List Bytes → Except RenderError Scan
  | scan,_,[] => .ok scan
  | scan,line,raw :: rest => do scanLines (← scanLine scan line raw) (line + 1) rest

def findBlocks (content : Bytes) : Except RenderError (List Block) := do
  let scan ← scanLines ⟨[],[],none,[]⟩ 1 (splitLines (normalizeNewlines content))
  match scan.current with
  | none => .ok scan.blocks
  | some (id,line) => .error (.unclosed id line)

/-- The loop of `Render` from the line with the given index on, for as many rounds. -/
def renderLines (m : Manifest) (blocks : List Block) (lines : List Bytes) : Nat → Nat → Except RenderError (List Bytes)
  | 0,_ => .ok []
  | rounds + 1,i =>
    if i < lines.length then
      match blocks.find? (·.beginLine == i + 1) with
      | some b => do
        let rendered ← renderBlock m b.id
        let rest ← renderLines m blocks lines rounds b.endLine
        .ok (lines.getD i [] :: ((if rendered = [] then [] else splitLines rendered) ++
          lines.getD (b.endLine - 1) [] :: rest))
      | none => do
        let rest ← renderLines m blocks lines rounds (i + 1)
        .ok (lines.getD i [] :: rest)
    else .ok []

def render (m : Manifest) (content : Bytes) : Except RenderError Bytes := do
  let normalized := normalizeNewlines content
  let blocks ← findBlocks normalized
  let lines := splitLines normalized
  let out ← renderLines m blocks lines lines.length 0
  .ok (joinLines out)

/-- The canonical form, and whether the content differs from it. -/
def checkDrift (m : Manifest) (content : Bytes) : Except RenderError (Bytes × Bool) := do
  let canonical ← render m content
  .ok (canonical,canonical != normalizeNewlines content)

/-- The blocks of a document whose first line has the given number. -/
def blocksAt : Nat → List (Segment Bytes Bytes) → List Block
  | _,[] => []
  | line,.line _ :: rest => blocksAt (line + 1) rest
  | line,.region _ id inner _ :: rest =>
    ⟨id,line,line + inner.length + 1,joinLines inner⟩ :: blocksAt (line + inner.length + 2) rest

theorem map_id_blocksAt (line : Nat) (doc : List (Segment Bytes Bytes)) : (blocksAt line doc).map Block.id = ids doc := by
  induction doc generalizing line with
  | nil => rfl
  | cons segment doc ih =>
    cases segment with
    | line text => exact ih _
    | region first id inner last => exact congrArg (id :: ·) (ih _)

theorem blocksAt_append (line : Nat) (doc more : List (Segment Bytes Bytes)) :
    blocksAt line (doc ++ more) = blocksAt line doc ++ blocksAt (line + (flatten doc).length) more := by
  induction doc generalizing line with
  | nil => rfl
  | cons segment doc ih =>
    cases segment with
    | line text =>
      simp only [List.cons_append,blocksAt,ih,flatten_cons,Segment.lines,List.length_append,List.length_cons,
        List.length_nil]
      congr 2
      omega
    | region first id inner last =>
      simp only [List.cons_append,blocksAt,ih,flatten_cons,Segment.lines,List.length_append,List.length_cons,
        List.length_nil]
      congr 3
      omega

/-- Well marked, and every block has a name. -/
structure Document (doc : List (Segment Bytes Bytes)) : Prop where
  marked : WellMarked lineKind doc
  named : [] ∉ ids doc

/-- The lines read so far are a document, with the lines of the open block after it if there is one. -/
inductive Reads : List Bytes → Scan → Prop
  | closed (doc : List (Segment Bytes Bytes)) (inner : List Bytes) (document : Document doc) :
    Reads (flatten doc) ⟨blocksAt 1 doc,(ids doc).reverse,none,inner⟩
  | opened (doc : List (Segment Bytes Bytes)) (first id : Bytes) (inner : List Bytes) (document : Document doc)
    (opens : lineKind first = .opening id) (named : id ≠ []) (fresh : id ∉ ids doc)
    (plain : ∀ text ∈ inner, lineKind text = .plain) :
    Reads (flatten doc ++ first :: inner)
      ⟨blocksAt 1 doc,id :: (ids doc).reverse,some (id,(flatten doc).length + 1),inner⟩

variable {doc : List (Segment Bytes Bytes)} {lines : List Bytes} {m : Manifest}

theorem Document.snoc_line (document : Document doc) {raw : Bytes}
    (plain : lineKind raw = .plain) : Document (doc ++ [.line raw]) := by
  refine ⟨⟨?_,?_⟩,?_⟩
  · intro segment member
    rcases List.mem_append.mp member with old | new
    · exact document.marked.sound segment old
    · obtain rfl := List.mem_singleton.mp new
      exact plain
  · simpa using document.marked.distinct
  · simpa using document.named

theorem Document.snoc_region (document : Document doc) {first id last : Bytes}
    {inner : List Bytes} (opens : lineKind first = .opening id) (named : id ≠ []) (fresh : id ∉ ids doc)
    (plain : ∀ text ∈ inner, lineKind text = .plain) (closes : lineKind last = .closing) :
    Document (doc ++ [.region first id inner last]) := by
  refine ⟨⟨?_,?_⟩,?_⟩
  · intro segment member
    rcases List.mem_append.mp member with old | new
    · exact document.marked.sound segment old
    · obtain rfl := List.mem_singleton.mp new
      exact ⟨opens,plain,closes⟩
  · simp only [ids_append,ids_region,ids_nil,List.nodup_append,List.nodup_cons,List.not_mem_nil,not_false_eq_true,
      List.nodup_nil,List.mem_singleton,true_and]
    refine ⟨document.marked.distinct,?_⟩
    rintro other member _ rfl rfl
    exact fresh member
  · simpa using ⟨document.named,named⟩

theorem Reads.step {done : List Bytes} {scan after : Scan} {raw : Bytes} (reads : Reads done scan)
    (stepped : scanLine scan (done.length + 1) raw = .ok after) : Reads (done ++ [raw]) after := by
  cases reads with
  | closed doc inner document =>
    cases kind : lineKind raw with
    | opening id =>
      simp only [scanLine,kind] at stepped
      split_ifs at stepped with empty seen
      obtain rfl := Except.ok.inj stepped
      exact .opened doc raw id [] document kind empty (by simpa using seen) (by simp)
    | closing => simp [scanLine,kind] at stepped
    | plain =>
      simp only [scanLine,kind] at stepped
      obtain rfl := Except.ok.inj stepped
      have next := Reads.closed (doc ++ [.line raw]) inner (document.snoc_line kind)
      simpa [blocksAt_append,blocksAt,Segment.lines] using next
  | opened doc first id inner document opens named fresh plain =>
    cases kind : lineKind raw with
    | opening other => simp [scanLine,kind] at stepped
    | closing =>
      simp only [scanLine,kind] at stepped
      obtain rfl := Except.ok.inj stepped
      have next := Reads.closed (doc ++ [.region first id inner raw]) inner (document.snoc_region opens named fresh plain kind)
      simpa [blocksAt_append,blocksAt,Segment.lines,Nat.add_assoc,Nat.add_comm] using next
    | plain =>
      simp only [scanLine,kind] at stepped
      obtain rfl := Except.ok.inj stepped
      have next := Reads.opened doc first id (inner ++ [raw]) document opens named fresh (by
        intro text member
        rcases List.mem_append.mp member with old | new
        · exact plain text old
        · obtain rfl := List.mem_singleton.mp new
          exact kind)
      simpa using next

theorem Reads.run {done : List Bytes} {scan after : Scan} (reads : Reads done scan)
    (ran : scanLines scan (done.length + 1) lines = .ok after) : Reads (done ++ lines) after := by
  induction lines generalizing done scan with
  | nil =>
    obtain rfl := Except.ok.inj ran
    simpa using reads
  | cons raw rest ih =>
    simp only [scanLines,bind_eq_ok] at ran
    obtain ⟨next,stepped,later⟩ := ran
    have whole := ih (reads.step stepped) (by simpa using later)
    simpa using whole

theorem scanLines_inner {more : List Bytes} (plain : ∀ text ∈ more, lineKind text = .plain) (blocks : List Block)
    (seen inner rest : List Bytes) (current : Bytes × Nat) (line : Nat) :
    scanLines ⟨blocks,seen,some current,inner⟩ line (more ++ rest) =
      scanLines ⟨blocks,seen,some current,inner ++ more⟩ (line + more.length) rest := by
  induction more generalizing inner line with
  | nil => simp
  | cons raw more ih =>
    have kind := plain raw List.mem_cons_self
    have step : scanLine ⟨blocks,seen,some current,inner⟩ line raw = .ok ⟨blocks,seen,some current,inner ++ [raw]⟩ := by
      simp [scanLine,kind]
    have later := ih (fun text member => plain text (List.mem_cons_of_mem _ member)) (inner ++ [raw]) (line + 1)
    rw [List.cons_append,scanLines,step]
    show scanLines _ (line + 1) (more ++ rest) = _
    simpa [Nat.add_assoc,Nat.add_comm 1] using later

theorem scanLines_flatten (document : Document doc) (blocks : List Block)
    (seen inner : List Bytes) (line : Nat) (fresh : ∀ id ∈ ids doc, id ∉ seen) :
    ∃ left, scanLines ⟨blocks,seen,none,inner⟩ line (flatten doc) =
      .ok ⟨blocks ++ blocksAt line doc,(ids doc).reverse ++ seen,none,left⟩ := by
  induction doc generalizing blocks seen inner line with
  | nil => exact ⟨inner,by simp [scanLines,blocksAt]⟩
  | cons segment doc ih =>
    have sound := document.marked.sound segment List.mem_cons_self
    have others : ∀ s ∈ doc, s.Sound lineKind := fun s member => document.marked.sound s (List.mem_cons_of_mem _ member)
    cases segment with
    | line text =>
      have rest : Document doc := ⟨⟨others,document.marked.distinct⟩,document.named⟩
      have step : scanLine ⟨blocks,seen,none,inner⟩ line text = .ok ⟨blocks,seen,none,inner⟩ := by
        simp [scanLine,show lineKind text = .plain from sound]
      obtain ⟨left,ran⟩ := ih rest blocks seen inner (line + 1) fresh
      exact ⟨left,by rw [flatten_cons,Segment.lines,List.singleton_append,scanLines,step]; exact ran⟩
    | region first id content last =>
      obtain ⟨opens,plain,closes⟩ := sound
      have distinct := List.nodup_cons.mp (ids_region ▸ document.marked.distinct)
      have names : id ≠ [] ∧ [] ∉ ids doc := by
        simpa using document.named
      have rest : Document doc := ⟨⟨others,distinct.2⟩,names.2⟩
      have notSeen : id ∉ seen := fresh id (by simp)
      have step : scanLine ⟨blocks,seen,none,inner⟩ line first = .ok ⟨blocks,id :: seen,some (id,line),[]⟩ := by
        simp [scanLine,opens,names.1,notSeen]
      have close : scanLine ⟨blocks,id :: seen,some (id,line),content⟩ (line + 1 + content.length) last =
          .ok ⟨blocks ++ [⟨id,line,line + content.length + 1,joinLines content⟩],id :: seen,none,content⟩ := by
        simp [scanLine,closes,Nat.add_right_comm]
      have later : ∀ other ∈ ids doc, other ∉ id :: seen := by
        intro other member
        simp only [List.mem_cons,not_or]
        refine ⟨?_,fresh other (by simp [member])⟩
        rintro rfl
        exact distinct.1 member
      obtain ⟨left,ran⟩ := ih rest (blocks ++ [⟨id,line,line + content.length + 1,joinLines content⟩]) (id :: seen) content
        (line + content.length + 2) later
      refine ⟨left,?_⟩
      rw [flatten_cons,Segment.lines,List.cons_append,scanLines,step]
      show scanLines _ _ (content ++ [last] ++ flatten doc) = _
      rw [List.append_assoc,scanLines_inner plain,List.nil_append,List.singleton_append,scanLines,close]
      show scanLines _ (line + 1 + content.length + 1) _ = _
      rw [show line + 1 + content.length + 1 = line + content.length + 2 by omega,ran]
      simp [blocksAt]

theorem findBlocks_eq_ok {content : Bytes} {blocks : List Block} : findBlocks content = .ok blocks ↔
    ∃ doc, Document doc ∧ splitLines (normalizeNewlines content) = flatten doc ∧ blocks = blocksAt 1 doc := by
  unfold findBlocks
  rw [bind_eq_ok]
  constructor
  · rintro ⟨scan,ran,found⟩
    have start : Reads [] ⟨[],[],none,[]⟩ := Reads.closed [] [] ⟨⟨by simp,by simp⟩,by simp⟩
    have reads := start.run ran
    generalize splitLines (normalizeNewlines content) = lines at reads
    cases reads with
    | closed doc inner document => exact ⟨doc,document,rfl,(Except.ok.inj found).symm⟩
    | opened doc first id inner document opens named fresh plain => cases found
  · rintro ⟨doc,document,lines,rfl⟩
    obtain ⟨left,ran⟩ := scanLines_flatten document [] [] [] 1 (by simp)
    rw [← lines] at ran
    exact ⟨_,ran,rfl⟩

def generated (m : Manifest) (id : Bytes) : List Bytes :=
  match renderBlock m id with
  | .ok text => if text = [] then [] else splitLines text
  | .error _ => []

theorem generated_eq {id text : Bytes} (rendered : renderBlock m id = .ok text) :
    generated m id = if text = [] then [] else splitLines text := by
  rw [generated,rendered]

theorem beginLine_ge {line : Nat} : ∀ b ∈ blocksAt line doc, line ≤ b.beginLine := by
  induction doc generalizing line with
  | nil => simp [blocksAt]
  | cons segment doc ih =>
    intro b member
    cases segment with
    | line text =>
      have := ih b member
      omega
    | region first id inner last =>
      rcases List.mem_cons.mp member with rfl | later
      · exact le_rfl
      · have := ih b later
        omega

private theorem drop_after {start : Nat} (front back : List Bytes) (rest : lines.drop start = front ++ back) :
    lines.drop (start + front.length) = back := by
  rw [← List.drop_drop,rest,List.drop_left]

private theorem getD_of_drop {back : List Bytes} {text : Bytes} {start : Nat} (rest : lines.drop start = text :: back) :
    lines.getD start [] = text := by
  have first := congrArg List.head? rest
  rw [List.head?_drop,List.head?_cons] at first
  rw [List.getD_eq_getElem?_getD,first,Option.getD_some]

/-- From the first line of a document on, whose blocks are the last of all, the loop fills the blocks. -/
theorem renderLines_eq_ok {blocks : List Block} (doc : List (Segment Bytes Bytes))
    (before : List Block) (start : Nat) (rounds : Nat) (out : List Bytes)
    (rest : lines.drop start = flatten doc) (all : blocks = before ++ blocksAt (start + 1) doc)
    (earlier : ∀ b ∈ before, b.beginLine ≤ start) (enough : (flatten doc).length ≤ rounds) :
    renderLines m blocks lines rounds start = .ok out ↔
      (∀ id ∈ ids doc, ∃ text, renderBlock m id = .ok text) ∧ out = flatten (refillAll (generated m) doc) := by
  have length : (flatten doc).length = lines.length - start := by rw [← rest,List.length_drop]
  induction doc generalizing before start rounds out with
  | nil =>
    have finished : renderLines m blocks lines rounds start = .ok [] := by
      cases rounds with
      | zero => rfl
      | succ rounds =>
        rw [renderLines,if_neg]
        rw [flatten_nil,List.length_nil] at length
        omega
    rw [finished]
    simp [refillAll]
  | cons segment doc ih =>
    -- blocks before the line and after it begin at other lines
    have passed : before.find? (·.beginLine == start + 1) = none := by
      rw [List.find?_eq_none]
      intro b member
      have := earlier b member
      simp only [beq_iff_eq]
      omega
    have below : start < lines.length := by
      cases segment <;> simp [Segment.lines] at length <;> omega
    obtain ⟨rounds,rfl⟩ : ∃ n, rounds = n + 1 := by
      refine Nat.exists_eq_add_one.mpr (lt_of_lt_of_le ?_ enough)
      omega
    cases segment with
    | line text =>
      have none : blocks.find? (·.beginLine == start + 1) = none := by
        rw [all,List.find?_append,passed,Option.none_or,List.find?_eq_none]
        intro b (member : b ∈ blocksAt (start + 1 + 1) doc)
        have := beginLine_ge b member
        simp only [beq_iff_eq]
        omega
      have text_eq := getD_of_drop rest
      have step : renderLines m blocks lines (rounds + 1) start =
          renderLines m blocks lines rounds (start + 1) >>= fun more => .ok (text :: more) := by
        rw [renderLines,if_pos below,none,text_eq]
      have later := fun more => ih before (start + 1) rounds more (drop_after [text] _ rest) all
        (fun b member => Nat.le_succ_of_le (earlier b member)) (by simpa [Segment.lines] using enough)
        (by simp [Segment.lines] at length; omega)
      simp only [step,bind_eq_ok,later]
      constructor
      · rintro ⟨more,⟨known,rfl⟩,same⟩
        exact ⟨known,(Except.ok.inj same).symm⟩
      · rintro ⟨known,rfl⟩
        exact ⟨_,⟨known,rfl⟩,rfl⟩
    | region first id inner last =>
      have found : blocks.find? (·.beginLine == start + 1) =
          some ⟨id,start + 1,start + 1 + inner.length + 1,joinLines inner⟩ := by
        rw [all,List.find?_append,passed]
        simp [blocksAt]
      have opening : lines.getD start [] = first := getD_of_drop rest
      have closing : lines.drop (start + inner.length + 1) = last :: flatten doc := by
        have := drop_after (first :: inner) (last :: flatten doc) (by simpa [Segment.lines] using rest)
        simpa [Nat.add_assoc] using this
      have last_eq := getD_of_drop closing
      have step : renderLines m blocks lines (rounds + 1) start = (do
          let rendered ← renderBlock m id
          let more ← renderLines m blocks lines rounds (start + inner.length + 2)
          .ok (first :: ((if rendered = [] then [] else splitLines rendered) ++ last :: more))) := by
        have number : start + 1 + inner.length + 1 = start + inner.length + 2 := by omega
        rw [renderLines,if_pos below,found,opening]
        simp only [number,last_eq,Nat.add_succ_sub_one]
      have later := fun more => ih (before ++ [⟨id,start + 1,start + 1 + inner.length + 1,joinLines inner⟩])
        (start + inner.length + 2) rounds more (drop_after [last] _ closing) (by
          rw [all]
          simp [blocksAt,Nat.add_right_comm]) (by
          intro b member
          rcases List.mem_append.mp member with old | new
          · have := earlier b old
            omega
          · obtain rfl := List.mem_singleton.mp new
            exact (by omega : start + 1 ≤ start + inner.length + 2)) (by
          simp [Segment.lines] at enough
          omega) (by simp [Segment.lines] at length; omega)
      simp only [step,bind_eq_ok,later,ids_region,List.forall_mem_cons]
      constructor
      · rintro ⟨text,rendered,more,⟨known,rfl⟩,same⟩
        refine ⟨⟨⟨text,rendered⟩,known⟩,?_⟩
        rw [← Except.ok.inj same,← generated_eq rendered]
        simp [refillAll,Segment.refill,Segment.lines]
      · rintro ⟨⟨⟨text,rendered⟩,known⟩,rfl⟩
        refine ⟨text,rendered,_,⟨known,rfl⟩,?_⟩
        rw [← generated_eq rendered]
        simp [refillAll,Segment.refill,Segment.lines]

theorem render_eq_ok {content out : Bytes} : render m content = .ok out ↔
    ∃ doc, Document doc ∧ splitLines (normalizeNewlines content) = flatten doc ∧
      (∀ id ∈ ids doc, ∃ text, renderBlock m id = .ok text) ∧ out = joinLines (flatten (refillAll (generated m) doc)) := by
  simp only [render,bind_eq_ok,findBlocks_eq_ok,normalizeNewlines_idem]
  constructor
  · rintro ⟨blocks,⟨doc,document,lines,rfl⟩,texts,ran,same⟩
    have known := (renderLines_eq_ok doc [] 0 _ texts lines rfl (by simp) (by rw [lines])).mp ran
    exact ⟨doc,document,lines,known.1,by rw [← Except.ok.inj same,known.2]⟩
  · rintro ⟨doc,document,lines,known,rfl⟩
    exact ⟨_,⟨doc,document,lines,rfl⟩,_,(renderLines_eq_ok doc [] 0 _ _ lines rfl (by simp) (by rw [lines])).mpr ⟨known,rfl⟩,rfl⟩

end Cap.Release
