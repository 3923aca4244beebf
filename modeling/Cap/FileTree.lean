import Cap.Text

/-!
File trees as Go's `io/fs` shows them. A directory is listed by name, its entries are files or directories;
paths are names with slashes between them. `WalkDir` visits exactly what the paths lead to.
-/
namespace Cap.FileTree
open Cap.Text

/-- The entries of a directory, in the order in which they are listed. -/
inductive Tree where
  | nil
  | file (name : String) (data : Bytes) (rest : Tree)
  | dir (name : String) (inner rest : Tree)

/-- What a path leads to. -/
inductive Node where
  | file (data : Bytes)
  | dir (entries : Tree)

namespace Tree

def names : Tree → List String
  | nil => []
  | file name _ rest => name :: rest.names
  | dir name _ rest => name :: rest.names

end Tree

def join (names : List String) : String := String.ofList (['/'].intercalate (names.map String.toList))

def split (p : String) : List String := (p.toList.splitOn '/').map String.ofList

def validElem (s : String) : Bool := s != "" && s != "." && s != ".."

def validPath (p : String) : Bool := p == "." || (split p).all validElem

def less (a b : String) : Bool := !lexLe ((utf8 b).map UInt8.toNat) ((utf8 a).map UInt8.toNat)

/-- The names are single elements of paths, and listed in their order. -/
def Tree.wf : Tree → Bool
  | nil => true
  | file name _ rest => validElem name && !name.toList.contains '/' && rest.names.all (less name) && rest.wf
  | dir name inner rest =>
    validElem name && !name.toList.contains '/' && rest.names.all (less name) && inner.wf && rest.wf

def entry : Tree → String → Option Node
  | .nil,_ => none
  | .file n data rest,name => if n = name then some (.file data) else entry rest name
  | .dir n inner rest,name => if n = name then some (.dir inner) else entry rest name

def follow : Node → List String → Option Node
  | node,[] => some node
  | .dir entries,name :: names => (entry entries name).bind (follow · names)
  | .file _,_ :: _ => none

def stat (root : Tree) (p : String) : Option Node :=
  if !validPath p then none else if p = "." then some (.dir root) else follow (.dir root) (split p)

def readFile (root : Tree) (p : String) : Option Bytes :=
  match stat root p with
  | some (.file data) => some data
  | _ => none

/-- The visits below a directory: the path, and whether it is a directory. -/
def walk (parent : List String) : Tree → List (String × Bool)
  | .nil => []
  | .file name _ rest => (join (parent ++ [name]),false) :: walk parent rest
  | .dir name inner rest => (join (parent ++ [name]),true) :: (walk (parent ++ [name]) inner ++ walk parent rest)

def walkDir (root : Tree) : List (String × Bool) := (".",true) :: walk [] root

def ValidName (name : String) : Prop := validElem name = true ∧ '/' ∉ name.toList

variable {names : List String} {rest t : Tree} {data : Bytes} {name p : String} {node : Node}

theorem split_join (nonempty : names ≠ []) (valid : ∀ name ∈ names, ValidName name) :
    split (join names) = names := by
  rw [split,join,String.toList_ofList,List.splitOn_intercalate]
  · simp
  · intro cs member
    obtain ⟨name,among,rfl⟩ := List.mem_map.mp member
    exact (valid name among).2
  · simpa using nonempty

theorem less_irrefl (a : String) : less a a = false := by
  have refl : ∀ l : List Nat, lexLe l l = true := by
    intro l
    induction l with
    | nil => rfl
    | cons x xs ih => simp [lexLe,ih]
  simp [less,refl]

theorem wf_file (wf : (Tree.file name data rest).wf = true) :
    ValidName name ∧ name ∉ rest.names ∧ rest.wf = true := by
  simp only [Tree.wf,Bool.and_eq_true,Bool.not_eq_true',List.contains_eq_mem,decide_eq_false_iff_not,List.all_eq_true] at wf
  obtain ⟨⟨⟨elem,slash⟩,order⟩,later⟩ := wf
  refine ⟨⟨elem,slash⟩,?_,later⟩
  intro twice
  exact absurd (order name twice) (by rw [less_irrefl]; decide)

theorem wf_dir {inner : Tree} (wf : (Tree.dir name inner rest).wf = true) :
    ValidName name ∧ name ∉ rest.names ∧ inner.wf = true ∧ rest.wf = true := by
  simp only [Tree.wf,Bool.and_eq_true,Bool.not_eq_true',List.contains_eq_mem,decide_eq_false_iff_not,List.all_eq_true] at wf
  obtain ⟨⟨⟨⟨elem,slash⟩,order⟩,below⟩,later⟩ := wf
  refine ⟨⟨elem,slash⟩,?_,below,later⟩
  intro twice
  exact absurd (order name twice) (by rw [less_irrefl]; decide)

theorem mem_names_of_entry (found : entry t name = some node) : name ∈ t.names := by
  induction t with
  | nil => cases found
  | file n data rest ih | dir n inner rest _ ih =>
    rw [entry] at found
    split_ifs at found with same
    · exact same ▸ List.mem_cons_self
    · exact List.mem_cons_of_mem _ (ih found)

theorem follow_file {n : String} :
    follow (.dir (.file n data rest)) (name :: names) =
      if n = name then follow (.file data) names else follow (.dir rest) (name :: names) := by
  simp only [follow,entry]
  split_ifs <;> rfl

theorem follow_dir {n : String} {inner : Tree} :
    follow (.dir (.dir n inner rest)) (name :: names) =
      if n = name then follow (.dir inner) names else follow (.dir rest) (name :: names) := by
  simp only [follow,entry]
  split_ifs <;> rfl

theorem follow_nil : follow (.dir .nil) (name :: names) = none := rfl

theorem follow_of_file :
    follow (.file data) names = some node ↔ names = [] ∧ node = .file data := by
  cases names with
  | nil => simp [follow,eq_comm]
  | cons name names => simp [follow]

theorem mem_names_of_follow
    (found : follow (.dir t) (name :: names) = some node) : name ∈ t.names := by
  rw [follow,Option.bind_eq_some_iff] at found
  obtain ⟨next,here,-⟩ := found
  exact mem_names_of_entry here

theorem validName_of_follow (wf : t.wf = true)
    (found : follow (.dir t) names = some node) : ∀ name ∈ names, ValidName name := by
  induction t generalizing names with
  | nil =>
    cases names with
    | nil => simp
    | cons name names => cases found
  | file n data rest ih =>
    obtain ⟨valid,-,later⟩ := wf_file wf
    cases names with
    | nil => simp
    | cons name names =>
      rw [follow_file] at found
      split_ifs at found with same
      · obtain ⟨rfl,-⟩ := follow_of_file.mp found
        simpa [same] using valid
      · exact ih later found
  | dir n inner rest ihInner ih =>
    obtain ⟨valid,-,below,later⟩ := wf_dir wf
    cases names with
    | nil => simp
    | cons name names =>
      rw [follow_dir] at found
      split_ifs at found with same
      · intro other member
        rcases List.mem_cons.mp member with rfl | deeper
        · exact same ▸ valid
        · exact ihInner below found other deeper
      · exact ih later found

theorem mem_walk (wf : t.wf = true) {parent : List String} : (p,false) ∈ walk parent t ↔
    ∃ name names data, p = join (parent ++ name :: names) ∧ follow (.dir t) (name :: names) = some (.file data) := by
  induction t generalizing parent with
  | nil => simp [walk,follow_nil]
  | file n data rest ih =>
    obtain ⟨-,fresh,later⟩ := wf_file wf
    rw [walk,List.mem_cons,ih later]
    constructor
    · rintro (here | ⟨name,names,found,path,leads⟩)
      · exact ⟨n,[],data,(Prod.mk.inj here).1,by rw [follow_file,if_pos rfl]; rfl⟩
      · refine ⟨name,names,found,path,?_⟩
        have other : n ≠ name := fun same => fresh (same ▸ mem_names_of_follow leads)
        rw [follow_file,if_neg other,leads]
    · rintro ⟨name,names,found,rfl,leads⟩
      rw [follow_file] at leads
      split_ifs at leads with same
      · obtain ⟨rfl,-⟩ := follow_of_file.mp leads
        exact .inl (by rw [same])
      · exact .inr ⟨name,names,found,rfl,leads⟩
  | dir n inner rest ihInner ih =>
    obtain ⟨-,fresh,below,later⟩ := wf_dir wf
    rw [walk,List.mem_cons,List.mem_append,ih later,ihInner below]
    constructor
    · rintro (here | ⟨name,names,found,path,leads⟩ | ⟨name,names,found,path,leads⟩)
      · cases here
      · refine ⟨n,name :: names,found,by simpa using path,?_⟩
        rw [follow_dir,if_pos rfl,leads]
      · refine ⟨name,names,found,path,?_⟩
        have other : n ≠ name := fun same => fresh (same ▸ mem_names_of_follow leads)
        rw [follow_dir,if_neg other,leads]
    · rintro ⟨name,names,found,rfl,leads⟩
      rw [follow_dir] at leads
      split_ifs at leads with same
      · cases names with
        | nil => cases leads
        | cons deeper names => exact .inr (.inl ⟨deeper,names,found,by simp [same],leads⟩)
      · exact .inr (.inr ⟨name,names,found,rfl,leads⟩)

theorem readFile_eq_some {root : Tree} : readFile root p = some data ↔
    validPath p = true ∧ p ≠ "." ∧ follow (.dir root) (split p) = some (.file data) := by
  have found : readFile root p = some data ↔ stat root p = some (.file data) := by
    unfold readFile
    cases stat root p with
    | none => simp
    | some node => cases node <;> simp
  rw [found,stat]
  cases valid : validPath p with
  | false => simp
  | true =>
    by_cases top : p = "." <;> simp [top]

theorem mem_walkDir {root : Tree} (wf : root.wf = true) :
    (p,false) ∈ walkDir root ↔ ∃ data, readFile root p = some data := by
  rw [walkDir,List.mem_cons,mem_walk wf]
  constructor
  · rintro (top | ⟨name,names,data,rfl,leads⟩)
    · cases top
    · have valid := validName_of_follow wf leads
      have parts := split_join (List.cons_ne_nil name names) valid
      refine ⟨data,readFile_eq_some.mpr ⟨?_,?_,?_⟩⟩
      · rw [List.nil_append,validPath,parts,Bool.or_eq_true,List.all_eq_true]
        exact .inr fun other member => (valid other member).1
      · -- the path of the root itself is no name
        intro top
        have alone : split "." = name :: names := by rw [← top]; exact parts
        have first : name = "." := by
          exact (List.cons.inj alone).1.symm
        exact absurd (valid name List.mem_cons_self).1 (by rw [first]; decide)
      · rw [List.nil_append,parts,leads]
  · rintro ⟨data,read⟩
    obtain ⟨-,-,leads⟩ := readFile_eq_some.mp read
    have whole : join (split p) = p := by
      rw [join,split,List.map_map]
      have same : String.toList ∘ String.ofList = id := funext fun _ => String.toList_ofList
      rw [same,List.map_id,List.intercalate_splitOn,String.ofList_toList]
    cases names : split p with
    | nil =>
      rw [names] at leads
      cases leads
    | cons name rest =>
      rw [names] at leads whole
      exact .inr ⟨name,rest,data,whole.symm,leads⟩

end Cap.FileTree
