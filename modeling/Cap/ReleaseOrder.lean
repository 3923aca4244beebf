import Mathlib.Data.Prod.Lex
import Cap.Numerals
import Cap.ReleaseManifest

/-!
The order of releases (`semverGreater`). Canonical versions are three numerals without leading
zeros; their comparison part by part, by length and then byte by byte, is the order of the triples
of numbers that they denote.
-/
namespace Cap.Release
open Cap.Text Cap.Numerals RegularExpression

/-! ### What the patterns match -/

variable {s : String} {cs : List Char}

theorem oneOf_rmatch : (oneOf s).rmatch cs = true ↔ ∃ c ∈ s.toList, cs = [c] := by
  unfold oneOf
  generalize s.toList = letters
  induction letters with
  | nil => simp
  | cons letter letters ih =>
    simp only [List.foldr_cons,add_rmatch_iff,char_rmatch_iff,ih,List.mem_cons,exists_eq_or_imp]

theorem star_oneOf_rmatch : (star (oneOf s)).rmatch cs = true ↔ ∀ c ∈ cs, c ∈ s.toList := by
  rw [star_rmatch_iff]
  constructor
  · rintro ⟨parts,rfl,each⟩ c member
    obtain ⟨part,among,inside⟩ := List.mem_flatten.mp member
    obtain ⟨d,letter,rfl⟩ := oneOf_rmatch.mp (each part among).2
    obtain rfl := List.mem_singleton.mp inside
    exact letter
  · intro letters
    refine ⟨cs.map fun c => [c],?_,?_⟩
    · rw [← List.flatMap_def,List.flatMap_singleton']
    · intro part member
      obtain ⟨c,among,rfl⟩ := List.mem_map.mp member
      exact ⟨List.cons_ne_nil _ _,oneOf_rmatch.mpr ⟨c,letters c among,rfl⟩⟩

variable {c : Char}

private theorem mem_chars (letters : List Char) : c ∈ letters ↔ c.toNat ∈ letters.map Char.toNat :=
  (List.mem_map_of_injective fun _ _ => Char.toNat_inj.mp).symm

theorem mem_digits : c ∈ "0123456789".toList ↔ 48 ≤ c.toNat ∧ c.toNat ≤ 57 := by
  rw [mem_chars]
  show c.toNat ∈ [48,49,50,51,52,53,54,55,56,57] ↔ _
  simp only [List.mem_cons,List.not_mem_nil,or_false]
  omega

theorem mem_nonzero : c ∈ "123456789".toList ↔ 49 ≤ c.toNat ∧ c.toNat ≤ 57 := by
  rw [mem_chars]
  show c.toNat ∈ [49,50,51,52,53,54,55,56,57] ↔ _
  simp only [List.mem_cons,List.not_mem_nil,or_false]
  omega

theorem numeral_rmatch : numeral.rmatch cs = true ↔ Canonical cs := by
  simp only [numeral,digit,add_rmatch_iff,char_rmatch_iff,mul_rmatch_iff,oneOf_rmatch,star_oneOf_rmatch,mem_digits,mem_nonzero]
  constructor
  · rintro (rfl | ⟨_,rest,rfl,⟨c,first,rfl⟩,digits⟩)
    · refine ⟨List.cons_ne_nil _ _,?_,fun _ => rfl⟩
      intro c member
      obtain rfl := List.mem_singleton.mp member
      decide
    · refine ⟨List.cons_ne_nil _ _,?_,?_⟩
      · intro d member
        rcases List.mem_cons.mp member with rfl | later
        · omega
        · exact digits d later
      · intro zero
        obtain rfl : c = '0' := by simpa using zero
        exact absurd first (by decide)
  · intro canonical
    cases cs with
    | nil => exact absurd rfl canonical.nonempty
    | cons c rest =>
      have bounds := canonical.digits c List.mem_cons_self
      rcases Nat.lt_or_eq_of_le bounds.1 with positive | zero
      · exact .inr ⟨[c],rest,rfl,⟨c,⟨positive,bounds.2⟩,rfl⟩,fun d member => canonical.digits d (List.mem_cons_of_mem _ member)⟩
      · have isZero : c = '0' := Char.toNat_inj.mp zero.symm
        exact .inl (canonical.leading (by rw [isZero]; rfl))

theorem reSemver_iff : isMatch reSemver s = true ↔
    ∃ x y z, s.toList = x ++ '.' :: (y ++ '.' :: z) ∧ Canonical x ∧ Canonical y ∧ Canonical z := by
  simp only [isMatch,reSemver,mul_rmatch_iff,char_rmatch_iff,numeral_rmatch]
  constructor
  · rintro ⟨x,_,whole,canonicalX,_,_,rfl,rfl,y,_,rfl,canonicalY,_,z,rfl,rfl,canonicalZ⟩
    exact ⟨x,y,z,whole,canonicalX,canonicalY,canonicalZ⟩
  · rintro ⟨x,y,z,whole,canonicalX,canonicalY,canonicalZ⟩
    exact ⟨x,_,whole,canonicalX,['.'],_,rfl,rfl,y,_,rfl,canonicalY,['.'],z,rfl,rfl,canonicalZ⟩

theorem no_dot (canonical : Canonical cs) : '.' ∉ cs := by
  intro member
  exact absurd (canonical.digits '.' member) (by decide)

theorem splitAt_version {x y z : List Char} (whole : s.toList = x ++ '.' :: (y ++ '.' :: z))
    (canonicalX : Canonical x) (canonicalY : Canonical y) (canonicalZ : Canonical z) :
    splitAt '.' s = [String.ofList x,String.ofList y,String.ofList z] := by
  rw [splitAt,whole,List.splitOn_append_cons_self_of_not_mem (no_dot canonicalX),
    List.splitOn_append_cons_self_of_not_mem (no_dot canonicalY),List.splitOn_eq_singleton (no_dot canonicalZ)]
  rfl

def triple (s : String) : ℕ ×ₗ ℕ ×ₗ ℕ :=
  match splitAt '.' s with
  | [x,y,z] => toLex (value x.toList,toLex (value y.toList,value z.toList))
  | _ => toLex (0,toLex (0,0))

theorem utf8_numeral (canonical : Canonical cs) :
    (utf8 (String.ofList cs)).map UInt8.toNat = cs.map Char.toNat := by
  have ascii : ∀ c ∈ (String.ofList cs).toList, c.toNat < 128 := by
    intro c member
    have := canonical.digits c (by simpa using member)
    omega
  rw [utf8_ascii ascii,String.toList_ofList]

/-- One round of the comparison decides by the numbers. -/
theorem greaterParts_numeral {rounds : Nat} {a b : List Char} {as bs : List String} (canonicalA : Canonical a)
    (canonicalB : Canonical b) : greaterParts (rounds + 1) (String.ofList a :: as) (String.ofList b :: bs) =
      if value a = value b then greaterParts rounds as bs else some (decide (value b < value a)) := by
  have lengthA : (utf8 (String.ofList a)).length = a.length := by simpa using congrArg List.length (utf8_numeral canonicalA)
  have lengthB : (utf8 (String.ofList b)).length = b.length := by simpa using congrArg List.length (utf8_numeral canonicalB)
  rw [greaterParts,lengthA,lengthB]
  by_cases same : a.length = b.length
  · rw [if_neg (not_not.mpr same)]
    by_cases equal : a = b
    · rw [equal,if_neg (not_not.mpr rfl),if_pos rfl]
    · have apart : String.ofList a ≠ String.ofList b := fun texts => equal (String.ofList_injective texts)
      have values : value a ≠ value b := fun same => equal (value_inj canonicalA canonicalB same)
      have order := lexLe_iff_value_le canonicalA.digits canonicalB.digits same
      rw [if_pos apart,if_neg values,greater,utf8_numeral canonicalA,utf8_numeral canonicalB]
      congr 1
      rw [Bool.eq_iff_iff,Bool.not_eq_true',← Bool.not_eq_true,order,decide_eq_true_eq,not_le]
  · rw [if_pos same]
    rcases Nat.lt_or_gt_of_ne same with shorter | longer
    · have less := value_lt_of_length canonicalA.digits canonicalB shorter canonicalA.nonempty
      rw [if_neg (by omega)]
      simp only [Option.some.injEq,decide_eq_decide]
      omega
    · have more := value_lt_of_length canonicalB.digits canonicalA longer canonicalB.nonempty
      rw [if_neg (by omega)]
      simp only [Option.some.injEq,decide_eq_decide]
      omega

theorem semverGreater_eq {a b : String} (canonicalA : isMatch reSemver a = true) (canonicalB : isMatch reSemver b = true) :
    semverGreater a b = some (decide (triple b < triple a)) := by
  obtain ⟨x,y,z,wholeA,canonicalX,canonicalY,canonicalZ⟩ := reSemver_iff.mp canonicalA
  obtain ⟨x',y',z',wholeB,canonicalX',canonicalY',canonicalZ'⟩ := reSemver_iff.mp canonicalB
  have splitA := splitAt_version wholeA canonicalX canonicalY canonicalZ
  have splitB := splitAt_version wholeB canonicalX' canonicalY' canonicalZ'
  rw [semverGreater,splitA,splitB,greaterParts_numeral canonicalX canonicalX',greaterParts_numeral canonicalY canonicalY',
    greaterParts_numeral canonicalZ canonicalZ']
  simp only [triple,splitA,splitB,Prod.Lex.toLex_lt_toLex]
  split_ifs with major minor patch
  · simp [greaterParts,major,minor,patch]
  · simp [major,minor]
  · simp [major,Ne.symm minor]
  · simp [Ne.symm major]

theorem triple_inj {a b : String} (canonicalA : isMatch reSemver a = true) (canonicalB : isMatch reSemver b = true)
    (same : triple a = triple b) : a = b := by
  obtain ⟨x,y,z,wholeA,canonicalX,canonicalY,canonicalZ⟩ := reSemver_iff.mp canonicalA
  obtain ⟨x',y',z',wholeB,canonicalX',canonicalY',canonicalZ'⟩ := reSemver_iff.mp canonicalB
  simp only [triple,splitAt_version wholeA canonicalX canonicalY canonicalZ,
    splitAt_version wholeB canonicalX' canonicalY' canonicalZ',String.toList_ofList,EmbeddingLike.apply_eq_iff_eq,
    Prod.mk.injEq] at same
  obtain ⟨major,minor,patch⟩ := same
  rw [← String.toList_inj,wholeA,wholeB,value_inj canonicalX canonicalX' major,value_inj canonicalY canonicalY' minor,
    value_inj canonicalZ canonicalZ' patch]

theorem checkFutureCoordinate_newer {field : String} {c : Prepared} {published : String}
    (accepted : checkFutureCoordinate field c published = []) (canonical : isMatch reSemver published = true) :
    isMatch reSemver c.version = true ∧ triple published < triple c.version := by
  simp only [checkFutureCoordinate,List.append_eq_nil_iff,checkFutureVersion] at accepted
  obtain ⟨⟨version,-⟩,-⟩ := accepted
  split_ifs at version with shape older
  have canonicalC : isMatch reSemver c.version = true := by simpa using shape
  refine ⟨canonicalC,?_⟩
  rw [semverGreater_eq canonicalC canonical] at older
  simpa [canonical] using older

/-- The release that a valid manifest prepares, as a candidate or a snapshot. -/
def Manifest.prepared (m : Manifest) : List Prepared := m.candidate.toList ++ m.snapshot.toList

theorem validate_prepared {m : Manifest} (valid : validate m = []) :
    ∀ c ∈ m.prepared, ∃ field, checkFutureCoordinate field c m.release.version = [] := by
  simp only [validate,List.append_eq_nil_iff] at valid
  obtain ⟨⟨⟨⟨⟨⟨⟨⟨⟨⟨⟨⟨-,-⟩,candidate⟩,snapshot⟩,-⟩,-⟩,-⟩,-⟩,-⟩,-⟩,-⟩,-⟩,-⟩ := valid
  intro c member
  simp only [Manifest.prepared,List.mem_append,Option.mem_toList] at member
  rcases member with isCandidate | isSnapshot
  · simp only [checkCandidate,isCandidate] at candidate
    exact ⟨_,candidate⟩
  · simp only [checkSnapshot,isSnapshot] at snapshot
    exact ⟨_,snapshot⟩

theorem validate_newer {m : Manifest} (valid : validate m = []) :
    isMatch reSemver m.release.version = true ∧
      ∀ c ∈ m.prepared, isMatch reSemver c.version = true ∧ triple m.release.version < triple c.version := by
  have prepared := validate_prepared valid
  simp only [validate,List.append_eq_nil_iff] at valid
  obtain ⟨⟨⟨⟨⟨⟨⟨⟨⟨⟨⟨⟨-,release⟩,-⟩,-⟩,-⟩,-⟩,-⟩,-⟩,-⟩,-⟩,-⟩,-⟩,-⟩ := valid
  have canonical : isMatch reSemver m.release.version = true := by
    simp only [checkRelease,List.append_eq_nil_iff,demand_eq_nil] at release
    exact release.1.1.1.1
  refine ⟨canonical,?_⟩
  intro c member
  obtain ⟨field,accepted⟩ := prepared c member
  exact checkFutureCoordinate_newer accepted canonical

def Newer (a b : String) : Prop := semverGreater a b = some true

/-- On canonical versions the comparison is the order of the triples, hence a strict total order, and no valid manifest
    prepares a release that is not newer than the published one. -/
theorem release_order_numeric :
    (∀ a b, isMatch reSemver a = true → isMatch reSemver b = true →
      semverGreater a b = some (decide (triple b < triple a)) ∧ (Newer a b ↔ triple b < triple a) ∧
        (Newer a b ∨ a = b ∨ Newer b a)) ∧
    (∀ a, isMatch reSemver a = true → ¬ Newer a a) ∧
    (∀ a b c, isMatch reSemver a = true → isMatch reSemver b = true → isMatch reSemver c = true →
      Newer a b → Newer b c → Newer a c) ∧
    ∀ m, validate m = [] → ∀ c ∈ m.prepared, Newer c.version m.release.version := by
  have order : ∀ a b, isMatch reSemver a = true → isMatch reSemver b = true → (Newer a b ↔ triple b < triple a) := by
    intro a b canonicalA canonicalB
    rw [Newer,semverGreater_eq canonicalA canonicalB]
    simp
  refine ⟨?_,?_,?_,?_⟩
  · intro a b canonicalA canonicalB
    refine ⟨semverGreater_eq canonicalA canonicalB,order a b canonicalA canonicalB,?_⟩
    rw [order a b canonicalA canonicalB,order b a canonicalB canonicalA]
    rcases lt_trichotomy (triple b) (triple a) with less | same | more
    · exact .inl less
    · exact .inr (.inl (triple_inj canonicalB canonicalA same).symm)
    · exact .inr (.inr more)
  · intro a canonical newer
    exact lt_irrefl _ ((order a a canonical canonical).mp newer)
  · intro a b c canonicalA canonicalB canonicalC first second
    rw [order a b canonicalA canonicalB] at first
    rw [order b c canonicalB canonicalC] at second
    exact (order a c canonicalA canonicalC).mpr (second.trans first)
  · intro m valid c member
    obtain ⟨canonical,newer⟩ := validate_newer valid
    obtain ⟨canonicalC,later⟩ := newer c member
    exact (order _ _ canonicalC canonical).mpr later

namespace Samples

/-- Ten comes after nine, and the prepared release of the manifest after the published one. -/
theorem newer_releases : Newer "2.10.0" "2.9.12" ∧ ¬ Newer "2.9.12" "2.10.0" ∧ Newer "2.15.0" "2.14.0" := by
  obtain ⟨numeric,-,-,prepared⟩ := release_order_numeric
  refine ⟨?_,?_,prepared manifest manifest_valid ⟨"2.15.0","v2.15.0","stable"⟩ (by decide)⟩
  · exact (numeric _ _ (by decide +kernel) (by decide +kernel)).2.1.mpr (by decide +kernel)
  · rw [(numeric _ _ (by decide +kernel) (by decide +kernel)).2.1]
    decide +kernel

end Samples

end Cap.Release
