import Mathlib.Data.List.TakeDrop
import Mathlib.Data.List.Infix
import Cap.ResourceRef
import Cap.TrustNode

/-!
URIs and legacy Redis pointers in the three SDKs. Go sees a text as its bytes, JavaScript as UTF-16
units and Python as code points; each checks lengths, white space and patterns on its own view.
-/
namespace Cap.Resource
open Cap.Checks Cap.Text
open Cap.Trust.Node (utf16 utf16_ascii ascii_of_utf16)

def maxLegacyRedisKeyBytes : Nat := 1024

/-- Whether there is an at sign and no colon before it. -/
def userinfo {α : Type} [BEq α] (sign colon : α) (key : List α) : Bool :=
  match key.findIdx? (· == sign),key.findIdx? (· == colon) with
  | none,_ => false
  | some _,none => true
  | some first,some second => first < second

def isUpper (c : Char) : Bool := 'A'.toNat ≤ c.toNat && c.toNat ≤ 'Z'.toNat

def isKeyStart (c : Char) : Bool := isUpper c || isLowerDigit c

def legacyRedisKeyPattern : List Char → Bool := word isKeyStart fun c => isKeyStart c || ":._@-[]".toList.contains c

def hasLegacyUserinfo (key : Bytes) : Bool := userinfo 0x40 0x3a key

def canonicalLegacyRedisKey (pointer : String) : Except Failure Bytes := do
  require (pointer.utf8ByteSize ≤ "redis://".utf8ByteSize + maxLegacyRedisKeyBytes && trimmed goSpace pointer)
    (resourceError "legacy Redis pointer is untrimmed or too long")
  require ("redis://".toList.isPrefixOf pointer.toList) (resourceError "legacy Redis pointer has the wrong scheme")
  let key := pointer.toList.drop "redis://".length
  require (legacyRedisKeyPattern key && !hasDots key && !hasLegacyUserinfo (utf8 (String.ofList key)))
    (resourceError "legacy Redis key is empty or ambiguous")
  pure (utf8 (String.ofList key))

namespace Codes

def ofAscii (s : String) : List Nat := s.toList.map Char.toNat

def between (low high : Char) (n : Nat) : Bool := low.toNat ≤ n && n ≤ high.toNat
def lower : Nat → Bool := between 'a' 'z'
def lowerDigit (n : Nat) : Bool := lower n || between '0' '9' n
def alphanumeric (n : Nat) : Bool := between 'A' 'Z' n || lowerDigit n

/-- `^[first][rest]*$`. -/
def word (first rest : Nat → Bool) : List Nat → Bool
  | [] => false
  | c :: cs => first c && cs.all rest

/-- `^([a-z][a-z0-9+.-]{0,31})://(.+)$`; what the point stands for depends on the language, and a scheme has no colon. -/
def uriPattern (dot : Nat → Bool) (text : List Nat) : Option (List Nat × List Nat) :=
  match text.span (· ≠ 0x3a) with
  | (scheme,0x3a :: 0x2f :: 0x2f :: rest) =>
    if word lower (fun c => lowerDigit c || (ofAscii "+.-").contains c) scheme && scheme.length ≤ 32 && !rest.isEmpty &&
        rest.all dot then
      some (scheme,rest)
    else none
  | _ => none

def legacyKeyPattern : List Nat → Bool := word alphanumeric fun c => alphanumeric c || (ofAscii ":._@-[]").contains c

def includes (needle : String) (text : List Nat) : Bool := decide (ofAscii needle <:+: text)

end Codes

namespace Node
open Codes

/-- A point does not stand for a line terminator. -/
def dot (unit : Nat) : Bool := !([0x0a,0x0d,0x2028,0x2029].contains unit)

def isPrintableAscii (value : String) : Bool := (utf8 value).all fun byte => 0x21 ≤ byte && byte ≤ 0x7e

def validatePath (authorityAndPath : List Nat) : Except String Unit := do
  let (authority,path) := authorityAndPath.span (· ≠ 0x2f)
  require (!authority.isEmpty && authority.length ≤ maxResourceAuthorityBytes) "resource URI authority is empty or too long"
  match path with
  | [] => pure ()
  | _ :: path =>
    require (!(path.splitOn 0x2f).any fun segment => segment.isEmpty || segment == ofAscii "." || includes ".." segment)
      "resource URI path is not normalized"

def validateUri (uri : String) : Except String Unit := do
  require (uri != "" && uri.utf8ByteSize ≤ maxResourceURIBytes && trimmed jsSpace uri)
    "resource URI is empty, untrimmed, or too long"
  require (isPrintableAscii uri) "resource URI must contain printable ASCII only"
  match uriPattern dot (utf16 uri) with
  | none => .error "resource URI scheme is not canonical"
  | some (_,authorityAndPath) =>
    require (!authorityAndPath.any (ofAscii "@?#\\%").contains) "resource URI contains credentials, metadata, or escapes"
    validatePath authorityAndPath

/-- `Buffer.from(key, "ascii")` keeps the low byte of each unit. -/
def canonicalLegacyRedisKey (pointer : String) : Except String Bytes := do
  require (trimmed jsSpace pointer && pointer.utf8ByteSize ≤ "redis://".length + maxLegacyRedisKeyBytes)
    "legacy Redis pointer is untrimmed or too long"
  require ((utf16 "redis://").isPrefixOf (utf16 pointer)) "legacy Redis pointer has the wrong scheme"
  let key := (utf16 pointer).drop "redis://".length
  require (!(!legacyKeyPattern key || includes ".." key || userinfo 0x40 0x3a key))
    "legacy Redis key is empty or ambiguous"
  pure (key.map UInt8.ofNat)

end Node

namespace Python
open Codes

inductive Failure where
  | resourceRef (message : String)
  /-- `UnicodeEncodeError` that nothing catches. -/
  | unicode
deriving DecidableEq

def points (s : String) : List Nat := s.toList.map Char.toNat

def dot (point : Nat) : Bool := point ≠ 0x0a

/-- `encode("ascii")`. -/
def encodeAscii (text : List Nat) : Option Bytes :=
  if text.all (· < 128) then some (text.map UInt8.ofNat) else none

def validatePath (authorityAndPath : List Nat) : Except Failure Unit := do
  let (authority,path) := authorityAndPath.span (· ≠ 0x2f)
  match encodeAscii authority with
  | none => .error .unicode
  | some encoded => do
    require (!authority.isEmpty && encoded.length ≤ maxResourceAuthorityBytes)
      (.resourceRef "resource URI authority is empty or too long")
    match path with
    | [] => pure ()
    | _ :: path =>
      require (!(path.splitOn 0x2f).any fun segment =>
          segment.isEmpty || segment == ofAscii "." || segment == ofAscii ".." || includes ".." segment)
        (.resourceRef "resource URI path is not normalized")

def validateUri (uri : String) : Except Failure Unit :=
  match encodeAscii (points uri) with
  | none => .error (.resourceRef "resource URI must be ASCII")
  | some encoded => do
    require (uri != "" && encoded.length ≤ maxResourceURIBytes && trimmed pySpace uri)
      (.resourceRef "resource URI is empty, untrimmed, or too long")
    require (!encoded.any fun byte => byte < 0x21 || byte > 0x7e) (.resourceRef "resource URI contains a control character")
    match uriPattern dot (points uri) with
    | none => .error (.resourceRef "resource URI scheme is not canonical")
    | some (_,authorityAndPath) =>
      require (!authorityAndPath.any (ofAscii "@?#\\%").contains)
        (.resourceRef "resource URI contains credentials, metadata, or escapes")
      validatePath authorityAndPath

def canonicalLegacyRedisKey (pointer : String) : Except Failure Bytes := do
  require (trimmed pySpace pointer && pointer.utf8ByteSize ≤ "redis://".length + maxLegacyRedisKeyBytes)
    (.resourceRef "legacy Redis pointer is untrimmed or too long")
  require ((points "redis://").isPrefixOf (points pointer)) (.resourceRef "legacy Redis pointer has the wrong scheme")
  let key := (points pointer).drop "redis://".length
  require (!(!legacyKeyPattern key || includes ".." key || userinfo 0x40 0x3a key))
    (.resourceRef "legacy Redis key is empty or ambiguous")
  match encodeAscii key with
  | none => .error .unicode
  | some bytes => pure bytes

end Python

/-! ### What the patterns match -/

variable {α : Type} {cs key rest scheme : List Char} {c : Char} {pointer s uri : String} {dot : Nat → Bool}
  {bytes : Bytes}

private theorem span_append_cons {p : α → Bool} {a b : List α} {x : α} (all : ∀ y ∈ a,p y = true)
    (stop : p x = false) : (a ++ x :: b).span p = (a,x :: b) := by
  simp [List.span_eq_takeWhile_dropWhile,List.takeWhile_append_of_pos all,List.dropWhile_append_of_pos all,stop]

private theorem eq_append_of_span {p : α → Bool} {a b c : List α} (spans : a.span p = (b,c)) :
    a = b ++ c ∧ ∀ x ∈ b,p x = true := by
  rw [List.span_eq_takeWhile_dropWhile] at spans
  obtain ⟨rfl,rfl⟩ := Prod.mk.inj spans
  exact ⟨(List.takeWhile_append_dropWhile).symm,fun x => List.mem_takeWhile_imp⟩

def Scheme (scheme : List Char) : Prop :=
  word isLower (fun c => isLowerDigit c || "+.-".toList.contains c) scheme = true ∧ scheme.length ≤ 32

theorem word_eq_true {first rest : Char → Bool} :
    word first rest cs = true ↔ ∃ c more,cs = c :: more ∧ first c = true ∧ ∀ d ∈ more,rest d = true := by
  cases cs <;> simp [word]

theorem Codes.word_eq_true {first rest : Nat → Bool} {cs : List Nat} :
    Codes.word first rest cs = true ↔ ∃ c more,cs = c :: more ∧ first c = true ∧ ∀ d ∈ more,rest d = true := by
  cases cs <;> simp [Codes.word]

theorem Scheme.mem (valid : Scheme scheme) (member : c ∈ scheme) :
    isLowerDigit c = true ∨ c = '+' ∨ c = '.' ∨ c = '-' := by
  obtain ⟨first,more,rfl,low,rest⟩ := word_eq_true.mp valid.1
  rcases List.mem_cons.mp member with rfl | later
  · exact .inl (by simp [isLowerDigit,low])
  · simpa using rest c later

theorem resourceURIPattern_eq_some :
    resourceURIPattern uri = some (scheme,rest) ↔
      uri.toList = scheme ++ ("://".toList ++ rest) ∧ Scheme scheme ∧ rest ≠ [] := by
  unfold resourceURIPattern
  constructor
  · intro found
    split at found
    case h_2 => cases found
    case h_1 start after spans =>
      split at found
      case isFalse => cases found
      case isTrue matched =>
        obtain ⟨rfl,rfl⟩ := Prod.mk.inj (Option.some.inj found)
        simp only [Bool.and_eq_true,decide_eq_true_eq,Bool.not_eq_true',List.isEmpty_eq_false_iff] at matched
        exact ⟨(eq_append_of_span spans).1,⟨matched.1.1,matched.1.2⟩,matched.2⟩
  · rintro ⟨text,valid,present⟩
    have plain : ∀ c ∈ scheme,decide (c ≠ ':') = true := by
      intro c member
      rw [decide_eq_true_eq]
      rintro rfl
      exact absurd (valid.mem member) (by decide)
    have spans : (scheme ++ ("://".toList ++ rest)).span (· ≠ ':') = (scheme,':' :: '/' :: '/' :: rest) :=
      span_append_cons plain rfl
    rw [text,spans]
    exact if_pos (by rw [valid.1]; simp [valid.2,present])

theorem Codes.uriPattern_eq_some {text scheme rest : List Nat} :
    uriPattern dot text = some (scheme,rest) ↔ text = scheme ++ (ofAscii "://" ++ rest) ∧
      word lower (fun c => lowerDigit c || (ofAscii "+.-").contains c) scheme = true ∧ scheme.length ≤ 32 ∧ rest ≠ [] ∧
      rest.all dot = true := by
  unfold uriPattern
  constructor
  · intro found
    split at found
    case h_2 => cases found
    case h_1 start after spans =>
      split at found
      case isFalse => cases found
      case isTrue matched =>
        obtain ⟨rfl,rfl⟩ := Prod.mk.inj (Option.some.inj found)
        simp only [Bool.and_eq_true,decide_eq_true_eq,Bool.not_eq_true',List.isEmpty_eq_false_iff] at matched
        exact ⟨(eq_append_of_span spans).1,matched.1.1.1,matched.1.1.2,matched.1.2,matched.2⟩
  · rintro ⟨text,valid,short,present,dots⟩
    have plain : ∀ c ∈ scheme,decide (c ≠ 0x3a) = true := by
      intro c member
      obtain ⟨first,more,rfl,low,others⟩ := Codes.word_eq_true.mp valid
      rw [decide_eq_true_eq]
      rintro rfl
      rcases List.mem_cons.mp member with rfl | later
      · exact absurd low (by decide)
      · exact absurd (others _ later) (by decide)
    have spans : (scheme ++ (ofAscii "://" ++ rest)).span (· ≠ 0x3a) = (scheme,0x3a :: 0x2f :: 0x2f :: rest) :=
      span_append_cons plain rfl
    rw [text,spans]
    exact if_pos (by rw [valid]; simp [short,dots,present])

/-! ### From characters to codes -/

theorem Codes.contains_toNat (s : String) (c : Char) : (ofAscii s).contains c.toNat = s.toList.contains c := by
  rw [Bool.eq_iff_iff]
  simp only [ofAscii,List.contains_iff_mem,List.mem_map,Char.toNat_inj]
  simp

theorem Codes.word_map (first rest : Nat → Bool) (cs : List Char) : word first rest (cs.map Char.toNat) =
    Resource.word (fun c => first c.toNat) (fun c => rest c.toNat) cs := by
  cases cs with
  | nil => rfl
  | cons c cs => simp [word,Resource.word,Function.comp_def]

private theorem scheme_map (scheme : List Char) :
    Codes.word Codes.lower (fun c => Codes.lowerDigit c || (Codes.ofAscii "+.-").contains c) (scheme.map Char.toNat) =
      word isLower (fun c => isLowerDigit c || "+.-".toList.contains c) scheme := by
  rw [Codes.word_map]
  simp only [Codes.contains_toNat]
  rfl

theorem Codes.uriPattern_map (dots : ∀ c ∈ uri.toList,dot c.toNat = true) :
    uriPattern dot (uri.toList.map Char.toNat) =
      (resourceURIPattern uri).map (Prod.map (List.map Char.toNat) (List.map Char.toNat)) := by
  cases found : resourceURIPattern uri with
  | some parts =>
    obtain ⟨text,valid,present⟩ := resourceURIPattern_eq_some.mp found
    refine uriPattern_eq_some.mpr ⟨?_,?_,?_,?_,?_⟩
    · rw [text,List.map_append]
      rfl
    · rw [scheme_map]
      exact valid.1
    · rw [List.length_map]
      exact valid.2
    · simpa using present
    · rw [List.all_map,List.all_eq_true]
      intro c member
      exact dots c (by rw [text]; simp [member])
  | none =>
    cases other : uriPattern dot (uri.toList.map Char.toNat) with
    | none => rfl
    | some parts =>
      obtain ⟨text,valid,short,present,_⟩ := uriPattern_eq_some.mp other
      obtain ⟨scheme,more,characters,first,second⟩ := List.map_eq_append_iff.mp text
      obtain ⟨colon,rest,rfl,third,last⟩ := List.map_eq_append_iff.mp second
      obtain rfl : colon = "://".toList := (List.map_injective_iff.mpr fun _ _ => Char.toNat_inj.mp) third
      rw [← first,scheme_map] at valid
      rw [← first,List.length_map] at short
      have : resourceURIPattern uri = some (scheme,rest) :=
        resourceURIPattern_eq_some.mpr ⟨characters,⟨valid,short⟩,by rintro rfl; exact present last.symm⟩
      rw [found] at this
      cases this

theorem hasDots_iff : hasDots cs = true ↔ ['.','.'] <:+: cs := by
  induction cs using hasDots.induct with
  | case1 rest => simpa [hasDots] using ⟨[],rest,rfl⟩
  | case2 c cs other ih =>
    rw [hasDots.eq_2 _ _ other,ih,List.infix_cons_iff]
    constructor
    · exact .inr
    · rintro (⟨tail,start⟩ | inside)
      · obtain ⟨rfl,rfl⟩ := List.cons.inj start
        exact absurd rfl (other tail rfl)
      · exact inside
  | case3 => simp [hasDots]

theorem Codes.includes_dots (cs : List Char) : includes ".." (cs.map Char.toNat) = hasDots cs := by
  have injective : Function.Injective (List.map Char.toNat) := List.map_injective_iff.mpr fun _ _ => Char.toNat_inj.mp
  rw [Bool.eq_iff_iff,hasDots_iff,includes,decide_eq_true_eq]
  constructor
  · rintro ⟨before,after,text⟩
    obtain ⟨start,last,rfl,first,_⟩ := List.map_eq_append_iff.mp text.symm
    obtain ⟨head,middle,rfl,_,dots⟩ := List.map_eq_append_iff.mp first
    obtain rfl : middle = ['.','.'] := injective dots
    exact ⟨head,last,rfl⟩
  · exact fun inside => inside.map Char.toNat

theorem segments_ne_nil (cs : List Char) : segments cs ≠ [] := by
  cases cs with
  | nil => simp [segments]
  | cons c cs =>
    rw [segments]
    split
    · simp
    · split <;> simp

theorem splitOn_map (cs : List Char) : (cs.map Char.toNat).splitOn 0x2f = (segments cs).map (List.map Char.toNat) := by
  induction cs with
  | nil => rfl
  | cons c cs ih =>
    rw [List.splitOn] at ih
    rw [List.map_cons,List.splitOn,List.splitOnP_cons_eq_if_modifyHead,ih,segments]
    by_cases slash : c = '/'
    · simp [slash]
    · have other : (c.toNat == 0x2f) = false := by
        rw [beq_eq_false_iff_ne]
        intro same
        exact slash (Char.toNat_inj.mp same)
      rw [other,if_neg slash]
      cases parts : segments cs with
      | nil => exact absurd parts (segments_ne_nil cs)
      | cons segment more => simp

/-- What may follow the slashes of a URI. -/
def Path (authorityAndPath : List Char) : Prop :=
  (authorityAndPath.takeWhile (· ≠ '/')) ≠ [] ∧ (authorityAndPath.takeWhile (· ≠ '/')).length ≤ maxResourceAuthorityBytes ∧
    ∀ slash path,authorityAndPath.dropWhile (· ≠ '/') = slash :: path →
      ∀ segment ∈ segments path,segment ≠ [] ∧ segment ≠ ['.'] ∧ hasDots segment = false

private theorem utf8ByteSize_ascii (ascii : ∀ c ∈ cs,c.toNat < 128) :
    (String.ofList cs).utf8ByteSize = cs.length := by
  have bytes := congrArg List.length (utf8_ascii (s := String.ofList cs) (by simpa using ascii))
  rw [List.length_map,List.length_map,String.toList_ofList] at bytes
  exact bytes

theorem validateResourcePath_eq_ok (ascii : ∀ c ∈ rest,c.toNat < 128) :
    validateResourcePath rest = .ok () ↔ Path rest := by
  unfold validateResourcePath Path
  rw [List.span_eq_takeWhile_dropWhile]
  have size := @utf8ByteSize_ascii (rest.takeWhile (· ≠ '/')) fun c member => ascii c (List.takeWhile_subset _ member)
  simp only [size,check_bind_eq_ok,require_eq_ok,Bool.and_eq_true,Bool.not_eq_true',List.isEmpty_eq_false_iff,
    decide_eq_true_eq,and_assoc]
  refine and_congr_right fun _ => and_congr_right fun _ => ?_
  cases rest.dropWhile (· ≠ '/') with
  | nil => simp
  | cons slash path =>
    simp only [require_eq_ok,List.all_eq_true,Bool.and_eq_true,Bool.not_eq_true',List.isEmpty_eq_false_iff,
      decide_eq_true_eq,List.cons.injEq]
    constructor
    · rintro all _ _ ⟨rfl,rfl⟩ segment member
      obtain ⟨⟨⟨present,single⟩,_⟩,dots⟩ := all segment member
      exact ⟨present,single,dots⟩
    · intro all segment member
      obtain ⟨present,single,dots⟩ := all slash path ⟨rfl,rfl⟩ segment member
      refine ⟨⟨⟨present,single⟩,?_⟩,dots⟩
      rintro rfl
      cases dots

private theorem toNat_beq (segment : List Char) (s : String) :
    (segment.map Char.toNat == Codes.ofAscii s) = decide (segment = s.toList) := by
  rw [Bool.eq_iff_iff,beq_iff_eq,decide_eq_true_eq]
  exact (List.map_injective_iff.mpr fun _ _ => Char.toNat_inj.mp).eq_iff

private theorem span_slash (rest : List Char) : (rest.map Char.toNat).span (· ≠ 0x2f) =
    ((rest.takeWhile (· ≠ '/')).map Char.toNat,(rest.dropWhile (· ≠ '/')).map Char.toNat) := by
  have same : (fun n : Nat => decide (n ≠ 0x2f)) ∘ Char.toNat = fun c => decide (c ≠ '/') := by
    funext c
    exact decide_eq_decide.mpr (not_congr (@Char.toNat_inj c '/'))
  rw [List.span_eq_takeWhile_dropWhile,List.takeWhile_map,List.dropWhile_map,same]

private theorem segments_ok {ε : Type} {message : ε} {bad : List Nat → Bool} {path : List Char}
    (refuses : ∀ segment : List Char,bad (segment.map Char.toNat) =
      (segment.isEmpty || decide (segment = ['.']) || hasDots segment)) :
    (match path.map Char.toNat with
      | [] => pure ()
      | _ :: path => require (!(path.splitOn 0x2f).any bad) message) = .ok () ↔
      ∀ slash tail,path = slash :: tail → ∀ segment ∈ segments tail,segment ≠ [] ∧ segment ≠ ['.'] ∧ hasDots segment = false := by
  cases path with
  | nil => simp
  | cons slash tail =>
    have accepted : (!((tail.map Char.toNat).splitOn 0x2f).any bad) = true ↔
        ∀ segment ∈ segments tail,segment ≠ [] ∧ segment ≠ ['.'] ∧ hasDots segment = false := by
      rw [splitOn_map,List.any_map,Bool.not_eq_true',List.any_eq_false]
      refine forall₂_congr fun segment _ => ?_
      rw [Function.comp_apply,refuses,Bool.not_eq_true,Bool.or_eq_false_iff,Bool.or_eq_false_iff,decide_eq_false_iff_not,
        List.isEmpty_eq_false_iff,and_assoc]
    simp only [List.map_cons,require_eq_ok,accepted,List.cons.injEq]
    constructor
    · rintro all _ _ ⟨rfl,rfl⟩
      exact all
    · exact fun all => all slash tail ⟨rfl,rfl⟩

theorem Node.validatePath_eq_ok : validatePath (rest.map Char.toNat) = .ok () ↔ Path rest := by
  unfold validatePath Path
  rw [span_slash]
  simp only [check_bind_eq_ok,require_eq_ok,Bool.and_eq_true,Bool.not_eq_true',List.isEmpty_eq_false_iff,ne_eq,
    List.map_eq_nil_iff,decide_eq_true_eq,List.length_map,and_assoc]
  refine and_congr_right fun _ => and_congr_right fun _ => segments_ok fun segment => ?_
  rw [toNat_beq,Codes.includes_dots]
  simp

private theorem bytes_of_codes (ascii : ∀ c ∈ key,c.toNat < 128) :
    (key.map Char.toNat).map UInt8.ofNat = utf8 (String.ofList key) := by
  have bytes := congrArg (List.map UInt8.ofNat) (utf8_ascii (s := String.ofList key) (by simpa using ascii))
  rw [String.toList_ofList] at bytes
  simpa [Function.comp_def] using bytes.symm

theorem Python.encodeAscii_map (ascii : ∀ c ∈ cs,c.toNat < 128) :
    encodeAscii (cs.map Char.toNat) = some (utf8 (String.ofList cs)) := by
  rw [encodeAscii,if_pos (by simpa using ascii),bytes_of_codes ascii]

theorem Python.validatePath_eq_ok (ascii : ∀ c ∈ rest,c.toNat < 128) :
    validatePath (rest.map Char.toNat) = .ok () ↔ Path rest := by
  unfold validatePath Path
  rw [span_slash]
  have before : ∀ c ∈ rest.takeWhile (· ≠ '/'),c.toNat < 128 := fun c member => ascii c (List.takeWhile_subset _ member)
  have size : (utf8 (String.ofList (rest.takeWhile (· ≠ '/')))).length = _ := utf8ByteSize_ascii before
  simp only [encodeAscii_map before,size,check_bind_eq_ok,require_eq_ok,Bool.and_eq_true,Bool.not_eq_true',
    List.isEmpty_eq_false_iff,ne_eq,List.map_eq_nil_iff,decide_eq_true_eq,and_assoc]
  refine and_congr_right fun _ => and_congr_right fun _ => segments_ok fun segment => ?_
  rw [toNat_beq,toNat_beq,Codes.includes_dots]
  by_cases dots : segment = ['.','.']
  · rw [dots]
    rfl
  · simp [dots]

def Printable (cs : List Char) : Prop := ∀ c ∈ cs,0x21 ≤ c.toNat ∧ c.toNat ≤ 0x7e

theorem Printable.ascii (printable : Printable cs) : ∀ c ∈ cs,c.toNat < 128 := by
  intro c member
  have := printable c member
  omega

def Blank (space : Char → Bool) : Prop := ∀ c : Char,0x21 ≤ c.toNat → c.toNat ≤ 0x7e → space c = false

/-- No language trims a printable character. -/
theorem spaces_blank : Blank goSpace ∧ Blank jsSpace ∧ Blank pySpace := by
  refine ⟨?_,?_,?_⟩ <;> intro c low high <;>
    simp only [goSpace,jsSpace,pySpace,commonSpace,Bool.or_eq_false_iff,Bool.and_eq_false_iff,decide_eq_false_iff_not,
      beq_eq_false_iff_ne] <;>
    omega

theorem Printable.trimmed {space : Char → Bool} (blank : Blank space) (printable : Printable s.toList) :
    Text.trimmed space s = true := by
  have none : ∀ c ∈ s.toList,¬ space c = true := fun c member => by
    simp [blank c (printable c member).1 (printable c member).2]
  unfold Text.trimmed trimBy
  have front : s.toList.dropWhile space = s.toList := by
    cases text : s.toList with
    | nil => rfl
    | cons c cs => exact List.dropWhile_cons_of_neg (none c (by simp [text]))
  rw [beq_iff_eq,front,List.rdropWhile_eq_self_iff]
  exact fun present => none _ (List.getLast_mem present)

structure Uri (uri : String) : Prop where
  short : uri.utf8ByteSize ≤ maxResourceURIBytes
  printable : Printable uri.toList
  parts : ∃ scheme rest,uri.toList = scheme ++ ("://".toList ++ rest) ∧ Scheme scheme ∧ Path rest ∧
    ∀ c ∈ rest,c ∉ "@?#\\%".toList

theorem Path.ne_nil (path : Path rest) : rest ≠ [] := by
  rintro rfl
  exact path.1 rfl

/-- The checks of a URI, with the white space that is trimmed and with what follows them. -/
private theorem uri_checks {space : Char → Bool} (blank : Blank space) {parsed : Prop}
    (means : Printable uri.toList → (parsed ↔ ∃ parts,resourceURIPattern uri = some parts ∧
      (∀ c ∈ parts.2,c ∉ "@?#\\%".toList) ∧ Path parts.2)) :
    uri ≠ "" ∧ uri.utf8ByteSize ≤ maxResourceURIBytes ∧ trimmed space uri = true ∧ Printable uri.toList ∧ parsed ↔
      Uri uri := by
  constructor
  · rintro ⟨_,short,_,printable,accepted⟩
    obtain ⟨⟨scheme,rest⟩,found,clean,path⟩ := (means printable).mp accepted
    obtain ⟨text,valid,_⟩ := resourceURIPattern_eq_some.mp found
    exact ⟨short,printable,scheme,rest,text,valid,path,clean⟩
  · rintro ⟨short,printable,scheme,rest,text,valid,path,clean⟩
    have found := resourceURIPattern_eq_some.mpr ⟨text,valid,path.ne_nil⟩
    refine ⟨?_,short,printable.trimmed blank,printable,(means printable).mpr ⟨_,found,clean,path⟩⟩
    rintro rfl
    exact absurd text (by simp)

private theorem rest_ascii {parts : List Char × List Char} (printable : Printable uri.toList)
    (found : resourceURIPattern uri = some parts) : ∀ c ∈ parts.2,c.toNat < 128 := by
  intro c member
  exact printable.ascii c (by rw [(resourceURIPattern_eq_some.mp found).1]; simp [member])

theorem validateResourceURI_eq_ok : validateResourceURI uri = .ok () ↔ Uri uri := by
  unfold validateResourceURI
  simp only [check_bind_eq_ok,require_eq_ok,Bool.and_eq_true,bne_iff_ne,decide_eq_true_eq,printableASCII,
    List.all_eq_true,and_assoc]
  refine uri_checks spaces_blank.1 fun printable => ?_
  cases found : resourceURIPattern uri with
  | none => simp
  | some parts => simp [validateResourcePath_eq_ok (rest_ascii printable found)]

theorem Node.isPrintableAscii_iff {value : String} : isPrintableAscii value = true ↔ Printable value.toList := by
  unfold isPrintableAscii Printable
  simp only [List.all_eq_true,Bool.and_eq_true,decide_eq_true_eq]
  have bounds (byte : UInt8) : 0x21 ≤ byte ∧ byte ≤ 0x7e ↔ 0x21 ≤ byte.toNat ∧ byte.toNat ≤ 0x7e := by
    rfl
  simp only [bounds]
  constructor
  · intro bytes
    have ascii : ∀ c ∈ value.toList,c.toNat < 128 := ascii_of_utf8 fun byte member => by
      have := (bytes byte member).2
      exact UInt8.lt_iff_toNat_lt.mpr (Nat.lt_of_le_of_lt this (by decide))
    intro c member
    obtain ⟨byte,inside,same⟩ := List.mem_map.mp ((utf8_ascii ascii) ▸ List.mem_map_of_mem member)
    exact same ▸ bytes byte inside
  · intro printable byte member
    obtain ⟨c,inside,same⟩ := List.mem_map.mp ((utf8_ascii (Printable.ascii printable)) ▸ List.mem_map_of_mem member)
    exact same ▸ printable c inside

theorem dots_printable (printing : ∀ n,0x21 ≤ n → n ≤ 0x7e → dot n = true)
    (printable : Printable uri.toList) : ∀ c ∈ uri.toList,dot c.toNat = true :=
  fun c member => printing _ (printable c member).1 (printable c member).2

private theorem clean_map :
    (!(rest.map Char.toNat).any (Codes.ofAscii "@?#\\%").contains) = true ↔ ∀ c ∈ rest,c ∉ "@?#\\%".toList := by
  rw [Bool.not_eq_true',List.any_map,List.any_eq_false]
  refine forall₂_congr fun c _ => ?_
  rw [Function.comp_apply,Codes.contains_toNat,List.contains_iff_mem]

theorem Node.validateUri_eq_ok : validateUri uri = .ok () ↔ Uri uri := by
  unfold validateUri
  simp only [check_bind_eq_ok,require_eq_ok,Bool.and_eq_true,bne_iff_ne,decide_eq_true_eq,isPrintableAscii_iff,and_assoc]
  refine uri_checks spaces_blank.2.1 fun printable => ?_
  have printing : ∀ n,0x21 ≤ n → n ≤ 0x7e → dot n = true := by
    simp only [dot,List.contains_cons,List.contains_nil,Bool.or_false,Bool.not_eq_true',Bool.or_eq_false_iff,
      beq_eq_false_iff_ne]
    omega
  rw [utf16_ascii printable.ascii,Codes.uriPattern_map (dots_printable printing printable)]
  cases resourceURIPattern uri with
  | none => simp
  | some parts =>
    simp only [Option.map_some,Prod.map,check_bind_eq_ok,require_eq_ok,clean_map,validatePath_eq_ok,Option.some.injEq,
      exists_eq_left']

private theorem controls_iff {value : String} :
    (!(utf8 value).any fun byte => byte < 0x21 || byte > 0x7e) = true ↔ Printable value.toList := by
  rw [← Node.isPrintableAscii_iff,Node.isPrintableAscii,Bool.not_eq_true',List.any_eq_false,List.all_eq_true]
  refine forall₂_congr fun byte _ => ?_
  simp only [Bool.or_eq_true,decide_eq_true_eq,not_or,Bool.and_eq_true,gt_iff_lt,UInt8.not_lt]

theorem Python.validateUri_eq_ok : validateUri uri = .ok () ↔ Uri uri := by
  unfold validateUri
  by_cases ascii : ∀ c ∈ uri.toList,c.toNat < 128
  · have encoded := encodeAscii_map ascii
    rw [String.ofList_toList] at encoded
    rw [points,encoded]
    simp only [check_bind_eq_ok,require_eq_ok,Bool.and_eq_true,bne_iff_ne,decide_eq_true_eq,controls_iff,and_assoc]
    refine uri_checks spaces_blank.2.2 fun printable => ?_
    have printing : ∀ n,0x21 ≤ n → n ≤ 0x7e → dot n = true := by
      simp only [dot,decide_eq_true_eq]
      omega
    rw [Codes.uriPattern_map (dots_printable printing printable)]
    cases found : resourceURIPattern uri with
    | none => simp
    | some parts =>
      simp only [Option.map_some,Prod.map,check_bind_eq_ok,require_eq_ok,clean_map,
        validatePath_eq_ok (rest_ascii printable found),Option.some.injEq,exists_eq_left']
  · have refused : encodeAscii (points uri) = none := if_neg (by simpa [points] using ascii)
    rw [refused]
    exact iff_of_false (by simp) fun valid => ascii valid.printable.ascii

/-- The pointers that have a key; their characters. -/
structure LegacyPointer (pointer : String) (key : List Char) : Prop where
  text : pointer.toList = "redis://".toList ++ key
  short : pointer.utf8ByteSize ≤ "redis://".length + maxLegacyRedisKeyBytes
  pattern : legacyRedisKeyPattern key = true
  dots : hasDots key = false
  plain : userinfo '@' ':' key = false

theorem printableASCII_printable (printable : printableASCII s = true) : Printable s.toList := by
  simpa [printableASCII,Printable] using printable

private theorem legacyKeyPattern_map (key : List Char) :
    Codes.legacyKeyPattern (key.map Char.toNat) = legacyRedisKeyPattern key := by
  unfold Codes.legacyKeyPattern
  rw [Codes.word_map]
  simp only [Codes.contains_toNat]
  rfl

private theorem legacyKeyPattern_printable {key : List Nat} (pattern : Codes.legacyKeyPattern key = true) :
    ∀ unit ∈ key,0x21 ≤ unit ∧ unit ≤ 0x7e := by
  have letter {n : Nat} (letter : Codes.alphanumeric n = true) : 0x21 ≤ n ∧ n ≤ 0x7e := by
    simp only [Codes.alphanumeric,Codes.lowerDigit,Codes.lower,Codes.between,Bool.or_eq_true,Bool.and_eq_true,
      decide_eq_true_eq,Char.reduceToNat] at letter
    omega
  obtain ⟨first,more,rfl,start,others⟩ := Codes.word_eq_true.mp pattern
  intro unit member
  rcases List.mem_cons.mp member with rfl | later
  · exact letter start
  · rcases Bool.or_eq_true _ _ |>.mp (others unit later) with next | sign
    · exact letter next
    · have signs : ∀ n ∈ Codes.ofAscii ":._@-[]",0x21 ≤ n ∧ n ≤ 0x7e := by decide
      exact signs unit (List.contains_iff_mem.mp sign)

theorem legacyRedisKeyPattern_printable (pattern : legacyRedisKeyPattern key = true) : Printable key := by
  rw [← legacyKeyPattern_map] at pattern
  exact fun c member => legacyKeyPattern_printable pattern _ (List.mem_map_of_mem member)

theorem LegacyPointer.printable (legacy : LegacyPointer pointer key) :
    Printable pointer.toList := by
  rw [legacy.text]
  intro c member
  rcases List.mem_append.mp member with scheme | inside
  · exact printableASCII_printable (by decide : printableASCII "redis://" = true) c scheme
  · exact legacyRedisKeyPattern_printable legacy.pattern c inside

theorem userinfo_map {β : Type} [BEq α] [LawfulBEq α] [BEq β] [LawfulBEq β] {f : α → β}
    (injective : Function.Injective f)
    (sign colon : α) (key : List α) : userinfo (f sign) (f colon) (key.map f) = userinfo sign colon key := by
  have same (a : α) : (· == f a) ∘ f = (· == a) := by
    funext b
    rw [Function.comp_apply,Bool.eq_iff_iff,beq_iff_eq,beq_iff_eq,injective.eq_iff]
  unfold userinfo
  rw [List.findIdx?_map,List.findIdx?_map,same,same]

theorem hasLegacyUserinfo_ascii (ascii : ∀ c ∈ key,c.toNat < 128) :
    hasLegacyUserinfo (utf8 (String.ofList key)) = userinfo '@' ':' key := by
  have bytes := utf8_ascii (s := String.ofList key) (by simpa using ascii)
  rw [String.toList_ofList] at bytes
  calc hasLegacyUserinfo (utf8 (String.ofList key))
      = userinfo 0x40 0x3a ((utf8 (String.ofList key)).map UInt8.toNat) :=
        (userinfo_map (fun _ _ => UInt8.toNat_inj.mp) _ _ _).symm
    _ = userinfo 0x40 0x3a (key.map Char.toNat) := by rw [bytes]
    _ = userinfo '@' ':' key := userinfo_map (fun _ _ => Char.toNat_inj.mp) '@' ':' _

private theorem exists_legacy_iff : (∃ key,LegacyPointer pointer key ∧ bytes = utf8 (String.ofList key)) ↔
    LegacyPointer pointer (pointer.toList.drop "redis://".length) ∧
      bytes = utf8 (String.ofList (pointer.toList.drop "redis://".length)) := by
  constructor
  · rintro ⟨key,legacy,rfl⟩
    obtain rfl : pointer.toList.drop "redis://".length = key := by rw [legacy.text]; rfl
    exact ⟨legacy,rfl⟩
  · exact fun legacy => ⟨_,legacy⟩

theorem canonicalLegacyRedisKey_eq_ok :
    canonicalLegacyRedisKey pointer = .ok bytes ↔ ∃ key,LegacyPointer pointer key ∧ bytes = utf8 (String.ofList key) := by
  unfold canonicalLegacyRedisKey
  simp only [check_bind_eq_ok,require_eq_ok,Bool.and_eq_true,decide_eq_true_eq,Bool.not_eq_true',pure_eq_ok,
    List.isPrefixOf_iff_prefix,exists_legacy_iff]
  constructor
  · rintro ⟨⟨short,_⟩,⟨key,text⟩,⟨⟨pattern,dots⟩,plain⟩,rfl⟩
    rw [hasLegacyUserinfo_ascii (legacyRedisKeyPattern_printable pattern).ascii] at plain
    exact ⟨⟨by rw [← text]; rfl,short,pattern,dots,plain⟩,rfl⟩
  · rintro ⟨legacy,rfl⟩
    rw [hasLegacyUserinfo_ascii (legacyRedisKeyPattern_printable legacy.pattern).ascii]
    exact ⟨⟨legacy.short,legacy.printable.trimmed spaces_blank.1⟩,⟨_,legacy.text.symm⟩,
      ⟨⟨legacy.pattern,legacy.dots⟩,legacy.plain⟩,rfl⟩

private theorem legacy_codes {codes : List Nat} (same : codes = pointer.toList.map Char.toNat) {space : Char → Bool}
    (blank : Blank space) :
    (((trimmed space pointer && decide (pointer.utf8ByteSize ≤ "redis://".length + maxLegacyRedisKeyBytes)) = true ∧
      (Codes.ofAscii "redis://").isPrefixOf codes = true) ∧ (!(!Codes.legacyKeyPattern (codes.drop "redis://".length) || Codes.includes ".." (codes.drop "redis://".length) ||
        userinfo 0x40 0x3a (codes.drop "redis://".length))) = true) ↔
      LegacyPointer pointer (pointer.toList.drop "redis://".length) := by
  have rest : codes.drop "redis://".length = (pointer.toList.drop "redis://".length).map Char.toNat := by
    rw [same,List.map_drop]
  have plain : userinfo 0x40 0x3a ((pointer.toList.drop "redis://".length).map Char.toNat) =
      userinfo '@' ':' (pointer.toList.drop "redis://".length) := userinfo_map (fun _ _ => Char.toNat_inj.mp) '@' ':' _
  have start : (Codes.ofAscii "redis://").isPrefixOf codes = true ↔
      pointer.toList = "redis://".toList ++ pointer.toList.drop "redis://".length := by
    rw [List.isPrefixOf_iff_prefix,same,Codes.ofAscii]
    constructor
    · rintro ⟨tail,text⟩
      obtain ⟨front,key,characters,first,_⟩ := List.map_eq_append_iff.mp text.symm
      obtain rfl : front = "redis://".toList := (List.map_injective_iff.mpr fun _ _ => Char.toNat_inj.mp) first
      rw [characters]
      rfl
    · intro text
      rw [text]
      exact ⟨_,(List.map_append).symm⟩
  rw [start,rest,legacyKeyPattern_map,Codes.includes_dots,plain]
  simp only [Bool.and_eq_true,decide_eq_true_eq,Bool.not_eq_true',Bool.or_eq_false_iff,Bool.not_eq_false']
  constructor
  · rintro ⟨⟨⟨_,short⟩,text⟩,⟨pattern,dots⟩,plain⟩
    exact ⟨text,short,pattern,dots,plain⟩
  · exact fun legacy => ⟨⟨⟨legacy.printable.trimmed blank,legacy.short⟩,legacy.text⟩,⟨legacy.pattern,legacy.dots⟩,
      legacy.plain⟩

theorem Node.canonicalLegacyRedisKey_eq_ok :
    canonicalLegacyRedisKey pointer = .ok bytes ↔ ∃ key,LegacyPointer pointer key ∧ bytes = utf8 (String.ofList key) := by
  have scheme : utf16 "redis://" = Codes.ofAscii "redis://" := by decide
  unfold canonicalLegacyRedisKey
  simp only [check_bind_eq_ok,require_eq_ok,pure_eq_ok,exists_legacy_iff,scheme]
  by_cases ascii : ∀ c ∈ pointer.toList,c.toNat < 128
  · have same := utf16_ascii ascii
    rw [← legacy_codes same spaces_blank.2.1,and_assoc,and_assoc,same,← List.map_drop,
      bytes_of_codes fun c member => ascii c (List.mem_of_mem_drop member),eq_comm (a := bytes)]
  · refine iff_of_false ?_ fun legacy => ascii legacy.1.printable.ascii
    rintro ⟨_,start,accepted,_⟩
    -- the scheme and the pattern only leave units of ASCII
    refine ascii (ascii_of_utf16 fun unit member => ?_)
    simp only [Bool.not_eq_true',Bool.or_eq_false_iff,Bool.not_eq_false'] at accepted
    obtain ⟨tail,units⟩ := List.isPrefixOf_iff_prefix.mp start
    have low : ∀ n ∈ Codes.ofAscii "redis://",n < 128 := by decide
    rw [← units] at member accepted
    rcases List.mem_append.mp member with front | inside
    · exact low unit front
    · exact Nat.lt_of_le_of_lt (legacyKeyPattern_printable accepted.1.1 unit inside).2 (by decide)

theorem Python.canonicalLegacyRedisKey_eq_ok :
    canonicalLegacyRedisKey pointer = .ok bytes ↔ ∃ key,LegacyPointer pointer key ∧ bytes = utf8 (String.ofList key) := by
  have same : points pointer = pointer.toList.map Char.toNat := rfl
  unfold canonicalLegacyRedisKey
  simp only [check_bind_eq_ok,require_eq_ok,exists_legacy_iff]
  rw [← and_assoc,← and_assoc,show points "redis://" = Codes.ofAscii "redis://" from rfl,
    legacy_codes same spaces_blank.2.2]
  refine and_congr_right fun legacy => ?_
  rw [same,← List.map_drop,encodeAscii_map (legacyRedisKeyPattern_printable legacy.pattern).ascii]
  exact pure_eq_ok.trans eq_comm

/-- A URI that needs no normalisation and carries nothing but a place. -/
structure Canonical (uri : String) : Prop where
  printable : ∀ c ∈ uri.toList,0x21 ≤ c.toNat ∧ c.toNat ≤ 0x7e
  unspaced : ∀ c ∈ uri.toList,goSpace c = false ∧ jsSpace c = false ∧ pySpace c = false
  clean : ∀ c ∈ uri.toList,c ∉ ['@','?','#','\\','%']
  parts : ∃ scheme authority path,uri.toList = scheme ++ "://".toList ++ (authority ++ path) ∧
    scheme ≠ [] ∧ scheme.length ≤ 32 ∧ (∀ c ∈ scheme,isLower c = true ∨ isDigit c = true ∨ c ∈ ['+','.','-']) ∧
    authority ≠ [] ∧ '/' ∉ authority ∧ (utf8 (String.ofList authority)).length ≤ 255 ∧
    (path = [] ∨ ∃ tail,path = '/' :: tail ∧ ∀ segment ∈ segments tail,segment ≠ [] ∧ segment ≠ ['.'] ∧ segment ≠ ['.','.'])

private theorem Scheme.clean (valid : Scheme scheme) (member : c ∈ scheme) :
    c ∉ "@?#\\%".toList := by
  have signs : "@?#\\%".toList.any (fun d => isLowerDigit d || d = '+' || d = '.' || d = '-') = false := by decide
  intro sign
  apply List.any_eq_false.mp signs c sign
  simpa [or_assoc] using valid.mem member

theorem Uri.clean (valid : Uri uri) : ∀ c ∈ uri.toList,c ∉ "@?#\\%".toList := by
  obtain ⟨scheme,rest,text,start,_,clean⟩ := valid.parts
  rw [text]
  intro c member
  rcases List.mem_append.mp member with first | later
  · exact start.clean first
  · rcases List.mem_append.mp later with slashes | last
    · have apart : "://".toList.any "@?#\\%".toList.contains = false := by decide
      exact fun sign => List.any_eq_false.mp apart c slashes (List.contains_iff_mem.mpr sign)
    · exact clean c last

theorem Path.parts (valid : Path rest) : ∃ authority path,rest = authority ++ path ∧ authority ≠ [] ∧
    '/' ∉ authority ∧ authority.length ≤ maxResourceAuthorityBytes ∧
    (path = [] ∨ ∃ tail,path = '/' :: tail ∧ ∀ segment ∈ segments tail,segment ≠ [] ∧ segment ≠ ['.'] ∧ segment ≠ ['.','.']) := by
  obtain ⟨present,short,normal⟩ := valid
  refine ⟨_,_,(List.takeWhile_append_dropWhile).symm,present,?_,short,?_⟩
  · intro slash
    simpa using List.mem_takeWhile_imp slash
  · cases path : rest.dropWhile (· ≠ '/') with
    | nil => exact .inl rfl
    | cons slash tail =>
      have left : rest.dropWhile (· ≠ '/') ≠ [] := by rw [path]; exact List.cons_ne_nil _ _
      have separator := List.head_dropWhile_not (fun c => decide (c ≠ '/')) left
      simp only [path,List.head_cons,decide_eq_false_iff_not,not_not] at separator
      refine .inr ⟨tail,by rw [separator],fun segment member => ?_⟩
      obtain ⟨filled,single,dots⟩ := normal slash tail path segment member
      refine ⟨filled,single,?_⟩
      rintro rfl
      cases dots

theorem Uri.canonical (valid : Uri uri) : Canonical uri := by
  obtain ⟨scheme,rest,text,start,path,_⟩ := valid.parts
  obtain ⟨authority,tail,rfl,present,single,short,normal⟩ := path.parts
  have ascii : ∀ c ∈ authority,c.toNat < 128 := fun c member => valid.printable.ascii c (by rw [text]; simp [member])
  refine ⟨valid.printable,?_,?_,scheme,authority,tail,?_,?_,start.2,?_,present,single,?_,normal⟩
  · intro c member
    obtain ⟨low,high⟩ := valid.printable c member
    exact ⟨spaces_blank.1 c low high,spaces_blank.2.1 c low high,spaces_blank.2.2 c low high⟩
  · intro c member
    simpa using valid.clean c member
  · rw [text,List.append_assoc]
  · rintro rfl
    cases start.1
  · intro c member
    simpa [isLowerDigit,or_assoc] using start.mem member
  · exact (utf8ByteSize_ascii ascii).le.trans short

theorem resource_grammar_agrees (s : String) :
    (validateResourceURI s = .ok () ↔ Node.validateUri s = .ok ()) ∧
    (validateResourceURI s = .ok () ↔ Python.validateUri s = .ok ()) ∧
    (∀ key,canonicalLegacyRedisKey s = .ok key ↔ Node.canonicalLegacyRedisKey s = .ok key) ∧
    (∀ key,canonicalLegacyRedisKey s = .ok key ↔ Python.canonicalLegacyRedisKey s = .ok key) ∧
    (validateResourceURI s = .ok () → Canonical s) := by
  refine ⟨?_,?_,fun key => ?_,fun key => ?_,?_⟩
  · rw [validateResourceURI_eq_ok,Node.validateUri_eq_ok]
  · rw [validateResourceURI_eq_ok,Python.validateUri_eq_ok]
  · rw [canonicalLegacyRedisKey_eq_ok,Node.canonicalLegacyRedisKey_eq_ok]
  · rw [canonicalLegacyRedisKey_eq_ok,Python.canonicalLegacyRedisKey_eq_ok]
  · exact fun accepted => (validateResourceURI_eq_ok.mp accepted).canonical

theorem Samples.redis_uri : validateResourceURI "redis://store/ctx" = .ok () ∧ Canonical "redis://store/ctx" :=
  ⟨by decide,(resource_grammar_agrees "redis://store/ctx").2.2.2.2 (by decide)⟩

end Cap.Resource
