import Cap.Checks
import Cap.Text

/-!
References to resources and their validation (`production_resource.go`): the identifiers, the
URI, the digest, the size and the expiry of a reference, at an instant and for a list of
installed resolvers. Instants are nanoseconds since the epoch.
-/
namespace Cap.Resource
open Cap.Checks Cap.Text

def maxResourceIdentifierBytes : Nat := 128
def maxResourceAuthorityBytes : Nat := 255
def maxResourceURIBytes : Nat := 2048
def maxResourceMediaTypeBytes : Nat := 127
def maxResourcePurposeBytes : Nat := 128
def maxResourceSizeBytes : Nat := 2 ^ 30

/-- The errors; a reference that is not valid comes with or without a detail. -/
inductive Failure where
  | invalidResourceRef (detail : Option String)
  | invalidResourceRegistry
  | resourceContextRequired
  | invalidTrustedResourceContext
  | resourceResolverUnavailable
  | resourceExternalizerUnavailable
  | resourceBackendUnavailable
  | resourceExpired
  | resourceTooLarge
  | resourceSizeMismatch
  | resourceMediaTypeMismatch
  | resourceDigestMismatch
  | resourceMetadataMismatch
  | context (err : String)
deriving DecidableEq

def resourceError (detail : String) : Failure := .invalidResourceRef (some detail)

/-- A timestamp, with the bytes of its unknown fields. -/
structure Timestamp where
  seconds : Int
  nanos : Int
  unknown : Bytes
deriving DecidableEq

/-- `CheckValid` finds nothing: years 1 to 9999 and less than a second of nanoseconds. -/
def Timestamp.checkValid (t : Timestamp) : Bool :=
  -62135596800 ≤ t.seconds && t.seconds ≤ 253402300799 && 0 ≤ t.nanos && t.nanos < 1000000000

def Timestamp.asTime (t : Timestamp) : Int := t.seconds * 1000000000 + t.nanos

def Timestamp.new (t : Int) : Timestamp := ⟨t / 1000000000,t % 1000000000,[]⟩

structure ResourceRef where
  resolverId : String
  uri : String
  sha256 : Bytes
  mediaType : String
  sizeBytes : Nat
  expiresAt : Option Timestamp
  purpose : String
  unknown : Bytes
deriving DecidableEq

/-- `validateNoProductionUnknowns`, on a reference and the timestamp in it. -/
def ResourceRef.known (ref : ResourceRef) : Bool := ref.unknown.isEmpty && ref.expiresAt.all (·.unknown.isEmpty)

private def between (low high c : Char) : Bool := low.toNat ≤ c.toNat && c.toNat ≤ high.toNat

def isLower (c : Char) : Bool := between 'a' 'z' c
def isDigit (c : Char) : Bool := between '0' '9' c
def isLowerDigit (c : Char) : Bool := isLower c || isDigit c

def word (first rest : Char → Bool) : List Char → Bool
  | [] => false
  | c :: cs => first c && cs.all rest

def resourceIDPattern (s : String) : Bool := word isLowerDigit (fun c => isLowerDigit c || "._-".toList.contains c) s.toList

def resourcePurposePattern (s : String) : Bool :=
  word isLowerDigit (fun c => isLowerDigit c || "._:-".toList.contains c) s.toList

def mediaToken : List Char → Bool := word isLowerDigit fun c => isLowerDigit c || "!#$&^_.+-".toList.contains c

/-- A slash is in neither part. -/
def resourceMediaPattern (s : String) : Bool :=
  match s.toList.span (· ≠ '/') with
  | (type,_ :: subtype) => mediaToken type && mediaToken subtype
  | (_,[]) => false

def validResourceIdentifier (value : String) (limit : Nat) (pattern : String → Bool) : Bool :=
  value != "" && value.utf8ByteSize ≤ limit && trimmed goSpace value && pattern value

def printableASCII (value : String) : Bool := value.toList.all fun c => 0x21 ≤ c.toNat && c.toNat ≤ 0x7e

/-- The scheme and what follows the slashes, `^([a-z][a-z0-9+.-]{0,31})://(.+)$`; the texts that come here are printable
    and a scheme has no colon. -/
def resourceURIPattern (uri : String) : Option (List Char × List Char) :=
  match uri.toList.span (· ≠ ':') with
  | (scheme,':' :: '/' :: '/' :: rest) =>
    if word isLower (fun c => isLowerDigit c || "+.-".toList.contains c) scheme && scheme.length ≤ 32 && !rest.isEmpty then
      some (scheme,rest)
    else none
  | _ => none

def segments : List Char → List (List Char)
  | [] => [[]]
  | c :: cs =>
    if c = '/' then [] :: segments cs
    else match segments cs with
      | [] => [[c]]
      | segment :: more => (c :: segment) :: more

def hasDots : List Char → Bool
  | '.' :: '.' :: _ => true
  | _ :: cs => hasDots cs
  | [] => false

def validateResourcePath (authorityAndPath : List Char) : Except Failure Unit := do
  let (authority,path) := authorityAndPath.span (· ≠ '/')
  require (!authority.isEmpty && (String.ofList authority).utf8ByteSize ≤ maxResourceAuthorityBytes)
    (resourceError "URI authority is empty or too long")
  match path with
  | [] => pure ()
  | _ :: path =>
    require ((segments path).all fun segment => !segment.isEmpty && segment ≠ ['.'] && segment ≠ ['.','.'] && !hasDots segment)
      (resourceError "URI path is not normalized")

def validateResourceURI (uri : String) : Except Failure Unit := do
  require (uri != "" && uri.utf8ByteSize ≤ maxResourceURIBytes && trimmed goSpace uri && printableASCII uri)
    (resourceError "URI is empty, non-ASCII, untrimmed, or too long")
  match resourceURIPattern uri with
  | none => .error (resourceError "URI scheme or authority is not canonical")
  | some (_,rest) =>
    require (!rest.any fun c => "@?#\\%".toList.contains c) (resourceError "URI contains credentials, metadata, or escapes")
    validateResourcePath rest

def validInstalledResolvers (installed : List String) : Bool :=
  !installed.isEmpty && installed.all (validResourceIdentifier · maxResourceIdentifierBytes resourceIDPattern)

def validateResourceResolvers (installed : List String) : Except Failure Unit := do
  require (validInstalledResolvers installed) (resourceError "resolver configuration is empty or noncanonical")
  require (decide installed.Nodup) (resourceError "resolver configuration contains duplicates")

def validateResourceIdentifiers (ref : ResourceRef) (installed : List String) : Except Failure Unit := do
  require (validResourceIdentifier ref.resolverId maxResourceIdentifierBytes resourceIDPattern)
    (resourceError "resolver ID is not canonical")
  require (installed.contains ref.resolverId) (resourceError "resolver is not installed")
  require (validResourceIdentifier ref.mediaType maxResourceMediaTypeBytes resourceMediaPattern)
    (resourceError "media type is not canonical")
  require (validResourceIdentifier ref.purpose maxResourcePurposeBytes resourcePurposePattern)
    (resourceError "purpose is not canonical")

def validateResourceExpiry (ref : ResourceRef) (now : Int) : Except Failure Unit :=
  match ref.expiresAt with
  | none => .error (resourceError "expiry is required")
  | some expiresAt => do
    require expiresAt.checkValid (resourceError "expiry timestamp is invalid")
    require (now < expiresAt.asTime) (resourceError "reference is expired")

def validateResourceRefAt (ref : ResourceRef) (installed : List String) (now : Int) : Except Failure Unit := do
  validateResourceResolvers installed
  validateResourceIdentifiers ref installed
  require (ref.sha256.length == 32) (resourceError "SHA-256 must contain exactly 32 bytes")
  require (ref.sizeBytes != 0 && ref.sizeBytes ≤ maxResourceSizeBytes)
    (resourceError "declared size is outside production bounds")
  validateResourceURI ref.uri
  validateResourceExpiry ref now

theorem validateResourceResolvers_eq_ok {installed : List String} {u : Unit} : validateResourceResolvers installed = .ok u ↔
    validInstalledResolvers installed = true ∧ installed.Nodup := by
  simp [validateResourceResolvers]

theorem validateResourceExpiry_eq_ok {ref : ResourceRef} {now : Int} {u : Unit} :
    validateResourceExpiry ref now = .ok u ↔
      ∃ expiresAt, ref.expiresAt = some expiresAt ∧ expiresAt.checkValid = true ∧ now < expiresAt.asTime := by
  unfold validateResourceExpiry
  cases ref.expiresAt with
  | none | some expiresAt => simp

/-- The checks that depend neither on the time nor on what is installed. -/
structure ResourceRef.Canonical (ref : ResourceRef) : Prop where
  resolver : validResourceIdentifier ref.resolverId maxResourceIdentifierBytes resourceIDPattern = true
  media : validResourceIdentifier ref.mediaType maxResourceMediaTypeBytes resourceMediaPattern = true
  purpose : validResourceIdentifier ref.purpose maxResourcePurposeBytes resourcePurposePattern = true
  digest : ref.sha256.length = 32
  positive : ref.sizeBytes ≠ 0
  bounded : ref.sizeBytes ≤ maxResourceSizeBytes
  uri : validateResourceURI ref.uri = .ok ()

theorem validateResourceRefAt_eq_ok {ref : ResourceRef} {installed : List String} {now : Int} :
    validateResourceRefAt ref installed now = .ok () ↔
      validateResourceResolvers installed = .ok () ∧ ref.resolverId ∈ installed ∧ ref.Canonical ∧
      ∃ expiresAt, ref.expiresAt = some expiresAt ∧ expiresAt.checkValid = true ∧ now < expiresAt.asTime := by
  simp only [validateResourceRefAt,validateResourceIdentifiers,check_bind_eq_ok,require_eq_ok,
    validateResourceExpiry_eq_ok,List.contains_eq_mem,decide_eq_true_eq,Bool.and_eq_true,bne_iff_ne,beq_iff_eq]
  constructor
  · rintro ⟨resolvers,⟨resolver,member,media,purpose⟩,digest,⟨positive,bounded⟩,uri,expiry⟩
    exact ⟨resolvers,member,⟨resolver,media,purpose,digest,positive,bounded,uri⟩,expiry⟩
  · rintro ⟨resolvers,member,canonical,expiry⟩
    exact ⟨resolvers,⟨canonical.resolver,member,canonical.media,canonical.purpose⟩,canonical.digest,
      ⟨canonical.positive,canonical.bounded⟩,canonical.uri,expiry⟩

end Cap.Resource
