import Cap.Records
import Cap.ResourceGrammar

/-!
The resources of managed production messages (`managed_production_resources.go`): pointers of the
migration grammar beside structured references, in requests, results and progress events.
-/
namespace Cap.Resource
open Cap.Checks Cap.Text

def validateResourceRefCompatibility (legacy : String) : Option ResourceRef → Except Failure Unit
  | none => .ok ()
  | some ref =>
    if legacy = "" then .ok ()
    else if ref.resolverId ≠ "redis" then .error (resourceError "legacy Redis pointer uses a different resolver")
    else do
      let legacyKey ← canonicalLegacyRedisKey legacy
      match canonicalLegacyRedisKey ref.uri with
      | .error _ => .error (resourceError "legacy and structured references differ")
      | .ok structuredKey => require (legacyKey == structuredKey) (resourceError "legacy and structured references differ")

def validateManagedProductionResource (name legacy : String) (reference : Option ResourceRef) (resolvers : List String)
    (now : Int) : Except Failure Unit :=
  match reference with
  | none => require (legacy == "") (resourceError (name ++ " requires ResourceRef"))
  | some ref => do
    validateResourceRefAt ref resolvers now
    validateResourceRefCompatibility legacy (some ref)

structure Compensation where
  contextPtr : String
  contextRef : Option ResourceRef

structure JobRequest where
  contextPtr : String
  contextRef : Option ResourceRef
  compensation : Option Compensation

/-- The fields that results and progress events share. -/
structure Output where
  resultPtr : String
  resultRef : Option ResourceRef
  artifactPtrs : List String
  artifactRefs : List (Option ResourceRef)

def validateManagedProductionResources (request : JobRequest) (resolvers : List String) (now : Int) :
    Except Failure Unit := do
  validateManagedProductionResource "context" request.contextPtr request.contextRef resolvers now
  match request.compensation with
  | none => .ok ()
  | some compensation =>
    validateManagedProductionResource "compensation context" compensation.contextPtr compensation.contextRef resolvers now

/-- The loop over the artifacts from an index on; an index past the pointers reads as no pointer. -/
def validateArtifacts (legacyArtifacts : List String) (resolvers : List String) (now : Int) :
    Nat → List (Option ResourceRef) → Except Failure Unit
  | _,[] => .ok ()
  | index,artifact :: artifacts => do
    validateManagedProductionResource "artifact" (legacyArtifacts.getD index "") artifact resolvers now
    validateArtifacts legacyArtifacts resolvers now (index + 1) artifacts

def validateManagedProductionOutputResources (output : Output) (resolvers : List String) (now : Int) :
    Except Failure Unit := do
  validateManagedProductionResource "result" output.resultPtr output.resultRef resolvers now
  require (output.artifactPtrs.isEmpty || output.artifactPtrs.length == output.artifactRefs.length)
    (resourceError "artifact references are ambiguous")
  validateArtifacts output.artifactPtrs resolvers now 0 output.artifactRefs

inductive Message where
  | job (request : JobRequest)
  | result (output : Output)
  | progress (output : Output)

def Message.validate (resolvers : List String) (now : Int) : Message → Except Failure Unit
  | .job request => validateManagedProductionResources request resolvers now
  | .result output => validateManagedProductionOutputResources output resolvers now
  | .progress output => validateManagedProductionOutputResources output resolvers now

/-! ### Pointers and their references -/

/-- What stands at an index of the artifacts, on either side. -/
def Output.artifact (output : Output) (index : Nat) : String × Option ResourceRef :=
  (output.artifactPtrs.getD index "",output.artifactRefs.getD index none)

def Output.places (output : Output) : List (String × Option ResourceRef) :=
  (output.resultPtr,output.resultRef) ::
    (List.range (max output.artifactPtrs.length output.artifactRefs.length)).map output.artifact

/-- Every place of a message that holds a pointer or a reference. -/
def Message.places : Message → List (String × Option ResourceRef)
  | .job request => (request.contextPtr,request.contextRef) ::
    request.compensation.toList.map fun compensation => (compensation.contextPtr,compensation.contextRef)
  | .result output => output.places
  | .progress output => output.places

/-- Both sides of a place fetch the same: the pointer has a reference, which is to Redis and has the key of the pointer. -/
structure Agrees (resolvers : List String) (now : Int) (place : String × Option ResourceRef) : Prop where
  paired : place.1 ≠ "" → ∃ ref key, place.2 = some ref ∧ ref.resolverId = "redis" ∧
    canonicalLegacyRedisKey place.1 = .ok key ∧ canonicalLegacyRedisKey ref.uri = .ok key
  valid : ∀ ref ∈ place.2, ref.Canonical ∧ ref.resolverId ∈ resolvers ∧
    ∃ expiresAt, ref.expiresAt = some expiresAt ∧ expiresAt.checkValid = true ∧ now < expiresAt.asTime

/-- A reference is looked at under a valid configuration only. -/
def Checked (resolvers : List String) (now : Int) (place : String × Option ResourceRef) : Prop :=
  Agrees resolvers now place ∧ (place.2.isSome = true → validateResourceResolvers resolvers = .ok ())

def Output.Unambiguous (output : Output) : Prop :=
  output.artifactPtrs = [] ∨ output.artifactPtrs.length = output.artifactRefs.length

def Message.output : Message → Option Output
  | .job _ => none
  | .result output | .progress output => some output

variable {resolvers : List String} {now : Int}

theorem validateResourceRefCompatibility_eq_ok {legacy : String} {ref : ResourceRef} (filled : legacy ≠ "") :
    validateResourceRefCompatibility legacy (some ref) = .ok () ↔ ref.resolverId = "redis" ∧
      ∃ key, canonicalLegacyRedisKey legacy = .ok key ∧ canonicalLegacyRedisKey ref.uri = .ok key := by
  rw [validateResourceRefCompatibility,if_neg filled]
  by_cases redis : ref.resolverId = "redis"
  · rw [if_neg (not_not.mpr redis),bind_eq_ok]
    refine ⟨?_,?_⟩
    · rintro ⟨key,first,same⟩
      cases second : canonicalLegacyRedisKey ref.uri with
      | error failure => simp [second] at same
      | ok other =>
        rw [second,require_eq_ok,beq_iff_eq] at same
        exact ⟨redis,key,first,by rw [same]⟩
    · rintro ⟨-,key,first,second⟩
      exact ⟨key,first,by rw [second]; simp⟩
  · simp [redis]

theorem validateManagedProductionResource_eq_ok {name legacy : String} {reference : Option ResourceRef} :
    validateManagedProductionResource name legacy reference resolvers now = .ok () ↔
      Checked resolvers now (legacy,reference) := by
  cases reference with
  | none =>
    rw [validateManagedProductionResource,require_eq_ok,beq_iff_eq]
    refine ⟨fun blank => ⟨⟨fun filled => absurd blank filled,by simp⟩,by simp⟩,fun checked => ?_⟩
    by_contra filled
    obtain ⟨ref,key,absent,-⟩ := checked.1.paired filled
    cases absent
  | some ref =>
    rw [validateManagedProductionResource,check_bind_eq_ok,validateResourceRefAt_eq_ok]
    constructor
    · rintro ⟨⟨configured,installed,canonical,expiry⟩,compatible⟩
      refine ⟨⟨fun filled => ?_,?_⟩,fun _ => configured⟩
      · obtain ⟨redis,key,first,second⟩ := (validateResourceRefCompatibility_eq_ok filled).mp compatible
        exact ⟨ref,key,rfl,redis,first,second⟩
      · intro other member
        obtain rfl := Option.some.inj member
        exact ⟨canonical,installed,expiry⟩
    · rintro ⟨agrees,configured⟩
      obtain ⟨canonical,installed,expiry⟩ := agrees.valid ref rfl
      refine ⟨⟨configured rfl,installed,canonical,expiry⟩,?_⟩
      by_cases filled : legacy = ""
      · simp [validateResourceRefCompatibility,filled]
      · obtain ⟨_,key,same,paired⟩ := agrees.paired filled
        cases same
        exact (validateResourceRefCompatibility_eq_ok filled).mpr ⟨paired.1,key,paired.2⟩

private theorem validateArtifacts_eq_ok {legacyArtifacts : List String} {index : Nat}
    {artifacts : List (Option ResourceRef)} :
    validateArtifacts legacyArtifacts resolvers now index artifacts = .ok () ↔ ∀ i < artifacts.length,
      Checked resolvers now (legacyArtifacts.getD (index + i) "",artifacts.getD i none) := by
  induction artifacts generalizing index with
  | nil => simp [validateArtifacts]
  | cons artifact artifacts ih =>
    rw [validateArtifacts,check_bind_eq_ok,validateManagedProductionResource_eq_ok,ih]
    constructor
    · rintro ⟨first,rest⟩ i inside
      cases i with
      | zero => exact first
      | succ i =>
        have later := rest i (Nat.lt_of_succ_lt_succ inside)
        rwa [Nat.add_assoc,Nat.add_comm 1 i] at later
    · intro all
      refine ⟨all 0 (Nat.succ_pos _),fun i inside => ?_⟩
      have later := all (i + 1) (Nat.succ_lt_succ inside)
      rwa [Nat.add_comm i 1,← Nat.add_assoc,Nat.add_comm 1 i] at later

theorem validateManagedProductionOutputResources_eq_ok {output : Output} :
    validateManagedProductionOutputResources output resolvers now = .ok () ↔
      (∀ place ∈ output.places, Checked resolvers now place) ∧ output.Unambiguous := by
  rw [validateManagedProductionOutputResources,check_bind_eq_ok,check_bind_eq_ok,require_eq_ok,Bool.or_eq_true,
    List.isEmpty_iff,beq_iff_eq,validateManagedProductionResource_eq_ok,validateArtifacts_eq_ok]
  simp only [Nat.zero_add]
  have listed : output.Unambiguous → ((∀ place ∈ output.places, Checked resolvers now place) ↔
      Checked resolvers now (output.resultPtr,output.resultRef) ∧
        ∀ i < output.artifactRefs.length, Checked resolvers now (output.artifact i)) := by
    intro lengths
    have longest : max output.artifactPtrs.length output.artifactRefs.length = output.artifactRefs.length := by
      rcases lengths with none | same
      · simp [none]
      · simp [same]
    simp [Output.places,longest]
  constructor
  · rintro ⟨result,lengths,artifacts⟩
    exact ⟨(listed lengths).mpr ⟨result,artifacts⟩,lengths⟩
  · rintro ⟨all,lengths⟩
    obtain ⟨result,artifacts⟩ := (listed lengths).mp all
    exact ⟨result,lengths,artifacts⟩

theorem validateManagedProductionResources_eq_ok {request : JobRequest} :
    validateManagedProductionResources request resolvers now = .ok () ↔
      ∀ place ∈ (Message.job request).places, Checked resolvers now place := by
  rw [validateManagedProductionResources,check_bind_eq_ok,validateManagedProductionResource_eq_ok]
  cases carried : request.compensation with
  | none => simp [Message.places,carried]
  | some compensation => simp [Message.places,carried,validateManagedProductionResource_eq_ok]

/-- The messages that are accepted are exactly those whose places are all in order. -/
theorem managed_resources_exact (message : Message) : message.validate resolvers now = .ok () ↔
    (∀ place ∈ message.places, Checked resolvers now place) ∧ ∀ output ∈ message.output, output.Unambiguous := by
  cases message with
  | job request => simp [Message.validate,Message.output,validateManagedProductionResources_eq_ok]
  | result output | progress output =>
    simpa [Message.validate,Message.places,Message.output] using validateManagedProductionOutputResources_eq_ok

/-- In an accepted message every pointer agrees with its reference, character by character. -/
theorem managed_pointers_agree {message : Message} (accepted : message.validate resolvers now = .ok ()) :
    ∀ place ∈ message.places, Agrees resolvers now place ∧ (place.1 ≠ "" → ∃ ref ∈ place.2, ref.uri = place.1) := by
  have agrees : ∀ place ∈ message.places, Agrees resolvers now place := by
    cases message with
    | job request =>
      exact fun place member => (validateManagedProductionResources_eq_ok.mp accepted place member).1
    | result output | progress output =>
      exact fun place member => ((validateManagedProductionOutputResources_eq_ok.mp accepted).1 place member).1
  intro place member
  refine ⟨agrees place member,fun filled => ?_⟩
  obtain ⟨ref,bytes,there,-,first,second⟩ := (agrees place member).paired filled
  refine ⟨ref,there,?_⟩
  obtain ⟨key,pointer,written⟩ := canonicalLegacyRedisKey_eq_ok.mp first
  obtain ⟨other,uri,again⟩ := canonicalLegacyRedisKey_eq_ok.mp second
  have same : key = other := String.ofList_injective (Records.utf8_inj (written.symm.trans again))
  rw [← String.toList_inj,pointer.text,uri.text,same]

namespace Samples

def redisRef : ResourceRef :=
  ⟨"redis","redis://ctx:job-1",List.replicate 32 0,"application/json",2,some ⟨1,0,[]⟩,"context",[]⟩

def compensated : Message := .job ⟨"redis://ctx:job-1",some redisRef,some ⟨"",some redisRef⟩⟩

theorem compensated_agrees : compensated.validate ["redis","s3"] 0 = .ok () ∧
    Agrees ["redis","s3"] 0 ("redis://ctx:job-1",some redisRef) :=
  ⟨by decide +kernel,(@managed_pointers_agree _ 0 compensated (by decide +kernel) _ List.mem_cons_self).1⟩

end Samples

end Cap.Resource
