import Mathlib.Data.List.Infix
import Cap.Checks
import Cap.ManagedDelivery

/-!
The authority of a job request: the identity binding of its packet against every place in the
request that repeats a part of it, and the compensation of a request against the request. Node and
Python compare what their admission layer needs, Go compares everything.
-/
namespace Cap.JobIdentity
open Cap.Checks
open Cap.ManagedDelivery (IdentityBinding DispatchIdentity)

/-- A map of texts; an absent key reads as the empty text. -/
abbrev Dict := List (String × String)

def Dict.value (values : Dict) (key : String) : String := (values.lookup key).getD ""

structure JobMetadata where
  tenantID : String
  actorID : String
  capability : String
  riskTags : List String
  labels : Dict
deriving DecidableEq

/-- Soft limits of an execution; zero is unset. -/
structure Budget where
  maxInputTokens : Int
  maxOutputTokens : Int
  maxTotalTokens : Int
  deadlineMs : Int
deriving DecidableEq

structure Compensation where
  topic : String
  adapterID : String
  env : Dict
  budget : Option Budget
  tenantID : String
  principalID : String
  labels : Dict
  metadata : Option JobMetadata
  identity : Option IdentityBinding
deriving DecidableEq

structure JobRequest where
  jobID : String
  topic : String
  adapterID : String
  env : Dict
  budget : Option Budget
  tenantID : String
  principalID : String
  labels : Dict
  metadata : Option JobMetadata
  compensation : Option Compensation
  identity : Option IdentityBinding
  dispatch : Option DispatchIdentity
deriving DecidableEq

namespace Go

inductive Error where
  /-- `ErrIdentityMismatch`, with the path of the mirror when there is one. -/
  | identityMismatch (path : String)
  | compensationEscalation
deriving DecidableEq

structure IdentityMirror where
  path : String
  actual : String
  expected : String

def mapIdentityMirrors (place : String) (values : Dict) (identity : IdentityBinding) : List IdentityMirror :=
  if values = [] then []
  else [⟨place ++ ".tenant_id",values.value "tenant_id",identity.tenantID⟩,
    ⟨place ++ ".principal_id",values.value "principal_id",identity.principalID⟩,
    ⟨place ++ ".actor_id",values.value "actor_id",identity.actorID⟩,
    ⟨place ++ ".delegation_id",values.value "delegation_id",identity.delegationID⟩]

def metadataIdentityMirrors (place : String) (metadata : Option JobMetadata) (identity : IdentityBinding) :
    List IdentityMirror :=
  match metadata with
  | none => []
  | some metadata => [⟨place ++ ".tenant",metadata.tenantID,identity.tenantID⟩,
      ⟨place ++ ".actor",metadata.actorID,identity.actorID⟩] ++
      mapIdentityMirrors (place ++ ".labels") metadata.labels identity

def compensationIdentityMirrors (compensation : Compensation) (identity : IdentityBinding) : List IdentityMirror :=
  [⟨"compensation.tenant",compensation.tenantID,identity.tenantID⟩,
    ⟨"compensation.principal",compensation.principalID,identity.principalID⟩] ++
  metadataIdentityMirrors "compensation.meta" compensation.metadata identity ++
  mapIdentityMirrors "compensation.env" compensation.env identity ++
  mapIdentityMirrors "compensation.labels" compensation.labels identity

def productionIdentityMirrors (request : JobRequest) (identity : IdentityBinding) : List IdentityMirror :=
  [⟨"tenant",request.tenantID,identity.tenantID⟩,⟨"principal",request.principalID,identity.principalID⟩] ++
  metadataIdentityMirrors "meta" request.metadata identity ++
  mapIdentityMirrors "env" request.env identity ++
  mapIdentityMirrors "labels" request.labels identity ++
  (match request.compensation with
    | none => []
    | some compensation => compensationIdentityMirrors compensation identity)

def bindingIdentityMirrors (place : String) (actual expected : IdentityBinding) : List IdentityMirror :=
  [⟨place ++ ".tenant_id",actual.tenantID,expected.tenantID⟩,
    ⟨place ++ ".principal_id",actual.principalID,expected.principalID⟩,
    ⟨place ++ ".actor_id",actual.actorID,expected.actorID⟩,
    ⟨place ++ ".delegation_id",actual.delegationID,expected.delegationID⟩]

def checkMirrors (refuses : IdentityMirror → Bool) (mirrors : List IdentityMirror) : Except Error Unit :=
  match mirrors.find? refuses with
  | some mirror => .error (.identityMismatch mirror.path)
  | none => .ok ()

/-- A present nested binding is compared in all fields, blank ones included. -/
def strictBindingMatch (place : String) (actual : Option IdentityBinding) (expected : IdentityBinding) :
    Except Error Unit :=
  match actual with
  | none => .ok ()
  | some actual => checkMirrors (fun mirror => mirror.actual != mirror.expected) (bindingIdentityMirrors place actual expected)

def validateIdentityBinding (request : Option JobRequest) (authoritative : Option IdentityBinding) : Except Error Unit :=
  match request,authoritative with
  | some request,some authoritative => do
    require (authoritative.tenantID != "") (.identityMismatch "")
    checkMirrors (fun mirror => mirror.actual != "" && mirror.actual != mirror.expected)
      (productionIdentityMirrors request authoritative)
    strictBindingMatch "identity" request.identity authoritative
    match request.compensation with
    | none => .ok ()
    | some compensation => strictBindingMatch "compensation.identity" compensation.identity authoritative
  | _,_ => .error (.identityMismatch "")

def valueDiffers (child parent : String) : Bool := child != "" && child != parent

def sameIdentity : Option IdentityBinding → Option IdentityBinding → Bool
  | some a,some b => a.tenantID == b.tenantID && a.principalID == b.principalID && a.actorID == b.actorID &&
      a.delegationID == b.delegationID
  | _,_ => false

def subset (values allowed : List String) : Bool := values.all allowed.contains

def validateCompensationMonotonicity (parent : Option JobRequest) (compensation : Option Compensation) :
    Except Error Unit :=
  match parent,compensation with
  | some parent,some compensation =>
    if compensation.identity.isSome && !sameIdentity parent.identity compensation.identity then
      .error .compensationEscalation
    else if valueDiffers compensation.tenantID parent.tenantID ||
        valueDiffers compensation.principalID parent.principalID then .error .compensationEscalation
    else match compensation.metadata,parent.metadata with
      | none,_ => .ok ()
      | some _,none => .error .compensationEscalation
      | some child,some parent =>
        if valueDiffers child.capability parent.capability || !subset child.riskTags parent.riskTags then
          .error .compensationEscalation
        else .ok ()
  | _,_ => .error .compensationEscalation

end Go

def includes (name part : String) : Bool := decide (part.toList <:+: name.toList)

def sameIdentity (a b : IdentityBinding) : Bool :=
  a.tenantID == b.tenantID && a.principalID == b.principalID && a.actorID == b.actorID && a.delegationID == b.delegationID

/-- The field of the binding that a mirror repeats, by the mirror's name. -/
def expectedOf (name : String) (authoritative : IdentityBinding) : String :=
  if includes name "actor" then authoritative.actorID
  else if includes name "principal" then authoritative.principalID
  else authoritative.tenantID

def admissionMirrors (request : JobRequest) : List (String × String) :=
  [("tenant",request.tenantID),("principal",request.principalID),
    ("meta.tenant",(request.metadata.map JobMetadata.tenantID).getD ""),
    ("meta.actor",(request.metadata.map JobMetadata.actorID).getD ""),
    ("env.tenant",request.env.value "tenant_id"),("env.principal",request.env.value "principal_id")]

/-- The check that Node and Python share, with the same texts. -/
def validateAdmissionIdentity (request : Option JobRequest) (authoritative : Option IdentityBinding) :
    Except String Unit :=
  match request,authoritative with
  | some request,some authoritative => do
    require (authoritative.tenantID != "") "missing request or authoritative identity"
    match (admissionMirrors request).find? fun (name,actual) => actual != "" && actual != expectedOf name authoritative with
    | some (name,_) => .error (name ++ " mismatch")
    | none => require (request.identity.all fun identity => sameIdentity identity authoritative) "request.identity mismatch"
  | _,_ => .error "missing request or authoritative identity"

def Node.validateIdentityBinding : Option JobRequest → Option IdentityBinding → Except String Unit :=
  validateAdmissionIdentity

def Python.validateIdentityBinding : Option JobRequest → Option IdentityBinding → Except String Unit :=
  validateAdmissionIdentity

def Repeats (actual expected : String) : Prop := actual = "" ∨ actual = expected

structure DictMirrored (values : Dict) (identity : IdentityBinding) : Prop where
  tenant : Repeats (values.value "tenant_id") identity.tenantID
  principal : Repeats (values.value "principal_id") identity.principalID
  actor : Repeats (values.value "actor_id") identity.actorID
  delegation : Repeats (values.value "delegation_id") identity.delegationID

structure MetadataMirrored (metadata : JobMetadata) (identity : IdentityBinding) : Prop where
  tenant : Repeats metadata.tenantID identity.tenantID
  actor : Repeats metadata.actorID identity.actorID
  labels : DictMirrored metadata.labels identity

structure CompensationMirrored (compensation : Compensation) (identity : IdentityBinding) : Prop where
  tenant : Repeats compensation.tenantID identity.tenantID
  principal : Repeats compensation.principalID identity.principalID
  metadata : ∀ metadata ∈ compensation.metadata, MetadataMirrored metadata identity
  env : DictMirrored compensation.env identity
  labels : DictMirrored compensation.labels identity
  binding : ∀ nested ∈ compensation.identity, nested = identity

/-- Every mirror of the request is blank or repeats the binding, and every nested binding is
    the binding. -/
structure Mirrored (request : JobRequest) (identity : IdentityBinding) : Prop where
  tenant : Repeats request.tenantID identity.tenantID
  principal : Repeats request.principalID identity.principalID
  metadata : ∀ metadata ∈ request.metadata, MetadataMirrored metadata identity
  env : DictMirrored request.env identity
  labels : DictMirrored request.labels identity
  binding : ∀ nested ∈ request.identity, nested = identity
  compensation : ∀ compensation ∈ request.compensation, CompensationMirrored compensation identity

/-- The part of it that an admission layer checks. -/
structure AdmissionMirrored (request : JobRequest) (identity : IdentityBinding) : Prop where
  tenant : Repeats request.tenantID identity.tenantID
  principal : Repeats request.principalID identity.principalID
  metadata : ∀ metadata ∈ request.metadata,
    Repeats metadata.tenantID identity.tenantID ∧ Repeats metadata.actorID identity.actorID
  env : Repeats (request.env.value "tenant_id") identity.tenantID ∧
    Repeats (request.env.value "principal_id") identity.principalID
  binding : ∀ nested ∈ request.identity, nested = identity

theorem Mirrored.admission {request : JobRequest} {identity : IdentityBinding} (mirrored : Mirrored request identity) :
    AdmissionMirrored request identity where
  tenant := mirrored.tenant
  principal := mirrored.principal
  metadata metadata present := ⟨(mirrored.metadata metadata present).tenant,(mirrored.metadata metadata present).actor⟩
  env := ⟨mirrored.env.tenant,mirrored.env.principal⟩
  binding := mirrored.binding

theorem sameIdentity_iff {a b : IdentityBinding} : sameIdentity a b = true ↔ a = b := by
  obtain ⟨⟩ := a
  obtain ⟨⟩ := b
  simp [sameIdentity,and_assoc]

namespace Go

variable {u : Unit}

theorem checkMirrors_eq_ok {refuses : IdentityMirror → Bool} {mirrors : List IdentityMirror} :
    checkMirrors refuses mirrors = .ok u ↔ ∀ mirror ∈ mirrors, refuses mirror = false := by
  unfold checkMirrors
  cases found : mirrors.find? refuses with
  | none => simpa using found
  | some mirror =>
    simp only [reduceCtorEq,false_iff,not_forall]
    exact ⟨mirror,List.mem_of_find?_eq_some found,by simp [List.find?_some found]⟩

abbrev Held (mirrors : List IdentityMirror) : Prop := ∀ mirror ∈ mirrors, Repeats mirror.actual mirror.expected

theorem held_iff {mirrors : List IdentityMirror} :
    checkMirrors (fun mirror => mirror.actual != "" && mirror.actual != mirror.expected) mirrors = .ok u ↔ Held mirrors := by
  rw [checkMirrors_eq_ok]
  refine forall₂_congr fun mirror _ => ?_
  simp only [Repeats,Bool.and_eq_false_iff,bne_eq_false_iff_eq]

theorem strictBindingMatch_eq_ok {place : String} {actual : Option IdentityBinding} {expected : IdentityBinding} :
    strictBindingMatch place actual expected = .ok u ↔ ∀ nested ∈ actual, nested = expected := by
  cases actual with
  | none => simp [strictBindingMatch]
  | some actual =>
    obtain ⟨⟩ := actual
    obtain ⟨⟩ := expected
    simp [strictBindingMatch,checkMirrors_eq_ok,bindingIdentityMirrors]

theorem held_append {xs ys : List IdentityMirror} : Held (xs ++ ys) ↔ Held xs ∧ Held ys := by
  simp [Held,or_imp,forall_and]

theorem held_map (place : String) (values : Dict) (identity : IdentityBinding) :
    Held (mapIdentityMirrors place values identity) ↔ DictMirrored values identity := by
  unfold mapIdentityMirrors
  split
  · next empty =>
    -- in an empty map every key is blank
    subst empty
    simp only [Held,List.not_mem_nil,false_imp_iff,implies_true,true_iff]
    exact ⟨.inl rfl,.inl rfl,.inl rfl,.inl rfl⟩
  · constructor
    · intro held
      simp only [List.forall_mem_cons] at held
      exact ⟨held.1,held.2.1,held.2.2.1,held.2.2.2.1⟩
    · rintro ⟨tenant,principal,actor,delegation⟩
      simp only [List.forall_mem_cons]
      exact ⟨tenant,principal,actor,delegation,by simp⟩

theorem held_metadata (place : String) (metadata : Option JobMetadata) (identity : IdentityBinding) :
    Held (metadataIdentityMirrors place metadata identity) ↔
      ∀ present ∈ metadata, MetadataMirrored present identity := by
  cases metadata with
  | none => simp [metadataIdentityMirrors,Held]
  | some metadata =>
    simp only [metadataIdentityMirrors,held_append,held_map,List.forall_mem_cons,Option.mem_some,forall_eq']
    constructor
    · rintro ⟨⟨tenant,actor,-⟩,labels⟩
      exact ⟨tenant,actor,labels⟩
    · rintro ⟨tenant,actor,labels⟩
      exact ⟨⟨tenant,actor,by simp⟩,labels⟩

theorem held_compensation (compensation : Compensation) (identity : IdentityBinding) :
    (Held (compensationIdentityMirrors compensation identity) ∧ ∀ nested ∈ compensation.identity, nested = identity) ↔
      CompensationMirrored compensation identity := by
  simp only [compensationIdentityMirrors,held_append,held_map,held_metadata]
  constructor
  · rintro ⟨⟨⟨⟨top,metadata⟩,env⟩,labels⟩,binding⟩
    simp only [List.forall_mem_cons] at top
    exact ⟨top.1,top.2.1,metadata,env,labels,binding⟩
  · rintro ⟨tenant,principal,metadata,env,labels,binding⟩
    refine ⟨⟨⟨⟨?_,metadata⟩,env⟩,labels⟩,binding⟩
    simp only [List.forall_mem_cons]
    exact ⟨tenant,principal,by simp⟩

theorem validateIdentityBinding_eq_ok {request : JobRequest} {authoritative : IdentityBinding} :
    validateIdentityBinding (some request) (some authoritative) = .ok u ↔
      authoritative.tenantID ≠ "" ∧ Mirrored request authoritative := by
  have nested : (Held (productionIdentityMirrors request authoritative) ∧
      (∀ nested ∈ request.identity, nested = authoritative) ∧
      ∀ compensation ∈ request.compensation, ∀ nested ∈ compensation.identity, nested = authoritative) ↔
      Mirrored request authoritative := by
    simp only [productionIdentityMirrors,held_append,held_map,held_metadata]
    constructor
    · rintro ⟨⟨⟨⟨⟨top,metadata⟩,env⟩,labels⟩,inverse⟩,binding,strict⟩
      simp only [List.forall_mem_cons] at top
      refine ⟨top.1,top.2.1,metadata,env,labels,binding,fun compensation present => ?_⟩
      rw [present] at inverse strict
      exact (held_compensation compensation authoritative).mp ⟨inverse,strict compensation rfl⟩
    · rintro ⟨tenant,principal,metadata,env,labels,binding,inverse⟩
      have top : Held [⟨"tenant",request.tenantID,authoritative.tenantID⟩,
          ⟨"principal",request.principalID,authoritative.principalID⟩] := by
        simp only [List.forall_mem_cons]
        exact ⟨tenant,principal,by simp⟩
      refine ⟨⟨⟨⟨⟨top,metadata⟩,env⟩,labels⟩,?_⟩,binding,fun compensation present => (inverse compensation present).binding⟩
      cases present : request.compensation with
      | none => simp [Held]
      | some compensation => exact ((held_compensation compensation authoritative).mpr (inverse compensation present)).1
  rw [← nested]
  simp only [validateIdentityBinding,bind_eq_ok,held_iff,strictBindingMatch_eq_ok]
  cases request.compensation with
  | none => simp
  | some compensation => simp [strictBindingMatch_eq_ok]

end Go

private theorem admissionMirrors_held (request : JobRequest) (authoritative : IdentityBinding) :
    (admissionMirrors request).find? (fun (name,actual) => actual != "" && actual != expectedOf name authoritative) = none ↔
      Repeats request.tenantID authoritative.tenantID ∧ Repeats request.principalID authoritative.principalID ∧
      Repeats ((request.metadata.map JobMetadata.tenantID).getD "") authoritative.tenantID ∧
      Repeats ((request.metadata.map JobMetadata.actorID).getD "") authoritative.actorID ∧
      Repeats (request.env.value "tenant_id") authoritative.tenantID ∧
      Repeats (request.env.value "principal_id") authoritative.principalID := by
  -- each name tells which field of the binding it repeats
  have names : includes "tenant" "actor" = false ∧ includes "tenant" "principal" = false ∧
      includes "principal" "actor" = false ∧ includes "principal" "principal" = true ∧
      includes "meta.tenant" "actor" = false ∧ includes "meta.tenant" "principal" = false ∧
      includes "meta.actor" "actor" = true ∧
      includes "env.tenant" "actor" = false ∧ includes "env.tenant" "principal" = false ∧
      includes "env.principal" "actor" = false ∧ includes "env.principal" "principal" = true := by decide +kernel
  simp only [List.find?_eq_none,admissionMirrors,List.forall_mem_cons,Repeats,expectedOf,names,if_true,
    Bool.false_eq_true,if_false,Bool.and_eq_true,bne_iff_ne,not_and_or,not_not,List.not_mem_nil,false_imp_iff,implies_true,
    and_true,ne_eq]

theorem validateAdmissionIdentity_eq_ok {request : JobRequest} {authoritative : IdentityBinding} :
    validateAdmissionIdentity (some request) (some authoritative) = .ok u ↔
      authoritative.tenantID ≠ "" ∧ AdmissionMirrored request authoritative := by
  have metadata : (Repeats ((request.metadata.map JobMetadata.tenantID).getD "") authoritative.tenantID ∧
      Repeats ((request.metadata.map JobMetadata.actorID).getD "") authoritative.actorID) ↔
      ∀ metadata ∈ request.metadata,
        Repeats metadata.tenantID authoritative.tenantID ∧ Repeats metadata.actorID authoritative.actorID := by
    cases request.metadata <;> simp [Repeats]
  have binding : (request.identity.all fun identity => sameIdentity identity authoritative) = true ↔
      ∀ nested ∈ request.identity, nested = authoritative := by
    cases request.identity <;> simp [sameIdentity_iff]
  simp only [validateAdmissionIdentity,bind_eq_ok,require_eq_ok,bne_iff_ne,exists_const]
  refine and_congr_right fun _ => ?_
  cases found : (admissionMirrors request).find? fun (name,actual) => actual != "" && actual != expectedOf name authoritative with
  | none =>
    obtain ⟨tenant,principal,metaTenant,metaActor,env⟩ := (admissionMirrors_held request authoritative).mp found
    simp only [require_eq_ok,binding]
    exact ⟨fun same => ⟨tenant,principal,metadata.mp ⟨metaTenant,metaActor⟩,env,same⟩,fun mirrored => mirrored.binding⟩
  | some mirror =>
    simp only [reduceCtorEq,false_iff]
    rintro ⟨tenant,principal,repeated,env,-⟩
    obtain ⟨metaTenant,metaActor⟩ := metadata.mpr repeated
    have none := (admissionMirrors_held request authoritative).mpr ⟨tenant,principal,metaTenant,metaActor,env⟩
    rw [none] at found
    cases found

/-- Go accepts a request only if every mirror is blank or repeats the binding and every
    nested binding is the binding. Node and Python agree with each other; they accept
    whatever Go accepts, and only if the mirrors of the admission layer do so and the
    request's own binding is the binding. -/
theorem identity_verdicts (request : JobRequest) (authoritative : IdentityBinding)
    (tenant : authoritative.tenantID ≠ "") :
    (Go.validateIdentityBinding (some request) (some authoritative) = .ok () ↔ Mirrored request authoritative) ∧
    (Node.validateIdentityBinding (some request) (some authoritative) = .ok () ↔ AdmissionMirrored request authoritative) ∧
    (Python.validateIdentityBinding (some request) (some authoritative) = .ok () ↔
      Node.validateIdentityBinding (some request) (some authoritative) = .ok ()) ∧
    (Go.validateIdentityBinding (some request) (some authoritative) = .ok () →
      Node.validateIdentityBinding (some request) (some authoritative) = .ok ()) := by
  have go : Go.validateIdentityBinding (some request) (some authoritative) = .ok () ↔ Mirrored request authoritative := by
    rw [Go.validateIdentityBinding_eq_ok,and_iff_right tenant]
  have node : Node.validateIdentityBinding (some request) (some authoritative) = .ok () ↔
      AdmissionMirrored request authoritative := by
    rw [Node.validateIdentityBinding,validateAdmissionIdentity_eq_ok,and_iff_right tenant]
  exact ⟨go,node,Iff.rfl,fun accepted => node.mpr (go.mp accepted).admission⟩

/-- A compensation claims nothing that its parent has not: every mirror of an identity in it
    repeats the binding, its own binding is the parent's, tenant, principal and capability
    are inherited or the same, and its risk tags are among the parent's. -/
structure NoMorePrivileged (compensation : Compensation) (parent : JobRequest) (authoritative : IdentityBinding) : Prop where
  mirrors : CompensationMirrored compensation authoritative
  identity : ∀ nested ∈ compensation.identity, parent.identity = some nested
  tenant : Repeats compensation.tenantID parent.tenantID
  principal : Repeats compensation.principalID parent.principalID
  capability : ∀ child ∈ compensation.metadata, ∃ own ∈ parent.metadata, Repeats child.capability own.capability
  risk : ∀ child ∈ compensation.metadata, ∃ own ∈ parent.metadata, child.riskTags ⊆ own.riskTags

namespace Go

theorem valueDiffers_eq_false {child parent : String} : valueDiffers child parent = false ↔ Repeats child parent := by
  rw [valueDiffers,Bool.and_eq_false_iff,bne_eq_false_iff_eq,bne_eq_false_iff_eq]
  rfl

theorem sameIdentity_eq_true {a b : Option IdentityBinding} :
    sameIdentity a b = true ↔ ∃ identity, a = some identity ∧ b = some identity := by
  cases a with
  | none => simp [sameIdentity]
  | some a =>
    cases b with
    | none => simp [sameIdentity]
    | some b =>
      have same : sameIdentity (some a) (some b) = JobIdentity.sameIdentity a b := rfl
      rw [same,sameIdentity_iff]
      simp [eq_comm]

theorem validateCompensationMonotonicity_eq_ok {parent : JobRequest} {compensation : Compensation} :
    validateCompensationMonotonicity (some parent) (some compensation) = .ok u ↔
      (∀ nested ∈ compensation.identity, parent.identity = some nested) ∧
      Repeats compensation.tenantID parent.tenantID ∧ Repeats compensation.principalID parent.principalID ∧
      ∀ child ∈ compensation.metadata, ∃ own ∈ parent.metadata,
        Repeats child.capability own.capability ∧ child.riskTags ⊆ own.riskTags := by
  have binding : (compensation.identity.isSome && !sameIdentity parent.identity compensation.identity) = false ↔
      ∀ nested ∈ compensation.identity, parent.identity = some nested := by
    cases nested : compensation.identity with
    | none => simp
    | some identity =>
      simp only [Option.isSome_some,Bool.true_and,Bool.not_eq_false',sameIdentity_eq_true,
        Option.mem_some,forall_eq']
      exact ⟨fun ⟨_,own,same⟩ => same ▸ own,fun own => ⟨identity,own,rfl⟩⟩
  simp only [validateCompensationMonotonicity]
  by_cases escalated : (compensation.identity.isSome && !sameIdentity parent.identity compensation.identity) = true
  · rw [if_pos escalated]
    simp only [reduceCtorEq,false_iff]
    rintro ⟨own,-⟩
    rw [binding.mpr own] at escalated
    cases escalated
  · rw [if_neg escalated,Bool.not_eq_true] at *
    rw [and_iff_right (binding.mp escalated)]
    by_cases differs : (valueDiffers compensation.tenantID parent.tenantID ||
        valueDiffers compensation.principalID parent.principalID) = true
    · rw [if_pos differs]
      simp only [reduceCtorEq,false_iff]
      rintro ⟨tenant,principal,-⟩
      rw [valueDiffers_eq_false.mpr tenant,valueDiffers_eq_false.mpr principal] at differs
      cases differs
    · rw [if_neg differs]
      simp only [Bool.not_eq_true,Bool.or_eq_false_iff,valueDiffers_eq_false] at differs
      rw [and_iff_right differs.1,and_iff_right differs.2]
      cases compensation.metadata with
      | none => simp
      | some child =>
        cases parent.metadata with
        | none => simp
        | some own =>
          have tags : subset child.riskTags own.riskTags = true ↔ child.riskTags ⊆ own.riskTags := by
            simp [subset,List.subset_def]
          simp only [Option.mem_some,forall_eq',exists_eq_left']
          split
          · next refused =>
            simp only [reduceCtorEq,false_iff]
            rintro ⟨capability,risk⟩
            rw [valueDiffers_eq_false.mpr capability,tags.mpr risk] at refused
            cases refused
          · next passed =>
            simp only [Bool.not_eq_true,Bool.or_eq_false_iff,Bool.not_eq_false'] at passed
            simp only [true_iff]
            exact ⟨valueDiffers_eq_false.mp passed.1,tags.mp passed.2⟩

end Go

/-- The compensation with other overrides. -/
def Compensation.overriding (compensation : Compensation) (topic adapterID : String) (budget : Option Budget) :
    Compensation :=
  {compensation with topic := topic,adapterID := adapterID,budget := budget}

/-- A compensation that passes both checks claims no more than its parent, in its identity
    and delegation, its capability and its risk tags. Its topic, adapter and budget are not
    compared: with any others it passes as well. -/
theorem compensation_no_more_privileged {request : JobRequest} {compensation : Compensation}
    {authoritative : IdentityBinding} (carried : request.compensation = some compensation)
    (bound : Go.validateIdentityBinding (some request) (some authoritative) = .ok ())
    (monotone : Go.validateCompensationMonotonicity (some request) (some compensation) = .ok ()) :
    NoMorePrivileged compensation request authoritative ∧
    ∀ topic adapterID budget,
      let other := compensation.overriding topic adapterID budget
      Go.validateIdentityBinding (some {request with compensation := some other}) (some authoritative) = .ok () ∧
      Go.validateCompensationMonotonicity (some {request with compensation := some other}) (some other) = .ok () := by
  constructor
  · obtain ⟨identity,tenant,principal,metadata⟩ := Go.validateCompensationMonotonicity_eq_ok.mp monotone
    have mirrored := (Go.validateIdentityBinding_eq_ok.mp bound).2
    refine ⟨mirrored.compensation compensation carried,identity,tenant,principal,fun child present => ?_,
      fun child present => ?_⟩
    · obtain ⟨own,parent,capability,-⟩ := metadata child present
      exact ⟨own,parent,capability⟩
    · obtain ⟨own,parent,-,risk⟩ := metadata child present
      exact ⟨own,parent,risk⟩
  · intro topic adapterID budget
    obtain ⟨tenant,mirrored⟩ := Go.validateIdentityBinding_eq_ok.mp bound
    have inverse := mirrored.compensation compensation carried
    refine ⟨Go.validateIdentityBinding_eq_ok.mpr ⟨tenant,?_⟩,?_⟩
    · refine {mirrored with compensation := fun other present => ?_}
      cases present
      exact {inverse with}
    · exact Go.validateCompensationMonotonicity_eq_ok.mpr (Go.validateCompensationMonotonicity_eq_ok.mp monotone)

namespace Samples

def binding : IdentityBinding := ⟨"tenant-1","user-1","actor-1",""⟩

def request : JobRequest where
  jobID := "job-1"
  topic := "job.echo"
  adapterID := ""
  env := []
  budget := none
  tenantID := "tenant-1"
  principalID := ""
  labels := [("tenant_id","tenant-1")]
  metadata := none
  compensation := none
  identity := some binding
  dispatch := none

def relabelled : JobRequest := {request with labels := [("tenant_id","tenant-2")]}

theorem request_accepted : binding.tenantID ≠ "" ∧
    Go.validateIdentityBinding (some request) (some binding) = .ok () ∧
    Node.validateIdentityBinding (some request) (some binding) = .ok () ∧
    Mirrored request binding := by
  have verdicts := identity_verdicts request binding (by decide)
  have accepted : Go.validateIdentityBinding (some request) (some binding) = .ok () := by decide +kernel
  exact ⟨by decide,accepted,verdicts.2.2.2 accepted,verdicts.1.mp accepted⟩

/-- A label that contradicts the binding is refused by Go and admitted by Node and Python. -/
theorem relabelled_divides : binding.tenantID ≠ "" ∧
    Go.validateIdentityBinding (some relabelled) (some binding) = .error (.identityMismatch "labels.tenant_id") ∧
    Node.validateIdentityBinding (some relabelled) (some binding) = .ok () ∧
    Python.validateIdentityBinding (some relabelled) (some binding) = .ok () := by
  decide +kernel

/-- An inverse action on another topic, with another adapter and a longer deadline. -/
def elsewhere : Compensation where
  topic := "job.admin"
  adapterID := "root"
  env := []
  budget := some ⟨0,0,0,60000⟩
  tenantID := ""
  principalID := ""
  labels := []
  metadata := none
  identity := none

def compensated : JobRequest :=
  {request with adapterID := "echo",budget := some ⟨0,0,0,1000⟩,compensation := some elsewhere}

theorem compensated_no_more_privileged : compensated.compensation = some elsewhere ∧
    Go.validateIdentityBinding (some compensated) (some binding) = .ok () ∧
    Go.validateCompensationMonotonicity (some compensated) (some elsewhere) = .ok () ∧
    NoMorePrivileged elsewhere compensated binding := by
  have bound : Go.validateIdentityBinding (some compensated) (some binding) = .ok () := by decide +kernel
  have monotone : Go.validateCompensationMonotonicity (some compensated) (some elsewhere) = .ok () := by decide +kernel
  exact ⟨rfl,bound,monotone,(compensation_no_more_privileged rfl bound monotone).1⟩

/-- The two checks let a compensation change the topic, the adapter and the deadline. -/
theorem compensated_elsewhere : compensated.compensation = some elsewhere ∧
    Go.validateIdentityBinding (some compensated) (some binding) = .ok () ∧
    Go.validateCompensationMonotonicity (some compensated) (some elsewhere) = .ok () ∧
    ¬ Repeats elsewhere.topic compensated.topic ∧ ¬ Repeats elsewhere.adapterID compensated.adapterID ∧
    (elsewhere.budget.map Budget.deadlineMs).getD 0 > (compensated.budget.map Budget.deadlineMs).getD 0 := by
  refine ⟨rfl,by decide +kernel,by decide +kernel,?_,?_,by decide⟩
  · unfold Repeats
    decide
  · unfold Repeats
    decide

end Samples

end Cap.JobIdentity
