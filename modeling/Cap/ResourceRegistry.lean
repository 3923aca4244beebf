import Cap.Interaction
import Cap.ResourceRef

/-!
The registry of resource backends and how it resolves a reference
(`production_resource_registry.go`, `production_resource_resolve.go`). Each answer of a backend, a
body, the clock or the context is a function of all that has happened before.
-/
namespace Cap.Resource
open Cap.Checks Cap.Text Cap.Interaction

/-- The tenant and the job, from authenticated local authority. -/
structure TrustedResourceContext where
  tenantID : String
  jobID : String
deriving DecidableEq

def isAlphanumeric (c : Char) : Bool := isLowerDigit c || ('A'.toNat ≤ c.toNat && c.toNat ≤ 'Z'.toNat)

def trustedTenantPattern (s : String) : Bool :=
  word isAlphanumeric (fun c => isAlphanumeric c || "._-".toList.contains c) s.toList

def trustedJobPattern (s : String) : Bool :=
  word isAlphanumeric (fun c => isAlphanumeric c || "._:@-[]".toList.contains c) s.toList

def validTrustedValue (value : String) (limit : Nat) (pattern : String → Bool) : Bool :=
  value != "" && value.utf8ByteSize ≤ limit && pattern value

def maxTrustedTenantIDBytes : Nat := 128
def maxTrustedJobIDBytes : Nat := 256

def validateTrustedResourceContext (trusted : TrustedResourceContext) : Except Failure Unit := do
  require (validTrustedValue trusted.tenantID maxTrustedTenantIDBytes trustedTenantPattern) .invalidTrustedResourceContext
  require (validTrustedValue trusted.jobID maxTrustedJobIDBytes trustedJobPattern) .invalidTrustedResourceContext

/-! ### What happens during a call -/

structure ResourceResolveRequest where
  trustedContext : TrustedResourceContext
  uri : String
  mediaType : String
  purpose : String
  declaredSizeBytes : Nat
deriving DecidableEq

structure ResourceExternalizeRequest where
  trustedContext : TrustedResourceContext
  content : Bytes
  mediaType : String
  purpose : String
  expiresAt : Int
  sizeBytes : Nat
  sha256 : Bytes
deriving DecidableEq

inductive Event where
  /-- The context was asked whether it is done. -/
  | looked
  | told (now : Int)
  /-- A resolver was called, and returned a body or none. -/
  | asked (id : String) (request : ResourceResolveRequest) (body : Bool)
  /-- An externalizer was called. -/
  | stored (id : String) (request : ResourceExternalizeRequest)
  /-- Bytes came out of a reader. -/
  | read (taken : Bytes)
  | closed
deriving DecidableEq

abbrev History := List Event

def taken (events : History) : Bytes :=
  events.flatMap fun
    | .read bytes => bytes
    | _ => []

def contacted (events : History) : List String :=
  events.filterMap fun
    | .asked id _ _ => some id
    | .stored id _ => some id
    | _ => none

def bodies (events : History) : Nat :=
  events.countP fun
    | .asked _ _ body => body
    | _ => false

def closings (events : History) : Nat := events.count .closed

inductive ReadError where
  | eof
  | other
deriving DecidableEq

/-- What a reader does with a chunk: the number of bytes that it reports, what is in the chunk and its error. -/
structure Reading where
  count : Int
  chunk : Nat → UInt8
  err : Option ReadError

/-- The bytes at the front of a chunk of the length; a reader cannot write more than fit. -/
def Reading.taken (reading : Reading) (length : Nat) : Bytes :=
  (List.range (min reading.count.toNat length)).map reading.chunk

structure Reader where
  read : History → Nat → Reading

structure Body extends Reader where
  closeFails : History → Bool

structure Context where
  err : History → Option String

structure ResourceResolveResult where
  body : Option Body
  mediaType : String
  failed : Bool

/-- What an externalizer returns and leaves in the content that it was given. -/
structure ResourceExternalizeResult where
  ref : Option ResourceRef
  content : Bytes
  failed : Bool

structure ResourceBackend where
  maxBytes : Nat
  resolve : History → ResourceResolveRequest → ResourceResolveResult
  externalize : History → ResourceExternalizeRequest → ResourceExternalizeResult

structure ResourceBackendRegistration where
  id : String
  maxBytes : Nat
  resolver : Option (History → ResourceResolveRequest → ResourceResolveResult)
  externalizer : Option (History → ResourceExternalizeRequest → ResourceExternalizeResult)

abbrev Backends := List (String × ResourceBackend)

/-- The backends have canonical identifiers of their own and limits. -/
structure Installed (backends : Backends) : Prop where
  canonical : ∀ entry ∈ backends, validResourceIdentifier entry.1 maxResourceIdentifierBytes resourceIDPattern = true
  bounded : ∀ entry ∈ backends, entry.2.maxBytes ≠ 0 ∧ entry.2.maxBytes ≤ maxResourceSizeBytes
  distinct : (backends.map Prod.fst).Nodup

structure ResourceRegistry where
  now : History → Int
  backends : Backends
  nonempty : backends ≠ []
  installed : Installed backends

def ResourceRegistry.ids (registry : ResourceRegistry) : List String := registry.backends.map Prod.fst

def addRegistration (backends : Backends) (registration : ResourceBackendRegistration) : Except Failure Backends := do
  require (validResourceIdentifier registration.id maxResourceIdentifierBytes resourceIDPattern) .invalidResourceRegistry
  require (registration.maxBytes != 0 && registration.maxBytes ≤ maxResourceSizeBytes) .invalidResourceRegistry
  match registration.resolver,registration.externalizer with
  | some resolve,some externalize =>
    require (!(backends.map Prod.fst).contains registration.id) .invalidResourceRegistry
    pure (backends ++ [(registration.id,⟨registration.maxBytes,resolve,externalize⟩)])
  | _,_ => .error .invalidResourceRegistry

theorem addRegistration_installed {backends more : Backends} {registration : ResourceBackendRegistration}
    (added : addRegistration backends registration = .ok more) (installed : Installed backends) :
    Installed more ∧ more ≠ [] := by
  simp only [addRegistration,check_bind_eq_ok,require_eq_ok,Bool.and_eq_true,bne_iff_ne,decide_eq_true_eq] at added
  obtain ⟨canonical,bounded,added⟩ := added
  split at added
  · simp only [check_bind_eq_ok,require_eq_ok,pure_eq_ok,Bool.not_eq_true',List.contains_eq_mem,
      decide_eq_false_iff_not] at added
    obtain ⟨fresh,rfl⟩ := added
    refine ⟨⟨?_,?_,?_⟩,by simp⟩
    · intro entry member
      rcases List.mem_append.mp member with old | new
      · exact installed.canonical entry old
      · obtain rfl := List.mem_singleton.mp new
        exact canonical
    · intro entry member
      rcases List.mem_append.mp member with old | new
      · exact installed.bounded entry old
      · obtain rfl := List.mem_singleton.mp new
        exact bounded
    · rw [List.map_append,List.nodup_append]
      refine ⟨installed.distinct,by simp,?_⟩
      intro id old other new same
      obtain rfl : other = registration.id := by simpa using new
      exact fresh (same ▸ old)
  · cases added

theorem addRegistrations_installed {registrations : List ResourceBackendRegistration} {backends more : Backends}
    (added : registrations.foldlM addRegistration backends = .ok more) (installed : Installed backends)
    (some : registrations ≠ [] ∨ backends ≠ []) : Installed more ∧ more ≠ [] := by
  induction registrations generalizing backends with
  | nil =>
    obtain rfl : backends = more := by simpa using added
    exact ⟨installed,some.resolve_left (by simp)⟩
  | cons registration registrations ih =>
    rw [List.foldlM_cons,bind_eq_ok] at added
    obtain ⟨next,one,rest⟩ := added
    obtain ⟨kept,nonempty⟩ := addRegistration_installed one installed
    exact ih rest kept (.inr nonempty)

/-- A registry of the backends; without a clock it uses `timeNow`. -/
def newResourceRegistry (timeNow : History → Int) (now : Option (History → Int))
    (registrations : List ResourceBackendRegistration) : Except Failure ResourceRegistry :=
  if some : registrations = [] then .error .invalidResourceRegistry
  else match added : registrations.foldlM addRegistration [] with
    | .error failure => .error failure
    | .ok backends =>
      have installed := addRegistrations_installed added ⟨by simp,by simp,by simp⟩ (.inl some)
      .ok ⟨now.getD timeNow,backends,installed.2,installed.1⟩

abbrev Call := Program Failure Event

def look (ctx : Context) : Call Unit := do
  match ← Program.call ctx.err fun _ => .looked with
  | none => pure ()
  | some err => Program.fail (.context err)

def currentTime (registry : ResourceRegistry) : Call Int := Program.call registry.now .told

/-- What one reading makes of the output, and whether it is the end. -/
def readChunk (limit length : Nat) (output : Bytes) (reading : Reading) : Except Failure (Bytes × Bool) := do
  require (0 ≤ reading.count && reading.count ≤ length) .resourceBackendUnavailable
  let output := if reading.count > 0 then output ++ reading.taken length else output
  require (output.length ≤ limit) .resourceTooLarge
  match reading.err with
  | some .eof => pure (output,true)
  | some .other => .error .resourceBackendUnavailable
  | none => do
    require (reading.count != 0) .resourceBackendUnavailable
    pure (output,false)

/-- The length of the next chunk: one byte more than the limit is asked for. -/
def chunkLength (limit : Nat) (output : Bytes) : Nat := min (32 * 1024) (limit + 1 - output.length)

/-- The loop of `readBounded`. Every round that goes on has read a byte, so that `limit + 1` rounds are enough. -/
def readLoop (ctx : Context) (reader : Reader) (limit : Nat) : Nat → Bytes → Call Bytes
  | 0,_ => Program.fail .resourceTooLarge
  | rounds + 1,output =>
    if limit < output.length then Program.fail .resourceTooLarge
    else do
      look ctx
      let length := chunkLength limit output
      let reading ← Program.call (reader.read · length) fun reading => .read (reading.taken length)
      look ctx
      let (output,done) ← Program.of (readChunk limit length output reading)
      if done then pure output else readLoop ctx reader limit rounds output

def readBounded (ctx : Context) (reader : Option Reader) (limit : Nat) : Call Bytes :=
  match reader with
  | none => Program.fail .resourceBackendUnavailable
  | some reader =>
    if limit = 0 then Program.fail .resourceBackendUnavailable else readLoop ctx reader limit (limit + 1) []

def closeResourceBody : Option Body → Call Unit
  | none => pure ()
  | some body => do
    let _ ← Program.call body.closeFails fun _ => .closed

def readAndCloseBounded (ctx : Context) (body : Option Body) (limit : Nat) : Call Bytes :=
  match body with
  | none => Program.fail .resourceBackendUnavailable
  | some body => do
    let outcome ← (readBounded ctx (some body.toReader) limit).attempt
    let closeFails ← Program.call body.closeFails fun _ => .closed
    match outcome with
    | .error failure => Program.fail failure
    | .ok content => if closeFails then Program.fail .resourceBackendUnavailable else pure content

/-- `ErrResourceExpired` goes before the other errors of a reference. -/
def validateGenericResourceRef (ref : ResourceRef) (now : Int) : Except Failure Unit :=
  match validateResourceRefAt ref [ref.resolverId] now with
  | .ok () => .ok ()
  | .error failure =>
    if ref.expiresAt.any fun expiresAt => expiresAt.checkValid && expiresAt.asTime ≤ now then .error .resourceExpired
    else .error failure

def resolveSnapshot (registry : ResourceRegistry) : Option ResourceRef → Call (ResourceRef × ResourceBackend × Int)
  | none => Program.fail (.invalidResourceRef none)
  | some ref => do
    Program.of (require ref.known (.invalidResourceRef none))
    let now ← currentTime registry
    Program.of (validateGenericResourceRef ref now)
    match registry.backends.lookup ref.resolverId with
    | none => Program.fail .resourceResolverUnavailable
    | some backend =>
      if ref.sizeBytes > backend.maxBytes then Program.fail .resourceTooLarge
      else pure (ref,backend,(ref.expiresAt.map Timestamp.asTime).getD 0)

def resolveRequest (ref : ResourceRef) (trusted : TrustedResourceContext) : ResourceResolveRequest :=
  ⟨trusted,ref.uri,ref.mediaType,ref.purpose,ref.sizeBytes⟩

/-- A failed call is told apart from the end of the context. -/
def collapseBackendError {α : Type} (ctx : Context) : Call α := do
  look ctx
  Program.fail .resourceBackendUnavailable

structure ResolvedResource where
  content : Bytes
  mediaType : String
deriving DecidableEq

section
variable (sha256 : Bytes → Bytes)

def verifyResolvedContent (ref : ResourceRef) (mediaType : String) (content : Bytes) : Except Failure Unit := do
  require (mediaType == ref.mediaType) .resourceMediaTypeMismatch
  require (content.length == ref.sizeBytes) .resourceSizeMismatch
  require (sha256 content == ref.sha256) .resourceDigestMismatch

/-- The registry and the context may be nil, and so may the reference. -/
def resolve (registry : Option ResourceRegistry) (ctx : Option Context) (ref : Option ResourceRef)
    (trusted : TrustedResourceContext) : Call ResolvedResource :=
  match registry,ctx with
  | none,_ => Program.fail .invalidResourceRegistry
  | some _,none => Program.fail .resourceContextRequired
  | some registry,some ctx => do
    look ctx
    Program.of (validateTrustedResourceContext trusted)
    let (snapshot,backend,expiresAt) ← resolveSnapshot registry ref
    let request := resolveRequest snapshot trusted
    let result ← Program.call (backend.resolve · request) fun result => .asked snapshot.resolverId request result.body.isSome
    if result.failed then do
      closeResourceBody result.body
      collapseBackendError ctx
    else do
      let content ← readAndCloseBounded ctx result.body snapshot.sizeBytes
      look ctx
      let now ← currentTime registry
      if now < expiresAt then do
        Program.of (verifyResolvedContent sha256 snapshot result.mediaType content)
        pure ⟨content,result.mediaType⟩
      else Program.fail .resourceExpired

end

section
variable {ctx : Context} {history : History}

theorem look_ensures {post : Except Failure Unit → History → Prop} (live : ctx.err history = none → post (.ok ()) [.looked])
    (done : ∀ err, ctx.err history = some err → post (.error (.context err)) [.looked]) :
    Ensures (look ctx) history post := by
  refine Ensures.call_bind ?_
  cases found : ctx.err history with
  | none => exact Ensures.pure (live found)
  | some err => exact Ensures.fail (done err found)

theorem look_bind {α : Type} {f : Unit → Call α} {post : Except Failure α → History → Prop}
    (done : ∀ err, post (.error (.context err)) [.looked])
    (live : ctx.err history = none → Ensures (f ()) (history ++ [.looked]) fun outcome events =>
      post outcome (.looked :: events)) : Ensures (look ctx >>= f) history post :=
  Ensures.bind (look_ensures live fun err _ => done err)

theorem Reading.taken_length (reading : Reading) (length : Nat) :
    (reading.taken length).length = min reading.count.toNat length := by
  simp [Reading.taken]

theorem readChunk_eq_ok {limit length : Nat} {output next : Bytes} {reading : Reading} {done : Bool}
    (read : readChunk limit length output reading = .ok (next,done)) :
    next = output ++ reading.taken length ∧ next.length ≤ limit ∧ (done = false → output.length < next.length) := by
  simp only [readChunk,check_bind_eq_ok,require_eq_ok,Bool.and_eq_true,decide_eq_true_eq] at read
  obtain ⟨⟨positive,fits⟩,bounded,read⟩ := read
  have joined : (if reading.count > 0 then output ++ reading.taken length else output) = output ++ reading.taken length := by
    split
    · rfl
    · have none : reading.taken length = [] := by
        rw [← List.length_eq_zero_iff,Reading.taken_length]
        omega
      rw [none,List.append_nil]
  rw [joined] at bounded read
  cases err : reading.err with
  | none =>
    simp only [err,check_bind_eq_ok,require_eq_ok,bne_iff_ne] at read
    obtain ⟨some,rfl,rfl⟩ := read
    refine ⟨rfl,bounded,fun _ => ?_⟩
    rw [List.length_append,Reading.taken_length]
    omega
  | some failure =>
    cases failure with
    | eof =>
      simp only [err] at read
      obtain ⟨rfl,rfl⟩ := read
      exact ⟨rfl,bounded,by simp⟩
    | other => simp [err] at read

def Quiet (events : History) : Prop := ∀ event ∈ events, event = .looked ∨ ∃ bytes, event = .read bytes

theorem taken_append (events more : History) : taken (events ++ more) = taken events ++ taken more := List.flatMap_append

variable {events : History} {ref : ResourceRef}

theorem Quiet.cons {event : Event} (first : event = .looked ∨ ∃ bytes, event = .read bytes)
    (quiet : Quiet events) : Quiet (event :: events) := by
  intro other member
  rcases List.mem_cons.mp member with rfl | later
  · exact first
  · exact quiet other later

theorem quiet_round (bytes : Bytes) (quiet : Quiet events) :
    Quiet (.looked :: .read bytes :: .looked :: events) :=
  .cons (.inl rfl) (.cons (.inr ⟨bytes,rfl⟩) (.cons (.inl rfl) quiet))

theorem quiet_nil : Quiet [] := by
  intro event member
  cases member

/-- The loop returns what was read, never takes more than a byte over the limit, and does nothing but read. -/
theorem readLoop_ensures (reader : Reader) (limit rounds : Nat) (output : Bytes) (within : output.length ≤ limit) :
    Ensures (readLoop ctx reader limit rounds output) history fun outcome events =>
      Quiet events ∧ output.length + (taken events).length ≤ limit + 1 ∧
      ∀ content, outcome = .ok content → content = output ++ taken events ∧ content.length ≤ limit := by
  induction rounds generalizing output history with
  | zero =>
    refine Ensures.fail ⟨quiet_nil,?_,by simp⟩
    show output.length + 0 ≤ limit + 1
    omega
  | succ rounds ih =>
    rw [readLoop,if_neg (by omega)]
    refine look_bind (fun err => ⟨.cons (.inl rfl) quiet_nil,?_,by simp⟩) fun _ => ?_
    · show output.length + 0 ≤ limit + 1
      omega
    refine Ensures.call_bind ?_
    generalize reader.read (history ++ [.looked]) (chunkLength limit output) = reading
    have room : output.length + (reading.taken (chunkLength limit output)).length ≤ limit + 1 := by
      rw [Reading.taken_length,chunkLength]
      omega
    generalize chunk : reading.taken (chunkLength limit output) = bytes at room
    have ends : output.length + (taken [.looked,.read bytes,.looked]).length ≤ limit + 1 := by simpa [taken] using room
    refine look_bind (fun err => ⟨quiet_round bytes quiet_nil,ends,by simp⟩) fun _ => ?_
    refine Ensures.of_bind (fun next read => ?_) fun failure _ =>
      ⟨quiet_round bytes quiet_nil,ends,by simp⟩
    obtain ⟨next,done⟩ := next
    obtain ⟨grown,bounded,-⟩ := readChunk_eq_ok read
    rw [chunk] at grown
    cases done with
    | true =>
      refine Ensures.pure ⟨quiet_round bytes quiet_nil,ends,fun content same => ?_⟩
      cases same
      refine ⟨?_,bounded⟩
      rw [grown]
      simp [taken]
    | false =>
      refine (ih next bounded).mono fun outcome events rest => ?_
      obtain ⟨quiet,limited,returned⟩ := rest
      have split : taken (.looked :: .read bytes :: .looked :: events) = bytes ++ taken events := by simp [taken]
      refine ⟨quiet_round bytes quiet,?_,fun content same => ?_⟩
      · rw [split,List.length_append]
        rw [grown,List.length_append] at limited
        omega
      · obtain ⟨whole,fits⟩ := returned content same
        exact ⟨by rw [whole,grown,split,List.append_assoc],fits⟩

/-- As long as there are rounds for every byte that may still come, their number does not matter. -/
theorem readLoop_rounds (reader : Reader) {limit rounds more : Nat} {output : Bytes}
    (enough : limit < output.length + rounds) (plenty : limit < output.length + more) :
    readLoop ctx reader limit rounds output history = readLoop ctx reader limit more output history := by
  induction rounds generalizing more output history with
  | zero =>
    cases more with
    | zero => rfl
    | succ more =>
      rw [readLoop,readLoop,if_pos (by omega)]
  | succ rounds ih =>
    cases more with
    | zero => rw [readLoop,readLoop,if_pos (by omega)]
    | succ more =>
      rw [readLoop,readLoop]
      split
      · rfl
      · refine Program.bind_congr fun _ _ _ => Program.bind_congr fun reading _ _ => Program.bind_congr fun _ _ _ =>
          Program.bind_congr fun next _ ran => ?_
        obtain ⟨next,done⟩ := next
        obtain ⟨-,-,grows⟩ := readChunk_eq_ok (Program.of_eq_ok ran).1
        cases done with
        | true => rfl
        | false =>
          have longer := grows rfl
          exact ih (by omega) (by omega)

theorem readBounded_ensures (reader : Option Reader) (limit : Nat) :
    Ensures (readBounded ctx reader limit) history fun outcome events =>
      Quiet events ∧ (taken events).length ≤ limit + 1 ∧
      ∀ content, outcome = .ok content → content = taken events ∧ content.length ≤ limit := by
  have stopped : Ensures (Program.fail .resourceBackendUnavailable : Call Bytes) history fun outcome events =>
      Quiet events ∧ (taken events).length ≤ limit + 1 ∧
      ∀ content, outcome = .ok content → content = taken events ∧ content.length ≤ limit :=
    Ensures.fail ⟨quiet_nil,Nat.zero_le _,by simp⟩
  cases reader with
  | none => exact stopped
  | some reader =>
    rw [readBounded]
    split
    · exact stopped
    · refine (readLoop_ensures reader limit (limit + 1) [] (Nat.zero_le _)).mono fun outcome events loop => ?_
      simpa using loop

theorem readAndCloseBounded_ensures (body : Body) (limit : Nat) :
    Ensures (readAndCloseBounded ctx (some body) limit) history fun outcome events =>
      ∃ reads, events = reads ++ [.closed] ∧ Quiet reads ∧ (taken reads).length ≤ limit + 1 ∧
        ∀ content, outcome = .ok content → content = taken reads := by
  refine Ensures.bind (Ensures.attempt ?_)
  refine (readBounded_ensures (some body.toReader) limit).mono fun outcome reads spec => ?_
  obtain ⟨quiet,bounded,returned⟩ := spec
  refine Ensures.call_bind ?_
  cases outcome with
  | error failure => exact Ensures.fail ⟨reads,rfl,quiet,bounded,by simp⟩
  | ok content =>
    show Ensures (if body.closeFails (history ++ reads) = true then Program.fail .resourceBackendUnavailable
      else pure content : Call Bytes) _ _
    split
    · exact Ensures.fail ⟨reads,rfl,quiet,bounded,by simp⟩
    · refine Ensures.pure ⟨reads,rfl,quiet,bounded,fun other same => ?_⟩
      cases same
      exact (returned content rfl).1

theorem validateGenericResourceRef_eq_ok {now : Int} :
    validateGenericResourceRef ref now = .ok () ↔ validateResourceRefAt ref [ref.resolverId] now = .ok () := by
  unfold validateGenericResourceRef
  cases validateResourceRefAt ref [ref.resolverId] now with
  | ok u => simp
  | error failure =>
    dsimp only
    split <;> simp

theorem ResourceRegistry.mem_ids {registry : ResourceRegistry} {id : String} {backend : ResourceBackend}
    (found : registry.backends.lookup id = some backend) : (id,backend) ∈ registry.backends := by
  obtain ⟨before,later,same,-⟩ := List.lookup_eq_some_iff.mp found
  simp [same]

theorem ResourceRegistry.validateResourceResolvers_ids (registry : ResourceRegistry) :
    validateResourceResolvers registry.ids = .ok () := by
  rw [validateResourceResolvers_eq_ok,validInstalledResolvers,Bool.and_eq_true,List.all_eq_true]
  refine ⟨⟨?_,?_⟩,registry.installed.distinct⟩
  · simpa [ids] using registry.nonempty
  · intro id member
    obtain ⟨entry,inside,rfl⟩ := List.mem_map.mp member
    exact registry.installed.canonical entry inside

theorem ResourceRegistry.validateResourceRefAt_ids {registry : ResourceRegistry} {now : Int}
    (valid : validateResourceRefAt ref [ref.resolverId] now = .ok ()) (member : ref.resolverId ∈ registry.ids) :
    validateResourceRefAt ref registry.ids now = .ok () := by
  obtain ⟨-,-,rest⟩ := validateResourceRefAt_eq_ok.mp valid
  exact validateResourceRefAt_eq_ok.mpr ⟨registry.validateResourceResolvers_ids,member,rest⟩

/-- Whatever happens: no backend but the named one is contacted, and that one once at most; no more than one byte over the
    declared size is read; and a body that is returned is closed. -/
structure Restrained (ref : Option ResourceRef) (events : History) : Prop where
  named : contacted events = [] ∨ ∃ r, ref = some r ∧ contacted events = [r.resolverId]
  bounded : (taken events).length ≤ (ref.map (·.sizeBytes + 1)).getD 0
  closed : closings events = bodies events

/-- The content is what the reference says, read from the backend that it names, between two instants at which it had not
    expired. -/
structure Delivered (sha256 : Bytes → Bytes) (registry : ResourceRegistry) (trusted : TrustedResourceContext)
    (ref : ResourceRef) (resource : ResolvedResource) (events : History) : Prop where
  known : ref.known = true
  backend : ∃ backend, registry.backends.lookup ref.resolverId = some backend ∧ ref.sizeBytes ≤ backend.maxBytes
  media : resource.mediaType = ref.mediaType
  length : resource.content.length = ref.sizeBytes
  digest : sha256 resource.content = ref.sha256
  course : ∃ before reads after expiresAt, events =
      [.looked,.told before,.asked ref.resolverId (resolveRequest ref trusted) true] ++ reads ++ [.closed,.looked,.told after] ∧
    Quiet reads ∧ resource.content = taken reads ∧ validateResourceRefAt ref registry.ids before = .ok () ∧
    ref.expiresAt = some expiresAt ∧ before < expiresAt.asTime ∧ after < expiresAt.asTime

theorem quiet_effects (quiet : Quiet events) :
    contacted events = [] ∧ bodies events = 0 ∧ closings events = 0 := by
  refine ⟨List.filterMap_eq_nil_iff.mpr ?_,List.countP_eq_zero.mpr ?_,List.count_eq_zero.mpr ?_⟩
  · intro event member
    rcases quiet event member with rfl | ⟨bytes,rfl⟩ <;> rfl
  · intro event member
    rcases quiet event member with rfl | ⟨bytes,rfl⟩ <;> simp
  · intro member
    rcases quiet .closed member with impossible | ⟨bytes,impossible⟩ <;> cases impossible

/-- Events of a call that has contacted nobody. -/
def Idle (events : History) : Prop := contacted events = [] ∧ bodies events = 0 ∧ closings events = 0 ∧ taken events = []

theorem Idle.restrained {ref : Option ResourceRef} (idle : Idle events) : Restrained ref events := by
  obtain ⟨nobody,none,open_,nothing⟩ := idle
  exact ⟨.inl nobody,by rw [nothing]; exact Nat.zero_le _,by rw [none,open_]⟩

theorem Idle.looked (idle : Idle events) : Idle (.looked :: events) := by
  simpa [Idle,contacted,bodies,closings,taken] using idle

theorem closed_once {reads more : History} (quiet : Quiet reads) (idle : Idle more) :
    contacted (reads ++ .closed :: more) = [] ∧ bodies (reads ++ .closed :: more) = 0 ∧
      closings (reads ++ .closed :: more) = 1 ∧ taken (reads ++ .closed :: more) = taken reads := by
  obtain ⟨nobody,none,open_⟩ := quiet_effects quiet
  obtain ⟨nobody',none',open',nothing⟩ := idle
  simp only [contacted,bodies,closings,taken] at *
  refine ⟨?_,?_,?_,?_⟩
  · rw [List.filterMap_append,nobody,List.filterMap_cons,nobody']
    rfl
  · rw [List.countP_append,none,List.countP_cons,none']
    rfl
  · rw [List.count_append,open_,List.count_cons,open']
    rfl
  · rw [List.flatMap_append,List.flatMap_cons,nothing,List.append_nil,List.append_nil]

/-- The events of a fetch: what comes after the call of the resolver closes the body if there is one. -/
theorem restrained_fetch {request : ResourceResolveRequest} {before : Int} {body : Bool}
    {tail : History} (nobody : contacted tail = []) (none : bodies tail = 0) (closed : closings tail = body.toNat)
    (bounded : (taken tail).length ≤ ref.sizeBytes + 1) :
    Restrained (some ref) (.looked :: .told before :: .asked ref.resolverId request body :: tail) := by
  refine ⟨.inr ⟨ref,rfl,?_⟩,?_,?_⟩
  · simpa [contacted] using nobody
  · simpa [taken] using bounded
  · have same : closings (.looked :: .told before :: .asked ref.resolverId request body :: tail) = closings tail := by
      simp [closings]
    have more : bodies (.looked :: .told before :: .asked ref.resolverId request body :: tail) = bodies tail + body.toNat := by
      cases body <;> simp [bodies]
    rw [same,more,closed,none,Nat.zero_add]

/-- A snapshot is of a valid reference to an installed backend that takes its size. -/
theorem resolveSnapshot_ensures (registry : ResourceRegistry) (ref : Option ResourceRef) :
    Ensures (resolveSnapshot registry ref) history fun outcome events =>
      Idle events ∧ ∀ snapshot backend expiry, outcome = .ok (snapshot,backend,expiry) →
        ref = some snapshot ∧ snapshot.known = true ∧ registry.backends.lookup snapshot.resolverId = some backend ∧
        snapshot.sizeBytes ≤ backend.maxBytes ∧ ∃ before expiresAt, events = [.told before] ∧
          validateResourceRefAt snapshot registry.ids before = .ok () ∧ snapshot.expiresAt = some expiresAt ∧
          before < expiresAt.asTime ∧ expiry = expiresAt.asTime := by
  have idle : Idle [] := ⟨rfl,rfl,rfl,rfl⟩
  have told : ∀ now, Idle [.told now] := fun now => ⟨rfl,rfl,rfl,rfl⟩
  cases ref with
  | none => exact Ensures.fail ⟨idle,by simp⟩
  | some ref =>
    refine Ensures.of_bind (fun _ known => ?_) fun failure _ => ⟨idle,by simp⟩
    refine Ensures.call_bind ?_
    generalize registry.now history = before
    refine Ensures.of_bind (fun _ valid => ?_) fun failure _ => ⟨told before,by simp⟩
    cases found : registry.backends.lookup ref.resolverId with
    | none => exact Ensures.fail ⟨told before,by simp⟩
    | some backend =>
      dsimp only
      split
      · exact Ensures.fail ⟨told before,by simp⟩
      · have alone := validateGenericResourceRef_eq_ok.mp valid
        obtain ⟨-,-,-,expiresAt,set,-,unexpired⟩ := validateResourceRefAt_eq_ok.mp alone
        have member : ref.resolverId ∈ registry.ids := List.mem_map_of_mem (ResourceRegistry.mem_ids found)
        refine Ensures.pure ⟨told before,?_⟩
        intro snapshot other expiry same
        cases same
        refine ⟨rfl,require_eq_ok.mp known,found,by omega,before,expiresAt,rfl,
          ResourceRegistry.validateResourceRefAt_ids alone member,set,unexpired,?_⟩
        rw [set]
        rfl

theorem verifyResolvedContent_eq_ok {sha256 : Bytes → Bytes} {mediaType : String} {content : Bytes}
    {u : Unit} : verifyResolvedContent sha256 ref mediaType content = .ok u ↔
      mediaType = ref.mediaType ∧ content.length = ref.sizeBytes ∧ sha256 content = ref.sha256 := by
  simp [verifyResolvedContent]

theorem failed_call_ensures (body : Option Body) :
    Ensures (do closeResourceBody body; collapseBackendError ctx : Call ResolvedResource) history fun outcome events =>
      contacted events = [] ∧ bodies events = 0 ∧ closings events = body.isSome.toNat ∧ taken events = [] ∧
        ∀ resource, outcome ≠ .ok resource := by
  cases body with
  | none =>
    refine Ensures.bind (Ensures.pure ?_)
    exact look_bind (fun err => ⟨rfl,rfl,rfl,rfl,by simp⟩) fun _ =>
      Ensures.fail ⟨rfl,rfl,rfl,rfl,by simp⟩
  | some body =>
    refine Ensures.bind (Ensures.call_bind (Ensures.pure ?_))
    exact look_bind (fun err => ⟨rfl,rfl,rfl,rfl,by simp⟩) fun _ =>
      Ensures.fail ⟨rfl,rfl,rfl,rfl,by simp⟩

theorem checked_ensures (sha256 : Bytes → Bytes) (registry : ResourceRegistry) (ref : ResourceRef) (mediaType : String)
    (content : Bytes) (expiry : Int) :
    Ensures (do
      look ctx
      let now ← currentTime registry
      if now < expiry then do
        Program.of (verifyResolvedContent sha256 ref mediaType content)
        pure ⟨content,mediaType⟩
      else Program.fail .resourceExpired : Call ResolvedResource) history fun outcome events =>
      Idle events ∧ ∀ resource, outcome = .ok resource → resource = ⟨content,mediaType⟩ ∧ mediaType = ref.mediaType ∧
        content.length = ref.sizeBytes ∧ sha256 content = ref.sha256 ∧
        ∃ after, events = [.looked,.told after] ∧ after < expiry := by
  have still : ∀ now, Idle [.looked,.told now] := fun now => ⟨rfl,rfl,rfl,rfl⟩
  refine look_bind (fun err => ⟨⟨rfl,rfl,rfl,rfl⟩,by simp⟩) fun _ => ?_
  refine Ensures.call_bind ?_
  generalize registry.now (history ++ [.looked]) = after
  split
  · next unexpired =>
    refine Ensures.of_bind (fun _ verified => ?_) fun failure _ => ⟨still after,by simp⟩
    obtain ⟨media,length,digest⟩ := verifyResolvedContent_eq_ok.mp verified
    refine Ensures.pure ⟨still after,fun resource same => ?_⟩
    cases same
    exact ⟨rfl,media,length,digest,after,rfl,unexpired⟩
  · exact Ensures.fail ⟨still after,by simp⟩

/-- Resolving delivers exactly what was referenced, and is restrained in any case: a failure returns no content. -/
theorem resolve_delivers (sha256 : Bytes → Bytes) (registry : Option ResourceRegistry) (ctx : Option Context)
    (ref : Option ResourceRef) (trusted : TrustedResourceContext) (history : History) :
    Ensures (resolve sha256 registry ctx ref trusted) history fun outcome events =>
      Restrained ref events ∧ ∀ resource, outcome = .ok resource →
        ∃ installed named, registry = some installed ∧ ref = some named ∧
          Delivered sha256 installed trusted named resource events := by
  have idle : ∀ {events : History}, Idle events → ∀ failure, Restrained ref events ∧
      ∀ resource, (.error failure : Except Failure ResolvedResource) = .ok resource → ∃ installed named,
        registry = some installed ∧ ref = some named ∧ Delivered sha256 installed trusted named resource events :=
    fun quiet failure => ⟨quiet.restrained,by simp⟩
  cases registry with
  | none => exact Ensures.fail (idle ⟨rfl,rfl,rfl,rfl⟩ _)
  | some registry =>
  cases ctx with
  | none => exact Ensures.fail (idle ⟨rfl,rfl,rfl,rfl⟩ _)
  | some ctx =>
  refine look_bind (fun err => idle ⟨rfl,rfl,rfl,rfl⟩ _) fun _ => ?_
  refine Ensures.of_bind (fun _ trust => ?_) fun failure _ => idle ⟨rfl,rfl,rfl,rfl⟩ _
  refine Ensures.bind ((resolveSnapshot_ensures registry ref).mono fun outcome events spec => ?_)
  obtain ⟨nobody,found⟩ := spec
  cases outcome with
  | error failure =>
    exact idle nobody.looked failure
  | ok snapshot =>
    obtain ⟨snapshot,backend,expiry⟩ := snapshot
    obtain ⟨rfl,known,member,fits,before,expiresAt,rfl,valid,set,unexpired,rfl⟩ := found snapshot backend expiry rfl
    refine Ensures.call_bind ?_
    generalize backend.resolve _ _ = result
    split
    · -- the call failed
      refine (failed_call_ensures result.body).mono fun outcome tail spec => ?_
      obtain ⟨nobody,none,closed,nothing,empty⟩ := spec
      exact ⟨restrained_fetch nobody none closed (by simp [nothing]),fun resource same => absurd same (empty resource)⟩
    · cases result.body with
      | none =>
        refine Ensures.bind (Ensures.fail ⟨restrained_fetch rfl rfl rfl (Nat.zero_le _),?_⟩)
        exact (by simp)
      | some body =>
        refine Ensures.bind ((readAndCloseBounded_ensures body snapshot.sizeBytes).mono fun outcome events spec => ?_)
        obtain ⟨reads,rfl,quiet,bounded,returned⟩ := spec
        have restrained : ∀ more, Idle more → Restrained (some snapshot) (.looked :: .told before ::
            .asked snapshot.resolverId (resolveRequest snapshot trusted) true :: (reads ++ .closed :: more)) := by
          intro more still
          obtain ⟨nobody,none,closed,same⟩ := closed_once quiet still
          exact restrained_fetch nobody none closed (by rw [same]; exact bounded)
        cases outcome with
        | error failure => exact ⟨restrained [] ⟨rfl,rfl,rfl,rfl⟩,by simp⟩
        | ok content =>
          refine (checked_ensures sha256 registry snapshot result.mediaType content expiresAt.asTime).mono
            fun outcome tail spec => ?_
          obtain ⟨still,delivered⟩ := spec
          have joined : reads ++ [.closed] ++ tail = reads ++ .closed :: tail := by simp
          refine ⟨joined ▸ restrained tail still,fun resource same => ?_⟩
          obtain ⟨rfl,media,length,digest,after,rfl,later⟩ := delivered resource same
          refine ⟨registry,snapshot,rfl,rfl,⟨known,⟨backend,member,fits⟩,media,length,digest,?_⟩⟩
          refine ⟨before,reads,after,expiresAt,?_,quiet,returned content rfl,valid,set,unexpired,later⟩
          simp

end

end Cap.Resource
