import Cap.ResourceRegistry

/-!
Externalizing content (`production_resource_externalize.go`) and resolving what was externalized.
The backend may return any reference and may write to the content that it is given: the
registry compares the reference with what it has read itself.
-/
namespace Cap.Resource
open Cap.Checks Cap.Text Cap.Interaction

section
variable (sha256 : Bytes → Bytes)

def externalizeInputs (registry : ResourceRegistry) (ctx : Context) (backendID mediaType purpose : String) (expiresAt : Int)
    (trusted : TrustedResourceContext) : Call (ResourceBackend × Int) := do
  look ctx
  Program.of (validateTrustedResourceContext trusted)
  Program.of (require (validResourceIdentifier backendID maxResourceIdentifierBytes resourceIDPattern)
    .resourceExternalizerUnavailable)
  match registry.backends.lookup backendID with
  | none => Program.fail .resourceExternalizerUnavailable
  | some backend => do
    Program.of (require (validResourceIdentifier mediaType maxResourceMediaTypeBytes resourceMediaPattern &&
      validResourceIdentifier purpose maxResourcePurposeBytes resourcePurposePattern) (.invalidResourceRef none))
    let now ← currentTime registry
    Program.of (require (Timestamp.new expiresAt).checkValid (.invalidResourceRef none))
    Program.of (require (now < expiresAt) .resourceExpired)
    pure (backend,now)

/-- The content is copied for the backend. -/
def externalizeRequest (content : Bytes) (mediaType purpose : String) (expiresAt : Int) (trusted : TrustedResourceContext) :
    ResourceExternalizeRequest :=
  ⟨trusted,content,mediaType,purpose,expiresAt,content.length,sha256 content⟩

def externalizedMetadataMatches (ref : ResourceRef) (backendID : String) (request : ResourceExternalizeRequest) : Bool :=
  ref.resolverId == backendID && ref.mediaType == request.mediaType && ref.purpose == request.purpose &&
    ref.sizeBytes == request.sizeBytes && ref.sha256 == request.sha256 &&
    ref.expiresAt.any fun expiresAt => expiresAt.checkValid && expiresAt.asTime == request.expiresAt

def validateExternalizedRef (registry : ResourceRegistry) (ref : Option ResourceRef) (backendID : String)
    (request : ResourceExternalizeRequest) (validatedAt : Int) : Except Failure ResourceRef :=
  match ref with
  | none => .error .resourceMetadataMismatch
  | some ref => do
    require ref.known (.invalidResourceRef none)
    require (externalizedMetadataMatches ref backendID request) .resourceMetadataMismatch
    validateResourceRefAt ref registry.ids validatedAt
    pure ref

/-- The call of the backend and the checks of what it returns; the backend's copy of the content is the one in the
    request. -/
def store (registry : ResourceRegistry) (ctx : Context) (backendID : String) (backend : ResourceBackend)
    (request : ResourceExternalizeRequest) (validatedAt : Int) : Call ResourceRef := do
  let result ← Program.call (backend.externalize · request) fun _ => .stored backendID request
  if result.failed then collapseBackendError ctx
  else do
    look ctx
    let now ← currentTime registry
    Program.of (require (now < request.expiresAt) .resourceExpired)
    Program.of (validateExternalizedRef registry result.ref backendID {request with content := result.content} validatedAt)

def externalize (registry : Option ResourceRegistry) (ctx : Option Context) (backendID : String) (reader : Option Reader)
    (mediaType purpose : String) (expiresAt : Int) (trusted : TrustedResourceContext) : Call ResourceRef :=
  match registry,ctx with
  | none,_ => Program.fail .invalidResourceRegistry
  | some _,none => Program.fail .resourceContextRequired
  | some registry,some ctx => do
    let (backend,validatedAt) ← externalizeInputs registry ctx backendID mediaType purpose expiresAt trusted
    let content ← readBounded ctx reader backend.maxBytes
    look ctx
    let now ← currentTime registry
    Program.of (require (now < expiresAt) .resourceExpired)
    Program.of (require (!content.isEmpty) .resourceSizeMismatch)
    store registry ctx backendID backend (externalizeRequest sha256 content mediaType purpose expiresAt trusted) validatedAt

end

/-! ### The reference that is returned -/

/-- The reference is one to the content, as the caller asked for it, at every instant before the expiry. -/
structure Faithful (sha256 : Bytes → Bytes) (registry : ResourceRegistry) (backendID mediaType purpose : String)
    (expiresAt : Int) (content : Bytes) (ref : ResourceRef) : Prop where
  resolver : ref.resolverId = backendID
  installed : ∃ backend, registry.backends.lookup backendID = some backend ∧ content.length ≤ backend.maxBytes
  digest : ref.sha256 = sha256 content
  size : ref.sizeBytes = content.length
  media : ref.mediaType = mediaType
  purpose : ref.purpose = purpose
  expiry : ∃ timestamp, ref.expiresAt = some timestamp ∧ timestamp.asTime = expiresAt
  known : ref.known = true
  valid : ∀ now, now < expiresAt → validateResourceRefAt ref registry.ids now = .ok ()

section
variable {sha256 : Bytes → Bytes} {registry : ResourceRegistry} {ctx : Context} {history : History}

theorem externalizedMetadataMatches_iff {ref : ResourceRef} {backendID : String} {request : ResourceExternalizeRequest} :
    externalizedMetadataMatches ref backendID request = true ↔
      ref.resolverId = backendID ∧ ref.mediaType = request.mediaType ∧ ref.purpose = request.purpose ∧
      ref.sizeBytes = request.sizeBytes ∧ ref.sha256 = request.sha256 ∧
      ∃ timestamp, ref.expiresAt = some timestamp ∧ timestamp.checkValid = true ∧ timestamp.asTime = request.expiresAt := by
  simp [externalizedMetadataMatches,Option.any_eq_true,and_assoc]

/-- A reference that was valid once is valid at every instant before its expiry. -/
theorem valid_until {ref : ResourceRef} {installed : List String} {once now : Int} {timestamp : Timestamp}
    (valid : validateResourceRefAt ref installed once = .ok ()) (set : ref.expiresAt = some timestamp)
    (unexpired : now < timestamp.asTime) : validateResourceRefAt ref installed now = .ok () := by
  obtain ⟨resolvers,member,canonical,other,same,checked,-⟩ := validateResourceRefAt_eq_ok.mp valid
  obtain rfl : timestamp = other := Option.some.inj (set.symm.trans same)
  exact validateResourceRefAt_eq_ok.mpr ⟨resolvers,member,canonical,timestamp,set,checked,unexpired⟩

theorem externalizeInputs_ensures (backendID mediaType purpose : String) (expiresAt : Int)
    (trusted : TrustedResourceContext) :
    Ensures (externalizeInputs registry ctx backendID mediaType purpose expiresAt trusted) history fun outcome events =>
      taken events = [] ∧ ∀ backend now, outcome = .ok (backend,now) → registry.backends.lookup backendID = some backend := by
  refine look_bind (fun err => ⟨rfl,by simp⟩) fun _ => ?_
  refine Ensures.of_bind (fun _ _ => ?_) fun _ _ => ⟨rfl,by simp⟩
  refine Ensures.of_bind (fun _ _ => ?_) fun _ _ => ⟨rfl,by simp⟩
  cases found : registry.backends.lookup backendID with
  | none => exact Ensures.fail ⟨rfl,by simp⟩
  | some backend =>
    refine Ensures.of_bind (fun _ _ => ?_) fun _ _ => ⟨rfl,by simp⟩
    refine Ensures.call_bind ?_
    refine Ensures.of_bind (fun _ _ => ?_) fun _ _ => ⟨rfl,by simp⟩
    refine Ensures.of_bind (fun _ _ => ?_) fun _ _ => ⟨rfl,by simp⟩
    refine Ensures.pure ⟨rfl,fun other now same => ?_⟩
    cases same
    rfl

/-- Whatever the backend does, the reference that is returned matches the request as it was made. -/
theorem store_ensures (backendID : String) (backend : ResourceBackend) (request : ResourceExternalizeRequest)
    (validatedAt : Int) :
    Ensures (store registry ctx backendID backend request validatedAt) history fun outcome events =>
      taken events = [] ∧ ∀ ref, outcome = .ok ref → ref.known = true ∧
        externalizedMetadataMatches ref backendID request = true ∧
        validateResourceRefAt ref registry.ids validatedAt = .ok () := by
  refine Ensures.call_bind ?_
  generalize backend.externalize history request = result
  split
  · exact look_bind (fun err => ⟨rfl,by simp⟩) fun _ =>
      Ensures.fail ⟨rfl,by simp⟩
  · refine look_bind (fun err => ⟨rfl,by simp⟩) fun _ => ?_
    refine Ensures.call_bind ?_
    refine Ensures.of_bind (fun _ _ => ?_) fun _ _ => ⟨rfl,by simp⟩
    refine Ensures.of ⟨rfl,fun ref same => ?_⟩
    cases returned : result.ref with
    | none => simp [validateExternalizedRef,returned] at same
    | some found =>
      simp only [validateExternalizedRef,returned,check_bind_eq_ok,require_eq_ok,pure_eq_ok] at same
      obtain ⟨known,matched,valid,rfl⟩ := same
      exact ⟨known,matched,valid⟩

theorem externalize_faithful (backendID : String) (reader : Option Reader) (mediaType purpose : String) (expiresAt : Int)
    (trusted : TrustedResourceContext) :
    Ensures (externalize sha256 (some registry) (some ctx) backendID reader mediaType purpose expiresAt trusted) history
      fun outcome events => ∀ ref, outcome = .ok ref →
        Faithful sha256 registry backendID mediaType purpose expiresAt (taken events) ref := by
  refine Ensures.bind ((externalizeInputs_ensures backendID mediaType purpose expiresAt trusted).mono
    fun outcome events spec => ?_)
  obtain ⟨nothing,found⟩ := spec
  cases outcome with
  | error failure => exact (by simp)
  | ok inputs =>
  obtain ⟨backend,validatedAt⟩ := inputs
  have installed := found backend validatedAt rfl
  refine Ensures.bind ((readBounded_ensures reader backend.maxBytes).mono fun outcome reads spec => ?_)
  obtain ⟨-,-,returned⟩ := spec
  cases outcome with
  | error failure => exact (by simp)
  | ok content =>
  obtain ⟨produced,fits⟩ := returned content rfl
  refine look_bind (by simp) fun _ => ?_
  refine Ensures.call_bind ?_
  refine Ensures.of_bind (fun _ _ => ?_) (by simp)
  refine Ensures.of_bind (fun _ _ => ?_) (by simp)
  refine (store_ensures backendID backend _ validatedAt).mono fun outcome tail spec => ?_
  obtain ⟨silent,stored⟩ := spec
  intro ref same
  obtain ⟨known,matched,valid⟩ := stored ref same
  obtain ⟨resolver,media,purposes,size,digest,timestamp,set,-,expiry⟩ := externalizedMetadataMatches_iff.mp matched
  have whole : taken (events ++ (reads ++ .looked :: .told (registry.now (history ++ events ++ reads ++ [.looked])) :: tail)) =
      content := by
    simp only [taken_append,nothing,← produced]
    simpa [taken] using silent
  rw [whole]
  refine ⟨resolver,⟨backend,installed,fits⟩,digest,size,media,purposes,⟨timestamp,set,expiry⟩,known,?_⟩
  intro now unexpired
  exact valid_until valid set (by rw [expiry]; exact unexpired)

/-- The context is not done from here on. -/
def Context.Live (ctx : Context) (start : History) : Prop := ∀ more, ctx.err (start ++ more) = none

/-- From here on the body hands over the content piece by piece and its end, no piece is empty before the end, and it
    closes without an error. -/
structure Body.Serves (body : Body) (content : Bytes) (start : History) : Prop where
  reads : ∀ more rest length, taken more ++ rest = content → 0 < length →
    ∃ piece tail, rest = piece ++ tail ∧ piece.length ≤ length ∧
      (body.read (start ++ more) length).count = piece.length ∧ (body.read (start ++ more) length).taken length = piece ∧
      ((body.read (start ++ more) length).err = none ∧ piece ≠ [] ∨
        (body.read (start ++ more) length).err = some .eof ∧ tail = [])
  closes : ∀ more, body.closeFails (start ++ more) = false

/-- From here on the backend answers the request with a body that serves the content. -/
def ResourceBackend.Serves (backend : ResourceBackend) (id : String) (request : ResourceResolveRequest) (content : Bytes)
    (mediaType : String) (start : History) : Prop :=
  ∀ more, ∃ body, backend.resolve (start ++ more) request = ⟨some body,mediaType,false⟩ ∧
    body.Serves content (start ++ more ++ [.asked id request true])

theorem look_live_bind {α : Type} {f : Unit → Call α} {post : Except Failure α → History → Prop}
    (live : ctx.err history = none) (next : Ensures (f ()) (history ++ [.looked]) fun outcome events =>
      post outcome (.looked :: events)) : Ensures (look ctx >>= f) history post :=
  Ensures.bind (look_ensures (fun _ => next) fun err done => by rw [live] at done; cases done)

theorem readChunk_piece {limit length : Nat} {output piece : Bytes} {reading : Reading}
    (count : reading.count = piece.length) (chunk : reading.taken length = piece) (fits : piece.length ≤ length)
    (bounded : (output ++ piece).length ≤ limit) :
    readChunk limit length output reading = match reading.err with
      | some .eof => .ok (output ++ piece,true)
      | some .other => .error .resourceBackendUnavailable
      | none => if piece = [] then .error .resourceBackendUnavailable else .ok (output ++ piece,false) := by
  have joined : (if reading.count > 0 then output ++ reading.taken length else output) = output ++ piece := by
    rw [chunk]
    split
    · rfl
    · have none : piece = [] := List.length_eq_zero_iff.mp (by omega)
      rw [none,List.append_nil]
  have positive : (decide (0 ≤ reading.count) && decide (reading.count ≤ length)) = true := by
    rw [count]
    simp [fits]
  simp only [readChunk,positive,joined,bounded]
  cases reading.err with
  | some failure => cases failure <;> rfl
  | none =>
    by_cases empty : piece = []
    · simp [count,empty]
      rfl
    · have some : (reading.count != 0) = true := by simp [count,empty]
      rw [if_neg empty,some]
      rfl

theorem readLoop_serves {body : Body} {content : Bytes} {start : History} (serves : body.Serves content start)
    (live : ctx.Live start) {limit : Nat} (fits : content.length ≤ limit) (rounds : Nat) (more : History) (rest : Bytes)
    (split : taken more ++ rest = content) (enough : limit < (taken more).length + rounds) :
    Ensures (readLoop ctx body.toReader limit rounds (taken more)) (start ++ more) fun outcome _ => outcome = .ok content := by
  have whole : (taken more).length + rest.length = content.length := by rw [← split,List.length_append]
  induction rounds generalizing more rest with
  | zero => omega
  | succ rounds ih =>
    rw [readLoop,if_neg (by omega)]
    refine look_live_bind (live more) (Ensures.call_bind ?_)
    have same : taken (more ++ [.looked]) = taken more := by simp [taken]
    have positive : 0 < chunkLength limit (taken more) := by
      rw [chunkLength]
      omega
    rw [List.append_assoc start more]
    obtain ⟨piece,tail,rfl,short,count,chunk,ends⟩ := serves.reads (more ++ [.looked]) rest _ (by rw [same]; exact split) positive
    generalize body.read (start ++ (more ++ [.looked])) (chunkLength limit (taken more)) = reading at count chunk ends
    have alive : ctx.err (start ++ (more ++ [.looked]) ++ [.read (reading.taken (chunkLength limit (taken more)))]) = none := by
      rw [List.append_assoc]
      exact live _
    refine look_live_bind alive ?_
    rw [List.length_append] at whole
    rw [readChunk_piece count chunk short (by rw [List.length_append]; omega),chunk]
    rcases ends with ⟨none,some⟩ | ⟨eof,rfl⟩
    · rw [none]
      rw [if_neg some]
      have grown : taken (more ++ [.looked,.read piece,.looked]) = taken more ++ piece := by simp [taken]
      have next := ih (more ++ [.looked,.read piece,.looked]) tail (by rw [grown,List.append_assoc]; exact split)
        (by
          have := List.length_pos_iff.mpr some
          rw [grown,List.length_append]
          omega)
        (by rw [grown,List.length_append]; omega)
      rw [grown] at next
      refine Ensures.of_bind (fun result returned => ?_) (by simp)
      cases returned
      simpa using next
    · rw [eof]
      refine Ensures.of_bind (fun result returned => ?_) (by simp)
      cases returned
      rw [List.append_nil] at split
      exact Ensures.pure (by rw [split])

theorem readAndCloseBounded_serves {body : Body} {content : Bytes} {start : History} (serves : body.Serves content start)
    (live : ctx.Live start) (nonempty : content ≠ []) :
    Ensures (readAndCloseBounded ctx (some body) content.length) start fun outcome _ => outcome = .ok content := by
  refine Ensures.bind (Ensures.attempt ?_)
  have nonzero : content.length ≠ 0 := by simpa using nonempty
  rw [readBounded,if_neg nonzero]
  have loop := readLoop_serves serves live le_rfl (content.length + 1) [] content rfl (by simp [taken])
  rw [List.append_nil] at loop
  refine loop.mono fun outcome events read => ?_
  subst read
  refine Ensures.call_bind ?_
  rw [serves.closes events]
  exact Ensures.pure rfl

section
variable {backendID mediaType purpose : String} {expiresAt : Int} {content : Bytes} {ref : ResourceRef}

theorem resolveSnapshot_faithful (faithful : Faithful sha256 registry backendID mediaType purpose expiresAt content ref)
    {backend : ResourceBackend} (found : registry.backends.lookup backendID = some backend)
    (before : registry.now history < expiresAt) :
    Ensures (resolveSnapshot registry (some ref)) history fun outcome events =>
      outcome = .ok (ref,backend,expiresAt) ∧ events = [.told (registry.now history)] := by
  refine Ensures.of_bind (fun _ _ => ?_) fun failure refused => ?_
  · refine Ensures.call_bind ?_
    have valid := faithful.valid _ before
    obtain ⟨-,-,canonical,expiry⟩ := validateResourceRefAt_eq_ok.mp valid
    have alone : validateResourceRefAt ref [ref.resolverId] (registry.now history) = .ok () := by
      refine validateResourceRefAt_eq_ok.mpr ⟨?_,by simp,canonical,expiry⟩
      simp [validateResourceResolvers_eq_ok,validInstalledResolvers,canonical.resolver]
    rw [validateGenericResourceRef_eq_ok.mpr alone,faithful.resolver,found]
    dsimp only
    obtain ⟨other,same,fits⟩ := faithful.installed
    obtain rfl : backend = other := Option.some.inj (found.symm.trans same)
    rw [if_neg (by rw [faithful.size]; omega)]
    obtain ⟨timestamp,set,instant⟩ := faithful.expiry
    exact Ensures.pure ⟨by rw [set,Option.map_some,Option.getD_some,instant],rfl⟩
  · rw [faithful.known] at refused
    cases refused

/-- A faithful reference resolves to its content while the backend serves it. -/
theorem resolve_served (faithful : Faithful sha256 registry backendID mediaType purpose expiresAt content ref)
    {backend : ResourceBackend} (found : registry.backends.lookup backendID = some backend)
    {trusted : TrustedResourceContext} (trust : validateTrustedResourceContext trusted = .ok ()) {start : History}
    (live : ctx.Live start) (before : ∀ more, registry.now (start ++ more) < expiresAt)
    (serves : backend.Serves backendID (resolveRequest ref trusted) content mediaType start) :
    Ensures (resolve sha256 (some registry) (some ctx) (some ref) trusted) start fun outcome _ =>
      outcome = .ok ⟨content,mediaType⟩ := by
  have alive : ctx.err start = none := by simpa using live []
  refine look_live_bind alive ?_
  rw [trust]
  refine Ensures.of_bind (fun _ _ => ?_) (by simp)
  refine Ensures.bind ((resolveSnapshot_faithful faithful found (before [.looked])).mono fun outcome events spec => ?_)
  obtain ⟨rfl,rfl⟩ := spec
  refine Ensures.call_bind ?_
  rw [List.append_assoc,faithful.resolver]
  obtain ⟨body,answer,reads⟩ := serves ([.looked] ++ [.told (registry.now (start ++ [.looked]))])
  rw [answer]
  have nonempty : content ≠ [] := by
    obtain ⟨-,-,canonical,-⟩ := validateResourceRefAt_eq_ok.mp (faithful.valid _ (before []))
    have positive := canonical.positive
    rw [faithful.size] at positive
    simpa using positive
  have later : ∀ events more, ctx.err (start ++ events ++ more) = none := by
    intro events more
    rw [List.append_assoc]
    exact live _
  rw [faithful.size]
  refine Ensures.bind ((readAndCloseBounded_serves reads ?_ nonempty).mono fun outcome events read => ?_)
  · intro more
    rw [List.append_assoc]
    exact later _ _
  · subst read
    refine look_live_bind ?_ (Ensures.call_bind ?_)
    · rw [List.append_assoc]
      exact later _ _
    · rw [if_pos (by simpa using before _)]
      have verified : verifyResolvedContent sha256 ref mediaType content = .ok () :=
        verifyResolvedContent_eq_ok.mpr ⟨faithful.media.symm,faithful.size.symm,faithful.digest.symm⟩
      rw [verified]
      exact Ensures.of_bind (fun _ _ => Ensures.pure rfl) (by simp)

end

end

/-- Externalizing returns a reference that is faithful to what the reader produced, and from then on the registry resolves
    it to these bytes, before the expiry and as long as the context lives, whenever the backend serves them in pieces. -/
theorem externalize_inverts (sha256 : Bytes → Bytes) (registry : Option ResourceRegistry) (ctx : Option Context)
    (backendID : String) (reader : Option Reader) (mediaType purpose : String) (expiresAt : Int)
    (trusted : TrustedResourceContext) (history : History) :
    Ensures (externalize sha256 registry ctx backendID reader mediaType purpose expiresAt trusted) history
      fun outcome events => ∀ ref, outcome = .ok ref →
        ∃ installed backend, registry = some installed ∧ installed.backends.lookup backendID = some backend ∧
          Faithful sha256 installed backendID mediaType purpose expiresAt (taken events) ref ∧
          ∀ (ctx : Context) (trusted : TrustedResourceContext) (start : History), ctx.Live start →
            (∀ more, installed.now (start ++ more) < expiresAt) → validateTrustedResourceContext trusted = .ok () →
            backend.Serves backendID (resolveRequest ref trusted) (taken events) mediaType start →
            Ensures (resolve sha256 (some installed) (some ctx) (some ref) trusted) start fun outcome _ =>
              outcome = .ok ⟨taken events,mediaType⟩ := by
  cases registry with
  | none => exact Ensures.fail (by simp)
  | some registry =>
  cases ctx with
  | none => exact Ensures.fail (by simp)
  | some ctx =>
  refine (externalize_faithful backendID reader mediaType purpose expiresAt trusted).mono fun outcome events spec => ?_
  intro ref returned
  have faithful := spec ref returned
  obtain ⟨backend,found,-⟩ := faithful.installed
  exact ⟨registry,backend,rfl,found,faithful,fun _ _ _ live before trust serves =>
    resolve_served faithful found trust live before serves⟩

namespace Samples

private def toyHash (content : Bytes) : Bytes := (content ++ List.replicate 32 0).take 32

private def content : Bytes := [104,105]

private def expiry : Int := 2000000000000000000

private def ref : ResourceRef :=
  ⟨"mem","mem://store/a",toyHash content,"text/plain",2,some (Timestamp.new expiry),"job-input",[]⟩

/-- A reader that hands over what is left of the content since so many events; with `pause` its first read is empty. -/
private def serve (pause : Bool) (since : Nat) : Reader where
  read history length :=
    let reads := (history.drop since).countP fun
      | .read _ => true
      | _ => false
    let left := content.drop (taken (history.drop since)).length
    if pause && reads == 0 then ⟨0,fun _ => 0,none⟩
    else ⟨(left.take length).length,fun i => left.getD i 0,if left.length ≤ length then some .eof else none⟩

private def body (pause : Bool) (since : Nat) : Body := ⟨serve pause since,fun _ => false⟩

/-- A backend that overwrites the content it is given. -/
private def backend (pause : Bool) : ResourceBackend where
  maxBytes := 64
  resolve := fun history _ => ⟨some (body pause (history.length + 1)),"text/plain",false⟩
  externalize := fun _ _ => ⟨some ref,[0,0],false⟩

private def registry (pause : Bool) : ResourceRegistry where
  now _ := 1000000000000000000
  backends := [("mem",backend pause)]
  nonempty := by simp
  installed := ⟨by simp; decide,by simp [backend]; decide,by simp⟩

private def alive : Context := ⟨fun _ => none⟩

private def trusted : TrustedResourceContext := ⟨"tenant","job-1"⟩

private def externalized (pause : Bool) : Except Failure ResourceRef × History :=
  externalize toyHash (some (registry pause)) (some alive) "mem" (some (serve false 0)) "text/plain" "job-input" expiry trusted []

private theorem body_serves (start : History) : (body false start.length).Serves content start := by
  refine ⟨?_,fun _ => rfl⟩
  intro more rest length whole positive
  have left : content.drop (taken ((start ++ more).drop start.length)).length = rest := by
    rw [List.drop_left,← whole,List.drop_left]
  simp only [body,serve,left,Bool.false_and,Bool.false_eq_true,if_false]
  refine ⟨rest.take length,rest.drop length,(List.take_append_drop ..).symm,List.length_take_le ..,?_,?_,?_⟩
  · rfl
  · refine List.ext_getElem (by rw [Reading.taken_length,List.length_take]; dsimp only; omega) fun i inside there => ?_
    have within : i < rest.length := lt_of_lt_of_le there (List.length_take_le' ..)
    simp [Reading.taken,within]
  · split
    · next short => exact .inr ⟨rfl,List.drop_eq_nil_of_le short⟩
    · next long => exact .inl ⟨rfl,by rw [ne_eq,List.take_eq_nil_iff]; rintro (rfl | rfl) <;> simp at positive long⟩

/-- What was externalized is resolved from then on. -/
theorem content_resolved : (externalized false).1 = .ok ref ∧ ∀ start,
    (resolve toyHash (some (registry false)) (some alive) (some ref) trusted start).1 = .ok ⟨content,"text/plain"⟩ := by
  have returned : (externalized false).1 = .ok ref := by decide +kernel
  refine ⟨returned,fun start => ?_⟩
  have read : taken (externalized false).2 = content := by decide +kernel
  obtain ⟨installed,stored,given,found,-,inverts⟩ := externalize_inverts toyHash (some (registry false)) (some alive) "mem"
    (some (serve false 0)) "text/plain" "job-input" expiry trusted [] ref returned
  rw [← externalized,read] at inverts
  obtain rfl := Option.some.inj given
  obtain rfl := Option.some.inj (found.symm.trans (rfl : (registry false).backends.lookup "mem" = some (backend false)))
  have early : (1000000000000000000 : Int) < expiry := by decide
  refine inverts alive trusted start (fun _ => rfl) (fun _ => early) (by decide +kernel) fun more => ?_
  refine ⟨body false ((start ++ more).length + 1),rfl,?_⟩
  have serves := body_serves (start ++ more ++ [.asked "mem" (resolveRequest ref trusted) true])
  rw [List.length_append] at serves
  exact serves

/-- `io.ReadAll`: an empty read without an error means nothing. -/
private def readAll (reader : Reader) : Nat → Bytes → Call Bytes
  | 0,_ => Program.fail .resourceBackendUnavailable
  | rounds + 1,output => do
    let reading ← Program.call (reader.read · 512) fun reading => .read (reading.taken 512)
    match reading.err with
    | some .eof => pure (output ++ reading.taken 512)
    | some .other => Program.fail .resourceBackendUnavailable
    | none => readAll reader rounds (output ++ reading.taken 512)

/-- A body that begins with an empty read serves all of the content, and is refused. -/
theorem empty_read_refused :
    (externalized true).1 = .ok ref ∧ taken (externalized true).2 = content ∧
    (readAll (serve true (externalized true).2.length) 2 [] (externalized true).2).1 = .ok content ∧
    (resolve toyHash (some (registry true)) (some alive) (some ref) trusted (externalized true).2).1 =
      .error .resourceBackendUnavailable := by
  decide +kernel

end Samples

end Cap.Resource
