import Cap.ProductionSigning
import Cap.ReplayStore

/-!
Admission of production packets in the Go, Node and Python runtimes, deliveries one at a time: a
packet is verified and validated, and then the replay store decides about it. An entry of the
store outlives every instant at which the store still takes its packet.
-/
namespace Cap.Admission
open Cap.Text Cap.Proto Cap.Packets Cap.ProductionWire Cap.ProductionSigning Cap.ReplayStore Cap.Checks

/-- A delivery: the bytes, the subject they came on, and what the clock says when the packet
    is verified and when the store is asked. -/
structure Delivery where
  raw : Bytes
  subject : String
  verifyAt : Int
  storeAt : Int

/-- What becomes of a delivery: it is refused, dropped as a redelivery, or handled. -/
inductive Outcome where
  | rejected
  | duplicate
  | first
deriving DecidableEq

/-- What the runtimes are configured with. `checks` are the validations of the envelope and
    of the identity, which look at the verified packet only. -/
structure Env (Key Pub : Type) where
  crypto : Crypto Key Pub
  pw : Protowire
  unmarshal : Sdk → Unmarshal
  stores : Stores Pub
  checks : Sdk → Msg → Bool

variable {Key Pub : Type} (env : Env Key Pub)

def metadataOf (packet : Msg) : Msg := (Envelope.signatureMetadata packet).getD (.done [])
def expiresAtOf (packet : Msg) : Msg := (Metadata.expiresAt (metadataOf packet)).getD (.done [])

def body (raw : Bytes) : Sdk → Option Bytes
  | .go => (extractSignatureField env.pw raw).toOption.map Prod.fst
  | .node => (extractProductionSignature raw).toOption.map Prod.fst
  | .python => (extractSignature raw).toOption.map Prod.fst

def expiryOf (packet : Msg) : Sdk → Int
  | .go => Timestamp.inNanos (expiresAtOf packet)
  | .node => Timestamp.seconds (expiresAtOf packet) * 1000 + Timestamp.nanos (expiresAtOf packet) / 1000000
  | .python => Timestamp.seconds (expiresAtOf packet) * 1000000 + Timestamp.nanos (expiresAtOf packet) / 1000

def clockSkew : Sdk → Int
  | .go => env.stores.go.clockSkew
  | .node => env.stores.node.clockSkew
  | .python => env.stores.python.clockSkew

/-- The verified packet; the audience is the subject of the delivery. -/
def verified (d : Delivery) : Sdk → Option Msg
  | .go => (Go.verifyProductionPacket env.crypto env.pw (env.unmarshal .go) d.raw
      {env.stores.go with audience := d.subject} d.verifyAt).toOption.map Prod.fst
  | .node => (Node.verifyProductionPacket env.crypto (env.unmarshal .node) d.raw
      {env.stores.node with audience := d.subject} d.verifyAt).toOption
  | .python => (Python.verifyProductionPacket env.crypto (env.unmarshal .python) d.raw
      {env.stores.python with audience := if d.subject = "" then env.stores.python.audience else d.subject}
      d.verifyAt).toOption

def replayCall (sdk : Sdk) (unsigned : Bytes) (packet : Msg) : AdmitCall where
  tenant := Envelope.tenantId packet
  audience := Metadata.audience (metadataOf packet)
  sender := Envelope.senderId packet
  messageID := Metadata.messageId (metadataOf packet)
  digest := env.crypto.sha256 unsigned
  expires := expiryOf packet sdk + clockSkew env sdk

/-- In Python the expiry plus the skew may leave the range of `datetime`, which counts as a
    store failure. -/
def representable (call : AdmitCall) : Sdk → Bool
  | .python => Python.datetime call.expires
  | _ => true

def callOf (sdk : Sdk) (d : Delivery) : Option AdmitCall :=
  match verified env d sdk,body env d.raw sdk with
  | some packet,some unsigned =>
    let call := replayCall env sdk unsigned packet
    if env.checks sdk packet && representable call sdk then some call else none
  | _,_ => none

def Outcome.ofReplay : ReplayOutcome → Outcome
  | .first => .first
  | .duplicate => .duplicate
  | .conflict | .unavailable => .rejected

section
variable {κ : Type} [DecidableEq κ] (impl : Impl κ) (call : Delivery → Option AdmitCall)

def admitDelivery (entries : Entries κ) (d : Delivery) : Entries κ × Outcome :=
  match call d with
  | none => (entries,.rejected)
  | some c =>
    let (next,outcome) := impl.admitCall d.storeAt entries c
    (next,.ofReplay outcome)

def outcomesFrom : Entries κ → List Delivery → List Outcome
  | _,[] => []
  | entries,d :: rest => (admitDelivery impl call entries d).2 :: outcomesFrom (admitDelivery impl call entries d).1 rest

end

def outcomes (deliveries : List Delivery) : Sdk → List Outcome
  | .go => outcomesFrom goStore (callOf env .go) (fun _ => none) deliveries
  | .node => outcomesFrom nodeStore (callOf env .node) (fun _ => none) deliveries
  | .python => outcomesFrom pythonStore (callOf env .python) (fun _ => none) deliveries

theorem outcomesFrom_length {κ : Type} [DecidableEq κ] (impl : Impl κ) (call : Delivery → Option AdmitCall)
    (entries : Entries κ) (deliveries : List Delivery) :
    (outcomesFrom impl call entries deliveries).length = deliveries.length := by
  induction deliveries generalizing entries with
  | nil => rfl
  | cons d rest ih => simp [outcomesFrom,ih]

/-! ### The store keeps an admitted entry -/

section
variable {κ : Type} [DecidableEq κ] {impl : Impl κ} {call : Delivery → Option AdmitCall} {entries : Entries κ} {key : κ}
  {entry : ReplayEntry} {now : Int}

/-- The entry is in the store, or its time has passed. -/
def Held (entries : Entries κ) (key : κ) (entry : ReplayEntry) (now : Int) : Prop :=
  entries key = some entry ∨ entry.expires ≤ now

private theorem admitCall_cases (compares : impl.Compares) (now : Int) (entries : Entries κ) (c : AdmitCall) :
    (impl.admitCall now entries c = (entries,.unavailable)) ∨
    (∃ found, purge now entries (impl.key c) = some found ∧
      impl.admitCall now entries c = (purge now entries,compareDigest found c.digest)) ∨
    (now < c.expires ∧ purge now entries (impl.key c) = none ∧
      impl.admitCall now entries c = (impl.insert (purge now entries) c,.first)) := by
  unfold Impl.admitCall
  by_cases valid : c.valid now = true
  · rw [if_pos valid]
    simp only [compares.lookup_purged now entries c]
    cases found : purge now entries (impl.key c) with
    | none => exact .inr (.inr ⟨AdmitCall.valid_expires valid,rfl,rfl⟩)
    | some e => exact .inr (.inl ⟨e,rfl,rfl⟩)
  · rw [if_neg valid]
    exact .inl rfl

variable {d : Delivery}

private theorem admitDelivery_none (called : call d = none) :
    admitDelivery impl call entries d = (entries,.rejected) := by
  simp only [admitDelivery,called]

private theorem admitDelivery_some {c : AdmitCall} (called : call d = some c) :
    admitDelivery impl call entries d =
      ((impl.admitCall d.storeAt entries c).1,.ofReplay (impl.admitCall d.storeAt entries c).2) := by
  simp only [admitDelivery,called]

omit [DecidableEq κ] in
private theorem Held.purged (held : Held entries key entry now) {later : Int} (le : now ≤ later) :
    Held (purge later entries) key entry later := by
  by_cases alive : later < entry.expires
  · rcases held with present | past
    · exact .inl (purge_eq_some.mpr ⟨present,alive⟩)
    · omega
  · exact .inr (by omega)

private theorem Held.step (compares : impl.Compares) (held : Held entries key entry now) (d : Delivery)
    (le : now ≤ d.storeAt) : Held (admitDelivery impl call entries d).1 key entry d.storeAt := by
  cases called : call d with
  | none =>
    rw [admitDelivery_none called]
    rcases held with present | past
    · exact .inl present
    · exact .inr (by omega)
  | some c =>
    have kept := held.purged le
    rw [admitDelivery_some called]
    rcases admitCall_cases compares d.storeAt entries c with same | ⟨found,-,same⟩ | ⟨-,free,same⟩
    · rw [same]
      rcases held with present | past
      · exact .inl present
      · exact .inr (by omega)
    · rw [same]
      exact kept
    · rw [same]
      rcases kept with present | past
      · refine .inl ?_
        have other : key ≠ impl.key c := by
          rintro rfl
          rw [free] at present
          cases present
        exact (Function.update_of_ne other _ _).trans present
      · exact .inr past

/-- What a held entry means for a later delivery under its key. -/
def Guarded (impl : Impl κ) (call : Delivery → Option AdmitCall) (key : κ) (entry : ReplayEntry) (d : Delivery)
    (outcome : Outcome) : Prop :=
  (call d = none → outcome = .rejected) ∧
  ∀ c, call d = some c → impl.key c = key →
    (c.digest = entry.digest → c.expires = entry.expires → outcome ≠ .first) ∧
    (c.digest ≠ entry.digest → d.storeAt < entry.expires → outcome = .rejected)

private theorem Held.guards (compares : impl.Compares) (held : Held entries key entry now) (d : Delivery)
    (le : now ≤ d.storeAt) : Guarded impl call key entry d (admitDelivery impl call entries d).2 := by
  constructor
  · intro none
    rw [admitDelivery_none none]
  · rintro c called rfl
    have kept := held.purged le
    rw [admitDelivery_some called]
    rcases admitCall_cases compares d.storeAt entries c with same | ⟨found,present,same⟩ | ⟨alive,free,same⟩
    · rw [same]
      exact ⟨fun _ _ => by simp [Outcome.ofReplay],fun _ _ => rfl⟩
    · rw [same]
      constructor
      · intro _ _
        unfold compareDigest
        split <;> simp [Outcome.ofReplay]
      · intro different alive
        rcases kept with here | past
        · rw [here] at present
          cases present
          simp [compareDigest,Ne.symm different,Outcome.ofReplay]
        · omega
    · rw [same]
      rcases kept with here | past
      · rw [free] at here
        cases here
      · exact ⟨fun _ expires => by omega,fun _ alive => by omega⟩

def Clocked (deliveries : List Delivery) : Prop :=
  (deliveries.flatMap fun d => [d.verifyAt,d.storeAt]).Pairwise (· ≤ ·)

private theorem Clocked.tail {rest : List Delivery} (clocked : Clocked (d :: rest)) : Clocked rest :=
  (List.pairwise_append.mp clocked).2.1

private theorem Clocked.le {rest : List Delivery} (clocked : Clocked (d :: rest)) :
    ∀ later ∈ rest, d.storeAt ≤ later.storeAt := by
  intro later member
  exact (List.pairwise_append.mp clocked).2.2 _ (by simp) _ (List.mem_flatMap.mpr ⟨later,member,by simp⟩)

private theorem Held.guards_run (compares : impl.Compares) {deliveries : List Delivery} (clocked : Clocked deliveries)
    (later : ∀ d ∈ deliveries, now ≤ d.storeAt) (held : Held entries key entry now) :
    ∀ p ∈ deliveries.zip (outcomesFrom impl call entries deliveries), Guarded impl call key entry p.1 p.2 := by
  induction deliveries generalizing entries now with
  | nil => intro p member; cases member
  | cons d rest ih =>
    have le := later d (by simp)
    intro p member
    rcases List.mem_cons.mp member with rfl | inRest
    · exact held.guards compares d le
    · exact ih clocked.tail clocked.le (held.step compares d le) p inRest

private theorem guards_pairwise (compares : impl.Compares) {deliveries : List Delivery} (clocked : Clocked deliveries) :
    (deliveries.zip (outcomesFrom impl call entries deliveries)).Pairwise fun earlier later =>
      earlier.2 = .first → ∃ c, call earlier.1 = some c ∧
        Guarded impl call (impl.key c) ⟨c.digest,c.expires⟩ later.1 later.2 := by
  induction deliveries generalizing entries with
  | nil => exact List.Pairwise.nil
  | cons d rest ih =>
    refine List.pairwise_cons.mpr ⟨?_,ih clocked.tail⟩
    intro p member first
    cases called : call d with
    | none => rw [admitDelivery_none called] at first; cases first
    | some c =>
      refine ⟨c,rfl,?_⟩
      -- the admitted entry is the one just inserted
      have held : Held (admitDelivery impl call entries d).1 (impl.key c) ⟨c.digest,c.expires⟩ d.storeAt := by
        rw [admitDelivery_some called] at first ⊢
        rcases admitCall_cases compares d.storeAt entries c with same | ⟨found,-,same⟩ | ⟨-,-,same⟩
        · rw [same] at first
          cases first
        · rw [same] at first
          unfold compareDigest at first
          split at first <;> cases first
        · rw [same]
          exact .inl (Function.update_self _ _ _)
      exact held.guards_run compares clocked.tail clocked.le p member

end

section
variable {env}

private theorem replayCall_withSignature (sdk : Sdk) (unsigned signature : Bytes) (m : Msg) :
    replayCall env sdk unsigned (Envelope.withSignature signature m) = replayCall env sdk unsigned m := by
  have metadata : metadataOf (Envelope.withSignature signature m) = metadataOf m := by
    simp only [metadataOf,Envelope.signatureMetadata,Envelope.withSignature,Msg.sub?,Msg.get?_add (by decide : 5 ≠ 14)]
  have tenant : Envelope.tenantId (Envelope.withSignature signature m) = Envelope.tenantId m := by
    simp only [Envelope.tenantId,Envelope.identity,Envelope.withSignature,Msg.sub?,Msg.get?_add (by decide : 6 ≠ 14)]
  have sender : Envelope.senderId (Envelope.withSignature signature m) = Envelope.senderId m := by
    simp only [Envelope.senderId,Envelope.withSignature,Msg.text,Msg.get?_add (by decide : 2 ≠ 14)]
  cases sdk <;> simp only [replayCall,expiryOf,expiresAtOf,metadata,tenant,sender]

variable {sdk : Sdk}

/-- The verified packet is the decoded body, to which Go and Python add the signature. -/
private theorem verified_decoded {packet : Msg} {unsigned : Bytes}
    (accepted : verified env d sdk = some packet) (extracted : body env d.raw sdk = some unsigned) :
    ∃ m, env.unmarshal sdk unsigned = some m ∧ replayCall env sdk unsigned packet = replayCall env sdk unsigned m := by
  cases sdk with
  | go =>
    simp only [verified,Option.map_eq_some_iff,toOption_eq_some,Prod.exists] at accepted
    obtain ⟨_,_,accepted,rfl⟩ := accepted
    obtain ⟨bytes,signature,m,extracted',decoded,same⟩ := Go.verified_decoded accepted
    simp only [body,extracted',Except.toOption,Option.map_some,Option.some.injEq] at extracted
    subst extracted
    exact ⟨m,decoded,by rw [same,replayCall_withSignature]⟩
  | node =>
    simp only [verified,toOption_eq_some] at accepted
    obtain ⟨bytes,signature,extracted',decoded⟩ := Node.verified_decoded accepted
    simp only [body,extracted',Except.toOption,Option.map_some,Option.some.injEq] at extracted
    subst extracted
    exact ⟨packet,decoded,rfl⟩
  | python =>
    simp only [verified,toOption_eq_some] at accepted
    obtain ⟨bytes,signature,m,extracted',decoded,same⟩ := Python.verified_decoded accepted
    simp only [body,extracted',Except.toOption,Option.map_some,Option.some.injEq] at extracted
    subst extracted
    exact ⟨m,decoded,by rw [same,replayCall_withSignature]⟩

private theorem callOf_eq_some {c : AdmitCall} (called : callOf env sdk d = some c) :
    ∃ unsigned m, body env d.raw sdk = some unsigned ∧ env.unmarshal sdk unsigned = some m ∧
      c = replayCall env sdk unsigned m := by
  unfold callOf at called
  split at called
  · next packet unsigned accepted extracted =>
    obtain ⟨m,decoded,same⟩ := verified_decoded accepted extracted
    dsimp only at called
    split at called
    · exact ⟨unsigned,m,extracted,decoded,by rw [← Option.some.inj called,same]⟩
    · cases called
  · cases called

end

def bodyMessage (sdk : Sdk) (d : Delivery) : Option Msg := (body env d.raw sdk).bind (env.unmarshal sdk)

def tupleOf (sdk : Sdk) (d : Delivery) : Option (String × String × String × Bytes) :=
  (bodyMessage env sdk d).map fun m => (Envelope.tenantId m,Metadata.audience (metadataOf m),Envelope.senderId m,
    Metadata.messageId (metadataOf m))

def expiryNanos (sdk : Sdk) (d : Delivery) : Int :=
  ((bodyMessage env sdk d).map fun m => Timestamp.inNanos (expiresAtOf m)).getD 0

def clockUnit : Sdk → Int
  | .go => 1
  | .node => 1000000
  | .python => 1000

private theorem expiryOf_eq (m : Msg) (sdk : Sdk) : expiryOf m sdk = Timestamp.inNanos (expiresAtOf m) / clockUnit sdk := by
  cases sdk with
  | go => simp [expiryOf,clockUnit]
  | node | python =>
    simp only [expiryOf,clockUnit,Timestamp.inNanos]
    omega

/-- What an admitted delivery means for a later one: its body is not admitted again, and a
    different body of the same tuple is refused while the entry is retained. -/
def Once (retained : Delivery → Int → Prop) (sdk : Sdk) (earlier later : Delivery × Outcome) : Prop :=
  earlier.2 = .first →
    (body env later.1.raw sdk = body env earlier.1.raw sdk → later.2 ≠ .first) ∧
    (body env later.1.raw sdk ≠ body env earlier.1.raw sdk → tupleOf env sdk later.1 = tupleOf env sdk earlier.1 →
      retained earlier.1 later.1.storeAt → later.2 = .rejected)

/-- The reading comes before the expiry plus the skew, to the nanosecond. -/
def Unexpired (sdk : Sdk) (d : Delivery) (reading : Int) : Prop :=
  reading * clockUnit sdk < expiryNanos env sdk d + clockSkew env sdk * clockUnit sdk

/-- The reading comes before the expiry, rounded down to the unit of the clock, plus the skew. -/
def Retained (sdk : Sdk) (d : Delivery) (reading : Int) : Prop :=
  reading < expiryNanos env sdk d / clockUnit sdk + clockSkew env sdk

variable {env}

private theorem once_of_guarded {κ : Type} {impl : Impl κ} (collisionFree : Function.Injective env.crypto.sha256)
    (keyed : ∀ a b : AdmitCall, (a.tenant,a.audience,a.sender,a.messageID) = (b.tenant,b.audience,b.sender,b.messageID) →
      impl.key a = impl.key b) {earlier later : Delivery × Outcome}
    (guarded : earlier.2 = .first → ∃ c, callOf env sdk earlier.1 = some c ∧
      Guarded impl (callOf env sdk) (impl.key c) ⟨c.digest,c.expires⟩ later.1 later.2) :
    Once env (Retained env sdk) sdk earlier later := by
  intro first
  obtain ⟨c,called,refused,guards⟩ := guarded first
  obtain ⟨unsigned,m,bodyE,decodedE,rfl⟩ := callOf_eq_some called
  have message : bodyMessage env sdk earlier.1 = some m := by rw [bodyMessage,bodyE]; exact decodedE
  cases called' : callOf env sdk later.1 with
  | none =>
    have rejected := refused called'
    exact ⟨fun _ => by rw [rejected]; simp,fun _ _ _ => rejected⟩
  | some c' =>
    obtain ⟨unsigned',m',bodyL,decodedL,rfl⟩ := callOf_eq_some called'
    have message' : bodyMessage env sdk later.1 = some m' := by rw [bodyMessage,bodyL]; exact decodedL
    constructor
    · intro same
      rw [bodyE,bodyL,Option.some.injEq] at same
      subst same
      rw [decodedE,Option.some.injEq] at decodedL
      subst decodedL
      exact (guards _ called' rfl).1 rfl rfl
    · intro different sameTuple retained
      have tuples : (Envelope.tenantId m',Metadata.audience (metadataOf m'),Envelope.senderId m',
          Metadata.messageId (metadataOf m')) = (Envelope.tenantId m,Metadata.audience (metadataOf m),
          Envelope.senderId m,Metadata.messageId (metadataOf m)) := by
        simpa only [tupleOf,message,message',Option.map_some,Option.some.injEq] using sameTuple
      refine (guards _ called' (keyed _ _ tuples)).2 ?_ ?_
      · intro digests
        rw [bodyE,bodyL] at different
        exact different (congrArg some (collisionFree digests))
      · simpa only [Retained,expiryNanos,message,Option.map_some,Option.getD_some,replayCall,expiryOf_eq] using retained

/-- In every run of deliveries over a clock that does not go back, in each of the three
    runtimes, a signed body is admitted at most once, and while an admitted entry is retained
    every other body of its tuple is refused. -/
theorem admitted_at_most_once (env : Env Key Pub) (collisionFree : Function.Injective env.crypto.sha256)
    (deliveries : List Delivery) (clocked : Clocked deliveries) (sdk : Sdk) :
    (outcomes env deliveries sdk).length = deliveries.length ∧
      (deliveries.zip (outcomes env deliveries sdk)).Pairwise (Once env (Retained env sdk) sdk) := by
  refine ⟨by cases sdk <;> exact outcomesFrom_length _ _ _ _,?_⟩
  cases sdk with
  | go =>
    refine (guards_pairwise goStore_compares clocked).imp fun guarded => once_of_guarded collisionFree ?_ guarded
    intro a b same
    simp only [Prod.mk.injEq] at same
    simp [goStore,same]
  | node =>
    refine (guards_pairwise nodeStore_compares clocked).imp fun guarded => once_of_guarded collisionFree ?_ guarded
    intro a b same
    simp only [Prod.mk.injEq] at same
    simp [nodeStore,same]
  | python =>
    refine (guards_pairwise pythonStore_compares clocked).imp fun guarded => once_of_guarded collisionFree ?_ guarded
    intro a b same
    simp [pythonStore,same]

/-! ### An expiry between two milliseconds -/

/-- A packet of the given trace id and expiry; the tuple is always the same. -/
def sampleMessage (trace : String) (expiresAt : Msg) : Msg :=
  .field 1 (.text trace) <| .field 2 (.text "worker-1") <| .field 4 (.varint 1) <|
  .field 5 (.message (.field 1 (.text profileVersion) <| .field 2 (.text algorithm) <|
    .field 3 (.bytes (List.replicate 16 7)) <| .field 4 (.text "job.echo") <| .field 5 (.message expiresAt) <|
    .field 6 (.text "key-1") (.done []))) <|
  .field 6 (.message (.field 1 (.text "tenant-1") (.done []))) (.done [])

def briefMessage : Msg := sampleMessage "trace-1" (.field 1 (.varint 1) (.field 2 (.varint 500000) (.done [])))

def longMessage : Msg := sampleMessage "trace-2" (.field 1 (.varint 2) (.done []))

def sampleUnmarshal : Unmarshal := fun bytes =>
  if bytes = briefMessage.encode then some briefMessage
  else if bytes = longMessage.encode then some longMessage else none

def sampleTrust (lifetime : Int) : Trust Unit := ⟨"job.echo","tenant-1","worker-1",[("key-1",())],lifetime,0⟩

def sampleEnv : Env Unit Unit where
  crypto := ⟨fun _ => (),fun _ => true,id,fun _ _ _ => [1],fun _ _ _ => true⟩
  pw := protowire
  unmarshal := fun _ => sampleUnmarshal
  stores := ⟨⟨sampleTrust Go.maxLifetime,none⟩,sampleTrust Node.maxLifetime,sampleTrust Python.maxLifetime⟩
  checks := fun _ _ => true

def deliveryAt (m : Msg) (reading : Int) : Delivery := ⟨appendSignatureField m.encode [1],"job.echo",reading,reading⟩

/-- Node has dropped the entry by the reading 1000, half a millisecond before its expiry, and
    admits another body of the same tuple. -/
theorem brief_entry_dropped_early :
    ¬ ([deliveryAt briefMessage 0,deliveryAt longMessage 1000].zip
      (outcomes sampleEnv [deliveryAt briefMessage 0,deliveryAt longMessage 1000] .node)).Pairwise
        (Once sampleEnv (Unexpired sampleEnv .node) .node) := by
  have ran : outcomes sampleEnv [deliveryAt briefMessage 0,deliveryAt longMessage 1000] .node = [.first,.first] := by
    decide +kernel
  rw [ran]
  intro once
  have refused := ((List.pairwise_cons.mp once).1 (deliveryAt longMessage 1000,.first) (by simp) rfl).2
    (by decide +kernel) (by decide +kernel)
  have unexpired : Unexpired sampleEnv .node (deliveryAt briefMessage 0) 1000 := by
    unfold Unexpired
    decide +kernel
  exact absurd (refused unexpired) (by decide)

/-- A millisecond earlier the other body is refused, and a redelivery is dropped. -/
theorem brief_entry_retained :
    outcomes sampleEnv [deliveryAt briefMessage 0,deliveryAt longMessage 999,deliveryAt briefMessage 999] .node =
      [.first,.rejected,.duplicate] ∧
    ([deliveryAt briefMessage 0,deliveryAt longMessage 999,deliveryAt briefMessage 999].zip
      (outcomes sampleEnv [deliveryAt briefMessage 0,deliveryAt longMessage 999,deliveryAt briefMessage 999] .node)).Pairwise
        (Once sampleEnv (Retained sampleEnv .node) .node) :=
  ⟨by decide +kernel,(admitted_at_most_once sampleEnv Function.injective_id _
    (by unfold Clocked; decide +kernel) .node).2⟩

end Cap.Admission
