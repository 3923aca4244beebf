import Cap.Runs
import Cap.Text

/-!
The in-memory replay stores of the Go, Node and Python SDKs. Each admits a message id once per
tenant, audience and sender until it expires. Times count the units of the SDK's clock:
nanoseconds, milliseconds and microseconds.
-/
namespace Cap.ReplayStore
open Cap.Text Cap.Runs

structure AdmitCall where
  tenant : String
  audience : String
  sender : String
  messageID : Bytes
  digest : Bytes
  expires : Int
deriving DecidableEq

structure ReplayEntry where
  digest : Bytes
  expires : Int
deriving DecidableEq

inductive ReplayOutcome where
  | first
  | duplicate
  | conflict
  | unavailable
deriving DecidableEq

abbrev Entries (κ : Type) := κ → Option ReplayEntry

/-- What the SDKs' stores differ in: the key of the tuple, and what the lookup answers
    when it finds an entry; no answer means that the entry is inserted. -/
structure Impl (κ : Type) where
  key : AdmitCall → κ
  answer : Int → Bytes → ReplayEntry → Option ReplayOutcome

/-- Go's key: the four parts, each framed by its length. -/
def replayTupleKey (parts : List Bytes) : Bytes :=
  parts.flatMap fun part => bigEndian32 part.length ++ part

def hex (bytes : Bytes) : String := String.ofList (bytes.flatMap fun b => [Nat.digitChar (b.toNat / 16),Nat.digitChar (b.toNat % 16)])

def compareDigest (existing : ReplayEntry) (digest : Bytes) : ReplayOutcome :=
  if existing.digest = digest then .duplicate else .conflict

def goStore : Impl Bytes where
  key call := replayTupleKey [utf8 call.tenant,utf8 call.audience,utf8 call.sender,call.messageID]
  answer _ digest existing := some (compareDigest existing digest)

/-- The Python store's key is the tuple itself. -/
def pythonStore : Impl (String × String × String × Bytes) where
  key call := (call.tenant,call.audience,call.sender,call.messageID)
  answer now digest existing := if existing.expires > now then some (compareDigest existing digest) else none

/-- Node keys the entries by the JSON text of an array of strings, which determines the array;
    the message id appears there as its hexadecimal digits. -/
def nodeStore : Impl (List String) where
  key call := [call.tenant,call.audience,call.sender,hex call.messageID]
  answer now digest existing := if existing.expires > now then some (compareDigest existing digest) else none

/-- The arguments every store refuses before it looks at its entries. -/
def AdmitCall.valid (call : AdmitCall) (now : Int) : Bool :=
  !(call.tenant == "" || call.audience == "" || call.sender == "" || call.messageID.length != 16 ||
    call.digest == [] || !decide (call.expires > now))

variable {κ : Type}

def purge (now : Int) (entries : Entries κ) : Entries κ := fun key => (entries key).filter fun e => e.expires > now

/-- The answer of the lookup, or nothing when the call goes on to insert. -/
def Impl.lookup (impl : Impl κ) (now : Int) (entries : Entries κ) (call : AdmitCall) : Option ReplayOutcome :=
  (entries (impl.key call)).bind (impl.answer now call.digest)

section
variable [DecidableEq κ]

def Impl.insert (impl : Impl κ) (entries : Entries κ) (call : AdmitCall) : Entries κ :=
  Function.update entries (impl.key call) (some ⟨call.digest,call.expires⟩)

def Impl.admitCall (impl : Impl κ) (now : Int) (entries : Entries κ) (call : AdmitCall) : Entries κ × ReplayOutcome :=
  if call.valid now then
    let purged := purge now entries
    match impl.lookup now purged call with
    | some outcome => (purged,outcome)
    | none => (impl.insert purged call,.first)
  else (entries,.unavailable)

end

theorem AdmitCall.valid_expires {call : AdmitCall} {now : Int} (valid : call.valid now = true) : now < call.expires := by
  simp only [AdmitCall.valid,Bool.not_eq_true',Bool.or_eq_false_iff,Bool.not_eq_false',decide_eq_true_eq] at valid
  exact valid.2

theorem purge_eq_some {now : Int} {entries : Entries κ} {key : κ} {entry : ReplayEntry} :
    purge now entries key = some entry ↔ entries key = some entry ∧ now < entry.expires := by
  simp [purge]

/-- A store that answers with the digest comparison for every entry that outlives the reading. -/
structure Impl.Compares (impl : Impl κ) : Prop where
  answers : ∀ now digest entry, now < entry.expires → impl.answer now digest entry = some (compareDigest entry digest)

theorem goStore_compares : goStore.Compares := ⟨fun _ _ _ _ => rfl⟩
theorem pythonStore_compares : pythonStore.Compares := ⟨fun now digest entry alive => by simp [pythonStore,alive]⟩
theorem nodeStore_compares : nodeStore.Compares := ⟨fun now digest entry alive => by simp [nodeStore,alive]⟩

/-- After a purge, an entry of the call's key decides the call by its digest. -/
theorem Impl.Compares.lookup_purged {impl : Impl κ} (compares : impl.Compares) (now : Int) (entries : Entries κ)
    (call : AdmitCall) :
    impl.lookup now (purge now entries) call =
      (purge now entries (impl.key call)).map fun e => compareDigest e call.digest := by
  unfold Impl.lookup
  cases found : purge now entries (impl.key call) with
  | none => rfl
  | some entry =>
    obtain ⟨-,alive⟩ := purge_eq_some.mp found
    simp [compares.answers now call.digest entry alive]

end Cap.ReplayStore
