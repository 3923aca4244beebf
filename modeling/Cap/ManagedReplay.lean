import Cap.Text

/-!
The durable settlement store of the Go managed worker, as the reference store behaves: atomic
`Begin`, `Renew`, `Complete` and `Abort` over one record per replay tuple. A call may be cut off
before it takes effect, or take effect and still report an error. Times are nanoseconds.
-/
namespace Cap.ManagedReplay
open Cap.Text

structure ManagedReplayEntry where
  tenant : String
  audience : String
  sender : String
  messageID : Bytes
  digest : Bytes
  expiresAt : Int
  leaseUntil : Int
deriving DecidableEq

structure ManagedReplayOutcome where
  traceID : String
  result : Bytes
deriving DecidableEq

def ManagedReplayOutcome.empty : ManagedReplayOutcome := ⟨"",[]⟩

inductive ManagedReplayState where
  | process
  | pending
  | completed
deriving DecidableEq

structure ManagedReplayClaim where
  state : ManagedReplayState
  leaseID : String
  outcome : ManagedReplayOutcome
deriving DecidableEq

/-- The errors of a store call, as far as the worker tells them apart. -/
inductive StoreError where
  | conflict
  | unavailable
  | context
deriving DecidableEq

/-- `managedReplayError` keeps a conflict and maps every other error to unavailability. -/
def managedReplayError : StoreError → StoreError
  | .conflict => .conflict
  | _ => .unavailable

structure Record where
  digest : Bytes
  leaseID : String
  leaseUntil : Int
  expiresAt : Int
  completed : Bool
  outcome : ManagedReplayOutcome
deriving DecidableEq

structure Store (κ : Type) where
  records : κ → Option Record
  nextID : Nat

def Store.new (κ : Type) : Store κ := ⟨fun _ => none,0⟩

variable {κ : Type}

/-- The store key: the hash of the four length-framed parts of the replay tuple. -/
def managedReplayTestKey (sha256 : Bytes → κ) (entry : ManagedReplayEntry) : κ :=
  let parts := [utf8 entry.tenant,utf8 entry.audience,utf8 entry.sender,entry.messageID]
  sha256 (parts.flatMap fun part => bigEndian32 part.length ++ part)

def leaseName (n : Nat) : String := "lease-" ++ toString n

section
variable [DecidableEq κ]

def Store.put (store : Store κ) (key : κ) (record : Option Record) : Store κ :=
  {store with records := Function.update store.records key record}

/-- `Begin`: a digest conflict, a completed record, a live lease, or a new lease. -/
def Store.begin (store : Store κ) (key : κ) (cancelled : Bool) (now : Int) (entry : ManagedReplayEntry) :
    Store κ × Except StoreError ManagedReplayClaim :=
  if cancelled then (store,.error .context)
  else if !decide (entry.expiresAt > now) || !decide (entry.leaseUntil > now) then (store,.error .unavailable)
  else
    let fresh : Record := ⟨entry.digest,leaseName (store.nextID + 1),entry.leaseUntil,entry.expiresAt,false,.empty⟩
    let claimed : Store κ × Except StoreError ManagedReplayClaim :=
      ({store.put key (some fresh) with nextID := store.nextID + 1},.ok ⟨.process,fresh.leaseID,.empty⟩)
    match store.records key with
    | none => claimed
    | some record =>
      if record.digest ≠ entry.digest then (store,.error .conflict)
      else if record.completed then (store,.ok ⟨.completed,"",record.outcome⟩)
      else if record.leaseUntil > now then (store,.ok ⟨.pending,"",.empty⟩)
      else claimed

/-- The record a lease holder may still change: present, not completed, under this lease. -/
def Store.held (store : Store κ) (key : κ) (leaseID : String) : Option Record :=
  match store.records key with
  | none => none
  | some record => if record.completed || record.leaseID != leaseID then none else some record

def Store.renew (store : Store κ) (key : κ) (cancelled : Bool) (now : Int) (leaseID : String) (leaseUntil : Int) :
    Store κ × Except StoreError Unit :=
  if cancelled then (store,.error .context)
  else match store.held key leaseID with
    | none => (store,.error .conflict)
    | some record =>
      if leaseUntil > now then (store.put key (some {record with leaseUntil := leaseUntil}),.ok ())
      else (store,.error .conflict)

def Store.complete (store : Store κ) (key : κ) (cancelled : Bool) (leaseID : String) (outcome : ManagedReplayOutcome) :
    Store κ × Except StoreError Unit :=
  if cancelled then (store,.error .context)
  else match store.held key leaseID with
    | none => (store,.error .conflict)
    | some record => (store.put key (some {record with completed := true,outcome := outcome}),.ok ())

def Store.abort (store : Store κ) (key : κ) (cancelled : Bool) (leaseID : String) :
    Store κ × Except StoreError Unit :=
  if cancelled then (store,.error .context)
  else match store.held key leaseID with
    | none => (store,.error .conflict)
    | some _ => (store.put key none,.ok ())

end

/-- How a call comes back: as the store answered, with its effect but an error instead
    of the answer, or with an error and no effect. -/
inductive Reply where
  | answered
  | lost (error : StoreError)
  | failed (error : StoreError)
deriving DecidableEq

def Reply.deliver {α : Type} (reply : Reply) (store : Store κ) (called : Store κ × Except StoreError α) :
    Store κ × Except StoreError α :=
  match reply with
  | .answered => called
  | .lost error => (called.1,.error error)
  | .failed error => (store,.error error)

/-- A lease identifier, key or tenant name in the printable ASCII form the worker accepts. -/
def validManagedProductionID (value : String) : Bool :=
  !(value == "" || decide ((utf8 value).length > 256) || !trimmed goSpace value) &&
    (utf8 value).all fun b => decide (0x21 ≤ b) && decide (b ≤ 0x7e)

/-- The shape a claim must have before the worker acts on it. -/
def validateManagedReplayClaim (claim : ManagedReplayClaim) : Except StoreError Unit :=
  match claim.state with
  | .process => if validManagedProductionID claim.leaseID then .ok () else .error .unavailable
  | .pending =>
    if claim.leaseID ≠ "" ∨ claim.outcome.traceID ≠ "" ∨ claim.outcome.result ≠ [] then .error .unavailable
    else .ok ()
  | .completed =>
    if claim.leaseID ≠ "" ∨ claim.outcome.traceID = "" ∨ claim.outcome.result = [] then .error .unavailable
    else .ok ()

end Cap.ManagedReplay
