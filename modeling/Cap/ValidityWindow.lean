import Cap.ProductionSigning

/-!
The validity window of production signatures. Each SDK accepts an expiry from just after `now -
skew` up to `now + maxLifetime + skew`. Go compares nanoseconds; Node and Python first round the
expiry down to a millisecond and a microsecond, which shows at both edges.
-/
namespace Cap.ValidityWindow
open Cap.Checks Cap.Proto Cap.Packets Cap.ProductionSigning
variable {Pub : Type}

/-- A clock reading and lifetimes in whole milliseconds that all three verifiers take. -/
structure Bounds where
  now : Int
  maxLifetime : Int
  clockSkew : Int
  sane : 0 < maxLifetime ∧ maxLifetime ≤ 300000 ∧ 0 ≤ clockSkew ∧ clockSkew ≤ 60000 ∧ clockSkew ≤ maxLifetime
  /-- Both edges of the window are dates of the years 1 to 9999. -/
  calendar : -62135596800000 ≤ now - clockSkew ∧ now + maxLifetime + clockSkew ≤ 253402300799999

namespace Bounds

def first (bounds : Bounds) : Int := bounds.now - bounds.clockSkew
def last (bounds : Bounds) : Int := bounds.now + bounds.maxLifetime + bounds.clockSkew

/-- The window, counted in units of which a millisecond has so many. -/
def Holds (bounds : Bounds) (unit instant : Int) : Prop := bounds.first * unit < instant ∧ instant ≤ bounds.last * unit

end Bounds

/-- The instant, in nanoseconds, comes after the millisecond but before the next. -/
def JustAfter (millisecond instant : Int) : Prop := millisecond * 1000000 < instant ∧ instant < (millisecond + 1) * 1000000

/-- Metadata in which nothing but the time of its expiry can be objected to. -/
structure Stamped (metadata expiry : Msg) (audience : String) : Prop where
  profile : Metadata.profileVersion metadata = profileVersion
  algorithm : Metadata.algorithm metadata = algorithm
  messageId : (Metadata.messageId metadata).length = 16
  named : Metadata.audience metadata = audience
  addressed : audience ≠ ""
  keyId : Metadata.keyId metadata ≠ ""
  expires : Metadata.expiresAt metadata = some expiry
  ranged : Timestamp.inRange expiry = true

/-- The three verifiers hold these bounds, each in its own unit; a zero lifetime stands for
    the default in Go. -/
structure Configured (bounds : Bounds) (stores : Stores Pub) (audience : String) : Prop where
  goLifetime : stores.go.maxLifetime = bounds.maxLifetime * 1000000 ∨
    stores.go.maxLifetime = 0 ∧ bounds.maxLifetime = 300000
  goSkew : stores.go.clockSkew = bounds.clockSkew * 1000000
  goAudience : stores.go.audience = audience
  nodeLifetime : stores.node.maxLifetime = bounds.maxLifetime
  nodeSkew : stores.node.clockSkew = bounds.clockSkew
  pythonLifetime : stores.python.maxLifetime = bounds.maxLifetime * 1000
  pythonSkew : stores.python.clockSkew = bounds.clockSkew * 1000
  pythonAudience : stores.python.audience = audience

section
variable {bounds : Bounds} {stores : Stores Pub} {metadata expiry : Msg} {audience : String}

theorem go_window (configured : Configured bounds stores audience) (stamped : Stamped metadata expiry audience) :
    (∃ m, Go.validateMetadata (some metadata) stores.go (bounds.now * 1000000) = .ok m) ↔
      bounds.Holds 1000000 (Timestamp.inNanos expiry) := by
  have shaped : Go.validateMetadataShape (some metadata) = .ok (metadata,expiry) := by
    simp [Go.validateMetadataShape,stamped.expires,stamped.profile,stamped.algorithm,stamped.messageId,stamped.named,
      stamped.addressed,stamped.keyId,stamped.ranged]
  obtain ⟨positive,bounded,nonnegative,limited,within⟩ := bounds.sane
  have lifetime : (if stores.go.maxLifetime = 0 then Go.maxLifetime else stores.go.maxLifetime) =
      bounds.maxLifetime * 1000000 := by
    rcases configured.goLifetime with set | ⟨unset,default⟩
    · rw [if_neg (by omega),set]
    · rw [if_pos unset,default]
      rfl
  simp only [Go.validateMetadata,shaped,lifetime,configured.goSkew,configured.goAudience,stamped.named,bind_eq_ok,
    require_eq_ok,Except.ok.injEq,exists_eq_left',decide_eq_true_eq,Bool.not_eq_true',
    Bool.or_eq_false_iff,decide_eq_false_iff_not]
  unfold Go.maxLifetime Go.maximumClockSkew Bounds.Holds Bounds.first Bounds.last
  constructor
  · rintro ⟨m,-,-,-,later,-,sooner,-⟩
    constructor <;> omega
  · rintro ⟨later,sooner⟩
    refine ⟨metadata,(),?_,(),?_,(),?_,(),trivial,rfl⟩
    · omega
    · omega
    · omega

theorem node_window (configured : Configured bounds stores audience) (stamped : Stamped metadata expiry audience) :
    Node.validateLifetime expiry stores.node bounds.now = .ok () ↔
      bounds.Holds 1 (Timestamp.inNanos expiry / 1000000) := by
  have ranged := stamped.ranged
  obtain ⟨positive,bounded,nonnegative,limited,within⟩ := bounds.sane
  have calendar := bounds.calendar
  have millis : Timestamp.seconds expiry * 1000 + Timestamp.nanos expiry / 1000000 =
      Timestamp.inNanos expiry / 1000000 := by
    unfold Timestamp.inNanos
    omega
  simp only [Node.validateLifetime,Node.timestampMillis,ranged,configured.nodeLifetime,configured.nodeSkew,bind_eq_ok,require_eq_ok,pure_eq_ok,exists_const,true_and,exists_eq_left',Node.safeInteger,
    Node.maxLifetime,Node.maxClockSkew,Bool.and_eq_true,decide_eq_true_eq,Bounds.Holds,Bounds.first,Bounds.last]
  constructor
  · rintro ⟨-,later,sooner⟩
    constructor <;> omega
  · rintro ⟨later,sooner⟩
    refine ⟨?_,?_,?_⟩ <;> omega

theorem python_window (configured : Configured bounds stores audience) (stamped : Stamped metadata expiry audience) :
    (∃ m, Python.validateMetadata (some metadata) stores.python (bounds.now * 1000) = .ok m) ↔
      bounds.Holds 1000 (Timestamp.inNanos expiry / 1000) := by
  have shaped : Python.validateMetadataShape (some metadata) = .ok metadata := by
    simp [Python.validateMetadataShape,stamped.profile,stamped.algorithm,stamped.messageId,stamped.named,
      stamped.addressed,stamped.keyId]
  have expires : Python.expiry metadata = .ok (Timestamp.inNanos expiry / 1000) := by
    simp only [Python.expiry,stamped.expires,stamped.ranged,require_true,bind_eq_ok,pure_eq_ok]
    refine ⟨(),trivial,?_⟩
    unfold Timestamp.inNanos
    omega
  obtain ⟨positive,bounded,nonnegative,limited,within⟩ := bounds.sane
  have calendar := bounds.calendar
  simp only [Python.validateMetadata,shaped,expires,configured.pythonLifetime,configured.pythonSkew,
    configured.pythonAudience,stamped.named,Python.validateLifetime,Python.datetime,Python.maxLifetime,
    Python.maxClockSkew,bind_eq_ok,require_eq_ok,Except.ok.injEq,exists_eq_left',exists_const,
    Bool.and_eq_true,decide_eq_true_eq,beq_self_eq_true,Bool.or_true,Bounds.Holds,Bounds.first,Bounds.last]
  constructor
  · rintro ⟨m,-,-,⟨-,later,-,sooner⟩,-⟩
    constructor <;> omega
  · rintro ⟨later,sooner⟩
    refine ⟨metadata,trivial,?_,⟨?_,?_,?_,?_⟩,rfl⟩ <;> omega

/-- The verifiers accept exactly the expiries of the window, to the nanosecond. -/
structure SameWindow (bounds : Bounds) (stores : Stores Pub) (metadata expiry : Msg) : Prop where
  go : (∃ m, Go.validateMetadata (some metadata) stores.go (bounds.now * 1000000) = .ok m) ↔
    bounds.Holds 1000000 (Timestamp.inNanos expiry)
  node : Node.validateLifetime expiry stores.node bounds.now = .ok () ↔
    bounds.Holds 1000000 (Timestamp.inNanos expiry)
  python : (∃ m, Python.validateMetadata (some metadata) stores.python (bounds.now * 1000) = .ok m) ↔
    bounds.Holds 1000000 (Timestamp.inNanos expiry)

/-- Rounding down to milliseconds moves an expiry over an edge exactly in the millisecond after it. -/
private theorem millis_holds_iff (instant : Int) :
    (bounds.Holds 1 (instant / 1000000) ↔ bounds.Holds 1000000 instant) ↔
      ¬(JustAfter bounds.first instant ∨ JustAfter bounds.last instant) := by
  obtain ⟨positive,-,nonnegative,-,-⟩ := bounds.sane
  unfold Bounds.Holds JustAfter Bounds.first Bounds.last
  constructor
  · rintro same (early | late)
    · have inside := (same.mpr ⟨by omega,by omega⟩).1
      omega
    · have outside := (same.mp ⟨by omega,by omega⟩).2
      omega
  · intro apart
    constructor
    · rintro ⟨later,sooner⟩
      constructor <;> omega
    · rintro ⟨later,sooner⟩
      constructor <;> omega

private theorem micros_holds {instant : Int}
    (apart : ¬(JustAfter bounds.first instant ∨ JustAfter bounds.last instant)) :
    bounds.Holds 1000 (instant / 1000) ↔ bounds.Holds 1000000 instant := by
  unfold JustAfter at apart
  unfold Bounds.Holds
  constructor
  · rintro ⟨later,sooner⟩
    constructor <;> omega
  · rintro ⟨later,sooner⟩
    constructor <;> omega

/-- With the same bounds the three verifiers have the same window, exact to the nanosecond,
    for every expiry but those in the open milliseconds that follow its two edges. -/
theorem same_window_iff (bounds : Bounds) (stores : Stores Pub) (audience : String)
    (configured : Configured bounds stores audience) (metadata expiry : Msg)
    (stamped : Stamped metadata expiry audience) :
    SameWindow bounds stores metadata expiry ↔
      ¬(JustAfter bounds.first (Timestamp.inNanos expiry) ∨ JustAfter bounds.last (Timestamp.inNanos expiry)) := by
  have go := go_window configured stamped
  have node := node_window configured stamped
  have python := python_window configured stamped
  constructor
  · intro same
    rw [← millis_holds_iff,← node]
    exact same.node
  · intro apart
    exact ⟨go,node.trans ((millis_holds_iff _).mpr apart),python.trans (micros_holds apart)⟩

end

namespace Samples

def bounds : Bounds := ⟨0,60000,0,by decide,by decide⟩

def trust (unit : Int) : Trust Unit := ⟨"job.echo","tenant-1","worker-1",[],60000 * unit,0⟩
def stores : Stores Unit := ⟨⟨trust 1000000,none⟩,trust 1,trust 1000⟩

/-- Expiry after so many nanoseconds of the second minute. -/
def expiry (nanos : Nat) : Msg := .field 1 (.varint 60) (.field 2 (.varint nanos) (.done []))

def metadata (nanos : Nat) : Msg :=
  .field 1 (.text profileVersion) <| .field 2 (.text algorithm) <| .field 3 (.bytes (List.replicate 16 7)) <|
  .field 4 (.text "job.echo") <| .field 5 (.message (expiry nanos)) <| .field 6 (.text "key-1") (.done [])

theorem configured : Configured bounds stores "job.echo" where
  goLifetime := .inl rfl
  goSkew := rfl
  goAudience := rfl
  nodeLifetime := rfl
  nodeSkew := rfl
  pythonLifetime := rfl
  pythonSkew := rfl
  pythonAudience := rfl

/-- At the edge itself the three agree. -/
theorem whole_minute_agrees : Configured bounds stores "job.echo" ∧ Stamped (metadata 0) (expiry 0) "job.echo" ∧
    SameWindow bounds stores (metadata 0) (expiry 0) := by
  have stamped : Stamped (metadata 0) (expiry 0) "job.echo" :=
    ⟨by decide,by decide,by decide,by decide,by decide,by decide,by decide,by decide⟩
  refine ⟨configured,stamped,(same_window_iff bounds stores "job.echo" configured _ _ stamped).mpr ?_⟩
  rintro (⟨-,early⟩ | ⟨late,-⟩)
  · exact absurd early (by decide)
  · exact absurd late (by decide)

/-- A nanosecond later Go refuses the lifetime, Node and Python take it. -/
theorem nanosecond_late_divides : Configured bounds stores "job.echo" ∧ Stamped (metadata 1) (expiry 1) "job.echo" ∧
    ¬ bounds.Holds 1000000 (Timestamp.inNanos (expiry 1)) ∧
    Go.validateMetadata (some (metadata 1)) stores.go 0 = .error malformed ∧
    Node.validateLifetime (expiry 1) stores.node 0 = .ok () ∧
    Python.validateMetadata (some (metadata 1)) stores.python 0 = .ok (metadata 1) := by
  refine ⟨configured,⟨by decide,by decide,by decide,by decide,by decide,by decide,by decide,by decide⟩,?_,?_,?_,?_⟩
  · rintro ⟨-,late⟩
    exact absurd late (by decide)
  · decide
  · decide
  · decide

end Samples

end Cap.ValidityWindow
