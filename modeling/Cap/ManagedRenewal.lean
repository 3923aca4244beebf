import Cap.TrustRenewal

/-!
The renewal loop of the managed worker (`worker/managed_trust.go`) among its other goroutines.
Every read and write of the session is one action, and time may pass between any two; a timer
never fires early but may be served late.
-/
namespace Cap.Trust.Managed.Loops
open Cap.Text Cap.Wire Cap.Checks Cap.Runs
open Cap.ProductionSigning (Crypto)

def managedRenewFailureFloor : Int := 30000000000

def managedRenewFailureDelay (session : Session) (now : Int) : Int :=
  let remaining := Go.sub session.expiresAt now
  if remaining ≤ 0 then 0
  else if remaining < managedRenewFailureFloor then remaining
  else managedRenewFailureFloor

def managedRenewDelay (session : Session) (now : Int) : Int :=
  let remaining := Go.sub session.expiresAt now
  if remaining ≤ 0 then 0
  else
    let delay := remaining / 2
    if delay < 10000000 then 10000000 else delay

inductive Stage where
  /-- `startTrustRenewal` has not been called. -/
  | unstarted
  | head
  /-- It has taken a snapshot and is about to read the token. -/
  | check (snapshot : Session)
  /-- It is about to set the timer of its wait. -/
  | arm (snapshot : Session)
  | wait (snapshot : Session) (deadline : Int)
  | exchange (snapshot : Session)
  /-- The session is cleared, and the failure is about to be signalled. -/
  | giveUp (failure : Failure)
  /-- After an operational failure in warn mode, about to read the token. -/
  | spent (snapshot : Session)
  | rearm (snapshot : Session)
  | retry (deadline : Int)
  /-- There is no loop (any more). -/
  | ended
deriving DecidableEq

structure State where
  clock : Int
  live : Bool
  session : Session
  stage : Stage
  /-- The channel takes one error and keeps the first. -/
  fatal : Option Failure
  /-- The session of the last exchange that succeeded, whether or not it is still stored. -/
  granted : Session
deriving DecidableEq

def start (clock : Int) (session : Session) : State := ⟨clock,true,session,.unstarted,none,session⟩

inductive Act where
  | pass (delay : Nat)
  | startTrustRenewal
  /-- The loop goes on by itself, or because its timer fired. -/
  | loop
  | exchanged (attempt : Attempt TransportError)
  /-- Another goroutine reads the token. -/
  | read
  | cancel
  /-- A wait ends because the context is cancelled. -/
  | interrupt
deriving DecidableEq

def loop (s : State) : Option State :=
  match s.stage with
  | .head => some { s with stage := .check s.session }
  | .check snapshot =>
    if snapshot.token = "" then some { s with stage := .ended }
    else
      let session := token s.clock s.session
      some { s with session,stage := if session.token = "" then .ended else .arm snapshot }
  | .arm snapshot => some { s with stage := .wait snapshot (s.clock + managedRenewDelay snapshot s.clock) }
  | .wait snapshot deadline =>
    if s.clock < deadline then none
    else
      let session := token s.clock s.session
      some { s with session,stage :=
        if session.token = "" then .ended else if session.token ≠ snapshot.token then .head else .exchange snapshot }
  | .giveUp failure => some { s with fatal := s.fatal.or (some failure),stage := .ended }
  | .spent snapshot =>
    let session := token s.clock s.session
    some { s with session,stage := if session.token = "" then .ended else .rearm snapshot }
  | .rearm snapshot => some { s with stage := .retry (s.clock + managedRenewFailureDelay snapshot s.clock) }
  | .retry deadline => if s.clock < deadline then none else some { s with stage := .head }
  | .unstarted | .exchange _ | .ended => none

section

variable {Key Pub : Type} (crypto : Crypto Key Pub) (unmarshal : Bytes → Option Packet)

def step (worker : Worker Key Pub) (mode : Mode) (s : State) : Act → Option State
  | .pass delay => some { s with clock := s.clock + delay }
  | .startTrustRenewal =>
    if s.stage ≠ .unstarted then none
    else if mode = .off then some { s with stage := .ended }
    else
      let session := token s.clock s.session
      some { s with session,stage := if session.token = "" then .ended else .head }
  | .loop => loop s
  | .exchanged attempt =>
    match s.stage with
    | .exchange snapshot =>
      -- The token that the wait ended with is the one of the snapshot.
      match performTrustExchange crypto unmarshal worker renewPurpose snapshot.token attempt with
      | .ok replacement => some { s with session := replacement,granted := replacement,stage := .head }
      | .error failure =>
        if mode = .enforce ∨ failure.isOperational = false then
          some { s with session := noSession,stage := .giveUp failure }
        else some { s with stage := .spent snapshot }
    | _ => none
  | .read => some { s with session := token s.clock s.session }
  | .cancel => some { s with live := false }
  | .interrupt =>
    match s.stage with
    | .wait .. | .retry _ => if s.live then none else some { s with stage := .ended }
    | _ => none

end

/-- The worker goes on without a renewal loop, and nothing was signalled. -/
def Silent (s : State) : Prop := s.stage = .ended ∧ s.live = true ∧ s.fatal = none
deriving Decidable

def reads (s : State) : Act → Bool
  | .startTrustRenewal => true
  | .loop => match s.stage with
    | .check _ | .wait .. => true
    | _ => false
  | _ => false

/-- Such a read comes before the session that was granted last expires. -/
def InTime (s : State) (act : Act) : Prop := reads s act = true → s.live = true → s.clock < s.granted.expiresAt
deriving Decidable

/-- A session that was read: the one that was granted last, or none after that one expired. -/
def Held (s : State) (session : Session) : Prop :=
  session = s.granted ∨ session = noSession ∧ s.granted.expiresAt ≤ s.clock

/-- The invariant in enforce mode, by the stage of the loop. -/
def Inv (s : State) : Prop :=
  s.granted.token ≠ "" ∧ match s.stage with
    | .unstarted | .head => Held s s.session ∧ s.fatal = none
    | .check snapshot => Held s s.session ∧ s.fatal = none ∧ Held s snapshot
    | .arm snapshot | .wait snapshot _ | .exchange snapshot => Held s s.session ∧ s.fatal = none ∧ snapshot = s.granted
    | .giveUp _ | .ended => True
    | .spent _ | .rearm _ | .retry _ => False

/-- The clock alone decides whether a read finds a session, whoever read it before. -/
theorem Held.token_eq {s : State} {session : Session} (present : s.granted.token ≠ "") (held : Held s session) :
    s.clock < s.granted.expiresAt ∧ token s.clock session = s.granted ∨
      s.granted.expiresAt ≤ s.clock ∧ token s.clock session = noSession := by
  rcases held with rfl | ⟨rfl,expired⟩
  · by_cases live : s.clock < s.granted.expiresAt
    · exact .inl ⟨live,by simp [token,present,live]⟩
    · exact .inr ⟨by omega,by simp [token,live]⟩
  · exact .inr ⟨expired,by simp [token]⟩

theorem Held.read {s : State} {session : Session} (present : s.granted.token ≠ "") (held : Held s session) :
    Held s (token s.clock session) := by
  rcases held.token_eq present with ⟨-,found⟩ | ⟨expired,gone⟩
  · exact .inl found
  · exact .inr ⟨gone,expired⟩

theorem Held.later {s : State} {session : Session} (delay : Nat) (held : Held s session) :
    Held { s with clock := s.clock + delay } session := by
  rcases held with same | ⟨gone,expired⟩
  · exact .inl same
  · exact .inr ⟨gone,by simp only; omega⟩

private theorem read_spec {s : State} {act : Act} {next : Stage} (reading : reads s act = true)
    (present : s.granted.token ≠ "") (held : Held s s.session) (quiet : s.fatal = none) (running : next ≠ .ended)
    (onward : Inv { s with session := s.granted,stage := next }) :
    Inv { s with
      session := token s.clock s.session
      stage := if (token s.clock s.session).token = "" then .ended else next } ∧
    (¬ Silent { s with
      session := token s.clock s.session
      stage := if (token s.clock s.session).token = "" then .ended else next } ↔ InTime s act) := by
  rcases held.token_eq present with ⟨early,found⟩ | ⟨late,gone⟩
  · rw [found,if_neg present]
    exact ⟨onward,by simp [Silent,InTime,running,early]⟩
  · rw [gone,if_pos (show noSession.token = "" from rfl)]
    exact ⟨⟨present,trivial⟩,by simp [Silent,InTime,reading,quiet,Int.not_lt.mpr late]⟩

theorem loop_spec {s t : State} (inv : Inv s) (next : loop s = some t) :
    Inv t ∧ (¬ Silent t ↔ InTime s .loop) := by
  obtain ⟨clock,live,session,stage,fatal,granted⟩ := s
  obtain ⟨present,inv⟩ := inv
  cases stage with
  | unstarted | exchange | ended => simp [loop] at next
  | spent | rearm | retry => exact inv.elim
  | head =>
    cases next
    exact ⟨⟨present,inv.1,inv.2,inv.1⟩,by simp [Silent,InTime,reads]⟩
  | check snapshot =>
    obtain ⟨held,quiet,taken⟩ := inv
    rcases taken with rfl | ⟨rfl,late⟩
    · simp only [loop,if_neg present,Option.some.injEq] at next
      subst next
      exact read_spec rfl present held quiet (by simp) ⟨present,.inl rfl,quiet,rfl⟩
    · -- The session had expired before the snapshot.
      simp only [loop,noSession,if_true,Option.some.injEq] at next
      subst next
      have late : ¬ clock < granted.expiresAt := Int.not_lt.mpr late
      have quiet : fatal = none := quiet
      exact ⟨⟨present,trivial⟩,by simp [Silent,InTime,reads,quiet,late]⟩
  | arm snapshot =>
    cases next
    exact ⟨⟨present,inv⟩,by simp [Silent,InTime,reads]⟩
  | wait snapshot deadline =>
    obtain ⟨held,quiet,rfl⟩ := inv
    simp only [loop] at next
    split at next
    · cases next
    · cases next
      -- A session that is found is the one of the snapshot.
      have found : ∀ early : (token clock session).token ≠ "", (token clock session).token = snapshot.token := by
        intro early
        rcases held.token_eq present with ⟨-,same⟩ | ⟨-,gone⟩
        · exact congrArg Session.token same
        · exact absurd (congrArg Session.token gone) early
      have stage : (if (token clock session).token = "" then Stage.ended
          else if (token clock session).token ≠ snapshot.token then .head else .exchange snapshot) =
          if (token clock session).token = "" then .ended else .exchange snapshot := by
        by_cases gone : (token clock session).token = ""
        · rw [if_pos gone,if_pos gone]
        · rw [if_neg gone,if_neg gone,if_neg (not_not.mpr (found gone))]
      simp only [stage]
      exact read_spec rfl present held quiet (by simp) ⟨present,.inl rfl,quiet,rfl⟩
  | giveUp failure =>
    cases next
    exact ⟨⟨present,trivial⟩,by cases fatal <;> simp [Silent,InTime,reads]⟩

section

variable {Key Pub : Type} {crypto : Crypto Key Pub} {unmarshal : Bytes → Option Packet} {worker : Worker Key Pub}

/-- What an action does in enforce mode: it keeps the invariant, and it silences the worker exactly
    when it is a late read of the loop. -/
theorem step_spec {s t : State} {act : Act} (inv : Inv s) (next : step crypto unmarshal worker .enforce s act = some t) :
    Inv t ∧ (¬ Silent s → (¬ Silent t ↔ InTime s act)) := by
  cases act with
  | pass delay =>
    cases next
    refine ⟨?_,fun speaks => by simpa [Silent,InTime,reads] using speaks⟩
    obtain ⟨clock,live,session,stage,fatal,granted⟩ := s
    obtain ⟨present,inv⟩ := inv
    refine ⟨present,?_⟩
    cases stage with
    | unstarted | head | arm | wait | exchange => exact ⟨inv.1.later delay,inv.2⟩
    | check => exact ⟨inv.1.later delay,inv.2.1,inv.2.2.later delay⟩
    | giveUp | ended => trivial
    | spent | rearm | retry => exact inv
  | startTrustRenewal =>
    obtain ⟨clock,live,session,stage,fatal,granted⟩ := s
    cases stage with
    | unstarted =>
      obtain ⟨present,held,quiet⟩ := inv
      cases next
      have spec := @read_spec _ .startTrustRenewal .head rfl present held quiet (by simp) ⟨present,.inl rfl,quiet⟩
      obtain ⟨kept,silenced⟩ := spec
      exact ⟨kept,fun _ => silenced⟩
    | _ => simp [step] at next
  | loop =>
    obtain ⟨kept,silenced⟩ := loop_spec inv next
    exact ⟨kept,fun _ => silenced⟩
  | exchanged attempt =>
    obtain ⟨clock,live,session,stage,fatal,granted⟩ := s
    cases stage with
    | exchange snapshot =>
      obtain ⟨present,held,quiet,-⟩ := inv
      simp only [step] at next
      split at next
      · rename_i replacement ok
        cases next
        have named := Exchange.Installs.token_ne (e := ⟨renewPurpose,snapshot.token,attempt⟩) ok
        exact ⟨⟨named,.inl rfl,quiet⟩,fun _ => by simp [Silent,InTime,reads]⟩
      · simp only [true_or,if_true,Option.some.injEq] at next
        subst next
        exact ⟨⟨present,trivial⟩,fun _ => by simp [Silent,InTime,reads]⟩
    | _ => simp [step] at next
  | read =>
    cases next
    refine ⟨?_,fun speaks => by simpa [Silent,InTime,reads] using speaks⟩
    obtain ⟨clock,live,session,stage,fatal,granted⟩ := s
    obtain ⟨present,inv⟩ := inv
    refine ⟨present,?_⟩
    cases stage with
    | unstarted | head | check | arm | wait | exchange => exact ⟨inv.1.read present,inv.2⟩
    | giveUp | ended => trivial
    | spent | rearm | retry => exact inv
  | cancel =>
    cases next
    exact ⟨inv,fun _ => by simp [Silent,InTime,reads]⟩
  | interrupt =>
    obtain ⟨clock,live,session,stage,fatal,granted⟩ := s
    cases stage with
    | wait =>
      simp only [step] at next
      split at next
      · cases next
      · rename_i cancelled
        cases next
        exact ⟨⟨inv.1,trivial⟩,fun _ => by simp [Silent,InTime,cancelled]⟩
    | retry => exact inv.2.elim
    | _ => simp [step] at next

/-- In enforce mode, whatever the lifetimes, the exchanges, the delays and the reads of other
    goroutines are, the loop never ends without a word exactly when it reads the token before the
    session that was granted last expires. -/
theorem renewTrustLoop_speaks_iff {clock : Int} {session : Session} {attempt : Attempt TransportError} {acts : List Act}
    {t : State} (granted : performTrustExchange crypto unmarshal worker issuePurpose "" attempt = .ok session)
    (reached : run (step crypto unmarshal worker .enforce) (start clock session) acts = some t) :
    Always (step crypto unmarshal worker .enforce) (fun s => ¬ Silent s) (start clock session) acts ↔
      Every (step crypto unmarshal worker .enforce) InTime (start clock session) acts := by
  have present := Exchange.Installs.token_ne (e := ⟨issuePurpose,"",attempt⟩) granted
  exact always_iff_every (fun s a t inv next => (step_spec inv next).1)
    (fun s a t inv speaks next => (step_spec inv next).2 speaks)
    ⟨present,.inl rfl,rfl⟩ (by simp [Silent,start]) reached

end

namespace Samples
open FirstSession (config agent attempt garbledAttempt)

def worker : Worker Unit Bool := ⟨config,agent.capability⟩

def session : Session := ⟨"session",1800000000000000000,1800003600000000000⟩

/-- The loop is served when its session is over, although its timer fired in the middle of it. -/
def overslept : List Act := [.startTrustRenewal,.loop,.loop,.loop,.pass 3598000000000,.loop]

/-- A few milliseconds are left when the loop looks at the session; the timer fires on time. -/
def shortlived : List Act := [.startTrustRenewal,.loop,.loop,.loop,.pass 10000000,.loop]

def refused : List Act := [.startTrustRenewal,.loop,.loop,.loop,.pass 1800000000000,.read,.loop,.exchanged garbledAttempt,.loop]

theorem session_granted :
    performTrustExchange FirstSession.crypto FirstSession.unmarshal worker issuePurpose "" attempt = .ok session := by
  decide +kernel

/-- Both loops end in silence: the context is live, no error was signalled, and the worker has no
    token any more. -/
theorem renewTrustLoop_falls_silent :
    performTrustExchange FirstSession.crypto FirstSession.unmarshal worker issuePurpose "" attempt = .ok session ∧
      (∃ t, run (step FirstSession.crypto FirstSession.unmarshal worker .enforce)
        (start 1800000002000000000 session) overslept = some t ∧ Silent t ∧ t.session = noSession) ∧
      ∃ t, run (step FirstSession.crypto FirstSession.unmarshal worker .enforce)
        (start 1800003599995000000 session) shortlived = some t ∧ Silent t ∧ t.session = noSession := by
  refine ⟨session_granted,⟨⟨1800003600000000000,true,noSession,.ended,none,session⟩,?_,by decide,rfl⟩,
    ⟨1800003600005000000,true,noSession,.ended,none,session⟩,?_,by decide,rfl⟩
  · decide +kernel
  · decide +kernel

/-- A renewal in time that is refused is not passed over in silence. -/
theorem renewTrustLoop_signals_refusal :
    Always (step FirstSession.crypto FirstSession.unmarshal worker .enforce) (fun s => ¬ Silent s)
      (start 1800000002000000000 session) refused := by
  have reached : (run (step FirstSession.crypto FirstSession.unmarshal worker .enforce)
      (start 1800000002000000000 session) refused).isSome = true := by decide +kernel
  obtain ⟨t,reached⟩ := Option.isSome_iff_exists.mp reached
  exact (renewTrustLoop_speaks_iff session_granted reached).mpr (by decide +kernel)

end Samples

end Cap.Trust.Managed.Loops
