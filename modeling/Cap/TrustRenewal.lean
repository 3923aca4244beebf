import Cap.TrustAgreement
import Cap.TrustLifecycle

/-!
What a renewal does to the session in the four runtimes: the agent of the Go runtime, the managed
worker, and the lifecycles of Node and Python. A reply that does not verify costs the session, in
every mode.
-/
namespace Cap.Trust
open Cap.Text Cap.Wire Cap.Checks
open Cap.ProductionSigning (Crypto)
open Cap.ChallengeResponse (Scheme Reply retry retry_ok retry_error)

/-- A session as it is stored: its token and its expiry. -/
abbrev Stored := Option (String × Int)

/-- A session that has expired is dropped. -/
theorem stored_filter (session : Option Session) (live : Session → Bool) :
    (session.filter live).map (fun s => (s.token,s.expiresAt)) = none ∨
      (session.filter live).map (fun s => (s.token,s.expiresAt)) = session.map fun s => (s.token,s.expiresAt) := by
  cases session with
  | none => exact .inl rfl
  | some s => cases kept : live s <;> simp

/-- What a renewal may do to the stored session. -/
structure Renewal {τ ν φ : Type} (schemeOf : Int32 → String → Scheme Draws τ Bytes Packet ν Session φ)
    (before after : Stored) (exchanges : List (Exchange τ)) : Prop where
  renewing : ∀ e ∈ exchanges, e.purpose = renewPurpose
  /-- A bad reply costs the session. -/
  dropped : ∀ e ∈ exchanges, (schemeOf e.purpose e.presented).Bad e.attempt → after = none
  /-- Nothing but a verified accepted result replaces it. -/
  replaced : after = none ∨ after = before ∨ ∃ e ∈ exchanges, ∃ session,
    (schemeOf e.purpose e.presented).exchange e.attempt = .ok session ∧ after = some (session.token,session.expiresAt)

section

variable {τ ν φ : Type} {schemeOf : Int32 → String → Scheme Draws τ Bytes Packet ν Session φ} {before after : Stored}

theorem Renewal.idle (kept : after = none ∨ after = before) : Renewal schemeOf before after [] where
  renewing := by simp
  dropped := by simp
  replaced := kept.imp_right .inl

variable {token : String}

theorem Renewal.of_loop {α : Type} {attemptOf : α → Attempt τ} {made : List α}
    (dropped : ∀ next ∈ made, (schemeOf renewPurpose token).Bad (attemptOf next) → after = none)
    (replaced : after = none ∨ after = before ∨ ∃ next ∈ made, ∃ session,
      (schemeOf renewPurpose token).exchange (attemptOf next) = .ok session ∧
        after = some (session.token,session.expiresAt)) :
    Renewal schemeOf before after (made.map fun next => ⟨renewPurpose,token,attemptOf next⟩) where
  renewing := by
    intro e member
    obtain ⟨next,-,rfl⟩ := List.mem_map.mp member
    rfl
  dropped := by
    intro e member bad
    obtain ⟨next,inside,rfl⟩ := List.mem_map.mp member
    exact dropped next inside bad
  replaced := by
    rcases replaced with gone | same | ⟨next,inside,session,yields,installed⟩
    · exact .inl gone
    · exact .inr (.inl same)
    · exact .inr (.inr ⟨_,List.mem_map_of_mem inside,session,yields,installed⟩)

section

variable {α ψ : Type} {attemptOf : α → Attempt τ} {made : List α} {token : String} {outcome : Except ψ Session}
  {costs : ψ → Prop} (refused : ∀ next ∈ made, (schemeOf renewPurpose token).Bad (attemptOf next) →
    ∃ failure, outcome = .error failure ∧ costs failure)

include refused

variable {session : Session}

/-- A loop that ends with a session has seen no bad reply. -/
theorem Renewal.installed (ended : outcome = .ok session)
    (yields : ∃ next ∈ made, (schemeOf renewPurpose token).exchange (attemptOf next) = .ok session)
    (stored : after = some (session.token,session.expiresAt)) :
    Renewal schemeOf before after (made.map fun next => ⟨renewPurpose,token,attemptOf next⟩) := by
  obtain ⟨next,inside,yields⟩ := yields
  refine .of_loop (fun other member bad => ?_) (.inr (.inr ⟨next,inside,session,yields,stored⟩))
  obtain ⟨failure,failed,-⟩ := refused other member bad
  cases ended.symm.trans failed

theorem Renewal.failed {failure : ψ} (ended : outcome = .error failure) (dropped : costs failure → after = none)
    (kept : after = none ∨ after = before) :
    Renewal schemeOf before after (made.map fun next => ⟨renewPurpose,token,attemptOf next⟩) := by
  refine .of_loop (fun next member bad => ?_) (kept.imp_right .inl)
  obtain ⟨_,same,security⟩ := refused next member bad
  obtain rfl := Except.error.inj (ended.symm.trans same)
  exact dropped security

end

theorem Renewal.of_dropped {now : Stored} {exchanges : List (Exchange τ)} (earlier : now = none ∨ now = before)
    (renewal : Renewal schemeOf now after exchanges) : Renewal schemeOf before after exchanges where
  renewing := renewal.renewing
  dropped := renewal.dropped
  replaced := by
    rcases earlier with rfl | rfl
    · rcases renewal.replaced with gone | same | installed
      · exact .inl gone
      · exact .inl same
      · exact .inr (.inr installed)
    · exact renewal.replaced

end

/-! ### The agent of the Go runtime -/

namespace Go

variable {purpose : Int32}

theorem refusal_sdk {Key Pub : Type} {crypto : Crypto Key Pub} {unmarshal : Bytes → Option Packet}
    {classify : TransportError → Failure} {worker : Worker Key Pub} {failure : Failure}
    (refusal : (scheme crypto unmarshal classify worker purpose token).Refusal failure) : ∃ error, failure = .sdk error := by
  have of_sdk : ∀ {α : Type} {x : Except Error α}, sdk x = .error failure → ∃ error, failure = .sdk error := by
    intro α x failed
    cases x with
    | ok value => simp [sdk] at failed
    | error error => exact ⟨error,(Except.error.inj failed).symm⟩
  cases refusal with
  | unmarshal failed | challenge failed | result failed => exact of_sdk failed

end Go

namespace Runtime

def stored (s : SessionState) : Stored := if s.token = "" then none else some (s.token,s.exp)

@[simp] theorem stored_empty : stored .empty = none := rfl

theorem stored_active (now : Int) (s : SessionState) : stored (s.active now) = none ∨ stored (s.active now) = stored s := by
  rcases SessionState.active_eq now s with same | dropped
  · exact .inr (by rw [same])
  · exact .inl (by rw [dropped,stored_empty])

section

variable {Key Pub : Type} {crypto : Crypto Key Pub} {unmarshal : Bytes → Option Packet} {agent : Agent Key Pub}
  {trust : Config Key Pub}

/-- An error of the SDK ends the loop, and what it ends with is not operational. -/
theorem attemptLoop_sdk {exchange : Attempt TransportError → Except Failure Session} {tries : List Try}
    {attempt : Attempt TransportError} {error : Go.Error} (made : attempt ∈ (attemptLoop exchange tries).2)
    (fails : exchange attempt = .error (.sdk error)) :
    ∃ failure, (attemptLoop exchange tries).1 = .error failure ∧ failure.isOperational = false := by
  induction tries with
  | nil => simp [attemptLoop] at made
  | cons next rest ih =>
    rw [attemptLoop] at made ⊢
    by_cases done : next.done = true
    · simp [done] at made
    · cases found : exchange next.attempt with
      | ok established =>
        obtain rfl : attempt = next.attempt := by simpa [done,found] using made
        rw [found] at fails
        cases fails
      | error failure =>
        have first : attempt = next.attempt → failure = .sdk error := by
          rintro rfl
          exact Except.error.inj (found.symm.trans fails)
        simp only [done,found,Bool.false_eq_true,if_false] at made ⊢
        split at made
        · exact ⟨_,rfl,rfl⟩
        · split_ifs at made ⊢ with stop slept
          · obtain rfl := first (by simpa using made)
            exact ⟨_,rfl,rfl⟩
          · obtain rfl := first (by simpa using made)
            simp [Failure.isOperational] at stop
          · rcases List.mem_cons.mp made with here | later
            · obtain rfl := first here
              simp [Failure.isOperational] at stop
            · exact ih later

variable {tries : Nat → Try}

theorem performTrustHandshake_renewal (trusted : agent.trust = some trust) {before : SessionState} :
    Renewal (scheme crypto unmarshal classify ⟨trust,agent.capability⟩) (stored before)
      (stored (performTrustHandshake crypto unmarshal agent renewPurpose token tries before).session)
      (performTrustHandshake crypto unmarshal agent renewPurpose token tries before).exchanges := by
  unfold performTrustHandshake
  split
  · exact .idle (.inr rfl)
  · exact .idle (.inr rfl)
  · rename_i found started
    obtain rfl := startup_trust trusted started
    split_ifs with requests
    · exact .idle (.inr rfl)
    · dsimp only
      generalize tried : attemptLoop (scheme crypto unmarshal classify ⟨found,agent.capability⟩ renewPurpose token).exchange
        _ = attempts
      -- A bad reply makes the loop end in a failure that is not operational.
      have refused : ∀ attempt ∈ attempts.2,
          (scheme crypto unmarshal classify ⟨found,agent.capability⟩ renewPurpose token).Bad attempt →
            ∃ failure, attempts.1 = .error failure ∧ failure.isOperational = false := by
        subst tried
        intro attempt made bad
        obtain ⟨failure,refusal,fails⟩ := bad.exchange_eq
        obtain ⟨error,rfl⟩ := Go.refusal_sdk refusal
        exact attemptLoop_sdk made fails
      split
      · rename_i established ok
        subst tried
        obtain ⟨attempt,made,yields⟩ := attemptLoop_ok ok
        have present := Exchange.Installs.token_ne (e := ⟨renewPurpose,token,attempt⟩) yields
        exact .installed refused ok ⟨attempt,made,yields⟩ (if_neg present)
      · rename_i failure failed
        refine .failed refused failed (fun security => by simp [clearFailedRenewal,security]) ?_
        unfold clearFailedRenewal
        split_ifs
        · exact .inr rfl
        · exact .inl rfl

variable {now : Int}

theorem performRenew_renewal (trusted : agent.trust = some trust) {before : SessionState} :
    Renewal (scheme crypto unmarshal classify ⟨trust,agent.capability⟩) (stored before)
      (stored (performRenew crypto unmarshal agent now tries before).session)
      (performRenew crypto unmarshal agent now tries before).exchanges := by
  apply Renewal.of_dropped (stored_active now before)
  unfold performRenew
  dsimp only
  split
  · exact .idle (.inr rfl)
  · exact performTrustHandshake_renewal trusted

end

end Runtime

namespace Managed

def stored (session : Session) : Stored := if session.token = "" then none else some (session.token,session.expiresAt)

@[simp] theorem stored_noSession : stored noSession = none := rfl

theorem stored_token (now : Int) (session : Session) :
    stored (token now session) = none ∨ stored (token now session) = stored session := by
  rcases token_eq now session with same | dropped
  · exact .inr (by rw [same])
  · exact .inl (by rw [dropped,stored_noSession])

variable {later : Int}

theorem renew_renewal {Key Pub : Type} {crypto : Crypto Key Pub} {unmarshal : Bytes → Option Packet}
    {worker : Worker Key Pub} {mode : Mode} {snapshot : Session} {attempt : Attempt TransportError}
    {s : State} :
    ∃ made, (renew crypto unmarshal worker mode snapshot now attempt later s).exchanges = s.exchanges ++ made ∧
      Renewal (scheme crypto unmarshal classify worker) (stored s.session)
        (stored (renew crypto unmarshal worker mode snapshot now attempt later s).session) made := by
  unfold renew
  dsimp only
  split
  · exact ⟨[],by simp,.idle (stored_token now s.session)⟩
  split
  · exact ⟨[],by simp,.idle (stored_token now s.session)⟩
  have refused : ∀ next ∈ [attempt],
      (scheme crypto unmarshal classify worker renewPurpose (token now s.session).token).Bad next → ∃ failure,
        (scheme crypto unmarshal classify worker renewPurpose (token now s.session).token).exchange attempt =
          .error failure ∧ failure.isOperational = false := by
    intro next member bad
    obtain rfl := List.mem_singleton.mp member
    obtain ⟨failure,refusal,fails⟩ := bad.exchange_eq
    obtain ⟨error,rfl⟩ := Go.refusal_sdk refusal
    exact ⟨_,fails,rfl⟩
  split
  · rename_i replacement ok
    have present := Exchange.Installs.token_ne (e := ⟨renewPurpose,_,attempt⟩) ok
    exact ⟨_,rfl,.installed refused ok ⟨attempt,by simp,ok⟩ (if_neg present)⟩
  · rename_i failure failed
    split
    · exact ⟨_,rfl,.failed refused failed (fun _ => rfl) (.inl rfl)⟩
    · rename_i retried
      refine ⟨_,rfl,.failed refused failed (fun security => absurd (.inr security) retried) ?_⟩
      rcases stored_token later (token now s.session) with gone | kept
      · exact .inl gone
      · rcases stored_token now s.session with gone | same
        · exact .inl (kept.trans gone)
        · exact .inr (kept.trans same)

end Managed

namespace Node

def stored (s : Lifecycle) : Stored := s.current.map fun session => (session.token,session.expiresAt)

theorem stored_active (now : Int) (s : Lifecycle) : stored (s.active now) = none ∨ stored (s.active now) = stored s :=
  stored_filter _ _

variable {settings : Settings} {s : Lifecycle}

variable {failure : Thrown}

/-- A failed renewal costs the session unless the failure is operational. -/
theorem handleFailure_security
    (security : failure.isOperational = false) : stored (handleFailure settings failure true now s).2 = none := by
  simp [handleFailure,security,stored]

variable {renewal : Bool}

theorem handleFailure_stored :
    stored (handleFailure settings failure renewal now s).2 = none ∨
      stored (handleFailure settings failure renewal now s).2 = stored s := by
  have kept : (handleFailure settings failure renewal now s).2 = { s with current := none } ∨
      (handleFailure settings failure renewal now s).2 = s.active now := by
    unfold handleFailure
    split_ifs <;> simp
  rcases kept with cleared | active
  · exact .inl (by rw [cleared]; rfl)
  · rw [active]
    exact stored_active now s

section

variable {Key Pub : Type} {crypto : Crypto Key Pub} {pb : Protobufjs} {worker : Worker Key Pub} {settings : Settings}

theorem refusal_thrown (refusal : (scheme crypto pb worker purpose token).Refusal failure) :
    failure.isOperational = false ∧ failure ≠ .closed := by
  have of_thrown : ∀ {α : Type} {x : Except Error α}, thrown x = .error failure →
      failure.isOperational = false ∧ failure ≠ .closed := by
    intro α x failed
    cases x with
    | ok value => simp [thrown] at failed
    | error error =>
      obtain rfl := Except.error.inj failed
      exact ⟨rfl,by simp⟩
  cases refusal with
  | unmarshal failed => exact of_thrown failed
  | challenge failed | result failed =>
    rcases require_bind_eq_error failed with rfl | failed
    · exact ⟨rfl,by simp⟩
    · exact of_thrown failed

variable {next : Try}

private theorem settle_bad (bad : (scheme crypto pb worker renewPurpose token).Bad next.attempt) :
    ∃ failure, settle crypto pb worker renewPurpose token next = .error failure ∧ failure.isOperational = false := by
  unfold settle
  split_ifs
  · exact ⟨_,rfl,rfl⟩
  · obtain ⟨failure,refusal,fails⟩ := bad.exchange_eq
    exact ⟨failure,fails,(refusal_thrown refusal).1⟩

private theorem settle_ok (ok : settle crypto pb worker renewPurpose token next = .ok session) :
    (scheme crypto pb worker renewPurpose token).exchange next.attempt = .ok session := by
  unfold settle at ok
  split_ifs at ok
  exact ok

theorem exchangeWithRetries_renewal :
    Renewal (scheme crypto pb worker) (stored s)
      (stored (exchangeWithRetries crypto pb worker settings renewPurpose token now tries later s).state)
      (exchangeWithRetries crypto pb worker settings renewPurpose token now tries later s).exchanges := by
  apply Renewal.of_dropped (stored_active now s)
  unfold exchangeWithRetries
  dsimp only
  split_ifs
  · exact .idle (.inr rfl)
  · exact .idle handleFailure_stored
  · -- A bad reply ends the loop with a failure that costs the session.
    generalize tried : retry (settle crypto pb worker renewPurpose token) _ _ _ = attempts
    have refused : ∀ next ∈ attempts.2, (scheme crypto pb worker renewPurpose token).Bad next.attempt →
        ∃ failure, attempts.1 = .error failure ∧ failure.isOperational = false := by
      subst tried
      intro next made bad
      obtain ⟨failure,fails,security⟩ := settle_bad bad
      exact ⟨failure,retry_error made fails security,security⟩
    split
    · rename_i session ok
      subst tried
      obtain ⟨next,made,yields⟩ := retry_ok ok
      exact .installed refused ok ⟨next,made,settle_ok yields⟩ rfl
    · rename_i failed
      exact .failed refused failed (fun _ => rfl) (.inl rfl)
    · rename_i failure _ failed
      exact .failed refused failed (fun security => handleFailure_security security) handleFailure_stored

theorem renew_renewal :
    Renewal (scheme crypto pb worker) (stored s) (stored (renew crypto pb worker settings now tries later s).state)
      (renew crypto pb worker settings now tries later s).exchanges := by
  apply Renewal.of_dropped (stored_active now s)
  unfold renew
  dsimp only
  split
  · exact .idle handleFailure_stored
  split
  · exact .idle (.inr rfl)
  · exact exchangeWithRetries_renewal

end

end Node

/-! ### The lifecycle of Python -/

namespace Python

def stored (s : Lifecycle) : Stored := s.session.map fun session => (session.token,session.expiresAt)

theorem stored_active (now : Int) (s : Lifecycle) : stored (s.active now) = none ∨ stored (s.active now) = stored s :=
  stored_filter _ _

variable {failure : Raised}

theorem handleFailure_security (security : isOperationalFailure failure = false) :
    stored (handleFailure settings failure renewal now s).2 = none := by
  simp [handleFailure,security,stored]

theorem handleFailure_stored :
    stored (handleFailure settings failure renewal now s).2 = none ∨
      stored (handleFailure settings failure renewal now s).2 = stored s := by
  have kept : (handleFailure settings failure renewal now s).2 = { s with session := none } ∨
      (handleFailure settings failure renewal now s).2 = s.active now := by
    unfold handleFailure
    dsimp only
    split_ifs <;> simp
  rcases kept with cleared | active
  · exact .inl (by rw [cleared]; rfl)
  · rw [active]
    exact stored_active now s

section

variable {Key Pub : Type} {crypto : Crypto Key Pub} {strictDer : Bytes → Bool} {parse : Bytes → Option Packet}
  {worker : Worker Key Pub} {settings : Settings}

theorem refusal_raised (refusal : (scheme crypto strictDer parse worker purpose token).Refusal failure) :
    isOperationalFailure failure = false ∧ failure ≠ .cancelled := by
  have of_raised : ∀ {α : Type} {x : Except Error α}, raised x = .error failure →
      isOperationalFailure failure = false ∧ failure ≠ .cancelled := by
    intro α x failed
    cases x with
    | ok value => simp [raised] at failed
    | error error =>
      obtain rfl := Except.error.inj failed
      exact ⟨rfl,by simp⟩
  cases refusal with
  | unmarshal failed | challenge failed | result failed => exact of_raised failed

private theorem settle_bad (ran : next.cancelled = false)
    (bad : (scheme crypto strictDer parse worker renewPurpose token).Bad next.attempt) :
    ∃ failure, settle crypto strictDer parse worker renewPurpose token next = .error failure ∧
      isOperationalFailure failure = false ∧ failure ≠ .cancelled := by
  obtain ⟨failure,refusal,fails⟩ := bad.exchange_eq
  refine ⟨failure,?_,refusal_raised refusal⟩
  simp [settle,ran,fails,bind,Except.bind]

private theorem settle_ok (ok : settle crypto strictDer parse worker renewPurpose token next = .ok session) :
    next.cancelled = false ∧
      (scheme crypto strictDer parse worker renewPurpose token).exchange next.attempt = .ok session := by
  unfold settle at ok
  split_ifs at ok with cancelled
  simp only [bind_eq_ok,pure_eq_ok] at ok
  obtain ⟨_,yields,_,_,rfl⟩ := ok
  exact ⟨by simpa using cancelled,yields⟩

theorem exchange_renewal :
    Renewal (scheme crypto strictDer parse worker) (stored s)
      (stored (exchange crypto strictDer parse worker settings renewPurpose token now tries later s).state)
      (exchange crypto strictDer parse worker settings renewPurpose token now tries later s).exchanges := by
  unfold exchange
  split
  · exact .idle (.inr rfl)
  apply Renewal.of_dropped (stored_active now s)
  simp only [if_true]
  split_ifs
  · exact .idle handleFailure_stored
  · exact .idle (.inr rfl)
  · generalize tried : retry (settle crypto strictDer parse worker renewPurpose token) _ _ _ = attempts
    have refused : ∀ next ∈ attempts.2.filter (!·.cancelled),
        (scheme crypto strictDer parse worker renewPurpose token).Bad next.attempt →
          ∃ failure, attempts.1 = .error failure ∧ isOperationalFailure failure = false ∧ failure ≠ .cancelled := by
      subst tried
      intro next member bad
      obtain ⟨made,ran⟩ := List.mem_filter.mp member
      obtain ⟨failure,fails,security,other⟩ := settle_bad (by simpa using ran) bad
      exact ⟨failure,retry_error made fails security,security,other⟩
    split
    · rename_i session ok
      subst tried
      obtain ⟨next,made,yields⟩ := retry_ok ok
      obtain ⟨ran,yields⟩ := settle_ok yields
      exact .installed refused ok ⟨next,List.mem_filter.mpr ⟨made,by simp [ran]⟩,yields⟩ rfl
    · rename_i failed
      exact .failed refused failed (fun security => absurd rfl security.2) (.inr rfl)
    · rename_i failure _ failed
      exact .failed refused failed (fun security => handleFailure_security security.1) handleFailure_stored

theorem renew_renewal :
    Renewal (scheme crypto strictDer parse worker) (stored s)
      (stored (renew crypto strictDer parse worker settings now tries later s).state)
      (renew crypto strictDer parse worker settings now tries later s).exchanges := by
  apply Renewal.of_dropped (stored_active now s)
  unfold renew
  dsimp only
  split
  · exact .idle handleFailure_stored
  · exact exchange_renewal

end

end Python

/-- In every mode and from every state, a renewal with a bad reply drops the session, and a
    session that a renewal leaves behind is the one before or that of a verified result. -/
theorem bad_renewal_drops_session :
    (∀ {Key Pub : Type} (crypto : Crypto Key Pub) unmarshal (agent : Runtime.Agent Key Pub) trust now tries session,
      agent.trust = some trust →
        Renewal (scheme crypto unmarshal Runtime.classify ⟨trust,agent.capability⟩) (Runtime.stored session)
          (Runtime.stored (Runtime.performRenew crypto unmarshal agent now tries session).session)
          (Runtime.performRenew crypto unmarshal agent now tries session).exchanges) ∧
    (∀ {Key Pub : Type} (crypto : Crypto Key Pub) unmarshal worker mode snapshot now attempt later s,
      ∃ made, (Managed.renew crypto unmarshal worker mode snapshot now attempt later s).exchanges = s.exchanges ++ made ∧
        Renewal (scheme crypto unmarshal Managed.classify worker) (Managed.stored s.session)
          (Managed.stored (Managed.renew crypto unmarshal worker mode snapshot now attempt later s).session) made) ∧
    (∀ {Key Pub : Type} (crypto : Crypto Key Pub) pb worker settings token now tries later s,
      Renewal (Node.scheme crypto pb worker) (Node.stored s)
        (Node.stored (Node.exchangeWithRetries crypto pb worker settings renewPurpose token now tries later s).state)
        (Node.exchangeWithRetries crypto pb worker settings renewPurpose token now tries later s).exchanges ∧
      Renewal (Node.scheme crypto pb worker) (Node.stored s)
        (Node.stored (Node.renew crypto pb worker settings now tries later s).state)
        (Node.renew crypto pb worker settings now tries later s).exchanges) ∧
    (∀ {Key Pub : Type} (crypto : Crypto Key Pub) strictDer parse worker settings token now tries later s,
      Renewal (Python.scheme crypto strictDer parse worker) (Python.stored s)
        (Python.stored (Python.exchange crypto strictDer parse worker settings renewPurpose token now tries later s).state)
        (Python.exchange crypto strictDer parse worker settings renewPurpose token now tries later s).exchanges ∧
      Renewal (Python.scheme crypto strictDer parse worker) (Python.stored s)
        (Python.stored (Python.renew crypto strictDer parse worker settings now tries later s).state)
        (Python.renew crypto strictDer parse worker settings now tries later s).exchanges) := by
  refine ⟨?_,?_,?_,?_⟩
  · intro Key Pub crypto unmarshal agent trust now tries session trusted
    exact Runtime.performRenew_renewal trusted
  · intro Key Pub crypto unmarshal worker mode snapshot now attempt later s
    exact Managed.renew_renewal
  · intro Key Pub crypto pb worker settings token now tries later s
    exact ⟨Node.exchangeWithRetries_renewal,Node.renew_renewal⟩
  · intro Key Pub crypto strictDer parse worker settings token now tries later s
    exact ⟨Python.exchange_renewal,Python.renew_renewal⟩

namespace FirstSession

/-- The agent in warn mode. -/
def warnAgent : Runtime.Agent Unit Bool := { agent with mode := .warn }

/-- The challenge comes back as no bytes at all. -/
def garbledAttempt : Attempt TransportError := { attempt with challengeReply := .data [] }

def garbledRenewal : Runtime.Outcome :=
  Runtime.performRenew crypto unmarshal warnAgent 1800000000000000000 (fun _ => ⟨false,garbledAttempt,true⟩)
    ⟨"session",1800003600000000000⟩

/-- The request that the agent signs. -/
def renewalRequest : Packet :=
  { Go.challengeRequest config ⟨"request","trace",renewPurpose,List.replicate 32 1,1800000000000000000⟩ with
    signature := [1] }

theorem garbled_bad :
    (scheme crypto unmarshal Runtime.classify ⟨config,warnAgent.capability⟩ renewPurpose "session").Bad garbledAttempt := by
  have built : (scheme crypto unmarshal Runtime.classify ⟨config,warnAgent.capability⟩ renewPurpose "session").request
      garbledAttempt.draws = .ok renewalRequest := by decide +kernel
  have marshalled : (scheme crypto unmarshal Runtime.classify ⟨config,warnAgent.capability⟩ renewPurpose "session").marshal
      renewalRequest = .ok (Go.marshal renewalRequest) := by decide +kernel
  refine .challenge built marshalled rfl ?_
  intro value impossible
  cases impossible

/-- In warn mode an agent with a live session gets a garbled challenge and loses the session. -/
theorem garbled_renewal_loses_session :
    garbledRenewal.exchanges = [⟨renewPurpose,"session",garbledAttempt⟩] ∧
      (scheme crypto unmarshal Runtime.classify ⟨config,warnAgent.capability⟩ renewPurpose "session").Bad garbledAttempt ∧
      Runtime.stored ((⟨"session",1800003600000000000⟩ : Runtime.SessionState).active 1800000003000000000) =
        some ("session",1800003600000000000) ∧
      Runtime.stored garbledRenewal.session = none := by
  refine ⟨?_,garbled_bad,by decide,?_⟩
  · decide +kernel
  · decide +kernel

theorem garbled_renewal_drops :
    garbledRenewal.exchanges = [⟨renewPurpose,"session",garbledAttempt⟩] ∧ Runtime.stored garbledRenewal.session = none := by
  have made : garbledRenewal.exchanges = [⟨renewPurpose,"session",garbledAttempt⟩] := by
    decide +kernel
  have renewal := bad_renewal_drops_session.1 crypto unmarshal warnAgent config 1800000000000000000
    (fun _ => ⟨false,garbledAttempt,true⟩) ⟨"session",1800003600000000000⟩ rfl
  refine ⟨made,renewal.dropped ⟨renewPurpose,"session",garbledAttempt⟩ ?_ garbled_bad⟩
  rw [show (Runtime.performRenew _ _ _ _ _ _).exchanges = garbledRenewal.exchanges from rfl,made]
  simp

end FirstSession

end Cap.Trust
