import Cap.TrustRuntime

/-!
The renewal loop of the Go runtime (`runtime/renew.go`) with timers that fire on time and
exchanges that succeed at once. The loop waits at least for a minimal interval, and with a session
that lives no longer than that it wakes up too late.
-/
namespace Cap.Trust.Runtime
open Cap.Text Cap.Wire Cap.Checks
open Cap.ProductionSigning (Crypto)

def defaultRenewLeeway : Int := 60000000000

def defaultRenewMinInterval : Int := 30000000000

def computeRenewWait (exp now : Int) : Int :=
  let lifetime := Go.sub exp now
  if lifetime ≤ 0 then defaultRenewMinInterval
  else
    let target := lifetime / 2
    let target := if target > lifetime - defaultRenewLeeway then lifetime - defaultRenewLeeway else target
    let target := if target < defaultRenewMinInterval then defaultRenewMinInterval else target
    if target > lifetime then lifetime else target

structure Head where
  now : Int
  session : SessionState

structure Grant where
  token : String
  lifetime : Int

/-- A renewal whose exchange succeeds at once, if there is a session to renew. -/
def renewed (now : Int) (grant : Grant) (session : SessionState) : SessionState × Bool :=
  let current := session.active now
  if current.token = "" then (current,false) else (⟨grant.token,now + grant.lifetime⟩,true)

/-- When the loop will renew the session; without a session it looks again later. -/
def renewAt (s : Head) : Option Int :=
  let current := s.session.active s.now
  if current.exp = Go.zeroTime then none else some (s.now + computeRenewWait current.exp s.now)

/-- The loop from one head to the next. -/
def cycle (s : Head) (grant : Grant) : Head :=
  match renewAt s with
  | none => ⟨s.now + defaultRenewMinInterval,s.session.active s.now⟩
  | some instant =>
    let (session,obtained) := renewed instant grant (s.session.active s.now)
    ⟨if obtained then instant else instant + defaultRenewMinInterval,session⟩

/-- With a requester and a first exchange that succeeds, the agent's renewal is the one above. -/
theorem performRenew_renewed {Key Pub : Type} {crypto : Crypto Key Pub} {unmarshal : Bytes → Option Packet}
    {agent : Agent Key Pub} {trust : Config Key Pub} {now : Int} {tries : Nat → Try} {session : SessionState}
    {grant : Grant} {issuedAt : Int} (started : validateTrustStartup crypto agent = .ok (some trust))
    (requester : agent.requester = true) (live : (tries 0).done = false)
    (granted : (scheme crypto unmarshal classify ⟨trust,agent.capability⟩ renewPurpose (session.active now).token).exchange
      (tries 0).attempt = .ok ⟨grant.token,issuedAt,now + grant.lifetime⟩) :
    (performRenew crypto unmarshal agent now tries session).session = (renewed now grant session).1 := by
  have some : ∃ count, handshakeRetries agent = count + 1 := by
    refine ⟨handshakeRetries agent - 1,?_⟩
    unfold handshakeRetries defaultHandshakeRetries
    split <;> omega
  obtain ⟨count,retries⟩ := some
  rw [performRenew,renewed]
  by_cases empty : (session.active now).token = ""
  · rw [if_pos empty,if_pos empty]
  · rw [if_neg empty,if_neg empty,performTrustHandshake]
    simp [started,requester,retries,List.range_succ_eq_map,attemptLoop,live,granted]

/-- The session is live until the loop renews it, and the loop renews it before it expires. -/
def Seamless (s : Head) : Prop :=
  ∃ instant, renewAt s = some instant ∧ instant < s.session.exp ∧
    ∀ t, s.now ≤ t → t ≤ instant → (s.session.active t).token ≠ ""

theorem computeRenewWait_lt_iff (exp now : Int) (positive : now < exp) :
    computeRenewWait exp now < exp - now ↔ defaultRenewMinInterval < exp - now := by
  simp only [computeRenewWait,Go.sub,defaultRenewMinInterval]
  split_ifs <;> omega

theorem computeRenewWait_pos (exp now : Int) : 0 < computeRenewWait exp now := by
  simp only [computeRenewWait,defaultRenewMinInterval]
  split_ifs <;> omega

theorem SessionState.active_eq_self {s : SessionState} {now : Int} (live : now < s.exp) : s.active now = s := by
  rw [SessionState.active,if_neg (fun expired => expired.2 live)]

section
variable {now lifetime : Int} {token : String} (clock : Go.zeroTime ≤ now) (lives : 0 < lifetime) (some : token ≠ "")
include clock lives

private theorem renewAt_fresh :
    renewAt ⟨now,⟨token,now + lifetime⟩⟩ = .some (now + computeRenewWait (now + lifetime) now) := by
  have live : (⟨token,now + lifetime⟩ : SessionState).active now = ⟨token,now + lifetime⟩ :=
    SessionState.active_eq_self (show now < now + lifetime by omega)
  simp only [renewAt,live]
  rw [if_neg (by omega)]

include some

/-- A session is renewed in time exactly when it lives longer than the minimal interval. -/
theorem seamless_iff : Seamless ⟨now,⟨token,now + lifetime⟩⟩ ↔ defaultRenewMinInterval < lifetime := by
  have span : now + lifetime - now = lifetime := by omega
  have early := computeRenewWait_lt_iff (now + lifetime) now (by omega)
  rw [span] at early
  rw [Seamless,renewAt_fresh clock lives]
  constructor
  · rintro ⟨instant,same,before,-⟩
    obtain rfl : now + computeRenewWait (now + lifetime) now = instant := Option.some.inj same
    simp only at before
    omega
  · intro before
    refine ⟨_,rfl,by simp only; omega,fun t _ upTo => ?_⟩
    rw [SessionState.active_eq_self (by simp only; omega)]
    exact some

theorem cycle_fresh (long : defaultRenewMinInterval < lifetime) (grant : Grant) :
    ∃ later, now < later ∧ cycle ⟨now,⟨token,now + lifetime⟩⟩ grant = ⟨later,⟨grant.token,later + grant.lifetime⟩⟩ := by
  have early := computeRenewWait_lt_iff (now + lifetime) now (by omega)
  have positive := computeRenewWait_pos (now + lifetime) now
  refine ⟨now + computeRenewWait (now + lifetime) now,by omega,?_⟩
  have first : (⟨token,now + lifetime⟩ : SessionState).active now = ⟨token,now + lifetime⟩ :=
    SessionState.active_eq_self (show now < now + lifetime by omega)
  have second : (⟨token,now + lifetime⟩ : SessionState).active (now + computeRenewWait (now + lifetime) now) =
      ⟨token,now + lifetime⟩ := SessionState.active_eq_self (show _ < now + lifetime by omega)
  simp [cycle,renewAt_fresh clock lives,first,renewed,second,some]

end

/-- However the lifetimes are chosen, every renewal starts before the session expires and the
    session is never without a token exactly when all of them are longer than the minimal interval. -/
theorem renewals_seamless_iff {now lifetime : Int} {token : String} {grants : List Grant} (clock : Go.zeroTime ≤ now)
    (lives : 1000000000 ≤ lifetime) (some : token ≠ "")
    (granted : ∀ grant ∈ grants, 1000000000 ≤ grant.lifetime ∧ grant.token ≠ "") :
    (∀ taken rest, grants = taken ++ rest → Seamless (taken.foldl cycle ⟨now,⟨token,now + lifetime⟩⟩)) ↔
      defaultRenewMinInterval < lifetime ∧ ∀ grant ∈ grants, defaultRenewMinInterval < grant.lifetime := by
  induction grants generalizing now lifetime token with
  | nil =>
    have first := seamless_iff clock (show 0 < lifetime by omega) some
    constructor
    · intro all
      exact ⟨first.mp (all [] [] rfl),by simp⟩
    · rintro ⟨long,-⟩ taken rest split
      obtain ⟨rfl,rfl⟩ := List.append_eq_nil_iff.mp split.symm
      exact first.mpr long
  | cons grant grants ih =>
    have first := seamless_iff clock (show 0 < lifetime by omega) some
    obtain ⟨lasts,named⟩ := granted grant (by simp)
    constructor
    · intro all
      have long := first.mp (all [] _ rfl)
      obtain ⟨later,after,next⟩ := cycle_fresh clock (by omega) some long grant
      have onward := ih (show Go.zeroTime ≤ later by omega) lasts named fun g member => granted g (by simp [member])
      refine ⟨long,?_⟩
      simpa using onward.mp fun taken rest split => by
        have whole := all (grant :: taken) rest (by simp [split])
        rwa [List.foldl_cons,next] at whole
    · rintro ⟨long,longer⟩ taken rest split
      obtain ⟨later,after,next⟩ := cycle_fresh clock (by omega) some long grant
      cases taken with
      | nil => exact first.mpr long
      | cons head taken =>
        obtain ⟨rfl,tail⟩ : grant = head ∧ grants = taken ++ rest := by simpa using split
        rw [List.foldl_cons,next]
        have onward := ih (show Go.zeroTime ≤ later by omega) lasts named fun g member => granted g (by simp [member])
        exact onward.mpr (by simpa using longer) taken rest tail

/-- Sessions of an hour and of a minute are renewed in time. -/
theorem renewals_seamless_hour :
    ([⟨"second",60000000000⟩,⟨"third",3600000000000⟩].foldl cycle ⟨0,⟨"first",0 + 3600000000000⟩⟩).session.token = "third" ∧
      ∀ taken rest, [⟨"second",60000000000⟩,⟨"third",3600000000000⟩] = taken ++ rest →
        Seamless (taken.foldl cycle ⟨0,⟨"first",0 + 3600000000000⟩⟩) :=
  ⟨by decide,(renewals_seamless_iff (by decide) (by decide) (by decide) (by decide)).mpr (by decide)⟩

/-- A session of ten seconds has expired when the loop comes to renew it: the renewal is refused, and
    the loop finds no session any more. -/
theorem renewals_not_seamless_short :
    ¬ Seamless ⟨0,⟨"first",10000000000⟩⟩ ∧
      (SessionState.mk "first" 10000000000).active 10000000000 = SessionState.empty ∧
      (cycle ⟨0,⟨"first",10000000000⟩⟩ ⟨"second",3600000000000⟩).session = SessionState.empty ∧
      renewAt (cycle ⟨0,⟨"first",10000000000⟩⟩ ⟨"second",3600000000000⟩) = none := by
  refine ⟨?_,by decide,by decide,by decide⟩
  intro seamless
  have long : defaultRenewMinInterval < 10000000000 := (seamless_iff (by decide) (by decide) (by decide)).mp seamless
  exact absurd long (by decide)

end Cap.Trust.Runtime
