import Mathlib.Tactic.SplitIfs
import Cap.Checks

/-!
Authentication by challenge and response over a transport that may fail and that anyone may answer
on. Packets, bytes, sessions and failures are parameters.
-/
namespace Cap.ChallengeResponse
open Cap.Checks

variable {δ τ β π ν σ φ α : Type}

/-- What comes back for a request: an error of the transport, nothing, or bytes. -/
inductive Reply (τ β : Type) where
  | failed (error : τ)
  | nothing
  | data (bytes : β)
deriving DecidableEq

/-- The draws of one exchange, its replies and the instants at which they are verified. -/
structure Attempt (δ τ β : Type) where
  draws : δ
  challengeReply : Reply τ β
  challengeAt : Int
  resultReply : Reply τ β
  resultAt : Int
deriving DecidableEq

/-- The steps of the client. -/
structure Scheme (δ τ β π ν σ φ : Type) where
  request : δ → Except φ π
  marshal : π → Except φ β
  /-- An error of the transport as a failure of the client. -/
  failed : τ → φ
  nothing : φ
  unmarshal : β → Except φ π
  verifyChallenge : π → π → Int → Except φ ν
  authenticate : ν → δ → Except φ π
  verifyResult : ν → π → π → Int → Except φ σ

namespace Scheme

variable (scheme : Scheme δ τ β π ν σ φ)

def receive : Reply τ β → Except φ π
  | .failed error => .error (scheme.failed error)
  | .nothing => .error scheme.nothing
  | .data bytes => scheme.unmarshal bytes

def roundTrip (packet : π) (reply : Reply τ β) : Except φ π := do
  let _ ← scheme.marshal packet
  scheme.receive reply

def exchange (attempt : Attempt δ τ β) : Except φ σ := do
  let request ← scheme.request attempt.draws
  let challenge ← scheme.roundTrip request attempt.challengeReply
  let verified ← scheme.verifyChallenge request challenge attempt.challengeAt
  let authenticate ← scheme.authenticate verified attempt.draws
  let result ← scheme.roundTrip authenticate attempt.resultReply
  scheme.verifyResult verified authenticate result attempt.resultAt

/-- The bytes do not decode, or not to a packet that verifies. -/
def Refused {γ : Type} (verify : π → Except φ γ) (bytes : β) : Prop := ∀ value, (scheme.unmarshal bytes >>= verify) ≠ .ok value

/-- The exchange gets as far as a reply with bytes that it refuses. -/
inductive Bad (attempt : Attempt δ τ β) : Prop where
  | challenge {request : π} {sent bytes : β} (built : scheme.request attempt.draws = .ok request)
      (marshalled : scheme.marshal request = .ok sent) (reply : attempt.challengeReply = .data bytes)
      (refused : scheme.Refused (fun packet => scheme.verifyChallenge request packet attempt.challengeAt) bytes)
  | result {request packet authenticate : π} {verified : ν} {sent bytes : β}
      (built : scheme.request attempt.draws = .ok request)
      (received : scheme.roundTrip request attempt.challengeReply = .ok packet)
      (isVerified : scheme.verifyChallenge request packet attempt.challengeAt = .ok verified)
      (answered : scheme.authenticate verified attempt.draws = .ok authenticate)
      (marshalled : scheme.marshal authenticate = .ok sent) (reply : attempt.resultReply = .data bytes)
      (refused : scheme.Refused (fun packet => scheme.verifyResult verified authenticate packet attempt.resultAt) bytes)

/-- A failure of decoding or verifying. -/
inductive Refusal : φ → Prop where
  | unmarshal {bytes : β} {failure : φ} (failed : scheme.unmarshal bytes = .error failure) : Refusal failure
  | challenge {request packet : π} {now : Int} {failure : φ}
      (failed : scheme.verifyChallenge request packet now = .error failure) : Refusal failure
  | result {verified : ν} {authenticate packet : π} {now : Int} {failure : φ}
      (failed : scheme.verifyResult verified authenticate packet now = .error failure) : Refusal failure

variable {scheme}

private theorem refused_cases {γ : Type} {verify : π → Except φ γ} {bytes : β} (refused : scheme.Refused verify bytes) :
    (∃ failure, scheme.unmarshal bytes = .error failure) ∨
      ∃ packet failure, scheme.unmarshal bytes = .ok packet ∧ verify packet = .error failure := by
  unfold Refused at refused
  cases decoded : scheme.unmarshal bytes with
  | error failure => exact .inl ⟨failure,rfl⟩
  | ok packet =>
    cases checked : verify packet with
    | error failure => exact .inr ⟨packet,failure,rfl,checked⟩
    | ok value => exact absurd (by simp [decoded,checked]) (refused value)

/-- An exchange with a bad reply fails with a refusal. -/
theorem Bad.exchange_eq {attempt : Attempt δ τ β} (bad : scheme.Bad attempt) :
    ∃ failure, scheme.Refusal failure ∧ scheme.exchange attempt = .error failure := by
  cases bad with
  | challenge built marshalled reply refused =>
    rcases refused_cases refused with ⟨failure,failed⟩ | ⟨packet,failure,decoded,failed⟩
    · refine ⟨failure,.unmarshal failed,?_⟩
      simp [exchange,roundTrip,receive,built,marshalled,reply,failed,bind,Except.bind]
    · refine ⟨failure,.challenge failed,?_⟩
      simp [exchange,roundTrip,receive,built,marshalled,reply,decoded,failed,bind,Except.bind]
  | result built received isVerified answered marshalled reply refused =>
    rcases refused_cases refused with ⟨failure,failed⟩ | ⟨packet,failure,decoded,failed⟩
    · refine ⟨failure,.unmarshal failed,?_⟩
      simp only [exchange,built,received,isVerified,answered,bind,Except.bind]
      simp [roundTrip,receive,marshalled,reply,failed,bind,Except.bind]
    · refine ⟨failure,.result failed,?_⟩
      simp only [exchange,built,received,isVerified,answered,bind,Except.bind]
      simp [roundTrip,receive,marshalled,reply,decoded,failed,bind,Except.bind]

end Scheme

/-- Try the attempts in turn until one yields a session or fails for good; the attempts that
    were made come along. -/
def retry (exchange : α → Except φ σ) (again : φ → Bool) (untried : φ) : List α → Except φ σ × List α
  | [] => (.error untried,[])
  | next :: rest =>
    match exchange next with
    | .ok session => (.ok session,[next])
    | .error failure =>
      if again failure && !rest.isEmpty then
        ((retry exchange again untried rest).1,next :: (retry exchange again untried rest).2)
      else (.error failure,[next])

variable {exchange : α → Except φ σ} {again : φ → Bool} {untried : φ} {attempts : List α}

theorem retry_ok {session : σ} (ok : (retry exchange again untried attempts).1 = .ok session) :
    ∃ attempt ∈ (retry exchange again untried attempts).2, exchange attempt = .ok session := by
  induction attempts with
  | nil => simp [retry] at ok
  | cons next rest ih =>
    rw [retry] at ok ⊢
    cases found : exchange next with
    | ok established =>
      obtain rfl : established = session := by simpa [found] using ok
      exact ⟨next,by simp,found⟩
    | error failure =>
      simp only [found] at ok ⊢
      split_ifs at ok ⊢
      obtain ⟨attempt,made,yields⟩ := ih ok
      exact ⟨attempt,List.mem_cons_of_mem _ made,yields⟩

theorem retry_error {attempt : α} {failure : φ} (made : attempt ∈ (retry exchange again untried attempts).2)
    (fails : exchange attempt = .error failure) (final : again failure = false) :
    (retry exchange again untried attempts).1 = .error failure := by
  induction attempts with
  | nil => simp [retry] at made
  | cons next rest ih =>
    rw [retry] at made ⊢
    cases found : exchange next with
    | ok established =>
      obtain rfl : attempt = next := by simpa [found] using made
      rw [found] at fails
      cases fails
    | error first =>
      simp only [found] at made ⊢
      split_ifs at made ⊢ with more
      · rcases List.mem_cons.mp made with rfl | later
        · obtain rfl : first = failure := by simpa [found] using fails
          simp [final] at more
        · exact ih later
      · obtain rfl : attempt = next := by simpa using made
        rw [found] at fails
        exact fails

end Cap.ChallengeResponse
