import Cap.TrustGo

/-!
The signed bytes of the trust handshake determine what they say: a signature over the transcript
of a challenge or of a result vouches for one trace, one sender, one session token and one
payload.
-/
namespace Cap.Trust
open Cap.Text Cap.Wire Cap.Proto Cap.Records Cap.Checks

private theorem option_inj {α : Type} {message : α → Msg}
    (inj : ∀ {s t}, (message s).closed = true → (message t).closed = true → (message s).encode = (message t).encode → s = t)
    {s t : Option α} (closedS : (s.map message).all Msg.closed = true) (closedT : (t.map message).all Msg.closed = true)
    (same : ((sub (s.map message)).map Val.wire) = (sub (t.map message)).map Val.wire) : s = t := by
  have encoded := sub_inj same
  cases s with
  | none =>
    cases t with
    | none => rfl
    | some t => simp at encoded
  | some s =>
    cases t with
    | none => simp at encoded
    | some t => exact congrArg some (inj closedS closedT (by simpa using encoded))

namespace Timestamp

theorem encode_inj {s t : Timestamp} (closedS : s.message.closed = true) (closedT : t.message.closed = true)
    (same : s.message.encode = t.message.encode) : s = t := by
  obtain ⟨seconds,nanos,unknown⟩ := s
  obtain ⟨seconds',nanos',unknown'⟩ := t
  simp only [message,closed_message,Bool.and_eq_true,List.isEmpty_iff] at closedS closedT
  obtain ⟨-,rfl⟩ := closedS
  obtain ⟨-,rfl⟩ := closedT
  have found := find_eq_of_encode_eq (by simp [fields]) (by simp [fields]) same
  rw [mk.injEq]
  exact ⟨int64_inj (by simpa [fields] using found 1),int32_inj (by simpa [fields] using found 2),rfl⟩

end Timestamp

namespace Challenge

theorem encode_inj {s t : Challenge} (closedS : s.message.closed = true) (closedT : t.message.closed = true)
    (same : s.message.encode = t.message.encode) : s = t := by
  have partsS := closedS
  have partsT := closedT
  simp only [message,closed_message,fields,List.all_append,all_closed_entry,all_closed_sub,Bool.and_eq_true,
    List.isEmpty_iff] at partsS partsT
  obtain ⟨⟨⟨-,issuedS⟩,expiresS⟩,unknownS⟩ := partsS
  obtain ⟨⟨⟨-,issuedT⟩,expiresT⟩,unknownT⟩ := partsT
  rw [message,message,unknownS,unknownT] at same
  have found := find_eq_of_encode_eq (by simp [fields]) (by simp [fields]) same
  have issuedAt := option_inj Timestamp.encode_inj issuedS issuedT (by simpa [fields] using found 16)
  have expiresAt := option_inj Timestamp.encode_inj expiresS expiresT (by simpa [fields] using found 17)
  rw [mk.injEq]
  exact ⟨text_inj (by simpa [fields] using found 1),text_inj (by simpa [fields] using found 2),
    text_inj (by simpa [fields] using found 3),text_inj (by simpa [fields] using found 4),
    text_inj (by simpa [fields] using found 5),text_inj (by simpa [fields] using found 6),
    text_inj (by simpa [fields] using found 7),int32_inj (by simpa [fields] using found 8),
    text_inj (by simpa [fields] using found 9),text_inj (by simpa [fields] using found 10),
    int32_inj (by simpa [fields] using found 11),data_inj (by simpa [fields] using found 12),
    data_inj (by simpa [fields] using found 13),int32_inj (by simpa [fields] using found 14),
    text_inj (by simpa [fields] using found 15),issuedAt,expiresAt,unknownS.trans unknownT.symm⟩

end Challenge

namespace Result

theorem encode_inj {s t : Result} (closedS : s.message.closed = true) (closedT : t.message.closed = true)
    (same : s.message.encode = t.message.encode) : s = t := by
  have partsS := closedS
  have partsT := closedT
  simp only [message,closed_message,fields,List.all_append,all_closed_entry,all_closed_sub,Bool.and_eq_true,
    List.isEmpty_iff] at partsS partsT
  obtain ⟨⟨⟨⟨⟨challengeS,-⟩,-⟩,expiresS⟩,issuedS⟩,unknownS⟩ := partsS
  obtain ⟨⟨⟨⟨⟨challengeT,-⟩,-⟩,expiresT⟩,issuedT⟩,unknownT⟩ := partsT
  rw [message,message,unknownS,unknownT] at same
  have found := find_eq_of_encode_eq (by simp [fields]) (by simp [fields]) same
  have challenge := option_inj Challenge.encode_inj challengeS challengeT (by simpa [fields] using found 1)
  have expiresAt := option_inj Timestamp.encode_inj expiresS expiresT (by simpa [fields] using found 4)
  have issuedAt := option_inj Timestamp.encode_inj issuedS issuedT (by simpa [fields] using found 5)
  rw [mk.injEq]
  exact ⟨challenge,flag_inj (by simpa [fields] using found 2),int32_inj (by simpa [fields] using found 3),expiresAt,
    issuedAt,unknownS.trans unknownT.symm⟩

end Result

/-- The bytes that a phase's signature covers. -/
def transcriptOf (phase : Phase) (p : Packet) : Bytes := utf8 phase.domain ++ 0 :: Go.marshal p.unsigned

theorem Go.marshalTrustHandshakeTranscript_eq_ok {p : Packet} {transcript : Bytes} :
    Go.marshalTrustHandshakeTranscript p = .ok transcript ↔ Go.hasUnknownProtoFields p = false ∧
      Go.proofAlgorithm? p = some p256Algorithm ∧ ∃ phase, p.phase? = some phase ∧ transcriptOf phase p = transcript := by
  cases isPhase : p.phase? with
  | none => simp [Go.marshalTrustHandshakeTranscript,Go.selectTrustHandshakePhase,isPhase]
  | some phase =>
    simp [Go.marshalTrustHandshakeTranscript,Go.selectTrustHandshakePhase,isPhase,Go.validateTrustHandshakeAlgorithm,
      transcriptOf]

theorem separated_inj {a b x y : Bytes} (freeA : 0 ∉ a) (freeB : 0 ∉ b) (same : a ++ 0 :: x = b ++ 0 :: y) :
    a = b ∧ x = y := by
  induction a generalizing b with
  | nil =>
    cases b with
    | nil => exact ⟨rfl,by simpa using same⟩
    | cons first rest =>
      obtain ⟨rfl,-⟩ : 0 = first ∧ x = rest ++ 0 :: y := by simpa using same
      exact absurd (by simp) freeB
  | cons first rest ih =>
    cases b with
    | nil =>
      obtain ⟨rfl,-⟩ : first = 0 ∧ rest ++ 0 :: x = y := by simpa using same
      exact absurd (by simp) freeA
    | cons first' rest' =>
      obtain ⟨rfl,later⟩ : first = first' ∧ rest ++ 0 :: x = rest' ++ 0 :: y := by simpa using same
      obtain ⟨rfl,tails⟩ := ih (fun member => freeA (by simp [member])) (fun member => freeB (by simp [member])) later
      exact ⟨rfl,tails⟩

theorem domain_free (phase : Phase) : 0 ∉ utf8 phase.domain := by
  cases phase <;> decide +kernel

theorem domain_inj {p q : Phase} (same : utf8 p.domain = utf8 q.domain) : p = q := by
  have domains := utf8_inj same
  cases p <;> cases q <;> first | rfl | exact absurd domains (by decide)

/-- The phase and the unsigned packet can be read off a transcript. -/
theorem transcriptOf_inj {f g : Phase} {p q : Packet} (same : transcriptOf f p = transcriptOf g q) :
    f = g ∧ Go.marshal p.unsigned = Go.marshal q.unsigned := by
  obtain ⟨domains,packets⟩ := separated_inj (domain_free f) (domain_free g) same
  exact ⟨domain_inj domains,packets⟩

/-- The packets say the same; their signatures and the members for production signing are left open. -/
structure Packet.SaysSame (p q : Packet) : Prop where
  traceId : p.traceId = q.traceId
  senderId : p.senderId = q.senderId
  createdAt : p.createdAt = q.createdAt
  protocolVersion : p.protocolVersion = q.protocolVersion
  authToken : p.authToken = q.authToken
  payload : p.payload = q.payload

private theorem Packet.challenge_of_phase {p : Packet} (isPhase : p.phase? = some .challenge) :
    ∃ c, p.payload = some (.challenge c) := by
  unfold phase? at isPhase
  split at isPhase <;> simp_all

private theorem Packet.result_of_phase {p : Packet} (isPhase : p.phase? = some .result) :
    ∃ r, p.payload = some (.result r) := by
  unfold phase? at isPhase
  split at isPhase <;> simp_all

section

variable {p q : Packet} {member member' : Payload}

private theorem closed_parts (carried : p.payload = some member) (closed : Go.hasUnknownProtoFields p = false) :
    (p.createdAt.map Timestamp.message).all Msg.closed = true ∧ member.message.closed = true ∧ p.unknown = [] := by
  simp only [Go.hasUnknownProtoFields,Go.message,closed_message,Go.fields,Packet.envelope,carried,Option.toList_some,
    List.flatMap_singleton,Payload.fields,List.all_append,all_closed_entry,all_closed_sub,Bool.not_eq_false',
    Bool.and_eq_true,List.isEmpty_iff] at closed
  obtain ⟨⟨⟨⟨⟨⟨⟨⟨-,created⟩,-⟩,-⟩,-⟩,-⟩,-⟩,inner⟩,unknown⟩ := closed
  exact ⟨created,by simpa [Val.closed] using inner,unknown⟩

/-- Unsigned packets with the same bytes say the same, their payloads as far as their bytes do. -/
private theorem marshal_inj (carriedP : p.payload = some member) (carriedQ : q.payload = some member')
    (number : member'.number = member.number) (high : 18 < member.number)
    (closedP : Go.hasUnknownProtoFields p = false) (closedQ : Go.hasUnknownProtoFields q = false)
    (same : Go.marshal p.unsigned = Go.marshal q.unsigned)
    (inner : member.message.encode = member'.message.encode → member = member') : p.SaysSame q := by
  obtain ⟨createdP,_,unknownP⟩ := closed_parts carriedP closedP
  obtain ⟨createdQ,_,unknownQ⟩ := closed_parts carriedQ closedQ
  have shapeP : Go.fields p.unsigned = p.unsigned.envelope ++ entry member.number (sub (some member.message)) := by
    simp [Go.fields,Packet.unsigned,carriedP,Payload.fields,entry,sub]
  have shapeQ : Go.fields q.unsigned = q.unsigned.envelope ++ entry member.number (sub (some member'.message)) := by
    simp [Go.fields,Packet.unsigned,carriedQ,Payload.fields,entry,sub,number]
  simp only [Go.marshal,Go.message,shapeP,shapeQ] at same
  rw [show p.unsigned.unknown = [] from unknownP,show q.unsigned.unknown = [] from unknownQ] at same
  have found := find_eq_of_encode_eq (by simp [Packet.envelope]) (by simp [Packet.envelope]) same
  have apart : ∀ n, n ≤ 18 → member.number ≠ n ∧ n ≠ member.number := by omega
  exact {
    traceId := text_inj (by simpa [Packet.envelope,Packet.unsigned,apart] using found 1)
    senderId := text_inj (by simpa [Packet.envelope,Packet.unsigned,apart] using found 2)
    createdAt := option_inj Timestamp.encode_inj createdP createdQ (by simpa [Packet.envelope,Packet.unsigned,apart] using found 3)
    protocolVersion := int32_inj (by simpa [Packet.envelope,Packet.unsigned,apart] using found 4)
    authToken := text_inj (by simpa [Packet.envelope,Packet.unsigned,apart] using found 18)
    payload := by
      have payloads := sub_inj (by simpa [Packet.envelope,Packet.unsigned,apart] using found member.number)
      rw [carriedP,carriedQ,inner (by simpa using payloads)] }

/-- A signed challenge or result says one thing. -/
theorem Go.transcript_inj {hashed : Bytes} (reply : p.phase? = some .challenge ∨ p.phase? = some .result)
    (one : Go.marshalTrustHandshakeTranscript p = .ok hashed) (other : Go.marshalTrustHandshakeTranscript q = .ok hashed) :
    p.SaysSame q := by
  obtain ⟨closedP,-,phase,isPhase,rfl⟩ := Go.marshalTrustHandshakeTranscript_eq_ok.mp one
  obtain ⟨closedQ,-,phase',isPhase',same⟩ := Go.marshalTrustHandshakeTranscript_eq_ok.mp other
  obtain ⟨rfl,bytes⟩ := transcriptOf_inj same
  rcases reply with isChallenge | isResult
  · rw [isChallenge,Option.some.injEq] at isPhase
    subst isPhase
    obtain ⟨c,carriedP⟩ := Packet.challenge_of_phase isChallenge
    obtain ⟨d,carriedQ⟩ := Packet.challenge_of_phase isPhase'
    apply marshal_inj carriedP carriedQ rfl (by simp [Payload.number]) closedP closedQ bytes.symm
    intro inner
    exact congrArg Payload.challenge (Challenge.encode_inj (closed_parts carriedP closedP).2.1
      (closed_parts carriedQ closedQ).2.1 inner)
  · rw [isResult,Option.some.injEq] at isPhase
    subst isPhase
    obtain ⟨r,carriedP⟩ := Packet.result_of_phase isResult
    obtain ⟨s,carriedQ⟩ := Packet.result_of_phase isPhase'
    apply marshal_inj carriedP carriedQ rfl (by simp [Payload.number]) closedP closedQ bytes.symm
    intro inner
    exact congrArg Payload.result (Result.encode_inj (closed_parts carriedP closedP).2.1
      (closed_parts carriedQ closedQ).2.1 inner)

end

end Cap.Trust
