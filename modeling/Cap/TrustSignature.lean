import Cap.Der
import Cap.TrustNodeFlow
import Cap.TrustPython

/-!
Which signatures the SDKs take apart. Node looks at the octets itself; Python decodes the two
integers with its library and asks that encoding them again gives the same octets.
-/
namespace Cap.Trust
open Cap.Text Cap.Checks Cap.Der

namespace Node

/-! ### The octets that Node accepts -/

theorem derIntegerEnd_eq_some {signature : Bytes} {offset stop : Nat} :
    derIntegerEnd signature offset = some stop ↔ ∃ n rest,(contents n).length ≤ 33 ∧
      signature.drop offset = integer n ++ rest ∧ stop = offset + (integer n).length := by
  unfold derIntegerEnd
  constructor
  · intro ends
    split at ends
    case h_2 => cases ends
    case h_1 tag length first rest octets =>
      dsimp only at ends
      split at ends
      case isFalse => cases ends
      case isTrue accepted =>
        obtain ⟨rfl,positive,short,inside,low,needed⟩ := accepted
        obtain rfl := Option.some.inj ends
        have room := congrArg List.length octets
        simp only [List.length_drop,List.length_cons] at room
        have counted : (first :: rest.take (length.toNat - 1)).length = length.toNat := by
          simp only [List.length_cons,List.length_take]
          omega
        have minimal : Minimal (first :: rest.take (length.toNat - 1)) := by
          refine minimal_cons.mpr ⟨low,?_⟩
          rintro ⟨zero,redundant⟩
          rw [List.head?_take] at redundant
          split at redundant
          · simp at redundant
          · exact needed ⟨by omega,zero,redundant⟩
        have same := contents_unsigned minimal
        refine ⟨unsigned (first :: rest.take (length.toNat - 1)),rest.drop (length.toNat - 1),?_,?_,?_⟩
        · rw [same,counted]
          exact short
        · rw [octets,integer,tlv_short (by rw [same]; omega),same,counted]
          simp
        · rw [integer,tlv_short (by rw [same]; omega),same]
          simp only [List.length_cons] at counted ⊢
          omega
  · rintro ⟨n,rest,short,octets,rfl⟩
    have minimal := contents_minimal n
    rw [integer,tlv_short (by omega)] at octets ⊢
    cases digits : contents n with
    | nil => exact absurd digits (contents_ne_nil n)
    | cons first more =>
      rw [digits] at short octets minimal
      obtain ⟨low,needed⟩ := minimal_cons.mp minimal
      have room := congrArg List.length octets
      have counted : (UInt8.ofNat (more.length + 1)).toNat = more.length + 1 := by
        simp only [List.length_cons] at short
        exact UInt8.toNat_ofNat_of_lt (by simp [UInt8.size]; omega)
      simp only [List.length_drop,List.length_cons,List.length_append] at room short
      simp only [octets,List.cons_append,List.length_cons]
      rw [if_pos]
      · congr 1
        omega
      · refine ⟨trivial,by omega,by omega,by omega,low,?_⟩
        rintro ⟨several,zero,redundant⟩
        cases more with
        | nil => simp at several
        | cons second more => exact needed ⟨zero,by simpa using redundant⟩

private theorem length_integer {n : Nat} (short : (contents n).length ≤ 33) :
    3 ≤ (integer n).length ∧ (integer n).length ≤ 35 := by
  have present : 0 < (contents n).length := List.length_pos_iff.mpr (contents_ne_nil n)
  rw [integer,tlv_short (by omega)]
  simp only [List.length_cons]
  omega

private theorem pair_short {r s : Nat} (first : (contents r).length ≤ 33) (second : (contents s).length ≤ 33) :
    pair r s = 0x30 :: UInt8.ofNat (integer r ++ integer s).length :: (integer r ++ integer s) := by
  have := length_integer first
  have := length_integer second
  exact tlv_short (by rw [List.length_append]; omega)

theorem isStrictDerSignature_iff {signature : Bytes} : isStrictDerSignature signature = true ↔
    ∃ r s,(contents r).length ≤ 33 ∧ (contents s).length ≤ 33 ∧ signature = pair r s := by
  simp only [isStrictDerSignature,Bool.and_eq_true,decide_eq_true_eq,beq_iff_eq]
  constructor
  · rintro ⟨⟨⟨⟨_,_⟩,sequence⟩,length⟩,integers⟩
    obtain ⟨count,body,rfl⟩ : ∃ count body,signature = 0x30 :: count :: body := by
      rcases signature with _ | ⟨tag,_ | ⟨count,body⟩⟩
      · cases sequence
      · cases length
      · exact ⟨count,body,by rw [Option.some.inj sequence]⟩
    have counted : count.toNat = body.length := by simpa using length
    obtain ⟨rEnd,first,second⟩ := (Option.any_eq_true _ _).mp integers
    obtain ⟨r,rest,short,octets,rfl⟩ := derIntegerEnd_eq_some.mp first
    obtain ⟨s,trailing,short',octets',ends⟩ := derIntegerEnd_eq_some.mp (beq_iff_eq.mp second)
    have body_eq : body = integer r ++ rest := octets
    have remainder : rest = integer s ++ trailing := by
      rw [← octets',body_eq,show 2 + (integer r).length = (integer r).length + 1 + 1 by omega,List.drop_succ_cons,
        List.drop_succ_cons,List.drop_left]
    have nothing : trailing = [] := by
      simp only [body_eq,remainder,List.length_cons,List.length_append] at ends
      exact List.eq_nil_of_length_eq_zero (by omega)
    have whole : body = integer r ++ integer s := by rw [body_eq,remainder,nothing,List.append_nil]
    refine ⟨r,s,short,short',?_⟩
    rw [pair_short short short',← whole,← counted,UInt8.ofNat_toNat]
  · rintro ⟨r,s,short,short',rfl⟩
    have first := length_integer short
    have second := length_integer short'
    rw [pair_short short short']
    have counted : (UInt8.ofNat (integer r ++ integer s).length).toNat = (integer r ++ integer s).length :=
      UInt8.toNat_ofNat_of_lt (by simp only [UInt8.size,List.length_append]; omega)
    have rEnd : derIntegerEnd (0x30 :: UInt8.ofNat (integer r ++ integer s).length :: (integer r ++ integer s)) 2 =
        some (2 + (integer r).length) := derIntegerEnd_eq_some.mpr ⟨r,integer s,short,rfl,rfl⟩
    have sEnd : derIntegerEnd (0x30 :: UInt8.ofNat (integer r ++ integer s).length :: (integer r ++ integer s))
        (2 + (integer r).length) = some (2 + (integer r).length + (integer s).length) := by
      refine derIntegerEnd_eq_some.mpr ⟨s,[],short',?_,rfl⟩
      rw [show 2 + (integer r).length = (integer r).length + 1 + 1 by omega,List.drop_succ_cons,List.drop_succ_cons,
        List.drop_left,List.append_nil]
    have total : (integer r ++ integer s).length = _ := List.length_append
    simp only [rEnd,Option.any_some,sEnd,List.head?_cons,List.drop_succ_cons,List.drop_zero,List.length_cons,
      beq_iff_eq,Option.some.injEq,and_true]
    omega

theorem isStrictDerSignature_pair {r s : Nat} (first : r < 2 ^ 256) (second : s < 2 ^ 256) :
    isStrictDerSignature (pair r s) = true := by
  refine isStrictDerSignature_iff.mpr ⟨r,s,?_,?_,rfl⟩
  · exact length_contents_le (by norm_num at first ⊢; exact first)
  · exact length_contents_le (by norm_num at second ⊢; exact second)

end Node

/-- Signatures in the library that the Python SDK uses. -/
structure Dss where
  /-- `decode_dss_signature`; nothing stands for its `ValueError`. -/
  decode : Bytes → Option (Int × Int)
  encode : Int → Int → Bytes

/-- What the library's documentation says. -/
structure Dss.Documented (dss : Dss) : Prop where
  encode : ∀ r s : Nat,dss.encode r s = pair r s
  decode : ∀ r s : Nat,dss.decode (pair r s) = some (↑r,↑s)

def Python.requireStrictDer (dss : Dss) (signature : Bytes) : Except Python.Error Unit :=
  match dss.decode signature with
  | none => throw (.signing "trust signature is not strict DER")
  | some (r,s) => do
    require (0 < r && 0 < s) (.signing "trust signature has invalid integers")
    require (dss.encode r s == signature) (.signing "trust signature is not canonical DER")

theorem Python.requireStrictDer_eq_ok {dss : Dss} (documented : dss.Documented) {signature : Bytes} :
    Python.requireStrictDer dss signature = .ok () ↔ ∃ r s : Nat,1 ≤ r ∧ 1 ≤ s ∧ signature = pair r s := by
  unfold Python.requireStrictDer
  constructor
  · intro ok
    split at ok
    case h_1 => cases ok
    case h_2 r s decoded =>
      obtain ⟨positive,canonical⟩ := check_bind_eq_ok.mp ok
      have positive := require_eq_ok.mp positive
      have canonical := require_eq_ok.mp canonical
      simp only [Bool.and_eq_true,decide_eq_true_eq] at positive
      lift r to Nat using by omega
      lift s to Nat using by omega
      refine ⟨r,s,by omega,by omega,?_⟩
      rw [← documented.encode r s]
      exact (beq_iff_eq.mp canonical).symm
  · rintro ⟨r,s,first,second,rfl⟩
    simp only [documented.decode r s]
    refine check_bind_eq_ok.mpr ⟨require_eq_ok.mpr ?_,require_eq_ok.mpr ?_⟩
    · simp only [Bool.and_eq_true,decide_eq_true_eq]
      omega
    · exact beq_iff_eq.mpr (documented.encode r s)

/-- Node accepts the distinguished encodings of pairs and nothing else; accepted octets that denote
the same integers are the same; and Python accepts no signature of a P-256 key that Node refuses. -/
theorem strict_der_exact (dss : Dss) :
    (∀ signature,Node.isStrictDerSignature signature = true ↔
      ∃! integers : Nat × Nat,(contents integers.1).length ≤ 33 ∧ (contents integers.2).length ≤ 33 ∧
        signature = pair integers.1 integers.2 ∧ Denotes signature integers.1 integers.2) ∧
    (∀ a b r s,Node.isStrictDerSignature a = true → Node.isStrictDerSignature b = true → Denotes a r s →
      Denotes b r s → a = b) ∧
    ∀ r s : Nat,1 ≤ r → r < 2 ^ 256 → 1 ≤ s → s < 2 ^ 256 → Python.requireStrictDer dss (pair r s) = .ok () →
      Node.isStrictDerSignature (pair r s) = true := by
  refine ⟨fun signature => ⟨?_,?_⟩,?_,?_⟩
  · intro accepted
    obtain ⟨r,s,first,second,rfl⟩ := Node.isStrictDerSignature_iff.mp accepted
    have denotes : Denotes (pair r s) r s := pair_denotes (by omega)
    refine ⟨(r,s),⟨first,second,rfl,denotes⟩,?_⟩
    rintro ⟨r',s'⟩ ⟨_,_,_,denotes'⟩
    obtain ⟨one,two⟩ := denotes'.unique denotes
    exact Prod.ext (by exact_mod_cast one) (by exact_mod_cast two)
  · rintro ⟨integers,⟨first,second,same,_⟩,_⟩
    exact Node.isStrictDerSignature_iff.mpr ⟨_,_,first,second,same⟩
  · intro a b r s one other denotes denotes'
    obtain ⟨r₁,s₁,_,_,rfl⟩ := Node.isStrictDerSignature_iff.mp one
    obtain ⟨r₂,s₂,_,_,rfl⟩ := Node.isStrictDerSignature_iff.mp other
    obtain ⟨rfl,rfl⟩ := denotes.unique (pair_denotes (by omega))
    obtain ⟨r,s⟩ := denotes'.unique (pair_denotes (by omega))
    rw [Int.ofNat.inj r,Int.ofNat.inj s]
  · intro r s _ first _ second _
    exact Node.isStrictDerSignature_pair first second

namespace Samples

def small : Dss where
  decode octets := if octets = pair 1 1 then some (1,1) else none
  encode r s := pair r.toNat s.toNat

theorem smallest_accepted : Python.requireStrictDer small (pair 1 1) = .ok () ∧
    Node.isStrictDerSignature (pair 1 1) = true ∧ [0x30,6,2,1,1,2,1,1] = pair 1 1 :=
  ⟨by decide,(strict_der_exact small).2.2 1 1 (by decide) (by decide) (by decide) (by decide) (by decide),
    (strict_der_exact small).2.1 _ _ 1 1 (by decide) (by decide) (pair_denotes (r := 1) (s := 1) (by decide))
      (pair_denotes (r := 1) (s := 1) (by decide))⟩

end Samples

/-- With the documented library, whatever Python accepts for integers below 2²⁵⁶ Node accepts. -/
theorem python_strict_node {dss : Dss} (documented : dss.Documented) {signature : Bytes} {r s : Int}
    (accepted : Python.requireStrictDer dss signature = .ok ()) (decoded : dss.decode signature = some (r,s))
    (first : r < 2 ^ 256) (second : s < 2 ^ 256) : Node.isStrictDerSignature signature = true := by
  obtain ⟨r',s',_,_,rfl⟩ := (Python.requireStrictDer_eq_ok documented).mp accepted
  obtain ⟨rfl,rfl⟩ := Prod.mk.inj (Option.some.inj ((documented.decode r' s').symm.trans decoded))
  exact Node.isStrictDerSignature_pair (by exact_mod_cast first) (by exact_mod_cast second)

end Cap.Trust
