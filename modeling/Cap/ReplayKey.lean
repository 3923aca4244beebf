import Cap.Records
import Cap.ReplayStore

/-!
The key of the Go replay store (`replayTupleKey`): the parts of the tuple one after the other, each
behind its length in four bytes. A length is read before the bytes that it counts, so that no part
can pass for a boundary.
-/
namespace Cap.ReplayStore
open Cap.Text

theorem bigEndian32_inj {n m : Nat} (smallN : n < 2 ^ 32) (smallM : m < 2 ^ 32) (same : bigEndian32 n = bigEndian32 m) :
    n = m := by
  simp only [bigEndian32,List.cons.injEq,← UInt8.toNat_inj,UInt8.toNat_ofNat'] at same
  omega

/-- A part is read off the front, whatever comes after it. -/
theorem frame_append_inj {part other rest rest' : Bytes} (short : part.length < 2 ^ 32) (short' : other.length < 2 ^ 32)
    (same : bigEndian32 part.length ++ part ++ rest = bigEndian32 other.length ++ other ++ rest') :
    part = other ∧ rest = rest' := by
  rw [List.append_assoc,List.append_assoc] at same
  obtain ⟨lengths,bytes⟩ := List.append_inj same rfl
  exact List.append_inj bytes (bigEndian32_inj short short' lengths)

theorem replayTupleKey_inj {parts others : List Bytes} (short : ∀ part ∈ parts, part.length < 2 ^ 32)
    (short' : ∀ part ∈ others, part.length < 2 ^ 32) (same : replayTupleKey parts = replayTupleKey others) :
    parts = others := by
  induction parts generalizing others with
  | nil =>
    cases others with
    | nil => rfl
    | cons other others => simp [replayTupleKey,bigEndian32] at same
  | cons part parts ih =>
    cases others with
    | nil => simp [replayTupleKey,bigEndian32] at same
    | cons other others =>
      obtain ⟨rfl,later⟩ := frame_append_inj (short part List.mem_cons_self) (short' other List.mem_cons_self) same
      rw [ih (fun p member => short p (List.mem_cons_of_mem _ member))
        (fun p member => short' p (List.mem_cons_of_mem _ member)) later]

/-- The calls are about the same message. -/
def AdmitCall.SameTuple (a b : AdmitCall) : Prop :=
  a.tenant = b.tenant ∧ a.audience = b.audience ∧ a.sender = b.sender ∧ a.messageID = b.messageID

/-- The parts of the key fit their lengths. -/
def AdmitCall.Short (call : AdmitCall) : Prop :=
  ∀ part ∈ [utf8 call.tenant,utf8 call.audience,utf8 call.sender,call.messageID], part.length < 2 ^ 32

theorem goStore_key_inj {a b : AdmitCall} (shortA : a.Short) (shortB : b.Short) :
    goStore.key a = goStore.key b ↔ a.SameTuple b := by
  constructor
  · intro same
    have parts := replayTupleKey_inj shortA shortB same
    simp only [List.cons.injEq,and_true] at parts
    obtain ⟨tenant,audience,sender,messageID⟩ := parts
    exact ⟨Records.utf8_inj tenant,Records.utf8_inj audience,Records.utf8_inj sender,messageID⟩
  · rintro ⟨tenant,audience,sender,messageID⟩
    simp [goStore,tenant,audience,sender,messageID]

/-- The key determines the list of its parts; the entry that a call inserts is found by the calls about the same tuple and
    by no others. -/
theorem replay_key_identifies :
    (∀ parts others : List Bytes, (∀ part ∈ parts, part.length < 2 ^ 32) → (∀ part ∈ others, part.length < 2 ^ 32) →
      (replayTupleKey parts = replayTupleKey others ↔ parts = others)) ∧
    ∀ (entries : Entries Bytes) (a b : AdmitCall), a.Short → b.Short →
      (goStore.key a = goStore.key b ↔ a.SameTuple b) ∧
      (a.SameTuple b → goStore.insert entries a (goStore.key b) = some ⟨a.digest,a.expires⟩) ∧
      (¬ a.SameTuple b → goStore.insert entries a (goStore.key b) = entries (goStore.key b)) := by
  refine ⟨?_,?_⟩
  · intro parts others short short'
    exact ⟨replayTupleKey_inj short short',fun same => by rw [same]⟩
  · intro entries a b shortA shortB
    have keys := goStore_key_inj shortA shortB
    refine ⟨keys,fun same => ?_,fun apart => ?_⟩
    · rw [Impl.insert,keys.mpr same,Function.update_self]
    · rw [Impl.insert,Function.update_of_ne fun found => apart (keys.mp found.symm)]

namespace Samples

def sampleCall : AdmitCall := ⟨"tenant","job.a","worker",List.replicate 16 7,[1],100⟩

/-- The boundary between tenant and audience moved by one character. -/
def shiftedCall : AdmitCall := { sampleCall with tenant := "tenantj",audience := "ob.a" }

theorem shifted_call_apart : goStore.key sampleCall ≠ goStore.key shiftedCall ∧
    replayTupleKey [[0,0,0,1],[7]] ≠ replayTupleKey [[0,0,0,1,7]] := by
  have shortA : sampleCall.Short := by
    show ∀ part ∈ _, _
    decide +kernel
  have shortB : shiftedCall.Short := by
    show ∀ part ∈ _, _
    decide +kernel
  obtain ⟨lists,calls⟩ := replay_key_identifies
  constructor
  · intro same
    have tuple := (calls (fun _ => none) _ _ shortA shortB).1.mp same
    exact absurd tuple.1 (by decide)
  · intro same
    exact absurd ((lists _ _ (by decide) (by decide)).mp same) (by decide)

end Samples

end Cap.ReplayStore
