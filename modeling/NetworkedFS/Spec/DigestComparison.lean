import NetworkedFS.ForStd.Except
import NetworkedFS.Native.Digest

/-!
# Comparing digests

`compareSHA` compares the 64 bytes of two digests with `strncmp`, which stops at a null
character that both have: what is behind it is not looked at.

## Key results

- `comparesDigest_iff`: the answer is right exactly when the text is the digest or differs
  from it as a string.
-/

namespace NetworkedFS

namespace EncryptionOffline

/-- The digest gets into the result as it is. -/
theorem getSHA_ofBytes {sha512 : List UInt8 → Option Digest} (s : EncryptionOffline)
    {message : List UInt8} {digest : Digest} (h : sha512 message = some digest) :
    s.getSHA sha512 (.ofBytes message) message.length = .ok (.ofBytes digest.bytes, s) := by
  have hstore : (CharPointer.pointsTo (List.replicate encryptionOffline512Bit none)).store
      digest.bytes = .ok (.ofBytes digest.bytes) := by
    simp [CharPointer.store, CharPointer.ofBytes, digest.length_bytes]
  refine Except.bind_eq_ok_iff.mpr ⟨message, CharPointer.load_ofBytes message, ?_⟩
  simp only [h]
  exact Except.bind_eq_ok_iff.mpr ⟨_, hstore, rfl⟩

/-- What `compareSHA` gives for a text of the length of a digest. -/
theorem compareSHA_ofBytes (sha512 : List UInt8 → Option Digest) (s : EncryptionOffline)
    (message : List UInt8) {digest : Digest} (h : sha512 message = some digest) (text : Digest)
    (shaSize : Int) :
    s.compareSHA sha512 (.ofBytes message) message.length (.ofBytes text.bytes) shaSize =
      .ok (decide (stringOf text.bytes = stringOf digest.bytes), s) := by
  obtain ⟨difference, hstrncmp, hzero⟩ := CString.strncmp_of_length_eq
    (text.length_bytes.trans digest.length_bytes.symm)
  rw [text.length_bytes] at hstrncmp
  have hcompare : (CharPointer.ofBytes text.bytes).strncmp (.ofBytes digest.bytes)
      encryptionOffline512Bit = .ok difference := by
    simp only [CharPointer.strncmp, CharPointer.ofBytes, hstrncmp]
  have hdecide : decide (difference = 0) =
      decide (stringOf text.bytes = stringOf digest.bytes) := decide_eq_decide.mpr hzero
  refine Except.bind_eq_ok_iff.mpr ⟨_, getSHA_ofBytes s h, ?_⟩
  refine Except.bind_eq_ok_iff.mpr ⟨difference, hcompare, ?_⟩
  rw [hdecide]
  rfl

/-- The call says whether all bytes of `text` are those of the digest of `message`. -/
def ComparesDigest (sha512 : List UInt8 → Digest) (s : EncryptionOffline)
    (message : List UInt8) (text : Digest) (shaSize : Int) : Prop :=
  ∃ answer s', s.compareSHA (fun payload => some (sha512 payload)) (.ofBytes message)
      message.length (.ofBytes text.bytes) shaSize = .ok (answer, s') ∧
    (answer = true ↔ text.bytes = (sha512 message).bytes)

/-- The answer is right exactly when the text is the digest, or another string. -/
theorem comparesDigest_iff (sha512 : List UInt8 → Digest) (s : EncryptionOffline)
    (message : List UInt8) (text : Digest) (shaSize : Int) :
    s.ComparesDigest sha512 message text shaSize ↔
      text.bytes = (sha512 message).bytes ∨
        stringOf text.bytes ≠ stringOf (sha512 message).bytes := by
  have hcompare := compareSHA_ofBytes (fun payload => some (sha512 payload)) s message rfl text
    shaSize
  constructor
  · intro h
    obtain ⟨answer, s', hanswer, hright⟩ := h
    rw [hcompare, Except.ok.injEq, Prod.mk.injEq] at hanswer
    rw [← hanswer.1, decide_eq_true_eq] at hright
    by_cases hstring : stringOf text.bytes = stringOf (sha512 message).bytes
    · exact .inl (hright.mp hstring)
    · exact .inr hstring
  · intro hcondition
    refine ⟨_, s, hcompare, ?_⟩
    rw [decide_eq_true_eq]
    cases hcondition with
    | inl heq => simp [heq]
    | inr hne => exact iff_of_false hne fun heq => hne (congrArg stringOf heq)

/-- When the digest is all null characters, a text that starts with one and goes on with other
    bytes is taken for it. -/
theorem null_hides_difference :
    ¬ ∀ (sha512 : List UInt8 → Digest) (s : EncryptionOffline) (message : List UInt8)
      (text : Digest) (shaSize : Int), s.ComparesDigest sha512 message text shaSize := by
  intro hall
  obtain ⟨answer, s', hcompare, hright⟩ := hall (fun _ => ⟨List.replicate 64 0, rfl⟩) {} []
    ⟨0 :: List.replicate 63 1, rfl⟩ 64
  have hanswer : answer = true := by
    cases hcompare
    rfl
  exact absurd (hright.mp hanswer) (by decide)

end EncryptionOffline

end NetworkedFS
