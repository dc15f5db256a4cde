import NetworkedFS.Spec.AesRoundTrip
import NetworkedFS.Spec.TagDelimiter

/-!
# Strings that are no ciphertexts

`AESDecrypt` has an error for strings without a delimiter and one for strings that do not
authenticate.  It reports neither: the semicolon behind the call that sets key and vector lets
it report that error first, for every string, and the code of the error is not one that
`setReturnCode` takes.

## Key results

- `aesDecrypt_eq_error`: with entries for the address the process aborts, whatever the string
  is and whatever the calls give;
- `not_handlesString`: no string is rejected or accepted as it should be.
-/

namespace NetworkedFS

namespace EncryptionOffline

/-! ## The error that is always reported -/

/-- The errors from the third on have codes that may not be set. -/
theorem report_eq_error (s : EncryptionOffline) {error : EncryptionOfflineError}
    (h : 2 ≤ error.code) : s.report error = .error .assertion := by
  cases error with
  | cannotInitializeContext => exact absurd h (by decide)
  | cannotInitializeEncryption => exact absurd h (by decide)
  | _ => rfl

/-- What aborts after a call that succeeded also aborts after one that did not. -/
theorem reportUnless_bind_eq_error {α : Type} (s : EncryptionOffline) (ok : Bool)
    {error : EncryptionOfflineError} (h : 2 ≤ error.code)
    {rest : EncryptionOffline → Except Fault α} (hrest : rest s = .error .assertion) :
    s.reportUnless ok error >>= rest = .error .assertion := by
  cases ok with
  | true => exact hrest
  | false =>
    show s.report error >>= rest = .error .assertion
    rw [report_eq_error s h]
    rfl

/-- A context for decryption is never ready. -/
theorem decryptContext_eq_error {evp : Evp} {ctx : evp.Context} (hctx : evp.ctxNew = some ctx)
    (s : EncryptionOffline) {key iv keyBytes ivBytes : List UInt8}
    (hkey : loadString key encryptionOffline256Bit = .ok keyBytes)
    (hiv : loadString iv encryptionOffline128Bit = .ok ivBytes) :
    s.decryptContext evp key iv = .error .assertion := by
  refine Except.bind_eq_error_iff.mpr (.inr ⟨s, by rw [hctx]; rfl, ?_⟩)
  rw [hctx]
  -- the calls before may fail, and then the process aborts there
  refine reportUnless_bind_eq_error s _ (by decide) ?_
  refine reportUnless_bind_eq_error s _ (by decide) ?_
  refine Except.bind_eq_error_iff.mpr (.inr ⟨keyBytes, hkey, ?_⟩)
  refine Except.bind_eq_error_iff.mpr (.inr ⟨ivBytes, hiv, ?_⟩)
  exact Except.bind_eq_error_iff.mpr (.inl (report_eq_error s (by decide)))

/-- `AESDecrypt` aborts on every string for an address with usable entries. -/
theorem aesDecrypt_eq_error {evp : Evp} (hctx : evp.ctxNew.isSome = true) {s : EncryptionOffline}
    {address : String} {secret key iv keyBytes ivBytes : List UInt8}
    (hentries : s.addressEntries address = .ok (secret, key, iv))
    (hkey : loadString key encryptionOffline256Bit = .ok keyBytes)
    (hiv : loadString iv encryptionOffline128Bit = .ok ivBytes)
    (ciphertext : CharPointer) (n : Nat) :
    s.aesDecrypt evp ciphertext n address = .error .assertion := by
  obtain ⟨ctx, hctx⟩ := Option.isSome_iff_exists.mp hctx
  refine Except.bind_eq_error_iff.mpr (.inr ⟨_, hentries, ?_⟩)
  exact Except.bind_eq_error_iff.mpr (.inl (decryptContext_eq_error hctx s hkey hiv))

/-! ## What should happen to a string -/

/-- The string is a ciphertext with the delimiter and a tag, and it authenticates with the
    entries of the address. -/
def Authenticates (evp : Evp) (s : EncryptionOffline) (address : String) (text : List UInt8) :
    Prop :=
  ∃ secret key iv keyBytes ivBytes ciphertext tag plaintext,
    s.addressEntries address = .ok (secret, key, iv) ∧
    loadString key encryptionOffline256Bit = .ok keyBytes ∧
    loadString iv encryptionOffline128Bit = .ok ivBytes ∧
    text = sealedBytes ciphertext tag ∧
    evp.decryptAll keyBytes ivBytes secret ciphertext tag.val = some plaintext

/-- No byte can be read through the pointer. -/
def ReleasesNothing (plaintext : CharPointer) : Prop := ∀ byte, plaintext.load 1 ≠ .ok [byte]

/-- `AESDecrypt` returns: without an error for a string that authenticates, and without a byte
    and with an error of its own for any other. -/
def HandlesString (evp : Evp) (s : EncryptionOffline) (address : String) (text : List UInt8) :
    Prop :=
  ∃ plaintext n s',
    s.aesDecrypt evp (.ofBytes text) text.length address = .ok (plaintext, n, s') ∧
    (Authenticates evp s address text → s'.status = s.status) ∧
    (¬ Authenticates evp s address text →
      ReleasesNothing plaintext ∧ n = 0 ∧
        (s'.status.returnCode = some EncryptionOfflineError.cannotVerifyDecryption.code ∨
          s'.status.returnCode = some EncryptionOfflineError.improperCiphertextFormat.code))

/-- No string is handled so, for any address and whatever the interface does. -/
theorem not_handlesString (evp : Evp) (s : EncryptionOffline) (address : String)
    (text : List UInt8) : ¬ s.HandlesString evp address text := by
  intro h
  obtain ⟨plaintext, n, s', hdecrypt, -⟩ := h
  exact aesDecrypt_ne_ok evp s _ _ address _ hdecrypt

/-- With the default entries the empty string, which has no delimiter, is not rejected. -/
theorem empty_string_not_rejected :
    ¬ ∀ (evp : Evp) (s : EncryptionOffline) (address : String) (text : List UInt8),
      (∃ entries, s.addressEntries address = .ok entries) → s.HandlesString evp address text := by
  intro hall
  obtain ⟨_, _, _, hdecrypt, -⟩ := hall .plain (defaultTables [115]) encryptionStartupAddress []
    ⟨_, addressEntries_defaultTables [115]⟩
  exact aesDecrypt_ne_ok _ _ _ _ _ _ hdecrypt

end EncryptionOffline

end NetworkedFS
