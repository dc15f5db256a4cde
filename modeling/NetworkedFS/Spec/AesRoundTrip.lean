import NetworkedFS.ForStd.Except
import NetworkedFS.Native.EncryptionOffline

/-!
# Encrypting and decrypting again

`AESEncrypt` never allocates its result: the plaintext goes into the cipher as additional
data, and the tag is to be written through a pointer that has no value.  In `AESDecrypt` a
semicolon ends the `if` that checks the key and the vector, so the error is always reported,
and its code lies outside of the range that `setReturnCode` asserts.

## Key results

- `aesEncrypt_ne_ok`, `aesDecrypt_ne_ok`: neither function returns, whatever the interface
  does;
- `not_roundTrips`: no plaintext comes back.
-/

namespace NetworkedFS

namespace EncryptionOffline

/-! ## The two functions -/

/-- The tag cannot be stored. -/
theorem appendTag_ne_ok (evp : Evp) (s : EncryptionOffline) (ctx : evp.Context)
    (ciphertext : CharPointer) (n : Nat) (r : CharPointer × Nat × EncryptionOffline) :
    s.appendTag evp ctx ciphertext n ≠ .ok r := by
  intro h
  cases h

/-- `AESEncrypt` does not return: it gets to the tag or fails before. -/
theorem aesEncrypt_ne_ok (evp : Evp) (s : EncryptionOffline) (plaintext : CharPointer)
    (n : Nat) (address : String) (r : CharPointer × Nat × EncryptionOffline) :
    s.aesEncrypt evp plaintext n address ≠ .ok r := by
  intro h
  -- every part before the tag has to return for the tag to be asked for
  obtain ⟨entries, -, h⟩ := Except.bind_eq_ok_iff.mp h
  obtain ⟨context, -, h⟩ := Except.bind_eq_ok_iff.mp h
  obtain ⟨phrase, -, h⟩ := Except.bind_eq_ok_iff.mp h
  obtain ⟨payload, -, h⟩ := Except.bind_eq_ok_iff.mp h
  obtain ⟨out, -, h⟩ := Except.bind_eq_ok_iff.mp h
  obtain ⟨finalized, -, h⟩ := Except.bind_eq_ok_iff.mp h
  exact appendTag_ne_ok _ _ _ _ _ _ h

/-- The error of the key and the vector is always reported, and fails the assertion. -/
theorem decryptContext_ne_ok (evp : Evp) (s : EncryptionOffline) (key iv : List UInt8)
    (r : evp.Context × EncryptionOffline) : s.decryptContext evp key iv ≠ .ok r := by
  intro h
  obtain ⟨s₁, -, h⟩ := Except.bind_eq_ok_iff.mp h
  cases hctx : evp.ctxNew with
  | none =>
    rw [hctx] at h
    cases h
  | some ctx =>
    rw [hctx] at h
    obtain ⟨s₂, -, h⟩ := Except.bind_eq_ok_iff.mp h
    obtain ⟨s₃, -, h⟩ := Except.bind_eq_ok_iff.mp h
    obtain ⟨keyBytes, -, h⟩ := Except.bind_eq_ok_iff.mp h
    obtain ⟨ivBytes, -, h⟩ := Except.bind_eq_ok_iff.mp h
    -- what is left is the report and the result
    cases h

/-- `AESDecrypt` does not return. -/
theorem aesDecrypt_ne_ok (evp : Evp) (s : EncryptionOffline) (ciphertext : CharPointer)
    (n : Nat) (address : String) (r : CharPointer × Nat × EncryptionOffline) :
    s.aesDecrypt evp ciphertext n address ≠ .ok r := by
  intro h
  obtain ⟨entries, -, h⟩ := Except.bind_eq_ok_iff.mp h
  obtain ⟨context, hctx, -⟩ := Except.bind_eq_ok_iff.mp h
  exact decryptContext_ne_ok _ _ _ _ _ hctx

/-! ## The round trip -/

/-- Encrypting `plaintext` and decrypting the result gives it back, and no error is
    recorded. -/
def RoundTrips (evp : Evp) (s : EncryptionOffline) (address : String) (plaintext : List UInt8) :
    Prop :=
  ∃ ciphertext n s₁ recovered s₂,
    s.aesEncrypt evp (.ofBytes plaintext) plaintext.length address = .ok (ciphertext, n, s₁) ∧
    s₁.aesDecrypt evp ciphertext n address = .ok (recovered, plaintext.length, s₂) ∧
    recovered.load plaintext.length = .ok plaintext ∧ s₂.status = s.status

/-- No plaintext makes the round trip, for any address and whatever the interface does. -/
theorem not_roundTrips (evp : Evp) (s : EncryptionOffline) (address : String)
    (plaintext : List UInt8) : ¬ s.RoundTrips evp address plaintext := by
  rintro ⟨ciphertext, n, s₁, recovered, s₂, hencrypt, -⟩
  exact aesEncrypt_ne_ok evp s _ _ address _ hencrypt

end EncryptionOffline

/-! ## The interface used as documented -/

namespace Evp

/-- The calls that encrypt, in the documented order: ciphertext and tag. -/
def encryptAll (evp : Evp) (key iv aad plaintext : List UInt8) :
    Option (List UInt8 × List UInt8) := do
  let ctx ← evp.ctxNew
  let (1, ctx) := evp.encryptInit ctx | none
  let (1, ctx) := evp.setIvLength ctx iv.length | none
  let (1, ctx) := evp.encryptKeyIv ctx key iv | none
  let absorb := evp.encryptUpdate ctx false aad
  let update := evp.encryptUpdate absorb.context true plaintext
  let (1, rest, ctx) := evp.encryptFinal update.context | none
  let (1, tag) := evp.getTag ctx encryptionOffline128Bit | none
  return (update.output ++ rest, tag)

/-- The calls that decrypt, in the documented order. -/
def decryptAll (evp : Evp) (key iv aad ciphertext tag : List UInt8) : Option (List UInt8) := do
  let ctx ← evp.ctxNew
  let (1, ctx) := evp.decryptInit ctx | none
  let (1, ctx) := evp.setIvLength ctx iv.length | none
  let (1, ctx) := evp.decryptKeyIv ctx key iv | none
  let absorb := evp.decryptUpdate ctx false aad
  let update := evp.decryptUpdate absorb.context true ciphertext
  let (1, ctx) := evp.setTag update.context tag | none
  let (1, rest, _) := evp.decryptFinal ctx | none
  return update.output ++ rest

/-- The interface is a correct authenticated cipher, and an update without an output buffer
    writes nothing. -/
structure Correct (evp : Evp) : Prop where
  roundTrip : ∀ key iv aad plaintext, key.length = encryptionOffline256Bit →
    iv.length = encryptionOffline128Bit →
    ((evp.encryptAll key iv aad plaintext).bind fun sealed =>
      evp.decryptAll key iv aad sealed.1 sealed.2) = some plaintext
  absorbEncrypt : ∀ ctx data, (evp.encryptUpdate ctx false data).output = []
  absorbDecrypt : ∀ ctx data, (evp.decryptUpdate ctx false data).output = []

/-- An interface to the cipher that leaves its data as they are, with an empty tag. -/
def plain : Evp where
  Context := Unit
  ctxNew := some ()
  encryptInit _ := (1, ())
  decryptInit _ := (1, ())
  setIvLength _ _ := (1, ())
  encryptKeyIv _ _ _ := (1, ())
  decryptKeyIv _ _ _ := (1, ())
  encryptUpdate _ hasOutput data := ⟨1, if hasOutput then data else [], data.length, ()⟩
  decryptUpdate _ hasOutput data := ⟨1, if hasOutput then data else [], data.length, ()⟩
  encryptFinal _ := (1, [], ())
  decryptFinal _ := (1, [], ())
  getTag _ n := (1, List.replicate n 0)
  setTag _ _ := (1, ())

/-- That interface is correct. -/
theorem correct_plain : plain.Correct where
  roundTrip key iv aad plaintext _ _ := by
    show some ((plaintext ++ []) ++ []) = some plaintext
    rw [List.append_nil, List.append_nil]
  absorbEncrypt _ _ := rfl
  absorbDecrypt _ _ := rfl

end Evp

namespace EncryptionOffline

/-! ## The default entries -/

/-- Fresh tables after `setDefault(secret)`. -/
def defaultTables (secret : List UInt8) : EncryptionOffline where
  secrets := UMap.emplace ∅ encryptionStartupAddress secret
  keys := UMap.emplace ∅ encryptionStartupAddress encryptionStartupKey
  ivs := UMap.emplace ∅ encryptionStartupAddress encryptionStartupIv

theorem setDefault_fresh {secret : List UInt8} (h : secret ≠ []) :
    setDefault {} secret = .ok (defaultTables secret) := by
  have hasserts : ¬ (encryptionStartupAddress = "" ∨ secret = []) := by
    intro hfails
    cases hfails with
    | inl haddress => exact absurd haddress (by decide)
    | inr hsecret => exact h hsecret
  simp only [setDefault, addAddressSecret, if_neg hasserts]
  rfl

/-- The startup address then has the secret and the startup key. -/
theorem addressEntries_defaultTables (secret : List UInt8) :
    (defaultTables secret).addressEntries encryptionStartupAddress =
      .ok (secret, encryptionStartupKey, encryptionStartupIv) := rfl

/-- With the default entries set, the empty plaintext does not make the round trip. -/
theorem default_not_roundTrips :
    ¬ ∀ (evp : Evp) (s : EncryptionOffline) (address : String) (plaintext : List UInt8),
      evp.Correct → (∃ entries, s.addressEntries address = .ok entries) →
      s.RoundTrips evp address plaintext := by
  intro hall
  obtain ⟨_, _, _, _, _, hencrypt, -⟩ := hall .plain (defaultTables [115])
    encryptionStartupAddress [] Evp.correct_plain ⟨_, addressEntries_defaultTables [115]⟩
  exact aesEncrypt_ne_ok _ _ _ _ _ _ hencrypt

end EncryptionOffline

end NetworkedFS
