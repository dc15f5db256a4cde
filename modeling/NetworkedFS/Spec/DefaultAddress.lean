import NetworkedFS.Spec.AesRejection

/-!
# The startup address

`AESEncryptDefault` calls `AESDecrypt` and `AESDecryptDefault` calls `AESEncrypt`, each with
the startup address.

## Key results

- `aesEncryptDefault_eq_error`, `aesEncrypt_eq_error`: where every call of the interface
  succeeds, the wrapper fails an assertion on each payload and the function it is to stand for
  uses a pointer without a value;
- `not_defaultsWork`: no payload makes the round trip through the wrappers.
-/

namespace NetworkedFS

/-- Every call that encrypts succeeds. -/
structure Evp.Encrypts (evp : Evp) : Prop where
  ctxNew : evp.ctxNew.isSome = true
  encryptInit : ∀ ctx, (evp.encryptInit ctx).1 = 1
  setIvLength : ∀ ctx n, (evp.setIvLength ctx n).1 = 1
  encryptKeyIv : ∀ ctx key iv, (evp.encryptKeyIv ctx key iv).1 = 1
  encryptUpdate : ∀ ctx hasOutput data, (evp.encryptUpdate ctx hasOutput data).status = 1
  encryptFinal : ∀ ctx, (evp.encryptFinal ctx).1 = 1

namespace EncryptionOffline

/-! ## Where the two functions end -/

theorem reportUnless_of_eq (s : EncryptionOffline) {status : Int} (h : status = 1)
    (error : EncryptionOfflineError) : s.reportUnless (status = 1) error = .ok s := by
  rw [reportUnless, if_pos (decide_eq_true h)]

/-- A context for encryption is set up. -/
theorem encryptContext_eq_ok {evp : Evp} (h : evp.Encrypts) (s : EncryptionOffline)
    {key iv keyBytes ivBytes : List UInt8}
    (hkey : loadString key encryptionOffline256Bit = .ok keyBytes)
    (hiv : loadString iv encryptionOffline128Bit = .ok ivBytes) :
    ∃ ctx, s.encryptContext evp key iv = .ok (ctx, s) := by
  obtain ⟨ctx, hctx⟩ := Option.isSome_iff_exists.mp h.ctxNew
  let sized := (evp.setIvLength (evp.encryptInit ctx).2 encryptionOffline128Bit).2
  refine ⟨(evp.encryptKeyIv sized keyBytes ivBytes).2, ?_⟩
  refine Except.bind_eq_ok_iff.mpr ⟨s, by rw [hctx]; rfl, ?_⟩
  rw [hctx]
  refine Except.bind_eq_ok_iff.mpr ⟨s, s.reportUnless_of_eq (h.encryptInit _) _, ?_⟩
  refine Except.bind_eq_ok_iff.mpr ⟨s, s.reportUnless_of_eq (h.setIvLength _ _) _, ?_⟩
  refine Except.bind_eq_ok_iff.mpr ⟨keyBytes, hkey, ?_⟩
  refine Except.bind_eq_ok_iff.mpr ⟨ivBytes, hiv, ?_⟩
  exact Except.bind_eq_ok_iff.mpr ⟨s, s.reportUnless_of_eq (h.encryptKeyIv _ _ _) _, rfl⟩

/-- An update that succeeds is accepted. -/
theorem accept_eq_ok {evp : Evp} (h : evp.Encrypts) (s : EncryptionOffline) (ctx : evp.Context)
    (hasOutput : Bool) (data : List UInt8) (error : EncryptionOfflineError) :
    s.accept (evp.encryptUpdate ctx hasOutput data)
        ((evp.encryptUpdate ctx hasOutput data).status = 1) error =
      .ok ((evp.encryptUpdate ctx hasOutput data).context,
        (evp.encryptUpdate ctx hasOutput data).length, s) :=
  Except.bind_eq_ok_iff.mpr ⟨s, s.reportUnless_of_eq (h.encryptUpdate _ _ _) _, rfl⟩

/-- `AESEncrypt` uses a null pointer or one without a value, at the latest for the tag. -/
theorem aesEncrypt_eq_error {evp : Evp} (h : evp.Encrypts) {s : EncryptionOffline}
    {address : String} {secret key iv keyBytes ivBytes : List UInt8}
    (hentries : s.addressEntries address = .ok (secret, key, iv))
    (hkey : loadString key encryptionOffline256Bit = .ok keyBytes)
    (hiv : loadString iv encryptionOffline128Bit = .ok ivBytes) (haddress : address ≠ "")
    (payload : List UInt8) :
    s.aesEncrypt evp (.ofBytes payload) payload.length address = .error .undefined := by
  obtain ⟨ctx, hctx⟩ := encryptContext_eq_ok h s hkey hiv
  refine Except.bind_eq_error_iff.mpr (.inr ⟨_, hentries, ?_⟩)
  refine Except.bind_eq_error_iff.mpr (.inr ⟨_, hctx, ?_⟩)
  have hphrase : s.encryptPhrase evp ctx address secret = .ok _ :=
    (if_pos haddress).trans (accept_eq_ok h s ctx false secret _)
  refine Except.bind_eq_error_iff.mpr (.inr ⟨_, hphrase, ?_⟩)
  have hpayload (ctx : evp.Context) (n : Nat) :
      s.encryptPayload evp ctx (.ofBytes payload) payload.length n = .ok _ :=
    Except.bind_eq_ok_iff.mpr ⟨false, rfl,
      Except.bind_eq_ok_iff.mpr ⟨payload, CharPointer.load_ofBytes payload,
        Except.bind_eq_ok_iff.mpr ⟨_, accept_eq_ok h s ctx false payload _, rfl⟩⟩⟩
  refine Except.bind_eq_error_iff.mpr (.inr ⟨_, hpayload _ _, ?_⟩)
  -- nothing but 0 can be added to the null pointer for the ciphertext
  let update := evp.encryptUpdate (evp.encryptUpdate ctx false secret).context false payload
  by_cases hlength : update.length = 0
  · refine Except.bind_eq_error_iff.mpr (.inr ⟨.null, if_pos hlength, ?_⟩)
    exact Except.bind_eq_error_iff.mpr
      (.inr ⟨s, s.reportUnless_of_eq (h.encryptFinal _) _, rfl⟩)
  · exact Except.bind_eq_error_iff.mpr (.inl (if_neg hlength))

/-- `AESEncryptDefault` aborts instead, as `AESDecrypt` does. -/
theorem aesEncryptDefault_eq_error {evp : Evp} (h : evp.Encrypts) {s : EncryptionOffline}
    {secret key iv keyBytes ivBytes : List UInt8}
    (hentries : s.addressEntries encryptionStartupAddress = .ok (secret, key, iv))
    (hkey : loadString key encryptionOffline256Bit = .ok keyBytes)
    (hiv : loadString iv encryptionOffline128Bit = .ok ivBytes) (payload : List UInt8) :
    s.aesEncryptDefault evp (.ofBytes payload) payload.length = .error .assertion :=
  aesDecrypt_eq_error h.ctxNew hentries hkey hiv _ _

/-! ## What the wrappers should do -/

/-- The wrappers do what the two functions do for the startup address, and with a correct
    cipher the payload makes the round trip through them. -/
structure DefaultsWork (evp : Evp) (s : EncryptionOffline) (payload : List UInt8) : Prop where
  encryptDefault : s.aesEncryptDefault evp (.ofBytes payload) payload.length =
    s.aesEncrypt evp (.ofBytes payload) payload.length encryptionStartupAddress
  decryptDefault : s.aesDecryptDefault evp (.ofBytes payload) payload.length =
    s.aesDecrypt evp (.ofBytes payload) payload.length encryptionStartupAddress
  roundTrip : evp.Correct → ∃ ciphertext n s₁ recovered s₂,
    s.aesEncryptDefault evp (.ofBytes payload) payload.length = .ok (ciphertext, n, s₁) ∧
    s₁.aesDecryptDefault evp ciphertext n = .ok (recovered, payload.length, s₂) ∧
    recovered.load payload.length = .ok payload

/-- With a correct cipher no payload comes back, whatever the tables hold. -/
theorem not_defaultsWork {evp : Evp} (hcorrect : evp.Correct) (s : EncryptionOffline)
    (payload : List UInt8) : ¬ s.DefaultsWork evp payload := by
  intro h
  obtain ⟨ciphertext, n, s₁, recovered, s₂, hencrypt, -⟩ := h.roundTrip hcorrect
  exact aesDecrypt_ne_ok evp s _ _ _ _ hencrypt

/-- The cipher that leaves its data as they are, with the default entries and no payload. -/
theorem not_defaultsWork_plain : ¬ (defaultTables [115]).DefaultsWork .plain [] :=
  not_defaultsWork Evp.correct_plain (defaultTables [115]) []

/-- There the wrapper aborts, and the function that it should call does not. -/
theorem wrapper_aborts :
    ¬ ∀ (evp : Evp) (s₀ s : EncryptionOffline) (secret payload : List UInt8),
      s₀.setDefault secret = .ok s → s.DefaultsWork evp payload := by
  intro hall
  have hwork := hall .plain {} (defaultTables [115]) [115] [] (setDefault_fresh (by decide))
  have hencrypts : Evp.plain.Encrypts := by constructor <;> intros <;> rfl
  have hentries := addressEntries_defaultTables [115]
  have hsame := hwork.encryptDefault
  rw [aesEncryptDefault_eq_error hencrypts hentries rfl rfl,
    aesEncrypt_eq_error hencrypts hentries rfl rfl (by decide)] at hsame
  cases hsame

end EncryptionOffline

end NetworkedFS
