import NetworkedFS.Spec.RsaLifecycle

/-!
# Erasing the private key

`flushDecryptedPrivateKey` copies as many bytes as a key has out of a variable of one byte, and
then asserts that a public key is loaded, which it never is.  So it does not return, and the
key stays where it is.

## Key results

- `Unloaded.flushDecryptedPrivateKey_eq`: how the call ends, for every length;
- `sameButKey_runWith`: two runs with keys of one length end in objects that differ in the key
  buffer only;
- `not_erasesKey`: no run gets rid of its key.
-/

namespace NetworkedFS

open CString (Cell)

namespace EncryptionNetworked

variable {Key : Type}

/-! ## Copying a key -/

/-- A key of the object's length can be copied out of `n` bytes. -/
def CopyFits (rsaLength : Int16) (n : Nat) : Prop :=
  0 ≤ rsaLength.toInt ∧ rsaLength.toInt ≤ n ∧
    rsaLength.toInt ≤ encryptionNetworkedRSAStockLength

instance (rsaLength : Int16) (n : Nat) : Decidable (CopyFits rsaLength n) :=
  inferInstanceAs (Decidable (_ ∧ _))

theorem not_neg_iff (rsaLength : Int16) : ¬ rsaLength < 0 ↔ 0 ≤ rsaLength.toInt := by
  rw [Int16.lt_iff_toInt_lt]
  exact not_lt

theorem copyKey_of_fits {s : EncryptionNetworked Key} {cells : List Cell}
    (h : CopyFits s.rsaLength cells.length)
    (buffer : Memory encryptionNetworkedRSAStockLength) :
    ∃ buffer', s.copyKey buffer (.pointsTo cells) = .ok buffer' := by
  obtain ⟨hsign, hcells, hstock⟩ := h
  have hstore : (cells.take s.rsaLength.toInt.toNat).length ≤
      encryptionNetworkedRSAStockLength := by
    rw [List.length_take]
    omega
  have hstored : ∃ buffer', buffer.store (cells.take s.rsaLength.toInt.toNat) = .ok buffer' :=
    ⟨_, dif_pos hstore⟩
  obtain ⟨buffer', hbuffer'⟩ := hstored
  refine ⟨buffer', (if_neg ((not_neg_iff _).mpr hsign)).trans ?_⟩
  exact Except.bind_eq_ok_iff.mpr ⟨_, if_pos (by omega), hbuffer'⟩

theorem copyKey_of_not_fits {s : EncryptionNetworked Key} {cells : List Cell}
    (h : ¬ CopyFits s.rsaLength cells.length)
    (buffer : Memory encryptionNetworkedRSAStockLength) :
    s.copyKey buffer (.pointsTo cells) = .error .undefined := by
  by_cases hsign : s.rsaLength < 0
  · exact if_pos hsign
  · refine (if_neg hsign).trans (Except.bind_eq_error_iff.mpr ?_)
    have hnonneg := (not_neg_iff _).mp hsign
    by_cases hcells : s.rsaLength.toInt.toNat ≤ cells.length
    -- the source is long enough, so the buffer is not
    · have hstore : ¬ (cells.take s.rsaLength.toInt.toNat).length ≤
          encryptionNetworkedRSAStockLength := by
        rw [List.length_take]
        intro hle
        exact h ⟨hnonneg, by omega, by omega⟩
      exact .inr ⟨_, if_pos hcells, dif_neg hstore⟩
    · exact .inl (if_neg hcells)

/-! ## How a flush ends -/

/-- A variable of one byte holds keys of the lengths 0 and 1. -/
theorem copyFits_one_iff (rsaLength : Int16) :
    CopyFits rsaLength 1 ↔ rsaLength.toInt = 0 ∨ rsaLength.toInt = 1 := by
  simp only [CopyFits, encryptionNetworkedRSAStockLength]
  omega

/-- For such a length the assertion on the public key fails, and for any other one the flush
    reads behind its variable. -/
theorem Unloaded.flushDecryptedPrivateKey_eq {s : EncryptionNetworked Key} (hs : s.Unloaded) :
    s.flushDecryptedPrivateKey = .error
      (if s.rsaLength.toInt = 0 ∨ s.rsaLength.toInt = 1 then .assertion else .undefined) := by
  by_cases hfits : CopyFits s.rsaLength [some (0 : UInt8)].length
  · rw [if_pos ((copyFits_one_iff _).mp hfits)]
    obtain ⟨buffer, hcopy⟩ := copyKey_of_fits hfits s.localPrivateKey
    refine Except.bind_eq_error_iff.mpr (.inr ⟨buffer, hcopy, ?_⟩)
    refine Except.bind_eq_error_iff.mpr (.inl ?_)
    rw [cleanRSA, hs.remotePublicKeyLoaded]
    rfl
  · rw [if_neg fun h => hfits ((copyFits_one_iff _).mpr h)]
    exact Except.bind_eq_error_iff.mpr (.inl (copyKey_of_not_fits hfits s.localPrivateKey))

/-! ## Objects with different keys -/

/-- The two objects are the same but for the bytes of the private key. -/
def SameButKey (s t : EncryptionNetworked Key) : Prop :=
  ∃ localPrivateKey, t = { s with localPrivateKey }

theorem SameButKey.refl (s : EncryptionNetworked Key) : SameButKey s s := ⟨_, rfl⟩

/-- Whether a key can be copied is up to its length. -/
theorem SameButKey.copyKey {s t : EncryptionNetworked Key} (h : SameButKey s t)
    {xs ys : List Cell} (hlength : xs.length = ys.length)
    (bufferS bufferT : Memory encryptionNetworkedRSAStockLength) :
    Except.Agree (fun _ _ => True) (s.copyKey bufferS (.pointsTo xs))
      (t.copyKey bufferT (.pointsTo ys)) := by
  obtain ⟨localPrivateKey, rfl⟩ := h
  by_cases hfits : CopyFits s.rsaLength xs.length
  · have hfits' : CopyFits s.rsaLength ys.length := by rwa [← hlength]
    obtain ⟨buffer, hx⟩ := copyKey_of_fits hfits bufferS
    obtain ⟨buffer', hy⟩ := copyKey_of_fits
      (s := { s with localPrivateKey }) hfits' bufferT
    exact .inl ⟨buffer, buffer', hx, hy, trivial⟩
  · have hfits' : ¬ CopyFits s.rsaLength ys.length := by rwa [← hlength]
    exact .inr ⟨.undefined, copyKey_of_not_fits hfits bufferS,
      copyKey_of_not_fits (s := { s with localPrivateKey }) hfits' bufferT⟩

/-- The same pointer, or two pointers to as many bytes. -/
inductive SameLength : CharPointer → CharPointer → Prop where
  | same (p : CharPointer) : SameLength p p
  | bytes {xs ys : List Cell} (h : xs.length = ys.length) :
      SameLength (.pointsTo xs) (.pointsTo ys)

/-- Rearming with keys of one length makes no other difference. -/
theorem SameButKey.rearmPrivateKey {s t : EncryptionNetworked Key} (h : SameButKey s t)
    {p q : CharPointer} (hkeys : SameLength p q) :
    Except.Agree SameButKey (s.rearmPrivateKey p) (t.rearmPrivateKey q) := by
  have hbytes {xs ys : List Cell} (hlength : xs.length = ys.length) :
      Except.Agree SameButKey (s.rearmPrivateKey (.pointsTo xs))
        (t.rearmPrivateKey (.pointsTo ys)) := by
    refine (h.copyKey hlength s.localPrivateKey t.localPrivateKey).bind fun buffer buffer' _ => ?_
    obtain ⟨localPrivateKey, rfl⟩ := h
    exact .ok ⟨buffer', rfl⟩
  cases hkeys with
  | bytes hlength => exact hbytes hlength
  | same =>
    cases p with
    | pointsTo xs => exact hbytes rfl
    | indeterminate => exact .error _ _
    | null =>
      obtain ⟨localPrivateKey, rfl⟩ := h
      exact .ok ⟨localPrivateKey, rfl⟩

/-- The public key is copied all the same. -/
theorem SameButKey.loadPublicKeys {s t : EncryptionNetworked Key} (h : SameButKey s t)
    {p q : CharPointer} (hkeys : SameLength p q) (publicKey : CharPointer) :
    Except.Agree SameButKey (s.loadPublicKeys p publicKey) (t.loadPublicKeys q publicKey) := by
  refine (h.rearmPrivateKey hkeys).bind fun s t h => ?_
  obtain ⟨localPrivateKey, rfl⟩ := h
  cases publicKey with
  | null => exact .ok ⟨localPrivateKey, rfl⟩
  | indeterminate => exact .error _ _
  | pointsTo cells =>
    exact Except.Agree.bind_same (s.copyKey s.remotePublicKey (.pointsTo cells)) fun buffer =>
      .ok ⟨localPrivateKey, rfl⟩

/-- The handles are the same, and so is the flag that is asserted. -/
theorem SameButKey.cleanRSA {s t : EncryptionNetworked Key} (h : SameButKey s t)
    (privateOnly : Bool) :
    Except.Agree SameButKey (s.cleanRSA privateOnly) (t.cleanRSA privateOnly) := by
  obtain ⟨localPrivateKey, rfl⟩ := h
  by_cases hfails : (!s.remotePublicKeyLoaded) = true
  · exact .inr ⟨.assertion, if_pos hfails, if_pos hfails⟩
  · refine .inl ⟨_, _, if_neg hfails, if_neg hfails, localPrivateKey, ?_⟩
    cases privateOnly with
    | true => rfl
    | false => rfl

/-- A flush copies the same byte into both. -/
theorem SameButKey.flushDecryptedPrivateKey {s t : EncryptionNetworked Key}
    (h : SameButKey s t) :
    Except.Agree SameButKey s.flushDecryptedPrivateKey t.flushDecryptedPrivateKey := by
  refine (h.copyKey rfl s.localPrivateKey t.localPrivateKey).bind fun buffer buffer' _ => ?_
  obtain ⟨localPrivateKey, rfl⟩ := h
  have hclean : SameButKey { s with localPrivateKey := buffer }
      { s with localPrivateKey := buffer' } := ⟨buffer', rfl⟩
  refine (hclean.cleanRSA true).bind fun s t h => ?_
  obtain ⟨localPrivateKey, rfl⟩ := h
  exact .ok ⟨localPrivateKey, rfl⟩

/-! ## Runs with different keys -/

/-- A call of a script that leaves the private key open. -/
inductive ScriptCall where
  | loadPublicKeys (remoteUnencryptedPublicKey : CharPointer)
  | rearmPrivateKey
  /-- A call with arguments of its own. -/
  | other (op : Op)

/-- The call with a key. -/
def ScriptCall.fill (key : List UInt8) : ScriptCall → Op
  | .loadPublicKeys publicKey => .loadPublicKeys (.ofBytes key) publicKey
  | .rearmPrivateKey => .rearmPrivateKey (.ofBytes key)
  | .other op => op

/-- One call with either key. -/
theorem SameButKey.apply {s t : EncryptionNetworked Key} (h : SameButKey s t)
    {key key' : List UInt8} (hlength : key.length = key'.length) (call : ScriptCall) :
    Except.Agree SameButKey ((call.fill key).apply s) ((call.fill key').apply t) := by
  have hkeys : SameLength (.ofBytes key) (.ofBytes key') :=
    .bytes (by rw [List.length_map, List.length_map, hlength])
  cases call with
  | loadPublicKeys publicKey => exact h.loadPublicKeys hkeys publicKey
  | rearmPrivateKey => exact h.rearmPrivateKey hkeys
  | other op =>
    cases op with
    | loadPublicKeys privateKey publicKey => exact h.loadPublicKeys (.same privateKey) publicKey
    | flushDecryptedPrivateKey => exact h.flushDecryptedPrivateKey
    | rearmPrivateKey privateKey => exact h.rearmPrivateKey (.same privateKey)

end EncryptionNetworked

namespace KeyLoading

open EncryptionNetworked (Op ScriptCall SameButKey)

variable {Key : Type}

/-- The run of a script with a key, on a new object. -/
def runWith (Key : Type) (length : Int16) (script : List ScriptCall) (key : List UInt8) :
    KeyLoading Key :=
  StepRun.final step (construct length) (script.map (ScriptCall.fill key))

theorem unloaded_runWith (length : Int16) (script : List ScriptCall) (key : List UInt8) :
    (runWith Key length script key).object.Unloaded := unloaded_final length _

/-- Two runs with keys of one length end in objects that differ in the key buffer only. -/
theorem sameButKey_runWith (length : Int16) (script : List ScriptCall) {key key' : List UInt8}
    (hlength : key.length = key'.length) :
    SameButKey (runWith Key length script key).object (runWith Key length script key').object := by
  let R (s t : KeyLoading Key) : Prop := SameButKey s.object t.object
  have hstep (s t : KeyLoading Key) (call : ScriptCall) (h : R s t) :
      Except.Agree (fun r r' => R r.2 r'.2) (s.step (call.fill key)) (t.step (call.fill key')) :=
    Except.Agree.map (SameButKey.apply h hlength call) fun _ _ h => h
  have hconstruct : R (construct length) (construct length) := .refl _
  exact StepRun.final_agree hstep hconstruct script

/-- After the script both objects are flushed, and then they are the same: without a byte of
    the key, a private handle or the flag. -/
def ErasesKey (Key : Type) (length : Int16) (script : List ScriptCall) (key key' : List UInt8) :
    Prop :=
  ∃ object,
    (runWith Key length script key).object.flushDecryptedPrivateKey = .ok object ∧
    (runWith Key length script key').object.flushDecryptedPrivateKey = .ok object ∧
    object.localPrivateKey.load length.toInt.toNat =
      .ok (List.replicate length.toInt.toNat (some 0)) ∧
    object.privateRSA = none ∧ object.privateKeyBio = none ∧
    object.localPrivateKeyLoaded = false

/-- No key is erased, whatever was called before. -/
theorem not_erasesKey (Key : Type) (length : Int16) (script : List ScriptCall)
    (key key' : List UInt8) : ¬ ErasesKey Key length script key key' := by
  intro h
  obtain ⟨object, hflush, -⟩ := h
  exact (unloaded_runWith length script key).flushDecryptedPrivateKey_ne_ok object hflush

/-- Keys of two bytes: the flush reads the byte behind its variable. -/
theorem two_byte_keys_not_erased :
    ¬ ∀ (length : Int16) (script : List ScriptCall) (key key' : List UInt8),
      key.length = key'.length → ErasesKey Unit length script key key' := by
  intro hall
  obtain ⟨object, hflush, -⟩ := hall 2 [.rearmPrivateKey] [65, 65] [66, 66] rfl
  rw [(unloaded_runWith 2 _ _).flushDecryptedPrivateKey_eq] at hflush
  cases hflush

end KeyLoading

end NetworkedFS
