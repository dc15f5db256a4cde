import NetworkedFS.ForStd.Except
import NetworkedFS.ForStd.StepRun
import NetworkedFS.Native.EncryptionNetworked

/-!
# The lifecycle of RSA keys

`loadPublicKeys` and `rearmPrivateKey` copy keys, but neither sets a loaded flag, and
`initRSA`, which would make the handles, is never called.  So every object stays without
keys: the four operations fail their assertions, and so does the clean-up in
`flushDecryptedPrivateKey`.

## Key results

- `unloaded_final`: no run of calls loads anything;
- `lifecycle_iff_supplies_nothing`: flags and handles are as they should be only while no key
  is supplied and none flushed;
- `not_handshakeWorks`: no message is exchanged.
-/

namespace NetworkedFS

namespace EncryptionNetworked

variable {Key : Type}

/-! ## Objects without keys -/

/-- No flag is set, and there is no handle. -/
structure Unloaded (s : EncryptionNetworked Key) : Prop where
  localPrivateKeyLoaded : s.localPrivateKeyLoaded = false
  remotePublicKeyLoaded : s.remotePublicKeyLoaded = false
  privateRSA : s.privateRSA = none
  publicRSA : s.publicRSA = none
  freed : s.freed = []

/-- A fresh object is without keys. -/
theorem unloaded_fresh (length : Int16) :
    ({ rsaLength := length } : EncryptionNetworked Key).Unloaded := ⟨rfl, rfl, rfl, rfl, rfl⟩

/-- Cleaning up an object without keys fails the assertion. -/
theorem Unloaded.cleanRSA_ne_ok {s : EncryptionNetworked Key} (hs : s.Unloaded)
    (privateOnly : Bool) (s' : EncryptionNetworked Key) : s.cleanRSA privateOnly ≠ .ok s' := by
  intro h
  rw [cleanRSA, hs.remotePublicKeyLoaded] at h
  cases h

/-- Flushing does not return: the copy is undefined, or the clean-up fails. -/
theorem Unloaded.flushDecryptedPrivateKey_ne_ok {s : EncryptionNetworked Key} (hs : s.Unloaded)
    (s' : EncryptionNetworked Key) : s.flushDecryptedPrivateKey ≠ .ok s' := by
  intro h
  obtain ⟨buffer, -, hrest⟩ := Except.bind_eq_ok_iff.mp h
  obtain ⟨s₁, hclean, -⟩ := Except.bind_eq_ok_iff.mp hrest
  have hbuffer : ({ s with localPrivateKey := buffer } : EncryptionNetworked Key).Unloaded :=
    { hs with }
  exact hbuffer.cleanRSA_ne_ok true s₁ hclean

/-- `initRSA` would fail its assertion. -/
theorem Unloaded.initRSA {lib : RsaLibrary} {s : EncryptionNetworked lib.Key} (hs : s.Unloaded) :
    s.initRSA lib = .error .assertion := by
  rw [EncryptionNetworked.initRSA, hs.localPrivateKeyLoaded, hs.remotePublicKeyLoaded]
  rfl

/-- The destructor has nothing to do. -/
theorem Unloaded.destroy {s : EncryptionNetworked Key} (hs : s.Unloaded) : s.destroy = .ok s := by
  rw [EncryptionNetworked.destroy, hs.localPrivateKeyLoaded, hs.remotePublicKeyLoaded]
  rfl

/-- `rearmPrivateKey` copies the key, if there is one, and clears the flag otherwise. -/
theorem rearmPrivateKey_eq_ok {s s' : EncryptionNetworked Key} {key : CharPointer}
    (h : s.rearmPrivateKey key = .ok s') :
    (key = .null ∧ s' = { s with localPrivateKeyLoaded := false }) ∨
      ∃ localPrivateKey, s' = { s with localPrivateKey } := by
  cases key with
  | null =>
    cases h
    exact .inl ⟨rfl, rfl⟩
  | indeterminate => cases h
  | pointsTo cells =>
    obtain ⟨isNull, hnull, hcopy⟩ := Except.bind_eq_ok_iff.mp h
    cases hnull
    obtain ⟨localPrivateKey, -, heq⟩ := Except.bind_eq_ok_iff.mp hcopy
    cases heq
    exact .inr ⟨localPrivateKey, rfl⟩

/-- An object without keys keeps being without keys. -/
theorem Unloaded.apply {s s' : EncryptionNetworked Key} (hs : s.Unloaded) {op : Op}
    (h : op.apply s = .ok s') : s'.Unloaded := by
  have hrearm : ∀ {key s₁}, s.rearmPrivateKey key = .ok s₁ → s₁.Unloaded := by
    intro key s₁ hok
    rcases rearmPrivateKey_eq_ok hok with ⟨-, rfl⟩ | ⟨buffer, rfl⟩
    · exact { hs with localPrivateKeyLoaded := rfl }
    · exact { hs with }
  cases op with
  | loadPublicKeys privateKey publicKey =>
    obtain ⟨s₁, hfirst, hrest⟩ := Except.bind_eq_ok_iff.mp h
    have hs₁ := hrearm hfirst
    cases publicKey with
    | null =>
      cases hrest
      exact { hs₁ with remotePublicKeyLoaded := rfl }
    | indeterminate => cases hrest
    | pointsTo cells =>
      obtain ⟨isNull, hnull, hcopy⟩ := Except.bind_eq_ok_iff.mp hrest
      cases hnull
      obtain ⟨buffer, -, heq⟩ := Except.bind_eq_ok_iff.mp hcopy
      cases heq
      exact { hs₁ with }
  | flushDecryptedPrivateKey => exact absurd h (hs.flushDecryptedPrivateKey_ne_ok s')
  | rearmPrivateKey privateKey => exact hrearm h

end EncryptionNetworked

/-! ## The flags and the supplied keys -/

/-- An object, and which keys were last supplied and not flushed since. -/
structure KeyLoading (Key : Type) where
  object : EncryptionNetworked Key
  privateSupplied : Bool := false
  publicSupplied : Bool := false

namespace KeyLoading

open EncryptionNetworked (Op Unloaded)

variable {Key : Type}

/-- What the constructor leaves. -/
def construct (length : Int16) : KeyLoading Key where
  object := { rsaLength := length }

/-- Whether a private key was supplied last, after an operation. -/
def privateSuppliedAfter : Op → Bool
  | .loadPublicKeys privateKey _ => privateKey ≠ .null
  | .flushDecryptedPrivateKey => false
  | .rearmPrivateKey privateKey => privateKey ≠ .null

/-- Whether a public key was supplied last, after an operation. -/
def publicSuppliedAfter (before : Bool) : Op → Bool
  | .loadPublicKeys _ publicKey => publicKey ≠ .null
  | _ => before

/-- One operation. -/
def step (s : KeyLoading Key) (op : Op) : Except Fault (Unit × KeyLoading Key) :=
  (op.apply s.object).map fun object => ((), {
    object
    privateSupplied := privateSuppliedAfter op
    publicSupplied := publicSuppliedAfter s.publicSupplied op })

/-- Each flag says whether the key was supplied, and then there is a handle for it. -/
structure Usable (s : KeyLoading Key) : Prop where
  privateFlag : s.object.localPrivateKeyLoaded = s.privateSupplied
  publicFlag : s.object.remotePublicKeyLoaded = s.publicSupplied
  privateHandle : s.object.localPrivateKeyLoaded = true → s.object.privateRSA.isSome = true
  publicHandle : s.object.remotePublicKeyLoaded = true → s.object.publicRSA.isSome = true

/-- The call returns, with flags and handles as they should be. -/
def StaysUsable (s : KeyLoading Key) (op : Op) : Prop :=
  ∃ s', s.step op = .ok ((), s') ∧ s'.Usable

/-- Every call of a sequence stays usable, the destructor returns after it, and no handle is
    freed twice. -/
def LifecycleHolds (Key : Type) (length : Int16) (ops : List Op) : Prop :=
  (∀ c ∈ StepRun.calls step (construct length : KeyLoading Key) ops, c.1.StaysUsable c.2) ∧
  ∃ object, (StepRun.final step (construct length : KeyLoading Key) ops).object.destroy =
    .ok object ∧ object.freed.Nodup

/-- The operation supplies no key, and flushes none. -/
def SuppliesNothing : Op → Prop
  | .loadPublicKeys privateKey publicKey => privateKey = .null ∧ publicKey = .null
  | .flushDecryptedPrivateKey => False
  | .rearmPrivateKey privateKey => privateKey = .null

instance : DecidablePred SuppliesNothing
  | .loadPublicKeys _ _ => inferInstanceAs (Decidable (_ ∧ _))
  | .flushDecryptedPrivateKey => inferInstanceAs (Decidable False)
  | .rearmPrivateKey _ => inferInstanceAs (Decidable (_ = _))

/-- No key is loaded, and none was supplied. -/
structure Idle (s : KeyLoading Key) : Prop where
  unloaded : s.object.Unloaded
  privateSupplied : s.privateSupplied = false
  publicSupplied : s.publicSupplied = false

/-- A new object is without keys, and nothing was supplied. -/
theorem idle_construct (length : Int16) : (construct length : KeyLoading Key).Idle :=
  ⟨EncryptionNetworked.unloaded_fresh length, rfl, rfl⟩

/-- A call that supplies nothing keeps an object idle. -/
theorem Idle.step {s s' : KeyLoading Key} (hs : s.Idle) {op : Op} (hop : SuppliesNothing op)
    (h : s.step op = .ok ((), s')) : s'.Idle := by
  obtain ⟨object, happly, heq⟩ := Except.map_eq_ok_iff.mp h
  cases heq
  refine ⟨hs.unloaded.apply happly, ?_, ?_⟩
  · cases op with
    | loadPublicKeys privateKey publicKey => simp [privateSuppliedAfter, hop.1]
    | flushDecryptedPrivateKey => rfl
    | rearmPrivateKey privateKey =>
      have hnull : privateKey = .null := hop
      simp [privateSuppliedAfter, hnull]
  · cases op with
    | loadPublicKeys privateKey publicKey => simp [publicSuppliedAfter, hop.2]
    | flushDecryptedPrivateKey => exact hs.publicSupplied
    | rearmPrivateKey privateKey => exact hs.publicSupplied

/-- An idle object is as it should be. -/
theorem Idle.usable {s : KeyLoading Key} (hs : s.Idle) : s.Usable := by
  have hprivate := hs.unloaded.localPrivateKeyLoaded
  have hpublic := hs.unloaded.remotePublicKeyLoaded
  refine ⟨hprivate.trans hs.privateSupplied.symm, hpublic.trans hs.publicSupplied.symm, ?_, ?_⟩
  · intro hloaded
    rw [hprivate] at hloaded
    cases hloaded
  · intro hloaded
    rw [hpublic] at hloaded
    cases hloaded

/-- A call that supplies nothing returns. -/
theorem step_returns (s : KeyLoading Key) {op : Op} (hop : SuppliesNothing op) :
    ∃ s', s.step op = .ok ((), s') := by
  cases op with
  | loadPublicKeys privateKey publicKey =>
    obtain ⟨rfl, rfl⟩ := hop
    exact ⟨_, rfl⟩
  | flushDecryptedPrivateKey => cases hop
  | rearmPrivateKey privateKey =>
    obtain rfl : privateKey = .null := hop
    exact ⟨_, rfl⟩

/-- A call on an idle object stays usable exactly when it supplies nothing. -/
theorem Idle.staysUsable_iff {s : KeyLoading Key} (hs : s.Idle) (op : Op) :
    s.StaysUsable op ↔ SuppliesNothing op := by
  constructor
  · rintro ⟨s', hok, hprivate, hpublic, -⟩
    obtain ⟨object, happly, heq⟩ := Except.map_eq_ok_iff.mp hok
    cases heq
    -- no flag is set, so no key may have been supplied
    have hunloaded : object.Unloaded := hs.unloaded.apply happly
    rw [hunloaded.localPrivateKeyLoaded] at hprivate
    rw [hunloaded.remotePublicKeyLoaded] at hpublic
    cases op with
    | loadPublicKeys privateKey publicKey =>
      simp only [privateSuppliedAfter, publicSuppliedAfter] at hprivate hpublic
      exact ⟨by simpa using hprivate.symm, by simpa using hpublic.symm⟩
    | flushDecryptedPrivateKey =>
      exact hs.unloaded.flushDecryptedPrivateKey_ne_ok object happly
    | rearmPrivateKey privateKey =>
      simp only [privateSuppliedAfter] at hprivate
      exact show privateKey = .null by simpa using hprivate.symm
  · intro hop
    obtain ⟨s', hok⟩ := step_returns s hop
    exact ⟨s', hok, (hs.step hop hok).usable⟩

/-- For an object of any key length and every sequence of calls, flags, handles and the
    destructor are as they should be exactly when no call supplies a key or flushes one. -/
theorem lifecycle_iff_supplies_nothing (Key : Type) (length : Int16) (ops : List Op) :
    LifecycleHolds Key length ops ↔
      ∀ c ∈ StepRun.calls step (construct length : KeyLoading Key) ops, SuppliesNothing c.2 := by
  have hlaw : (∀ c ∈ StepRun.calls step (construct length : KeyLoading Key) ops,
      c.1.StaysUsable c.2) ↔
      ∀ c ∈ StepRun.calls step (construct length : KeyLoading Key) ops, SuppliesNothing c.2 :=
    StepRun.forall_calls_iff (fun s op hs => Idle.staysUsable_iff hs op)
      (fun s op _ s' hs hop hok => Idle.step hs hop hok) (idle_construct length) ops
  rw [LifecycleHolds, hlaw]
  refine and_iff_left_of_imp ?_
  intro hcond
  have hidle := StepRun.forall_visited_of_calls
    (fun s op _ s' (hs : s.Idle) (hop : SuppliesNothing op) hok => hs.step hop hok)
    (idle_construct length) ops hcond _ (StepRun.final_mem_visited _ ops)
  refine ⟨_, hidle.unloaded.destroy, ?_⟩
  rw [hidle.unloaded.freed]
  exact List.nodup_nil

/-- A private key that is supplied does not set the flag. -/
theorem supplied_key_not_loaded :
    ¬ ∀ (length : Int16) (ops : List Op), LifecycleHolds Unit length ops := by
  intro hall
  have hop := (hall 1 [.rearmPrivateKey (.pointsTo [some 65])]).1 _ List.mem_cons_self
  exact absurd (((idle_construct 1).staysUsable_iff _).mp hop) (by decide)

end KeyLoading

/-! ## The handshake -/

namespace EncryptionNetworked

/-- What `encrypt` gives for the message, `decrypt` turns into the message again, with the
    right size. -/
def Delivered (encrypt decrypt : CharPointer → Option Int →
    Except Fault (CharPointer × Option Int)) (message : List UInt8) : Prop :=
  ∃ ciphertext n plaintext,
    encrypt (.ofBytes message) (some message.length) = .ok (ciphertext, some n) ∧
    decrypt ciphertext (some n) = .ok (plaintext, some message.length) ∧
    plaintext.load message.length = .ok message

/-- Every result of the operation is that of the primitive with the private key. -/
def UsesPrivateHandle (lib : RsaLibrary) (s : EncryptionNetworked lib.Key)
    (operation : CharPointer → Option Int → Except Fault (CharPointer × Option Int))
    (primitive : lib.Key → List UInt8 → Int × List UInt8) : Prop :=
  ∀ in_ size r, operation in_ size = .ok r →
    rsaOperation lib s.privateRSA primitive in_ size = .ok r

/-- The message gets from `a` to `b` both ways, and the private operations use the private
    handles. -/
structure HandshakeWorks (lib : RsaLibrary) (a b : EncryptionNetworked lib.Key)
    (message : List UInt8) : Prop where
  publicToPrivate : Delivered (a.rsaEncryptPublic lib) (b.rsaDecryptPrivate lib) message
  privateToPublic : Delivered (a.rsaEncryptPrivate lib) (b.rsaDecryptPublic lib) message
  encryptPrivate : a.UsesPrivateHandle lib (a.rsaEncryptPrivate lib) lib.privateEncrypt
  decryptPrivate : b.UsesPrivateHandle lib (b.rsaDecryptPrivate lib) lib.privateDecrypt

/-- The operations of an object without keys fail their assertions. -/
theorem Unloaded.operations {lib : RsaLibrary} {s : EncryptionNetworked lib.Key} (hs : s.Unloaded)
    (in_ : CharPointer) (size : Option Int) :
    s.rsaEncryptPublic lib in_ size = .error .assertion ∧
    s.rsaEncryptPrivate lib in_ size = .error .assertion ∧
    s.rsaDecryptPublic lib in_ size = .error .assertion ∧
    s.rsaDecryptPrivate lib in_ size = .error .assertion := by
  simp only [rsaEncryptPublic, rsaEncryptPrivate, rsaDecryptPublic, rsaDecryptPrivate,
    hs.localPrivateKeyLoaded, hs.remotePublicKeyLoaded]
  exact ⟨rfl, rfl, rfl, rfl⟩

/-- An object without keys delivers nothing. -/
theorem Unloaded.not_handshakeWorks {lib : RsaLibrary} {a b : EncryptionNetworked lib.Key}
    (ha : a.Unloaded) (message : List UInt8) : ¬ HandshakeWorks lib a b message := by
  rintro ⟨⟨ciphertext, n, plaintext, hencrypt, -⟩, -⟩
  rw [(ha.operations _ _).1] at hencrypt
  cases hencrypt

end EncryptionNetworked

namespace KeyLoading

open EncryptionNetworked (Op HandshakeWorks)

/-- Whatever is called on an object, it stays without keys. -/
theorem unloaded_final {Key : Type} (length : Int16) (ops : List Op) :
    (StepRun.final step (construct length : KeyLoading Key) ops).object.Unloaded := by
  have hkeep : ∀ (s : KeyLoading Key) (op : Op) (o : Unit) (s' : KeyLoading Key),
      s.object.Unloaded → True → s.step op = .ok (o, s') → s'.object.Unloaded := by
    intro s op o s' hs _ hok
    obtain ⟨object, happly, heq⟩ := Except.map_eq_ok_iff.mp hok
    cases heq
    exact hs.apply happly
  exact StepRun.forall_visited_of_calls hkeep (EncryptionNetworked.unloaded_fresh length) ops
    (fun _ _ => trivial) _ (StepRun.final_mem_visited _ ops)

/-- No two parties ever exchange a message, whatever keys they load. -/
theorem handshake_never_works (lib : RsaLibrary) (lengthA lengthB : Int16) (opsA opsB : List Op)
    (message : List UInt8) :
    ¬ HandshakeWorks lib (StepRun.final step (construct lengthA) opsA).object
      (StepRun.final step (construct lengthB) opsB).object message :=
  (unloaded_final lengthA opsA).not_handshakeWorks message

end KeyLoading

/-! ## RSA with matching keys -/

namespace RsaLibrary

/-- RSA is correct for the halves of one key, and the private primitives fail with a key that
    is not private. -/
structure Correct (lib : RsaLibrary) (isPrivate : lib.Key → Bool)
    (matching : lib.Key → lib.Key → Prop) : Prop where
  publicToPrivate : ∀ publicKey privateKey, matching publicKey privateKey →
    ∀ message, message.length + 11 ≤ lib.size publicKey →
      ∃ ciphertext : List UInt8, ciphertext.length ≤ lib.size publicKey ∧
        lib.publicEncrypt publicKey message = ((ciphertext.length : Int), ciphertext) ∧
        lib.privateDecrypt privateKey ciphertext = ((message.length : Int), message)
  privateToPublic : ∀ publicKey privateKey, matching publicKey privateKey →
    ∀ message, message.length + 11 ≤ lib.size privateKey →
      ∃ ciphertext : List UInt8, ciphertext.length ≤ lib.size privateKey ∧
        lib.privateEncrypt privateKey message = ((ciphertext.length : Int), ciphertext) ∧
        lib.publicDecrypt publicKey ciphertext = ((message.length : Int), message)
  needsPrivate : ∀ key, isPrivate key = false → ∀ text,
    (lib.privateEncrypt key text).1 = -1 ∧ (lib.privateDecrypt key text).1 = -1

/-- A library with one key pair of 64 bytes, which leaves messages as they are. -/
def onePair : RsaLibrary where
  Key := Bool
  newMemBuf := true
  readPrivateKey _ := some true
  readPublicKey _ := some false
  size _ := 64
  publicEncrypt _ text := (text.length, text)
  privateEncrypt isPrivate text := if isPrivate then (text.length, text) else (-1, [])
  publicDecrypt _ text := (text.length, text)
  privateDecrypt isPrivate text := if isPrivate then (text.length, text) else (-1, [])

/-- That library is correct for its one pair. -/
theorem correct_onePair : onePair.Correct id fun publicKey privateKey =>
    publicKey = false ∧ privateKey = true where
  publicToPrivate := by
    rintro _ _ ⟨rfl, rfl⟩ message hlength
    exact ⟨message, Nat.le_of_add_right_le hlength, rfl, rfl⟩
  privateToPublic := by
    rintro _ _ ⟨rfl, rfl⟩ message hlength
    exact ⟨message, Nat.le_of_add_right_le hlength, rfl, rfl⟩
  needsPrivate := by
    rintro key rfl text
    exact ⟨rfl, rfl⟩

end RsaLibrary

namespace KeyLoading

open EncryptionNetworked (Op HandshakeWorks)

/-- Two parties that have loaded their keys do not exchange a message of one byte. -/
theorem loaded_parties_fail :
    ¬ ∀ (lib : RsaLibrary) (isPrivate : lib.Key → Bool) (matching : lib.Key → lib.Key → Prop),
      lib.Correct isPrivate matching →
      ∀ (length : Int16) (privateA publicA privateB publicB : CharPointer)
        (a b : KeyLoading lib.Key),
        (construct length).step (.loadPublicKeys privateA publicB) = .ok ((), a) →
        (construct length).step (.loadPublicKeys privateB publicA) = .ok ((), b) →
        (∃ publicKey privateKey, lib.readPublicKey b.object.remotePublicKey.1 = some publicKey ∧
          lib.readPrivateKey a.object.localPrivateKey.1 = some privateKey ∧
          matching publicKey privateKey) →
        (∃ publicKey privateKey, lib.readPublicKey a.object.remotePublicKey.1 = some publicKey ∧
          lib.readPrivateKey b.object.localPrivateKey.1 = some privateKey ∧
          matching publicKey privateKey) →
        HandshakeWorks lib a.object b.object [65] := by
  intro hall
  let key : CharPointer := .pointsTo [some 65]
  have hload : ∃ a, (construct 1 : KeyLoading Bool).step (.loadPublicKeys key key) = .ok ((), a) :=
    ⟨_, rfl⟩
  obtain ⟨a, ha⟩ := hload
  have hworks := hall .onePair id _ RsaLibrary.correct_onePair 1 key key key key a a ha ha
    ⟨false, true, rfl, rfl, rfl, rfl⟩ ⟨false, true, rfl, rfl, rfl, rfl⟩
  have hunloaded : a.object.Unloaded := by
    obtain ⟨object, happly, heq⟩ := Except.map_eq_ok_iff.mp ha
    cases heq
    exact (EncryptionNetworked.unloaded_fresh 1).apply happly
  exact hunloaded.not_handshakeWorks [65] hworks

end KeyLoading

end NetworkedFS
