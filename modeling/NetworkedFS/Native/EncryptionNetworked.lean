import NetworkedFS.Native.CharPointer
import NetworkedFS.Native.Network

/-!
# Networked encryption

Model of `encryption_networked` (`LIBS/defs_encryption.h`): the keys of a connection, their
RSA handles, and the four operations with them.  What OpenSSL does with keys is a parameter.

A handle is an RSA structure or a memory BIO, with a number that no other handle has.  The
numbers of the handles that were freed are ghost state.
-/

namespace NetworkedFS

open CString (Cell)

/-- `encryption_local_errors_lookup` of `encryption_networked`. -/
inductive EncryptionNetworkedError where
  | cannotInitPrivateKeyBio
  | cannotInitPrivateRSA
  | cannotInitPublicKeyBio
  | cannotInitPublicRSA
  deriving DecidableEq, Repr

/-- The enumerator's value. -/
def EncryptionNetworkedError.code : EncryptionNetworkedError → Int
  | .cannotInitPrivateKeyBio => 0
  | .cannotInitPrivateRSA => 1
  | .cannotInitPublicKeyBio => 2
  | .cannotInitPublicRSA => 3

/-- The texts of the errors, `encryption_local_errors` of `encryption_networked`. -/
def encryptionNetworkedErrors : List String :=
  ["Cannot init private keyBIO", "Cannot init private RSA", "Cannot init public keyBIO",
   "Cannot init public RSA"]

/-- `ENCRYPTION_NETWORKED_RSA_STOCK_LENGTHp`. -/
def encryptionNetworkedRSAStockLength : Nat := 4096

/-! ## OpenSSL -/

/-- The RSA functions.  Each operation gives the length it returns, negative on failure, and
    the bytes that it writes. -/
structure RsaLibrary where
  Key : Type
  /-- Whether `BIO_new_mem_buf` gives a BIO. -/
  newMemBuf : Bool
  /-- `PEM_read_bio_RSAPrivateKey` and `PEM_read_bio_RSA_PUBKEY`. -/
  readPrivateKey : List Cell → Option Key
  readPublicKey : List Cell → Option Key
  /-- `RSA_size`. -/
  size : Key → Nat
  publicEncrypt : Key → List UInt8 → Int × List UInt8
  privateEncrypt : Key → List UInt8 → Int × List UInt8
  publicDecrypt : Key → List UInt8 → Int × List UInt8
  privateDecrypt : Key → List UInt8 → Int × List UInt8

/-- An `RSA *` that is not null. -/
structure RsaHandle (Key : Type) where
  id : Nat
  key : Key
  deriving DecidableEq

/-! ## The class -/

/-- The members of `encryption_networked`.  A BIO is only known by its number. -/
structure EncryptionNetworked (Key : Type) where
  rsaLength : Int16
  remotePublicKeyLoaded : Bool := false
  localPrivateKeyLoaded : Bool := false
  localPrivateKey : Memory encryptionNetworkedRSAStockLength := Memory.fresh _
  remotePublicKey : Memory encryptionNetworkedRSAStockLength := Memory.fresh _
  publicRSA : Option (RsaHandle Key) := none
  privateRSA : Option (RsaHandle Key) := none
  publicKeyBio : Option Nat := none
  privateKeyBio : Option Nat := none
  status : DebugStatus := {}
  /-- The number of the next handle. -/
  nextHandle : Nat := 0
  /-- Ghost: the handles that were freed, the last one first. -/
  freed : List Nat := []

namespace EncryptionNetworked

variable {Key : Type}

/-- `setReturnCode((int)error)`. -/
def report (s : EncryptionNetworked Key) (error : EncryptionNetworkedError) :
    Except Fault (EncryptionNetworked Key) :=
  (s.status.setReturnCode (subclassErrors encryptionNetworkedErrors) error.code).map
    fun status => { s with status }

/-- The constructor. -/
def construct (length : Int16) : Except Fault (EncryptionNetworked Key) :=
  if length.toInt ≤ encryptionNetworkedRSAStockLength then .ok { rsaLength := length }
  else .error .assertion

/-! ## Handles -/

/-- `RSA_free` and `BIO_free` of handles that are not null. -/
def free (s : EncryptionNetworked Key) (handles : List (Option Nat)) : EncryptionNetworked Key :=
  { s with freed := handles.reduceOption ++ s.freed }

/-- Whether only the private handles are cleaned or all of them, the assertion is the same. -/
def cleanRSA (s : EncryptionNetworked Key) (privateOnly : Bool) :
    Except Fault (EncryptionNetworked Key) :=
  if !s.remotePublicKeyLoaded then .error .assertion
  else
    let s := if privateOnly then s else
      { s.free [s.publicRSA.map RsaHandle.id, s.publicKeyBio] with
        publicRSA := none
        publicKeyBio := none }
    .ok { s.free [s.privateRSA.map RsaHandle.id, s.privateKeyBio] with
      privateRSA := none
      privateKeyBio := none }

/-- The destructor. -/
def destroy (s : EncryptionNetworked Key) : Except Fault (EncryptionNetworked Key) :=
  let mode := !s.remotePublicKeyLoaded
  if !mode || s.localPrivateKeyLoaded then s.cleanRSA mode else .ok s

/-- A BIO on a key buffer and the RSA structure that is read from it: both, or neither with
    an error. -/
def openKey (lib : RsaLibrary) (s : EncryptionNetworked lib.Key)
    (read : List Cell → Option lib.Key) (buffer : List Cell)
    (cannotInitBio cannotInitRSA : EncryptionNetworkedError) :
    Except Fault (Option (RsaHandle lib.Key) × Option Nat × EncryptionNetworked lib.Key) := do
  if !lib.newMemBuf then return (none, none, ← s.report cannotInitBio)
  else match read buffer with
    | some key =>
      return (some ⟨s.nextHandle + 1, key⟩, some s.nextHandle,
        { s with nextHandle := s.nextHandle + 2 })
    | none =>
      let s ← s.report cannotInitRSA
      return (none, none, { s.free [some s.nextHandle] with nextHandle := s.nextHandle + 1 })

/-- No function of the class calls it, and it is private. -/
def initRSA (lib : RsaLibrary) (s : EncryptionNetworked lib.Key) :
    Except Fault (EncryptionNetworked lib.Key) := do
  if !(s.localPrivateKeyLoaded || s.remotePublicKeyLoaded) then .error .assertion else
  let s ← if s.localPrivateKeyLoaded && s.privateRSA.isNone then do
      let (privateRSA, privateKeyBio, s) ← s.openKey lib lib.readPrivateKey s.localPrivateKey.1
        .cannotInitPrivateKeyBio .cannotInitPrivateRSA
      pure { s with privateRSA, privateKeyBio }
    else pure s
  if s.remotePublicKeyLoaded && s.publicRSA.isNone then
    let (publicRSA, publicKeyBio, s) ← s.openKey lib lib.readPublicKey s.remotePublicKey.1
      .cannotInitPublicKeyBio .cannotInitPublicRSA
    return { s with publicRSA, publicKeyBio }
  else return s

/-! ## Keys -/

/-- `memcpy` of `ENCRYPTION_RSA_LENGTH` bytes into a key buffer; a negative length is a huge
    count. -/
def copyKey (s : EncryptionNetworked Key) (buffer : Memory encryptionNetworkedRSAStockLength)
    (key : CharPointer) : Except Fault (Memory encryptionNetworkedRSAStockLength) :=
  if s.rsaLength < 0 then .error .undefined
  else do
    let data ← key.copy s.rsaLength.toInt.toNat
    buffer.store data

/-- A key that is not null is copied, and the flag is not set. -/
def rearmPrivateKey (s : EncryptionNetworked Key) (localDecryptedPrivateKey : CharPointer) :
    Except Fault (EncryptionNetworked Key) := do
  if ← localDecryptedPrivateKey.isNull then return { s with localPrivateKeyLoaded := false }
  else
    let localPrivateKey ← s.copyKey s.localPrivateKey localDecryptedPrivateKey
    return { s with localPrivateKey }

/-- The statements of `rearmPrivateKey`, and the same for the public key. -/
def loadPublicKeys (s : EncryptionNetworked Key) (localUnencryptedPrivateKey
    remoteUnencryptedPublicKey : CharPointer) : Except Fault (EncryptionNetworked Key) := do
  let s ← s.rearmPrivateKey localUnencryptedPrivateKey
  if ← remoteUnencryptedPublicKey.isNull then return { s with remotePublicKeyLoaded := false }
  else
    let remotePublicKey ← s.copyKey s.remotePublicKey remoteUnencryptedPublicKey
    return { s with remotePublicKey }

/-- The source of the copy is a variable of one byte. -/
def flushDecryptedPrivateKey (s : EncryptionNetworked Key) :
    Except Fault (EncryptionNetworked Key) := do
  let localPrivateKey ← s.copyKey s.localPrivateKey (.pointsTo [some 0])
  let s ← { s with localPrivateKey }.cleanRSA true
  return { s with localPrivateKeyLoaded := false }

/-! ## Operations -/

/-- The body that the four operations share: the text, at the pointer to its size or else up to
    its terminator, goes through `primitive` with the key of a handle.  It gives the array for
    the result, and what is stored through the pointer to the size. -/
def rsaOperation (lib : RsaLibrary) (handle : Option (RsaHandle lib.Key))
    (primitive : lib.Key → List UInt8 → Int × List UInt8) (in_ : CharPointer)
    (size : Option Int) : Except Fault (CharPointer × Option Int) := do
  let textLength ← match size with
    | some n => if n > 0 then .ok n.toNat else in_.strlen
    | none => in_.strlen
  match handle with
  | none => .error .undefined
  | some handle =>
    let result : CharPointer := .pointsTo (List.replicate (lib.size handle.key) none)
    let text ← in_.load textLength
    let (textLength, output) := primitive handle.key text
    let result ← result.store output
    return (result, size.map fun _ => textLength)

def rsaEncryptPublic (lib : RsaLibrary) (s : EncryptionNetworked lib.Key) (in_ : CharPointer)
    (size : Option Int) : Except Fault (CharPointer × Option Int) :=
  if !(s.remotePublicKeyLoaded && s.publicRSA.isSome) then .error .assertion
  else rsaOperation lib s.publicRSA lib.publicEncrypt in_ size

/-- The private operations use the public handle too. -/
def rsaEncryptPrivate (lib : RsaLibrary) (s : EncryptionNetworked lib.Key) (in_ : CharPointer)
    (size : Option Int) : Except Fault (CharPointer × Option Int) :=
  if !(s.localPrivateKeyLoaded && s.privateRSA.isSome) then .error .assertion
  else rsaOperation lib s.publicRSA lib.privateEncrypt in_ size

def rsaDecryptPublic (lib : RsaLibrary) (s : EncryptionNetworked lib.Key) (in_ : CharPointer)
    (size : Option Int) : Except Fault (CharPointer × Option Int) :=
  if !(s.remotePublicKeyLoaded && s.publicRSA.isSome) then .error .assertion
  else rsaOperation lib s.publicRSA lib.publicDecrypt in_ size

def rsaDecryptPrivate (lib : RsaLibrary) (s : EncryptionNetworked lib.Key) (in_ : CharPointer)
    (size : Option Int) : Except Fault (CharPointer × Option Int) :=
  if !(s.localPrivateKeyLoaded && s.privateRSA.isSome) then .error .assertion
  else rsaOperation lib s.publicRSA lib.privateDecrypt in_ size

/-! ## Calls on one object -/

/-- The operations that change an object. -/
inductive Op where
  | loadPublicKeys (localUnencryptedPrivateKey remoteUnencryptedPublicKey : CharPointer)
  | flushDecryptedPrivateKey
  | rearmPrivateKey (localDecryptedPrivateKey : CharPointer)
  deriving DecidableEq

/-- One operation. -/
def Op.apply (s : EncryptionNetworked Key) : Op → Except Fault (EncryptionNetworked Key)
  | .loadPublicKeys privateKey publicKey => s.loadPublicKeys privateKey publicKey
  | .flushDecryptedPrivateKey => s.flushDecryptedPrivateKey
  | .rearmPrivateKey privateKey => s.rearmPrivateKey privateKey

end EncryptionNetworked

end NetworkedFS
