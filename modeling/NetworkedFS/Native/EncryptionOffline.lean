import NetworkedFS.ForStd.Finmap
import NetworkedFS.Native.CharPointer

/-!
# Offline encryption

Model of `encryption_offline` (`LIBS/defs_encryption.h`): three tables that hold a secret, a
key and an initialization vector for each address, and the functions that encrypt and
decrypt with them through the EVP interface of OpenSSL.

The interface is a parameter.  Each of its functions gives the status that OpenSSL returns,
what it writes through its output pointers, and the context afterwards.
-/

namespace NetworkedFS

/-- `encryption_local_errors_lookup` of `encryption_offline`. -/
inductive EncryptionOfflineError where
  | cannotInitializeContext
  | cannotInitializeEncryption
  | cannotInitializeDecryption
  | cannotSetIvLength
  | cannotInitializeKeyAndIv
  | cannotAppendAdditionalPhrase
  | cannotProvidePlaintext
  | cannotProvideCiphertext
  | cannotFinalizeEncryption
  | cannotFinalizeDecryption
  | cannotObtainTag
  | cannotSetTag
  | cannotVerifyDecryption
  | improperCiphertextFormat
  | cannotGetSHA
  deriving DecidableEq, Repr

/-- The enumerator's value. -/
def EncryptionOfflineError.code : EncryptionOfflineError → Int
  | .cannotInitializeContext => 0
  | .cannotInitializeEncryption => 1
  | .cannotInitializeDecryption => 2
  | .cannotSetIvLength => 3
  | .cannotInitializeKeyAndIv => 4
  | .cannotAppendAdditionalPhrase => 5
  | .cannotProvidePlaintext => 6
  | .cannotProvideCiphertext => 7
  | .cannotFinalizeEncryption => 8
  | .cannotFinalizeDecryption => 9
  | .cannotObtainTag => 10
  | .cannotSetTag => 11
  | .cannotVerifyDecryption => 12
  | .improperCiphertextFormat => 13
  | .cannotGetSHA => 14

/-- The texts of the errors, `encryption_local_errors` of `encryption_offline`. -/
def encryptionOfflineErrors : List String :=
  ["Cannot initialize context", "Cannot initialize encryption", "Cannot initialize decryption",
   "Cannot set iv length", "Cannot initialize key and iv", "Cannot append additional phrase",
   "Cannot provide plaintext", "Cannot provide ciphertext", "Cannot finalize encryption",
   "Cannot finalize decryption", "Cannot obtain tag", "Cannot set tag",
   "Cannot verify decryption", "Improper ciphertext format", "Cannot get SHA"]

/-- `ENCRYPTION_OFFLINE_256BITp`. -/
def encryptionOffline256Bit : Nat := 32

/-- `ENCRYPTION_OFFLINE_128BITp`. -/
def encryptionOffline128Bit : Nat := 16

/-- `ENCRYPTION_OFFLINE_TAG_DELIMETERp`: two line feeds. -/
def encryptionOfflineTagDelimiter : List UInt8 := [10, 10]

/-- `ENCRYPTION_STARTUP_KEY`. -/
def encryptionStartupKey : List UInt8 :=
  "93853810395438910475691239120591".toList.map CString.byteOf

/-- `ENCRYPTION_STARTUP_IV`. -/
def encryptionStartupIv : List UInt8 := "1123789831053045".toList.map CString.byteOf

/-- `ENCRYPTION_STARTUP_ADDRESS`. -/
def encryptionStartupAddress : String := "_default"

/-! ## The EVP interface -/

/-- What an update call gives: its status, the bytes for the output buffer, the length it
    stores, and the context. -/
structure EvpUpdate (Context : Type) where
  status : Int
  output : List UInt8
  length : Nat
  context : Context

/-- AES-256-GCM through the EVP interface. -/
structure Evp where
  Context : Type
  /-- `EVP_CIPHER_CTX_new`, which may give `NULL`. -/
  ctxNew : Option Context
  /-- `EVP_EncryptInit_ex` and `EVP_DecryptInit_ex` with the cipher only. -/
  encryptInit : Context → Int × Context
  decryptInit : Context → Int × Context
  /-- `EVP_CTRL_GCM_SET_IVLEN`. -/
  setIvLength : Context → Nat → Int × Context
  /-- `EVP_EncryptInit_ex` and `EVP_DecryptInit_ex` with the bytes of key and vector. -/
  encryptKeyIv : Context → List UInt8 → List UInt8 → Int × Context
  decryptKeyIv : Context → List UInt8 → List UInt8 → Int × Context
  /-- `EVP_EncryptUpdate` and `EVP_DecryptUpdate`, given whether there is an output buffer. -/
  encryptUpdate : Context → Bool → List UInt8 → EvpUpdate Context
  decryptUpdate : Context → Bool → List UInt8 → EvpUpdate Context
  /-- `EVP_EncryptFinal_ex` and `EVP_DecryptFinal_ex`, with the bytes they write. -/
  encryptFinal : Context → Int × List UInt8 × Context
  decryptFinal : Context → Int × List UInt8 × Context
  /-- `EVP_CTRL_GCM_GET_TAG`, with the bytes it writes. -/
  getTag : Context → Nat → Int × List UInt8
  /-- `EVP_CTRL_GCM_SET_TAG`. -/
  setTag : Context → List UInt8 → Int × Context

/-! ## The tables -/

/-- The tables of `encryption_offline`. -/
structure EncryptionOffline where
  secrets : UMap String (List UInt8) := ∅
  keys : UMap String (List UInt8) := ∅
  ivs : UMap String (List UInt8) := ∅
  status : DebugStatus := {}

namespace EncryptionOffline

/-- `setReturnCode((int)error)`. -/
def report (s : EncryptionOffline) (error : EncryptionOfflineError) :
    Except Fault EncryptionOffline :=
  (s.status.setReturnCode (subclassErrors encryptionOfflineErrors) error.code).map
    fun status => { s with status }

/-- `if(!ok) setReturnCode((int)error)`. -/
def reportUnless (s : EncryptionOffline) (ok : Bool) (error : EncryptionOfflineError) :
    Except Fault EncryptionOffline :=
  if ok then .ok s else s.report error

/-- The text that `string(pointer)` copies, up to the first null character. -/
def stringOf (characters : List UInt8) : List UInt8 := characters.takeWhile (· ≠ 0)

/-- The arguments are the characters in front of a terminator.  `key != ""` compares the
    pointer with that of the literal, so it does not look at the characters. -/
def setKeys (s : EncryptionOffline) (key iv : List UInt8) (address : String) :
    Except Fault EncryptionOffline :=
  if address = "" then .error .assertion
  else .ok { s with
    keys := s.keys.emplace address (stringOf key)
    ivs := s.ivs.emplace address (stringOf iv) }

def wipeKeys (s : EncryptionOffline) (address : String) : EncryptionOffline :=
  { s with keys := s.keys.erase address, ivs := s.ivs.erase address }

def addAddressSecret (s : EncryptionOffline) (address : String) (secret : List UInt8) :
    Except Fault EncryptionOffline :=
  if address = "" ∨ secret = [] then .error .assertion
  else .ok { s with secrets := s.secrets.emplace address secret }

def wipeAddressSecret (s : EncryptionOffline) (address : String) : EncryptionOffline :=
  { s with secrets := s.secrets.erase address }

def setDefault (s : EncryptionOffline) (secret : List UInt8) :
    Except Fault EncryptionOffline := do
  let s ← s.addAddressSecret encryptionStartupAddress secret
  s.setKeys encryptionStartupKey encryptionStartupIv encryptionStartupAddress

def wipeDefault (s : EncryptionOffline) : EncryptionOffline :=
  (s.wipeKeys encryptionStartupAddress).wipeAddressSecret encryptionStartupAddress

/-! ## The tag -/

/-- The pointer `in` is a copy, so the caller keeps its own.  The first statement reads
    `tag_length`, which has no value. -/
def insertTag (_in : CharPointer) (_size : Nat) (_tag : CharPointer) : Except Fault Nat :=
  .error .undefined

/-- The statements of `insertTag` with the value that `tag_length` happens to have: the bytes
    at `in`, which the placement `new` leaves as they are for any size, and `*size`. -/
def insertTagWith (tagLength : Int) (in_ : CharPointer) (size : Nat) (tag : CharPointer) :
    Except Fault (CharPointer × Nat) := do
  let delimiterLength := encryptionOfflineTagDelimiter.length
  let in_ ← in_.storeAt size (encryptionOfflineTagDelimiter.map some)
  let size := size + delimiterLength
  -- a negative length is a huge one for `memcpy`
  if tagLength < 0 then throw .undefined
  let tagCells ← tag.copy tagLength.toNat
  let in_ ← in_.storeAt size tagCells
  let size := size + tagLength.toNat
  let in_ ← in_.storeAt size [some 0]
  return (in_, size)

/-- The loop of `getTagOffsetAndSplice`, from the values of `i` and `size` on: their values
    at its end. -/
def scanDelimiter (cells : List CString.Cell) : (size : Nat) → (i : Int) →
    Except Fault (Int × Int)
  | 0, i => if i = -1 then .ok (i, 0) else .ok (i, -1)
  | size + 1, i =>
    if i = -1 then .ok (i, size + 1)
    -- `--size >= -1 + delimeter_length`
    else if (size : Int) ≥ -1 + encryptionOfflineTagDelimiter.length then
      match cells[size]?, encryptionOfflineTagDelimiter[i.toNat]? with
      | some (some byte), some delimiter =>
        let charMatch : Int := if delimiter = byte then 1 else 0
        scanDelimiter cells size
          (i * charMatch + encryptionOfflineTagDelimiter.length * (1 - charMatch) - 1)
      | _, _ => .error .undefined
    else .ok (i, size)

def getTagOffsetAndSplice (s : EncryptionOffline) (in_ : CharPointer) (size : Nat) :
    Except Fault (CharPointer × EncryptionOffline) := do
  let delimiterLength := encryptionOfflineTagDelimiter.length
  let cells := match in_ with
    | .pointsTo cells => cells
    | _ => []
  let (i, end_) ← scanDelimiter cells size (delimiterLength - 1)
  if end_ ≠ size ∧ i = -1 then
    let result ← in_.advance (end_ + delimiterLength).toNat
    return (result, s)
  else
    let s ← s.report .improperCiphertextFormat
    return (.null, s)

/-! ## Encryption and decryption -/

/-- The secret, key and vector of an address, which both functions assert to be there. -/
def addressEntries (s : EncryptionOffline) (address : String) :
    Except Fault (List UInt8 × List UInt8 × List UInt8) :=
  match s.secrets.lookup address, s.keys.lookup address, s.ivs.lookup address with
  | some secret, some key, some iv => .ok (secret, key, iv)
  | _, _, _ => .error .assertion

/-- The first part of `AESEncrypt`, which sets a context up. -/
def encryptContext (evp : Evp) (s : EncryptionOffline) (key iv : List UInt8) :
    Except Fault (evp.Context × EncryptionOffline) := do
  let s ← s.reportUnless evp.ctxNew.isSome .cannotInitializeContext
  match evp.ctxNew with
  -- the calls below use the context all the same
  | none => .error .undefined
  | some ctx =>
    let (status, ctx) := evp.encryptInit ctx
    let s ← s.reportUnless (status = 1) .cannotInitializeEncryption
    let (status, ctx) := evp.setIvLength ctx encryptionOffline128Bit
    let s ← s.reportUnless (status = 1) .cannotSetIvLength
    let keyBytes ← loadString key encryptionOffline256Bit
    let ivBytes ← loadString iv encryptionOffline128Bit
    let (status, ctx) := evp.encryptKeyIv ctx keyBytes ivBytes
    let s ← s.reportUnless (status = 1) .cannotInitializeKeyAndIv
    return (ctx, s)

/-- The last part of `AESEncrypt`: the tag is to be written through a pointer that nobody
    has assigned. -/
def appendTag (evp : Evp) (s : EncryptionOffline) (ctx : evp.Context) (ciphertext : CharPointer)
    (ciphertextLength : Nat) : Except Fault (CharPointer × Nat × EncryptionOffline) := do
  let tag : CharPointer := .indeterminate
  let (status, tagBytes) := evp.getTag ctx encryptionOffline128Bit
  let tag ← tag.store tagBytes
  let s ← s.reportUnless (status = 1) .cannotObtainTag
  let ciphertextLength ← insertTag ciphertext ciphertextLength tag
  return (ciphertext, ciphertextLength, s)

/-- What an update call leaves, when its status is accepted: the context, the stored length,
    and the tables. -/
def accept {Context : Type} (s : EncryptionOffline) (update : EvpUpdate Context) (ok : Bool)
    (error : EncryptionOfflineError) : Except Fault (Context × Nat × EncryptionOffline) := do
  let s ← s.reportUnless ok error
  return (update.context, update.length, s)

/-- The secret goes into the cipher as additional data. -/
def encryptPhrase (evp : Evp) (s : EncryptionOffline) (ctx : evp.Context) (address : String)
    (secret : List UInt8) : Except Fault (evp.Context × Nat × EncryptionOffline) :=
  if address ≠ "" then
    let update := evp.encryptUpdate ctx false secret
    s.accept update (update.status = 1) .cannotAppendAdditionalPhrase
  else .ok (ctx, 0, s)

/-- The plaintext goes into the cipher, with the output pointer `NULL`: as additional data
    too.  The second number is `*ciphertext_length`. -/
def encryptPayload (evp : Evp) (s : EncryptionOffline) (ctx : evp.Context)
    (plaintext : CharPointer) (plaintextLength length : Nat) :
    Except Fault (evp.Context × Nat × Nat × EncryptionOffline) := do
  if ← plaintext.isNull then return (ctx, length, 0, s)
  else
    let data ← plaintext.load plaintextLength
    let update := evp.encryptUpdate ctx false data
    let (ctx, length, s) ← s.accept update (update.status = 1) .cannotProvidePlaintext
    return (ctx, length, length, s)

/-- The ciphertext with its length.  No memory is ever allocated for it. -/
def aesEncrypt (evp : Evp) (s : EncryptionOffline) (plaintext : CharPointer)
    (plaintextLength : Nat) (address : String) :
    Except Fault (CharPointer × Nat × EncryptionOffline) := do
  let (secret, key, iv) ← s.addressEntries address
  let ciphertext : CharPointer := .null
  let (ctx, s) ← s.encryptContext evp key iv
  let (ctx, length, s) ← s.encryptPhrase evp ctx address secret
  let (ctx, length, ciphertextLength, s) ←
    s.encryptPayload evp ctx plaintext plaintextLength length
  let _ ← ciphertext.advance length
  let (status, output, ctx) := evp.encryptFinal ctx
  let s ← s.reportUnless (status = 1) .cannotFinalizeEncryption
  s.appendTag evp ctx ciphertext (ciphertextLength + output.length)

/-- The first part of `AESDecrypt`, which sets a context up.  The last `if` ends in an empty
    statement, so its error is reported whatever the call returned. -/
def decryptContext (evp : Evp) (s : EncryptionOffline) (key iv : List UInt8) :
    Except Fault (evp.Context × EncryptionOffline) := do
  let s ← s.reportUnless evp.ctxNew.isSome .cannotInitializeContext
  match evp.ctxNew with
  | none => .error .undefined
  | some ctx =>
    let (status, ctx) := evp.decryptInit ctx
    let s ← s.reportUnless (status ≠ 0) .cannotInitializeDecryption
    let (status, ctx) := evp.setIvLength ctx encryptionOffline128Bit
    let s ← s.reportUnless (status ≠ 0) .cannotSetIvLength
    let keyBytes ← loadString key encryptionOffline256Bit
    let ivBytes ← loadString iv encryptionOffline128Bit
    let (_, ctx) := evp.decryptKeyIv ctx keyBytes ivBytes
    let s ← s.report .cannotInitializeKeyAndIv
    return (ctx, s)

/-- The secret goes into the cipher as additional data. -/
def decryptPhrase (evp : Evp) (s : EncryptionOffline) (ctx : evp.Context) (address : String)
    (secret : List UInt8) : Except Fault (evp.Context × Nat × EncryptionOffline) :=
  if address ≠ "" then
    let update := evp.decryptUpdate ctx false secret
    s.accept update (update.status ≠ 0) .cannotAppendAdditionalPhrase
  else .ok (ctx, 0, s)

/-- The ciphertext goes into the cipher, together with the delimiter and the tag behind it,
    and with the output pointer `NULL`.  The second number is `*plaintext_length`. -/
def decryptPayload (evp : Evp) (s : EncryptionOffline) (ctx : evp.Context)
    (ciphertext : CharPointer) (ciphertextLength length : Nat) :
    Except Fault (evp.Context × Nat × Nat × EncryptionOffline) := do
  if ← ciphertext.isNull then return (ctx, length, 0, s)
  else
    let data ← ciphertext.load ciphertextLength
    let update := evp.decryptUpdate ctx false data
    let (ctx, length, s) ← s.accept update (update.status ≠ 0) .cannotProvideCiphertext
    return (ctx, length, length, s)

/-- The plaintext with its length.  No memory is ever allocated for it. -/
def aesDecrypt (evp : Evp) (s : EncryptionOffline) (ciphertext : CharPointer)
    (ciphertextLength : Nat) (address : String) :
    Except Fault (CharPointer × Nat × EncryptionOffline) := do
  let (secret, key, iv) ← s.addressEntries address
  let plaintext : CharPointer := .null
  let (ctx, s) ← s.decryptContext evp key iv
  let (ctx, length, s) ← s.decryptPhrase evp ctx address secret
  let (ctx, length, plaintextLength, s) ←
    s.decryptPayload evp ctx ciphertext ciphertextLength length
  let (tag, s) ← s.getTagOffsetAndSplice ciphertext ciphertextLength
  let tagBytes ← tag.load encryptionOffline128Bit
  let (status, ctx) := evp.setTag ctx tagBytes
  let s ← s.reportUnless (status ≠ 0) .cannotSetTag
  let _ ← plaintext.advance length
  let (status, output, _) := evp.decryptFinal ctx
  if status > 0 then return (plaintext, plaintextLength + output.length, s)
  else
    let s ← s.report .cannotVerifyDecryption
    return (plaintext, plaintextLength, s)

/-- The two wrappers for the startup address call each other's functions. -/
def aesDecryptDefault (evp : Evp) (s : EncryptionOffline) (ciphertext : CharPointer)
    (ciphertextLength : Nat) : Except Fault (CharPointer × Nat × EncryptionOffline) :=
  s.aesEncrypt evp ciphertext ciphertextLength encryptionStartupAddress

def aesEncryptDefault (evp : Evp) (s : EncryptionOffline) (plaintext : CharPointer)
    (plaintextLength : Nat) : Except Fault (CharPointer × Nat × EncryptionOffline) :=
  s.aesDecrypt evp plaintext plaintextLength encryptionStartupAddress

end EncryptionOffline

end NetworkedFS
