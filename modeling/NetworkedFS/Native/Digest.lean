import NetworkedFS.Native.EncryptionOffline

/-!
# Digests

Model of `getSHA` and `compareSHA` of `encryption_offline` (`LIBS/defs_encryption.h`).  The
digest function `SHA512` of OpenSSL is a parameter, which may fail.
-/

namespace NetworkedFS

/-- `ENCRYPTION_OFFLINE_512BITp`. -/
def encryptionOffline512Bit : Nat := 64

/-- The bytes that `SHA512` writes. -/
structure Digest where
  bytes : List UInt8
  length_bytes : bytes.length = encryptionOffline512Bit
  deriving DecidableEq

namespace EncryptionOffline

/-- The member `encryption_sha512`, through which the digest gets into the result, is filled
    by every call that reads it. -/
def getSHA (sha512 : List UInt8 → Option Digest) (s : EncryptionOffline) (payload : CharPointer)
    (payloadLength : Nat) : Except Fault (CharPointer × EncryptionOffline) := do
  let result : CharPointer := .pointsTo (List.replicate encryptionOffline512Bit none)
  let data ← payload.load payloadLength
  match sha512 data with
  | none =>
    let s ← s.report .cannotGetSHA
    return (result, s)
  | some digest =>
    let result ← result.store digest.bytes
    return (result, s)

def compareSHA (sha512 : List UInt8 → Option Digest) (s : EncryptionOffline)
    (message : CharPointer) (messageSize : Nat) (shaText : CharPointer) (_shaSize : Int) :
    Except Fault (Bool × EncryptionOffline) := do
  let (messageSHA, s) ← s.getSHA sha512 message messageSize
  let difference ← shaText.strncmp messageSHA encryptionOffline512Bit
  return (difference = 0, s)

end EncryptionOffline

end NetworkedFS
