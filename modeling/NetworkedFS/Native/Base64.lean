import NetworkedFS.ForStd.Base64
import NetworkedFS.Native.EncryptionOffline

/-!
# Base64 text

Model of `base64Encode` and `base64Decode` of `encryption_offline` (`LIBS/defs_encryption.h`).
The BIO chain of OpenSSL is a parameter.  Both functions record the arrays that they
allocate.
-/

namespace NetworkedFS

/-- A base64 BIO without line feeds, on top of memory. -/
structure Base64Bio where
  /-- What the memory holds after `BIO_write` and `BIO_flush`. -/
  encode : List UInt8 → List UInt8
  /-- `BIO_read` of so many bytes at most from memory with this text: what it returns, and the
      bytes that it writes. -/
  decode : List UInt8 → Nat → Int × List UInt8

/-- An array `new`: its size, and how many bytes are written from its start on. -/
structure ArrayAllocation where
  size : Int
  written : Nat
  deriving DecidableEq, Repr

namespace EncryptionOffline

/-- The string and `*length`.  The array is given back with `delete`. -/
def base64Encode (bio : Base64Bio) (in_ : CharPointer) (length : Nat) :
    Except Fault (List UInt8 × Nat × List ArrayAllocation) := do
  let data ← in_.load length
  let encoded := bio.encode data
  let length := encoded.length
  let cString : CharPointer := .pointsTo (List.replicate (length + 1) none)
  let cString ← cString.storeAt 0 (encoded.map some)
  let cString ← cString.storeAt length [some 0]
  -- `assign` takes the characters in front of the first null character
  let count ← cString.strlen
  let result ← cString.load count
  return (result, length, [⟨length + 1, length + 1⟩])

/-- The result and `*length`.  The second `new` is a placement in the array that is there: for
    any size, a negative one too, it gives back the pointer and leaves the bytes as they are. -/
def base64Decode (bio : Base64Bio) (in_ : CharPointer) :
    Except Fault (CharPointer × Int × List ArrayAllocation) := do
  let oldLength ← in_.strlen
  let text ← in_.load oldLength
  let result : CharPointer := .pointsTo (List.replicate oldLength none)
  let (localLength, bytes) := bio.decode text oldLength
  let result ← result.storeAt 0 (bytes.map some)
  let size := localLength - oldLength + 1
  -- `result[local_length] = 0`
  if localLength < 0 then throw .undefined
  let result ← result.storeAt localLength.toNat [some 0]
  return (result, localLength, [⟨oldLength, bytes.length⟩, ⟨size, localLength.toNat + 1⟩])

end EncryptionOffline

end NetworkedFS
