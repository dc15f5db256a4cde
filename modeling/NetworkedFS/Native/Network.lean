import NetworkedFS.ForStd.ByteStream
import NetworkedFS.ForStd.CString
import NetworkedFS.Native.Debug

/-!
# Network instances

Model of the two transfer functions of `network_instance` (`LIBS/defs_network.h`).  A
payload is sent as a header, the array `network_size_buffer` holding the decimal text of
the size, followed by the payload itself.  The return values of `write` and `read` are
ignored, so a shortened transfer goes unnoticed.

The capacity of `network_size_buffer` is a parameter of the type; the class declares it
with `sizeBufferCapacity`.  As the C library requires, an array handed to `write` or
`read` must hold as many bytes as the call asks for; a call with a shorter one is
undefined.
-/

namespace NetworkedFS

open CString (Cell)

/-- `NETWORK_INSTANCE_SIZE_BUFFERp`: what the header transfers ask for. -/
def networkInstanceSizeBuffer : Nat := 256

/-- `NETWORK_INSTANCE_LOCAL_ERROR_COUNTp`. -/
def networkInstanceLocalErrorCount : Nat := 6

/-- The declared length of `network_size_buffer`. -/
def sizeBufferCapacity : Nat := networkInstanceLocalErrorCount

/-! ## Arrays -/

/-- An array of `n` bytes. -/
abbrev Memory (n : Nat) := { cells : List Cell // cells.length = n }

namespace Memory

variable {n : Nat}

/-- Memory that nobody has written to. -/
def fresh (n : Nat) : Memory n := ⟨List.replicate n none, List.length_replicate⟩

/-- Writes `data` to the start of the array. -/
def store (m : Memory n) (data : List Cell) : Except Fault (Memory n) :=
  if h : data.length ≤ n then
    .ok ⟨data ++ m.1.drop data.length, by
      have := m.2
      rw [List.length_append, List.length_drop]
      omega⟩
  else .error .undefined

/-- The first `count` bytes of the array. -/
def load (m : Memory n) (count : Nat) : Except Fault (List Cell) :=
  if count ≤ n then .ok (m.1.take count) else .error .undefined

end Memory

/-! ## Connections -/

/-- One direction of a connection: the descriptors of its two ends, each in its own
    process, and the stream between them. -/
structure Link where
  writeEnd : Int
  readEnd : Int
  stream : ByteStream Cell
  deriving DecidableEq, Repr

namespace Link

/-- `write` on a descriptor; one that is not the stream's end transfers nothing. -/
def write (limit : Nat → Nat) (link : Link) (descriptor : Int) (data : List Cell) : Link :=
  if descriptor = link.writeEnd then { link with stream := link.stream.write limit data } else link

/-- `read` of `count` bytes into an array. -/
def readInto {n : Nat} (limit : Nat → Nat) (link : Link) (descriptor : Int) (m : Memory n)
    (count : Nat) : Except Fault (Memory n × Link) :=
  if n < count then .error .undefined
  else if descriptor = link.readEnd then
    match link.stream.read limit count with
    | none => .error .blocked
    | some (data, stream) => do
      let m ← m.store data
      return (m, { link with stream := stream })
  -- nothing comes from a descriptor of something else, and nobody notices
  else .ok (m, link)

end Link

/-! ## The class -/

/-- What the transfer functions use of a `network_instance`.  The constructor leaves the
    descriptors and the buffer without values. -/
structure NetworkInstance (capacity : Nat) where
  connectionIsClient : Bool := false
  connectionEstablished : Bool := false
  sizeBuffer : Memory capacity := Memory.fresh capacity
  socketDescriptor : Option Int := none
  establishedSocketDescriptor : Option Int := none
  deriving DecidableEq

/-- What `receiveFromConnection` hands back: the new array and the size. -/
structure Received where
  bytes : List Cell
  size : Int
  deriving DecidableEq

namespace NetworkInstance

variable {capacity : Nat} (limit : Nat → Nat)

/-- The local `network_descriptor` of both functions. -/
def networkDescriptor (instance_ : NetworkInstance capacity) : Option Int :=
  if instance_.connectionIsClient then instance_.socketDescriptor
  else instance_.establishedSocketDescriptor

/-- The assertion and the choice of the descriptor, with which both functions begin. -/
def openDescriptor (instance_ : NetworkInstance capacity) : Except Fault Int :=
  if instance_.connectionEstablished then
    match instance_.networkDescriptor with
    | none => .error .undefined
    | some descriptor => .ok descriptor
  else .error .assertion

/-- Reads `size` bytes through the pointer to the payload; a negative `int` is a huge
    count. -/
def loadPayload (payload : List UInt8) (size : Int) : Except Fault (List Cell) :=
  if 0 ≤ size ∧ size ≤ payload.length then .ok ((payload.take size.toNat).map some)
  else .error .undefined

/-- Sends the size in the buffer, then the payload. -/
def sendToConnection (instance_ : NetworkInstance capacity) (link : Link)
    (payload : List UInt8) (size : Int) : Except Fault (NetworkInstance capacity × Link) := do
  let descriptor ← instance_.openDescriptor
  let sizeBuffer ← instance_.sizeBuffer.store ((CString.formatInt size).map some ++ [some 0])
  -- the whole buffer is sent, with what is behind the terminator
  let header ← sizeBuffer.load networkInstanceSizeBuffer
  let link := link.write limit descriptor header
  let body ← loadPayload payload size
  return ({ instance_ with sizeBuffer := sizeBuffer }, link.write limit descriptor body)

/-- Reads a header into the buffer, then as many bytes as its text says into a new
    array. -/
def receiveFromConnection (instance_ : NetworkInstance capacity) (link : Link) :
    Except Fault (Received × NetworkInstance capacity × Link) := do
  let descriptor ← instance_.openDescriptor
  let (sizeBuffer, link) ←
    link.readInto limit descriptor instance_.sizeBuffer networkInstanceSizeBuffer
  match CString.atoi sizeBuffer.1 with
  | none => .error .undefined
  | some size =>
    -- `new char[size]` throws for a negative size
    if size < 0 then .error .exception
    else
      let (bytes, link) ← link.readInto limit descriptor (Memory.fresh size.toNat) size.toNat
      return (⟨bytes.1, size⟩, { instance_ with sizeBuffer := sizeBuffer }, link)

end NetworkInstance

end NetworkedFS
