import Mathlib.Algebra.Group.Int.Defs
import Mathlib.Algebra.Group.Nat.Defs
import NetworkedFS.Native.CharPointer
import NetworkedFS.Native.Process

/-!
# File descriptors

Model of `file_descriptor` (`LIBS/defs_file.h`): a name, a mode, and one `fstream` that is
opened again on every change.  What the class uses of an `fstream` comes first.

Opening a stream that is open fails, and so does writing anything to one that was opened for
input only.  A stream that failed does nothing until it is opened again, and the class looks at no
stream's state.
-/

namespace NetworkedFS

open CString (Cell)

/-! ## Streams -/

/-- The flags of `ios` that a file is opened with. -/
structure OpenFlags where
  in_ : Bool := false
  out : Bool := false
  app : Bool := false
  trunc : Bool := false
  binary : Bool := false
  deriving DecidableEq, Repr

/-- An `fstream`: the file it is open on, and `failbit` or `badbit`. -/
structure FileStream where
  file : Option (FilePlace × OpenFlags) := none
  position : Nat := 0
  failed : Bool := false
  deriving DecidableEq, Repr

/-- The bytes of a file after some were written at a position.  What is between its end and
    the position is filled with zeros. -/
def writeAt (held : List UInt8) (position : Nat) (data : List UInt8) : List UInt8 :=
  held.take position ++ List.replicate (position - held.length) 0 ++ data ++
    held.drop (position + data.length)

namespace FileStream

/-- `open`, with flags that have `in` or `out` but not both. -/
def openFile (disk : Disk) (process : Process) (stream : FileStream) (path : List Char)
    (flags : OpenFlags) : Disk × FileStream :=
  if stream.file.isSome then (disk, { stream with failed := true })
  else match process.place path with
    | none => (disk, { stream with failed := true })
    | some place =>
      let opened : FileStream := { file := some (place, flags) }
      if flags.out then
        if disk.opensForOutput place then
          let held := if flags.trunc then [] else (disk.held place).getD []
          (disk.store place held, opened)
        else (disk, { stream with failed := true })
      else if (disk.held place).isSome then (disk, opened)
      else (disk, { stream with failed := true })

/-- Whether `write` takes anything from its argument. -/
def isWritable (stream : FileStream) : Bool :=
  !stream.failed && stream.file.any fun file => file.2.out

/-- A `write` of so many bytes that takes none.  Zero of them are no failure. -/
def refuse (stream : FileStream) (size : Int) : FileStream :=
  { stream with failed := stream.failed || decide (size ≠ 0) }

/-- `write`.  A stream that cannot be written fails, and so does one that cannot write all. -/
def write (disk : Disk) (stream : FileStream) (data : List UInt8) : Disk × FileStream :=
  match stream.file with
  | none => (disk, stream.refuse data.length)
  | some (place, flags) =>
    if stream.isWritable then
      let held := (disk.held place).getD []
      let position := if flags.app then held.length else stream.position
      let taken := data.take (disk.takes place data)
      (disk.store place (writeAt held position taken),
        { stream with
          position := position + taken.length
          failed := decide (taken.length < data.length) })
    else (disk, stream.refuse data.length)

/-- `long` to `int`. -/
def toInt (size : Int) : Int := size.bmod (2 ^ 32)

/-- What the functions that read share: the end of the file is its size, and then an array of
    that size is filled from the beginning, with the size as an `int`.  The size of a stream
    that failed is -1, and no array has it; a negative count reads nothing and fails. -/
def readAll (disk : Disk) (stream : FileStream) :
    Except Fault (List Cell × Int × FileStream) :=
  match stream.file with
  | none => .error .exception
  | some (place, flags) =>
    if stream.failed then .error .exception
    else
      let held := (disk.held place).getD []
      let count := toInt held.length
      let data := if flags.in_ then held.take count.toNat else []
      .ok (data.map some ++ List.replicate (held.length - data.length) none, held.length,
        { stream with position := data.length, failed := decide ((data.length : Int) ≠ count) })

end FileStream

/-! ## The class -/

/-- `file_mode_e`. -/
inductive FileMode where
  | append
  | truncate
  | in_
  | binary
  deriving DecidableEq, Repr

namespace FileMode

/-- The enumerator's value. -/
def value : FileMode → Int
  | .append => 0
  | .truncate => 1
  | .in_ => 2
  | .binary => 3

/-- A cast of an `int`, which no caller has without an enumerator for it. -/
def ofValue (n : Int) : Except Fault FileMode :=
  if n = 0 then .ok .append
  else if n = 1 then .ok .truncate
  else if n = 2 then .ok .in_
  else if n = 3 then .ok .binary
  else .error .undefined

/-- The flags that `getFileDescriptor` opens a file with.  Its default branch has no
    enumerator left. -/
def flags : FileMode → OpenFlags
  | .append => { out := true, app := true }
  | .truncate => { out := true, trunc := true }
  | .in_ => { in_ := true }
  | .binary => { in_ := true, binary := true }

end FileMode

/-- The members of a `file_descriptor`. -/
structure FileDescriptor where
  isWrite : Bool
  isString : Bool
  fileName : List Char
  fileMode : FileMode
  fileInstance : FileStream := {}
  deriving DecidableEq, Repr

namespace FileDescriptor

/-- Opens the file of the name in the mode. -/
def getFileDescriptor (disk : Disk) (process : Process) (file : FileDescriptor) :
    Disk × FileDescriptor :=
  let (disk, fileInstance) :=
    file.fileInstance.openFile disk process file.fileName file.fileMode.flags
  (disk, { file with
    fileInstance
    isWrite := decide (file.fileMode.value < FileMode.in_.value)
    isString := decide (file.fileMode = .in_) })

/-- The constructor. -/
def construct (disk : Disk) (process : Process) (name : List Char) (mode : FileMode) :
    Except Fault (Disk × FileDescriptor) :=
  if name = [] then .error .assertion
  else
    let file : FileDescriptor :=
      { fileName := name
        fileMode := mode
        isWrite := decide (mode.value < FileMode.in_.value)
        isString := decide (mode = .in_) }
    .ok (file.getFileDescriptor disk process)

/-- Bytes are read through the pointer only when the stream takes them. -/
def writeFile (disk : Disk) (file : FileDescriptor) (custom : CharPointer) (size : Int) :
    Except Fault (Disk × FileDescriptor) :=
  if file.fileInstance.isWritable then
    if size < 0 then .error .undefined
    else do
      let data ← custom.load size.toNat
      let (disk, fileInstance) := file.fileInstance.write disk data
      return (disk, { file with fileInstance })
  else .ok (disk, { file with fileInstance := file.fileInstance.refuse size })

/-- The content and the size. -/
def readFileBinary (disk : Disk) (file : FileDescriptor) :
    Except Fault (CharPointer × Int × FileDescriptor) :=
  if file.isWrite then .error .assertion
  else do
    let (content, size, fileInstance) ← file.fileInstance.readAll disk
    return (.pointsTo content, size, { file with fileInstance })

/-- The content as a string, which ends at its first null character, and the size. -/
def readFileString (disk : Disk) (file : FileDescriptor) :
    Except Fault (List UInt8 × Int × FileDescriptor) :=
  -- not the modes that the other function asserts
  if !file.isWrite then .error .assertion
  else do
    let (content, size, fileInstance) ← file.fileInstance.readAll disk
    let length ← (CharPointer.pointsTo content).strlen
    let text ← (CharPointer.pointsTo content).load length
    return (text, size, { file with fileInstance })

/-- `'\n'`. -/
def newline : UInt8 := 10

def writeNewline (disk : Disk) (file : FileDescriptor) : Except Fault (Disk × FileDescriptor) :=
  if file.isString && file.isWrite then
    let (disk, fileInstance) := file.fileInstance.write disk [newline]
    .ok (disk, { file with fileInstance })
  else .error .assertion

/-- `operator>>` reads a word to where a pointer without a value points. -/
def operatorIn (_disk : Disk) (_file : FileDescriptor) (_input : List UInt8) :
    Except Fault (Disk × FileDescriptor) :=
  .error .undefined

/-- What `operator<<` puts out, which is the same in all modes: the bytes in front of the first
    null character of an array with as many bytes as the size is as an `int`. -/
def operatorOut (disk : Disk) (file : FileDescriptor) :
    Except Fault (List UInt8 × FileDescriptor) :=
  match file.fileInstance.file with
  | none => .error .exception
  | some (place, flags) =>
    let held := (disk.held place).getD []
    let size := FileStream.toInt held.length
    if file.fileInstance.failed ∨ size < 0 then .error .exception
    else do
      let data := if flags.in_ then held.take size.toNat else []
      let fileData : CharPointer :=
        .pointsTo (data.map some ++ List.replicate (size.toNat - data.length) none)
      let length ← fileData.strlen
      let text ← fileData.load length
      return (text, { file with fileInstance := { file.fileInstance with
        position := data.length
        failed := decide ((data.length : Int) ≠ size) } })

/-! ## Switching to another file or mode -/

def modifyMode (disk : Disk) (process : Process) (file : FileDescriptor) (mode : FileMode) :
    Disk × FileDescriptor :=
  { file with fileMode := mode }.getFileDescriptor disk process

/-- `repurpose(name)`.  The name that is asserted not to be empty is the old one. -/
def repurpose (disk : Disk) (process : Process) (file : FileDescriptor) (name : List Char) :
    Except Fault (Disk × FileDescriptor) :=
  if file.fileName = [] then .error .assertion
  else .ok ({ file with fileName := name }.getFileDescriptor disk process)

/-- `repurpose(name, mode)`. -/
def repurposeMode (disk : Disk) (process : Process) (file : FileDescriptor) (name : List Char)
    (mode : FileMode) : Except Fault (Disk × FileDescriptor) :=
  if file.fileName = [] then .error .assertion
  else .ok ({ file with fileName := name, fileMode := mode }.getFileDescriptor disk process)

end FileDescriptor

end NetworkedFS
