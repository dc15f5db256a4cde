import NetworkedFS.Native.File

/-!
# The filesystem head

Model of `filesystem_head` (`LIBS/defs_filesystem.h`) on a POSIX system: the functions
that move it through a directory tree, those that read what is there, and those that
remove it.  Strings are lists of characters.

The process's working directory is moved by `chdir`.  The class keeps `chdir` as a
`function<bool(char*)>`, so its `0` on success turns into `false` and its `-1` on
failure into `true`.
-/

namespace NetworkedFS

open PathName (Name)

/-! ## The class -/

/-- `FILESYSTEM_HEAD_NIX_NODE_DELIMETERp`. -/
def nodeDelimeter : Char := '/'

/-- A path below another one; one delimiter at its end is cut off. -/
def extendPath (path directory : List Char) : List Char :=
  path ++ nodeDelimeter ::
    (if directory.getLast? = some nodeDelimeter then directory.dropLast else directory)

/-- `filesystem_local_errors_lookup`. -/
inductive FilesystemError where
  | cannotChangeDirectory
  | cannotUpdateDirectory
  | cannotOpenDirectory
  | cannotCreateDirectory
  | cannotRemoveDirectory
  deriving DecidableEq, Repr

/-- The enumerator's value. -/
def FilesystemError.code : FilesystemError → Int
  | .cannotChangeDirectory => 0
  | .cannotUpdateDirectory => 1
  | .cannotOpenDirectory => 2
  | .cannotCreateDirectory => 3
  | .cannotRemoveDirectory => 4

/-- `filesystem_local_errors`, as the constructor hands it to the base class. -/
def filesystemErrors : ClassErrors := subclassErrors
  ["Cannot change directory", "Cannot update directory", "Cannot open directory",
    "Cannot create directory", "Cannot create directory"]

/-- The mutable members of a `filesystem_head`. -/
structure FilesystemHead where
  directoryKnown : Bool
  currentDirectory : List Char
  debugStatus : DebugStatus := {}
  deriving DecidableEq, Repr

/-- A head and the process it runs in. -/
structure FilesystemState where
  head : FilesystemHead
  process : Process

namespace FilesystemState

/-- The constructor. -/
def construct (process : Process) (setCurrentDirectory : List Char) : FilesystemState where
  head :=
    { directoryKnown := setCurrentDirectory ≠ []
      currentDirectory := setCurrentDirectory }
  process := process

/-- A call of `filesystem_change_directory_function`: the `int` of `chdir` as a `bool`. -/
def changeDirectoryFunction (s : FilesystemState) (path : List Char) : Bool × FilesystemState :=
  let (code, process) := s.process.chdir path
  (code ≠ 0, { s with process := process })

def setCurrentDirectory (s : FilesystemState) (directory : List Char) : FilesystemState :=
  { s with head := { s.head with currentDirectory := directory } }

def setReturnCode (s : FilesystemState) (error : FilesystemError) :
    Except Fault FilesystemState := do
  let status ← s.head.debugStatus.setReturnCode filesystemErrors error.code
  return { s with head := { s.head with debugStatus := status } }

/-- Stores the root; the working directory is asked to change only when the root ends
    in a delimiter, which is then cut off. -/
def setRoot (s : FilesystemState) (root : List Char) : Except Fault (Bool × FilesystemState) :=
  let s := { s with head := { s.head with currentDirectory := root, directoryKnown := true } }
  match root.getLast? with
  -- an empty root is stored and nothing else happens
  | none => .ok (false, s)
  | some last =>
    if last = nodeDelimeter then
      .ok ((s.setCurrentDirectory root.dropLast).changeDirectoryFunction root.dropLast)
    else .ok (false, s)

/-- `complete_directory`. -/
def completeDirectory (s : FilesystemState) (directory : List Char) : List Char :=
  extendPath s.head.currentDirectory directory

/-- Asks for the directory below the tracked one, which becomes the tracked one when the
    function's result is not zero.  The last character of an empty argument is read out
    of range. -/
def changeDirectory (s : FilesystemState) (directory : List Char) :
    Except Fault (Bool × FilesystemState) :=
  if s.head.directoryKnown then
    if directory = [] then .error .undefined
    else
      let complete := s.completeDirectory directory
      let (result, s) := s.changeDirectoryFunction complete
      -- true is what a failing `chdir` gives
      if result then .ok (true, s.setCurrentDirectory complete)
      else do
        let s ← s.setReturnCode .cannotChangeDirectory
        return (false, s)
  else .error .assertion

/-- The scan of `stepBackDirectory` from the end of the string, with `string_index + 1`
    characters left.  The index is unsigned, so its own test never ends the loop; with no
    characters left it is read out of range. -/
def stepBackScan (text : List Char) (stepsBackward : Int) :
    Int → Nat → Except Fault (Int × Nat)
  | matched, 0 => if matched < stepsBackward then .error .undefined else .ok (matched, 0)
  | matched, left + 1 =>
    if matched < stepsBackward then
      match text[left]? with
      | none => .error .undefined
      | some c =>
        stepBackScan text stepsBackward (if c = nodeDelimeter then matched + 1 else matched) left
    else .ok (matched, left + 1)

/-- Strips components off the tracked directory and asks `changeDirectory` for the rest. -/
def stepBackDirectory (s : FilesystemState) (stepsBackward : Int) :
    Except Fault (Bool × FilesystemState) :=
  if s.head.directoryKnown then do
    let text := s.head.currentDirectory
    let (matched, left) ← stepBackScan text stepsBackward 0 text.length
    if matched = stepsBackward then do
      let parent := text.take left
      let (result, s) ← s.changeDirectory parent
      -- the prefix is tracked in any case
      return (result, s.setCurrentDirectory parent)
    else return (false, s)
  else .error .assertion

def stepForwardDirectory (s : FilesystemState) (targetNode : List Char) :
    Except Fault (Bool × FilesystemState) :=
  if s.head.directoryKnown then s.changeDirectory targetNode else .error .assertion

/-- The entries of a directory, or of the working directory.  There is no list of no
    entries: that is a null pointer. -/
def listCurrentDirectory (disk : Disk) (s : FilesystemState) (directory : List Char) :
    Except Fault (Option (List (Name × Bool)) × FilesystemState) :=
  if s.head.directoryKnown then
    let current :=
      if directory = [] then ['.', nodeDelimeter]
      else if directory.getLast? = some nodeDelimeter then directory
      else directory ++ [nodeDelimeter]
    match (s.process.target current).bind disk.listing with
    | some entries => .ok (if entries = [] then none else some entries, s)
    | none => do
      let s ← s.setReturnCode .cannotOpenDirectory
      return (none, s)
  else .error .assertion

/-- The content and the size of a file in the tracked directory. -/
def getFile (disk : Disk) (s : FilesystemState) (fileName : List Char) :
    Except Fault (CharPointer × Int) := do
  let completePath := s.head.currentDirectory ++ nodeDelimeter :: fileName
  let (disk, targetFile) ← FileDescriptor.construct disk s.process completePath .binary
  if !s.head.directoryKnown then .error .assertion else
  let (content, size, _) ← targetFile.readFileBinary disk
  return (content, size)

/-- The modes `in` and `binary` are those that read.  A size of -1, the default, asks for the
    text up to its terminator. -/
def createFile (disk : Disk) (s : FilesystemState) (fileName : List Char) (content : CharPointer)
    (isBinaryFile : Bool) (size : Int) : Except Fault (Bool × Disk) := do
  let mode ← FileMode.ofValue (FileMode.in_.value + isBinaryFile.toInt)
  let (disk, fileToWrite) ← FileDescriptor.construct disk s.process fileName mode
  if !s.head.directoryKnown then .error .assertion else
  let size ← if size = -1 then content.strlen.map Int.ofNat else .ok size
  let (disk, _) ← fileToWrite.writeFile disk content size
  return (true, disk)

/-- The default argument of `removeDirectory`. -/
def defaultRemoved : List Char := ['.', '/']

def removeDirectory (calls : RemovalCalls) (s : FilesystemState) (directory : List Char) :
    Except Fault (Bool × FilesystemState) :=
  if s.head.directoryKnown then
    let (code, process) := calls.rmdir s.process (cString directory)
    let s := { s with process := process }
    if code = 0 then .ok (true, s)
    else do
      let s ← s.setReturnCode .cannotRemoveDirectory
      return (false, s)
  else .error .assertion

def deleteFile (calls : RemovalCalls) (s : FilesystemState) (fileName : List Char) :
    Except Fault (Bool × FilesystemState) :=
  if s.head.directoryKnown then
    let (code, process) := calls.unlink s.process (cString fileName)
    .ok (code = 0, { s with process := process })
  else .error .assertion

end FilesystemState

end NetworkedFS
