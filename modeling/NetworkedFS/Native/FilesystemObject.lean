import NetworkedFS.Native.FileStatus
import NetworkedFS.Native.Removal

/-!
# The whole filesystem head

A `filesystem_head` (`LIBS/defs_filesystem.h`) with all of its members, on a disk, and the calls
of its public interface.  Most of the functions are those of the modules for its parts;
`getDelimeter`, `makeDirectory` and `manuallyRectifyDirectory` come here.

The disk and the process are shared: in between two calls others may do anything to them.
-/

namespace NetworkedFS

open PathName (Name)

/-- The system calls of the class, besides those that move the process and those on files.
    `mkdir` has its mode bound. -/
structure SystemCalls extends DiskCalls where
  mkdir : Disk → Process → List Char → Int × Disk × Process
  /-- What `stat` and `readdir` say. -/
  view : Disk → Process → SystemView

namespace FilesystemState

def getDelimeter (_s : FilesystemState) : Char := nodeDelimeter

def manuallyRectifyDirectory (s : FilesystemState) (directory : List Char) : FilesystemState :=
  { s with head := { s.head with directoryKnown := true, currentDirectory := directory } }

def makeDirectoryOn (calls : SystemCalls) (disk : Disk) (s : FilesystemState)
    (directory : List Char) : Except Fault (Bool × Disk × FilesystemState) :=
  if s.head.directoryKnown then
    let (code, disk, process) := calls.mkdir disk s.process (cString directory)
    let s := { s with process := process }
    if code = 0 then .ok (true, disk, s)
    else do
      let s ← s.setReturnCode .cannotCreateDirectory
      return (false, disk, s)
  else .error .assertion

end FilesystemState

/-- All members, and the disk. -/
structure FilesystemObject where
  status : StatusHead
  disk : Disk

/-- What a call gives back. -/
inductive FilesystemReply where
  | nothing
  | flag (value : Bool)
  | delimeter (value : Char)
  | listing (entries : Option (List (Name × Bool)))
  | file (content : CharPointer) (size : Int)
  deriving DecidableEq, Repr

/-- The public interface, and what others do in between. -/
inductive FilesystemOp where
  | getDelimeter
  | fileExists (filePath : List Char)
  | directoryExists (directoryPath : List Char)
  | setRoot (root : List Char)
  | changeDirectory (directory : List Char)
  | stepBackDirectory (stepsBackward : Int)
  | stepForwardDirectory (targetNode : List Char)
  | manuallyRectifyDirectory (directory : List Char)
  | listCurrentDirectory (directory : List Char)
  | makeDirectory (directory : List Char)
  | removeDirectory (directory : List Char)
  | createFile (fileName : List Char) (content : CharPointer) (isBinaryFile : Bool) (size : Int)
  | getFile (fileName : List Char)
  | deleteFile (fileName : List Char)
  /-- Not a call: the disk and the process are as others have left them. -/
  | others (disk : Disk) (process : Process)

namespace FilesystemObject

def construct (disk : Disk) (process : Process) (setCurrentDirectory : List Char) :
    FilesystemObject where
  status := { filesystem := .construct process setCurrentDirectory }
  disk := disk

def filesystem (s : FilesystemObject) : FilesystemState := s.status.filesystem

def withFilesystem (s : FilesystemObject) (filesystem : FilesystemState) : FilesystemObject :=
  { s with status := { s.status with filesystem := filesystem } }

/-- What the system says now. -/
def view (calls : SystemCalls) (s : FilesystemObject) : SystemView :=
  calls.view s.disk s.filesystem.process

/-- A call that asks for the kind of a path. -/
def asked (s : FilesystemObject) (r : Bool × StatusHead) : FilesystemReply × FilesystemObject :=
  (.flag r.1, { s with status := r.2 })

/-- A call that moves the head. -/
def moved (s : FilesystemObject) (r : Bool × FilesystemState) :
    FilesystemReply × FilesystemObject :=
  (.flag r.1, s.withFilesystem r.2)

/-- A call that changes the directories on the disk. -/
def changed (s : FilesystemObject) (r : Bool × Disk × FilesystemState) :
    FilesystemReply × FilesystemObject :=
  (.flag r.1, { s.withFilesystem r.2.2 with disk := r.2.1 })

def others (s : FilesystemObject) (disk : Disk) (process : Process) : FilesystemObject :=
  { s.withFilesystem { s.filesystem with process := process } with disk := disk }

/-- One call, or what others do between two. -/
def step (calls : SystemCalls) (s : FilesystemObject) :
    FilesystemOp → Except Fault (FilesystemReply × FilesystemObject)
  | .getDelimeter => .ok (.delimeter s.filesystem.getDelimeter, s)
  | .fileExists path => (s.status.fileExists (s.view calls) path).map s.asked
  | .directoryExists path => (s.status.directoryExists (s.view calls) path).map s.asked
  | .setRoot root => (s.filesystem.setRoot root).map s.moved
  | .changeDirectory directory => (s.filesystem.changeDirectory directory).map s.moved
  | .stepBackDirectory steps => (s.filesystem.stepBackDirectory steps).map s.moved
  | .stepForwardDirectory target => (s.filesystem.stepForwardDirectory target).map s.moved
  | .manuallyRectifyDirectory directory =>
    .ok (.nothing, s.withFilesystem (s.filesystem.manuallyRectifyDirectory directory))
  | .listCurrentDirectory directory =>
    (s.status.listCurrentDirectory (s.view calls) directory).map fun r =>
      (.listing r.1, { s with status := r.2 })
  | .makeDirectory directory =>
    (s.filesystem.makeDirectoryOn calls s.disk directory).map s.changed
  | .removeDirectory directory =>
    (s.filesystem.removeDirectoryOn calls.toDiskCalls s.disk directory).map s.changed
  | .createFile name content isBinary size =>
    (s.filesystem.createFile s.disk name content isBinary size).map fun r =>
      (.flag r.1, { s with disk := r.2 })
  | .getFile name => (s.filesystem.getFile s.disk name).map fun r => (.file r.1 r.2, s)
  | .deleteFile name =>
    (s.filesystem.deleteFileOn calls.toDiskCalls s.disk name).map s.changed
  | .others disk process => .ok (.nothing, s.others disk process)

end FilesystemObject

end NetworkedFS
