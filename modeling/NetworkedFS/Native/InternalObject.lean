import NetworkedFS.Native.BreadthFirst
import NetworkedFS.Native.ForeignLookup
import NetworkedFS.Native.Removal
import NetworkedFS.Native.Representation

/-!
# The whole internal filesystem

An `internal_unbalanced_tree_filesystem` (`LIBS/defs_internal.h`) with all of its members, on a
disk, and the calls of its public interface.  The functions themselves are those of the modules
for its parts; the constructor, `setFilesystemOffset` and the three functions that are not
written yet come here.

The disk and the process are shared: in between two calls other parts of the program, and other
programs, may do anything to them.
-/

namespace NetworkedFS

namespace InternalFilesystem

/-- The constructor. -/
def construct (process : Process) : InternalFilesystem where
  offsetArmed := false
  filesystemOffset := []
  filesystemReader := .construct process []
  filesystemTree := .construct {}

/-- The offset is armed when the reader says that the root was set. -/
def setFilesystemOffset (s : InternalFilesystem) (offset : List Char) :
    Except Fault (Bool × InternalFilesystem) := do
  let (result, reader) ← s.filesystemReader.setRoot offset
  return (result, { s with
    filesystemOffset := offset
    filesystemReader := reader
    offsetArmed := result })

/-- Nothing is serialized yet. -/
def serializeRequest (s : InternalFilesystem) (_lookup : List Char) : Except Fault (List Char) :=
  if s.offsetArmed then .ok [] else .error .assertion

def deserializeResponse (s : InternalFilesystem) (_serializedResponse : List Char) :
    Except Fault Unit :=
  if s.offsetArmed then .ok () else .error .assertion

def serializeResponse (s : InternalFilesystem) (_serializedRequest : List Char) :
    Except Fault (List Char) :=
  if s.offsetArmed then .ok [] else .error .assertion

end InternalFilesystem

/-- All members, and the disk. -/
structure InternalObject where
  filesystem : InternalFilesystem
  foreignNodes : UMap (List Char) (List Char) := ∅
  hostIdentifier : List Char := []
  bfsStack : List BfsPointer := []
  disk : Disk

/-- What a call gives back. -/
inductive InternalReply where
  | nothing
  | flag (value : Bool)
  | text (value : List Char)
  deriving DecidableEq, Repr

/-- The public interface, and what others do in between. -/
inductive InternalOp where
  | setFilesystemOffset (offset : List Char)
  | updateRepresentation (fuel : Nat)
  | serializeRequest (lookup : List Char)
  | deserializeResponse (serializedResponse : List Char)
  | serializeResponse (serializedRequest : List Char)
  | getForeignLookup (lookup : List Char)
  | addForeignLookup (path host : List Char)
  | removeForeignLookup (lookup : List Char)
  | killParent
  | killChild (name : List Char)
  | pathExists (path : List Char)
  | stepBackwardsOnce
  | stepForwardsOnce (name : List Char)
  | pathChange (path : List Char)
  | setHostIdentifier (identifier : List Char)
  | clean (fuel : Nat)
  /-- Not a call: the disk and the process are as others have left them. -/
  | others (disk : Disk) (process : Process)

namespace InternalObject

def construct (disk : Disk) (process : Process) : InternalObject where
  filesystem := .construct process
  disk := disk

/-- What the lookups use. -/
def foreignLookup (s : InternalObject) : ForeignLookup where
  offsetArmed := s.filesystem.offsetArmed
  foreignNodes := s.foreignNodes

/-- A call that moves the two cursors, or asks whether they could be. -/
def moved (s : InternalObject) (r : Bool × InternalFilesystem) : InternalReply × InternalObject :=
  (.flag r.1, { s with filesystem := r.2 })

/-- A call that may remove something. -/
def killed (s : InternalObject) (r : Bool × Disk × InternalFilesystem) :
    InternalReply × InternalObject :=
  (.flag r.1, { s with disk := r.2.1, filesystem := r.2.2 })

def clean (s : InternalObject) (fuel : Nat) : Except Fault InternalObject := do
  match ← s.filesystem.clean fuel s.bfsStack with
  | none => .error .outOfFuel
  | some (filesystem, bfsStack) =>
    return { s with filesystem, bfsStack, hostIdentifier := [], foreignNodes := ∅ }

def others (s : InternalObject) (disk : Disk) (process : Process) : InternalObject :=
  { s with
    disk := disk
    filesystem := { s.filesystem with
      filesystemReader := { s.filesystem.filesystemReader with process := process } } }

/-- One call, or what others do between two. -/
def step (calls : DiskCalls) (s : InternalObject) :
    InternalOp → Except Fault (InternalReply × InternalObject)
  | .setFilesystemOffset offset => (s.filesystem.setFilesystemOffset offset).map s.moved
  | .updateRepresentation fuel =>
    (s.filesystem.updateRepresentation s.disk fuel).map fun r => s.moved (r.1, r.2.2)
  | .serializeRequest lookup => (s.filesystem.serializeRequest lookup).map fun r => (.text r, s)
  | .deserializeResponse response =>
    (s.filesystem.deserializeResponse response).map fun _ => (.nothing, s)
  | .serializeResponse request => (s.filesystem.serializeResponse request).map fun r => (.text r, s)
  | .getForeignLookup lookup => (s.foreignLookup.getForeignLookup lookup).map fun r => (.text r, s)
  | .addForeignLookup path host =>
    (s.foreignLookup.addForeignLookup path host).map fun r =>
      (.nothing, { s with foreignNodes := r.foreignNodes })
  | .removeForeignLookup lookup =>
    (s.foreignLookup.removeForeignLookup lookup).map fun r =>
      (.flag r.1, { s with foreignNodes := r.2.foreignNodes })
  | .killParent => (s.filesystem.killParentOn calls s.disk).map s.killed
  | .killChild name => (s.filesystem.killChildOn calls s.disk name).map s.killed
  | .pathExists path => (s.filesystem.pathExists path).map s.moved
  | .stepBackwardsOnce => s.filesystem.stepBackwardsOnce.map s.moved
  | .stepForwardsOnce name => (s.filesystem.stepForwardsOnce name).map s.moved
  | .pathChange path => (s.filesystem.pathChange path).map s.moved
  | .setHostIdentifier identifier => .ok (.nothing, { s with hostIdentifier := identifier })
  | .clean fuel => (s.clean fuel).map fun s => (.nothing, s)
  | .others disk process => .ok (.nothing, s.others disk process)

end InternalObject

end NetworkedFS
