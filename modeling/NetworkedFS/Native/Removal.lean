import NetworkedFS.Native.Internal

/-!
# Removing entries from a disk

The functions of `filesystem_head` (`LIBS/defs_filesystem.h`) and of
`internal_unbalanced_tree_filesystem` (`LIBS/defs_internal.h`) that remove an entry, with the
disk that it is removed from.  Without the disk they are the functions of the same names in
`Native.Filesystem` and `Native.Internal`.
-/

namespace NetworkedFS

/-- The system calls that remove directory entries: the code they return, and what they leave
    of the disk and of the process. -/
structure DiskCalls where
  rmdir : Disk → Process → List Char → Int × Disk × Process
  unlink : Disk → Process → List Char → Int × Disk × Process

/-- The calls on one disk, without what becomes of it. -/
def DiskCalls.removal (calls : DiskCalls) (disk : Disk) : RemovalCalls where
  rmdir process path := ((calls.rmdir disk process path).1, (calls.rmdir disk process path).2.2)
  unlink process path := ((calls.unlink disk process path).1, (calls.unlink disk process path).2.2)

namespace FilesystemState

def removeDirectoryOn (calls : DiskCalls) (disk : Disk) (s : FilesystemState)
    (directory : List Char) : Except Fault (Bool × Disk × FilesystemState) :=
  if s.head.directoryKnown then
    let (code, disk, process) := calls.rmdir disk s.process (cString directory)
    let s := { s with process := process }
    if code = 0 then .ok (true, disk, s)
    else do
      let s ← s.setReturnCode .cannotRemoveDirectory
      return (false, disk, s)
  else .error .assertion

def deleteFileOn (calls : DiskCalls) (disk : Disk) (s : FilesystemState) (fileName : List Char) :
    Except Fault (Bool × Disk × FilesystemState) :=
  if s.head.directoryKnown then
    let (code, disk, process) := calls.unlink disk s.process (cString fileName)
    .ok (code = 0, disk, { s with process := process })
  else .error .assertion

end FilesystemState

namespace InternalFilesystem

/-- Removes the current directory on disk and in the tree; returns `0` in any case. -/
def killParentOn (calls : DiskCalls) (disk : Disk) (s : InternalFilesystem) :
    Except Fault (Bool × Disk × InternalFilesystem) :=
  if s.offsetArmed then do
    match ← s.filesystemTree.getNode [] with
    | none => return (false, disk, s)
    | some data =>
      if ← readIsDirectory data then
        let (_, disk, reader) ←
          s.filesystemReader.removeDirectoryOn calls disk FilesystemState.defaultRemoved
        let (_, tree) ← s.filesystemTree.removeNode []
        return (false, disk, { s with filesystemReader := reader, filesystemTree := tree })
      else return (false, disk, s)
  else .error .assertion

/-- Removes a child on disk and in the tree; returns `0` in any case. -/
def killChildOn (calls : DiskCalls) (disk : Disk) (s : InternalFilesystem) (name : List Char) :
    Except Fault (Bool × Disk × InternalFilesystem) :=
  if s.offsetArmed then do
    match ← s.filesystemTree.getNode name with
    | none => return (false, disk, s)
    | some data =>
      if ← readIsDirectory data then
        let (stepped, s) ← s.stepForwardsOnce name
        if stepped then
          let (_, disk, s) ← s.killParentOn calls disk
          return (false, disk, s)
        else return (false, disk, s)
      else
        let (_, disk, reader) ← s.filesystemReader.deleteFileOn calls disk name
        let (_, tree) ← s.filesystemTree.removeNode name
        return (false, disk, { s with filesystemReader := reader, filesystemTree := tree })
  else .error .assertion

end InternalFilesystem

end NetworkedFS
