import NetworkedFS.Native.Filesystem

/-!
# Asking what a path is

Model of the functions of `filesystem_head` that call `stat` (`LIBS/defs_filesystem.h`).  They
share one status structure and do not look at what `stat` returns; a `stat` that fails leaves
the structure as it was.

What the system says while a function runs is an argument.
-/

namespace NetworkedFS

open PathName (Name)

/-- What an `st_mode` says. -/
inductive FileKind where
  | regular
  | directory
  | other
  deriving DecidableEq, Repr

/-- What the system says of a path: its kind, unless `stat` fails, and the names that `readdir`
    gives, unless `opendir` fails. -/
structure SystemView where
  stat : List Char → Option FileKind
  readdir : List Char → Option (List Name)

/-- A head with its status structure, which has no value before a `stat` succeeds. -/
structure StatusHead where
  filesystem : FilesystemState
  statusStructure : Option FileKind := none

namespace StatusHead

/-- A call of `filesystem_get_file_status_function`. -/
def getFileStatusFunction (view : SystemView) (s : StatusHead) (path : List Char) : StatusHead :=
  { s with statusStructure := (view.stat path).or s.statusStructure }

/-- `S_ISREG` and `S_ISDIR` of the status structure. -/
def isKind (s : StatusHead) (kind : FileKind) : Except Fault Bool :=
  match s.statusStructure with
  | none => .error .undefined
  | some held => .ok (held = kind)

/-- What `fileExists` and `directoryExists` share. -/
def kindExists (view : SystemView) (s : StatusHead) (kind : FileKind) (path : List Char) :
    Except Fault (Bool × StatusHead) := do
  let s := s.getFileStatusFunction view path
  let result ← s.isKind kind
  return (result, s)

def fileExists (view : SystemView) (s : StatusHead) (filePath : List Char) :
    Except Fault (Bool × StatusHead) :=
  s.kindExists view .regular filePath

def directoryExists (view : SystemView) (s : StatusHead) (directoryPath : List Char) :
    Except Fault (Bool × StatusHead) :=
  s.kindExists view .directory directoryPath

/-- The loop of `listCurrentDirectory`. -/
def listEntries (view : SystemView) (currentDirectory : List Char) :
    List Name → StatusHead → Except Fault (List (Name × Bool) × StatusHead)
  | [], s => .ok ([], s)
  | name :: names, s => do
    let targetNode := currentDirectory ++ name
    let (isDirectory, s) ← s.directoryExists view targetNode
    -- a directory is not asked whether it is a file
    let (typeIsFile, s) ← if isDirectory then .ok (false, s) else s.fileExists view targetNode
    let (rest, s) ← listEntries view currentDirectory names s
    return (if isDirectory || typeIsFile then (name, typeIsFile) :: rest else rest, s)

/-- The path that `listCurrentDirectory` opens. -/
def listedDirectory (directory : List Char) : List Char :=
  if directory = [] then ['.', nodeDelimeter]
  else if directory.getLast? = some nodeDelimeter then directory
  else directory ++ [nodeDelimeter]

/-- There is no list of no entries: that is a null pointer. -/
def listResult (entries : List (Name × Bool)) : Option (List (Name × Bool)) :=
  if entries = [] then none else some entries

def listCurrentDirectory (view : SystemView) (s : StatusHead) (directory : List Char) :
    Except Fault (Option (List (Name × Bool)) × StatusHead) :=
  if s.filesystem.head.directoryKnown then
    let currentDirectory := listedDirectory directory
    match view.readdir currentDirectory with
    | some names => do
      let (entries, s) ← listEntries view currentDirectory names s
      return (listResult entries, s)
    | none => do
      let filesystem ← s.filesystem.setReturnCode .cannotOpenDirectory
      return (none, { s with filesystem })
  else .error .assertion

end StatusHead

end NetworkedFS
