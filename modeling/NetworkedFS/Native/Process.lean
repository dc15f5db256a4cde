import NetworkedFS.ForStd.DirectoryTree

/-!
# Processes and files

What the system calls of a POSIX system act on: a process with its working directory, and a
disk.  Strings are lists of characters.
-/

namespace NetworkedFS

open PathName (Name)

/-! ## The process -/

/-- What the system calls act on: the directories there are, and the working
    directory. -/
structure Process where
  tree : DirectoryTree
  cwd : tree.Directory

/-- What a callee sees of a `c_str()`: the string up to its first null character. -/
def cString (text : List Char) : List Char := text.takeWhile (· ≠ '\x00')

namespace Process

/-- The directory, if there is one, that a path name leads to. -/
def target (process : Process) (path : List Char) : Option (List Name) :=
  (DirectoryTree.resolve process.cwd (cString path)).map Subtype.val

/-- `chdir`: `0` and a new working directory, or `-1` and no change. -/
def chdir (process : Process) (path : List Char) : Int × Process :=
  match DirectoryTree.resolve process.cwd (cString path) with
  | some directory => (0, { process with cwd := directory })
  | none => (-1, process)

end Process

/-- A file: its directory and its name. -/
abbrev FilePlace := List Name × Name

/-- The file that a path name leads to. -/
def Process.place (process : Process) (path : List Char) : Option FilePlace :=
  let path := cString path
  match (PathName.components path).getLast? with
  | none => none
  | some name =>
    -- behind a delimiter at the end there would have to be a directory
    if path.getLast? = some '/' then none
    else
      match (PathName.components path).dropLast.foldlM DirectoryTree.enter
          (if path.head? = some '/' then process.tree.root else process.cwd) with
      | none => none
      | some directory => some (directory.1, name)

/-- What the directories hold, by their absolute path, and what can be written there.  The
    directories that can be entered are those of the `DirectoryTree`. -/
structure Disk where
  /-- The entries in the order of `readdir`, each with whether it is a regular file and not a
      directory, unless the directory cannot be opened.  Other entries are left out, as
      `listCurrentDirectory` passes over them. -/
  listing : List Name → Option (List (Name × Bool))
  /-- What can be read from a file. -/
  content : List Name → Name → Option (List UInt8)
  /-- Whether a file can be opened for output. -/
  opensForOutput : FilePlace → Bool := fun _ => true
  /-- How many bytes of some data a file takes. -/
  takes : FilePlace → List UInt8 → Nat := fun _ data => data.length

/-- What a file holds. -/
def Disk.held (disk : Disk) (place : FilePlace) : Option (List UInt8) :=
  disk.content place.1 place.2

/-- The disk with a file that holds these bytes. -/
def Disk.store (disk : Disk) (place : FilePlace) (bytes : List UInt8) : Disk :=
  { disk with
    listing := fun directory => (disk.listing directory).map fun entries =>
      if directory = place.1 ∧ place.2 ∉ entries.map Prod.fst then entries ++ [(place.2, true)]
      else entries
    content := fun directory name =>
      if (directory, name) = place then some bytes else disk.content directory name }

/-- The system calls that remove directory entries, whatever they do. -/
structure RemovalCalls where
  rmdir : Process → List Char → Int × Process
  unlink : Process → List Char → Int × Process

end NetworkedFS
