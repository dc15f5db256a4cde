import NetworkedFS.Native.Internal

/-!
# The traversal that updates the tree

Model of `updateRepresentation` (`LIBS/defs_internal.h`): a depth-first walk over the
directories below the offset, with a stack of levels and names and a count of the levels
gone down.  The loop takes one unit of fuel for each name that it pops.

The loop over a listing is a range-based `for` whose range is dereferenced from a temporary
`shared_ptr`.  The temporary is gone before the first element is read, so how long the
listing lives is part of the model.

Besides what the function computes, the traversal records the directories that it enters,
which nothing reads.
-/

namespace NetworkedFS

open PathName (Name)

/-! ## Listings and their owners -/

/-- What all `shared_ptr` to one object have in common. -/
structure SharedBlock (α : Type) where
  object : α
  owners : Nat

namespace SharedBlock

variable {α : Type}

/-- `make_shared`. -/
def make (object : α) : SharedBlock α where
  object := object
  owners := 1

/-- The destructor of one `shared_ptr`; the last one destroys the object. -/
def release (b : SharedBlock α) : SharedBlock α := { b with owners := b.owners - 1 }

/-- Reads the object through a reference to it. -/
def read (b : SharedBlock α) : Except Fault α :=
  if b.owners = 0 then .error .undefined else .ok b.object

end SharedBlock

/-- The elements of `for(auto element : *(pointer))` for a temporary `pointer` that nobody
    shares.  Before C++23 the end of the range's initializer destroys the temporary; only
    then are the elements asked for. -/
def rangeOfTemporary {α : Type} (pointer : Option (List α)) : Except Fault (List α) :=
  match pointer with
  -- a null pointer
  | none => .error .undefined
  | some elements => (SharedBlock.make elements).release.read

/-! ## The traversal -/

/-- `--` on an `int`. -/
def decrement (i : Int) : Except Fault Int :=
  if i = -2 ^ 31 then .error .undefined else .ok (i - 1)

/-- `++` on an `int`. -/
def increment (i : Int) : Except Fault Int :=
  if i = 2 ^ 31 - 1 then .error .undefined else .ok (i + 1)

/-- The directories that are entered along some words, each asked for below the tracked
    directory, up to the first that does not exist. -/
def enteredAlong (tracked : List Char) : Process → List (List Char) → List (List Name)
  | _, [] => []
  | process, word :: words =>
    match process.target (extendPath tracked word) with
    | none => []
    | some directory =>
      directory :: enteredAlong tracked (process.chdir (extendPath tracked word)).2 words

/-- The variables of `updateRepresentation`, and the directories entered. -/
structure Traversal where
  filesystem : InternalFilesystem
  traversalStack : List (Int × List Char)
  lastLevel : Int
  writeFailed : Bool := false
  pathFailure : Bool := false
  entered : List (List Name) := []

namespace InternalFilesystem

/-- `while(last_level-- > level)`, with how many rounds there are. -/
def climb (s : InternalFilesystem) :
    (rounds : Nat) → (lastLevel : Int) → Except Fault (Int × InternalFilesystem)
  | 0, lastLevel => (decrement lastLevel).map (·, s)
  | rounds + 1, lastLevel => do
    let lastLevel ← decrement lastLevel
    let (_, tree) ← s.filesystemTree.moveUp
    let (_, reader) ← s.filesystemReader.stepBackDirectory 0
    climb { s with filesystemTree := tree, filesystemReader := reader } rounds lastLevel

/-- `internal_heap_pointer = &internal_head`. -/
def atHead (s : InternalFilesystem) : InternalFilesystem :=
  { s with filesystemTree := { s.filesystemTree with heapPointer := [] } }

end InternalFilesystem

namespace Traversal

/-- One entry of a listing. -/
def visitEntry (disk : Disk) (v : Traversal) (entry : Name × Bool) : Except Fault Traversal :=
  if entry.2 then do
    let (file, size) ← v.filesystem.filesystemReader.getFile disk entry.1
    if ← file.isNull then
      -- the file is opened for reading, so that the disk stays as it is
      let _ ← v.filesystem.filesystemReader.createFile disk entry.1 file true size
      return v
    else return { v with writeFailed := true }
  else return { v with traversalStack := (v.lastLevel, entry.1) :: v.traversalStack }

/-- One round, after the top of the stack was popped. -/
def body (disk : Disk) (v : Traversal) (top : Int × List Char) : Except Fault Traversal := do
  let (lastLevel, s) ← v.filesystem.climb (v.lastLevel - top.1).toNat v.lastLevel
  let along := enteredAlong s.filesystemReader.head.currentDirectory s.filesystemReader.process
    (splitWords top.2)
  let (changed, s) ← s.pathChangeInline top.2 true
  let v := { v with
    filesystem := s
    lastLevel := lastLevel
    pathFailure := v.pathFailure || decide (top.2 ≠ changed)
    entered := v.entered ++ along }
  if top.2 = changed then do
    let lastLevel ← increment v.lastLevel
    let (listing, reader) ← s.filesystemReader.listCurrentDirectory disk []
    let entries ← rangeOfTemporary listing
    entries.foldlM (visitEntry disk) { v with
      filesystem := { s with filesystemReader := reader }
      lastLevel := lastLevel }
  else return v

def run (disk : Disk) : (fuel : Nat) → Traversal → Except Fault Traversal
  | 0, _ => .error .outOfFuel
  | fuel + 1, v =>
    match v.traversalStack with
    | [] => .ok v
    | top :: rest => do
      let v ← body disk { v with traversalStack := rest } top
      run disk fuel v

end Traversal

namespace InternalFilesystem

/-- Gives back the result, the directories entered and the state. -/
def updateRepresentation (disk : Disk) (fuel : Nat) (s : InternalFilesystem) :
    Except Fault (Bool × List (List Name) × InternalFilesystem) :=
  if s.offsetArmed then do
    let (listing, reader) ← s.filesystemReader.listCurrentDirectory disk []
    let s := { s with filesystemReader := reader }
    match listing with
    | none => .error .undefined
    -- this temporary lives until its vector was asked whether it is empty
    | some entries =>
      if entries = [] then return (true, [], s)
      else
        let v ← Traversal.run disk fuel
          { filesystem := s.atHead, traversalStack := [(0, [])], lastLevel := 0 }
        return (!v.writeFailed && !v.pathFailure, v.entered, v.filesystem.atHead)
  else .error .assertion

end InternalFilesystem

end NetworkedFS
