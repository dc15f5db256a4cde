import NetworkedFS.ForStd.RoseTree
import NetworkedFS.Native.Filesystem

/-!
# The internal tree and its filesystem

Model of `internal_unbalanced_tree` and of the calls of
`internal_unbalanced_tree_filesystem` that move its two cursors
(`LIBS/defs_internal.h`).  The raw pointers into the tree are positions; reading through
one that leads to no node is undefined.
-/

namespace NetworkedFS

open RoseTree (Position)

/-! ## `internal_unbalanced_tree` -/

/-- What the tree asks of its node data: a name. -/
class NodeName (α : Type) where
  name : α → List Char

/-- `internal_node_container_struct` without its children; the constructor makes the
    parent null. -/
structure NodeContainer (α : Type) where
  parent : Option Position := none
  element : α

structure InternalUnbalancedTree (α : Type) where
  head : RoseTree (NodeContainer α)
  heapPointer : Position

namespace InternalUnbalancedTree

variable {α : Type} [NodeName α]

/-- The constructor: the pointer starts at the head. -/
def construct (element : α) : InternalUnbalancedTree α where
  head := .node { element := element } []
  heapPointer := []

/-- The node under `internal_heap_pointer`. -/
def current (t : InternalUnbalancedTree α) : Except Fault (RoseTree (NodeContainer α)) :=
  match RoseTree.find? t.heapPointer t.head with
  | none => .error .undefined
  | some node => .ok node

/-- `find_if` on the children of a node: the index of the first with this name. -/
def findChild (node : RoseTree (NodeContainer α)) (name : List Char) : Option Nat :=
  node.children.findIdx? fun child => NodeName.name child.label.element = name

def addNode (t : InternalUnbalancedTree α) (child : RoseTree (NodeContainer α)) :
    Except Fault (Bool × InternalUnbalancedTree α) := do
  -- the child is copied as it is: its parent pointer is not set
  let _ ← t.current
  return (true, { t with
    head := RoseTree.updateChildren (fun children => children ++ [child]) t.heapPointer t.head })

/-- The part of `removeNode` behind the end of the children: the pointer goes to the
    parent, whose first child with the same name is erased. -/
def removeCurrent (t : InternalUnbalancedTree α) (node : RoseTree (NodeContainer α)) :
    Except Fault (InternalUnbalancedTree α) :=
  match node.label.parent with
  | none => .error .undefined
  | some position => do
    let t := { t with heapPointer := position }
    let above ← t.current
    match findChild above (NodeName.name node.label.element) with
    | none => .error .undefined
    | some i =>
      return { t with
        head := RoseTree.updateChildren (fun children => children.eraseIdx i) position t.head }

/-- Removes the first child with this name; without a name the current node's children
    and, below the head, the node itself. -/
def removeNode (t : InternalUnbalancedTree α) (name : List Char) :
    Except Fault (Bool × InternalUnbalancedTree α) := do
  let node ← t.current
  if name ≠ [] then
    match findChild node name with
    | none => return (false, t)
    | some i =>
      return (true, { t with
        head :=
          RoseTree.updateChildren (fun children => children.eraseIdx i) t.heapPointer t.head })
  else
    let t := { t with head := RoseTree.updateChildren (fun _ => []) t.heapPointer t.head }
    if t.heapPointer ≠ [] then do
      let t ← t.removeCurrent node
      return (true, t)
    else return (true, t)

/-- The data of the first child with this name, or of the current node. -/
def getNode (t : InternalUnbalancedTree α) (name : List Char) : Except Fault (Option α) := do
  let node ← t.current
  if name = [] then return some node.label.element
  else
    match findChild node name with
    | none => return none
    | some i => return (node.children[i]?).map fun child => child.label.element

def moveUp (t : InternalUnbalancedTree α) : Except Fault (Bool × InternalUnbalancedTree α) := do
  let node ← t.current
  match node.label.parent with
  | none => return (false, t)
  | some position => return (true, { t with heapPointer := position })

def moveDown (t : InternalUnbalancedTree α) (name : List Char) :
    Except Fault (Bool × InternalUnbalancedTree α) := do
  let node ← t.current
  match findChild node name with
  | none => return (false, t)
  | some i => return (true, { t with heapPointer := t.heapPointer ++ [i] })

/-- `bfsStep` with an empty stack: the current node, and how many pointers are pushed.
    All of them point to the variable of a range-based loop, which is gone afterwards. -/
def bfsStart (t : InternalUnbalancedTree α) :
    Except Fault (RoseTree (NodeContainer α) × Nat) := do
  let node ← t.current
  return (node, node.children.length)

/-- Clears the current node, and then those on the stack, which no other call leaves
    filled. -/
def clean (t : InternalUnbalancedTree α) : Except Fault (InternalUnbalancedTree α) := do
  let (_, pushed) ← t.bfsStart
  let t := { t with head := RoseTree.updateChildren (fun _ => []) t.heapPointer t.head }
  -- the next `bfsStep` reads through a pointer to the loop variable
  if pushed ≠ 0 then .error .undefined else return t

/-- The public operations that move the pointer or change the tree.  A child comes in a
    container that is default-constructed but for its element. -/
inductive Op (α : Type) where
  | addNode (element : α)
  | removeNode (name : List Char)
  | moveUp
  | moveDown (name : List Char)
  | clean

/-- One call of the public interface; `clean` gives nothing back, which is `none`. -/
def step (t : InternalUnbalancedTree α) :
    Op α → Except Fault (Option Bool × InternalUnbalancedTree α)
  | .addNode element =>
    (t.addNode (.node { element := element } [])).map fun (r, t) => (some r, t)
  | .removeNode name => (t.removeNode name).map fun (r, t) => (some r, t)
  | .moveUp => t.moveUp.map fun (r, t) => (some r, t)
  | .moveDown name => (t.moveDown name).map fun (r, t) => (some r, t)
  | .clean => t.clean.map fun t => (none, t)

/-- `while(levels--) moveUp();` -/
def moveUpTimes (t : InternalUnbalancedTree α) : Nat → Except Fault (InternalUnbalancedTree α)
  | 0 => .ok t
  | levels + 1 => do
    let (_, t) ← t.moveUp
    t.moveUpTimes levels

end InternalUnbalancedTree

/-! ## `internal_unbalanced_tree_filesystem` -/

/-- `internal_node_data`.  The default constructor leaves the two flags without values. -/
structure NodeData where
  isDirectory : Option Bool := none
  name : List Char := []
  isForeign : Option Bool := none
  host : List Char := []
  lookup : List Char := []
  fileContent : Option (List UInt8) := none
  deriving DecidableEq, Repr

instance : NodeName NodeData where
  name data := data.name

/-- `set`: does nothing for a foreign node, and never sets the name. -/
def NodeData.set (data : NodeData) (isForeign isDirectory : Bool) (lookup : List Char)
    (host : List Char) (fileContent : Option (List UInt8)) : NodeData :=
  if isForeign then data
  else { data with
    isDirectory := some isDirectory
    isForeign := some isForeign
    fileContent := fileContent
    host := host
    lookup := lookup }

/-- What the modelled calls use of an `internal_unbalanced_tree_filesystem`. -/
structure InternalFilesystem where
  offsetArmed : Bool
  filesystemOffset : List Char
  filesystemReader : FilesystemState
  filesystemTree : InternalUnbalancedTree NodeData

/-- `isspace` of the classic locale, at which `operator>>` splits. -/
def isSpace (c : Char) : Bool :=
  c = ' ' || (9 ≤ c.toNat && c.toNat ≤ 13)

/-- The strings an `istream_iterator<string>` reads. -/
def splitWords (text : List Char) : List (List Char) :=
  (text.splitOnP isSpace).filter fun word => !word.isEmpty

/-- `child_for_tree_update` in the loop of `pathChangeInline`. -/
def childForTreeUpdate : RoseTree (NodeContainer NodeData) :=
  .node { element := NodeData.set {} false true [] [] none } []

/-- The variables of the loop of `pathChangeInline`. -/
structure PathLoop where
  pathHeaped : Bool
  levelsDown : Nat
  result : List Char
  reader : FilesystemState
  tree : InternalUnbalancedTree NodeData

namespace PathLoop

/-- One round of the loop, after its condition: `stepForwardDirectory` has returned
    `false` for this word. -/
def body (v : PathLoop) (total : Nat) (word : List Char) : Except Fault PathLoop := do
  -- `path_heaped` starts out false and is never made true
  let (moved, tree) ← if v.pathHeaped then v.tree.moveDown word else .ok (false, v.tree)
  if !v.pathHeaped || !moved then
    let (_, tree) ← tree.addNode childForTreeUpdate
    return { v with pathHeaped := false, tree := tree, levelsDown := v.levelsDown + 1 }
  else
    let result := v.result ++ word
    return { v with
      tree := tree
      result := if (v.levelsDown : Int) ≠ total - 2 then result ++ [nodeDelimeter] else result
      levelsDown := v.levelsDown + 1 }

/-- The loop over the words that are left. -/
def run (total : Nat) : PathLoop → List (List Char) → Except Fault PathLoop
  | v, [] => .ok v
  | v, word :: words => do
    let (stop, reader) ← v.reader.stepForwardDirectory word
    let v := { v with reader := reader }
    if stop then return v
    else
      let v ← v.body total word
      v.run total words

end PathLoop

namespace InternalFilesystem

/-- Walks both cursors along the words of the path. -/
def pathChangeInline (s : InternalFilesystem) (path : List Char) (keepMove : Bool) :
    Except Fault (List Char × InternalFilesystem) :=
  if s.offsetArmed then
    if path = [] then .ok ([], s)
    else do
      let words := splitWords path
      let v ← PathLoop.run words.length
        { pathHeaped := false, levelsDown := 0, result := [], reader := s.filesystemReader,
          tree := s.filesystemTree } words
      let tree ←
        if path ≠ v.result || !keepMove then v.tree.moveUpTimes v.levelsDown else .ok v.tree
      let reader ←
        if v.result ≠ [] then do
          let (_, reader) ← v.reader.changeDirectory []
          pure reader
        else pure v.reader
      return (v.result, { s with filesystemReader := reader, filesystemTree := tree })
  else .error .assertion

def pathExists (s : InternalFilesystem) (path : List Char) :
    Except Fault (Bool × InternalFilesystem) :=
  if s.offsetArmed then do
    let (result, s) ← s.pathChangeInline path false
    return (result ≠ [], s)
  else .error .assertion

def pathChange (s : InternalFilesystem) (path : List Char) :
    Except Fault (Bool × InternalFilesystem) :=
  if s.offsetArmed then do
    let (result, s) ← s.pathChangeInline path true
    return (result ≠ [], s)
  else .error .assertion

/-- Both moves are made; `&=` does not stop at the first that fails. -/
def stepBackwardsOnce (s : InternalFilesystem) : Except Fault (Bool × InternalFilesystem) :=
  if s.offsetArmed then do
    let (stepped, reader) ← s.filesystemReader.stepBackDirectory 0
    let (moved, tree) ← s.filesystemTree.moveUp
    return (stepped && moved, { s with filesystemReader := reader, filesystemTree := tree })
  else .error .assertion

/-- Both moves are made, but `result` starts as `false`. -/
def stepForwardsOnce (s : InternalFilesystem) (name : List Char) :
    Except Fault (Bool × InternalFilesystem) :=
  if s.offsetArmed then do
    let (stepped, reader) ← s.filesystemReader.stepForwardDirectory name
    let (moved, tree) ← s.filesystemTree.moveDown name
    return (false && stepped && moved,
      { s with filesystemReader := reader, filesystemTree := tree })
  else .error .assertion

/-- Reading `is_directory`; its value may be indeterminate. -/
def readIsDirectory (data : NodeData) : Except Fault Bool :=
  match data.isDirectory with
  | none => .error .undefined
  | some isDirectory => .ok isDirectory

/-- Removes the current directory on disk and in the tree; returns `0` in any case. -/
def killParent (calls : RemovalCalls) (s : InternalFilesystem) :
    Except Fault (Bool × InternalFilesystem) :=
  if s.offsetArmed then do
    match ← s.filesystemTree.getNode [] with
    | none => return (false, s)
    | some data =>
      if ← readIsDirectory data then
        let (_, reader) ← s.filesystemReader.removeDirectory calls FilesystemState.defaultRemoved
        let (_, tree) ← s.filesystemTree.removeNode []
        return (false, { s with filesystemReader := reader, filesystemTree := tree })
      else return (false, s)
  else .error .assertion

/-- Removes a child on disk and in the tree; returns `0` in any case. -/
def killChild (calls : RemovalCalls) (s : InternalFilesystem) (name : List Char) :
    Except Fault (Bool × InternalFilesystem) :=
  if s.offsetArmed then do
    match ← s.filesystemTree.getNode name with
    | none => return (false, s)
    | some data =>
      if ← readIsDirectory data then
        let (stepped, s) ← s.stepForwardsOnce name
        if stepped then
          let (_, s) ← s.killParent calls
          return (false, s)
        else return (false, s)
      else
        let (_, reader) ← s.filesystemReader.deleteFile calls name
        let (_, tree) ← s.filesystemTree.removeNode name
        return (false, { s with filesystemReader := reader, filesystemTree := tree })
  else .error .assertion

end InternalFilesystem

end NetworkedFS
