import NetworkedFS.Native.Internal

/-!
# The breadth-first traversal of the internal tree

`bfsStep` and the `clean` functions of `LIBS/defs_internal.h` once more, with the stack of
node pointers that they share.  The stack is filled with the address of the variable of a
range-based loop, which holds a copy of each child in turn and is gone after the loop.
-/

namespace NetworkedFS

open RoseTree (Position)

/-- A `internal_node_container_struct*` of the stack. -/
inductive BfsPointer where
  | node (position : Position)
  /-- The variable of a loop that has ended. -/
  | loopVariable
  deriving DecidableEq, Repr

/-- An `internal_unbalanced_tree` with its stack; the head of the list is the top. -/
structure InternalBfsTree (α : Type) where
  tree : InternalUnbalancedTree α
  bfsStack : List BfsPointer

namespace InternalBfsTree

variable {α : Type}

/-- The children of the node that a pointer designates. -/
def childrenAt (t : InternalBfsTree α) :
    BfsPointer → Except Fault (List (RoseTree (NodeContainer α)))
  | .node position =>
    match RoseTree.find? position t.tree.head with
    | none => .error .undefined
    | some node => .ok node.children
  -- the copy that the loop variable held is destroyed
  | .loopVariable => .error .undefined

/-- `for(auto get_iterator : children) internal_bfs_stack.emplace(&get_iterator)`. -/
def pushChildren (children : List (RoseTree (NodeContainer α))) (stack : List BfsPointer) :
    List BfsPointer :=
  children.foldl (fun stack _ => .loopVariable :: stack) stack

def bfsStep (t : InternalBfsTree α) : Except Fault (BfsPointer × InternalBfsTree α) := do
  match t.bfsStack with
  | top :: stack =>
    let children ← t.childrenAt top
    return (top, { t with bfsStack := pushChildren children stack })
  | [] =>
    let children ← t.childrenAt (.node t.tree.heapPointer)
    return (.node t.tree.heapPointer, { t with bfsStack := pushChildren children [] })

/-- `get_current = bfsStep(); get_current->children.clear();`. -/
def clearStep (t : InternalBfsTree α) : Except Fault (InternalBfsTree α) := do
  let (current, t) ← t.bfsStep
  match current with
  | .node position => return { t with tree := { t.tree with
      head := RoseTree.updateChildren (fun _ => []) position t.tree.head } }
  | .loopVariable => .error .undefined

/-- The loop of `clean`, for at most `fuel` rounds; `none` if these are too few. -/
def cleanLoop : Nat → InternalBfsTree α → Except Fault (Option (InternalBfsTree α))
  | 0, t => return if t.bfsStack = [] then some t else none
  | fuel + 1, t =>
    if t.bfsStack = [] then return some t
    else do
      let t ← t.clearStep
      cleanLoop fuel t

def clean (fuel : Nat) (t : InternalBfsTree α) : Except Fault (Option (InternalBfsTree α)) := do
  let t ← t.clearStep
  cleanLoop fuel t

end InternalBfsTree

namespace InternalUnbalancedTree

variable {α : Type}

/-- `while(moveUp());`, for at most `fuel` rounds. -/
def moveUpWhile : Nat → InternalUnbalancedTree α →
    Except Fault (Option (InternalUnbalancedTree α))
  | 0, _ => .ok none
  | fuel + 1, t => do
    let (moved, t) ← t.moveUp
    if moved then moveUpWhile fuel t else return some t

end InternalUnbalancedTree

namespace InternalFilesystem

/-- What `clean` does to the flag, the offset and the tree. -/
def clean (fuel : Nat) (s : InternalFilesystem) (bfsStack : List BfsPointer) :
    Except Fault (Option (InternalFilesystem × List BfsPointer)) :=
  if s.offsetArmed then do
    let s := { s with offsetArmed := false, filesystemOffset := [] }
    match ← s.filesystemTree.moveUpWhile fuel with
    | none => return none
    | some tree =>
      match ← InternalBfsTree.clean fuel { tree, bfsStack } with
      | none => return none
      | some t => return some ({ s with filesystemTree := t.tree }, t.bfsStack)
  else .error .assertion

end InternalFilesystem

end NetworkedFS
