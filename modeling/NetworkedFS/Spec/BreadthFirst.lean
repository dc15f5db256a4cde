import NetworkedFS.Native.BreadthFirst
import NetworkedFS.Spec.CursorsInStep

/-!
# The breadth-first traversal of the internal tree

Every pointer on the stack leads to the variable of a loop that has ended.  A traversal
gets no further than the node that it starts from, so it is right exactly where there is
nothing else to visit; and as `moveUp` does not lead to the head, cleaning the filesystem
leaves only the head where there was nothing else.

## Key results

- `bfsStep_start`, `bfsStep_loopVariable`: the first step, and any other;
- `clean_eq`: the loop of `clean` ends after one round;
- `bfs_iff`: the traversals and cleanings that are right.
-/

namespace NetworkedFS

open RoseTree (Position)

namespace InternalUnbalancedTree

variable {α : Type}

/-- One call of `bfsStep`. -/
def bfsCall (t : InternalBfsTree α) (_ : Unit) : Except Fault (BfsPointer × InternalBfsTree α) :=
  t.bfsStep

/-- The pointers that `n` calls on an empty stack return. -/
def bfsReturned (t : InternalUnbalancedTree α) (n : Nat) : List BfsPointer :=
  StepRun.outputs bfsCall ⟨t, []⟩ (List.replicate n ())

/-- The stack after them. -/
def bfsStackAfter (t : InternalUnbalancedTree α) (n : Nat) : List BfsPointer :=
  (StepRun.final bfsCall ⟨t, []⟩ (List.replicate n ())).bfsStack

/-- The pointer designates a node of the subtree under the cursor. -/
def Below (t : InternalUnbalancedTree α) (pointer : BfsPointer) : Prop :=
  ∃ position node, pointer = .node (t.heapPointer ++ position) ∧
    RoseTree.find? (t.heapPointer ++ position) t.head = some node

/-- Calls until the stack is empty again return each node under the cursor once, and no other
    pointer. -/
def VisitsEachOnce (t : InternalUnbalancedTree α) : Prop :=
  ∃ n, 0 < n ∧ t.bfsStackAfter n = [] ∧ (∀ j, 0 < j → j < n → t.bfsStackAfter j ≠ []) ∧
    (∀ pointer, t.Below pointer → (t.bfsReturned n).count pointer = 1) ∧
    ∀ pointer ∈ t.bfsReturned n, t.Below pointer

/-- `clean` ends with an empty stack and takes out the nodes under the cursor. -/
def Cleans (t : InternalUnbalancedTree α) : Prop :=
  ∃ fuel, InternalBfsTree.clean fuel ⟨t, []⟩ = .ok (some ⟨t.withChildren fun _ => [], []⟩)

/-! ## Steps -/

/-- A pointer is pushed for every child, and all are the same. -/
theorem pushChildren_eq (children : List (RoseTree (NodeContainer α))) (stack : List BfsPointer) :
    InternalBfsTree.pushChildren children stack =
      List.replicate children.length .loopVariable ++ stack := by
  induction children generalizing stack with
  | nil => rfl
  | cons child children ih =>
    show InternalBfsTree.pushChildren children (.loopVariable :: stack) = _
    rw [ih, List.length_cons, List.replicate_succ', List.append_assoc, List.singleton_append]

variable {t : InternalUnbalancedTree α} {node : RoseTree (NodeContainer α)}

/-- The first step returns the current node. -/
theorem bfsStep_start (hnode : t.current = .ok node) :
    InternalBfsTree.bfsStep ⟨t, []⟩ = .ok (.node t.heapPointer,
      ⟨t, List.replicate node.children.length .loopVariable⟩) := by
  rw [current_eq_ok_iff] at hnode
  simp only [InternalBfsTree.bfsStep, InternalBfsTree.childrenAt, hnode, pushChildren_eq,
    List.append_nil, bind, Except.bind, pure, Except.pure]

/-- Another one reads through a pointer to a variable that is gone. -/
theorem bfsStep_loopVariable (stack : List BfsPointer) :
    InternalBfsTree.bfsStep ⟨t, .loopVariable :: stack⟩ = .error .undefined := rfl

/-- The round of `clean` that the first step belongs to. -/
theorem clearStep_start (hnode : t.current = .ok node) :
    InternalBfsTree.clearStep ⟨t, []⟩ = .ok ⟨t.withChildren fun _ => [],
      List.replicate node.children.length .loopVariable⟩ := by
  simp only [InternalBfsTree.clearStep, bfsStep_start hnode, bind, Except.bind, pure,
    Except.pure]
  rfl

/-- The loop of `clean` is not entered, or does not return from its first round. -/
theorem clean_eq (t : InternalUnbalancedTree α) (fuel : Nat) :
    InternalBfsTree.clean (fuel + 1) ⟨t, []⟩ = t.clean.map fun t => some ⟨t, []⟩ := by
  cases hnode : t.current with
  | error e =>
    have hfind : RoseTree.find? t.heapPointer t.head = none := by
      unfold current at hnode
      cases hfind : RoseTree.find? t.heapPointer t.head with
      | none => rfl
      | some node => rw [hfind] at hnode; cases hnode
    have hundefined : t.current = .error .undefined := by rw [current, hfind]
    simp only [InternalBfsTree.clean, InternalBfsTree.clearStep, InternalBfsTree.bfsStep,
      InternalBfsTree.childrenAt, hfind, clean, bfsStart, hundefined]
    rfl
  | ok node =>
    simp only [InternalBfsTree.clean, clearStep_start hnode, clean, bfsStart, hnode, bind,
      Except.bind, pure, Except.pure]
    cases node.children with
    | nil => rfl
    | cons child children => rfl

/-- `clean` returns at a node without children, and only there. -/
theorem clean_eq_ok_iff (hnode : t.current = .ok node) {t' : InternalUnbalancedTree α} :
    t.clean = .ok t' ↔ node.children = [] ∧ t' = t.withChildren fun _ => [] := by
  simp only [clean, bfsStart, hnode, bind, Except.bind, pure, Except.pure]
  cases node.children with
  | nil => simp [withChildren, eq_comm]
  | cons child children => simp

/-! ## Traversals -/

/-- Where there are children no later call empties the stack. -/
theorem bfsStackAfter_of_children (hnode : t.current = .ok node) (hchildren : node.children ≠ [])
    (n : Nat) : t.bfsStackAfter (n + 1) = List.replicate node.children.length .loopVariable := by
  have hstart : bfsCall ⟨t, []⟩ () = .ok (.node t.heapPointer,
      ⟨t, List.replicate node.children.length .loopVariable⟩) := bfsStep_start hnode
  simp only [bfsStackAfter, List.replicate_succ, StepRun.final, hstart]
  obtain ⟨child, children, heq⟩ := List.exists_cons_of_ne_nil hchildren
  -- the second call does not return
  cases n with
  | zero => rfl
  | succ n =>
    rw [heq]
    rfl

/-- A node below one without children is that node. -/
theorem eq_nil_of_find?_append {position rest : Position} {tree : RoseTree (NodeContainer α)}
    (hnode : RoseTree.find? position tree = some node) (hchildren : node.children = [])
    {below : RoseTree (NodeContainer α)}
    (hbelow : RoseTree.find? (position ++ rest) tree = some below) : rest = [] := by
  rw [RoseTree.find?_append, hnode] at hbelow
  cases rest with
  | nil => rfl
  | cons i rest =>
    simp only [Option.bind_some, RoseTree.find?, hchildren, List.getElem?_nil, reduceCtorEq]
      at hbelow

/-- A traversal is right exactly where there is one node to visit. -/
theorem visitsEachOnce_iff (hnode : t.current = .ok node) :
    t.VisitsEachOnce ↔ node.children = [] := by
  constructor
  · rintro ⟨n, hn, hempty, -⟩
    by_contra hchildren
    obtain ⟨m, rfl⟩ : ∃ m, n = m + 1 := ⟨n - 1, by omega⟩
    rw [bfsStackAfter_of_children hnode hchildren, List.replicate_eq_nil_iff,
      List.length_eq_zero_iff] at hempty
    exact hchildren hempty
  · intro hchildren
    have hstart : bfsCall ⟨t, []⟩ () = .ok (.node t.heapPointer, ⟨t, []⟩) := by
      rw [bfsCall, bfsStep_start hnode, hchildren]
      rfl
    have hstack : t.bfsStackAfter 1 = [] := by
      simp only [bfsStackAfter, List.replicate_one, StepRun.final, hstart]
    have hreturned : t.bfsReturned 1 = [.node t.heapPointer] := by
      simp only [bfsReturned, List.replicate_one, StepRun.outputs, hstart]
    have hfind := current_eq_ok_iff.mp hnode
    refine ⟨1, Nat.one_pos, hstack, fun j hj hj1 => by omega, ?_, ?_⟩
    · rintro pointer ⟨position, below, rfl, hbelow⟩
      obtain rfl := eq_nil_of_find?_append hfind hchildren hbelow
      rw [hreturned, List.append_nil, List.count_singleton_self]
    · intro pointer hpointer
      rw [hreturned, List.mem_singleton] at hpointer
      exact ⟨[], node, by rw [hpointer, List.append_nil], by rw [List.append_nil, hfind]⟩

/-- So is a cleaning. -/
theorem cleans_iff (hnode : t.current = .ok node) : t.Cleans ↔ node.children = [] := by
  constructor
  · rintro ⟨fuel, hclean⟩
    cases fuel with
    | zero =>
      -- without a round the stack is empty after the first step already
      simp only [InternalBfsTree.clean, clearStep_start hnode, InternalBfsTree.cleanLoop, bind,
        Except.bind, pure, Except.pure] at hclean
      split at hclean
      · next hempty =>
        rwa [List.replicate_eq_nil_iff, List.length_eq_zero_iff] at hempty
      · cases hclean
    | succ fuel =>
      rw [clean_eq] at hclean
      obtain ⟨t', hok, -⟩ := Except.map_eq_ok_iff.mp hclean
      exact ((clean_eq_ok_iff hnode).mp hok).1
  · intro hchildren
    refine ⟨1, ?_⟩
    rw [clean_eq, (clean_eq_ok_iff hnode).mpr ⟨hchildren, rfl⟩]
    rfl

/-! ## The filesystem -/

/-- The loop over `moveUp` ends at a node without a parent, and changes no node. -/
theorem moveUpWhile_eq_ok {fuel : Nat} {t t' : InternalUnbalancedTree α}
    (h : moveUpWhile fuel t = .ok (some t')) :
    t'.head = t.head ∧ ∃ node, t'.current = .ok node ∧ node.label.parent = none := by
  induction fuel generalizing t with
  | zero => cases h
  | succ fuel ih =>
    obtain ⟨⟨moved, u⟩, hup, hrest⟩ := Except.bind_eq_ok_iff.mp h
    obtain ⟨node, hnode, hmove⟩ := Except.bind_eq_ok_iff.mp hup
    cases hparent : node.label.parent with
    | none =>
      simp only [hparent] at hmove
      cases hmove
      cases hrest
      exact ⟨rfl, node, hnode, hparent⟩
    | some position =>
      simp only [hparent] at hmove
      cases hmove
      have hloop : moveUpWhile fuel { t with heapPointer := position } = .ok (some t') := hrest
      have hrec := ih hloop
      exact hrec

end InternalUnbalancedTree

namespace InternalFilesystem

/-- `clean` ends with an empty stack and a tree that is only its head, with the pointer
    there. -/
def LeavesOnlyHead (s : InternalFilesystem) : Prop :=
  ∃ fuel s', s.clean fuel [] = .ok (some (s', [])) ∧
    s'.filesystemTree.heapPointer = [] ∧ s'.filesystemTree.head.children = []

/-- A cleaning that ends takes the children of a node that has neither a parent pointer nor
    children. -/
theorem clean_eq_ok {s s' : InternalFilesystem} (harmed : s.offsetArmed = true) {fuel : Nat}
    {stack : List BfsPointer} (h : s.clean fuel [] = .ok (some (s', stack))) :
    ∃ (top : InternalUnbalancedTree NodeData) (node : RoseTree (NodeContainer NodeData)),
      top.head = s.filesystemTree.head ∧ top.current = .ok node ∧ node.label.parent = none ∧
      node.children = [] ∧ s'.filesystemTree = top.withChildren fun _ => [] := by
  simp only [clean, harmed, if_true] at h
  obtain ⟨up, hup, hrest⟩ := Except.bind_eq_ok_iff.mp h
  cases up with
  | none => cases hrest
  | some top =>
    obtain ⟨done, hdone, hlast⟩ := Except.bind_eq_ok_iff.mp hrest
    cases done with
    | none => cases hlast
    | some t =>
      cases hlast
      obtain ⟨hhead, node, hnode, hparent⟩ := InternalUnbalancedTree.moveUpWhile_eq_ok hup
      -- the loop has ended, so there was fuel
      cases fuel with
      | zero => cases hup
      | succ fuel =>
        rw [InternalUnbalancedTree.clean_eq] at hdone
        obtain ⟨t', hok, heq⟩ := Except.map_eq_ok_iff.mp hdone
        cases heq
        obtain ⟨hnone, rfl⟩ := (InternalUnbalancedTree.clean_eq_ok_iff hnode).mp hok
        exact ⟨top, node, hhead, hnode, hparent, hnone, rfl⟩

/-- At such a node one round is enough. -/
theorem clean_one {s : InternalFilesystem} (harmed : s.offsetArmed = true)
    {node : RoseTree (NodeContainer NodeData)} (hnode : s.filesystemTree.current = .ok node)
    (hparent : node.label.parent = none) (hchildren : node.children = []) :
    ∃ s', s.clean 1 [] = .ok (some (s', [])) ∧
      s'.filesystemTree = s.filesystemTree.withChildren fun _ => [] := by
  have hup : s.filesystemTree.moveUpWhile 1 = .ok (some s.filesystemTree) := by
    simp only [InternalUnbalancedTree.moveUpWhile, InternalUnbalancedTree.moveUp, hnode,
      hparent, bind, Except.bind, pure, Except.pure]
    rfl
  have hclean : InternalBfsTree.clean 1 ⟨s.filesystemTree, []⟩ =
      .ok (some ⟨s.filesystemTree.withChildren fun _ => [], []⟩) := by
    rw [InternalUnbalancedTree.clean_eq,
      (InternalUnbalancedTree.clean_eq_ok_iff hnode).mpr ⟨hchildren, rfl⟩]
    rfl
  let cleaned : InternalFilesystem :=
    { s with
      offsetArmed := false
      filesystemOffset := []
      filesystemTree := s.filesystemTree.withChildren fun _ => [] }
  refine ⟨cleaned, ?_, rfl⟩
  simp only [clean, harmed, if_true, hup, bind, Except.bind, hclean]
  rfl

/-- An armed filesystem is cleaned exactly when there is nothing to clean. -/
theorem leavesOnlyHead_iff {s : InternalFilesystem} (harmed : s.offsetArmed = true)
    {node : RoseTree (NodeContainer NodeData)} (hnode : s.filesystemTree.current = .ok node) :
    s.LeavesOnlyHead ↔
      s.filesystemTree.head.children = [] ∧ s.filesystemTree.head.label.parent = none := by
  constructor
  · rintro ⟨fuel, s', hclean, hpointer, -⟩
    obtain ⟨top, node, hhead, htop, hparent, hnone, htree⟩ := clean_eq_ok harmed hclean
    -- the pointer is at the head afterwards, so the node is the head
    have hstart : top.heapPointer = [] := by
      rw [htree] at hpointer
      exact hpointer
    have hfind := InternalUnbalancedTree.current_eq_ok_iff.mp htop
    rw [hstart, hhead] at hfind
    cases hfind
    exact ⟨hnone, hparent⟩
  · rintro ⟨hchildren, hparent⟩
    -- the pointer is at the head, the only node
    have hfind := InternalUnbalancedTree.current_eq_ok_iff.mp hnode
    have hroot : RoseTree.find? [] s.filesystemTree.head = some s.filesystemTree.head := rfl
    have hpointer : s.filesystemTree.heapPointer = [] :=
      InternalUnbalancedTree.eq_nil_of_find?_append hroot hchildren hfind
    rw [hpointer] at hfind
    cases hfind
    obtain ⟨s', hclean, htree⟩ := clean_one harmed hnode hparent hchildren
    refine ⟨1, s', hclean, ?_, ?_⟩
    · rw [htree]
      exact hpointer
    · rw [htree]
      show (RoseTree.updateChildren _ s.filesystemTree.heapPointer _).children = []
      rw [hpointer]
      rfl

end InternalFilesystem

/-- In any tree, with the pointer at any node, a traversal and a cleaning are right exactly
    where the node has no children; and the filesystem's own cleaning is right exactly for a
    tree that is only its head. -/
theorem bfs_iff {α : Type} {t : InternalUnbalancedTree α} {node : RoseTree (NodeContainer α)}
    (hnode : t.current = .ok node) {s : InternalFilesystem}
    {here : RoseTree (NodeContainer NodeData)} (harmed : s.offsetArmed = true)
    (hhere : s.filesystemTree.current = .ok here) :
    (t.VisitsEachOnce ∧ t.Cleans ↔ node.children = []) ∧
      (s.LeavesOnlyHead ↔
        s.filesystemTree.head.children = [] ∧ s.filesystemTree.head.label.parent = none) := by
  refine ⟨?_, InternalFilesystem.leavesOnlyHead_iff harmed hhere⟩
  rw [InternalUnbalancedTree.visitsEachOnce_iff hnode, InternalUnbalancedTree.cleans_iff hnode,
    and_self]

/-- A tree and a filesystem that have nothing but the head. -/
theorem bfs_head :
    let t : InternalUnbalancedTree NodeData := .construct {}
    (t.VisitsEachOnce ∧ t.Cleans) ∧ InternalFilesystem.armedAtRoot.filesystem.LeavesOnlyHead :=
  let h := bfs_iff (t := .construct ({} : NodeData)) rfl
    (s := InternalFilesystem.armedAtRoot.filesystem) rfl rfl
  ⟨h.1.mpr rfl, h.2.mpr ⟨rfl, rfl⟩⟩

/-- A head with one child. -/
theorem child_not_visited :
    ¬ ∀ (t : InternalUnbalancedTree NodeData) (node : RoseTree (NodeContainer NodeData))
      (s : InternalFilesystem) (here : RoseTree (NodeContainer NodeData)),
      t.current = .ok node → s.offsetArmed = true → s.filesystemTree.current = .ok here →
      t.VisitsEachOnce ∧ t.Cleans ∧ s.LeavesOnlyHead := by
  intro hall
  let child : RoseTree (NodeContainer NodeData) := .node { element := { name := ['a'] } } []
  let t : InternalUnbalancedTree NodeData :=
    { head := .node { element := {} } [child], heapPointer := [] }
  have hvisits := (hall t _ InternalFilesystem.armedAtRoot.filesystem _ rfl rfl rfl).1
  have hchildren := (InternalUnbalancedTree.visitsEachOnce_iff rfl).mp hvisits
  cases hchildren

end NetworkedFS
