import NetworkedFS.Native.Internal

/-!
# What the operations of the internal tree do

No operation of `internal_unbalanced_tree` ever sets a parent pointer, so all of them are
null as the constructor left them.  This file says what the operations do in such a tree:
`moveUp` never moves, and only `moveDown` changes the names on the way to the pointer.

- `Sound`: the pointer leads to a node, and no node knows its parent;
- `Sound.moveDown_of_hasChild`: the one way to another node;
- `removeNode_nil_of_ne`: below the head a node cannot remove itself.
-/

namespace NetworkedFS

open RoseTree (Position)

namespace InternalUnbalancedTree

variable {α : Type}

/-- The parent pointer as the constructor leaves it. -/
def NoParent (container : NodeContainer α) : Prop := container.parent = none

/-- A tree whose pointer is valid and whose parent pointers are all null. -/
structure Sound (t : InternalUnbalancedTree α) : Prop where
  valid : ∃ node, t.current = .ok node
  parentless : RoseTree.All NoParent t.head

/-- Reading through the pointer finds the node at its position. -/
theorem current_eq_ok_iff {t : InternalUnbalancedTree α} {node : RoseTree (NodeContainer α)} :
    t.current = .ok node ↔ RoseTree.find? t.heapPointer t.head = some node := by
  unfold current
  cases RoseTree.find? t.heapPointer t.head with
  | none => simp only [reduceCtorEq]
  | some found => simp only [Except.ok.injEq, Option.some.injEq]

/-- The node under the pointer has no parent either. -/
theorem Sound.parent_eq_none {t : InternalUnbalancedTree α} (h : t.Sound)
    {node : RoseTree (NodeContainer α)} (hnode : t.current = .ok node) :
    node.label.parent = none :=
  (h.parentless.find? (current_eq_ok_iff.mp hnode)).label

/-- No parent, no move. -/
theorem Sound.moveUp {t : InternalUnbalancedTree α} (h : t.Sound) : t.moveUp = .ok (false, t) := by
  obtain ⟨node, hnode⟩ := h.valid
  simp only [InternalUnbalancedTree.moveUp, hnode, h.parent_eq_none hnode, bind, Except.bind, pure,
    Except.pure]

/-- Nor any number of moves. -/
theorem Sound.moveUpTimes {t : InternalUnbalancedTree α} (h : t.Sound) (levels : Nat) :
    t.moveUpTimes levels = .ok t := by
  induction levels with
  | zero => rfl
  | succ levels ih =>
    simp only [InternalUnbalancedTree.moveUpTimes, h.moveUp, bind, Except.bind]
    exact ih

/-! ## Changing the children of the current node -/

/-- Rewriting the child list of the current node. -/
def withChildren (t : InternalUnbalancedTree α)
    (f : List (RoseTree (NodeContainer α)) → List (RoseTree (NodeContainer α))) :
    InternalUnbalancedTree α :=
  { t with head := RoseTree.updateChildren f t.heapPointer t.head }

/-- Two changes of the child list are one. -/
theorem withChildren_withChildren (t : InternalUnbalancedTree α)
    (f g : List (RoseTree (NodeContainer α)) → List (RoseTree (NodeContainer α))) :
    (t.withChildren f).withChildren g = t.withChildren (g ∘ f) := by
  simp only [withChildren, RoseTree.updateChildren_updateChildren]

/-- No change. -/
theorem withChildren_id (t : InternalUnbalancedTree α) : t.withChildren id = t := by
  simp only [withChildren, RoseTree.updateChildren_id]

/-- Children without parents keep the tree sound. -/
theorem Sound.withChildren {t : InternalUnbalancedTree α} (h : t.Sound)
    {f : List (RoseTree (NodeContainer α)) → List (RoseTree (NodeContainer α))}
    (hf : ∀ children : List (RoseTree (NodeContainer α)),
      (∀ child ∈ children, RoseTree.All NoParent child) →
      ∀ child ∈ f children, RoseTree.All NoParent child) :
    (t.withChildren f).Sound := by
  obtain ⟨node, hnode⟩ := h.valid
  refine ⟨⟨RoseTree.updateChildren f [] node, ?_⟩, h.parentless.updateChildren hf _⟩
  rw [current_eq_ok_iff] at hnode ⊢
  show RoseTree.find? t.heapPointer (RoseTree.updateChildren f t.heapPointer t.head) = _
  rw [RoseTree.find?_updateChildren, hnode]
  rfl

variable [NodeName α]

/-- The names on the way from the head down to the pointer. -/
def names (t : InternalUnbalancedTree α) : List (List Char) :=
  (RoseTree.labelsTo t.heapPointer t.head).map fun container => NodeName.name container.element

/-- The way to the pointer stays. -/
theorem names_withChildren (t : InternalUnbalancedTree α)
    (f : List (RoseTree (NodeContainer α)) → List (RoseTree (NodeContainer α))) :
    (t.withChildren f).names = t.names := by
  simp only [names, withChildren, RoseTree.labelsTo_updateChildren]

/-! ## The operations -/

/-- A child is appended; the pointer stays where it is. -/
theorem Sound.addNode {t : InternalUnbalancedTree α} (h : t.Sound)
    {child : RoseTree (NodeContainer α)} (hchild : RoseTree.All NoParent child) :
    ∃ t', t.addNode child = .ok (true, t') ∧ t'.Sound ∧ t'.names = t.names := by
  obtain ⟨node, hnode⟩ := h.valid
  refine ⟨t.withChildren fun children => children ++ [child], ?_, ?_, names_withChildren t _⟩
  · simp only [InternalUnbalancedTree.addNode, hnode, bind, Except.bind, pure, Except.pure]
    rfl
  · apply h.withChildren
    intro children hchildren c hc
    cases List.mem_append.mp hc with
    | inl hold => exact hchildren c hold
    | inr hnew =>
      rw [List.mem_singleton.mp hnew]
      exact hchild

/-- The current node has a child with this name. -/
def HasChild (t : InternalUnbalancedTree α) (name : List Char) : Prop :=
  ∃ node, t.current = .ok node ∧ findChild node name ≠ none

/-- Without such a child the pointer stays. -/
theorem Sound.moveDown_of_not {t : InternalUnbalancedTree α} (h : t.Sound) {name : List Char}
    (hchild : ¬ t.HasChild name) : t.moveDown name = .ok (false, t) := by
  obtain ⟨node, hnode⟩ := h.valid
  -- without such a child `find_if` reaches the end
  have hnone : findChild node name = none := by
    by_contra hne
    exact hchild ⟨node, hnode, hne⟩
  simp only [moveDown, hnode, hnone, bind, Except.bind, pure, Except.pure]

/-- The child that `find_if` gives is there and has the name. -/
theorem child_of_findChild {node : RoseTree (NodeContainer α)} {name : List Char} {i : Nat}
    (h : findChild node name = some i) :
    ∃ child, node.children[i]? = some child ∧ NodeName.name child.label.element = name := by
  obtain ⟨hi, hname, -⟩ := List.findIdx?_eq_some_iff_getElem.mp h
  exact ⟨_, List.getElem?_eq_getElem hi, of_decide_eq_true hname⟩

/-- The pointer goes one level down, to a child with this name. -/
theorem Sound.moveDown_of_hasChild {t : InternalUnbalancedTree α} (h : t.Sound) {name : List Char}
    (hchild : t.HasChild name) :
    ∃ t', t.moveDown name = .ok (true, t') ∧ t'.Sound ∧ t'.names = t.names ++ [name] := by
  obtain ⟨node, hnode, hne⟩ := hchild
  obtain ⟨i, hi⟩ := Option.ne_none_iff_exists'.mp hne
  obtain ⟨child, hget, hname⟩ := child_of_findChild hi
  have hfind := current_eq_ok_iff.mp hnode
  refine ⟨{ t with heapPointer := t.heapPointer ++ [i] }, ?_, ⟨⟨child, ?_⟩, h.parentless⟩, ?_⟩
  · simp only [moveDown, hnode, hi, bind, Except.bind, pure, Except.pure]
  · rw [current_eq_ok_iff]
    show RoseTree.find? (t.heapPointer ++ [i]) t.head = _
    rw [RoseTree.find?_concat hfind, hget]
  · show List.map _ (RoseTree.labelsTo (t.heapPointer ++ [i]) t.head) = _
    rw [RoseTree.labelsTo_concat hfind hget, List.map_append, List.map_singleton, hname]
    rfl

/-- Removing a child leaves the pointer where it is. -/
theorem Sound.removeNode_of_ne {t : InternalUnbalancedTree α} (h : t.Sound) {name : List Char}
    (hname : name ≠ []) :
    ∃ result t', t.removeNode name = .ok (result, t') ∧ t'.Sound ∧ t'.names = t.names := by
  obtain ⟨node, hnode⟩ := h.valid
  -- an erasure of a child, or nothing to erase
  cases hchild : findChild node name with
  | none =>
    refine ⟨false, t, ?_, h, rfl⟩
    simp only [removeNode, hnode, hchild, if_pos hname, bind, Except.bind, pure, Except.pure]
  | some i =>
    refine ⟨true, t.withChildren fun children => children.eraseIdx i, ?_, ?_,
      names_withChildren t _⟩
    · simp only [removeNode, hnode, hchild, if_pos hname, bind, Except.bind, pure, Except.pure]
      rfl
    · apply h.withChildren
      intro children hchildren c hc
      exact hchildren c (List.mem_of_mem_eraseIdx hc)

/-- At the head `removeNode()` clears the children. -/
theorem removeNode_nil_eq {t : InternalUnbalancedTree α} (hhead : t.heapPointer = []) :
    t.removeNode [] = .ok (true, t.withChildren fun _ => []) := by
  have hnode : t.current = .ok t.head := by
    rw [current_eq_ok_iff, hhead]
    rfl
  have hnil : ¬ ([] : List Char) ≠ [] := fun hne => hne rfl
  -- the test against the head decides that the node itself stays
  have hpointer : ¬ t.heapPointer ≠ [] := fun hne => hne hhead
  simp only [removeNode, hnode, if_neg hnil, if_neg hpointer, bind, Except.bind, pure,
    Except.pure]
  rfl

/-- The head itself and the way to the pointer stay. -/
theorem Sound.removeNode_nil_of_head {t : InternalUnbalancedTree α} (h : t.Sound)
    (hhead : t.heapPointer = []) :
    ∃ t', t.removeNode [] = .ok (true, t') ∧ t'.Sound ∧ t'.names = t.names := by
  refine ⟨t.withChildren fun _ => [], removeNode_nil_eq hhead, ?_, names_withChildren t _⟩
  apply h.withChildren
  intro children hchildren c hc
  cases hc

/-- Below the head it follows the null parent pointer. -/
theorem Sound.removeNode_nil_of_ne {t : InternalUnbalancedTree α} (h : t.Sound)
    (hhead : t.heapPointer ≠ []) : t.removeNode [] = .error .undefined := by
  obtain ⟨node, hnode⟩ := h.valid
  have hnil : ¬ ([] : List Char) ≠ [] := fun hne => hne rfl
  simp only [removeNode, hnode, if_neg hnil, if_pos hhead, removeCurrent, h.parent_eq_none hnode,
    bind, Except.bind]

/-- What `getNode` gives is the data of a child with the name, or of the current node. -/
theorem Sound.getNode {t : InternalUnbalancedTree α} (h : t.Sound) (name : List Char) :
    (∃ data, t.getNode name = .ok (some data) ∧ (name ≠ [] → t.HasChild name)) ∨
      t.getNode name = .ok none ∧ name ≠ [] := by
  obtain ⟨node, hnode⟩ := h.valid
  by_cases hname : name = []
  · refine Or.inl ⟨node.label.element, ?_, fun hne => absurd hname hne⟩
    simp only [InternalUnbalancedTree.getNode, hnode, if_pos hname, bind, Except.bind, pure,
      Except.pure]
  · cases hchild : findChild node name with
    | none =>
      refine Or.inr ⟨?_, hname⟩
      simp only [InternalUnbalancedTree.getNode, hnode, if_neg hname, hchild, bind, Except.bind,
        pure, Except.pure]
    | some i =>
      obtain ⟨child, hget, -⟩ := child_of_findChild hchild
      refine Or.inl ⟨child.label.element, ?_, fun _ => ⟨node, hnode, by rw [hchild]; nofun⟩⟩
      simp only [InternalUnbalancedTree.getNode, hnode, if_neg hname, hchild, hget, bind,
        Except.bind, pure, Except.pure, Option.map_some]

end InternalUnbalancedTree

end NetworkedFS
