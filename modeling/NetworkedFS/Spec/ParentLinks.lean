import NetworkedFS.ForStd.Except
import NetworkedFS.ForStd.StepRun
import NetworkedFS.Spec.InternalTree

/-!
# The parent pointers of the internal tree

`addNode` copies its child as it is, so a node never learns which node contains it.  In
every state that the operations lead to all parent pointers are null (`sound`), which
makes them wrong as soon as there is a node below the head.

## Key results

- `Sound.step`: every call keeps all parent pointers null;
- `linked_iff_no_addNode`: the links are right along a run only while nothing is added;
- `removesCurrent_iff`: only at the head `removeNode("")` removes what it should.
-/

namespace NetworkedFS

open RoseTree (Position)

namespace InternalUnbalancedTree

variable {α : Type}

/-- The parent pointer of every node below the head designates the node that contains it. -/
def Linked (t : InternalUnbalancedTree α) : Prop :=
  ∀ (position : Position) i node, RoseTree.find? (position ++ [i]) t.head = some node →
    node.label.parent = some position

/-- After a move down the pointer can be moved back. -/
def MovesBack [NodeName α] (t : InternalUnbalancedTree α) : Prop :=
  ∀ name t', t.moveDown name = .ok (true, t') → t'.moveUp = .ok (true, t)

/-! ## Trees without parent pointers -/

/-- Null parent pointers are right exactly when no node is below the head. -/
theorem Sound.linked_iff {t : InternalUnbalancedTree α} (h : t.Sound) :
    t.Linked ↔ t.head.children = [] := by
  constructor
  · intro hlinked
    cases hchildren : t.head.children with
    | nil => rfl
    | cons child children =>
      -- the first child of the head would know its parent
      have hfind : RoseTree.find? ([] ++ [0]) t.head = some child := by
        rw [RoseTree.find?_concat rfl, hchildren]
        rfl
      have hparent := hlinked [] 0 child hfind
      rw [(h.parentless.find? hfind).label] at hparent
      cases hparent
  · intro hchildren position i node hnode
    exfalso
    cases position with
    | nil =>
      rw [RoseTree.find?_concat rfl, hchildren] at hnode
      cases hnode
    | cons j position =>
      simp only [List.cons_append, RoseTree.find?, hchildren, List.getElem?_nil] at hnode
      cases hnode

variable [NodeName α]

/-- After a move down there is no way back. -/
theorem Sound.movesBack_iff {t : InternalUnbalancedTree α} (h : t.Sound) :
    t.MovesBack ↔ ∀ name, ¬ t.HasChild name := by
  constructor
  · intro hback name hchild
    obtain ⟨t', hdown, hsound, -⟩ := h.moveDown_of_hasChild hchild
    have hup := hback name t' hdown
    rw [hsound.moveUp] at hup
    cases hup
  · intro hnone name t' hdown
    rw [h.moveDown_of_not (hnone name)] at hdown
    cases hdown

omit [NodeName α] in
/-- `clean` returns only at a node without children, and changes nothing there. -/
theorem clean_eq_ok {t t' : InternalUnbalancedTree α} (h : t.clean = .ok t') :
    t' = t.withChildren fun _ => [] := by
  obtain ⟨⟨node, pushed⟩, -, hrest⟩ := Except.bind_eq_ok_iff.mp h
  simp only at hrest
  split at hrest
  · cases hrest
  · cases hrest
    rfl

/-- A removal that returns keeps all parent pointers null. -/
theorem Sound.of_removeNode {t t' : InternalUnbalancedTree α} (h : t.Sound) {name : List Char}
    {result : Bool} (hok : t.removeNode name = .ok (result, t')) : t'.Sound := by
  by_cases hname : name = []
  · subst hname
    by_cases hhead : t.heapPointer = []
    · obtain ⟨t₂, hremove, hsound, -⟩ := h.removeNode_nil_of_head hhead
      obtain ⟨-, rfl⟩ := Except.unique_of_eq_ok hremove hok
      exact hsound
    -- below the head the call does not return
    · rw [h.removeNode_nil_of_ne hhead] at hok
      cases hok
  · obtain ⟨result', t₂, hremove, hsound, -⟩ := h.removeNode_of_ne hname
    obtain ⟨-, rfl⟩ := Except.unique_of_eq_ok hremove hok
    exact hsound

/-- So does a move down. -/
theorem Sound.of_moveDown {t t' : InternalUnbalancedTree α} (h : t.Sound) {name : List Char}
    {result : Bool} (hok : t.moveDown name = .ok (result, t')) : t'.Sound := by
  by_cases hchild : t.HasChild name
  · obtain ⟨t₂, hdown, hsound, -⟩ := h.moveDown_of_hasChild hchild
    obtain ⟨-, rfl⟩ := Except.unique_of_eq_ok hdown hok
    exact hsound
  · obtain ⟨-, rfl⟩ := Except.unique_of_eq_ok (h.moveDown_of_not hchild) hok
    exact h

/-- Every call keeps all parent pointers null. -/
theorem Sound.step {t t' : InternalUnbalancedTree α} (h : t.Sound) {op : Op α} {o : Option Bool}
    (hstep : t.step op = .ok (o, t')) : t'.Sound := by
  cases op with
  | addNode element =>
    obtain ⟨⟨r, t₁⟩, hok, heq⟩ := Except.map_eq_ok_iff.mp hstep
    cases heq
    -- the new node has no parent either, as `addNode` sets none
    have hchild : RoseTree.All NoParent (.node { element := element } []) :=
      .node rfl fun c hc => absurd hc List.not_mem_nil
    obtain ⟨t₂, hadd, hsound, -⟩ := h.addNode hchild
    obtain ⟨-, rfl⟩ := Except.unique_of_eq_ok hadd hok
    exact hsound
  | removeNode name =>
    obtain ⟨⟨r, t₁⟩, hok, heq⟩ := Except.map_eq_ok_iff.mp hstep
    cases heq
    exact h.of_removeNode hok
  | moveUp =>
    obtain ⟨⟨r, t₁⟩, hok, heq⟩ := Except.map_eq_ok_iff.mp hstep
    cases heq
    obtain ⟨-, rfl⟩ := Except.unique_of_eq_ok h.moveUp hok
    exact h
  | moveDown name =>
    obtain ⟨⟨r, t₁⟩, hok, heq⟩ := Except.map_eq_ok_iff.mp hstep
    cases heq
    exact h.of_moveDown hok
  | clean =>
    obtain ⟨t₁, hok, heq⟩ := Except.map_eq_ok_iff.mp hstep
    cases heq
    -- only the head is left
    rw [clean_eq_ok hok]
    exact h.withChildren fun _ _ c hc => absurd hc List.not_mem_nil

/-! ## Runs -/

/-- The call adds a node. -/
def Op.isAdd : Op α → Bool
  | .addNode _ => true
  | _ => false

/-- A tree that is only its head, with the pointer there. -/
structure Bare (t : InternalUnbalancedTree α) : Prop where
  sound : t.Sound
  pointer : t.heapPointer = []
  children : t.head.children = []

omit [NodeName α] in
/-- A new tree is nothing but its head. -/
theorem bare_construct (element : α) : (construct element).Bare :=
  ⟨⟨⟨_, rfl⟩, .node rfl fun _ hc => absurd hc List.not_mem_nil⟩, rfl, rfl⟩

/-- A head without children has none of any name. -/
theorem Bare.not_hasChild {t : InternalUnbalancedTree α} (h : t.Bare) (name : List Char) :
    ¬ t.HasChild name := by
  rintro ⟨node, hnode, hchild⟩
  rw [current_eq_ok_iff, h.pointer] at hnode
  cases hnode
  apply hchild
  rw [findChild, h.children]
  rfl

/-- In a bare tree links and moves are right. -/
theorem Bare.linked {t : InternalUnbalancedTree α} (h : t.Bare) : t.Linked ∧ t.MovesBack :=
  ⟨h.sound.linked_iff.mpr h.children, h.sound.movesBack_iff.mpr h.not_hasChild⟩

/-- In a bare tree every call returns; it stays bare unless a node is added. -/
theorem Bare.step {t : InternalUnbalancedTree α} (h : t.Bare) {op : Op α}
    (hop : op.isAdd = false) : ∃ o t', t.step op = .ok (o, t') ∧ t'.Bare := by
  have hclear : (t.withChildren fun _ => []).Bare := by
    refine ⟨h.sound.withChildren fun _ _ c hc => absurd hc List.not_mem_nil, h.pointer, ?_⟩
    rw [withChildren, h.pointer]
    rfl
  have hcurrent : t.current = .ok t.head := by
    rw [current_eq_ok_iff, h.pointer]
    rfl
  cases op with
  | addNode element => cases hop
  | removeNode name =>
    by_cases hname : name = []
    -- removing all children of the head, of which there are none
    · subst hname
      refine ⟨some true, _, ?_, hclear⟩
      simp only [InternalUnbalancedTree.step, removeNode, hcurrent, h.pointer, bind, Except.bind,
        pure, Except.pure, ne_eq, not_true_eq_false, if_false, Except.map, withChildren]
    · refine ⟨some false, t, ?_, h⟩
      have hnone : findChild t.head name = none := by
        rw [findChild, h.children]
        rfl
      simp only [InternalUnbalancedTree.step, removeNode, hcurrent, hnone, bind, Except.bind,
        pure, Except.pure, ne_eq, hname, not_false_eq_true, if_true, Except.map]
  | moveUp =>
    -- the pointer is at the head, which has no parent and no child
    refine ⟨some false, t, ?_, h⟩
    rw [InternalUnbalancedTree.step, h.sound.moveUp]
    rfl
  | moveDown name =>
    refine ⟨some false, t, ?_, h⟩
    rw [InternalUnbalancedTree.step, h.sound.moveDown_of_not (h.not_hasChild name)]
    rfl
  | clean =>
    refine ⟨none, _, ?_, hclear⟩
    simp only [InternalUnbalancedTree.step, clean, bfsStart, hcurrent, h.children, bind,
      Except.bind, pure, Except.pure, List.length_nil, ne_eq, not_true_eq_false, if_false]
    rfl

/-- A node that is added to a bare tree does not know its parent. -/
theorem Bare.addNode {t : InternalUnbalancedTree α} (h : t.Bare) (element : α) :
    ∃ o t', t.step (.addNode element) = .ok (o, t') ∧ ¬ t'.Linked := by
  obtain ⟨node, hnode⟩ := h.sound.valid
  refine ⟨some true, t.withChildren fun children => children ++ [.node { element := element } []],
    ?_, ?_⟩
  · simp only [InternalUnbalancedTree.step, InternalUnbalancedTree.addNode, hnode, bind,
      Except.bind, pure, Except.pure, Except.map]
    rfl
  · have hsound : (t.withChildren fun children =>
        children ++ [.node { element := element } []]).Sound := by
      apply h.sound.withChildren
      intro children hchildren c hc
      rcases List.mem_append.mp hc with hold | hnew
      · exact hchildren c hold
      · rw [List.mem_singleton.mp hnew]
        exact .node rfl fun _ hc => absurd hc List.not_mem_nil
    rw [hsound.linked_iff, withChildren, h.pointer]
    simp only [RoseTree.updateChildren, RoseTree.children_node, h.children, List.nil_append,
      List.cons_ne_nil, not_false_eq_true]

/-- From a bare tree the links stay right exactly when nothing is added. -/
theorem Bare.run_linked_iff {t : InternalUnbalancedTree α} (h : t.Bare) (ops : List (Op α)) :
    (∀ u ∈ StepRun.visited InternalUnbalancedTree.step t ops, u.Linked ∧ u.MovesBack) ↔
      ∀ op ∈ ops, op.isAdd = false := by
  -- induction on the run, which stays bare until the first node is added
  induction ops generalizing t with
  | nil => simp [StepRun.visited, h.linked]
  | cons op ops ih =>
    simp only [StepRun.visited, List.forall_mem_cons, and_iff_right h.linked]
    cases hop : op.isAdd with
    | false =>
      obtain ⟨o, t', hstep, hbare⟩ := h.step hop
      simp only [hstep, ih hbare, true_and]
    | true =>
      cases op with
      | addNode element =>
        obtain ⟨o, t', hstep, hlinked⟩ := h.addNode element
        have hmem : t' ∈ StepRun.visited InternalUnbalancedTree.step t' ops := by
          cases ops <;> exact List.mem_cons_self
        simp only [hstep, Bool.true_eq_false, false_and, iff_false]
        exact fun hall => hlinked (hall t' hmem).1
      | removeNode name => cases hop
      | moveUp => cases hop
      | moveDown name => cases hop
      | clean => cases hop

/-- In a history of a new tree all parent pointers below the head are right, and every move
    down can be undone, exactly when no node is added. -/
theorem linked_iff_no_addNode (element : α) (ops : List (Op α)) :
    (∀ t ∈ StepRun.visited step (construct element) ops, t.Linked ∧ t.MovesBack) ↔
      ∀ op ∈ ops, op.isAdd = false :=
  (bare_construct element).run_linked_iff ops

/-- The calls on a new tree keep all its parent pointers null. -/
theorem sound {element : α} {t : InternalUnbalancedTree α}
    (ht : StepRun.Reachable step (construct element) t) : t.Sound :=
  ht.invariant (bare_construct element).sound fun _ _ _ _ hs hok => hs.step hok

/-- In every state that the calls on a new tree lead to, `moveUp` stays where it is. -/
theorem moveUp_of_reachable {element : α} {t : InternalUnbalancedTree α}
    (ht : StepRun.Reachable step (construct element) t) : t.moveUp = .ok (false, t) :=
  (sound ht).moveUp

/-- A single node that is added does not know its parent. -/
theorem added_node_has_no_parent :
    ¬ ∀ ops : List (Op NodeData),
      ∀ t ∈ StepRun.visited step (construct {}) ops, t.Linked ∧ t.MovesBack := by
  intro hall
  let ops : List (Op NodeData) := [.addNode { name := ['a'] }]
  have hlinked := (hall ops _ (StepRun.final_mem_visited _ ops)).1
  have hparent : (none : Option Position) = some [] := hlinked [] 0 _ rfl
  cases hparent

/-! ## Removing the current node -/

/-- `removeNode("")` takes the node under the pointer, with all that is below it, out of the
    children of its parent, and goes there; the head only loses its children. -/
structure RemovesCurrent (t : InternalUnbalancedTree α) : Prop where
  head : t.heapPointer = [] → t.removeNode [] = .ok (true, t.withChildren fun _ => [])
  below : ∀ above i, t.heapPointer = above ++ [i] →
    t.removeNode [] = .ok (true, {
      head := RoseTree.updateChildren (fun children => children.eraseIdx i) above t.head
      heapPointer := above })

/-- Only the head is left without following a parent pointer. -/
theorem Sound.removesCurrent_iff_head {t : InternalUnbalancedTree α} (h : t.Sound) :
    t.RemovesCurrent ↔ t.heapPointer = [] := by
  constructor
  · intro hremoves
    by_contra hne
    have hbelow := hremoves.below _ _ (List.dropLast_append_getLast hne).symm
    rw [h.removeNode_nil_of_ne hne] at hbelow
    cases hbelow
  · intro hhead
    refine ⟨fun _ => removeNode_nil_eq hhead, ?_⟩
    intro above i hpointer
    simp only [hhead, List.nil_eq_append_iff, List.cons_ne_self, and_false] at hpointer

/-- In every tree that the calls lead to, and with the pointer at any node of it, a node is
    removed as it should be exactly when it is the head. -/
theorem removesCurrent_iff {element : α} {t : InternalUnbalancedTree α}
    (ht : StepRun.Reachable step (construct element) t) {position : Position}
    {node : RoseTree (NodeContainer α)} (hnode : RoseTree.find? position t.head = some node) :
    RemovesCurrent { t with heapPointer := position } ↔ position = [] :=
  have hsound : Sound { t with heapPointer := position } :=
    ⟨⟨node, current_eq_ok_iff.mpr hnode⟩, (sound ht).parentless⟩
  hsound.removesCurrent_iff_head

/-- The head of a tree with one child. -/
theorem removesCurrent_head :
    RemovesCurrent { StepRun.final step (construct {}) [Op.addNode { name := ['a'] : NodeData }]
      with heapPointer := [] } :=
  (removesCurrent_iff (StepRun.Reachable.init.final _) rfl).mpr rfl

/-- The child itself cannot be removed. -/
theorem child_not_removed :
    ¬ ∀ (t : InternalUnbalancedTree NodeData) (position : Position)
      (node : RoseTree (NodeContainer NodeData)), StepRun.Reachable step (construct {}) t →
      RoseTree.find? position t.head = some node →
      RemovesCurrent { t with heapPointer := position } := by
  intro hall
  let ops : List (Op NodeData) := [.addNode { name := ['a'] }]
  have hremoves := (hall (StepRun.final step (construct {}) ops) [0] _
    (StepRun.Reachable.init.final ops) rfl).below [] 0 rfl
  cases hremoves

end InternalUnbalancedTree

end NetworkedFS
