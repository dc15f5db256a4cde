import Mathlib.Data.List.Basic

/-!
# Rose trees and positions in them

A node of a finitely branching tree is reached by a position, the list of the child
indices that lead from the root to it.  `updateChildren` is the only way a tree is
changed here: it rewrites the child list of the node at a position.

- `find?_updateChildren`, `labelsTo_updateChildren`: what that node and the nodes on the
  way to it are afterwards;
- `All.updateChildren`: properties of all labels are kept when the new child lists have
  them;
- `labels_updateChildren_append`: new children bring their labels and nothing else.
-/

/-- A labelled node with its children. -/
inductive RoseTree (α : Type) where
  | node (label : α) (children : List (RoseTree α))

namespace RoseTree

open scoped List

variable {α : Type}

/-- The child indices on the way from the root to a node. -/
abbrev Position := List Nat

def label : RoseTree α → α
  | node label _ => label

def children : RoseTree α → List (RoseTree α)
  | node _ children => children

@[simp] theorem children_node (label : α) (children : List (RoseTree α)) :
    (node label children).children = children := rfl

/-- The node at a position, if there is one. -/
def find? : Position → RoseTree α → Option (RoseTree α)
  | [], tree => some tree
  | i :: position, tree =>
    match tree.children[i]? with
    | none => none
    | some child => find? position child

/-- The labels of the nodes passed on the way to a position, the root's left out. -/
def labelsTo : Position → RoseTree α → List α
  | [], _ => []
  | i :: position, tree =>
    match tree.children[i]? with
    | none => []
    | some child => child.label :: labelsTo position child

/-- Rewrites the child list of the node at a position. -/
def updateChildren (f : List (RoseTree α) → List (RoseTree α)) :
    Position → RoseTree α → RoseTree α
  | [], tree => node tree.label (f tree.children)
  -- the nodes on the way keep their labels
  | i :: position, tree => node tree.label (tree.children.modify i (updateChildren f position))

/-- Every label of the tree has the property `P`. -/
inductive All (P : α → Prop) : RoseTree α → Prop
  | node {label : α} {children : List (RoseTree α)} :
      P label → (∀ child ∈ children, All P child) → All P (node label children)

mutual

/-- The labels of all nodes, a node's before those below it. -/
def labels : RoseTree α → List α
  | node label children => label :: labelsOf children

/-- The labels of all nodes of some trees. -/
def labelsOf : List (RoseTree α) → List α
  | [] => []
  | tree :: trees => labels tree ++ labelsOf trees

end

/-! ## Going one level deeper -/

/-- The way to a position can be taken in two parts. -/
theorem find?_append (position rest : Position) (tree : RoseTree α) :
    find? (position ++ rest) tree = (find? position tree).bind (find? rest) := by
  induction position generalizing tree with
  | nil => rfl
  | cons i position ih =>
    simp only [List.cons_append, find?]
    cases tree.children[i]? with
    | none => rfl
    | some child => exact ih child

/-- One level deeper there are the children of the node that was found. -/
theorem find?_concat {position : Position} {tree node : RoseTree α}
    (h : find? position tree = some node) (i : Nat) :
    find? (position ++ [i]) tree = node.children[i]? := by
  rw [find?_append, h]
  simp only [Option.bind_some, find?]
  cases node.children[i]? <;> rfl

/-- One level deeper the child's label comes last. -/
theorem labelsTo_concat {position : Position} {tree node child : RoseTree α}
    (h : find? position tree = some node) {i : Nat} (hchild : node.children[i]? = some child) :
    labelsTo (position ++ [i]) tree = labelsTo position tree ++ [child.label] := by
  induction position generalizing tree with
  | nil =>
    cases h
    simp only [List.nil_append, labelsTo, hchild]
  | cons j position ih =>
    simp only [List.cons_append, find?, labelsTo] at h ⊢
    cases hnext : tree.children[j]? with
    | none =>
      rw [hnext] at h
      cases h
    | some next =>
      rw [hnext] at h
      simp only [ih h, List.cons_append]

/-! ## Changing the children of a node -/

variable {f : List (RoseTree α) → List (RoseTree α)}

/-- The label of the root stays. -/
@[simp] theorem label_updateChildren (position : Position) (tree : RoseTree α) :
    (updateChildren f position tree).label = tree.label := by
  cases position <;> rfl

/-- At the position itself the node is found with its new children. -/
theorem find?_updateChildren (position : Position) (tree : RoseTree α) :
    find? position (updateChildren f position tree) =
      (find? position tree).map (updateChildren f []) := by
  induction position generalizing tree with
  | nil => rfl
  | cons i position ih =>
    simp only [updateChildren, find?, children_node, List.getElem?_modify_eq]
    cases tree.children[i]? with
    | none => rfl
    | some child => exact ih child

/-- Two changes at one position are one. -/
theorem updateChildren_updateChildren (g : List (RoseTree α) → List (RoseTree α))
    (position : Position) (tree : RoseTree α) :
    updateChildren g position (updateChildren f position tree) =
      updateChildren (g ∘ f) position tree := by
  induction position generalizing tree with
  | nil => rfl
  | cons i position ih =>
    have hcomp : updateChildren g position ∘ updateChildren f position =
        updateChildren (g ∘ f) position := funext ih
    simp only [updateChildren, children_node, List.modify_modify_eq, hcomp]
    rfl

/-- A change further down is lost when the child list above it is replaced. -/
theorem updateChildren_const_append (children : List (RoseTree α)) (position rest : Position)
    (tree : RoseTree α) :
    updateChildren (fun _ => children) position (updateChildren f (position ++ rest) tree) =
      updateChildren (fun _ => children) position tree := by
  induction position generalizing tree with
  | nil => cases rest <;> rfl
  | cons i position ih =>
    have hcomp : updateChildren (fun _ => children) position ∘
        updateChildren f (position ++ rest) = updateChildren (fun _ => children) position :=
      funext ih
    simp only [List.cons_append, updateChildren, children_node, List.modify_modify_eq, hcomp]
    rfl

/-- No change. -/
theorem updateChildren_id (position : Position) (tree : RoseTree α) :
    updateChildren id position tree = tree := by
  induction position generalizing tree with
  | nil =>
    cases tree
    rfl
  | cons i position ih =>
    have hid : updateChildren id position = id := funext ih
    cases tree
    simp only [updateChildren, hid, List.modify_id]
    rfl

/-- The labels on the way to the position stay. -/
theorem labelsTo_updateChildren (position : Position) (tree : RoseTree α) :
    labelsTo position (updateChildren f position tree) = labelsTo position tree := by
  induction position generalizing tree with
  | nil => rfl
  | cons i position ih =>
    simp only [updateChildren, labelsTo, children_node, List.getElem?_modify_eq]
    cases tree.children[i]? with
    | none => rfl
    | some child =>
      simp only [Option.map_eq_map, Option.map_some, label_updateChildren, ih child]

/-! ## Properties of all labels -/

variable {P : α → Prop}

/-- What holds of all labels holds of the root's. -/
theorem All.label {tree : RoseTree α} (h : All P tree) : P tree.label := by
  cases h with
  | node hlabel _ => exact hlabel

/-- It holds of all labels of a child. -/
theorem All.child {tree child : RoseTree α} (h : All P tree) (hchild : child ∈ tree.children) :
    All P child := by
  cases h with
  | node _ hchildren => exact hchildren child hchild

/-- It holds of all labels below a position. -/
theorem All.find? {position : Position} {tree node : RoseTree α} (h : All P tree)
    (hnode : find? position tree = some node) : All P node := by
  induction position generalizing tree with
  | nil =>
    cases hnode
    exact h
  | cons i position ih =>
    simp only [RoseTree.find?] at hnode
    cases hchild : tree.children[i]? with
    | none =>
      rw [hchild] at hnode
      cases hnode
    | some child =>
      rw [hchild] at hnode
      exact ih (h.child (List.mem_of_getElem? hchild)) hnode

/-- An element of a modified list is an old one or the modified one. -/
private theorem mem_modify {β : Type} {g : β → β} {l : List β} {i : Nat} {b : β}
    (h : b ∈ l.modify i g) : b ∈ l ∨ ∃ a ∈ l, b = g a := by
  induction l generalizing i with
  | nil =>
    rw [List.modify_nil] at h
    exact Or.inl h
  | cons a l ih =>
    cases i with
    | zero =>
      rw [List.modify_zero_cons] at h
      cases List.mem_cons.mp h with
      | inl hhead => exact Or.inr ⟨a, List.mem_cons_self, hhead⟩
      | inr htail => exact Or.inl (List.mem_cons_of_mem _ htail)
    | succ i =>
      rw [List.modify_succ_cons] at h
      cases List.mem_cons.mp h with
      | inl hhead => exact Or.inl (by rw [hhead]; exact List.mem_cons_self)
      | inr htail =>
        cases ih htail with
        | inl hold => exact Or.inl (List.mem_cons_of_mem _ hold)
        | inr hnew =>
          obtain ⟨c, hc, hb⟩ := hnew
          exact Or.inr ⟨c, List.mem_cons_of_mem _ hc, hb⟩

/-- It still holds when it holds of all new children. -/
theorem All.updateChildren {tree : RoseTree α} (h : All P tree)
    (hf : ∀ children : List (RoseTree α), (∀ child ∈ children, All P child) →
      ∀ child ∈ f children, All P child) (position : Position) :
    All P (updateChildren f position tree) := by
  induction position generalizing tree with
  | nil => exact .node h.label (hf _ fun _ => h.child)
  | cons i position ih =>
    refine .node h.label ?_
    intro child hchild
    -- the children beside the position are as they were; the one on it is smaller
    cases mem_modify hchild with
    | inl hold => exact h.child hold
    | inr hnew =>
      obtain ⟨old, hold, rfl⟩ := hnew
      exact ih (h.child hold)

/-! ## All labels -/

theorem labelsOf_append (trees more : List (RoseTree α)) :
    labelsOf (trees ++ more) = labelsOf trees ++ labelsOf more := by
  induction trees with
  | nil => rfl
  | cons tree trees ih => simp only [List.cons_append, labelsOf, ih, List.append_assoc]

/-- When one of some trees gets more labels, so do the trees. -/
theorem labelsOf_modify_perm {g : RoseTree α → RoseTree α} {trees : List (RoseTree α)} {i : Nat}
    {tree : RoseTree α} (htree : trees[i]? = some tree) {new : List α}
    (hg : labels (g tree) ~ labels tree ++ new) :
    labelsOf (trees.modify i g) ~ labelsOf trees ++ new := by
  induction trees generalizing i with
  | nil => cases htree
  | cons first trees ih =>
    cases i with
    | zero =>
      cases htree
      simp only [List.modify_zero_cons, labelsOf]
      -- the new labels stand in front of those of the other trees
      calc labels (g tree) ++ labelsOf trees
          _ ~ labels tree ++ new ++ labelsOf trees := hg.append_right _
          _ = labels tree ++ (new ++ labelsOf trees) := List.append_assoc ..
          _ ~ labels tree ++ (labelsOf trees ++ new) := List.perm_append_comm.append_left _
          _ = labels tree ++ labelsOf trees ++ new := (List.append_assoc ..).symm
    | succ i =>
      simp only [List.modify_succ_cons, labelsOf, List.append_assoc]
      exact (ih htree).append_left _

/-- New children at a node of the tree bring their labels and nothing else. -/
theorem labels_updateChildren_append {position : Position} {tree node : RoseTree α}
    (hnode : find? position tree = some node) (new : List (RoseTree α)) :
    labels (updateChildren (fun children => children ++ new) position tree) ~
      labels tree ++ labelsOf new := by
  induction position generalizing tree with
  | nil =>
    cases tree
    simp only [updateChildren, label, children_node, labels, labelsOf_append, List.cons_append]
    exact .refl _
  | cons i position ih =>
    cases tree with
    | node label children =>
      simp only [find?, children_node] at hnode
      cases hchild : children[i]? with
      | none =>
        rw [hchild] at hnode
        cases hnode
      | some child =>
        rw [hchild] at hnode
        simp only [updateChildren, RoseTree.label, children_node, labels, List.cons_append]
        exact (labelsOf_modify_perm hchild (ih hnode)).cons label

end RoseTree
