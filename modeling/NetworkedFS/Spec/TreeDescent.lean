import NetworkedFS.Spec.ParentLinks

/-!
# What a history of the internal tree can still change

The pointer only ever goes down, so a call works in a part of the tree that gets smaller
and smaller.

- `Sound.move`: what a call can do;
- `nothing_outside_changes`: what is not below the pointer stays as it is for good.
-/

namespace NetworkedFS

open RoseTree (Position)

namespace InternalUnbalancedTree

variable {α : Type}

/-- What a call can do: rewrite the children of the current node, or go to one of them. -/
inductive Move (t : InternalUnbalancedTree α) : InternalUnbalancedTree α → Prop
  | children (f : List (RoseTree (NodeContainer α)) → List (RoseTree (NodeContainer α))) :
      Move t (t.withChildren f)
  | down (i : Nat) : Move t { t with heapPointer := t.heapPointer ++ [i] }

/-- Nothing is done. -/
theorem Move.refl (t : InternalUnbalancedTree α) : Move t t := by
  have h : Move t (t.withChildren id) := .children id
  rwa [withChildren_id] at h

/-- The tree with no nodes below a position. -/
def prunedAt (t : InternalUnbalancedTree α) (position : Position) :
    RoseTree (NodeContainer α) :=
  RoseTree.updateChildren (fun _ => []) position t.head

/-- The pointer of `t'` is at that of `t` or below it, and the two trees differ only below
    the pointer of `t`. -/
structure Within (t t' : InternalUnbalancedTree α) : Prop where
  pointer : ∃ below, t'.heapPointer = t.heapPointer ++ below
  outside : t'.prunedAt t.heapPointer = t.prunedAt t.heapPointer

theorem Within.refl (t : InternalUnbalancedTree α) : t.Within t :=
  ⟨⟨[], (List.append_nil _).symm⟩, rfl⟩

/-- What is pruned above a position does not show what is pruned there. -/
theorem prunedAt_append (t : InternalUnbalancedTree α) (position below : Position) :
    RoseTree.updateChildren (fun _ => []) position (t.prunedAt (position ++ below)) =
      t.prunedAt position :=
  RoseTree.updateChildren_const_append [] position below t.head

/-- What changes below the later pointer is below the earlier one too. -/
theorem Within.trans {t t' t'' : InternalUnbalancedTree α} (h : t.Within t')
    (h' : t'.Within t'') : t.Within t'' := by
  obtain ⟨below, hbelow⟩ := h.pointer
  obtain ⟨below', hbelow'⟩ := h'.pointer
  have houtside := h'.outside
  rw [hbelow] at houtside
  refine ⟨⟨below ++ below', by rw [hbelow', hbelow, List.append_assoc]⟩, ?_⟩
  calc t''.prunedAt t.heapPointer
      _ = RoseTree.updateChildren (fun _ => []) t.heapPointer
            (t''.prunedAt (t.heapPointer ++ below)) := (prunedAt_append ..).symm
      _ = RoseTree.updateChildren (fun _ => []) t.heapPointer
            (t'.prunedAt (t.heapPointer ++ below)) := by rw [houtside]
      _ = t'.prunedAt t.heapPointer := prunedAt_append ..
      _ = t.prunedAt t.heapPointer := h.outside

theorem Move.within {t t' : InternalUnbalancedTree α} (h : t.Move t') : t.Within t' := by
  cases h with
  | children f =>
    refine ⟨⟨[], (List.append_nil _).symm⟩, ?_⟩
    simp only [prunedAt, withChildren, RoseTree.updateChildren_updateChildren]
    rfl
  | down i => exact ⟨⟨[i], rfl⟩, rfl⟩

/-! ## The calls -/

variable [NodeName α]

/-- A removal rewrites the children of the current node. -/
theorem Sound.move_removeNode {t t' : InternalUnbalancedTree α} (h : t.Sound)
    {name : List Char} {result : Bool} (hok : t.removeNode name = .ok (result, t')) :
    t.Move t' := by
  by_cases hname : name = []
  · subst hname
    by_cases hhead : t.heapPointer = []
    · rw [removeNode_nil_eq hhead] at hok
      cases hok
      exact .children _
    -- below the head the call does not return
    · rw [h.removeNode_nil_of_ne hhead] at hok
      cases hok
  · obtain ⟨node, -, hrest⟩ := Except.bind_eq_ok_iff.mp hok
    simp only [if_pos hname] at hrest
    split at hrest
    · cases hrest
      exact .refl t
    · cases hrest
      exact .children _

/-- A call that returns makes one such move. -/
theorem Sound.move {t t' : InternalUnbalancedTree α} (h : t.Sound) {op : Op α}
    {o : Option Bool} (hstep : t.step op = .ok (o, t')) : t.Move t' := by
  cases op with
  | addNode element =>
    obtain ⟨⟨r, t₁⟩, hok, heq⟩ := Except.map_eq_ok_iff.mp hstep
    cases heq
    obtain ⟨node, -, hrest⟩ := Except.bind_eq_ok_iff.mp hok
    cases hrest
    exact .children _
  | removeNode name =>
    obtain ⟨⟨r, t₁⟩, hok, heq⟩ := Except.map_eq_ok_iff.mp hstep
    cases heq
    exact h.move_removeNode hok
  | moveUp =>
    obtain ⟨⟨r, t₁⟩, hok, heq⟩ := Except.map_eq_ok_iff.mp hstep
    cases heq
    -- without a parent there is no way up
    rw [h.moveUp] at hok
    cases hok
    exact .refl t
  | moveDown name =>
    obtain ⟨⟨r, t₁⟩, hok, heq⟩ := Except.map_eq_ok_iff.mp hstep
    cases heq
    obtain ⟨node, -, hrest⟩ := Except.bind_eq_ok_iff.mp hok
    split at hrest
    · cases hrest
      exact .refl t
    · cases hrest
      exact .down _
  | clean =>
    obtain ⟨t₁, hok, heq⟩ := Except.map_eq_ok_iff.mp hstep
    cases heq
    rw [clean_eq_ok hok]
    exact .children _

/-! ## Runs -/

/-- From any state of a history of a new tree, whatever calls follow: the pointer stays in
    the part of the tree below where it is, and nothing outside of that part is changed. -/
theorem nothing_outside_changes {element : α} (before after : List (Op α)) :
    let t := StepRun.final step (construct element) before
    let t' := StepRun.final step t after
    (∃ below, t'.heapPointer = t.heapPointer ++ below) ∧
      RoseTree.updateChildren (fun _ => []) t.heapPointer t'.head =
        RoseTree.updateChildren (fun _ => []) t.heapPointer t.head := by
  intro t t'
  have ht : t.Sound := sound (StepRun.Reachable.init.final before)
  have hwithin : t.Within t' :=
    StepRun.final_of_steps Within.refl (fun _ _ _ => Within.trans)
      (fun _ _ _ _ hs hok => ⟨hs.step hok, (hs.move hok).within⟩) ht after
  exact ⟨hwithin.pointer, hwithin.outside⟩

end InternalUnbalancedTree

end NetworkedFS
