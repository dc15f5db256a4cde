import NetworkedFS.ForStd.KeyedList
import NetworkedFS.Spec.ParentLinks

/-!
# The children of a node as a map from names

Children are looked up and removed by their names, and the first of a name is taken.  They
behave as a map from names to elements as long as no name occurs twice.  `addNode` does not
ask for the name and always says that the node was added.

## Key results

- `current_withChildren`: the current node with another child list;
- `mapCall_iff`: one call, when the names are unique;
- `mapRun_iff`: the runs in which the children behave as a map.
-/

namespace NetworkedFS

namespace InternalUnbalancedTree

variable {α : Type} [NodeName α]

/-- The name of a child. -/
def childName (child : RoseTree (NodeContainer α)) : List Char :=
  NodeName.name child.label.element

/-- The calls at one position of the pointer, on children that have names. -/
inductive ChildOp (α : Type) [NodeName α] where
  | addNode (child : RoseTree (NodeContainer α)) (hname : childName child ≠ [])
  | removeNode (name : List Char) (hname : name ≠ [])

def childStep (t : InternalUnbalancedTree α) :
    ChildOp α → Except Fault (Bool × InternalUnbalancedTree α)
  | .addNode child _ => t.addNode child
  | .removeNode name _ => t.removeNode name

/-- The children of the current node. -/
def siblings (t : InternalUnbalancedTree α) : List (RoseTree (NodeContainer α)) :=
  match t.current with
  | .ok node => node.children
  | .error _ => []

/-- No two children have the same name. -/
def UniqueNames (t : InternalUnbalancedTree α) : Prop := (t.siblings.map childName).Nodup

/-- What a call that leads to `t'` does to a map from names to elements, read by `getNode`:
    only the name of the call is affected, and a name that was removed is not there to be
    removed again. -/
def MapLaw (t t' : InternalUnbalancedTree α) (result : Bool) : ChildOp α → Prop
  | .addNode child _ => t'.getNode = if result
      then Function.update t.getNode (childName child) (.ok (some child.label.element))
      else t.getNode
  | .removeNode name _ => t'.getNode = Function.update t.getNode name (.ok none) ∧
      (result = true ↔ t.getNode name ≠ .ok none) ∧ t'.removeNode name = .ok (false, t')

/-- A call returns, leaves the names unique and does what it does to a map. -/
def MapCall (t : InternalUnbalancedTree α) (op : ChildOp α) : Prop :=
  ∃ result t', t.childStep op = .ok (result, t') ∧ t'.UniqueNames ∧ t.MapLaw t' result op

/-- The call does not add a second child of a name. -/
def FreshName (t : InternalUnbalancedTree α) : ChildOp α → Prop
  | .addNode child _ => ∀ sibling ∈ t.siblings, childName sibling ≠ childName child
  | .removeNode _ _ => True

/-! ## The current node and its children -/

omit [NodeName α] in
/-- The current node with another child list. -/
theorem current_withChildren {t : InternalUnbalancedTree α} {node : RoseTree (NodeContainer α)}
    (hnode : t.current = .ok node)
    (f : List (RoseTree (NodeContainer α)) → List (RoseTree (NodeContainer α))) :
    (t.withChildren f).current = .ok (.node node.label (f node.children)) := by
  rw [current_eq_ok_iff] at hnode ⊢
  show RoseTree.find? t.heapPointer (RoseTree.updateChildren f t.heapPointer t.head) = _
  rw [RoseTree.find?_updateChildren, hnode]
  rfl

omit [NodeName α] in
/-- Clearing the children changes the tree if there are any. -/
theorem withChildren_nil_eq_iff {t : InternalUnbalancedTree α} (hhead : t.heapPointer = []) :
    t.withChildren (fun _ => []) = t ↔ t.head.children = [] := by
  obtain ⟨⟨label, children⟩, position⟩ := t
  obtain rfl : position = [] := hhead
  simp [withChildren, RoseTree.updateChildren, RoseTree.label, eq_comm]

omit [NodeName α] in
/-- Erasing a child that is there changes the tree. -/
theorem withChildren_eraseIdx_ne {t : InternalUnbalancedTree α} {node : RoseTree (NodeContainer α)}
    (hnode : t.current = .ok node) {i : Nat} (hi : i < node.children.length) :
    t.withChildren (fun children => children.eraseIdx i) ≠ t := by
  intro heq
  have hnode' := current_withChildren hnode fun children => children.eraseIdx i
  rw [heq, hnode] at hnode'
  have hchildren : node.children = node.children.eraseIdx i :=
    congrArg RoseTree.children (Except.ok.inj hnode')
  have hlength := congrArg List.length hchildren
  rw [List.length_eraseIdx_of_lt hi] at hlength
  omega

omit [NodeName α] in
theorem siblings_eq {t : InternalUnbalancedTree α} {node : RoseTree (NodeContainer α)}
    (hnode : t.current = .ok node) : t.siblings = node.children := by
  rw [siblings, hnode]

/-- `find_if` by name is the search by key. -/
theorem children_findChild (node : RoseTree (NodeContainer α)) (name : List Char) :
    (findChild node name).bind (fun i => node.children[i]?) =
      node.children.lookupBy childName name :=
  (List.find?_eq_bind_findIdx?_getElem? ..).symm

/-- The iterator is `end()` exactly when the key is not found. -/
theorem findChild_eq_none_iff (node : RoseTree (NodeContainer α)) (name : List Char) :
    findChild node name = none ↔ node.children.lookupBy childName name = none := by
  rw [← children_findChild]
  cases hi : findChild node name with
  | none => simp
  | some i =>
    obtain ⟨child, hget, -⟩ := child_of_findChild hi
    simp [hget]

/-- Erasing at the iterator erases the first child of the name. -/
theorem eraseIdx_findChild {node : RoseTree (NodeContainer α)} {name : List Char} {i : Nat}
    (hi : findChild node name = some i) :
    node.children.eraseIdx i = node.children.eraseP fun child => childName child = name := by
  have hidx : node.children.findIdx? (fun child => decide (childName child = name)) = some i := hi
  rw [List.eraseP_eq_eraseIdx, hidx]

/-- `getNode` at a name, and at the current node itself. -/
theorem getNode_eq {t : InternalUnbalancedTree α} {node : RoseTree (NodeContainer α)}
    (hnode : t.current = .ok node) (name : List Char) :
    t.getNode name = .ok (if name = [] then some node.label.element
      else (node.children.lookupBy childName name).map fun child => child.label.element) := by
  simp only [InternalUnbalancedTree.getNode, hnode, bind, Except.bind, pure, Except.pure]
  split
  · rfl
  · rw [← children_findChild]
    cases findChild node name <;> rfl

/-- When the children change like a map at one name, so does `getNode`. -/
theorem getNode_withChildren {t : InternalUnbalancedTree α} {node : RoseTree (NodeContainer α)}
    (hnode : t.current = .ok node)
    {f : List (RoseTree (NodeContainer α)) → List (RoseTree (NodeContainer α))}
    {name : List Char} (hname : name ≠ []) {child : Option (RoseTree (NodeContainer α))}
    (hf : (f node.children).lookupBy childName =
      Function.update (node.children.lookupBy childName) name child) :
    (t.withChildren f).getNode = Function.update t.getNode name
      (.ok (child.map fun child => child.label.element)) := by
  funext n
  rw [getNode_eq (current_withChildren hnode f), Function.update_apply, getNode_eq hnode,
    RoseTree.children_node, hf, Function.update_apply]
  by_cases hn : n = name
  · rw [if_pos hn, if_pos hn, if_neg (hn ▸ hname)]
  · rw [if_neg hn, if_neg hn]
    rfl

/-! ## One call -/

omit [NodeName α] in
/-- A child is appended, whatever its name. -/
theorem addNode_eq {t : InternalUnbalancedTree α} {node : RoseTree (NodeContainer α)}
    (hnode : t.current = .ok node) (child : RoseTree (NodeContainer α)) :
    t.addNode child = .ok (true, t.withChildren fun children => children ++ [child]) := by
  simp only [InternalUnbalancedTree.addNode, hnode, bind, Except.bind, pure, Except.pure]
  rfl

/-- Without a child of the name nothing is removed. -/
theorem removeNode_of_none {t : InternalUnbalancedTree α} {node : RoseTree (NodeContainer α)}
    (hnode : t.current = .ok node) {name : List Char} (hname : name ≠ [])
    (hchild : findChild node name = none) : t.removeNode name = .ok (false, t) := by
  simp only [removeNode, hnode, if_pos hname, hchild, bind, Except.bind, pure, Except.pure]

/-- Otherwise the first one is erased. -/
theorem removeNode_of_some {t : InternalUnbalancedTree α} {node : RoseTree (NodeContainer α)}
    (hnode : t.current = .ok node) {name : List Char} (hname : name ≠ []) {i : Nat}
    (hchild : findChild node name = some i) :
    t.removeNode name = .ok (true, t.withChildren fun children => children.eraseIdx i) := by
  simp only [removeNode, hnode, if_pos hname, hchild, bind, Except.bind, pure, Except.pure]
  rfl

/-- A removal from children with unique names does what it does to a map. -/
theorem mapCall_removeNode {t : InternalUnbalancedTree α} {node : RoseTree (NodeContainer α)}
    (hnode : t.current = .ok node) (hunique : t.UniqueNames) {name : List Char}
    (hname : name ≠ []) : t.MapCall (.removeNode name hname) := by
  have hnames : (node.children.map childName).Nodup := by
    rwa [UniqueNames, siblings_eq hnode] at hunique
  have hget : t.getNode name = .ok ((node.children.lookupBy childName name).map fun child =>
      child.label.element) := by rw [getNode_eq hnode, if_neg hname]
  cases hchild : findChild node name with
  -- nothing is removed, and the lookup of the name had nothing
  | none =>
    have hremove := removeNode_of_none hnode hname hchild
    rw [(findChild_eq_none_iff node name).mp hchild, Option.map_none] at hget
    refine ⟨false, t, hremove, hunique, ?_, ?_, hremove⟩
    · rw [← hget, Function.update_eq_self]
    · simp [hget]
  | some i =>
    -- as names are unique, erasing the child at the index is erasing the name
    let f := fun children : List (RoseTree (NodeContainer α)) => children.eraseIdx i
    have hf : f node.children = node.children.eraseP fun child => childName child = name :=
      eraseIdx_findChild hchild
    have hnode' := current_withChildren hnode f
    have hlookup : (f node.children).lookupBy childName =
        Function.update (node.children.lookupBy childName) name none := by
      rw [hf]
      exact List.lookupBy_eraseP hnames name
    refine ⟨true, t.withChildren f, removeNode_of_some hnode hname hchild, ?_,
      getNode_withChildren hnode hname hlookup, ?_, ?_⟩
    · rw [UniqueNames, siblings_eq hnode', RoseTree.children_node, hf]
      exact List.nodup_map_eraseP hnames name
    · have hsome : node.children.lookupBy childName name ≠ none := by
        rw [ne_eq, ← findChild_eq_none_iff, hchild]
        nofun
      obtain ⟨child, hfound⟩ := Option.ne_none_iff_exists'.mp hsome
      simp [hget, hfound]
    · -- the second call finds no child of the name
      apply removeNode_of_none hnode' hname
      rw [findChild_eq_none_iff, RoseTree.children_node, hlookup, Function.update_self]

/-- A call on children with unique names does what it does to a map exactly when it adds no
    name that is there already. -/
theorem mapCall_iff {t : InternalUnbalancedTree α} {node : RoseTree (NodeContainer α)}
    (hnode : t.current = .ok node) (hunique : t.UniqueNames) (op : ChildOp α) :
    t.MapCall op ↔ t.FreshName op := by
  cases op with
  | removeNode name hname => exact iff_of_true (mapCall_removeNode hnode hunique hname) trivial
  | addNode child hname =>
    have hadd := addNode_eq hnode child
    have hsiblings : (t.withChildren fun children => children ++ [child]).siblings =
        node.children ++ [child] := siblings_eq (current_withChildren hnode _)
    rw [UniqueNames, siblings_eq hnode] at hunique
    show _ ↔ ∀ sibling ∈ t.siblings, childName sibling ≠ childName child
    rw [siblings_eq hnode]
    constructor
    · rintro ⟨result, t', hok, hunique', -⟩
      obtain ⟨rfl, rfl⟩ := Except.unique_of_eq_ok hadd hok
      rw [UniqueNames, hsiblings, List.nodup_map_concat_iff] at hunique'
      exact hunique'.2
    · intro hfresh
      refine ⟨true, _, hadd, ?_, ?_⟩
      · rw [UniqueNames, hsiblings, List.nodup_map_concat_iff]
        exact ⟨hunique, hfresh⟩
      · exact getNode_withChildren hnode (f := fun children => children ++ [child]) hname
          (List.lookupBy_concat hfresh)

/-! ## Runs -/

/-- A call at a valid pointer leaves it valid. -/
theorem current_of_childStep {t t' : InternalUnbalancedTree α}
    {node : RoseTree (NodeContainer α)} (hnode : t.current = .ok node) {op : ChildOp α}
    {result : Bool} (h : t.childStep op = .ok (result, t')) : ∃ node', t'.current = .ok node' := by
  cases op with
  | addNode child hname =>
    obtain ⟨-, rfl⟩ := Except.unique_of_eq_ok (addNode_eq hnode child) h
    exact ⟨_, current_withChildren hnode _⟩
  | removeNode name hname =>
    cases hchild : findChild node name with
    | none =>
      have hremove := removeNode_of_none hnode hname hchild
      obtain ⟨-, rfl⟩ := Except.unique_of_eq_ok hremove h
      exact ⟨node, hnode⟩
    | some i =>
      have hremove := removeNode_of_some hnode hname hchild
      obtain ⟨-, rfl⟩ := Except.unique_of_eq_ok hremove h
      exact ⟨_, current_withChildren hnode _⟩

/-- The children of any node behave as a map along a run of calls exactly when their names
    are unique at first and no call adds a name that is there already. -/
theorem mapRun_iff {t : InternalUnbalancedTree α} {node : RoseTree (NodeContainer α)}
    (hnode : t.current = .ok node) (ops : List (ChildOp α)) :
    (t.UniqueNames ∧ ∀ c ∈ StepRun.calls childStep t ops, c.1.MapCall c.2) ↔
      t.UniqueNames ∧ ∀ c ∈ StepRun.calls childStep t ops, c.1.FreshName c.2 := by
  apply and_congr_right
  intro hunique
  refine StepRun.forall_calls_iff
    (I := fun t : InternalUnbalancedTree α => (∃ node, t.current = .ok node) ∧ t.UniqueNames)
    ?_ ?_ ⟨⟨node, hnode⟩, hunique⟩ ops
  · intro u op hu
    obtain ⟨node, hnode⟩ := hu.1
    exact mapCall_iff hnode hu.2 op
  · intro u op result u' hu hfresh hok
    obtain ⟨node, hnode⟩ := hu.1
    obtain ⟨result', u'', hok', hunique', -⟩ := (mapCall_iff hnode hu.2 op).mpr hfresh
    obtain ⟨-, rfl⟩ := Except.unique_of_eq_ok hok' hok
    exact ⟨current_of_childStep hnode hok, hunique'⟩

/-- A child of the name `a`. -/
def childA : RoseTree (NodeContainer NodeData) := .node { element := { name := ['a'] } } []

/-- It is added to a tree that has nothing but its head. -/
theorem mapRun_childA :
    (construct ({} : NodeData)).UniqueNames ∧
      ∀ c ∈ StepRun.calls childStep (construct ({} : NodeData)) [.addNode childA (by decide)],
        c.1.MapCall c.2 :=
  (mapRun_iff rfl _).mpr ⟨List.nodup_nil, fun c hc => by
    rw [List.mem_singleton.mp hc]
    exact fun _ h => absurd h List.not_mem_nil⟩

/-- Added once more it is there twice. -/
theorem same_name_added_twice :
    ¬ ∀ (t : InternalUnbalancedTree NodeData) (node : RoseTree (NodeContainer NodeData)),
      t.current = .ok node → t.UniqueNames →
      ∀ ops, ∀ c ∈ StepRun.calls childStep t ops, c.1.MapCall c.2 := by
  intro hall
  let ops : List (ChildOp NodeData) := [.addNode childA (by decide), .addNode childA (by decide)]
  have hcall := hall (construct {}) _ rfl List.nodup_nil ops _
    (List.mem_cons_of_mem _ (List.mem_singleton_self _))
  obtain ⟨result, t', hok, hunique, -⟩ := hcall
  cases hok
  have hnames : [['a'], ['a']].Nodup := hunique
  exact absurd hnames (by decide)

end InternalUnbalancedTree

end NetworkedFS
