import NetworkedFS.Native.ForeignLookup
import NetworkedFS.Spec.PathQueries

/-!
# The nodes that a walk adds

The warning on `pathChangeInline` says that the tree is updated as though unknown queries
belong to a foreign node with a broadcast address as its host.  A missing component ends
the loop before anything is added for it; the nodes that are added stand for components that
exist, are not foreign, and have neither a name nor a host.

## Key results

- `Armed.foreignCount_pathChangeInline`: a walk does not change how many nodes are foreign;
- `Armed.not_addsForeignChain`: what the warning says happens on no path.
-/

namespace NetworkedFS

open PathName (components)
open RoseTree (Position)

/-- The node of a foreign component. -/
structure ForeignFor (name : List Char) (container : NodeContainer NodeData) : Prop where
  name_eq : container.element.name = name
  foreign : container.element.isForeign = some true
  broadcast : container.element.host = broadcastIdentifier

/-- One nested chain of nodes, one for each of the names. -/
inductive IsForeignChain : List (List Char) → RoseTree (NodeContainer NodeData) → Prop
  | last {name : List Char} {container : NodeContainer NodeData} :
      ForeignFor name container → IsForeignChain [name] (.node container [])
  | nested {name : List Char} {names : List (List Char)} {container : NodeContainer NodeData}
      {child : RoseTree (NodeContainer NodeData)} : ForeignFor name container →
      IsForeignChain names child → IsForeignChain (name :: names) (.node container [child])

/-- A node below the cursor is reached over these names. -/
def InternalUnbalancedTree.Knows (t : InternalUnbalancedTree NodeData)
    (names : List (List Char)) : Prop :=
  ∃ position node below, t.current = .ok node ∧ RoseTree.find? position node = some below ∧
    (RoseTree.labelsTo position node).map (fun container => container.element.name) = names

namespace InternalFilesystem

/-- The tree or the disk has a node at the end of these names. -/
def Present (s : InternalFilesystem) (names : List (List Char)) : Prop :=
  s.filesystemTree.Knows names ∨ s.filesystemReader.follow names ≠ none

/-- The first `k` components of the path are present and no later one is. -/
structure SplitsAt (s : InternalFilesystem) (path : List Char) (k : Nat) : Prop where
  lt_length : k < (components path).length
  present : ∀ i, i ≤ k → s.Present ((components path).take i)
  unknown : ∀ i, k < i → i ≤ (components path).length → ¬ s.Present ((components path).take i)

/-- The walk adds one chain for the components behind the first `k`, and nothing else. -/
def AddsForeignChain (s : InternalFilesystem) (path : List Char) (keepMove : Bool) (k : Nat) :
    Prop :=
  ∃ result s' position node chain, s.pathChangeInline path keepMove = .ok (result, s') ∧
    IsForeignChain ((components path).drop k) chain ∧
    RoseTree.find? position s.filesystemTree.head = some node ∧
    s'.filesystemTree.head =
      RoseTree.updateChildren (fun children => children ++ [chain]) position s.filesystemTree.head

end InternalFilesystem

/-! ## Counting the foreign nodes -/

def IsForeign (container : NodeContainer NodeData) : Prop :=
  container.element.isForeign = some true

instance : DecidablePred IsForeign := fun _ => inferInstanceAs (Decidable (_ = _))

/-- How many nodes of a tree are foreign. -/
def foreignCount (tree : RoseTree (NodeContainer NodeData)) : Nat :=
  tree.labels.countP IsForeign

/-- New children bring their foreign nodes. -/
theorem foreignCount_updateChildren {position : Position}
    {tree node : RoseTree (NodeContainer NodeData)}
    (hnode : RoseTree.find? position tree = some node)
    (new : List (RoseTree (NodeContainer NodeData))) :
    foreignCount (RoseTree.updateChildren (fun children => children ++ new) position tree) =
      foreignCount tree + (RoseTree.labelsOf new).countP IsForeign := by
  have hperm := RoseTree.labels_updateChildren_append hnode new
  rw [foreignCount, hperm.countP_eq, List.countP_append]
  rfl

/-- All nodes of a chain are foreign. -/
theorem IsForeignChain.foreignCount_eq {names : List (List Char)}
    {chain : RoseTree (NodeContainer NodeData)} (h : IsForeignChain names chain) :
    foreignCount chain = names.length := by
  induction h with
  | last hlabel =>
    have hforeign : IsForeign _ := hlabel.foreign
    simp [foreignCount, RoseTree.labels, RoseTree.labelsOf, hforeign]
  | nested hlabel hchain ih =>
    have hforeign : IsForeign _ := hlabel.foreign
    simpa [foreignCount, RoseTree.labels, RoseTree.labelsOf, hforeign] using ih

/-- A chain brings one for each of its names. -/
theorem foreignCount_chain {position : Position}
    {tree node chain : RoseTree (NodeContainer NodeData)}
    (hnode : RoseTree.find? position tree = some node) {names : List (List Char)}
    (hchain : IsForeignChain names chain) :
    foreignCount (RoseTree.updateChildren (fun children => children ++ [chain]) position tree) =
      foreignCount tree + names.length := by
  rw [foreignCount_updateChildren hnode, RoseTree.labelsOf, RoseTree.labelsOf, List.append_nil,
    ← hchain.foreignCount_eq]
  rfl

/-- The nodes that the loop adds are not foreign. -/
theorem countP_childForTreeUpdate (added : Nat) :
    (RoseTree.labelsOf (List.replicate added childForTreeUpdate)).countP IsForeign = 0 := by
  induction added with
  | zero => rfl
  | succ added ih =>
    rw [List.replicate_succ, RoseTree.labelsOf, List.countP_append, ih]
    decide

namespace InternalFilesystem

/-- A walk does not change how many nodes are foreign. -/
theorem Armed.foreignCount_pathChangeInline {s s' : InternalFilesystem} (h : s.Armed)
    {path result : List Char} {keepMove : Bool}
    (hok : s.pathChangeInline path keepMove = .ok (result, s')) :
    foreignCount s'.filesystemTree.head = foreignCount s.filesystemTree.head := by
  by_cases hpath : path = []
  · subst hpath
    rw [h.pathChangeInline_nil] at hok
    cases hok
    rfl
  · obtain ⟨s'', hcall, -, -, ⟨added, htree⟩, -⟩ := h.pathChangeInline_of_ne hpath keepMove
    obtain ⟨-, rfl⟩ := Except.unique_of_eq_ok hcall hok
    obtain ⟨node, hnode⟩ := h.sound.valid
    rw [InternalUnbalancedTree.current_eq_ok_iff] at hnode
    rw [htree]
    calc foreignCount (withUpdates s.filesystemTree added).head
        _ = foreignCount s.filesystemTree.head + 0 := by
          rw [← countP_childForTreeUpdate added]
          exact foreignCount_updateChildren hnode _
        _ = foreignCount s.filesystemTree.head := Nat.add_zero _

/-- At least one component is missing, so the chain would have a foreign node. -/
theorem Armed.not_addsForeignChain {s : InternalFilesystem} (h : s.Armed) {path : List Char}
    {k : Nat} (hsplit : s.SplitsAt path k) (keepMove : Bool) :
    ¬ s.AddsForeignChain path keepMove k := by
  rintro ⟨result, s', position, node, chain, hok, hchain, hnode, hhead⟩
  have hsame := h.foreignCount_pathChangeInline hok
  rw [hhead, foreignCount_chain hnode hchain, List.length_drop] at hsame
  have hk := hsplit.lt_length
  omega

/-- Neither the tree nor the disk has anything below the root. -/
theorem armedAtRoot_splitsAt : armedAtRoot.filesystem.SplitsAt ['a'] 0 where
  lt_length := by decide
  present i hi := by
    obtain rfl : i = 0 := by omega
    exact Or.inl ⟨[], _, _, rfl, rfl, rfl⟩
  unknown i hlo hhi := by
    obtain rfl : i = 1 := Nat.le_antisymm hhi hlo
    rintro (⟨position, node, below, hnode, hbelow, hnames⟩ | hdisk)
    · cases hnode
      cases position with
      | nil => exact absurd hnames (by decide)
      | cons j position => cases hbelow
    · exact hdisk (by decide)

theorem not_addsForeignChain_atRoot : ¬ armedAtRoot.filesystem.AddsForeignChain ['a'] true 0 :=
  armedAtRoot.armed.not_addsForeignChain armedAtRoot_splitsAt true

/-- The missing component `a` is not added. -/
theorem missing_component_not_added :
    ¬ ∀ s : InternalFilesystem, s.Armed → ∀ path keepMove k, s.SplitsAt path k →
      s.AddsForeignChain path keepMove k := by
  intro hall
  obtain ⟨result, s', position, node, chain, hok, hchain, hnode, hhead⟩ :=
    hall armedAtRoot.filesystem armedAtRoot.armed ['a'] true 0 armedAtRoot_splitsAt
  have hsame := armedAtRoot.armed.foreignCount_pathChangeInline hok
  rw [hhead, foreignCount_chain hnode hchain] at hsame
  have hone : ((components ['a']).drop 0).length = 1 := by decide
  omega

end InternalFilesystem

end NetworkedFS
