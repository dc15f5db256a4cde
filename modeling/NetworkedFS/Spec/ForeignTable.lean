import NetworkedFS.ForStd.Except
import NetworkedFS.ForStd.StepRun
import NetworkedFS.ForStd.TableChange
import NetworkedFS.Native.ForeignLookup

/-!
# The table of foreign nodes as a map

A foreign path is to be looked up for its host.  `addForeignLookup` makes the host the key, with
`emplace`, so that a second path of a host is dropped; `removeForeignLookup` erases nothing.

## Key results

- `behavesAsMap_step_iff`: the calls after which the table still gives what it should;
- `behavesAsMap_iff`: the runs in which it does throughout.
-/

namespace NetworkedFS

/-- The table, and the hosts of the paths that were added and not removed since. -/
structure ForeignTable where
  object : ForeignLookup
  hosts : List Char → Option (List Char)

namespace ForeignTable

/-- The three functions. -/
inductive Op where
  | get (lookup : List Char)
  | add (path host : List Char)
  | remove (lookup : List Char)
  deriving DecidableEq, Repr

/-- What a call gives back. -/
inductive Answer where
  | found (host : List Char)
  | added
  | removed (result : Bool)
  deriving DecidableEq, Repr

/-- What a call is asked to change; a path that is there keeps its host. -/
def Op.change : Op → TableChange (List Char) (List Char)
  | .get _ => .keep
  | .add path host => .set path host
  | .remove path => .wipe path

/-- A call on the object. -/
def Op.apply (object : ForeignLookup) : Op → Except Fault (Answer × ForeignLookup)
  | .get lookup => (object.getForeignLookup lookup).map fun host => (.found host, object)
  | .add path host => (object.addForeignLookup path host).map fun object => (.added, object)
  | .remove lookup =>
    (object.removeForeignLookup lookup).map fun (result, object) => (.removed result, object)

/-- One call, with what it is asked to change. -/
def step (s : ForeignTable) (op : Op) : Except Fault (Answer × ForeignTable) :=
  (op.apply s.object).map fun (answer, object) =>
    (answer, { object, hosts := op.change.emplace s.hosts })

/-- An armed object without foreign nodes. -/
def construct : ForeignTable where
  object := { offsetArmed := true }
  hosts _ := none

/-- Every path gives its host, and the empty string if it has none; the paths that have a host
    are those that can be removed. -/
def BehavesAsMap (s : ForeignTable) : Prop :=
  ∀ path, s.object.getForeignLookup path = .ok ((s.hosts path).getD []) ∧
    ∃ object, s.object.removeForeignLookup path = .ok ((s.hosts path).isSome, object)

/-- An added path is its own host, or both the path and the host are there already; a path that
    is removed is not there. -/
def Harmless (s : ForeignTable) : Op → Prop
  | .get _ => True
  | .add path host => host = path ∨ s.hosts host ≠ none ∧ s.hosts path ≠ none
  | .remove path => s.hosts path = none

/-- The lookups give what they should when the table holds the hosts. -/
theorem behavesAsMap_iff_get {s : ForeignTable} (harmed : s.object.offsetArmed = true) :
    s.BehavesAsMap ↔ s.object.foreignNodes.get = s.hosts := by
  simp only [BehavesAsMap, ForeignLookup.getForeignLookup, ForeignLookup.removeForeignLookup,
    harmed, if_true, Except.ok.injEq, Prod.mk.injEq, exists_and_left, exists_eq', and_true]
  constructor
  · intro h
    funext path
    obtain ⟨hget, hremove⟩ := h path
    show s.object.foreignNodes.lookup path = s.hosts path
    cases hfound : s.object.foreignNodes.lookup path <;> cases hhost : s.hosts path <;> simp_all
  · intro h path
    have hfound : s.object.foreignNodes.lookup path = s.hosts path := congrFun h path
    simp [hfound]

/-- A call on an armed object returns, and leaves the object armed.  An added host becomes a key
    of the table, and nothing else changes it. -/
theorem step_eq_ok {s : ForeignTable} (harmed : s.object.offsetArmed = true) (op : Op) :
    ∃ answer s', s.step op = .ok (answer, s') ∧ s'.object.offsetArmed = true ∧
      s'.hosts = op.change.emplace s.hosts ∧
      s'.object.foreignNodes.get = match op with
        | .add path host => (TableChange.set host path).emplace s.object.foreignNodes.get
        | _ => s.object.foreignNodes.get := by
  cases op with
  | get lookup =>
    have hget : s.object.getForeignLookup lookup =
        .ok ((s.object.foreignNodes.lookup lookup).getD []) := if_pos harmed
    exact ⟨_, _, congrArg (Except.map _) (congrArg (Except.map _) hget), harmed, rfl, rfl⟩
  | add path host =>
    have hadd : s.object.addForeignLookup path host = .ok { s.object with
        foreignNodes := s.object.foreignNodes.emplace host path } := if_pos harmed
    exact ⟨_, _, congrArg (Except.map _) (congrArg (Except.map _) hadd), harmed, rfl,
      UMap.get_emplace _ _ _⟩
  | remove lookup =>
    have hremove : s.object.removeForeignLookup lookup =
        .ok ((s.object.foreignNodes.lookup lookup).isSome, s.object) := if_pos harmed
    exact ⟨_, _, congrArg (Except.map _) (congrArg (Except.map _) hremove), harmed, rfl, rfl⟩

/-- While the table holds the hosts, a call keeps this up exactly when it is harmless. -/
theorem behavesAsMap_step_iff {s s' : ForeignTable} (harmed : s.object.offsetArmed = true)
    (hs : s.BehavesAsMap) {op : Op} {answer : Answer} (hok : s.step op = .ok (answer, s')) :
    s'.BehavesAsMap ↔ s.Harmless op := by
  obtain ⟨answer', s'', hok', harmed', hhosts, hget⟩ := step_eq_ok harmed op
  obtain ⟨rfl, rfl⟩ := Except.unique_of_eq_ok hok hok'
  rw [behavesAsMap_iff_get harmed] at hs
  rw [behavesAsMap_iff_get harmed', hhosts, hget, hs]
  cases op with
  | get lookup => exact iff_of_true rfl trivial
  | add path host => exact TableChange.emplace_set_comm_iff s.hosts host path
  | remove lookup =>
    rw [eq_comm]
    exact TableChange.emplace_wipe_eq_iff s.hosts lookup

/-- A new table has no hosts to hold. -/
theorem behavesAsMap_construct : construct.BehavesAsMap :=
  (behavesAsMap_iff_get rfl).mpr rfl

/-- Along a run on an armed object the table behaves as a map throughout exactly when every path
    is added as its own host, or is there already together with its host, and no path is removed
    that is there. -/
theorem behavesAsMap_iff (ops : List Op) :
    (∀ s ∈ StepRun.visited step construct ops, s.BehavesAsMap) ↔
      ∀ c ∈ StepRun.calls step construct ops, c.1.Harmless c.2 := by
  rw [StepRun.forall_visited_iff, and_iff_right behavesAsMap_construct]
  have hlaw : ∀ (s : ForeignTable) (op : Op), s.object.offsetArmed = true ∧ s.BehavesAsMap →
      ((∀ answer s', s.step op = .ok (answer, s') → s'.BehavesAsMap) ↔ s.Harmless op) := by
    intro s op hs
    obtain ⟨answer, s', hok, -⟩ := step_eq_ok hs.1 op
    rw [← behavesAsMap_step_iff hs.1 hs.2 hok]
    constructor
    · intro h
      exact h answer s' hok
    · intro h answer' s'' hok'
      obtain ⟨rfl, rfl⟩ := Except.unique_of_eq_ok hok hok'
      exact h
  refine StepRun.forall_calls_iff hlaw ?_ ⟨rfl, behavesAsMap_construct⟩ ops
  intro s op answer s' hs hharmless hok
  obtain ⟨answer', s'', hok', harmed', -⟩ := step_eq_ok hs.1 op
  obtain ⟨rfl, rfl⟩ := Except.unique_of_eq_ok hok hok'
  exact ⟨harmed', (behavesAsMap_step_iff hs.1 hs.2 hok).mpr hharmless⟩

/-- A path that is added for the default host gives the empty string. -/
theorem added_path_not_found :
    ¬ ∀ ops : List Op, ∀ s ∈ StepRun.visited step construct ops, s.BehavesAsMap := by
  intro hall
  let ops : List Op := [.add ['a'] broadcastIdentifier]
  have hfound := (hall ops _ (StepRun.final_mem_visited _ ops) ['a']).1
  exact absurd (Except.ok.inj hfound) (by decide)

end ForeignTable

end NetworkedFS
