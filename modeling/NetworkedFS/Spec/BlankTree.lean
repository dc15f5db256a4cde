import NetworkedFS.ForStd.StepRun
import NetworkedFS.Native.InternalObject
import NetworkedFS.Spec.BreadthFirst
import NetworkedFS.Spec.DirectoryTracking
import NetworkedFS.Spec.RepresentationUpdate

/-!
# What the internal filesystem ever does

An `internal_unbalanced_tree_filesystem` is to mirror a directory tree, to find paths in it and
to remove what it is told to.  In no run of its calls, from the constructor on and whatever others
do to the disk in between, does it get that far: its tree has nameless directories under its head
and nothing else, so that no name is ever found in it and no pointer ever leaves the head.  An
update of the tree does not return, nor does the removal of a directory; the other calls that ask
for a path or a child never say that they found, entered or removed it; and the disk is never
touched.  Only the table of foreign lookups answers for what was put into it.

## Key results

- `Blank.step`: what one call keeps and reports;
- `calls_report_nothing`: what no call of a run ever does.
-/

namespace NetworkedFS

open PathName (Name)

namespace InternalOp

/-- The calls that say whether they have removed, found or entered a path or a child. -/
def Reports : InternalOp → Prop
  | .killChild _ | .pathExists _ | .stepBackwardsOnce | .stepForwardsOnce _ | .pathChange _ => True
  | _ => False

/-- What others do is not a call. -/
def IsCall : InternalOp → Prop
  | .others _ _ => False
  | _ => True

/-- An update reads a listing that is gone, and `killParent` the flag of a node that has
    none. -/
def CanReturn : InternalOp → Prop
  | .updateRepresentation _ | .killParent => False
  | _ => True

end InternalOp

/-! ## Trees without names -/

/-- The tree of the constructor and a number of the nodes that a walk adds. -/
def blankTree (added : Nat) : InternalUnbalancedTree NodeData := withUpdates (.construct {}) added

theorem withUpdates_blankTree (m n : Nat) : withUpdates (blankTree m) n = blankTree (m + n) :=
  withUpdates_withUpdates _ m n

theorem sound_blankTree (added : Nat) : (blankTree added).Sound := by
  have hconstruct : (InternalUnbalancedTree.construct ({} : NodeData)).Sound :=
    ⟨⟨_, rfl⟩, .node rfl fun _ hchild => absurd hchild List.not_mem_nil⟩
  exact sound_withUpdates hconstruct added

/-- The node under the pointer. -/
theorem current_blankTree (added : Nat) : (blankTree added).current =
    .ok (.node { element := {} } (List.replicate added childForTreeUpdate)) := rfl

/-- No child has a name that one can look for. -/
theorem findChild_blankTree (added : Nat) {name : List Char} (hname : name ≠ []) :
    InternalUnbalancedTree.findChild
      (.node { element := ({} : NodeData) } (List.replicate added childForTreeUpdate)) name =
        none := by
  refine List.findIdx?_eq_none_iff.mpr fun child hchild => ?_
  rw [List.eq_of_mem_replicate hchild]
  exact decide_eq_false fun hnil => hname hnil.symm

theorem moveDown_blankTree (added : Nat) {name : List Char} (hname : name ≠ []) :
    (blankTree added).moveDown name = .ok (false, blankTree added) := by
  refine (sound_blankTree added).moveDown_of_not fun hchild => ?_
  obtain ⟨node, hnode, hfound⟩ := hchild
  rw [current_blankTree] at hnode
  cases hnode
  exact hfound (findChild_blankTree added hname)

/-- There is no such node, or the flags of the node have no value. -/
theorem getNode_blankTree (added : Nat) (name : List Char) :
    (blankTree added).getNode name = .ok (if name = [] then some {} else none) := by
  unfold InternalUnbalancedTree.getNode
  rw [current_blankTree]
  by_cases hname : name = []
  · simp only [bind, Except.bind, if_pos hname]
    rfl
  · simp only [bind, Except.bind, if_neg hname, findChild_blankTree added hname]
    rfl

namespace InternalFilesystem

/-- An offset is armed only in a reader that knows its directory, and no node has a name. -/
structure Blank (s : InternalFilesystem) : Prop where
  known : s.offsetArmed = true → s.filesystemReader.head.directoryKnown = true
  tree : ∃ added, s.filesystemTree = blankTree added

namespace Blank

variable {s s' : InternalFilesystem}

theorem sound (hs : s.Blank) : s.filesystemTree.Sound := by
  obtain ⟨added, htree⟩ := hs.tree
  rw [htree]
  exact sound_blankTree added

theorem armed (hs : s.Blank) (harmed : s.offsetArmed = true) : s.Armed :=
  ⟨harmed, hs.known harmed, hs.sound⟩

/-- Another reader that knows its directory. -/
theorem withReader (hs : s.Blank) {reader : FilesystemState}
    (hknown : reader.head.directoryKnown = true) :
    (s.withCursors reader s.filesystemTree).Blank :=
  ⟨fun _ => hknown, hs.tree⟩

/-! ## The calls -/

theorem construct (process : Process) : (InternalFilesystem.construct process).Blank where
  known harmed := by cases harmed
  tree := ⟨0, (withUpdates_zero _).symm⟩

theorem setFilesystemOffset (hs : s.Blank) {offset : List Char} {result : Bool}
    (hok : s.setFilesystemOffset offset = .ok (result, s')) : s'.Blank := by
  obtain ⟨⟨set, reader⟩, hroot, hlast⟩ := Except.bind_eq_ok_iff.mp hok
  cases hlast
  refine ⟨fun _ => ?_, hs.tree⟩
  -- setting the root makes the directory known in any case
  unfold FilesystemState.setRoot at hroot
  simp only at hroot
  split at hroot
  case h_1 => cases hroot; rfl
  case h_2 =>
    split at hroot
    case isTrue => cases hroot; rfl
    case isFalse => cases hroot; rfl

/-- A walk adds nodes without names, and its result is the empty string. -/
theorem pathChangeInline (hs : s.Blank) {path result : List Char} {keepMove : Bool}
    (hok : s.pathChangeInline path keepMove = .ok (result, s')) : s'.Blank ∧ result = [] := by
  by_cases harmed : s.offsetArmed = true
  case neg =>
    rw [InternalFilesystem.pathChangeInline, if_neg harmed] at hok
    cases hok
  by_cases hpath : path = []
  · subst hpath
    rw [(hs.armed harmed).pathChangeInline_nil] at hok
    cases hok
    exact ⟨hs, rfl⟩
  · obtain ⟨t, hcall, ht, -, htree, -⟩ :=
      (hs.armed harmed).pathChangeInline_of_ne hpath keepMove
    obtain ⟨hresult, rfl⟩ := Except.unique_of_eq_ok hcall hok
    obtain ⟨added, hadded⟩ := htree
    obtain ⟨before, hbefore⟩ := hs.tree
    refine ⟨⟨fun _ => ht.known, before + added, ?_⟩, hresult.symm⟩
    rw [hadded, hbefore, withUpdates_blankTree]

theorem pathExists (hs : s.Blank) {path : List Char} {result : Bool}
    (hok : s.pathExists path = .ok (result, s')) : s'.Blank ∧ result = false := by
  unfold InternalFilesystem.pathExists at hok
  split at hok
  case isFalse => cases hok
  case isTrue =>
    obtain ⟨⟨found, t⟩, hwalk, hlast⟩ := Except.bind_eq_ok_iff.mp hok
    obtain ⟨ht, hfound⟩ := hs.pathChangeInline hwalk
    cases hlast
    exact ⟨ht, decide_eq_false (not_not_intro hfound)⟩

theorem pathChange (hs : s.Blank) {path : List Char} {result : Bool}
    (hok : s.pathChange path = .ok (result, s')) : s'.Blank ∧ result = false := by
  unfold InternalFilesystem.pathChange at hok
  split at hok
  case isFalse => cases hok
  case isTrue =>
    obtain ⟨⟨found, t⟩, hwalk, hlast⟩ := Except.bind_eq_ok_iff.mp hok
    obtain ⟨ht, hfound⟩ := hs.pathChangeInline hwalk
    cases hlast
    exact ⟨ht, decide_eq_false (not_not_intro hfound)⟩

/-- The tree never goes up, so the call never says yes. -/
theorem stepBackwardsOnce (hs : s.Blank) {result : Bool}
    (hok : s.stepBackwardsOnce = .ok (result, s')) : s'.Blank ∧ result = false := by
  unfold InternalFilesystem.stepBackwardsOnce at hok
  split at hok
  case isFalse => cases hok
  case isTrue =>
    obtain ⟨⟨stepped, reader⟩, hback, hrest⟩ := Except.bind_eq_ok_iff.mp hok
    simp only [hs.sound.moveUp, bind, Except.bind, pure, Except.pure] at hrest
    cases hrest
    exact ⟨hs.withReader (FilesystemState.known_of_stepBackDirectory hback), Bool.and_false _⟩

/-- Nor does it go down: the reader asks for no empty name, and no node has another. -/
theorem stepForwardsOnce (hs : s.Blank) {name : List Char} {result : Bool}
    (hok : s.stepForwardsOnce name = .ok (result, s')) : s'.Blank ∧ result = false := by
  have hresult := result_of_stepForwardsOnce hok
  unfold InternalFilesystem.stepForwardsOnce at hok
  split at hok
  case isFalse => cases hok
  case isTrue harmed =>
    obtain ⟨⟨stepped, reader⟩, hforward, hrest⟩ := Except.bind_eq_ok_iff.mp hok
    obtain ⟨added, htree⟩ := hs.tree
    by_cases hname : name = []
    · rw [hname, FilesystemState.stepForwardDirectory_eq (hs.known harmed),
        FilesystemState.changeDirectory_nil (hs.known harmed)] at hforward
      cases hforward
    · have hdown := moveDown_blankTree added hname
      rw [← htree] at hdown
      simp only [hdown, bind, Except.bind, pure, Except.pure] at hrest
      cases hrest
      exact ⟨hs.withReader (FilesystemState.known_of_stepForwardDirectory hforward), hresult⟩

/-- Reading the flag of the head is undefined. -/
theorem killParentOn (hs : s.Blank) (calls : DiskCalls) (disk : Disk) :
    ∃ fault, s.killParentOn calls disk = .error fault := by
  obtain ⟨added, htree⟩ := hs.tree
  unfold InternalFilesystem.killParentOn
  split
  case isFalse => exact ⟨_, rfl⟩
  case isTrue =>
    rw [htree, getNode_blankTree]
    exact ⟨_, rfl⟩

/-- There is no such child. -/
theorem killChildOn (hs : s.Blank) {calls : DiskCalls} {disk : Disk} {name : List Char}
    {r : Bool × Disk × InternalFilesystem} (hok : s.killChildOn calls disk name = .ok r) :
    r = (false, disk, s) := by
  obtain ⟨added, htree⟩ := hs.tree
  unfold InternalFilesystem.killChildOn at hok
  split at hok
  case isFalse => cases hok
  case isTrue =>
    rw [htree, getNode_blankTree] at hok
    by_cases hname : name = []
    · rw [if_pos hname] at hok
      cases hok
    · rw [if_neg hname] at hok
      cases hok
      rfl

end Blank

/-! ## Cleaning -/

end InternalFilesystem

namespace InternalUnbalancedTree

/-- The loop over `moveUp` ends where it starts. -/
theorem Sound.moveUpWhile {α : Type} {t : InternalUnbalancedTree α} (h : t.Sound) (fuel : Nat) :
    t.moveUpWhile (fuel + 1) = .ok (some t) := by
  simp only [InternalUnbalancedTree.moveUpWhile, h.moveUp, bind, Except.bind, Bool.false_eq_true,
    if_false, pure, Except.pure]

end InternalUnbalancedTree

namespace InternalFilesystem

/-- A cleaning that returns disarms the offset and leaves the tree of the constructor, the reader
    where it was, and an empty stack. -/
theorem Blank.clean_eq_ok {s s' : InternalFilesystem} (hs : s.Blank) {fuel : Nat}
    {stack : List BfsPointer} (hok : s.clean fuel [] = .ok (some (s', stack))) :
    s'.offsetArmed = false ∧ s'.filesystemTree = .construct {} ∧
      s'.filesystemReader = s.filesystemReader ∧ stack = [] := by
  unfold InternalFilesystem.clean at hok
  split at hok
  case isFalse => cases hok
  case isTrue =>
    cases fuel with
    | zero => cases hok
    | succ fuel =>
      simp only [hs.sound.moveUpWhile, InternalUnbalancedTree.clean_eq, bind, Except.bind] at hok
      cases hclean : s.filesystemTree.clean with
      | error fault =>
        rw [hclean] at hok
        cases hok
      | ok t =>
        rw [hclean] at hok
        cases hok
        obtain ⟨added, htree⟩ := hs.tree
        rw [htree, InternalUnbalancedTree.clean_eq_ok_iff (current_blankTree added)] at hclean
        exact ⟨rfl, hclean.2, rfl, rfl⟩

end InternalFilesystem

/-! ## Runs -/

namespace InternalObject

open InternalFilesystem (Blank)

/-- An object between two calls. -/
structure Idle (s : InternalObject) : Prop where
  blank : s.filesystem.Blank
  stack : s.bfsStack = []

/-- What a call gives back and leaves when it neither finds, enters, updates nor removes
    anything of the tree. -/
structure ReportsNothing (s : InternalObject) (op : InternalOp)
    (r : InternalReply × InternalObject) : Prop where
  reply : op.Reports → r.1 = .flag false
  disk : op.IsCall → r.2.disk = s.disk
  tree : ∃ added, r.2.filesystem.filesystemTree = blankTree added
  returns : op.CanReturn

namespace Idle

variable {s : InternalObject} {calls : DiskCalls}

theorem construct (disk : Disk) (process : Process) :
    (InternalObject.construct disk process).Idle :=
  ⟨.construct process, rfl⟩

/-- A call that leaves all but the filesystem alone. -/
theorem moved (hs : s.Idle) (op : InternalOp) (hop : op.CanReturn) {flag : Bool}
    {filesystem : InternalFilesystem} (hblank : filesystem.Blank)
    (hflag : op.Reports → flag = false) :
    (s.moved (flag, filesystem)).2.Idle ∧ s.ReportsNothing op (s.moved (flag, filesystem)) :=
  ⟨⟨hblank, hs.stack⟩, fun hreports => congrArg _ (hflag hreports), fun _ => rfl,
    hblank.tree, hop⟩

/-- A call that leaves all but the foreign nodes and the identifier alone. -/
theorem aside (hs : s.Idle) (op : InternalOp) (hop : op.CanReturn) (hreports : ¬ op.Reports)
    (nodes : UMap (List Char) (List Char)) (identifier : List Char) (reply : InternalReply) :
    { s with foreignNodes := nodes, hostIdentifier := identifier }.Idle ∧
      s.ReportsNothing op
        (reply, { s with foreignNodes := nodes, hostIdentifier := identifier }) :=
  ⟨⟨hs.blank, hs.stack⟩, fun h => absurd h hreports, fun _ => rfl, hs.blank.tree, hop⟩

theorem clean (hs : s.Idle) {fuel : Nat} {s' : InternalObject} (hok : s.clean fuel = .ok s') :
    s'.Idle ∧ s.ReportsNothing (.clean fuel) (.nothing, s') := by
  obtain ⟨done, hclean, hlast⟩ := Except.bind_eq_ok_iff.mp hok
  rw [hs.stack] at hclean
  cases done with
  | none => cases hlast
  | some cleaned =>
    obtain ⟨filesystem, stack⟩ := cleaned
    obtain ⟨hdisarmed, htree, -, hstack⟩ := hs.blank.clean_eq_ok hclean
    have hblank : filesystem.Blank := by
      refine ⟨fun harmed => ?_, 0, htree⟩
      rw [hdisarmed] at harmed
      cases harmed
    cases hlast
    exact ⟨⟨hblank, hstack⟩, False.elim, fun _ => rfl, hblank.tree, trivial⟩

/-- One call, or what others do. -/
theorem step (hs : s.Idle) {op : InternalOp} {r : InternalReply × InternalObject}
    (hok : step calls s op = .ok r) :
    r.2.Idle ∧ s.ReportsNothing op r := by
  cases op with
  | setFilesystemOffset offset =>
    obtain ⟨⟨flag, filesystem⟩, hcall, rfl⟩ := Except.map_eq_ok_iff.mp hok
    -- the offset may now be another one, but the tree is as blank as it was
    exact hs.moved (.setFilesystemOffset offset) trivial (hs.blank.setFilesystemOffset hcall)
      False.elim
  | updateRepresentation fuel =>
    obtain ⟨_, hcall, -⟩ := Except.map_eq_ok_iff.mp hok
    -- it loops over a list that is gone, and does not return
    exact absurd hcall InternalFilesystem.updateRepresentation_ne_ok
  | serializeRequest lookup =>
    obtain ⟨text, -, rfl⟩ := Except.map_eq_ok_iff.mp hok
    -- the calls for other hosts leave the tree and its reader alone
    exact hs.aside (.serializeRequest lookup) trivial id s.foreignNodes s.hostIdentifier
      (.text text)
  | deserializeResponse response =>
    obtain ⟨_, -, rfl⟩ := Except.map_eq_ok_iff.mp hok
    exact hs.aside (.deserializeResponse response) trivial id s.foreignNodes s.hostIdentifier
      .nothing
  | serializeResponse request =>
    obtain ⟨text, -, rfl⟩ := Except.map_eq_ok_iff.mp hok
    exact hs.aside (.serializeResponse request) trivial id s.foreignNodes s.hostIdentifier
      (.text text)
  | getForeignLookup lookup =>
    obtain ⟨text, -, rfl⟩ := Except.map_eq_ok_iff.mp hok
    exact hs.aside (.getForeignLookup lookup) trivial id s.foreignNodes s.hostIdentifier
      (.text text)
  | addForeignLookup path host =>
    obtain ⟨lookups, -, rfl⟩ := Except.map_eq_ok_iff.mp hok
    exact hs.aside (.addForeignLookup path host) trivial id lookups.foreignNodes s.hostIdentifier
      .nothing
  | removeForeignLookup lookup =>
    obtain ⟨⟨flag, lookups⟩, -, rfl⟩ := Except.map_eq_ok_iff.mp hok
    exact hs.aside (.removeForeignLookup lookup) trivial id lookups.foreignNodes s.hostIdentifier
      (.flag flag)
  | killParent =>
    obtain ⟨_, hcall, -⟩ := Except.map_eq_ok_iff.mp hok
    -- the parent of a blank tree is null
    obtain ⟨fault, herror⟩ := hs.blank.killParentOn calls s.disk
    rw [herror] at hcall
    cases hcall
  | killChild name =>
    obtain ⟨killed, hcall, rfl⟩ := Except.map_eq_ok_iff.mp hok
    -- without a child of the name there is nothing to remove
    rw [hs.blank.killChildOn hcall]
    exact hs.moved (.killChild name) trivial hs.blank fun _ => rfl
  | pathExists path =>
    obtain ⟨⟨flag, filesystem⟩, hcall, rfl⟩ := Except.map_eq_ok_iff.mp hok
    -- these four look for a child that is not there
    obtain ⟨hblank, hflag⟩ := hs.blank.pathExists hcall
    exact hs.moved (.pathExists path) trivial hblank fun _ => hflag
  | stepBackwardsOnce =>
    obtain ⟨⟨flag, filesystem⟩, hcall, rfl⟩ := Except.map_eq_ok_iff.mp hok
    obtain ⟨hblank, hflag⟩ := hs.blank.stepBackwardsOnce hcall
    exact hs.moved .stepBackwardsOnce trivial hblank fun _ => hflag
  | stepForwardsOnce name =>
    obtain ⟨⟨flag, filesystem⟩, hcall, rfl⟩ := Except.map_eq_ok_iff.mp hok
    obtain ⟨hblank, hflag⟩ := hs.blank.stepForwardsOnce hcall
    exact hs.moved (.stepForwardsOnce name) trivial hblank fun _ => hflag
  | pathChange path =>
    obtain ⟨⟨flag, filesystem⟩, hcall, rfl⟩ := Except.map_eq_ok_iff.mp hok
    obtain ⟨hblank, hflag⟩ := hs.blank.pathChange hcall
    exact hs.moved (.pathChange path) trivial hblank fun _ => hflag
  | setHostIdentifier identifier =>
    cases hok
    exact hs.aside (.setHostIdentifier identifier) trivial id s.foreignNodes identifier .nothing
  | clean fuel =>
    obtain ⟨cleaned, hcall, rfl⟩ := Except.map_eq_ok_iff.mp hok
    exact hs.clean hcall
  | others disk process =>
    cases hok
    -- others move the process, and leave the object alone
    have hblank : (s.others disk process).filesystem.Blank := ⟨hs.blank.known, hs.blank.tree⟩
    exact ⟨⟨hblank, hs.stack⟩, False.elim, False.elim, hblank.tree, trivial⟩

end Idle

/-- In a run of calls on a new object, whatever others do to the disk and to the process in
    between: no call that returns says that it has removed, found or entered a path or a child,
    none touches the disk, none leaves a node with a name, and `updateRepresentation` and
    `killParent` do not return. -/
theorem calls_report_nothing (calls : DiskCalls) (disk : Disk) (process : Process)
    (ops : List InternalOp) :
    ∀ c ∈ StepRun.calls (step calls) (construct disk process) ops,
      ∀ r, step calls c.1 c.2 = .ok r → c.1.ReportsNothing c.2 r := by
  apply StepRun.forall_calls_of_ops (I := Idle) (P := fun _ => True) (Q := ReportsNothing)
  · intro s op r hs _ hok
    exact hs.step hok
  · exact Idle.construct disk process
  · exact fun _ _ => trivial

/-- A root that lists one directory. -/
def oneDirectoryDisk : Disk where
  listing directory :=
    if directory = [] then some [(['.'], false), (['.', '.'], false), (['a'], false)] else none
  content _ _ := none

/-- Nothing can be removed. -/
def refusesRemoval : DiskCalls where
  rmdir disk process _ := (-1, disk, process)
  unlink disk process _ := (-1, disk, process)

/-- An offset that can be listed. -/
def overRoot : List InternalOp := [.setFilesystemOffset ['/'], .pathExists ['a'], .killChild ['a']]

/-- Neither the directory that is there is found, nor can it be removed. -/
theorem calls_report_nothing_overRoot :
    StepRun.outputs (step refusesRemoval)
        (construct oneDirectoryDisk FilesystemState.atRoot.process) overRoot =
      [.flag true, .flag false, .flag false] ∧
      ∀ c ∈ StepRun.calls (step refusesRemoval)
          (construct oneDirectoryDisk FilesystemState.atRoot.process) overRoot,
        ∀ r, step refusesRemoval c.1 c.2 = .ok r → c.1.ReportsNothing c.2 r :=
  ⟨by decide, calls_report_nothing refusesRemoval oneDirectoryDisk _ overRoot⟩

end InternalObject

end NetworkedFS
