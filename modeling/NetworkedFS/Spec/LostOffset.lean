import NetworkedFS.Spec.BlankTree

/-!
# Offsets other than the root

`setFilesystemOffset` arms the object exactly when `chdir` fails for the offset, less the
delimiter at its end.  For the root that leaves the empty string, below which paths are looked up
from the root.  Every other armed offset is a directory that cannot be entered, and so is what the
reader tracks below it: no run of the object's calls adds a node to the tree or moves the process,
other than by setting the offset again.

## Key results

- `FilesystemState.Lost`: a head that cannot move;
- `calls_leave_alone`: what the calls leave alone as long as the offset is not the root.
-/

namespace NetworkedFS

/-! ## Directories that cannot be entered -/

/-- Without a null character the callee sees the whole string. -/
theorem cString_of_not_mem {text : List Char} (h : '\x00' ∉ text) : cString text = text := by
  rw [cString, List.takeWhile_eq_self_iff]
  exact fun c hc => decide_eq_true (fun heq => h (heq ▸ hc))

/-- What follows a null character is not seen. -/
theorem cString_append_of_mem {text : List Char} (h : '\x00' ∈ text) (rest : List Char) :
    cString (text ++ rest) = cString text := by
  rw [cString, List.takeWhile_append, if_neg]
  · rfl
  · intro hlength
    have hself := (List.takeWhile_prefix _).eq_of_length hlength
    exact absurd (List.takeWhile_eq_self_iff.mp hself '\x00' h) (by decide)

theorem cString_append_of_not_mem {text : List Char} (h : '\x00' ∉ text) (rest : List Char) :
    cString (text ++ rest) = text ++ cString rest := by
  apply List.takeWhile_append_of_pos
  intro c hc
  exact decide_eq_true fun heq => h (heq ▸ hc)

/-- Nothing below such a directory can be entered either. -/
theorem Process.target_extendPath_of_none {process : Process} {path : List Char} (hpath : path ≠ [])
    (h : process.target path = none) (directory : List Char) :
    process.target (extendPath path directory) = none := by
  rw [Process.target, Option.map_eq_none_iff] at h ⊢
  by_cases hnull : '\x00' ∈ path
  · rw [extendPath, cString_append_of_mem hnull]
    exact h
  · rw [cString_of_not_mem hnull] at h
    have hcons : ∀ rest, cString (nodeDelimeter :: rest) = '/' :: cString rest := fun _ => rfl
    rw [extendPath, cString_append_of_not_mem hnull, hcons, DirectoryTree.resolve_append,
      DirectoryTree.resolve_append_delimiter _ hpath, h]
    rfl

namespace FilesystemState

/-- A head that tracks a directory that cannot be entered. -/
structure Lost (s : FilesystemState) : Prop where
  known : s.head.directoryKnown = true
  tracks : s.head.currentDirectory ≠ []
  nowhere : s.process.target s.head.currentDirectory = none

namespace Lost

variable {s s' : FilesystemState}

/-- Every move is reported as made, and tracks a directory further down. -/
theorem changeDirectory (hs : s.Lost) {directory : List Char} (hne : directory ≠ []) :
    s.changeDirectory directory =
      .ok (true, s.setCurrentDirectory (s.completeDirectory directory)) :=
  changeDirectory_of_none hs.known hne
    (Process.target_extendPath_of_none hs.tracks hs.nowhere directory)

/-- Below it the head is as lost as before. -/
theorem completed (hs : s.Lost) (directory : List Char) :
    (s.setCurrentDirectory (s.completeDirectory directory)).Lost where
  known := hs.known
  tracks := List.append_ne_nil_of_left_ne_nil hs.tracks _
  nowhere := Process.target_extendPath_of_none hs.tracks hs.nowhere directory

theorem stepForwardDirectory (hs : s.Lost) {targetNode : List Char} {result : Bool}
    (hok : s.stepForwardDirectory targetNode = .ok (result, s')) :
    s'.Lost ∧ s'.process = s.process := by
  rw [stepForwardDirectory_eq hs.known] at hok
  by_cases hne : targetNode = []
  · rw [hne, changeDirectory_nil hs.known] at hok
    cases hok
  · rw [hs.changeDirectory hne] at hok
    cases hok
    exact ⟨hs.completed targetNode, rfl⟩

/-- Stepping back by nothing tracks what was tracked. -/
theorem stepBackDirectory (hs : s.Lost) {result : Bool}
    (hok : s.stepBackDirectory 0 = .ok (result, s')) : s'.Lost ∧ s'.process = s.process := by
  have hback := stepBackDirectory_of_some (n := 0) hs.known (ancestor_zero _)
  rw [hs.changeDirectory hs.tracks] at hback
  have hok' : s.stepBackDirectory (0 : Nat) = .ok (result, s') := hok
  rw [hback] at hok'
  cases hok'
  exact ⟨⟨hs.known, hs.tracks, hs.nowhere⟩, rfl⟩

end Lost

end FilesystemState

namespace InternalFilesystem

/-- An armed object whose reader is lost in a process, with the tree of the constructor. -/
structure Lost (process : Process) (s : InternalFilesystem) : Prop where
  armed : s.offsetArmed = true
  reader : s.filesystemReader.Lost
  process_eq : s.filesystemReader.process = process
  tree : s.filesystemTree = .construct {}

namespace Lost

variable {process : Process} {s s' : InternalFilesystem}

theorem blank (hs : Lost process s) : s.Blank where
  known _ := hs.reader.known
  tree := ⟨0, by rw [hs.tree, blankTree, withUpdates_zero]⟩

/-- Another lost reader in the same process. -/
theorem withReader (hs : Lost process s) {reader : FilesystemState} (hreader : reader.Lost)
    (hprocess : reader.process = s.filesystemReader.process) :
    Lost process (s.withCursors reader s.filesystemTree) :=
  ⟨hs.armed, hreader, hprocess.trans hs.process_eq, hs.tree⟩

/-- The first word of a path is not found, so no node is added. -/
theorem run (hs : Lost process s) {words : List (List Char)} (hwords : ∀ word ∈ words, word ≠ [])
    (total : Nat) : ∃ v, PathLoop.run total ⟨false, 0, [], s.filesystemReader, s.filesystemTree⟩
        words = .ok v ∧ v.result = [] ∧ v.tree = s.filesystemTree ∧ v.reader.Lost ∧
      v.reader.process = s.filesystemReader.process := by
  cases words with
  | nil => exact ⟨_, rfl, rfl, rfl, hs.reader, rfl⟩
  | cons word words =>
    have hmissing := Process.target_extendPath_of_none hs.reader.tracks hs.reader.nowhere word
    exact ⟨_, PathLoop.run_cons_of_none hs.reader.known (hwords word List.mem_cons_self) hmissing
      total words, rfl, rfl, hs.reader.completed word, rfl⟩

theorem pathChangeInline (hs : Lost process s) {path result : List Char} {keepMove : Bool}
    (hok : s.pathChangeInline path keepMove = .ok (result, s')) : Lost process s' := by
  have harmed := hs.blank.armed hs.armed
  by_cases hpath : path = []
  · subst hpath
    rw [harmed.pathChangeInline_nil] at hok
    cases hok
    exact hs
  · obtain ⟨v, hrun, hresult, htree, hreader, hprocess⟩ :=
      hs.run (fun _ => ne_nil_of_mem_splitWords) (splitWords path).length
    have hsound : v.tree.Sound := htree ▸ hs.blank.sound
    rw [harmed.pathChangeInline_of_run hpath keepMove hrun hresult hsound, htree] at hok
    cases hok
    exact hs.withReader hreader hprocess

theorem pathExists (hs : Lost process s) {path : List Char} {result : Bool}
    (hok : s.pathExists path = .ok (result, s')) : Lost process s' := by
  rw [InternalFilesystem.pathExists, if_pos hs.armed] at hok
  obtain ⟨⟨found, t⟩, hwalk, hlast⟩ := Except.bind_eq_ok_iff.mp hok
  cases hlast
  exact hs.pathChangeInline hwalk

theorem pathChange (hs : Lost process s) {path : List Char} {result : Bool}
    (hok : s.pathChange path = .ok (result, s')) : Lost process s' := by
  rw [InternalFilesystem.pathChange, if_pos hs.armed] at hok
  obtain ⟨⟨found, t⟩, hwalk, hlast⟩ := Except.bind_eq_ok_iff.mp hok
  cases hlast
  exact hs.pathChangeInline hwalk

theorem stepBackwardsOnce (hs : Lost process s) {result : Bool}
    (hok : s.stepBackwardsOnce = .ok (result, s')) : Lost process s' := by
  rw [InternalFilesystem.stepBackwardsOnce, if_pos hs.armed] at hok
  obtain ⟨⟨stepped, reader⟩, hback, hrest⟩ := Except.bind_eq_ok_iff.mp hok
  obtain ⟨hreader, hprocess⟩ := hs.reader.stepBackDirectory hback
  simp only [hs.blank.sound.moveUp, bind, Except.bind, pure, Except.pure] at hrest
  cases hrest
  exact hs.withReader hreader hprocess

theorem stepForwardsOnce (hs : Lost process s) {name : List Char} {result : Bool}
    (hok : s.stepForwardsOnce name = .ok (result, s')) : Lost process s' := by
  rw [InternalFilesystem.stepForwardsOnce, if_pos hs.armed] at hok
  obtain ⟨⟨stepped, reader⟩, hforward, hrest⟩ := Except.bind_eq_ok_iff.mp hok
  obtain ⟨hreader, hprocess⟩ := hs.reader.stepForwardDirectory hforward
  obtain ⟨⟨moved, tree⟩, hdown, hlast⟩ := Except.bind_eq_ok_iff.mp hrest
  -- the tree of the constructor has no children
  have hstay : tree = s.filesystemTree := by
    rw [hs.tree] at hdown ⊢
    cases hdown
    rfl
  cases hlast
  rw [hstay]
  exact hs.withReader hreader hprocess

end Lost

/-- An offset that is armed is the root or a directory that cannot be entered; setting it moves
    no node of the tree. -/
theorem setFilesystemOffset_eq_ok {s s' : InternalFilesystem} {offset : List Char} {result : Bool}
    (htree : s.filesystemTree = .construct {}) (hoffset : offset ≠ [nodeDelimeter])
    (hok : s.setFilesystemOffset offset = .ok (result, s')) :
    s'.filesystemTree = .construct {} ∧
      (s'.offsetArmed = true → Lost s'.filesystemReader.process s') := by
  obtain ⟨⟨set, reader⟩, hroot, hlast⟩ := Except.bind_eq_ok_iff.mp hok
  cases hlast
  refine ⟨htree, fun harmed => ?_⟩
  by_cases hend : offset.getLast? = some nodeDelimeter
  · obtain ⟨front, rfl⟩ := List.getLast?_eq_some_iff.mp hend
    have hfront : front ≠ [] := fun hnil => hoffset (by rw [hnil]; rfl)
    rw [FilesystemState.setRoot_append] at hroot
    cases htarget : s.filesystemReader.process.target front with
    | none =>
      have hrectified : (s.filesystemReader.rectified front).process.target front = none := htarget
      rw [FilesystemState.changeDirectoryFunction_of_none hrectified] at hroot
      cases hroot
      exact ⟨rfl, ⟨rfl, hfront, htarget⟩, rfl, htree⟩
    | some d =>
      have hrectified : (s.filesystemReader.rectified front).process.target front = some d :=
        htarget
      obtain ⟨entered, -, hentered⟩ := FilesystemState.changeDirectoryFunction_of_some hrectified
      rw [hentered] at hroot
      -- `chdir` has succeeded, and the offset is not armed
      cases hroot
      cases harmed
  · rw [FilesystemState.setRoot_of_ne hend] at hroot
    cases hroot
    cases harmed

end InternalFilesystem

/-! ## Runs -/

namespace InternalObject

open InternalFilesystem (Lost)

/-- The offset is not set to the root, and others change the disk but not where the process is
    and which directories it can enter. -/
def Elsewhere (s : InternalObject) : InternalOp → Prop
  | .setFilesystemOffset offset => offset ≠ [nodeDelimeter]
  | .others _ process => process = s.filesystem.filesystemReader.process
  | _ => True

/-- The calls that may move the process. -/
def SetsOffset : InternalOp → Prop
  | .setFilesystemOffset _ => True
  | _ => False

/-- What a call leaves when it has neither moved the process nor changed the tree. -/
structure LeavesAlone (s : InternalObject) (op : InternalOp)
    (r : InternalReply × InternalObject) : Prop where
  tree : r.2.filesystem.filesystemTree = .construct {}
  process : ¬ SetsOffset op →
    r.2.filesystem.filesystemReader.process = s.filesystem.filesystemReader.process

/-- An object that is not armed, or lost. -/
structure Stuck (s : InternalObject) : Prop where
  tree : s.filesystem.filesystemTree = .construct {}
  lost : s.filesystem.offsetArmed = true →
    Lost s.filesystem.filesystemReader.process s.filesystem
  stack : s.bfsStack = []

/-- The calls that assert that the offset is armed. -/
def Guarded : InternalOp → Prop
  | .setFilesystemOffset _ | .setHostIdentifier _ | .others _ _ => False
  | _ => True

/-- Such a call returns only when it is. -/
theorem armed_of_step {s : InternalObject} {calls : DiskCalls} (op : InternalOp)
    (hop : Guarded op) {r : InternalReply × InternalObject} (hok : step calls s op = .ok r) :
    s.filesystem.offsetArmed = true := by
  by_contra harmed
  have hdisarmed : s.foreignLookup.offsetArmed = s.filesystem.offsetArmed := rfl
  cases op with
  | setFilesystemOffset offset => exact hop
  | setHostIdentifier identifier => exact hop
  | others disk process => exact hop
  -- the assertion comes first in each of them
  | updateRepresentation fuel =>
    simp [step, InternalFilesystem.updateRepresentation, harmed, Except.map] at hok
  | serializeRequest lookup =>
    simp [step, InternalFilesystem.serializeRequest, harmed, Except.map] at hok
  | deserializeResponse response =>
    simp [step, InternalFilesystem.deserializeResponse, harmed, Except.map] at hok
  | serializeResponse request =>
    simp [step, InternalFilesystem.serializeResponse, harmed, Except.map] at hok
  | getForeignLookup lookup =>
    simp [step, ForeignLookup.getForeignLookup, hdisarmed, harmed, Except.map] at hok
  | addForeignLookup path host =>
    simp [step, ForeignLookup.addForeignLookup, hdisarmed, harmed, Except.map] at hok
  | removeForeignLookup lookup =>
    simp [step, ForeignLookup.removeForeignLookup, hdisarmed, harmed, Except.map] at hok
  | killParent => simp [step, InternalFilesystem.killParentOn, harmed, Except.map] at hok
  | killChild name => simp [step, InternalFilesystem.killChildOn, harmed, Except.map] at hok
  | pathExists path => simp [step, InternalFilesystem.pathExists, harmed, Except.map] at hok
  | stepBackwardsOnce =>
    simp [step, InternalFilesystem.stepBackwardsOnce, harmed, Except.map] at hok
  | stepForwardsOnce name =>
    simp [step, InternalFilesystem.stepForwardsOnce, harmed, Except.map] at hok
  | pathChange path => simp [step, InternalFilesystem.pathChange, harmed, Except.map] at hok
  | clean fuel =>
    simp [step, InternalObject.clean, InternalFilesystem.clean, harmed, Except.map, bind,
      Except.bind] at hok

namespace Stuck

variable {s : InternalObject} {calls : DiskCalls}

/-- A call that leaves a lost filesystem in the same process. -/
theorem moved (hs : s.Stuck) (op : InternalOp) {flag : Bool} {filesystem : InternalFilesystem}
    (hlost : Lost s.filesystem.filesystemReader.process filesystem) :
    (s.moved (flag, filesystem)).2.Stuck ∧ s.LeavesAlone op (s.moved (flag, filesystem)) := by
  have hprocess := hlost.process_eq
  refine ⟨⟨hlost.tree, fun _ => ?_, hs.stack⟩, hlost.tree, fun _ => hprocess⟩
  exact ⟨hlost.armed, hlost.reader, rfl, hlost.tree⟩

/-- A call that leaves the filesystem alone. -/
theorem aside (hs : s.Stuck) (op : InternalOp) (nodes : UMap (List Char) (List Char))
    (identifier : List Char) (disk : Disk) (reply : InternalReply) :
    { s with foreignNodes := nodes, hostIdentifier := identifier, disk := disk }.Stuck ∧
      s.LeavesAlone op
        (reply, { s with foreignNodes := nodes, hostIdentifier := identifier, disk := disk }) :=
  ⟨⟨hs.tree, hs.lost, hs.stack⟩, hs.tree, fun _ => rfl⟩

theorem clean (hs : s.Stuck) (harmed : s.filesystem.offsetArmed = true) {fuel : Nat}
    {s' : InternalObject} (hok : s.clean fuel = .ok s') :
    s'.Stuck ∧ s.LeavesAlone (.clean fuel) (.nothing, s') := by
  obtain ⟨done, hclean, hlast⟩ := Except.bind_eq_ok_iff.mp hok
  rw [hs.stack] at hclean
  cases done with
  | none => cases hlast
  | some cleaned =>
    obtain ⟨filesystem, stack⟩ := cleaned
    obtain ⟨hdisarmed, htree, hreader, hstack⟩ := (hs.lost harmed).blank.clean_eq_ok hclean
    cases hlast
    refine ⟨⟨htree, fun harmed' => ?_, hstack⟩, htree, fun _ => congrArg _ hreader⟩
    have hcontra : filesystem.offsetArmed = true := harmed'
    rw [hdisarmed] at hcontra
    cases hcontra

/-- One call, or what others do. -/
theorem step (hs : s.Stuck) {op : InternalOp} (hop : s.Elsewhere op)
    {r : InternalReply × InternalObject} (hok : step calls s op = .ok r) :
    r.2.Stuck ∧ s.LeavesAlone op r := by
  cases op with
  | setFilesystemOffset offset =>
    obtain ⟨⟨flag, filesystem⟩, hcall, rfl⟩ := Except.map_eq_ok_iff.mp hok
    -- the one call that may move the process: an offset that arms leaves it outside
    obtain ⟨htree, hlost⟩ := InternalFilesystem.setFilesystemOffset_eq_ok hs.tree hop hcall
    exact ⟨⟨htree, hlost, hs.stack⟩, htree, fun hsets => absurd trivial hsets⟩
  | updateRepresentation fuel =>
    obtain ⟨_, hcall, -⟩ := Except.map_eq_ok_iff.mp hok
    -- it loops over a list that is gone, and does not return
    exact absurd hcall InternalFilesystem.updateRepresentation_ne_ok
  | serializeRequest lookup =>
    obtain ⟨text, -, rfl⟩ := Except.map_eq_ok_iff.mp hok
    -- the calls for other hosts touch neither the reader nor the process
    exact hs.aside _ s.foreignNodes s.hostIdentifier s.disk (.text text)
  | deserializeResponse response =>
    obtain ⟨_, -, rfl⟩ := Except.map_eq_ok_iff.mp hok
    exact hs.aside _ s.foreignNodes s.hostIdentifier s.disk .nothing
  | serializeResponse request =>
    obtain ⟨text, -, rfl⟩ := Except.map_eq_ok_iff.mp hok
    exact hs.aside _ s.foreignNodes s.hostIdentifier s.disk (.text text)
  | getForeignLookup lookup =>
    obtain ⟨text, -, rfl⟩ := Except.map_eq_ok_iff.mp hok
    exact hs.aside _ s.foreignNodes s.hostIdentifier s.disk (.text text)
  | addForeignLookup path host =>
    obtain ⟨lookups, -, rfl⟩ := Except.map_eq_ok_iff.mp hok
    exact hs.aside _ lookups.foreignNodes s.hostIdentifier s.disk .nothing
  | removeForeignLookup lookup =>
    obtain ⟨⟨flag, lookups⟩, -, rfl⟩ := Except.map_eq_ok_iff.mp hok
    exact hs.aside _ lookups.foreignNodes s.hostIdentifier s.disk (.flag flag)
  | killParent =>
    -- the other calls assert that the offset is armed, and so the reader is lost: it moves
    -- nowhere
    have hlost := hs.lost (armed_of_step .killParent trivial hok)
    obtain ⟨_, hcall, -⟩ := Except.map_eq_ok_iff.mp hok
    obtain ⟨fault, herror⟩ := hlost.blank.killParentOn calls s.disk
    rw [herror] at hcall
    cases hcall
  | killChild name =>
    have hlost := hs.lost (armed_of_step (.killChild name) trivial hok)
    obtain ⟨killed, hcall, rfl⟩ := Except.map_eq_ok_iff.mp hok
    rw [hlost.blank.killChildOn hcall]
    exact hs.moved _ hlost
  | pathExists path =>
    have hlost := hs.lost (armed_of_step (.pathExists path) trivial hok)
    obtain ⟨⟨flag, filesystem⟩, hcall, rfl⟩ := Except.map_eq_ok_iff.mp hok
    exact hs.moved _ (hlost.pathExists hcall)
  | stepBackwardsOnce =>
    have hlost := hs.lost (armed_of_step .stepBackwardsOnce trivial hok)
    obtain ⟨⟨flag, filesystem⟩, hcall, rfl⟩ := Except.map_eq_ok_iff.mp hok
    exact hs.moved _ (hlost.stepBackwardsOnce hcall)
  | stepForwardsOnce name =>
    have hlost := hs.lost (armed_of_step (.stepForwardsOnce name) trivial hok)
    obtain ⟨⟨flag, filesystem⟩, hcall, rfl⟩ := Except.map_eq_ok_iff.mp hok
    exact hs.moved _ (hlost.stepForwardsOnce hcall)
  | pathChange path =>
    have hlost := hs.lost (armed_of_step (.pathChange path) trivial hok)
    obtain ⟨⟨flag, filesystem⟩, hcall, rfl⟩ := Except.map_eq_ok_iff.mp hok
    exact hs.moved _ (hlost.pathChange hcall)
  | setHostIdentifier identifier =>
    cases hok
    exact hs.aside _ s.foreignNodes identifier s.disk .nothing
  | clean fuel =>
    have harmed := armed_of_step (.clean fuel) trivial hok
    obtain ⟨cleaned, hcall, rfl⟩ := Except.map_eq_ok_iff.mp hok
    exact hs.clean harmed hcall
  | others disk process =>
    cases hok
    -- the process is the one it was
    have hsame : process = s.filesystem.filesystemReader.process := hop
    subst hsame
    exact hs.aside _ s.foreignNodes s.hostIdentifier disk .nothing

end Stuck

/-- In a run of calls on a new object whose offset is never set to the root, while others leave
    the process where it is and neither make nor remove a directory that it could enter: no call
    but `setFilesystemOffset` moves the process, and none adds a node to the tree. -/
theorem calls_leave_alone (calls : DiskCalls) (disk : Disk) (process : Process)
    {ops : List InternalOp}
    (hops : ∀ c ∈ StepRun.calls (step calls) (construct disk process) ops, c.1.Elsewhere c.2) :
    ∀ c ∈ StepRun.calls (step calls) (construct disk process) ops,
      ∀ r, step calls c.1 c.2 = .ok r → c.1.LeavesAlone c.2 r := by
  apply StepRun.forall_calls_of_calls (I := Stuck) (C := Elsewhere) (Q := LeavesAlone)
  · intro s op r hs hop hok
    exact hs.step hop hok
  · exact ⟨rfl, fun harmed => absurd harmed Bool.false_ne_true, rfl⟩
  · exact hops

/-- An offset that does not exist. -/
def belowNothing : List InternalOp :=
  [.setFilesystemOffset ['b', '/'], .pathExists ['a'], .stepForwardsOnce ['a'], .stepBackwardsOnce]

/-- All four calls return. -/
theorem calls_leave_alone_belowNothing :
    (StepRun.outputs (step refusesRemoval)
        (construct oneDirectoryDisk FilesystemState.atRoot.process) belowNothing).length = 4 ∧
      ∀ c ∈ StepRun.calls (step refusesRemoval)
          (construct oneDirectoryDisk FilesystemState.atRoot.process) belowNothing,
        ∀ r, step refusesRemoval c.1 c.2 = .ok r → c.1.LeavesAlone c.2 r := by
  refine ⟨by decide, calls_leave_alone refusesRemoval _ _ ?_⟩
  intro c hc
  obtain ⟨s, op⟩ := c
  have hop : op ∈ belowNothing := StepRun.mem_of_mem_calls hc
  simp only [belowNothing, List.mem_cons, List.not_mem_nil, or_false] at hop
  rcases hop with rfl | rfl | rfl | rfl
  · show ['b', '/'] ≠ [nodeDelimeter]
    decide
  · exact trivial
  · exact trivial
  · exact trivial

end InternalObject

end NetworkedFS
