import NetworkedFS.Spec.CursorsInStep

/-!
# Stepping into a child and back

`stepForwardsOnce` is to move the reader and the tree together or not at all.  It makes both
moves whatever the other one gave, takes neither back, and its result starts as `false`, so
that no step is ever reported.

## Key results

- `Armed.stepForwardsOnce_eq`: what a step does to the reader and to the tree;
- `Armed.stepsTogether_iff`: the steps after which result, reader and tree agree.
-/

namespace NetworkedFS

namespace InternalFilesystem

/-- The reader is in the directory below the one it was in, and tracks it. -/
def ReaderEntered (s s' : InternalFilesystem) (name : List Char) : Prop :=
  s'.filesystemReader.head.currentDirectory = s.filesystemReader.completeDirectory name ∧
    s.filesystemReader.process.target (s.filesystemReader.completeDirectory name) =
      some s'.filesystemReader.process.cwd.1

/-- The tree cursor is on a child of the node it was on. -/
def TreeEntered (s s' : InternalFilesystem) (name : List Char) : Prop :=
  s'.filesystemTree.names = s.filesystemTree.names ++ [name]

/-- The reader tracks the directory it tracked, and the process is where it was. -/
def SameReader (s s' : InternalFilesystem) : Prop :=
  s'.filesystemReader.head.currentDirectory = s.filesystemReader.head.currentDirectory ∧
    s'.filesystemReader.process = s.filesystemReader.process

/-- A step forward is reported exactly when both cursors made it, and moves neither when it is
    not reported; a step back takes a reported one back. -/
def StepsTogether (s : InternalFilesystem) (name : List Char) : Prop :=
  ∃ result s', s.stepForwardsOnce name = .ok (result, s') ∧
    (result = true ↔ s.ReaderEntered s' name ∧ s.TreeEntered s' name) ∧
    (result = false → s.SameReader s' ∧ s'.filesystemTree = s.filesystemTree) ∧
    (result = true → ∃ s'', s'.stepBackwardsOnce = .ok (true, s'') ∧ s.SameReader s'' ∧
      s''.filesystemTree = s.filesystemTree)

/-- The child leads to where the process is, and the tree has no such child. -/
def StaysPut (s : InternalFilesystem) (name : List Char) : Prop :=
  name ≠ [] ∧
    s.filesystemReader.process.target (s.filesystemReader.completeDirectory name) =
      some s.filesystemReader.process.cwd.1 ∧
    ¬ s.filesystemTree.HasChild name

/-- A process that enters the directory it is in does not change. -/
private theorem enter_cwd_iff (process : Process) (directory : process.tree.Directory) :
    ({ process with cwd := directory } : Process) = process ↔ directory.1 = process.cwd.1 := by
  cases process
  simp [Subtype.ext_iff]

/-- The reader moves, unless the child leads to where the process is. -/
theorem Armed.reader_stepForwardDirectory {s : InternalFilesystem} (h : s.Armed)
    {name : List Char} (hname : name ≠ []) : ∃ stepped reader,
      s.filesystemReader.stepForwardDirectory name = .ok (stepped, reader) ∧
      ∀ tree, s.SameReader (s.withCursors reader tree) ↔
        s.filesystemReader.process.target (s.filesystemReader.completeDirectory name) =
          some s.filesystemReader.process.cwd.1 := by
  rw [FilesystemState.stepForwardDirectory_eq h.known]
  cases htarget : s.filesystemReader.process.target
      (s.filesystemReader.completeDirectory name) with
  | none =>
    refine ⟨true, _, FilesystemState.changeDirectory_of_none h.known hname htarget, ?_⟩
    intro tree
    -- what does not exist is tracked
    have hmoved : s.filesystemReader.completeDirectory name ≠
        s.filesystemReader.head.currentDirectory := extendPath_ne _ name
    exact iff_of_false (fun hsame => hmoved hsame.1) nofun
  | some d =>
    obtain ⟨reader, hcall, -, htracked, -, entered, hd, hprocess⟩ :=
      FilesystemState.changeDirectory_of_some h.known hname htarget
    refine ⟨false, reader, hcall, ?_⟩
    intro tree
    rw [Option.some.injEq, ← hd, ← enter_cwd_iff, ← hprocess]
    exact and_iff_right htracked

/-- A step is never reported.  The reader stays where it is when the child leads there, and the
    tree when it has no such child. -/
theorem Armed.stepForwardsOnce_eq {s : InternalFilesystem} (h : s.Armed) {name : List Char}
    (hname : name ≠ []) : ∃ s', s.stepForwardsOnce name = .ok (false, s') ∧
      (s.SameReader s' ↔
        s.filesystemReader.process.target (s.filesystemReader.completeDirectory name) =
          some s.filesystemReader.process.cwd.1) ∧
      (s'.filesystemTree = s.filesystemTree ↔ ¬ s.filesystemTree.HasChild name) := by
  obtain ⟨stepped, reader, hreader, hsame⟩ := h.reader_stepForwardDirectory hname
  by_cases hchild : s.filesystemTree.HasChild name
  · obtain ⟨tree, htree, -, hnames⟩ := h.sound.moveDown_of_hasChild hchild
    refine ⟨s.withCursors reader tree, ?_, hsame tree, iff_of_false ?_ (not_not_intro hchild)⟩
    · simp [stepForwardsOnce, h.armed, hreader, htree, bind, Except.bind, pure, Except.pure,
        withCursors]
    · intro heq
      -- the way to the cursor is one name longer
      have htree' : tree = s.filesystemTree := heq
      simp [htree'] at hnames
  · have htree := h.sound.moveDown_of_not hchild
    refine ⟨s.withCursors reader s.filesystemTree, ?_, hsame _, iff_of_true rfl hchild⟩
    simp [stepForwardsOnce, h.armed, hreader, htree, bind, Except.bind, pure, Except.pure,
      withCursors]

/-- The last character of an empty name is read out of range. -/
theorem Armed.stepForwardsOnce_nil {s : InternalFilesystem} (h : s.Armed) :
    s.stepForwardsOnce [] = .error .undefined := by
  have hreader : s.filesystemReader.stepForwardDirectory [] = .error .undefined := by
    rw [FilesystemState.stepForwardDirectory_eq h.known]
    exact FilesystemState.changeDirectory_nil h.known
  rw [stepForwardsOnce, if_pos h.armed, hreader]
  rfl

/-- Result, reader and tree agree after a step exactly when neither of the two had to move. -/
theorem Armed.stepsTogether_iff {s : InternalFilesystem} (h : s.Armed) (name : List Char) :
    s.StepsTogether name ↔ s.StaysPut name := by
  by_cases hname : name = []
  · subst hname
    simp [StepsTogether, StaysPut, h.stepForwardsOnce_nil]
  obtain ⟨s', hcall, hreader, htree⟩ := h.stepForwardsOnce_eq hname
  rw [StaysPut, and_iff_right hname, ← hreader, ← htree]
  constructor
  · intro htogether
    obtain ⟨result, s'', hok, -, hfailed, -⟩ := htogether
    obtain ⟨rfl, rfl⟩ := Except.unique_of_eq_ok hcall hok
    exact hfailed rfl
  · intro hsame
    refine ⟨false, s', hcall, ?_, fun _ => hsame, nofun⟩
    -- a tree that has not changed has not entered anything
    have hentered : ¬ s.TreeEntered s' name := by
      simp [TreeEntered, hsame.2]
    simp [hentered]

/-- The name of the root leads from the root to the root, and no node has it. -/
theorem stepsTogether_armedAtRoot : armedAtRoot.filesystem.StepsTogether ['/'] := by
  refine (armedAtRoot.armed.stepsTogether_iff ['/']).mpr ⟨by decide, by decide, ?_⟩
  intro hchild
  obtain ⟨node, hnode, hfound⟩ := hchild
  cases hnode
  exact hfound rfl

/-- A step to a directory that does not exist is reported as failed, and the reader tracks the
    directory. -/
theorem failed_step_is_tracked :
    ¬ ∀ s : InternalFilesystem, s.Armed → s.Corresponds → ∀ name, s.StepsTogether name := by
  intro hall
  obtain ⟨result, s', hok, -, hfailed, -⟩ :=
    hall armedAtRoot.filesystem armedAtRoot.armed armedAtRoot.corresponds ['a']
  cases hok
  have htracked : ['/', 'a'] = ([] : List Char) := (hfailed rfl).1.1
  exact absurd htracked (by decide)

end InternalFilesystem

end NetworkedFS
