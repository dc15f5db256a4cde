import NetworkedFS.ForStd.Except
import NetworkedFS.ForStd.StepRun
import NetworkedFS.Spec.DirectoryCalls
import NetworkedFS.Spec.InternalTree

/-!
# The tree cursor and the reader's directory

`internal_unbalanced_tree_filesystem` moves a pointer in its tree and the directory of its
reader by separate calls.  `Corresponds` is the relation the two are to stay in: the names
on the way to the pointer are the components of the reader's directory below the offset.

Several slips break it.  The reader reports success and failure the wrong way round and
tracks a directory exactly when it does not exist; the tree cannot move up, as no parent
pointer is ever set; and both moves are made without looking at the other's result.

## Key results

- `stays_iff_harmless`: which calls keep the relation, in any state it holds in;
- `runStays_iff`: the runs that stay in the relation.
-/

namespace NetworkedFS

open PathName (components)

/-- The calls that move the two cursors. -/
inductive CursorCall where
  | pathChange (path : List Char)
  | pathExists (path : List Char)
  | stepForwardsOnce (name : List Char)
  | stepBackwardsOnce
  | killChild (name : List Char)
  | killParent
  deriving DecidableEq, Repr

namespace InternalFilesystem

def step (calls : RemovalCalls) (s : InternalFilesystem) :
    CursorCall → Except Fault (Bool × InternalFilesystem)
  | .pathChange path => s.pathChange path
  | .pathExists path => s.pathExists path
  | .stepForwardsOnce name => s.stepForwardsOnce name
  | .stepBackwardsOnce => s.stepBackwardsOnce
  | .killChild name => s.killChild calls name
  | .killParent => s.killParent calls

/-- The names on the tree path are the components of the reader's directory below the
    offset. -/
def Corresponds (s : InternalFilesystem) : Prop :=
  components s.filesystemReader.head.currentDirectory =
    components s.filesystemOffset ++ s.filesystemTree.names

/-- What the class keeps in every state with an armed offset: arming it made the
    reader's directory known, and no node has a parent pointer. -/
structure Armed (s : InternalFilesystem) : Prop where
  armed : s.offsetArmed = true
  known : s.filesystemReader.head.directoryKnown = true
  sound : s.filesystemTree.Sound

/-- A call that returns ends in a corresponding state, and none has undefined behaviour.
    A failed assertion ends the process before there is a next state. -/
def Stays (calls : RemovalCalls) (s : InternalFilesystem) (call : CursorCall) : Prop :=
  match s.step calls call with
  | .ok (_, s') => s'.Corresponds
  | .error .assertion => True
  | .error _ => False

/-- The first of some words that does not lead to a directory, each taken below the
    tracked directory once those before it were entered. -/
def firstMissing (tracked : List Char) : Process → List (List Char) → Option (List Char)
  | _, [] => none
  | process, word :: words =>
    match process.target (extendPath tracked word) with
    | none => some word
    | some _ => firstMissing tracked (process.chdir (extendPath tracked word)).2 words

/-- The process once the words before the first missing one were entered. -/
def processAlong (tracked : List Char) : Process → List (List Char) → Process
  | process, [] => process
  | process, word :: words =>
    match process.target (extendPath tracked word) with
    | none => process
    | some _ => processAlong tracked (process.chdir (extendPath tracked word)).2 words

/-- Walking a path: every word leads to a directory, or the first that does not consists
    of delimiters. -/
def WalksHarmlessly (s : InternalFilesystem) (path : List Char) : Prop :=
  ∀ word, firstMissing s.filesystemReader.head.currentDirectory s.filesystemReader.process
    (splitWords path) = some word → ∀ c ∈ word, c = nodeDelimeter

/-- The directory `name` below the tracked one exists. -/
def OnDisk (s : InternalFilesystem) (name : List Char) : Prop :=
  s.filesystemReader.process.target (s.filesystemReader.completeDirectory name) ≠ none

/-- Stepping forward: an existing directory that the tree does not know is only entered,
    a missing one is tracked but not entered. -/
def StepsHarmlessly (s : InternalFilesystem) (name : List Char) : Prop :=
  name ≠ [] ∧
    (s.OnDisk name ∧ ¬ s.filesystemTree.HasChild name ∨
      ¬ s.OnDisk name ∧ s.filesystemTree.HasChild name ∧ nodeDelimeter ∉ name ∨
      ¬ s.OnDisk name ∧ ¬ s.filesystemTree.HasChild name ∧ ∀ c ∈ name, c = nodeDelimeter)

/-- The condition under which a call keeps the relation. -/
def Harmless (calls : RemovalCalls) (s : InternalFilesystem) : CursorCall → Prop
  | .pathChange path | .pathExists path => s.WalksHarmlessly path
  | .stepForwardsOnce name => s.StepsHarmlessly name
  | .stepBackwardsOnce => s.filesystemReader.head.currentDirectory ≠ []
  | .killChild name =>
    match s.filesystemTree.getNode name with
    | .error _ => False
    | .ok none => True
    | .ok (some data) =>
      match data.isDirectory with
      | none => False
      | some true => s.StepsHarmlessly name
      | some false => name ≠ [] ∨ s.filesystemTree.heapPointer = []
  | .killParent =>
    match s.filesystemTree.getNode [] with
    | .error _ => False
    | .ok none => True
    | .ok (some data) =>
      match data.isDirectory with
      | none => False
      | some true =>
        (calls.rmdir s.filesystemReader.process (cString FilesystemState.defaultRemoved)).1 ≠ 0 ∨
          s.filesystemTree.heapPointer = []
      | some false => True

/-- How a call that starts in an armed and corresponding state may end, when `P` is the
    condition under which it keeps the relation. -/
def Settles (x : Except Fault (Bool × InternalFilesystem)) (P : Prop) : Prop :=
  match x with
  | .ok (_, s') => s'.Armed ∧ (s'.Corresponds ↔ P)
  | .error .assertion => P
  | .error _ => ¬ P

/-! ## Components of a tracked directory -/

/-- A directory below another one has the components of both. -/
theorem components_extendPath (path directory : List Char) :
    components (extendPath path directory) = components path ++ components directory := by
  have happend : ∀ rest, components (path ++ nodeDelimeter :: rest) =
      components path ++ components rest := PathName.components_append_delimiter path
  rw [extendPath, happend]
  split
  · rename_i hlast
    obtain ⟨front, rfl⟩ := List.getLast?_eq_some_iff.mp hlast
    have hfront : components (front ++ [nodeDelimeter]) = components front :=
      PathName.components_append_singleton front
    rw [List.dropLast_concat, hfront]
  · rfl

/-- A directory below another one is not that one. -/
theorem extendPath_ne (path directory : List Char) : extendPath path directory ≠ path := by
  intro heq
  have hlength := congrArg List.length heq
  rw [extendPath, List.length_append, List.length_cons] at hlength
  omega

/-- The state after the two cursors were moved. -/
def withCursors (s : InternalFilesystem) (reader : FilesystemState)
    (tree : InternalUnbalancedTree NodeData) : InternalFilesystem :=
  { s with filesystemReader := reader, filesystemTree := tree }

/-- The relation after the reader tracks one more part and the pointer went down by
    `below`. -/
theorem corresponds_withCursors_iff {s : InternalFilesystem} (hs : s.Corresponds)
    {reader : FilesystemState} {tree : InternalUnbalancedTree NodeData} {part : List Char}
    {below : List (List Char)}
    (hreader : components reader.head.currentDirectory =
      components s.filesystemReader.head.currentDirectory ++ components part)
    (htree : tree.names = s.filesystemTree.names ++ below) :
    (s.withCursors reader tree).Corresponds ↔ components part = below := by
  rw [Corresponds] at hs ⊢
  show components reader.head.currentDirectory = components s.filesystemOffset ++ tree.names ↔ _
  rw [hreader, htree, hs, List.append_assoc, List.append_cancel_left_eq,
    List.append_cancel_left_eq]

/-- When neither cursor has moved the relation is kept. -/
theorem corresponds_withCursors {s : InternalFilesystem} (hs : s.Corresponds)
    {reader : FilesystemState} {tree : InternalUnbalancedTree NodeData}
    (hreader : reader.head.currentDirectory = s.filesystemReader.head.currentDirectory)
    (htree : tree.names = s.filesystemTree.names) : (s.withCursors reader tree).Corresponds := by
  rw [Corresponds] at hs ⊢
  show components reader.head.currentDirectory = components s.filesystemOffset ++ tree.names
  rw [hreader, htree, hs]

/-! ## Stepping forward -/

/-- The reader tracks `name` exactly when it does not exist. -/
theorem reader_stepForwardDirectory {s : InternalFilesystem} (h : s.Armed) {name : List Char}
    (hname : name ≠ []) : ∃ result reader part,
      s.filesystemReader.stepForwardDirectory name = .ok (result, reader) ∧
      reader.head.directoryKnown = true ∧
      components reader.head.currentDirectory =
        components s.filesystemReader.head.currentDirectory ++ components part ∧
      (s.OnDisk name ∧ part = [] ∨ ¬ s.OnDisk name ∧ part = name) := by
  rw [FilesystemState.stepForwardDirectory_eq h.known]
  -- inverted: what does not exist is tracked, what exists is only entered
  cases htarget : s.filesystemReader.process.target
      (s.filesystemReader.completeDirectory name) with
  | none =>
    refine ⟨true, _, name, FilesystemState.changeDirectory_of_none h.known hname htarget, h.known,
      components_extendPath _ _, Or.inr ⟨fun hdisk => hdisk htarget, rfl⟩⟩
  | some d =>
    obtain ⟨reader, hcall, hknown, htracked, -⟩ :=
      FilesystemState.changeDirectory_of_some h.known hname htarget
    have hdisk : s.OnDisk name := by
      rw [OnDisk, htarget]
      nofun
    refine ⟨false, reader, [], hcall, hknown, ?_, Or.inl ⟨hdisk, rfl⟩⟩
    rw [htracked, PathName.components_nil, List.append_nil]

/-- The pointer goes down exactly when the tree knows `name`. -/
theorem tree_moveDown {s : InternalFilesystem} (h : s.Armed) (name : List Char) :
    ∃ result tree below, s.filesystemTree.moveDown name = .ok (result, tree) ∧ tree.Sound ∧
      tree.names = s.filesystemTree.names ++ below ∧
      (s.filesystemTree.HasChild name ∧ below = [name] ∨
        ¬ s.filesystemTree.HasChild name ∧ below = []) := by
  by_cases hchild : s.filesystemTree.HasChild name
  · obtain ⟨tree, hcall, hsound, hnames⟩ := h.sound.moveDown_of_hasChild hchild
    exact ⟨true, tree, [name], hcall, hsound, hnames, Or.inl ⟨hchild, rfl⟩⟩
  · exact ⟨false, _, [], h.sound.moveDown_of_not hchild, h.sound, (List.append_nil _).symm,
      Or.inr ⟨hchild, rfl⟩⟩

theorem Armed.settles_stepForwardsOnce {s : InternalFilesystem} (h : s.Armed) (hs : s.Corresponds)
    (name : List Char) : Settles (s.stepForwardsOnce name) (s.StepsHarmlessly name) := by
  -- the last character of an empty name is read out of range
  by_cases hname : name = []
  · have hreader : s.filesystemReader.stepForwardDirectory name = .error .undefined := by
      rw [hname, FilesystemState.stepForwardDirectory_eq h.known]
      exact FilesystemState.changeDirectory_nil h.known
    simp only [stepForwardsOnce, h.armed, if_pos, hreader, bind, Except.bind]
    exact fun hsteps => hsteps.1 hname
  obtain ⟨stepped, reader, part, hreader, hknown, hcomponents, hdisk⟩ :=
    reader_stepForwardDirectory h hname
  obtain ⟨moved, tree, below, htree, hsound, hnames, hchild⟩ := tree_moveDown h name
  have hcall : s.stepForwardsOnce name = .ok (false, s.withCursors reader tree) := by
    rw [stepForwardsOnce, if_pos h.armed, hreader]
    simp only [htree, bind, Except.bind, pure, Except.pure, Bool.false_and]
    rfl
  rw [hcall]
  refine ⟨⟨h.armed, hknown, hsound⟩, ?_⟩
  rw [corresponds_withCursors_iff hs hcomponents hnames, StepsHarmlessly, and_iff_right hname]
  -- whether the directory exists and whether the tree knows it
  cases hdisk with
  | inl hdisk =>
    obtain ⟨hdisk, rfl⟩ := hdisk
    cases hchild with
    | inl hchild =>
      obtain ⟨hchild, rfl⟩ := hchild
      simp only [hdisk, hchild, PathName.components_nil, List.nil_eq, reduceCtorEq,
        not_true_eq_false, and_false, false_and, or_self]
    | inr hchild =>
      obtain ⟨hchild, rfl⟩ := hchild
      simp only [hdisk, hchild, PathName.components_nil, not_false_eq_true, and_self, true_or]
  | inr hdisk =>
    obtain ⟨hdisk, rfl⟩ := hdisk
    cases hchild with
    | inl hchild =>
      obtain ⟨hchild, rfl⟩ := hchild
      have hsingle : components part = [part] ↔ nodeDelimeter ∉ part :=
        PathName.components_eq_singleton_iff.trans (and_iff_right hname)
      simp only [hdisk, hchild, hsingle, not_true_eq_false, not_false_eq_true, false_and, true_and,
        or_false, false_or]
    | inr hchild =>
      obtain ⟨hchild, rfl⟩ := hchild
      have hnil : components part = [] ↔ ∀ c ∈ part, c = nodeDelimeter :=
        PathName.components_eq_nil_iff
      simp only [hdisk, hchild, hnil, not_false_eq_true, false_and, true_and, false_or]

/-! ## Stepping backward -/

/-- Stepping back by no level asks for the tracked directory below itself, and tracks it
    again in any case; the pointer does not move. -/
theorem Armed.settles_stepBackwardsOnce {s : InternalFilesystem} (h : s.Armed)
    (hs : s.Corresponds) : Settles s.stepBackwardsOnce
      (s.filesystemReader.head.currentDirectory ≠ []) := by
  -- zero delimiters are asked for, so the whole tracked string is the parent
  have hback : s.filesystemReader.stepBackDirectory 0 = _ :=
    FilesystemState.stepBackDirectory_of_some h.known (ancestor_zero _)
  by_cases hempty : s.filesystemReader.head.currentDirectory = []
  · rw [hempty, FilesystemState.changeDirectory_nil h.known] at hback
    have hcall : s.stepBackwardsOnce = .error .undefined := by
      rw [stepBackwardsOnce, if_pos h.armed, hback]
      rfl
    rw [hcall]
    exact fun hne => hne hempty
  obtain ⟨result, reader, hreader, hknown⟩ : ∃ result reader,
      s.filesystemReader.changeDirectory s.filesystemReader.head.currentDirectory =
        .ok (result, reader) ∧ reader.head.directoryKnown = true := by
    cases htarget : s.filesystemReader.process.target
        (s.filesystemReader.completeDirectory s.filesystemReader.head.currentDirectory) with
    | none =>
      exact ⟨true, _, FilesystemState.changeDirectory_of_none h.known hempty htarget, h.known⟩
    | some d =>
      obtain ⟨reader, hcall, hknown, -⟩ :=
        FilesystemState.changeDirectory_of_some h.known hempty htarget
      exact ⟨false, reader, hcall, hknown⟩
  rw [hreader] at hback
  have hcall : s.stepBackwardsOnce = .ok (result && false, s.withCursors
      (reader.setCurrentDirectory s.filesystemReader.head.currentDirectory) s.filesystemTree) := by
    rw [stepBackwardsOnce, if_pos h.armed, hback]
    simp only [Except.map, h.sound.moveUp, bind, Except.bind, pure, Except.pure]
    rfl
  rw [hcall]
  exact ⟨⟨h.armed, hknown, h.sound⟩, iff_of_true (corresponds_withCursors hs rfl rfl) hempty⟩

/-! ## Walking a path -/

end InternalFilesystem

/-- The tree after the loop of `pathChangeInline` has added a number of nodes. -/
def withUpdates (t : InternalUnbalancedTree NodeData) (added : Nat) :
    InternalUnbalancedTree NodeData :=
  t.withChildren fun children => children ++ List.replicate added childForTreeUpdate

theorem withUpdates_zero (t : InternalUnbalancedTree NodeData) : withUpdates t 0 = t := by
  have hid : (fun children => children ++ List.replicate 0 childForTreeUpdate) = id := by
    funext children
    exact List.append_nil children
  rw [withUpdates, hid, InternalUnbalancedTree.withChildren_id]

/-- One node after the other. -/
theorem withUpdates_withUpdates (t : InternalUnbalancedTree NodeData) (m n : Nat) :
    withUpdates (withUpdates t m) n = withUpdates t (m + n) := by
  simp only [withUpdates, InternalUnbalancedTree.withChildren_withChildren, Function.comp_def,
    List.append_assoc, List.replicate_append_replicate]

/-- The node that the loop adds has no parent. -/
theorem sound_withUpdates {t : InternalUnbalancedTree NodeData} (h : t.Sound) (added : Nat) :
    (withUpdates t added).Sound := by
  apply h.withChildren
  intro children hchildren child hchild
  cases List.mem_append.mp hchild with
  | inl hold => exact hchildren child hold
  | inr hnew =>
    rw [List.eq_of_mem_replicate hnew]
    exact .node rfl fun _ hc => absurd hc List.not_mem_nil

namespace PathLoop

/-- As `path_heaped` starts out false it stays false: every round adds a nameless node and
    none moves the pointer. -/
theorem body_eq {v : PathLoop} (hheaped : v.pathHeaped = false) (hsound : v.tree.Sound)
    (total : Nat) (word : List Char) : v.body total word =
      .ok { v with tree := withUpdates v.tree 1, levelsDown := v.levelsDown + 1 } := by
  obtain ⟨node, hnode⟩ := hsound.valid
  simp only [body, hheaped, InternalUnbalancedTree.addNode, hnode, Bool.false_eq_true, if_false,
    bind, Except.bind, Bool.not_false, Bool.true_or, if_true, pure, Except.pure]
  rfl

/-- A word that does not lead to a directory is tracked, and ends the loop. -/
theorem run_cons_of_none {v : PathLoop} (hknown : v.reader.head.directoryKnown = true)
    {word : List Char} (hword : word ≠ [])
    (htarget : v.reader.process.target (v.reader.completeDirectory word) = none) (total : Nat)
    (words : List (List Char)) : v.run total (word :: words) =
      .ok { v with reader := v.reader.setCurrentDirectory (v.reader.completeDirectory word) } := by
  have hforward := FilesystemState.stepForwardDirectory_eq hknown word
  rw [FilesystemState.changeDirectory_of_none hknown hword htarget] at hforward
  simp only [run, hforward, bind, Except.bind, if_true, pure, Except.pure]

/-- Another one is entered, and a node is added for it. -/
theorem run_cons_of_some {v : PathLoop} (hheaped : v.pathHeaped = false) (hsound : v.tree.Sound)
    (hknown : v.reader.head.directoryKnown = true) {word : List Char} (hword : word ≠ [])
    {d : List (List Char)}
    (htarget : v.reader.process.target (v.reader.completeDirectory word) = some d) (total : Nat)
    (words : List (List Char)) : ∃ reader : FilesystemState, reader.head.directoryKnown = true ∧
      reader.head.currentDirectory = v.reader.head.currentDirectory ∧
      reader.process = (v.reader.process.chdir (v.reader.completeDirectory word)).2 ∧
      v.run total (word :: words) = run total { v with
        reader := reader
        tree := withUpdates v.tree 1
        levelsDown := v.levelsDown + 1 } words := by
  obtain ⟨reader, hcall, hknown', htracked, hprocess, -⟩ :=
    FilesystemState.changeDirectory_of_some hknown hword htarget
  have hforward := FilesystemState.stepForwardDirectory_eq hknown word
  rw [hcall] at hforward
  have hbody := body_eq (v := { v with reader := reader }) hheaped hsound total word
  refine ⟨reader, hknown', htracked, hprocess, ?_⟩
  simp only [run, hforward, bind, Except.bind, Bool.false_eq_true, if_false, hbody]

/-- The loop tracks the first missing word, has entered those before it and adds nodes under
    the pointer, which it leaves alone. -/
theorem run_eq {words : List (List Char)} (hwords : ∀ word ∈ words, word ≠ []) (total : Nat)
    {v : PathLoop} (hheaped : v.pathHeaped = false) (hresult : v.result = [])
    (hknown : v.reader.head.directoryKnown = true) (hsound : v.tree.Sound) :
    ∃ v', v.run total words = .ok v' ∧ v'.result = [] ∧
      v'.reader.head.directoryKnown = true ∧ (∃ added, v'.tree = withUpdates v.tree added) ∧
      (v'.reader.head.currentDirectory =
        match InternalFilesystem.firstMissing v.reader.head.currentDirectory v.reader.process
          words with
        | none => v.reader.head.currentDirectory
        | some word => extendPath v.reader.head.currentDirectory word) ∧
      v'.reader.process = InternalFilesystem.processAlong v.reader.head.currentDirectory
        v.reader.process words := by
  -- induction on the words; the reader enters what exists and stops at what does not
  induction words generalizing v with
  | nil => exact ⟨v, rfl, hresult, hknown, ⟨0, (withUpdates_zero v.tree).symm⟩, rfl, rfl⟩
  | cons word words ih =>
    obtain ⟨hword, hwords⟩ := List.forall_mem_cons.mp hwords
    cases htarget : v.reader.process.target (extendPath v.reader.head.currentDirectory word) with
    | none =>
      have hrun := run_cons_of_none hknown hword htarget total words
      refine ⟨_, hrun, hresult, hknown, ⟨0, (withUpdates_zero v.tree).symm⟩, ?_, ?_⟩
      · simp only [InternalFilesystem.firstMissing, htarget]
        rfl
      · simp only [InternalFilesystem.processAlong, htarget]
        rfl
    | some d =>
      obtain ⟨reader, hknown', htracked, hprocess, hround⟩ :=
        run_cons_of_some hheaped hsound hknown hword htarget total words
      obtain ⟨v', hrun, hresult', hknown'', ⟨added, htree⟩, htracked', hprocess'⟩ :=
        ih hwords (v := { v with
            reader := reader
            tree := withUpdates v.tree 1
            levelsDown := v.levelsDown + 1 })
          hheaped hresult hknown' (sound_withUpdates hsound 1)
      refine ⟨v', hround.trans hrun, hresult', hknown'', ⟨1 + added, ?_⟩, ?_, ?_⟩
      -- the first step adds one update, and the rest their number
      · rw [htree, withUpdates_withUpdates]
      · rw [htracked']
        simp only [InternalFilesystem.firstMissing, htarget, htracked, hprocess,
          FilesystemState.completeDirectory]
      · rw [hprocess']
        simp only [InternalFilesystem.processAlong, htarget, htracked, hprocess,
          FilesystemState.completeDirectory]

end PathLoop

namespace InternalFilesystem

/-- The words of a path are not empty. -/
theorem ne_nil_of_mem_splitWords {path word : List Char} (hword : word ∈ splitWords path) :
    word ≠ [] := by
  intro hnil
  rw [splitWords, List.mem_filter, hnil] at hword
  exact absurd hword.2 (by decide)

/-- A walk whose loop has found nothing leaves the cursors where the loop has left them: its
    result never is the path, so the tree is to go back up, which it cannot. -/
theorem Armed.pathChangeInline_of_run {s : InternalFilesystem} (h : s.Armed) {path : List Char}
    (hpath : path ≠ []) (keepMove : Bool) {v : PathLoop}
    (hrun : PathLoop.run (splitWords path).length
      ⟨false, 0, [], s.filesystemReader, s.filesystemTree⟩ (splitWords path) = .ok v)
    (hresult : v.result = []) (hsound : v.tree.Sound) :
    s.pathChangeInline path keepMove = .ok ([], s.withCursors v.reader v.tree) := by
  have hmoves : (path ≠ v.result || !keepMove) = true := by
    rw [hresult, decide_eq_true hpath, Bool.true_or]
  rw [InternalFilesystem.pathChangeInline, if_pos h.armed, if_neg hpath]
  show (PathLoop.run (splitWords path).length _ (splitWords path) >>= _) = _
  rw [hrun]
  simp only [bind, Except.bind]
  rw [if_pos hmoves, hsound.moveUpTimes]
  simp only [hresult, ne_eq, not_true_eq_false, if_false, pure, Except.pure]
  rfl

/-- A walk along a path that is not empty. -/
theorem Armed.pathChangeInline_of_ne {s : InternalFilesystem} (h : s.Armed) {path : List Char}
    (hpath : path ≠ []) (keepMove : Bool) : ∃ s', s.pathChangeInline path keepMove = .ok ([], s') ∧
      s'.Armed ∧ s'.filesystemOffset = s.filesystemOffset ∧
      (∃ added, s'.filesystemTree = withUpdates s.filesystemTree added) ∧
      (s'.filesystemReader.head.currentDirectory =
        match firstMissing s.filesystemReader.head.currentDirectory s.filesystemReader.process
          (splitWords path) with
        | none => s.filesystemReader.head.currentDirectory
        | some word => extendPath s.filesystemReader.head.currentDirectory word) ∧
      s'.filesystemReader.process = processAlong s.filesystemReader.head.currentDirectory
        s.filesystemReader.process (splitWords path) := by
  obtain ⟨v, hrun, hresult, hknown, ⟨added, htree⟩, htracked, hprocess⟩ :=
    PathLoop.run_eq (v := ⟨false, 0, [], s.filesystemReader, s.filesystemTree⟩)
      (fun _ => ne_nil_of_mem_splitWords) (splitWords path).length rfl rfl h.known h.sound
  have hsound : v.tree.Sound := htree ▸ sound_withUpdates h.sound added
  exact ⟨s.withCursors v.reader v.tree,
    h.pathChangeInline_of_run hpath keepMove hrun hresult hsound, ⟨h.armed, hknown, hsound⟩, rfl,
    ⟨added, htree⟩, htracked, hprocess⟩

/-- The walk along the empty path does nothing. -/
theorem Armed.pathChangeInline_nil {s : InternalFilesystem} (h : s.Armed) (keepMove : Bool) :
    s.pathChangeInline [] keepMove = .ok ([], s) := by
  rw [InternalFilesystem.pathChangeInline, if_pos h.armed, if_pos rfl]

/-- The result of a walk is always the empty string. -/
theorem Armed.pathChangeInline {s : InternalFilesystem} (h : s.Armed) (hs : s.Corresponds)
    (path : List Char) (keepMove : Bool) : ∃ s', s.pathChangeInline path keepMove = .ok ([], s') ∧
      s'.Armed ∧ (s'.Corresponds ↔ s.WalksHarmlessly path) := by
  by_cases hpath : path = []
  · subst hpath
    refine ⟨s, h.pathChangeInline_nil keepMove, h, iff_of_true hs ?_⟩
    intro word hword
    cases hword
  obtain ⟨s', hcall, harmed, hoffset, ⟨added, htree⟩, htracked, -⟩ :=
    h.pathChangeInline_of_ne hpath keepMove
  have hnames : s'.filesystemTree.names = s.filesystemTree.names :=
    htree ▸ InternalUnbalancedTree.names_withChildren s.filesystemTree _
  refine ⟨s', hcall, harmed, ?_⟩
  rw [Corresponds, hoffset, hnames]
  rw [Corresponds] at hs
  unfold WalksHarmlessly
  -- a first word that does not exist stays in the directory of the reader
  cases hmissing : firstMissing s.filesystemReader.head.currentDirectory
      s.filesystemReader.process (splitWords path) with
  | none =>
    rw [hmissing] at htracked
    refine iff_of_true ?_ nofun
    rw [htracked, hs]
  | some word =>
    rw [hmissing] at htracked
    rw [htracked, components_extendPath, hs, List.append_right_eq_self]
    simp only [Option.some.injEq, forall_eq']
    exact PathName.components_eq_nil_iff

/-- `pathChange` and `pathExists` report a failure and differ in nothing else. -/
theorem Armed.settles_pathChange {s : InternalFilesystem} (h : s.Armed) (hs : s.Corresponds)
    (path : List Char) : Settles (s.pathChange path) (s.WalksHarmlessly path) := by
  obtain ⟨s', hcall, harmed, hcorresponds⟩ := h.pathChangeInline hs path true
  have hchange : s.pathChange path = .ok (false, s') := by
    rw [pathChange, if_pos h.armed, hcall]
    rfl
  rw [hchange]
  exact ⟨harmed, hcorresponds⟩

theorem Armed.settles_pathExists {s : InternalFilesystem} (h : s.Armed) (hs : s.Corresponds)
    (path : List Char) : Settles (s.pathExists path) (s.WalksHarmlessly path) := by
  obtain ⟨s', hcall, harmed, hcorresponds⟩ := h.pathChangeInline hs path false
  have hexists : s.pathExists path = .ok (false, s') := by
    rw [pathExists, if_pos h.armed, hcall]
    rfl
  rw [hexists]
  exact ⟨harmed, hcorresponds⟩

/-! ## Removing nodes -/

/-- Reporting a directory that could not be removed fails the assertion on status codes. -/
theorem setReturnCode_cannotRemoveDirectory (reader : FilesystemState) :
    reader.setReturnCode .cannotRemoveDirectory = .error .assertion := rfl

/-- `removeNode()` at the end of a removal: only at the head it does not follow a null
    parent. -/
theorem Armed.settles_removeNode_nil {s : InternalFilesystem} (h : s.Armed) (hs : s.Corresponds)
    {reader : FilesystemState} (hknown : reader.head.directoryKnown = true)
    (htracked : reader.head.currentDirectory = s.filesystemReader.head.currentDirectory) :
    Settles (do
      let (_, tree) ← s.filesystemTree.removeNode []
      return (false, s.withCursors reader tree)) (s.filesystemTree.heapPointer = []) := by
  by_cases hhead : s.filesystemTree.heapPointer = []
  · obtain ⟨tree, htree, hsound, hnames⟩ := h.sound.removeNode_nil_of_head hhead
    rw [htree]
    exact ⟨⟨h.armed, hknown, hsound⟩,
      iff_of_true (corresponds_withCursors hs htracked hnames) hhead⟩
  · rw [h.sound.removeNode_nil_of_ne hhead]
    exact hhead

/-- Below the head a directory can only be left in place: `rmdir` fails and the report of
    it ends the process, or it succeeds and the null parent is followed. -/
theorem Armed.settles_killParent {s : InternalFilesystem} (h : s.Armed) (hs : s.Corresponds)
    (calls : RemovalCalls) : Settles (s.killParent calls) (s.Harmless calls .killParent) := by
  cases h.sound.getNode [] with
  | inr hnone => exact absurd rfl hnone.2
  | inl hsome =>
    obtain ⟨data, hdata, -⟩ := hsome
    simp only [killParent, if_pos h.armed, Harmless, hdata, bind, Except.bind, readIsDirectory]
    cases data.isDirectory with
    | none => exact id
    | some isDirectory =>
      cases isDirectory with
      | false => exact ⟨h, iff_of_true hs trivial⟩
      | true =>
        simp only [if_true, FilesystemState.removeDirectory, if_pos h.known]
        -- the code of `rmdir` decides between going on in the tree and the failing report
        by_cases hcode : (calls.rmdir s.filesystemReader.process
            (cString FilesystemState.defaultRemoved)).1 = 0
        · simp only [hcode, if_true, ne_eq, not_true_eq_false, false_or]
          exact h.settles_removeNode_nil hs h.known rfl
        · simp only [hcode, if_false, bind, Except.bind, setReturnCode_cannotRemoveDirectory]
          exact Or.inl hcode

/-- Stepping forward never reports success. -/
theorem result_of_stepForwardsOnce {s s' : InternalFilesystem} {name : List Char} {result : Bool}
    (h : s.stepForwardsOnce name = .ok (result, s')) : result = false := by
  unfold stepForwardsOnce at h
  split at h
  · simp only [Except.bind_eq_ok_iff, pure, Except.pure, Except.ok.injEq, Prod.mk.injEq] at h
    obtain ⟨stepped, -, moved, -, hresult, -⟩ := h
    rw [← hresult, Bool.false_and, Bool.false_and]
  · cases h

/-- Killing a directory is stepping into it and no more, as the step reports `false`. -/
theorem Armed.settles_killChild {s : InternalFilesystem} (h : s.Armed) (hs : s.Corresponds)
    (calls : RemovalCalls) (name : List Char) :
    Settles (s.killChild calls name) (s.Harmless calls (.killChild name)) := by
  cases h.sound.getNode name with
  | inr hnone =>
    obtain ⟨hnone, -⟩ := hnone
    simp only [killChild, if_pos h.armed, Harmless, hnone, bind, Except.bind]
    exact ⟨h, iff_of_true hs trivial⟩
  | inl hsome =>
    obtain ⟨data, hdata, -⟩ := hsome
    simp only [killChild, if_pos h.armed, Harmless, hdata, bind, Except.bind, readIsDirectory]
    cases data.isDirectory with
    | none => exact id
    | some isDirectory =>
      cases isDirectory with
      | true =>
        -- a directory child: the step is made, and its result `false` ends the call
        have hsteps := h.settles_stepForwardsOnce hs name
        simp only [if_true]
        cases hstep : s.stepForwardsOnce name with
        | error fault =>
          rw [hstep] at hsteps
          exact hsteps
        | ok r =>
          obtain ⟨stepped, s'⟩ := r
          have hfalse : stepped = false := result_of_stepForwardsOnce hstep
          subst hfalse
          rw [hstep] at hsteps
          exact hsteps
      | false =>
        simp only [Bool.false_eq_true, if_false, FilesystemState.deleteFile, if_pos h.known]
        -- with an empty name `removeNode` is asked for the node itself
        by_cases hname : name = []
        · simp only [hname, ne_eq, not_true_eq_false, false_or]
          exact h.settles_removeNode_nil hs h.known rfl
        · obtain ⟨result, tree, htree, hsound, hnames⟩ := h.sound.removeNode_of_ne hname
          simp only [htree, pure, Except.pure]
          refine ⟨⟨h.armed, h.known, hsound⟩, iff_of_true ?_ (Or.inl hname)⟩
          exact corresponds_withCursors hs rfl hnames

/-! ## All calls -/

/-- How each call ends. -/
theorem Armed.settles {s : InternalFilesystem} (h : s.Armed) (hs : s.Corresponds)
    (calls : RemovalCalls) (call : CursorCall) :
    Settles (s.step calls call) (s.Harmless calls call) := by
  cases call with
  | pathChange path => exact h.settles_pathChange hs path
  | pathExists path => exact h.settles_pathExists hs path
  | stepForwardsOnce name => exact h.settles_stepForwardsOnce hs name
  | stepBackwardsOnce => exact h.settles_stepBackwardsOnce hs
  | killChild name => exact h.settles_killChild hs calls name
  | killParent => exact h.settles_killParent hs calls

/-- Which calls stay in the relation. -/
theorem Armed.stays_iff_harmless {s : InternalFilesystem} (h : s.Armed) (hs : s.Corresponds)
    (calls : RemovalCalls) (call : CursorCall) :
    s.Stays calls call ↔ s.Harmless calls call := by
  have hsettles := h.settles hs calls call
  unfold Stays
  cases hstep : s.step calls call with
  | ok r =>
    rw [hstep] at hsettles
    exact hsettles.2
  | error fault =>
    rw [hstep] at hsettles
    cases fault with
    | assertion => exact iff_of_true trivial hsettles
    | undefined => exact iff_of_false id hsettles
    | exception => exact iff_of_false id hsettles
    | blocked => exact iff_of_false id hsettles
    | outOfFuel => exact iff_of_false id hsettles

/-- What a harmless call leads to. -/
theorem Armed.step {s s' : InternalFilesystem} (h : s.Armed) (hs : s.Corresponds)
    {calls : RemovalCalls} {call : CursorCall} {result : Bool} (hharmless : s.Harmless calls call)
    (hstep : s.step calls call = .ok (result, s')) : s'.Armed ∧ s'.Corresponds := by
  have hsettles := h.settles hs calls call
  rw [hstep] at hsettles
  exact ⟨hsettles.1, hsettles.2.mpr hharmless⟩

/-- An armed filesystem with the tree cursor at the head and the reader at the offset. -/
structure AtOffset where
  filesystem : InternalFilesystem
  armed : filesystem.Armed
  at_head : filesystem.filesystemTree.heapPointer = []
  at_offset : components filesystem.filesystemReader.head.currentDirectory =
    components filesystem.filesystemOffset

theorem AtOffset.corresponds (start : AtOffset) : start.filesystem.Corresponds := by
  have hnames : start.filesystem.filesystemTree.names = [] := by
    rw [InternalUnbalancedTree.names, start.at_head]
    rfl
  rw [Corresponds, start.at_offset, hnames, List.append_nil]

/-- A run that starts at the offset stays in the relation exactly when each of its calls
    is harmless where it is made. -/
theorem runStays_iff (calls : RemovalCalls) (start : AtOffset) (ops : List CursorCall) :
    (∀ c ∈ StepRun.calls (step calls) start.filesystem ops, c.1.Stays calls c.2) ↔
      ∀ c ∈ StepRun.calls (step calls) start.filesystem ops, c.1.Harmless calls c.2 :=
  StepRun.forall_calls_iff (I := fun s => s.Armed ∧ s.Corresponds)
    (fun _ call hs => hs.1.stays_iff_harmless hs.2 calls call)
    (fun _ _ _ _ hs hharmless hstep => hs.1.step hs.2 hharmless hstep)
    ⟨start.armed, start.corresponds⟩ ops

/-- The directory tree of nothing but a root. -/
def onlyRoot : DirectoryTree where
  has path := path = []
  has_root := rfl
  has_parent := by
    intro path name h
    exact absurd (of_decide_eq_true h) (List.append_ne_nil_of_right_ne_nil _ (List.cons_ne_nil _ _))

/-- The filesystem that `setFilesystemOffset("/")` arms in that tree. -/
def armedAtRoot : AtOffset where
  filesystem :=
    { offsetArmed := true
      filesystemOffset := ['/']
      filesystemReader :=
        { head := { directoryKnown := true, currentDirectory := [] }
          process := { tree := onlyRoot, cwd := onlyRoot.root } }
      filesystemTree := .construct {} }
  armed :=
    { armed := rfl
      known := rfl
      sound := ⟨⟨_, rfl⟩, .node rfl fun _ hchild => by cases hchild⟩ }
  at_head := rfl
  at_offset := by decide

/-- System calls that remove nothing. -/
def removesNothing : RemovalCalls where
  rmdir process _ := (-1, process)
  unlink process _ := (-1, process)

/-- A step to a directory that exists neither on disk nor in the tree moves the reader
    alone. -/
theorem stepForwardsOnce_moves_reader :
    ¬ ∀ c ∈ StepRun.calls (step removesNothing) armedAtRoot.filesystem [.stepForwardsOnce ['a']],
      c.1.Stays removesNothing c.2 := by
  intro hall
  have hstays := hall (armedAtRoot.filesystem, .stepForwardsOnce ['a']) List.mem_cons_self
  have hcorresponds : components ['/', 'a'] = components ['/'] ++ [] := hstays
  exact absurd hcorresponds (by decide)

end InternalFilesystem

end NetworkedFS
