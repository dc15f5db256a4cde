import NetworkedFS.Spec.DirectoryTracking

/-!
# The way there and back

A directory that is entered is not tracked, as the result of `chdir` is inverted; what is
tracked is what could not be entered.  So after any way into existing directories the tracked
string has fewer new delimiters than there were steps, and as many steps back lead to a string
with fewer delimiters than the one at the start.

## Key results

- `count_ancestor`: stepping back by `n` levels removes `n` delimiters;
- `walksBack_iff`: only the empty way leads back.
-/

namespace NetworkedFS

open PathName (Name components)

/-! ## Delimiters -/

theorem count_dropLevels {n : Nat} {text rest : List Char} (h : dropLevels n text = some rest) :
    rest.count nodeDelimeter + n = text.count nodeDelimeter := by
  induction text generalizing n with
  | nil =>
    cases n with
    | zero =>
      cases h
      rfl
    | succ n => cases h
  | cons c text ih =>
    cases n with
    | zero =>
      cases h
      rfl
    | succ n =>
      rw [dropLevels] at h
      rw [List.count_cons]
      by_cases hc : c = nodeDelimeter
      · rw [if_pos hc] at h
        have hrest := ih h
        simp only [hc, beq_self_eq_true, if_true]
        omega
      · rw [if_neg hc] at h
        have hrest := ih h
        simp only [beq_iff_eq, hc, if_false]
        omega

/-- The part of a string before its `n`-th delimiter from the end has `n` delimiters less. -/
theorem count_ancestor {n : Nat} {text parent : List Char} (h : ancestor n text = some parent) :
    parent.count nodeDelimeter + n = text.count nodeDelimeter := by
  obtain ⟨rest, hrest, hparent⟩ := Option.map_eq_some_iff.mp h
  have hcount := count_dropLevels hrest
  rw [List.count_reverse] at hcount
  rw [← hparent, List.count_reverse]
  exact hcount

/-- A single component brings one delimiter, the one in front of it. -/
theorem count_extendPath (path : List Char) {name : Name} (hname : components name = [name]) :
    (extendPath path name).count nodeDelimeter = path.count nodeDelimeter + 1 := by
  have hmem : nodeDelimeter ∉ name := (PathName.components_eq_singleton_iff.mp hname).2
  have hlast : name.getLast? ≠ some nodeDelimeter := fun h => hmem (List.mem_of_getLast? h)
  have hnone : name.count nodeDelimeter = 0 := List.count_eq_zero.mpr hmem
  rw [extendPath, if_neg hlast, List.count_append, List.count_cons_self, hnone]

namespace FilesystemState

/-! ## The way there -/

/-- A head that tracks the working directory by an absolute path. -/
structure AtAbsolutePath (s : FilesystemState) : Prop where
  known : s.head.directoryKnown = true
  absolute : s.head.currentDirectory.head? = some nodeDelimeter
  inStep : s.InStep

/-- Names of directories, each below the one before it. -/
structure Enterable (s : FilesystemState) (names : List Name) : Prop where
  single : ∀ name ∈ names, components name = [name]
  exist : ∀ front, front ≠ [] → front <+: names →
    s.process.target (front.foldl extendPath s.head.currentDirectory) ≠ none

/-- The state after the directories were entered one after the other. -/
def afterEntering (s : FilesystemState) (names : List Name) : FilesystemState :=
  StepRun.final step s (names.map .stepForwardDirectory)

/-- A step forward returns, and tracks one delimiter more if there is no such directory. -/
theorem step_stepForwardDirectory {s : FilesystemState} (hknown : s.head.directoryKnown = true)
    {name : Name} (hname : components name = [name]) :
    ∃ r s', s.step (.stepForwardDirectory name) = .ok (r, s') ∧ s'.head.directoryKnown = true ∧
      s'.head.currentDirectory.count nodeDelimeter = s.head.currentDirectory.count nodeDelimeter +
        if s.process.target (s.completeDirectory name) = none then 1 else 0 := by
  have hne : name ≠ [] := (PathName.components_eq_singleton_iff.mp hname).1
  have hstep : s.step (.stepForwardDirectory name) = s.changeDirectory name :=
    stepForwardDirectory_eq hknown name
  cases htarget : s.process.target (s.completeDirectory name) with
  | none =>
    refine ⟨true, s.setCurrentDirectory (s.completeDirectory name), ?_, hknown, ?_⟩
    · rw [hstep, changeDirectory_of_none hknown hne htarget]
    · rw [if_pos rfl]
      exact count_extendPath _ hname
  | some d =>
    obtain ⟨s', hcall, hknown', htracked, -⟩ := changeDirectory_of_some hknown hne htarget
    refine ⟨false, s', hstep.trans hcall, hknown', ?_⟩
    rw [htracked, if_neg (Option.some_ne_none d), Nat.add_zero]

/-- A way of `n` steps tracks at most `n` delimiters more. -/
theorem count_afterEntering_le {s : FilesystemState} (hknown : s.head.directoryKnown = true)
    {names : List Name} (hnames : ∀ name ∈ names, components name = [name]) :
    (s.afterEntering names).head.directoryKnown = true ∧
      (s.afterEntering names).head.currentDirectory.count nodeDelimeter ≤
        s.head.currentDirectory.count nodeDelimeter + names.length := by
  induction names generalizing s with
  | nil => exact ⟨hknown, Nat.le_refl _⟩
  | cons name names ih =>
    obtain ⟨hname, hnames⟩ := List.forall_mem_cons.mp hnames
    obtain ⟨r, s', hstep, hknown', hcount⟩ := step_stepForwardDirectory hknown hname
    obtain ⟨hknown'', hle⟩ := ih hknown' hnames
    have hafter : s.afterEntering (name :: names) = s'.afterEntering names := by
      simp only [afterEntering, List.map_cons, StepRun.final, hstep]
    rw [hafter, List.length_cons]
    refine ⟨hknown'', ?_⟩
    split at hcount
    · omega
    · omega

/-- The first directory exists, so it is not tracked. -/
theorem count_afterEntering_lt {s : FilesystemState} (hs : s.AtAbsolutePath) {name : Name}
    {names : List Name} (h : s.Enterable (name :: names)) :
    (s.afterEntering (name :: names)).head.directoryKnown = true ∧
      (s.afterEntering (name :: names)).head.currentDirectory.count nodeDelimeter ≤
        s.head.currentDirectory.count nodeDelimeter + names.length := by
  obtain ⟨hname, hnames⟩ := List.forall_mem_cons.mp h.single
  have hexists : s.process.target (s.completeDirectory name) ≠ none :=
    h.exist [name] (List.cons_ne_nil _ _) (List.prefix_append [name] names)
  obtain ⟨r, s', hstep, hknown', hcount⟩ := step_stepForwardDirectory hs.known hname
  rw [if_neg hexists, Nat.add_zero] at hcount
  have hafter : s.afterEntering (name :: names) = s'.afterEntering names := by
    simp only [afterEntering, List.map_cons, StepRun.final, hstep]
  rw [hafter, ← hcount]
  exact count_afterEntering_le hknown' hnames

/-! ## The way back -/

/-- Back by all levels in one call, or by one level in each of as many calls. -/
inductive WayBack where
  | atOnce
  | oneByOne
  deriving DecidableEq, Repr

def WayBack.calls : WayBack → Nat → List DirectoryCall
  | .atOnce, levels => [.stepBackDirectory levels]
  | .oneByOne, levels => List.replicate levels (.stepBackDirectory 1)

/-- After the way there every call of the way back returns `true`, and at its end both
    directories are what they were before. -/
def WalksBack (s : FilesystemState) (names : List Name) (way : WayBack) : Prop :=
  let calls := way.calls names.length
  StepRun.outputs step (s.afterEntering names) calls = List.replicate calls.length true ∧
    (StepRun.final step (s.afterEntering names) calls).head.currentDirectory =
      s.head.currentDirectory ∧
    (StepRun.final step (s.afterEntering names) calls).process.cwd.1 = s.process.cwd.1

/-- A step back that returns has removed its delimiters. -/
theorem count_of_stepBackDirectory {s s' : FilesystemState}
    (hknown : s.head.directoryKnown = true) {n : Nat} {r : Bool}
    (h : s.step (.stepBackDirectory n) = .ok (r, s')) :
    s'.head.directoryKnown = true ∧ s'.head.currentDirectory.count nodeDelimeter + n =
      s.head.currentDirectory.count nodeDelimeter := by
  have h : s.stepBackDirectory n = .ok (r, s') := h
  cases hparent : ancestor n s.head.currentDirectory with
  | none =>
    rw [stepBackDirectory_of_none hknown hparent] at h
    cases h
  | some parent =>
    rw [stepBackDirectory_of_some hknown hparent] at h
    obtain ⟨⟨r₁, s₁⟩, hcall, heq⟩ := Except.map_eq_ok_iff.mp h
    cases heq
    refine ⟨?_, count_ancestor hparent⟩
    -- an empty name is refused; any other is known afterwards, entered or not
    by_cases hne : parent = []
    · rw [hne, changeDirectory_nil hknown] at hcall
      cases hcall
    cases htarget : s.process.target (s.completeDirectory parent) with
    | none =>
      rw [changeDirectory_of_none hknown hne htarget] at hcall
      cases hcall
      exact hknown
    | some d =>
      obtain ⟨s₂, hcall₂, hknown₂, -⟩ := changeDirectory_of_some hknown hne htarget
      rw [hcall₂] at hcall
      cases hcall
      exact hknown₂

/-- Steps back that all return remove a delimiter each. -/
theorem count_of_replicate {s : FilesystemState} (hknown : s.head.directoryKnown = true) (k : Nat)
    (h : (StepRun.outputs step s (List.replicate k (.stepBackDirectory 1))).length = k) :
    (StepRun.final step s (List.replicate k (.stepBackDirectory 1))).head.currentDirectory.count
      nodeDelimeter + k = s.head.currentDirectory.count nodeDelimeter := by
  induction k generalizing s with
  | zero => rfl
  | succ k ih =>
    simp only [List.replicate_succ, StepRun.outputs, StepRun.final] at h ⊢
    cases hstep : s.step (.stepBackDirectory 1) with
    | error e =>
      rw [hstep] at h
      cases h
    | ok r =>
      obtain ⟨r, s'⟩ := r
      simp only [hstep, List.length_cons, Nat.add_right_cancel_iff] at h ⊢
      obtain ⟨hknown', hcount⟩ := count_of_stepBackDirectory (n := 1) hknown hstep
      have hrest := ih hknown' h
      omega

/-- Both ways back remove as many delimiters as there are levels. -/
theorem WayBack.count_final (way : WayBack) {s : FilesystemState}
    (hknown : s.head.directoryKnown = true) (levels : Nat)
    (h : StepRun.outputs step s (way.calls levels) =
      List.replicate (way.calls levels).length true) :
    (StepRun.final step s (way.calls levels)).head.currentDirectory.count nodeDelimeter + levels =
      s.head.currentDirectory.count nodeDelimeter := by
  cases way with
  | atOnce =>
    simp only [WayBack.calls, StepRun.outputs, StepRun.final] at h ⊢
    cases hstep : s.step (.stepBackDirectory levels) with
    | error e =>
      rw [hstep] at h
      cases h
    | ok r => exact (count_of_stepBackDirectory hknown hstep).2
  | oneByOne =>
    have hlength := congrArg List.length h
    simp only [WayBack.calls, List.length_replicate] at hlength
    exact count_of_replicate hknown levels hlength

/-- The condition under which a step back by no level changes nothing. -/
theorem walksBack_nil_iff {s : FilesystemState} (hs : s.AtAbsolutePath) (way : WayBack) :
    s.WalksBack [] way ↔
      (way = .atOnce → s.process.target (s.completeDirectory s.head.currentDirectory) = none) := by
  cases way with
  | oneByOne => exact iff_of_true ⟨rfl, rfl, rfl⟩ nofun
  | atOnce =>
    have hne : s.head.currentDirectory ≠ [] := by
      intro hnil
      have habsolute := hs.absolute
      rw [hnil] at habsolute
      cases habsolute
    have hback : s.step (.stepBackDirectory (0 : Nat)) = _ :=
      stepBackDirectory_of_some hs.known (ancestor_zero s.head.currentDirectory)
    have hstart : s.afterEntering [] = s := rfl
    rw [WalksBack, hstart]
    simp only [WayBack.calls, List.length_nil, StepRun.outputs, StepRun.final, forall_const,
      List.length_singleton]
    cases htarget : s.process.target (s.completeDirectory s.head.currentDirectory) with
    | none =>
      rw [changeDirectory_of_none hs.known hne htarget] at hback
      rw [hback]
      exact iff_of_true ⟨rfl, rfl, rfl⟩ rfl
    | some d =>
      obtain ⟨s', hcall, -⟩ := changeDirectory_of_some hs.known hne htarget
      rw [hcall] at hback
      rw [hback]
      simp [Except.map]

/-- The way there leads back only if it has no step, and then a step back by no level has to
    find nothing below the tracked directory. -/
theorem walksBack_iff {s : FilesystemState} (hs : s.AtAbsolutePath) {names : List Name}
    (h : s.Enterable names) (way : WayBack) :
    s.WalksBack names way ↔ names = [] ∧
      (way = .atOnce → s.process.target (s.completeDirectory s.head.currentDirectory) = none) := by
  cases names with
  | nil =>
    rw [walksBack_nil_iff hs, and_iff_right rfl]
  | cons name names =>
    refine iff_of_false (fun hback => ?_) (fun hnil => List.cons_ne_nil _ _ hnil.1)
    obtain ⟨houtputs, htracked, -⟩ := hback
    -- the way back removes one delimiter more than the way there has added
    obtain ⟨hknown, hle⟩ := count_afterEntering_lt hs h
    have hcount := way.count_final hknown _ houtputs
    rw [htracked, List.length_cons] at hcount
    omega

/-- The root, tracked by its absolute path. -/
def atSlash : FilesystemState :=
  { atRoot with head := { directoryKnown := true, currentDirectory := ['/'] } }

theorem atAbsolutePath_atSlash : atSlash.AtAbsolutePath where
  known := rfl
  absolute := rfl
  inStep := rfl

theorem enterable_atSlash : atSlash.Enterable [['a']] where
  single := by decide
  exist := by
    intro front hne hprefix
    cases front with
    | nil => exact absurd rfl hne
    | cons name front =>
      obtain ⟨hname, hfront⟩ := List.cons_prefix_cons.mp hprefix
      rw [hname, List.prefix_nil.mp hfront]
      decide

/-- One step into the only directory does not lead back. -/
theorem walksBack_iff_atSlash : atSlash.WalksBack [['a']] .atOnce ↔ [['a']] = [] ∧
    (WayBack.atOnce = .atOnce →
      atSlash.process.target (atSlash.completeDirectory atSlash.head.currentDirectory) = none) :=
  walksBack_iff atAbsolutePath_atSlash enterable_atSlash .atOnce

/-- The directory that was entered is not tracked, so there is nothing to go back from. -/
theorem entered_not_tracked :
    (atSlash.afterEntering [['a']]).head.currentDirectory = ['/'] ∧
    (atSlash.afterEntering [['a']]).process.cwd.1 = [['a']] ∧
    ¬ ∀ (s : FilesystemState) (names : List Name) (way : WayBack), s.AtAbsolutePath →
      s.Enterable names → s.WalksBack names way := by
  refine ⟨rfl, rfl, fun hall => ?_⟩
  have hback := hall atSlash [['a']] .atOnce atAbsolutePath_atSlash enterable_atSlash
  have houtputs := hback.1
  cases houtputs

end FilesystemState

end NetworkedFS
