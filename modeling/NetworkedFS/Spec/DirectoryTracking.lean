import Mathlib.Data.List.TakeWhile
import NetworkedFS.ForStd.StepRun
import NetworkedFS.Spec.DirectoryCalls

/-!
# The tracked directory and the working directory

`filesystem_current_directory` is a string that is kept by hand beside the process's
working directory.  A string names the directory that its concatenation with a
delimiter leads to, so that the empty string names the root: this is how the class
itself extends it.

`Faithful` is what the callers expect of one call.  As `changeDirectory` inverts the
result of `chdir`, nearly no call is faithful, and `Survives` says which ones are.

## Key results

- `faithfulCall_iff_survives`: the faithful calls in any state;
- `runFaithful_iff`: the runs all of whose calls are faithful.
-/

namespace NetworkedFS

open PathName (Name)

/-- The calls that move a filesystem head. -/
inductive DirectoryCall where
  | setRoot (root : List Char)
  | changeDirectory (directory : List Char)
  | stepForwardDirectory (targetNode : List Char)
  | stepBackDirectory (stepsBackward : Int)
  deriving DecidableEq, Repr

namespace FilesystemState

def step (s : FilesystemState) : DirectoryCall → Except Fault (Bool × FilesystemState)
  | .setRoot root => s.setRoot root
  | .changeDirectory directory => s.changeDirectory directory
  | .stepForwardDirectory targetNode => s.stepForwardDirectory targetNode
  | .stepBackDirectory stepsBackward => s.stepBackDirectory stepsBackward

/-- The directory that a tracked string names. -/
def named (s : FilesystemState) (tracked : List Char) : Option (List Name) :=
  s.process.target (tracked ++ [nodeDelimeter])

/-- The tracked directory is the working directory. -/
def InStep (s : FilesystemState) : Prop :=
  s.named s.head.currentDirectory = some s.process.cwd.1

/-- The directory a call asks for, if there is one. -/
def request (s : FilesystemState) : DirectoryCall → Option (List Name)
  | .setRoot root => s.named root
  | .changeDirectory directory | .stepForwardDirectory directory =>
    s.process.target (s.completeDirectory directory)
  | .stepBackDirectory stepsBackward =>
    if stepsBackward < 0 then none
    else (ancestor stepsBackward.toNat s.head.currentDirectory).bind s.named

/-- What is expected of a call that returned `result` and led from `s` to `s'`. -/
structure Faithful (s : FilesystemState) (call : DirectoryCall) (result : Bool)
    (s' : FilesystemState) : Prop where
  /-- `true` means that the working directory is the requested one. -/
  result_iff : result = true ↔ s.request call = some s'.process.cwd.1
  inStep : s'.InStep
  /-- A call that failed left both directories as they were. -/
  unchanged : result = false →
    s'.head.currentDirectory = s.head.currentDirectory ∧ s'.process.cwd.1 = s.process.cwd.1

/-- A call is faithful when it returns and what it did is as expected.  The assertion
    that the directory is known stops a call before it does anything. -/
def FaithfulCall (s : FilesystemState) (call : DirectoryCall) : Prop :=
  match s.step call with
  | .ok (result, s') => s.Faithful call result s'
  | .error .assertion => True
  | .error _ => False

/-- The condition under which a call does what is expected of it. -/
def Survives (s : FilesystemState) : DirectoryCall → Prop
  | .setRoot root => root = [nodeDelimeter] ∧ s.process.cwd.1 = []
  | .changeDirectory _ | .stepForwardDirectory _ => s.head.directoryKnown = false
  | .stepBackDirectory stepsBackward =>
    s.head.directoryKnown = false ∨
    (stepsBackward < 0 ∧ s.InStep) ∨
    0 ≤ stepsBackward ∧ ∃ parent,
      ancestor stepsBackward.toNat s.head.currentDirectory = some parent ∧ parent ≠ [] ∧
      s.named parent = some s.process.cwd.1 ∧
      s.process.target (s.completeDirectory parent) = none

variable {s s' : FilesystemState} {call : DirectoryCall} {result : Bool}

/-- A call that returns is judged by what it returns. -/
theorem faithfulCall_of_ok (h : s.step call = .ok (result, s')) :
    s.FaithfulCall call ↔ s.Faithful call result s' := by
  rw [FaithfulCall, h]

/-- Undefined behaviour is never faithful. -/
theorem not_faithfulCall_of_undefined (h : s.step call = .error .undefined) :
    ¬ s.FaithfulCall call := by
  rw [FaithfulCall, h]
  exact id

/-- A failed assertion ends the process before anything is out of step. -/
theorem faithfulCall_of_assertion (h : s.step call = .error .assertion) : s.FaithfulCall call := by
  rw [FaithfulCall, h]
  trivial

/-- A call that returned `false` without moving the working directory is not faithful if
    it tracks what was asked for: when the two directories agree, nothing failed. -/
theorem not_faithful_of_request (hprocess : s'.process = s.process)
    (hrequest : s.request call = s.named s'.head.currentDirectory) :
    ¬ s.Faithful call false s' := by
  intro hfaithful
  have hinStep : s'.named s'.head.currentDirectory = some s'.process.cwd.1 := hfaithful.inStep
  have hnamed : s'.named s'.head.currentDirectory = s.named s'.head.currentDirectory := by
    rw [named, named, hprocess]
  rw [hnamed, ← hrequest] at hinStep
  exact Bool.false_ne_true (hfaithful.result_iff.mpr hinStep)

/-! ## `setRoot` -/

/-- The callee sees no path name, so there is no directory. -/
theorem target_of_cString_nil (process : Process) {path : List Char} (h : cString path = []) :
    process.target path = none := by
  rw [Process.target, h]
  rfl

/-- A second delimiter makes no difference to what a string names. -/
theorem named_append_delimiter (s : FilesystemState) {tracked : List Char}
    (h : cString tracked ≠ []) :
    s.named (tracked ++ [nodeDelimeter]) = s.process.target tracked := by
  by_cases hnull : ∀ c ∈ tracked, c ≠ '\x00'
  -- without a null character the callee sees both delimiters
  · have hall : ∀ c ∈ tracked, decide (c ≠ '\x00') = true := fun c hc => decide_eq_true (hnull c hc)
    have hself : cString tracked = tracked := List.takeWhile_eq_self_iff.mpr hall
    have htwice : cString (tracked ++ [nodeDelimeter] ++ [nodeDelimeter]) =
        tracked ++ ['/'] ++ ['/'] := by
      rw [cString, List.append_assoc, List.takeWhile_append_of_pos hall, List.append_assoc]
      rfl
    have hne : tracked ≠ [] := hself ▸ h
    rw [named, Process.target, Process.target, htwice, hself,
      DirectoryTree.resolve_append_delimiter _ (List.append_ne_nil_of_left_ne_nil hne _),
      DirectoryTree.resolve_append_delimiter _ hne]
  · -- what follows a null character is not seen
    have hcut : cString (tracked ++ [nodeDelimeter] ++ [nodeDelimeter]) = cString tracked := by
      rw [cString, List.append_assoc, List.takeWhile_append, if_neg]
      · rfl
      · intro hlength
        apply hnull
        have hself := List.IsPrefix.eq_of_length (List.takeWhile_prefix _) hlength
        intro c hc
        exact of_decide_eq_true (List.takeWhile_eq_self_iff.mp hself c hc)
    rw [named, Process.target, Process.target, hcut]

/-- The root string with its delimiter cut off is the empty string, which names the root. -/
theorem named_delimiter (s : FilesystemState) : s.named [nodeDelimeter] = some [] := rfl

/-- A root that is only stored is not changed to, yet tracked. -/
private theorem not_faithfulCall_setRoot_of_ne {root : List Char}
    (h : root.getLast? ≠ some nodeDelimeter) : ¬ s.FaithfulCall (.setRoot root) := by
  have hstep : s.step (.setRoot root) = .ok (false, s.rectified root) := setRoot_of_ne h
  rw [faithfulCall_of_ok hstep]
  exact not_faithful_of_request rfl rfl

/-- `chdir` succeeds and `false` is returned. -/
private theorem not_faithfulCall_setRoot_of_some {root : List Char} {d : List Name}
    (h : s.process.target root = some d) :
    ¬ s.FaithfulCall (.setRoot (root ++ [nodeDelimeter])) := by
  obtain ⟨entered, hd, hcall⟩ := changeDirectoryFunction_of_some (s := s.rectified root) h
  have hstep : s.step (.setRoot (root ++ [nodeDelimeter])) = .ok (false, _) :=
    (setRoot_append s root).trans (congrArg _ hcall)
  rw [faithfulCall_of_ok hstep]
  intro hfaithful
  have hne : cString root ≠ [] := by
    intro hnil
    rw [target_of_cString_nil _ hnil] at h
    cases h
  -- the directory that was asked for is the working directory, yet the result is `false`
  have hrequest : s.request (.setRoot (root ++ [nodeDelimeter])) = some entered.1 := by
    rw [request, named_append_delimiter s hne, h, hd]
  exact Bool.false_ne_true (hfaithful.result_iff.mpr hrequest)

/-- `chdir` fails and `true` is returned, which is right only where the root is asked
    for and already the working directory. -/
private theorem faithfulCall_setRoot_of_none {root : List Char}
    (h : s.process.target root = none) :
    s.FaithfulCall (.setRoot (root ++ [nodeDelimeter])) ↔ root = [] ∧ s.process.cwd.1 = [] := by
  -- `chdir` fails, which is reported as a success
  have hcall := changeDirectoryFunction_of_none (s := s.rectified root) h
  have hstep : s.step (.setRoot (root ++ [nodeDelimeter])) = .ok (true, s.rectified root) :=
    (setRoot_append s root).trans (congrArg _ hcall)
  rw [faithfulCall_of_ok hstep]
  constructor
  · intro hfaithful
    have hrequest : s.named (root ++ [nodeDelimeter]) = some s.process.cwd.1 :=
      hfaithful.result_iff.mp rfl
    cases root with
    | nil =>
      rw [List.nil_append, named_delimiter] at hrequest
      exact ⟨rfl, (Option.some.inj hrequest).symm⟩
    | cons c root =>
      by_cases hnil : cString (c :: root) = []
      · -- the string starts with a null character, and so does the request
        have hc : c = '\x00' := by
          by_contra hne
          rw [cString, List.takeWhile_cons, if_pos (decide_eq_true hne)] at hnil
          cases hnil
        rw [named, target_of_cString_nil] at hrequest
        · cases hrequest
        · rw [hc]
          rfl
      · rw [named_append_delimiter s hnil, h] at hrequest
        cases hrequest
  -- the root names itself, and the process is there
  · intro hroot
    obtain ⟨hroot, hcwd⟩ := hroot
    subst hroot
    have hrequest : s.request (.setRoot ([] ++ [nodeDelimeter])) = some s.process.cwd.1 := by
      rw [hcwd]
      rfl
    refine ⟨iff_of_true rfl hrequest, ?_, fun hfalse => absurd hfalse.symm Bool.false_ne_true⟩
    show some [] = some s.process.cwd.1
    rw [hcwd]

/-- Only the root itself is set faithfully, and only from there. -/
theorem faithfulCall_setRoot_iff (s : FilesystemState) (root : List Char) :
    s.FaithfulCall (.setRoot root) ↔ root = [nodeDelimeter] ∧ s.process.cwd.1 = [] := by
  by_cases hlast : root.getLast? = some nodeDelimeter
  · obtain ⟨front, rfl⟩ := List.getLast?_eq_some_iff.mp hlast
    cases htarget : s.process.target front with
    | none =>
      have hnil : front ++ [nodeDelimeter] = [nodeDelimeter] ↔ front = [] :=
        List.append_left_eq_self
      rw [faithfulCall_setRoot_of_none htarget, hnil]
    | some d =>
      apply iff_of_false (not_faithfulCall_setRoot_of_some htarget)
      intro hroot
      rw [List.append_left_eq_self.mp hroot.1, target_of_cString_nil _ rfl] at htarget
      cases htarget
  · apply iff_of_false (not_faithfulCall_setRoot_of_ne hlast)
    intro hroot
    rw [hroot.1] at hlast
    exact hlast rfl

/-! ## `changeDirectory` -/

/-- No change of the directory is faithful. -/
theorem not_faithfulCall_changeDirectory (hknown : s.head.directoryKnown = true)
    (directory : List Char) : ¬ s.FaithfulCall (.changeDirectory directory) := by
  by_cases hne : directory = []
  · rw [hne]
    exact not_faithfulCall_of_undefined (changeDirectory_nil hknown)
  cases htarget : s.process.target (s.completeDirectory directory) with
  | none =>
    have hstep : s.step (.changeDirectory directory) = _ :=
      changeDirectory_of_none hknown hne htarget
    rw [faithfulCall_of_ok hstep]
    intro hfaithful
    -- `true` would mean that a missing directory was entered
    have hrequest := hfaithful.result_iff.mp rfl
    rw [request, htarget] at hrequest
    cases hrequest
  | some d =>
    obtain ⟨s', hcall, -, -, -, entered, hd, hprocess⟩ := changeDirectory_of_some hknown hne htarget
    have hstep : s.step (.changeDirectory directory) = .ok (false, s') := hcall
    rw [faithfulCall_of_ok hstep]
    intro hfaithful
    -- the directory was entered, and the result is `false`
    have hrequest : s.request (.changeDirectory directory) = some s'.process.cwd.1 := by
      rw [request, htarget, hprocess, ← hd]
    exact Bool.false_ne_true (hfaithful.result_iff.mpr hrequest)

/-- The assertion aside, stepping forward is changing the directory. -/
theorem faithfulCall_stepForwardDirectory_iff (hknown : s.head.directoryKnown = true)
    (targetNode : List Char) : s.FaithfulCall (.stepForwardDirectory targetNode) ↔
      s.FaithfulCall (.changeDirectory targetNode) := by
  have hstep : s.step (.stepForwardDirectory targetNode) = s.step (.changeDirectory targetNode) :=
    stepForwardDirectory_eq hknown targetNode
  have hfaithful : ∀ result s', s.Faithful (.stepForwardDirectory targetNode) result s' ↔
      s.Faithful (.changeDirectory targetNode) result s' :=
    fun _ _ => ⟨fun h => ⟨h.1, h.2, h.3⟩, fun h => ⟨h.1, h.2, h.3⟩⟩
  rw [FaithfulCall, FaithfulCall, hstep]
  simp only [hfaithful]

/-! ## `stepBackDirectory` -/

/-- A negative number of steps asks for nothing and does nothing. -/
private theorem faithfulCall_stepBack_of_neg (hknown : s.head.directoryKnown = true)
    {stepsBackward : Int} (hneg : stepsBackward < 0) :
    s.FaithfulCall (.stepBackDirectory stepsBackward) ↔ s.InStep := by
  have hstep : s.step (.stepBackDirectory stepsBackward) = .ok (false, s) :=
    stepBackDirectory_of_neg hknown hneg
  have hrequest : s.request (.stepBackDirectory stepsBackward) = none := if_pos hneg
  rw [faithfulCall_of_ok hstep]
  refine ⟨fun hfaithful => hfaithful.inStep, fun hinStep => ⟨?_, hinStep, fun _ => ⟨rfl, rfl⟩⟩⟩
  rw [hrequest]
  exact iff_of_false Bool.false_ne_true nofun

/-- Stepping back to `parent` is faithful when the parent is already the working
    directory and what `chdir` is really asked for does not exist. -/
private theorem faithfulCall_stepBack_of_some (hknown : s.head.directoryKnown = true) {n : Nat}
    {parent : List Char} (hparent : ancestor n s.head.currentDirectory = some parent) :
    s.FaithfulCall (.stepBackDirectory n) ↔ parent ≠ [] ∧
      s.named parent = some s.process.cwd.1 ∧
      s.process.target (s.completeDirectory parent) = none := by
  have hrequest : s.request (.stepBackDirectory n) = s.named parent := by
    have hn : ¬ (n : Int) < 0 := by omega
    simp only [request, if_neg hn, Int.toNat_natCast, hparent, Option.bind_some]
  have hback := stepBackDirectory_of_some hknown hparent
  by_cases hne : parent = []
  -- the empty string ends in an access in front of its first character
  · rw [hne, changeDirectory_nil hknown] at hback
    have hstep : s.step (.stepBackDirectory n) = .error .undefined := hback
    exact iff_of_false (not_faithfulCall_of_undefined hstep) fun h => h.1 hne
  cases htarget : s.process.target (s.completeDirectory parent) with
  | none =>
    -- `chdir` fails, which is reported as a success
    rw [changeDirectory_of_none hknown hne htarget] at hback
    have hstep : s.step (.stepBackDirectory n) = .ok (true, s.setCurrentDirectory parent) := hback
    rw [faithfulCall_of_ok hstep]
    constructor
    · intro hfaithful
      have hnamed := hfaithful.result_iff.mp rfl
      rw [hrequest] at hnamed
      exact ⟨hne, hnamed, rfl⟩
    · intro h
      refine ⟨iff_of_true rfl (hrequest.trans h.2.1), h.2.1, fun hfalse => ?_⟩
      exact absurd hfalse.symm Bool.false_ne_true
  | some d =>
    obtain ⟨s', hcall, -, -, -, entered, hd, hprocess⟩ := changeDirectory_of_some hknown hne htarget
    rw [hcall] at hback
    have hstep : s.step (.stepBackDirectory n) = .ok (false, s'.setCurrentDirectory parent) := hback
    rw [faithfulCall_of_ok hstep]
    refine iff_of_false ?_ fun h => by cases h.2.2
    intro hfaithful
    -- a failed call has not moved the working directory, so nothing has moved it
    have hcwd : s'.process.cwd.1 = s.process.cwd.1 := (hfaithful.unchanged rfl).2
    have hsame : s'.process = s.process := by
      rw [hprocess] at hcwd ⊢
      have : entered = s.process.cwd := Subtype.ext hcwd
      rw [this]
    have hnot : ¬ s.Faithful (.stepBackDirectory n) false (s'.setCurrentDirectory parent) :=
      not_faithful_of_request hsame hrequest
    exact hnot hfaithful

/-- When stepping back is faithful. -/
theorem faithfulCall_stepBackDirectory_iff (hknown : s.head.directoryKnown = true)
    (stepsBackward : Int) : s.FaithfulCall (.stepBackDirectory stepsBackward) ↔
      (stepsBackward < 0 ∧ s.InStep) ∨
      0 ≤ stepsBackward ∧ ∃ parent,
        ancestor stepsBackward.toNat s.head.currentDirectory = some parent ∧ parent ≠ [] ∧
        s.named parent = some s.process.cwd.1 ∧
        s.process.target (s.completeDirectory parent) = none := by
  by_cases hneg : stepsBackward < 0
  · have hpos : ¬ 0 ≤ stepsBackward := by omega
    simp only [faithfulCall_stepBack_of_neg hknown hneg, hneg, hpos, true_and, false_and, or_false]
  have hpos : 0 ≤ stepsBackward := by omega
  obtain ⟨n, rfl⟩ := Int.eq_ofNat_of_zero_le hpos
  simp only [hneg, hpos, false_and, true_and, false_or, Int.toNat_natCast]
  cases hparent : ancestor n s.head.currentDirectory with
  | none =>
    have hstep : s.step (.stepBackDirectory n) = .error .undefined :=
      stepBackDirectory_of_none hknown hparent
    apply iff_of_false (not_faithfulCall_of_undefined hstep)
    intro h
    obtain ⟨parent, hparent, -⟩ := h
    cases hparent
  | some parent =>
    simp only [faithfulCall_stepBack_of_some hknown hparent, Option.some.injEq, exists_eq_left']

/-! ## All calls -/

/-- Without a known directory every call but `setRoot` stops at its assertion. -/
private theorem faithfulCall_of_unknown (hunknown : s.head.directoryKnown = false)
    (h : ∀ root, call ≠ .setRoot root) : s.FaithfulCall call := by
  apply faithfulCall_of_assertion
  cases call with
  | setRoot root => exact absurd rfl (h root)
  | changeDirectory directory =>
    simp only [step, changeDirectory, hunknown, Bool.false_eq_true, if_false]
  | stepForwardDirectory targetNode =>
    simp only [step, stepForwardDirectory, hunknown, Bool.false_eq_true, if_false]
  | stepBackDirectory stepsBackward =>
    simp only [step, stepBackDirectory, hunknown, Bool.false_eq_true, if_false]

/-- Which calls are faithful. -/
theorem faithfulCall_iff_survives (s : FilesystemState) (call : DirectoryCall) :
    s.FaithfulCall call ↔ s.Survives call := by
  cases hknown : s.head.directoryKnown with
  | false =>
    cases call with
    | setRoot root => exact faithfulCall_setRoot_iff s root
    | changeDirectory directory => exact iff_of_true (faithfulCall_of_unknown hknown nofun) hknown
    | stepForwardDirectory targetNode =>
      exact iff_of_true (faithfulCall_of_unknown hknown nofun) hknown
    | stepBackDirectory stepsBackward =>
      exact iff_of_true (faithfulCall_of_unknown hknown nofun) (Or.inl hknown)
  | true =>
    cases call with
    | setRoot root => exact faithfulCall_setRoot_iff s root
    | changeDirectory directory =>
      simp only [not_faithfulCall_changeDirectory hknown, Survives, hknown, Bool.true_eq_false]
    | stepForwardDirectory targetNode =>
      simp only [faithfulCall_stepForwardDirectory_iff hknown, Survives, hknown,
        not_faithfulCall_changeDirectory hknown, Bool.true_eq_false]
    | stepBackDirectory stepsBackward =>
      simp only [faithfulCall_stepBackDirectory_iff hknown, Survives, hknown, Bool.true_eq_false,
        false_or]

/-- The calls of a run are all faithful exactly when each is one of the few that survive
    the inverted result. -/
theorem runFaithful_iff (s : FilesystemState) (calls : List DirectoryCall) :
    (∀ c ∈ StepRun.calls step s calls, c.1.FaithfulCall c.2) ↔
      ∀ c ∈ StepRun.calls step s calls, c.1.Survives c.2 :=
  StepRun.forall_calls_iff (I := fun _ => True)
    (fun s call _ => faithfulCall_iff_survives s call) (fun _ _ _ _ _ _ _ => trivial) trivial calls

/-- A tree with one directory below its root. -/
def oneDirectory : DirectoryTree where
  has path := path = [] ∨ path = [['a']]
  has_root := rfl
  has_parent := by
    intro path name h
    -- only the root has a child here
    have hconcat : path = [] := by
      cases of_decide_eq_true h with
      | inl hnil => exact absurd hnil (List.append_ne_nil_of_right_ne_nil _ (List.cons_ne_nil _ _))
      | inr hone =>
        have hlength := congrArg List.length hone
        rw [List.length_append, List.length_singleton, List.length_singleton] at hlength
        exact List.length_eq_zero_iff.mp (by omega)
    rw [hconcat]
    rfl

/-- A head and its process at the root of that tree. -/
def atRoot : FilesystemState where
  head := { directoryKnown := true, currentDirectory := [] }
  process := { tree := oneDirectory, cwd := oneDirectory.root }

/-- Changing from the root into an existing directory moves there, but returns `false` and
    leaves the tracked directory behind. -/
theorem changeDirectory_reports_false :
    (∃ s', atRoot.step (.changeDirectory ['a']) = .ok (false, s') ∧
      s'.process.cwd.1 = [['a']] ∧ s'.head.currentDirectory = []) ∧
    ¬ ∀ c ∈ StepRun.calls step atRoot [.changeDirectory ['a']], c.1.FaithfulCall c.2 := by
  refine ⟨⟨_, rfl, rfl, rfl⟩, ?_⟩
  intro hall
  exact not_faithfulCall_changeDirectory rfl ['a']
    (hall (atRoot, .changeDirectory ['a']) List.mem_cons_self)

end FilesystemState

end NetworkedFS
