import NetworkedFS.ForStd.Except
import NetworkedFS.Native.Filesystem

/-!
# What the directory calls of the filesystem head do

One specification per function, over `Process.target`, the directory a path name leads
to, and `ancestor`, the part of a string before its `n`-th delimiter from the end.

- `changeDirectory_of_some`, `changeDirectory_of_none`: the call is inverted, it reports
  `false` and forgets the new directory when `chdir` succeeded, and reports `true` and
  stores the directory when it failed;
- `stepBackDirectory_of_some`: which prefix `stepBackDirectory` asks `changeDirectory` for.
-/

namespace NetworkedFS

open PathName (Name)

/-! ## `chdir` -/

namespace FilesystemState

/-- A failing `chdir` is reported as `true`. -/
theorem changeDirectoryFunction_of_none {s : FilesystemState} {path : List Char}
    (h : s.process.target path = none) : s.changeDirectoryFunction path = (true, s) := by
  rw [Process.target, Option.map_eq_none_iff] at h
  simp only [changeDirectoryFunction, Process.chdir, h]
  rfl

/-- A succeeding `chdir` is reported as `false`. -/
theorem changeDirectoryFunction_of_some {s : FilesystemState} {path : List Char} {d : List Name}
    (h : s.process.target path = some d) : ∃ directory : s.process.tree.Directory,
      directory.1 = d ∧ s.changeDirectoryFunction path =
        (false, { s with process := { s.process with cwd := directory } }) := by
  rw [Process.target, Option.map_eq_some_iff] at h
  obtain ⟨directory, hresolve, hd⟩ := h
  refine ⟨directory, hd, ?_⟩
  simp only [changeDirectoryFunction, Process.chdir, hresolve]
  rfl

/-! ## Setting the root -/

/-- A head that was told its directory. -/
def rectified (s : FilesystemState) (directory : List Char) : FilesystemState :=
  { s with head := { s.head with currentDirectory := directory, directoryKnown := true } }

/-- Without a delimiter at its end the root is only stored. -/
theorem setRoot_of_ne {s : FilesystemState} {root : List Char}
    (h : root.getLast? ≠ some nodeDelimeter) : s.setRoot root = .ok (false, s.rectified root) := by
  unfold setRoot
  cases hlast : root.getLast? with
  | none => rfl
  | some last =>
    -- the last character is not the delimiter, so the branch of `chdir` is not taken
    have hne : last ≠ nodeDelimeter := fun heq => h (by rw [hlast, heq])
    simp only [if_neg hne]
    rfl

/-- A delimiter at the end is cut off, and the rest is handed to `chdir`. -/
theorem setRoot_append (s : FilesystemState) (root : List Char) :
    s.setRoot (root ++ [nodeDelimeter]) =
      .ok ((s.rectified root).changeDirectoryFunction root) := by
  simp only [setRoot, List.getLast?_concat, if_pos, List.dropLast_concat]
  rfl

/-! ## Moving forward -/

/-- Reporting a directory that could not be changed to records the code `0`. -/
theorem setReturnCode_cannotChangeDirectory (s : FilesystemState) :
    s.setReturnCode .cannotChangeDirectory =
      .ok { s with
        head := { s.head with debugStatus := { returnCode := some 0, status := "OK" } } } :=
  rfl

/-- The last character of an empty string is asked for. -/
theorem changeDirectory_nil {s : FilesystemState} (hknown : s.head.directoryKnown = true) :
    s.changeDirectory [] = .error .undefined := by
  simp only [changeDirectory, hknown, if_pos]

/-- `chdir` fails: the call reports `true` and tracks a directory that does not exist. -/
theorem changeDirectory_of_none {s : FilesystemState} {directory : List Char}
    (hknown : s.head.directoryKnown = true) (hne : directory ≠ [])
    (h : s.process.target (s.completeDirectory directory) = none) :
    s.changeDirectory directory =
      .ok (true, s.setCurrentDirectory (s.completeDirectory directory)) := by
  simp only [changeDirectory, hknown, if_pos, if_neg hne, changeDirectoryFunction_of_none h]

/-- `chdir` succeeds: the working directory has moved, the call reports `false` and keeps
    the old string. -/
theorem changeDirectory_of_some {s : FilesystemState} {directory : List Char} {d : List Name}
    (hknown : s.head.directoryKnown = true) (hne : directory ≠ [])
    (h : s.process.target (s.completeDirectory directory) = some d) :
    ∃ s', s.changeDirectory directory = .ok (false, s') ∧
      s'.head.directoryKnown = true ∧ s'.head.currentDirectory = s.head.currentDirectory ∧
      s'.process = (s.process.chdir (s.completeDirectory directory)).2 ∧
      ∃ entered : s.process.tree.Directory, entered.1 = d ∧
        s'.process = { s.process with cwd := entered } := by
  obtain ⟨entered, hd, hcall⟩ := changeDirectoryFunction_of_some h
  refine ⟨{
    head := { s.head with debugStatus := { returnCode := some 0, status := "OK" } }
    process := { s.process with cwd := entered } }, ?_, hknown, rfl, ?_, entered, hd, rfl⟩
  rotate_left
  · exact (congrArg (fun r => r.2.process) hcall).symm
  simp only [changeDirectory, hknown, if_pos, if_neg hne, hcall, Bool.false_eq_true, if_false,
    setReturnCode_cannotChangeDirectory, bind, Except.bind, pure, Except.pure]

/-- Stepping forward is changing the directory. -/
theorem stepForwardDirectory_eq {s : FilesystemState} (hknown : s.head.directoryKnown = true)
    (targetNode : List Char) : s.stepForwardDirectory targetNode = s.changeDirectory targetNode :=
  if_pos hknown

end FilesystemState

/-! ## Moving backward -/

/-- What is left of a reversed string behind its `n`-th delimiter. -/
def dropLevels : Nat → List Char → Option (List Char)
  | 0, text => some text
  | _ + 1, [] => none
  | n + 1, c :: text => if c = nodeDelimeter then dropLevels n text else dropLevels (n + 1) text

/-- The part of a string before its `n`-th delimiter from the end; the whole string for
    `n = 0`, nothing when there are fewer delimiters. -/
def ancestor (n : Nat) (text : List Char) : Option (List Char) :=
  (dropLevels n text.reverse).map List.reverse

@[simp] theorem ancestor_zero (text : List Char) : ancestor 0 text = some text := by
  simp only [ancestor, dropLevels, Option.map_some, List.reverse_reverse]

/-- The scan walks down the reversed string. -/
private theorem stepBackScan_eq (text : List Char) {n k : Nat} {matched : Int} {left : Nat}
    (hleft : left ≤ text.length) (hmatched : matched + k = n) :
    FilesystemState.stepBackScan text n matched left =
      match dropLevels k (text.take left).reverse with
      | some rest => .ok (n, rest.length)
      | none => .error .undefined := by
  -- induction on the characters left; `k` delimiters are still to be found
  induction left generalizing k matched with
  | zero =>
    cases k with
    | zero =>
      have heq : matched = n := by omega
      simp only [FilesystemState.stepBackScan, heq, if_neg (Int.lt_irrefl _), List.take_zero,
        List.reverse_nil, dropLevels, List.length_nil]
    | succ k =>
      have hmore : matched < n := by omega
      simp only [FilesystemState.stepBackScan, if_pos hmore, List.take_zero, List.reverse_nil,
        dropLevels]
  | succ left ih =>
    have hlt : left < text.length := by omega
    have htake : (text.take (left + 1)).reverse = text[left] :: (text.take left).reverse := by
      rw [List.take_succ_eq_append_getElem hlt, List.reverse_append, List.reverse_singleton,
        List.singleton_append]
    cases k with
    | zero =>
      have heq : matched = n := by omega
      have hlength : min (left + 1) text.length = left + 1 := by omega
      simp only [FilesystemState.stepBackScan, heq, if_neg (Int.lt_irrefl _), dropLevels,
        List.length_reverse, List.length_take, hlength]
    | succ k =>
      have hmore : matched < n := by omega
      simp only [FilesystemState.stepBackScan, if_pos hmore, List.getElem?_eq_getElem hlt, htake,
        dropLevels]
      split
      · exact ih (by omega) (by omega)
      · exact ih (by omega) (by omega)

/-- What `dropLevels` leaves is a suffix. -/
private theorem suffix_of_dropLevels {n : Nat} {text rest : List Char}
    (h : dropLevels n text = some rest) : rest <:+ text := by
  induction text generalizing n with
  | nil =>
    cases n with
    | zero =>
      cases h
      exact List.suffix_rfl
    | succ n => cases h
  | cons c text ih =>
    cases n with
    | zero =>
      cases h
      exact List.suffix_rfl
    | succ n =>
      rw [dropLevels] at h
      split at h
      · exact (ih h).trans (List.suffix_cons c text)
      · exact (ih h).trans (List.suffix_cons c text)

namespace FilesystemState

/-- The scan stays in the string exactly when there are enough delimiters. -/
theorem stepBackScan_returns_iff (text : List Char) (n : Nat) :
    (∃ r, stepBackScan text n 0 text.length = .ok r) ↔ ∃ parent, ancestor n text = some parent := by
  have hscan := stepBackScan_eq text (Nat.le_refl _) (Int.zero_add (n : Int))
  rw [List.take_length] at hscan
  cases hrest : dropLevels n text.reverse with
  | none => simp only [hscan, hrest, ancestor, Option.map_none, reduceCtorEq, exists_false]
  | some rest =>
    simp only [hscan, hrest, ancestor, Option.map_some, Except.ok.injEq, Option.some.injEq,
      exists_eq']

/-- A negative number of steps changes nothing. -/
theorem stepBackDirectory_of_neg {s : FilesystemState} (hknown : s.head.directoryKnown = true)
    {stepsBackward : Int} (hneg : stepsBackward < 0) :
    s.stepBackDirectory stepsBackward = .ok (false, s) := by
  -- no delimiters are asked for, so the scan ends before it begins
  have hscan : ∀ text left, stepBackScan text stepsBackward 0 left = .ok (0, left) := by
    intro text left
    have hdone : ¬ (0 : Int) < stepsBackward := by omega
    cases left with
    | zero => simp only [stepBackScan, if_neg hdone]
    | succ left => simp only [stepBackScan, if_neg hdone]
  have hne : ¬ (0 : Int) = stepsBackward := by omega
  simp only [stepBackDirectory, hknown, if_pos, hscan, if_neg hne, bind, Except.bind, pure,
    Except.pure]

/-- With fewer delimiters the scan leaves the string. -/
theorem stepBackDirectory_of_none {s : FilesystemState} (hknown : s.head.directoryKnown = true)
    {n : Nat} (h : ancestor n s.head.currentDirectory = none) :
    s.stepBackDirectory n = .error .undefined := by
  have hscan := stepBackScan_eq s.head.currentDirectory (Nat.le_refl _) (Int.zero_add (n : Int))
  rw [List.take_length, Option.map_eq_none_iff.mp h] at hscan
  simp only [stepBackDirectory, hknown, if_pos, hscan]
  rfl

/-- With enough of them the prefix is handed to `changeDirectory`, and is tracked
    afterwards whatever came of that. -/
theorem stepBackDirectory_of_some {s : FilesystemState} (hknown : s.head.directoryKnown = true)
    {n : Nat} {parent : List Char} (h : ancestor n s.head.currentDirectory = some parent) :
    s.stepBackDirectory n =
      (s.changeDirectory parent).map fun r => (r.1, r.2.setCurrentDirectory parent) := by
  obtain ⟨rest, hrest, hreverse⟩ := Option.map_eq_some_iff.mp h
  have hscan := stepBackScan_eq s.head.currentDirectory (Nat.le_refl _) (Int.zero_add (n : Int))
  rw [List.take_length, hrest] at hscan
  -- what the scan leaves is a prefix of the tracked string
  have htake : s.head.currentDirectory.take rest.length = parent := by
    have hprefix := List.reverse_prefix.mpr (suffix_of_dropLevels hrest)
    rw [List.reverse_reverse, List.prefix_iff_eq_take, List.length_reverse] at hprefix
    rw [← hprefix, hreverse]
  simp only [stepBackDirectory, hknown, if_pos, hscan, bind, Except.bind, htake]
  cases s.changeDirectory parent <;> rfl

/-! ## Moves that return -/

/-- Only a head that knows its directory changes it, and it goes on to know it. -/
theorem known_of_changeDirectory {s s' : FilesystemState} {directory : List Char} {result : Bool}
    (hok : s.changeDirectory directory = .ok (result, s')) : s'.head.directoryKnown = true := by
  unfold changeDirectory at hok
  split at hok
  case isFalse => cases hok
  case isTrue hknown =>
    split at hok
    case isTrue => cases hok
    case isFalse hne =>
      simp only [setReturnCode_cannotChangeDirectory, bind, Except.bind, pure, Except.pure] at hok
      split at hok
      case isTrue => cases hok; exact hknown
      case isFalse => cases hok; exact hknown

theorem known_of_stepForwardDirectory {s s' : FilesystemState} {targetNode : List Char}
    {result : Bool} (hok : s.stepForwardDirectory targetNode = .ok (result, s')) :
    s'.head.directoryKnown = true := by
  unfold stepForwardDirectory at hok
  split at hok
  case isTrue => exact known_of_changeDirectory hok
  case isFalse => cases hok

/-- The same when it steps back. -/
theorem known_of_stepBackDirectory {s s' : FilesystemState} {stepsBackward : Int} {result : Bool}
    (hok : s.stepBackDirectory stepsBackward = .ok (result, s')) :
    s'.head.directoryKnown = true := by
  unfold stepBackDirectory at hok
  split at hok
  case isFalse => cases hok
  case isTrue hknown =>
    obtain ⟨⟨matched, left⟩, -, hrest⟩ := Except.bind_eq_ok_iff.mp hok
    simp only at hrest
    split at hrest
    case isTrue =>
      obtain ⟨⟨changed, reader⟩, hchange, hlast⟩ := Except.bind_eq_ok_iff.mp hrest
      have hknown' := known_of_changeDirectory hchange
      cases hlast
      exact hknown'
    case isFalse => cases hrest; exact hknown

end FilesystemState

end NetworkedFS
