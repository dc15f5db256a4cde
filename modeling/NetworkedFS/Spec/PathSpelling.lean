import NetworkedFS.Spec.DirectoryTracking

/-!
# A delimiter at the end of a path

`changeDirectory` cuts a delimiter off the end of its argument and treats both spellings of a
path alike.  `setRoot` cuts it off as well, but asks `chdir` in the same branch, so that only
the spelling with the delimiter moves the process.

## Key results

- `changeDirectory_append_delimiter`: both spellings lead to the same place;
- `sameForBothSpellings_iff`: the roots for which `setRoot` does so too.
-/

namespace NetworkedFS

open PathName (Name)

namespace FilesystemState

/-- What a caller sees of a call: its result, the tracked and the working directory. -/
def seen (r : Bool × FilesystemState) : Bool × List Char × List Name :=
  (r.1, r.2.head.currentDirectory, r.2.process.cwd.1)

/-- Both functions do the same with and without a delimiter at the end of the path. -/
def SameForBothSpellings (s : FilesystemState) (path : List Char) : Prop :=
  (s.setRoot path).map seen = (s.setRoot (path ++ [nodeDelimeter])).map seen ∧
    (s.changeDirectory path).map seen = (s.changeDirectory (path ++ [nodeDelimeter])).map seen

/-- The directory that is asked for is the same for both spellings. -/
theorem extendPath_append_delimiter (path : List Char) {directory : List Char}
    (hlast : directory.getLast? ≠ some nodeDelimeter) :
    extendPath path (directory ++ [nodeDelimeter]) = extendPath path directory := by
  unfold extendPath
  rw [List.getLast?_concat, if_pos rfl, List.dropLast_concat, if_neg hlast]

theorem changeDirectory_append_delimiter (s : FilesystemState) {directory : List Char}
    (hne : directory ≠ []) (hlast : directory.getLast? ≠ some nodeDelimeter) :
    s.changeDirectory (directory ++ [nodeDelimeter]) = s.changeDirectory directory := by
  have hconcat : directory ++ [nodeDelimeter] ≠ [] :=
    List.append_ne_nil_of_right_ne_nil _ (List.cons_ne_nil _ _)
  unfold changeDirectory completeDirectory
  rw [extendPath_append_delimiter _ hlast, if_neg hne, if_neg hconcat]

/-- The process is moved for one of the spellings of a root only. -/
theorem setRoot_seen_eq_iff (s : FilesystemState) {root : List Char}
    (hlast : root.getLast? ≠ some nodeDelimeter) :
    (s.setRoot root).map seen = (s.setRoot (root ++ [nodeDelimeter])).map seen ↔
      s.process.target root = some s.process.cwd.1 := by
  rw [setRoot_of_ne hlast, setRoot_append]
  cases htarget : s.process.target root with
  -- what `chdir` gives for a directory that does not exist reads as true
  | none =>
    have hcall : (s.rectified root).changeDirectoryFunction root = (true, s.rectified root) :=
      changeDirectoryFunction_of_none htarget
    rw [hcall]
    simp [Except.map, seen]
  | some d =>
    obtain ⟨directory, hd, hcall⟩ :=
      changeDirectoryFunction_of_some (s := s.rectified root) htarget
    rw [hcall]
    simp only [Except.map, seen, rectified, hd, Except.ok.injEq, Prod.mk.injEq, true_and,
      Option.some.injEq]
    exact eq_comm

/-- The spelling makes no difference exactly when the path leads to the working directory. -/
theorem sameForBothSpellings_iff (s : FilesystemState) {path : List Char} (hne : path ≠ [])
    (hlast : path.getLast? ≠ some nodeDelimeter) :
    s.SameForBothSpellings path ↔ s.process.target path = some s.process.cwd.1 := by
  unfold SameForBothSpellings
  rw [changeDirectory_append_delimiter s hne hlast, setRoot_seen_eq_iff s hlast]
  exact and_iff_left rfl

/-- From the root the path `.` leads nowhere else. -/
theorem sameForBothSpellings_atRoot : atRoot.SameForBothSpellings ['.'] :=
  (sameForBothSpellings_iff atRoot (by decide) (by decide)).mpr rfl

/-- The directory below the root is entered for one of its spellings only. -/
theorem setRoot_moves_for_delimiter :
    ((atRoot.setRoot ['a']).map seen = .ok (false, ['a'], []) ∧
      (atRoot.setRoot ['a', '/']).map seen = .ok (false, ['a'], [['a']])) ∧
    ¬ ∀ (s : FilesystemState) (path : List Char), path ≠ [] →
      path.getLast? ≠ some nodeDelimeter → s.SameForBothSpellings path := by
  refine ⟨⟨rfl, rfl⟩, fun hall => ?_⟩
  have hsame := (hall atRoot ['a'] (by decide) (by decide)).1
  cases hsame

end FilesystemState

end NetworkedFS
