import NetworkedFS.Native.Removal
import NetworkedFS.Spec.ChildMap
import NetworkedFS.Spec.DirectoryTracking
import NetworkedFS.Spec.SingleSteps

/-!
# Removing a node from the tree and from the disk

`killChild` and `killParent` compute whether both removals worked and return `0`.  Each removal
is made whatever the other one gave, so a call that returns has changed something, unless there
was nothing to remove.

## Key results

- `forget_killParentOn`, `forget_killChildOn`: without the disk these are the functions that
  move the two cursors;
- `Armed.killsTogether_iff`: the calls after which result, tree and disk agree.
-/

namespace NetworkedFS

open RoseTree (Position)

/-- The directory lists an entry of this name. -/
def Disk.Lists (disk : Disk) (place : FilePlace) : Prop :=
  ∃ entries, disk.listing place.1 = some entries ∧ place.2 ∈ entries.map Prod.fst

/-! ## Without the disk -/

/-- A result without the disk. -/
def forgetDisk {α : Type} (r : Bool × Disk × α) : Bool × α := (r.1, r.2.2)

namespace FilesystemState

theorem forget_removeDirectoryOn (calls : DiskCalls) (disk : Disk) (s : FilesystemState)
    (directory : List Char) : (s.removeDirectoryOn calls disk directory).map forgetDisk =
      s.removeDirectory (calls.removal disk) directory := by
  unfold removeDirectoryOn removeDirectory
  split
  · by_cases hcode : (calls.rmdir disk s.process (cString directory)).1 = 0
    · have hcode' : ((calls.removal disk).rmdir s.process (cString directory)).1 = 0 := hcode
      simp only [if_pos hcode, if_pos hcode']
      rfl
    -- the report of the failure does not return
    · have hcode' : ¬ ((calls.removal disk).rmdir s.process (cString directory)).1 = 0 := hcode
      simp only [if_neg hcode, if_neg hcode']
      rfl
  · rfl

theorem forget_deleteFileOn (calls : DiskCalls) (disk : Disk) (s : FilesystemState)
    (fileName : List Char) : (s.deleteFileOn calls disk fileName).map forgetDisk =
      s.deleteFile (calls.removal disk) fileName := by
  unfold deleteFileOn deleteFile
  split
  · rfl
  · rfl

end FilesystemState

namespace InternalFilesystem

open Except (Agree)

/-- `killParent` on a disk is `killParent`. -/
theorem forget_killParentOn (calls : DiskCalls) (disk : Disk) (s : InternalFilesystem) :
    (s.killParentOn calls disk).map forgetDisk = s.killParent (calls.removal disk) := by
  have hremove := Except.agree_iff_map_eq.mpr (FilesystemState.forget_removeDirectoryOn calls disk
    s.filesystemReader FilesystemState.defaultRemoved)
  rw [← Except.agree_iff_map_eq]
  unfold killParentOn killParent
  split
  · refine Agree.bind_same _ fun node => ?_
    cases node with
    | none => exact .ok rfl
    | some data =>
      refine Agree.bind_same _ fun isDirectory => ?_
      cases isDirectory with
      | false => exact .ok rfl
      | true =>
        refine hremove.bind fun r r' hr => ?_
        subst hr
        exact Agree.bind_same _ fun moved => .ok rfl
  · exact .error _ _

/-- `killChild` on a disk is `killChild`. -/
theorem forget_killChildOn (calls : DiskCalls) (disk : Disk) (s : InternalFilesystem)
    (name : List Char) :
    (s.killChildOn calls disk name).map forgetDisk = s.killChild (calls.removal disk) name := by
  have hdelete := Except.agree_iff_map_eq.mpr
    (FilesystemState.forget_deleteFileOn calls disk s.filesystemReader name)
  rw [← Except.agree_iff_map_eq]
  unfold killChildOn killChild
  split
  · refine Agree.bind_same _ fun node => ?_
    cases node with
    | none => exact .ok rfl
    | some data =>
      refine Agree.bind_same _ fun isDirectory => ?_
      cases isDirectory with
      -- a directory is stepped into first
      | true =>
        refine Agree.bind_same _ fun ⟨stepped, s'⟩ => ?_
        cases stepped with
        | false => exact .ok rfl
        | true =>
          have hparent := Except.agree_iff_map_eq.mpr (forget_killParentOn calls disk s')
          refine hparent.bind fun r r' hr => ?_
          subst hr
          exact .ok rfl
      | false =>
        refine hdelete.bind fun r r' hr => ?_
        subst hr
        exact Agree.bind_same _ fun moved => .ok rfl
  · exact .error _ _

/-! ## Tree and disk -/

/-- What is removed: a child, or the current directory. -/
inductive Kill where
  | child (name : List Char)
  | parent
  deriving DecidableEq, Repr

def kill (calls : DiskCalls) (disk : Disk) (s : InternalFilesystem) :
    Kill → Except Fault (Bool × Disk × InternalFilesystem)
  | .child name => s.killChildOn calls disk name
  | .parent => s.killParentOn calls disk

/-- The node that is to be removed: the first child of the name, or the current node if it is
    not the head. -/
def killedNode (s : InternalFilesystem) : Kill → Option Position
  | .child name =>
    match s.filesystemTree.current with
    | .ok node => (InternalUnbalancedTree.findChild node name).map fun i =>
        s.filesystemTree.heapPointer ++ [i]
    | .error _ => none
  | .parent =>
    if s.filesystemTree.heapPointer = [] then none else some s.filesystemTree.heapPointer

/-- The directory entry that is to be removed, for the directory that the reader tracks. -/
def killedPlace (s : InternalFilesystem) : Kill → Option FilePlace
  | .child name =>
    (s.filesystemReader.named s.filesystemReader.head.currentDirectory).map fun directory =>
      (directory, name)
  | .parent =>
    (s.filesystemReader.named s.filesystemReader.head.currentDirectory).bind fun directory =>
      directory.getLast?.map fun name => (directory.dropLast, name)

/-- The node is gone, and the cursor is on the node above it. -/
def RemovedFromTree (s s' : InternalFilesystem) (k : Kill) : Prop :=
  ∃ above i, s.killedNode k = some (above ++ [i]) ∧
    s'.filesystemTree.head =
      RoseTree.updateChildren (fun children => children.eraseIdx i) above s.filesystemTree.head ∧
    s'.filesystemTree.heapPointer = above

/-- The entry was there, and is not any more. -/
def RemovedFromDisk (s : InternalFilesystem) (disk disk' : Disk) (k : Kill) : Prop :=
  ∃ place, s.killedPlace k = some place ∧ disk.Lists place ∧ ¬ disk'.Lists place

/-- `true` is returned exactly when the node was removed from the tree and from the disk, and
    `false` leaves everything as it was. -/
def KillsTogether (calls : DiskCalls) (disk : Disk) (s : InternalFilesystem) (k : Kill) : Prop :=
  ∃ result disk' s', s.kill calls disk k = .ok (result, disk', s') ∧
    (result = true ↔ s.RemovedFromTree s' k ∧ s.RemovedFromDisk disk disk' k) ∧
    (result = false → disk' = disk ∧ s'.filesystemTree = s.filesystemTree ∧ s.SameReader s')

/-- The cursor is on the head, and the head has no children. -/
def AtBareHead (s : InternalFilesystem) : Prop :=
  s.filesystemTree.heapPointer = [] ∧ s.filesystemTree.head.children = []

/-- There is nothing to be removed: no child of the name, or a current node that is a file.
    Besides, removing the children of a head without any changes the tree as little as a system
    call that does nothing changes the disk. -/
def RemovesNothing (calls : DiskCalls) (disk : Disk) (s : InternalFilesystem) : Kill → Prop
  | .child name =>
    match s.filesystemTree.getNode name with
    | .error _ => False
    | .ok none => True
    | .ok (some data) => data.isDirectory = some false ∧ name = [] ∧ s.AtBareHead ∧
        (calls.unlink disk s.filesystemReader.process []).2 = (disk, s.filesystemReader.process)
  | .parent =>
    match s.filesystemTree.getNode [] with
    | .error _ => False
    | .ok none => True
    | .ok (some data) => data.isDirectory = some false ∨
        data.isDirectory = some true ∧ s.AtBareHead ∧
          calls.rmdir disk s.filesystemReader.process (cString FilesystemState.defaultRemoved) =
            (0, disk, s.filesystemReader.process)

/-- A disk that has not changed has no entry less. -/
theorem not_removedFromDisk (s : InternalFilesystem) (disk : Disk) (k : Kill) :
    ¬ s.RemovedFromDisk disk disk k := by
  intro h
  obtain ⟨place, -, hlists, hnot⟩ := h
  exact hnot hlists

/-- A call that returns `false` is judged by what it has changed. -/
theorem killsTogether_of_false {calls : DiskCalls} {disk disk' : Disk} {s s' : InternalFilesystem}
    {k : Kill} (h : s.kill calls disk k = .ok (false, disk', s')) :
    s.KillsTogether calls disk k ↔
      disk' = disk ∧ s'.filesystemTree = s.filesystemTree ∧ s.SameReader s' := by
  constructor
  · intro htogether
    obtain ⟨result, disk'', s'', hok, -, hfailed⟩ := htogether
    rw [h] at hok
    cases hok
    exact hfailed rfl
  · intro hsame
    refine ⟨false, disk', s', h, ?_, fun _ => hsame⟩
    simp [hsame.1, not_removedFromDisk]

/-- A call that does not return says nothing about the node. -/
theorem not_killsTogether_of_error {calls : DiskCalls} {disk : Disk} {s : InternalFilesystem}
    {k : Kill} {fault : Fault} (h : s.kill calls disk k = .error fault) :
    ¬ s.KillsTogether calls disk k := by
  simp [KillsTogether, h]

/-! ## The calls -/

/-- The end of a removal at the head: what is left of the process and of the tree. -/
theorem removeNode_nil_unchanged_iff {s : InternalFilesystem}
    (hhead : s.filesystemTree.heapPointer = []) (process : Process) :
    ∃ tree, s.filesystemTree.removeNode [] = .ok (true, tree) ∧
      ((s.withCursors { s.filesystemReader with process := process } tree).filesystemTree =
          s.filesystemTree ∧
        s.SameReader (s.withCursors { s.filesystemReader with process := process } tree) ↔
        s.AtBareHead ∧ process = s.filesystemReader.process) := by
  refine ⟨_, InternalUnbalancedTree.removeNode_nil_eq hhead, ?_⟩
  have htree := InternalUnbalancedTree.withChildren_nil_eq_iff hhead
  simp [withCursors, SameReader, AtBareHead, hhead, htree]

/-- A call that ends in removing the current node of the tree leaves everything as it was exactly
    at a head without children, if nothing was done before; below the head the null parent is
    followed. -/
theorem Armed.killsTogether_removeNode_iff {s : InternalFilesystem} (h : s.Armed)
    {calls : DiskCalls} {disk disk' : Disk} {process : Process} {k : Kill}
    (hkill : s.kill calls disk k = s.filesystemTree.removeNode [] >>= fun r =>
      .ok (false, disk', s.withCursors { s.filesystemReader with process := process } r.2)) :
    s.KillsTogether calls disk k ↔
      s.AtBareHead ∧ disk' = disk ∧ process = s.filesystemReader.process := by
  by_cases hhead : s.filesystemTree.heapPointer = []
  · obtain ⟨tree, htree, hsame⟩ := removeNode_nil_unchanged_iff hhead process
    rw [htree] at hkill
    rw [killsTogether_of_false hkill, hsame]
    exact and_left_comm
  · rw [h.sound.removeNode_nil_of_ne hhead] at hkill
    have hbare : ¬ s.AtBareHead := fun hbare => hhead hbare.1
    simp [not_killsTogether_of_error hkill, hbare]

/-- `killParent` leaves everything as it was exactly when the current node is a file, or is a
    head without children while `rmdir` succeeds without doing anything. -/
theorem Armed.killsTogether_parent_iff {s : InternalFilesystem} (h : s.Armed) (calls : DiskCalls)
    (disk : Disk) : s.KillsTogether calls disk .parent ↔ s.RemovesNothing calls disk .parent := by
  cases h.sound.getNode [] with
  | inr hnone => exact absurd rfl hnone.2
  | inl hsome =>
    obtain ⟨data, hdata, -⟩ := hsome
    have hkill : s.kill calls disk .parent = s.killParentOn calls disk := rfl
    simp only [killParentOn, if_pos h.armed, hdata, bind, Except.bind, readIsDirectory] at hkill
    simp only [RemovesNothing, hdata]
    cases hdirectory : data.isDirectory with
    | none =>
      rw [hdirectory] at hkill
      simpa using not_killsTogether_of_error hkill
    | some isDirectory =>
      rw [hdirectory] at hkill
      cases isDirectory with
      -- nothing is done about a file
      | false =>
        rw [killsTogether_of_false hkill]
        simp [SameReader]
      | true =>
        simp only [if_true, FilesystemState.removeDirectoryOn, if_pos h.known] at hkill
        rcases hcalled : calls.rmdir disk s.filesystemReader.process
          (cString FilesystemState.defaultRemoved) with ⟨code, disk', process⟩
        simp only [hcalled] at hkill
        by_cases hcode : code = 0
        · simp only [hcode, if_true] at hkill
          rw [h.killsTogether_removeNode_iff hkill]
          simp [hcode]
        -- the report of the failure does not return
        · simp only [if_neg hcode, setReturnCode_cannotRemoveDirectory, bind, Except.bind] at hkill
          simp [not_killsTogether_of_error hkill, hcode]

/-- `killChild` leaves everything as it was exactly when there is no such child, or an empty name
    stands for a head without children while `unlink` does nothing. -/
theorem Armed.killsTogether_child_iff {s : InternalFilesystem} (h : s.Armed) (calls : DiskCalls)
    (disk : Disk) (name : List Char) :
    s.KillsTogether calls disk (.child name) ↔ s.RemovesNothing calls disk (.child name) := by
  have hkill : s.kill calls disk (.child name) = s.killChildOn calls disk name := rfl
  simp only [killChildOn, if_pos h.armed] at hkill
  cases h.sound.getNode name with
  | inr hnone =>
    -- without a child of the name `getNode` gives nothing to remove
    simp only [hnone.1, bind, Except.bind] at hkill
    rw [killsTogether_of_false hkill]
    simp [RemovesNothing, hnone.1, SameReader]
  | inl hsome =>
    obtain ⟨data, hdata, hchild⟩ := hsome
    simp only [hdata, bind, Except.bind, readIsDirectory] at hkill
    simp only [RemovesNothing, hdata]
    cases hdirectory : data.isDirectory with
    | none =>
      rw [hdirectory] at hkill
      -- a node that nobody set has no flag to read
      simpa using not_killsTogether_of_error hkill
    | some isDirectory =>
      rw [hdirectory] at hkill
      cases isDirectory with
      | true =>
        -- for a directory the cursor steps down to it, and `killParent` is called from there
        simp only [if_true] at hkill
        have hfalse : ¬ s.KillsTogether calls disk (.child name) := by
          by_cases hname : name = []
          · subst hname
            rw [h.stepForwardsOnce_nil] at hkill
            exact not_killsTogether_of_error hkill
          -- the cursor is on the child afterwards, and the child is still there
          · obtain ⟨s', hstep, -, htree⟩ := h.stepForwardsOnce_eq hname
            rw [hstep] at hkill
            rw [killsTogether_of_false hkill]
            intro hsame
            exact htree.mp hsame.2.1 (hchild hname)
        simp [hfalse]
      | false =>
        -- a file is removed by `unlink`, and then by `removeNode`
        simp only [Bool.false_eq_true, if_false, FilesystemState.deleteFileOn,
          if_pos h.known] at hkill
        rcases hcalled : calls.unlink disk s.filesystemReader.process (cString name) with
          ⟨code, disk', process⟩
        simp only [hcalled] at hkill
        by_cases hname : name = []
        · subst hname
          have hcalled' : calls.unlink disk s.filesystemReader.process [] =
              (code, disk', process) := hcalled
          rw [h.killsTogether_removeNode_iff hkill]
          simp [hcalled']
        -- the child is erased from the tree, whatever `unlink` gave
        · obtain ⟨node, hnode, hfound⟩ := hchild hname
          obtain ⟨i, hi⟩ := Option.ne_none_iff_exists'.mp hfound
          obtain ⟨child, hget, -⟩ := InternalUnbalancedTree.child_of_findChild hi
          have htree := InternalUnbalancedTree.removeNode_of_some hnode hname hi
          simp only [htree] at hkill
          rw [killsTogether_of_false hkill]
          have hlt : i < node.children.length := (List.getElem?_eq_some_iff.mp hget).1
          have hchanged := InternalUnbalancedTree.withChildren_eraseIdx_ne hnode hlt
          simp [hname, hchanged]

/-- Result, tree and disk agree after a call exactly when it removes nothing. -/
theorem Armed.killsTogether_iff {s : InternalFilesystem} (h : s.Armed) (calls : DiskCalls)
    (disk : Disk) (k : Kill) :
    s.KillsTogether calls disk k ↔ s.RemovesNothing calls disk k := by
  cases k with
  | child name => exact h.killsTogether_child_iff calls disk name
  | parent => exact h.killsTogether_parent_iff calls disk

/-- System calls that remove every file of a directory, and no directory. -/
def clearsFiles : DiskCalls where
  rmdir disk process _ := (-1, disk, process)
  unlink disk process _ :=
    (0, { disk with listing := fun directory => (disk.listing directory).map fun entries =>
      entries.filter fun entry => !entry.2 }, process)

/-- A root directory that lists one file. -/
def oneFile : Disk where
  listing directory := if directory = [] then some [(['f'], true)] else none
  content directory name := if directory = [] ∧ name = ['f'] then some [] else none

/-- Without a child of the name nothing is removed. -/
theorem killsTogether_armedAtRoot :
    armedAtRoot.filesystem.KillsTogether clearsFiles oneFile (.child ['f']) :=
  (armedAtRoot.armed.killsTogether_iff clearsFiles oneFile (.child ['f'])).mpr trivial

/-- The filesystem armed at the root, with a node for the file. -/
def armedWithFile : InternalFilesystem :=
  { armedAtRoot.filesystem with
    filesystemTree :=
      { head := .node { element := {} }
          [.node { element := { isDirectory := some false, name := ['f'] } } []]
        heapPointer := [] } }

theorem armed_armedWithFile : armedWithFile.Armed where
  armed := rfl
  known := rfl
  sound := by
    refine ⟨⟨_, rfl⟩, .node rfl fun child hchild => ?_⟩
    rw [List.mem_singleton.mp hchild]
    exact .node rfl fun _ hnone => absurd hnone List.not_mem_nil

/-- A file that is removed from the tree and from the disk is reported as not removed. -/
theorem removed_file_reported_false :
    (∃ disk' s', armedWithFile.kill clearsFiles oneFile (.child ['f']) = .ok (false, disk', s') ∧
      armedWithFile.RemovedFromTree s' (.child ['f']) ∧
      armedWithFile.RemovedFromDisk oneFile disk' (.child ['f'])) ∧
    ¬ ∀ calls : DiskCalls,
      (∀ disk process path, (calls.rmdir disk process path).1 ≠ 0 →
        (calls.rmdir disk process path).2 = (disk, process)) →
      (∀ disk process path, (calls.unlink disk process path).1 ≠ 0 →
        (calls.unlink disk process path).2 = (disk, process)) →
      ∀ disk s, Armed s → ∀ k, s.KillsTogether calls disk k := by
  constructor
  · refine ⟨_, _, rfl, ⟨[], 0, rfl, rfl, rfl⟩, ([], ['f']), rfl, ⟨_, rfl, by decide⟩, ?_⟩
    intro hlists
    obtain ⟨entries, hentries, hmem⟩ := hlists
    cases hentries
    exact absurd hmem (by decide)
  · intro hall
    have htogether := hall clearsFiles (fun _ _ _ _ => rfl)
      (fun _ _ _ hcode => absurd rfl hcode) oneFile armedWithFile armed_armedWithFile (.child ['f'])
    have hnothing := (armed_armedWithFile.killsTogether_child_iff _ _ _).mp htogether
    exact absurd hnothing.2.1 (by decide)

end InternalFilesystem

end NetworkedFS
