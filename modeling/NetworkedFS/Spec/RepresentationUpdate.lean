import NetworkedFS.ForStd.Except
import NetworkedFS.Native.Representation
import NetworkedFS.Spec.CursorsInStep
import NetworkedFS.Spec.DirectoryTracking

/-!
# Updating the representation

`updateRepresentation` is to enter every directory below the offset exactly once, to say
whether all of them and all files could be read, and to come back.  It does not come back at
all.  The first entry on its stack is the offset itself, under the empty name, which is what
`pathChangeInline` gives back for it; so the offset is listed, and the loop over the listing
reads a vector whose only owner is gone.

## Key results

- `Traversal.body_nil_ne_ok`: a round for the empty name does not return;
- `Ready.updateRepresentation`: what an update of a filesystem at its offset comes to;
- `not_updates`: no update does what it is to do.
-/

namespace NetworkedFS

open PathName (Name components)
open DirectoryTree (resolve IsDot)

/-! ## What an update is to do -/

namespace Disk

/-- Every file of the listing can be read. -/
def filesReadable (disk : Disk) (directory : List Name) (entries : List (Name × Bool)) : Bool :=
  entries.all fun entry => !entry.2 || (disk.content directory entry.1).isSome

/-- The disk of a POSIX system: a listing has the two special entries, no name twice, and
    every directory that can be entered.  A name is not empty and has no delimiter and no
    null character in it. -/
structure WellFormed (disk : Disk) (tree : DirectoryTree) : Prop where
  dots : ∀ d entries, disk.listing d = some entries →
    (['.'], false) ∈ entries ∧ (['.', '.'], false) ∈ entries
  nodup : ∀ d entries, disk.listing d = some entries → (entries.map Prod.fst).Nodup
  plain : ∀ d entries, disk.listing d = some entries →
    ∀ entry ∈ entries, entry.1 ≠ [] ∧ nodeDelimeter ∉ entry.1 ∧ '\x00' ∉ entry.1
  complete : ∀ d entries name, disk.listing d = some entries →
    tree.has (d ++ [name]) = true → (name, false) ∈ entries

end Disk

/-- The directories that the listings show at an offset and below, whether or not they can
    be entered. -/
inductive Found (disk : Disk) (tree : DirectoryTree) (offset : List Name) : List Name → Prop
  | offset : Found disk tree offset offset
  | child {d : List Name} {name : Name} {entries : List (Name × Bool)}
      (found : Found disk tree offset d) (has : tree.has d = true)
      (listing : disk.listing d = some entries) (entry : (name, false) ∈ entries)
      (no_dot : ¬ IsDot name) : Found disk tree offset (d ++ [name])

/-- A directory below the offset that can be entered. -/
structure Below (disk : Disk) (tree : DirectoryTree) (offset d : List Name) : Prop where
  found : Found disk tree offset d
  ne : d ≠ offset
  has : tree.has d = true

/-- Every directory can be entered and listed, and every file can be read. -/
def AllReadable (disk : Disk) (tree : DirectoryTree) (offset : List Name) : Prop :=
  ∀ d, Found disk tree offset d → tree.has d = true ∧
    ∃ entries, disk.listing d = some entries ∧ disk.filesReadable d entries = true

namespace InternalFilesystem

/-- The directory at the offset, where the reader starts. -/
abbrev offsetDirectory (s : InternalFilesystem) :
    s.filesystemReader.process.tree.Directory := s.filesystemReader.process.cwd

/-- A start at the offset: the reader's string leads there from wherever it is taken. -/
structure Ready (disk : Disk) (s : InternalFilesystem) : Prop where
  armed : s.Armed
  at_offset : components s.filesystemReader.head.currentDirectory = components s.filesystemOffset
  named : ∀ cwd, resolve cwd (s.filesystemReader.head.currentDirectory ++ [nodeDelimeter]) =
    some s.offsetDirectory
  disk : disk.WellFormed s.filesystemReader.process.tree

/-- What is expected of an update that gives back `r`. -/
structure Updated (disk : Disk) (s : InternalFilesystem)
    (r : Bool × List (List Name) × InternalFilesystem) : Prop where
  each_once : ∀ d, Below disk s.filesystemReader.process.tree s.offsetDirectory.1 d →
    r.2.1.count d = 1
  none_outside : ∀ d ∈ r.2.1, s.offsetDirectory.1 <+: d
  result_iff : r.1 = true ↔
    AllReadable disk s.filesystemReader.process.tree s.offsetDirectory.1
  at_offset : r.2.2.filesystemReader.process.cwd.1 = s.offsetDirectory.1
  in_step : r.2.2.filesystemReader.InStep
  at_head : r.2.2.filesystemTree.heapPointer = []

/-- The update ends, without a null pointer or another fault, as expected. -/
def Updates (disk : Disk) (s : InternalFilesystem) : Prop :=
  ∃ fuel r, s.updateRepresentation disk fuel = .ok r ∧ Updated disk s r

end InternalFilesystem

/-! ## Listings -/

/-- Nothing can be read in a loop over a temporary. -/
theorem rangeOfTemporary_eq_error {α : Type} (pointer : Option (List α)) :
    rangeOfTemporary pointer = .error .undefined := by
  cases pointer with
  | none => rfl
  | some elements => rfl

/-- A listing that returns leaves the head as it was, and is not empty: there is no pointer to
    no entries. -/
theorem FilesystemState.listCurrentDirectory_eq_ok {disk : Disk} {s s' : FilesystemState}
    {directory : List Char} {listing : Option (List (Name × Bool))}
    (hok : s.listCurrentDirectory disk directory = .ok (listing, s')) :
    s' = s ∧ listing ≠ some [] := by
  unfold FilesystemState.listCurrentDirectory at hok
  split at hok
  case isFalse => cases hok
  case isTrue =>
    simp only at hok
    split at hok
    case h_1 entries hfound =>
      cases hok
      refine ⟨rfl, ?_⟩
      split
      case isTrue => exact nofun
      case isFalse hne => exact fun hnil => hne (Option.some.inj hnil)
    case h_2 =>
      -- reporting that it cannot be opened fails the assertion on status codes
      obtain ⟨reader, hreport, -⟩ := Except.bind_eq_ok_iff.mp hok
      cases hreport

namespace InternalFilesystem

/-! ## The first round -/

/-- The walk along the empty path gives back the empty string, if anything. -/
theorem result_of_pathChangeInline_nil {s s' : InternalFilesystem} {keepMove : Bool}
    {result : List Char} (hok : s.pathChangeInline [] keepMove = .ok (result, s')) :
    result = [] := by
  unfold pathChangeInline at hok
  split at hok
  case isTrue =>
    cases hok
    rfl
  case isFalse => cases hok

end InternalFilesystem

/-- The entry for the offset is never followed by another round. -/
theorem Traversal.body_nil_ne_ok {disk : Disk} {v v' : Traversal} {level : Int} :
    body disk v (level, []) ≠ .ok v' := by
  intro hok
  obtain ⟨⟨lastLevel, s⟩, -, hrest⟩ := Except.bind_eq_ok_iff.mp hok
  obtain ⟨⟨changed, s'⟩, hwalk, hrest⟩ := Except.bind_eq_ok_iff.mp hrest
  obtain rfl := InternalFilesystem.result_of_pathChangeInline_nil hwalk
  simp only [if_true] at hrest
  obtain ⟨lastLevel', -, hrest⟩ := Except.bind_eq_ok_iff.mp hrest
  obtain ⟨⟨listing, reader⟩, -, hrest⟩ := Except.bind_eq_ok_iff.mp hrest
  obtain ⟨entries, hrange, -⟩ := Except.bind_eq_ok_iff.mp hrest
  rw [rangeOfTemporary_eq_error] at hrange
  cases hrange

namespace InternalFilesystem

variable {disk : Disk} {s : InternalFilesystem}

/-- So the update does not return either, whatever the disk holds. -/
theorem updateRepresentation_ne_ok {fuel : Nat} {r : Bool × List (List Name) × InternalFilesystem} :
    s.updateRepresentation disk fuel ≠ .ok r := by
  intro hok
  unfold updateRepresentation at hok
  split at hok
  case isFalse => cases hok
  case isTrue =>
    obtain ⟨⟨listing, reader⟩, hlist, hrest⟩ := Except.bind_eq_ok_iff.mp hok
    have hne := (FilesystemState.listCurrentDirectory_eq_ok hlist).2
    cases listing with
    | none => cases hrest
    | some entries =>
      simp only [if_neg fun hnil => hne (congrArg some hnil)] at hrest
      obtain ⟨v, hrun, -⟩ := Except.bind_eq_ok_iff.mp hrest
      -- the stack holds the entry for the offset
      cases fuel with
      | zero => cases hrun
      | succ fuel =>
        obtain ⟨w, hbody, -⟩ := Except.bind_eq_ok_iff.mp hrun
        exact Traversal.body_nil_ne_ok hbody

/-! ## At the offset -/

/-- The pointer goes to the head, which always is there. -/
theorem Armed.atHead (h : s.Armed) : s.atHead.Armed :=
  ⟨h.armed, h.known, ⟨⟨_, rfl⟩, h.sound.parentless⟩⟩

namespace Ready

/-- The working directory is the offset, and is listed if it can be. -/
theorem listCurrentDirectory (h : Ready disk s) :
    s.filesystemReader.listCurrentDirectory disk [] =
      match disk.listing s.offsetDirectory.1 with
      | some entries => .ok (some entries, s.filesystemReader)
      | none => .error .assertion := by
  have htarget : s.filesystemReader.process.target ['.', nodeDelimeter] =
      some s.offsetDirectory.1 := rfl
  simp only [FilesystemState.listCurrentDirectory, if_pos h.armed.known, if_true, htarget,
    Option.bind_some]
  cases hlisting : disk.listing s.offsetDirectory.1 with
  | none => rfl
  | some entries =>
    have hne : entries ≠ [] := List.ne_nil_of_mem (h.disk.dots _ _ hlisting).1
    simp only [if_neg hne]

/-- A listing that can be had is read when it is gone; one that cannot fails the assertion
    on status codes. -/
theorem updateRepresentation (h : Ready disk s) (fuel : Nat) :
    s.updateRepresentation disk (fuel + 1) = match disk.listing s.offsetDirectory.1 with
      | some _ => .error .undefined
      | none => .error .assertion := by
  have hlist := h.listCurrentDirectory
  cases hlisting : disk.listing s.offsetDirectory.1 with
  | none =>
    rw [hlisting] at hlist
    simp only [InternalFilesystem.updateRepresentation, if_pos h.armed.armed, hlist, bind,
      Except.bind]
  | some entries =>
    have hne : entries ≠ [] := List.ne_nil_of_mem (h.disk.dots _ _ hlisting).1
    rw [hlisting] at hlist
    have hhead := h.armed.atHead.pathChangeInline_nil true
    have hagain : s.atHead.filesystemReader.listCurrentDirectory disk [] =
        .ok (some entries, s.filesystemReader) := hlist
    have hdown : decrement 0 = .ok (-1) := rfl
    have hup : increment (-1) = .ok 0 := rfl
    have hclimb : s.atHead.climb (0 - 0 : Int).toNat 0 = .ok (-1, s.atHead) := rfl
    simp only [InternalFilesystem.updateRepresentation, if_pos h.armed.armed, hlist, if_neg hne,
      Traversal.run, Traversal.body, hclimb, hhead, hup, hagain, rangeOfTemporary_eq_error, bind,
      Except.bind, if_true]

end Ready

/-- No update does what it is to do. -/
theorem not_updates (disk : Disk) (s : InternalFilesystem) : ¬ Updates disk s := by
  intro h
  obtain ⟨fuel, r, hok, -⟩ := h
  exact updateRepresentation_ne_ok hok

/-! ## A root that holds nothing -/

/-- A disk on which only the root can be listed, and no file can be read. -/
def rootDisk (entries : List (Name × Bool)) : Disk where
  listing d := if d = [] then some entries else none
  content _ _ := none

/-- The root holds nothing. -/
def noEntries : List (Name × Bool) := [(['.'], false), (['.', '.'], false)]

/-- The filesystem armed there is at its offset. -/
theorem ready_armedAtRoot : Ready (rootDisk noEntries) armedAtRoot.filesystem where
  armed := armedAtRoot.armed
  at_offset := armedAtRoot.at_offset
  named _ := rfl
  disk := by
    have hlisted : ∀ {d entries}, (rootDisk noEntries).listing d = some entries →
        entries = noEntries := by
      intro d entries hlisting
      simp only [rootDisk, Option.ite_none_right_eq_some, Option.some.injEq] at hlisting
      exact hlisting.2.symm
    refine ⟨fun d entries hlisting => ?_, fun d entries hlisting => ?_,
      fun d entries hlisting => ?_, fun d entries name hlisting hhas => ?_⟩
    · rw [hlisted hlisting]
      decide
    · rw [hlisted hlisting]
      decide
    · rw [hlisted hlisting]
      decide
    · have hnil : d ++ [name] = [] := of_decide_eq_true hhas
      exact absurd hnil (List.append_ne_nil_of_right_ne_nil _ (List.cons_ne_nil _ _))

/-- With nothing to enter and nothing to read the listing is read when it is gone. -/
theorem updateRepresentation_undefined_atRoot :
    (∀ fuel, armedAtRoot.filesystem.updateRepresentation (rootDisk noEntries) (fuel + 1) =
      .error .undefined) ∧
    ¬ ∀ disk s, Ready disk s → Updates disk s := by
  refine ⟨fun fuel => ready_armedAtRoot.updateRepresentation fuel, fun hall => ?_⟩
  exact not_updates _ _ (hall _ _ ready_armedAtRoot)

end InternalFilesystem

end NetworkedFS
