import NetworkedFS.ForStd.StepRun
import NetworkedFS.Native.FilesystemObject
import NetworkedFS.Spec.FileRoundTrip
import NetworkedFS.Spec.FileStatus

/-!
# A filesystem head over a whole run

Whatever is called in which order, and whatever others do in between: the head never gives a
file its content, and it never has an error to report.

## Key results

- `Did.of_step`: what a call that returns has done;
- `content_comes_from_others`: what the files hold was there at first or was put there by others;
- `only_success_is_reported`: calls that make or remove something say yes or do not return.
-/

namespace NetworkedFS

open PathName (Name)

/-- What the files of the second disk hold, they hold on the first. -/
def Disk.AddsNothing (disk disk' : Disk) : Prop :=
  ∀ place bytes, disk'.held place = some bytes → disk.held place = some bytes

/-- The system calls on directory entries may remove files, but leave what the others hold. -/
structure SystemCalls.KeepsFiles (calls : SystemCalls) : Prop where
  mkdir : ∀ (disk : Disk) process path, disk.AddsNothing (calls.mkdir disk process path).2.1
  rmdir : ∀ (disk : Disk) process path, disk.AddsNothing (calls.rmdir disk process path).2.1
  unlink : ∀ (disk : Disk) process path, disk.AddsNothing (calls.unlink disk process path).2.1

/-! ## The functions -/

namespace StatusHead

variable {view : SystemView}

theorem filesystem_of_kindExists {s s' : StatusHead} {kind : FileKind} {path : List Char}
    {result : Bool} (hok : s.kindExists view kind path = .ok (result, s')) :
    s'.filesystem = s.filesystem := by
  obtain ⟨held, -, hrest⟩ := Except.bind_eq_ok_iff.mp hok
  cases hrest
  rfl

/-- The entries of a listing are only asked for their kinds. -/
theorem filesystem_of_listEntries {currentDirectory : List Char} {names : List Name}
    {s : StatusHead} {r : List (Name × Bool) × StatusHead}
    (hok : listEntries view currentDirectory names s = .ok r) :
    r.2.filesystem = s.filesystem := by
  induction names generalizing s r with
  | nil =>
    cases hok
    rfl
  | cons name names ih =>
    rw [listEntries_cons] at hok
    split at hok
    case h_1 => cases hok
    case h_2 held _ =>
      obtain ⟨q, hq, rfl⟩ := Except.map_eq_ok_iff.mp hok
      exact (ih hq :)

/-- The error of a directory that cannot be opened fails an assertion. -/
theorem listCurrentDirectory_eq_ok {s : StatusHead} {directory : List Char}
    {r : Option (List (Name × Bool)) × StatusHead}
    (hok : s.listCurrentDirectory view directory = .ok r) :
    r.2.filesystem = s.filesystem ∧ (view.readdir (listedDirectory directory)).isSome = true := by
  unfold listCurrentDirectory at hok
  split at hok
  case isFalse => cases hok
  case isTrue =>
    simp only at hok
    split at hok
    case h_1 names hnames =>
      obtain ⟨⟨entries, s₁⟩, hentries, hrest⟩ := Except.bind_eq_ok_iff.mp hok
      cases hrest
      exact ⟨filesystem_of_listEntries hentries, Option.isSome_of_mem hnames⟩
    case h_2 =>
      obtain ⟨reader, hreport, -⟩ := Except.bind_eq_ok_iff.mp hok
      cases hreport

end StatusHead

namespace FilesystemState

/-- No status has been recorded, or the one that says `OK`. -/
def Quiet (s : FilesystemState) : Prop :=
  s.head.debugStatus = {} ∨ s.head.debugStatus = { returnCode := some 0, status := "OK" }

theorem Quiet.of_head {s s' : FilesystemState} (hs : s.Quiet) (hhead : s'.head = s.head) :
    s'.Quiet := by
  rw [Quiet, hhead]
  exact hs

/-- The one error that is recorded has the code of `OK`. -/
theorem Quiet.changeDirectory {s s' : FilesystemState} (hs : s.Quiet) {directory : List Char}
    {result : Bool} (hok : s.changeDirectory directory = .ok (result, s')) : s'.Quiet := by
  unfold FilesystemState.changeDirectory at hok
  split at hok
  case isFalse => cases hok
  case isTrue =>
    split at hok
    case isTrue => cases hok
    case isFalse =>
      simp only [setReturnCode_cannotChangeDirectory, bind, Except.bind, pure, Except.pure] at hok
      split at hok
      case isTrue =>
        cases hok
        exact hs
      case isFalse =>
        cases hok
        exact .inr rfl

theorem Quiet.stepForwardDirectory {s s' : FilesystemState} (hs : s.Quiet)
    {targetNode : List Char} {result : Bool}
    (hok : s.stepForwardDirectory targetNode = .ok (result, s')) : s'.Quiet := by
  unfold FilesystemState.stepForwardDirectory at hok
  split at hok
  case isTrue => exact hs.changeDirectory hok
  case isFalse => cases hok

theorem Quiet.stepBackDirectory {s s' : FilesystemState} (hs : s.Quiet) {stepsBackward : Int}
    {result : Bool} (hok : s.stepBackDirectory stepsBackward = .ok (result, s')) : s'.Quiet := by
  unfold FilesystemState.stepBackDirectory at hok
  split at hok
  case isFalse => cases hok
  case isTrue =>
    obtain ⟨⟨matched, left⟩, -, hrest⟩ := Except.bind_eq_ok_iff.mp hok
    simp only at hrest
    split at hrest
    case isTrue =>
      obtain ⟨⟨changed, reader⟩, hchange, hlast⟩ := Except.bind_eq_ok_iff.mp hrest
      have hreader := hs.changeDirectory hchange
      cases hlast
      exact hreader
    case isFalse =>
      cases hrest
      exact hs

theorem Quiet.setRoot {s s' : FilesystemState} (hs : s.Quiet) {root : List Char} {result : Bool}
    (hok : s.setRoot root = .ok (result, s')) : s'.Quiet := by
  unfold FilesystemState.setRoot at hok
  simp only at hok
  split at hok
  case h_1 =>
    cases hok
    exact hs
  case h_2 last _ =>
    split at hok
    case isTrue =>
      cases hok
      exact hs
    case isFalse =>
      cases hok
      exact hs

/-- A directory that is not made fails an assertion. -/
theorem makeDirectoryOn_eq_ok {calls : SystemCalls} {disk : Disk} {s : FilesystemState}
    {directory : List Char} {r : Bool × Disk × FilesystemState}
    (hok : s.makeDirectoryOn calls disk directory = .ok r) :
    r.1 = true ∧ r.2.1 = (calls.mkdir disk s.process (cString directory)).2.1 ∧
      r.2.2.head = s.head := by
  unfold makeDirectoryOn at hok
  split at hok
  case isFalse => cases hok
  case isTrue =>
    simp only at hok
    split at hok
    case isTrue =>
      cases hok
      exact ⟨rfl, rfl, rfl⟩
    case isFalse =>
      obtain ⟨reader, hreport, -⟩ := Except.bind_eq_ok_iff.mp hok
      cases hreport

/-- So does one that is not removed. -/
theorem removeDirectoryOn_eq_ok {calls : DiskCalls} {disk : Disk} {s : FilesystemState}
    {directory : List Char} {r : Bool × Disk × FilesystemState}
    (hok : s.removeDirectoryOn calls disk directory = .ok r) :
    r.1 = true ∧ r.2.1 = (calls.rmdir disk s.process (cString directory)).2.1 ∧
      r.2.2.head = s.head := by
  unfold removeDirectoryOn at hok
  split at hok
  case isFalse => cases hok
  case isTrue =>
    simp only at hok
    split at hok
    case isTrue =>
      cases hok
      exact ⟨rfl, rfl, rfl⟩
    case isFalse =>
      obtain ⟨reader, hreport, -⟩ := Except.bind_eq_ok_iff.mp hok
      cases hreport

theorem deleteFileOn_eq_ok {calls : DiskCalls} {disk : Disk} {s : FilesystemState}
    {fileName : List Char} {r : Bool × Disk × FilesystemState}
    (hok : s.deleteFileOn calls disk fileName = .ok r) :
    r.2.1 = (calls.unlink disk s.process (cString fileName)).2.1 ∧ r.2.2.head = s.head := by
  unfold deleteFileOn at hok
  split at hok
  case isFalse => cases hok
  case isTrue =>
    cases hok
    exact ⟨rfl, rfl⟩

/-- Both modes of `createFile` are modes for reading. -/
theorem createFile_eq_ok {disk : Disk} {s : FilesystemState} {fileName : List Char}
    {content : CharPointer} {isBinaryFile : Bool} {size : Int} {r : Bool × Disk}
    (hok : s.createFile disk fileName content isBinaryFile size = .ok r) : r = (true, disk) := by
  obtain ⟨mode, hmode, hrest⟩ := Except.bind_eq_ok_iff.mp hok
  obtain ⟨⟨opened, file⟩, hconstruct, hrest⟩ := Except.bind_eq_ok_iff.mp hrest
  -- both modes that `createFile` takes are for input
  have hout : mode.flags.out = false := by
    cases isBinaryFile with
    | false =>
      cases hmode
      rfl
    | true =>
      cases hmode
      rfl
  have hname := (FileDescriptor.construct_eq_ok_iff.mp hconstruct).1
  obtain ⟨reading, hreading, hwritable⟩ :=
    FileDescriptor.construct_of_not_out disk s.process hname hout
  obtain ⟨rfl, rfl⟩ := Except.unique_of_eq_ok hreading hconstruct
  simp only at hrest
  split at hrest
  case isTrue => cases hrest
  case isFalse =>
    -- whatever the size is, nothing is written
    have hdisk : ∀ count written, reading.writeFile disk content count = .ok written →
        written.1 = disk := by
      intro count written hwritten
      obtain ⟨file', hwrite⟩ :=
        FileDescriptor.writeFile_of_not_isWritable hwritable disk content count
      rw [hwrite] at hwritten
      cases hwritten
      rfl
    split at hrest
    case isTrue =>
      obtain ⟨count, -, hrest⟩ := Except.bind_eq_ok_iff.mp hrest
      obtain ⟨written, hwritten, hlast⟩ := Except.bind_eq_ok_iff.mp hrest
      rw [← hdisk count written hwritten]
      exact (Except.ok.inj hlast).symm
    case isFalse =>
      obtain ⟨count, -, hrest⟩ := Except.bind_eq_ok_iff.mp hrest
      obtain ⟨written, hwritten, hlast⟩ := Except.bind_eq_ok_iff.mp hrest
      rw [← hdisk count written hwritten]
      exact (Except.ok.inj hlast).symm

/-- What `getFile` gives is read from some file. -/
theorem getFile_eq_ok {disk : Disk} {s : FilesystemState} {fileName : List Char}
    {r : CharPointer × Int} (hok : s.getFile disk fileName = .ok r) :
    ∃ place held, disk.held place = some held ∧
      r = (CharPointer.pointsTo (FileStream.readArray held), (held.length : Int)) := by
  cases hknown : s.head.directoryKnown with
  | false =>
    obtain ⟨opened, -, hrest⟩ := Except.bind_eq_ok_iff.mp hok
    simp only [hknown] at hrest
    cases hrest
  | true =>
    rw [getFile_eq disk hknown] at hok
    cases hplace : s.trackedPlace fileName with
    | none =>
      rw [hplace] at hok
      cases hok
    | some place =>
      rw [hplace, Option.bind_some] at hok
      cases hheld : disk.held place with
      | none =>
        rw [hheld] at hok
        cases hok
      | some held =>
        rw [hheld] at hok
        cases hok
        exact ⟨place, held, hheld, rfl⟩

end FilesystemState

/-! ## One call -/

namespace FilesystemObject

/-- Others put these bytes there. -/
def Puts (op : FilesystemOp) (place : FilePlace) (bytes : List UInt8) : Prop :=
  match op with
  | .others disk _ => disk.held place = some bytes
  | _ => False

/-- Making or removing something is said to have worked, and a listed directory could be
    opened. -/
def Succeeds (calls : SystemCalls) (s : FilesystemObject) (op : FilesystemOp)
    (reply : FilesystemReply) : Prop :=
  match op with
  | .makeDirectory _ => reply = .flag true
  | .removeDirectory _ => reply = .flag true
  | .createFile .. => reply = .flag true
  | .listCurrentDirectory directory =>
    ((s.view calls).readdir (StatusHead.listedDirectory directory)).isSome = true
  | _ => True

/-- What a call that returns has done. -/
structure Did (calls : SystemCalls) (s : FilesystemObject) (op : FilesystemOp)
    (r : FilesystemReply × FilesystemObject) : Prop where
  disk : calls.KeepsFiles → ∀ place bytes, r.2.disk.held place = some bytes →
    s.disk.held place = some bytes ∨ Puts op place bytes
  quiet : s.filesystem.Quiet → r.2.filesystem.Quiet
  succeeds : Succeeds calls s op r.1
  reads : ∀ fileName, op = .getFile fileName → ∃ place bytes, s.disk.held place = some bytes ∧
    r.1 = .file (.pointsTo (FileStream.readArray bytes)) bytes.length

/-- A call on the directories, or one that does not touch the disk. -/
theorem Did.of_addsNothing {calls : SystemCalls} {s : FilesystemObject} {op : FilesystemOp}
    {r : FilesystemReply × FilesystemObject}
    (hdisk : calls.KeepsFiles → s.disk.AddsNothing r.2.disk)
    (hquiet : s.filesystem.Quiet → r.2.filesystem.Quiet) (hsucceeds : Succeeds calls s op r.1)
    (hop : ∀ fileName, op ≠ .getFile fileName) : Did calls s op r where
  disk hcalls place bytes hheld := .inl (hdisk hcalls place bytes hheld)
  quiet := hquiet
  succeeds := hsucceeds
  reads fileName heq := absurd heq (hop fileName)

/-- A call that leaves the disk alone. -/
theorem Did.of_disk_eq {calls : SystemCalls} {s : FilesystemObject} {op : FilesystemOp}
    {r : FilesystemReply × FilesystemObject} (hdisk : r.2.disk = s.disk)
    (hquiet : s.filesystem.Quiet → r.2.filesystem.Quiet) (hsucceeds : Succeeds calls s op r.1)
    (hop : ∀ fileName, op ≠ .getFile fileName) : Did calls s op r := by
  refine .of_addsNothing (fun _ place bytes hheld => ?_) hquiet hsucceeds hop
  rwa [hdisk] at hheld

/-- Each call does that. -/
theorem Did.of_step {calls : SystemCalls} {s : FilesystemObject} {op : FilesystemOp}
    {r : FilesystemReply × FilesystemObject} (hok : step calls s op = .ok r) :
    Did calls s op r := by
  cases op with
  | getDelimeter =>
    -- the delimiter is a constant
    cases hok
    exact .of_disk_eq rfl id trivial (fun _ h => by cases h)
  | fileExists path =>
    obtain ⟨q, hq, rfl⟩ := Except.map_eq_ok_iff.mp hok
    -- the status is set, and the head is left alone
    have hsame : q.2.filesystem = s.filesystem := StatusHead.filesystem_of_kindExists hq
    exact .of_disk_eq rfl (fun hs => hs.of_head (congrArg _ hsame)) trivial
      (fun _ h => by cases h)
  | directoryExists path =>
    obtain ⟨q, hq, rfl⟩ := Except.map_eq_ok_iff.mp hok
    have hsame : q.2.filesystem = s.filesystem := StatusHead.filesystem_of_kindExists hq
    exact .of_disk_eq rfl (fun hs => hs.of_head (congrArg _ hsame)) trivial
      (fun _ h => by cases h)
  | setRoot root =>
    obtain ⟨q, hq, rfl⟩ := Except.map_eq_ok_iff.mp hok
    -- the calls that move the reader, with their own lemmas about the head
    exact .of_disk_eq rfl (fun hs => hs.setRoot hq) trivial (fun _ h => by cases h)
  | changeDirectory directory =>
    obtain ⟨q, hq, rfl⟩ := Except.map_eq_ok_iff.mp hok
    exact .of_disk_eq rfl (fun hs => hs.changeDirectory hq) trivial (fun _ h => by cases h)
  | stepBackDirectory steps =>
    obtain ⟨q, hq, rfl⟩ := Except.map_eq_ok_iff.mp hok
    exact .of_disk_eq rfl (fun hs => hs.stepBackDirectory hq) trivial (fun _ h => by cases h)
  | stepForwardDirectory target =>
    obtain ⟨q, hq, rfl⟩ := Except.map_eq_ok_iff.mp hok
    exact .of_disk_eq rfl (fun hs => hs.stepForwardDirectory hq) trivial (fun _ h => by cases h)
  | manuallyRectifyDirectory directory =>
    cases hok
    exact .of_disk_eq rfl id trivial (fun _ h => by cases h)
  | listCurrentDirectory directory =>
    obtain ⟨q, hq, rfl⟩ := Except.map_eq_ok_iff.mp hok
    -- a directory that cannot be opened ends in an assertion
    obtain ⟨hsame, hopened⟩ := StatusHead.listCurrentDirectory_eq_ok hq
    exact .of_disk_eq rfl (fun hs => hs.of_head (congrArg _ hsame)) hopened
      (fun _ h => by cases h)
  | makeDirectory directory =>
    obtain ⟨q, hq, rfl⟩ := Except.map_eq_ok_iff.mp hok
    obtain ⟨hmade, hdisk, hhead⟩ := FilesystemState.makeDirectoryOn_eq_ok hq
    -- what the system makes of the directory is a matter of the calls, which put no content
    -- anywhere
    refine .of_addsNothing (fun hcalls => ?_) (fun hs => hs.of_head hhead) (congrArg _ hmade)
      (fun _ h => by cases h)
    show s.disk.AddsNothing q.2.1
    rw [hdisk]
    exact hcalls.mkdir _ _ _
  | removeDirectory directory =>
    obtain ⟨q, hq, rfl⟩ := Except.map_eq_ok_iff.mp hok
    obtain ⟨hremoved, hdisk, hhead⟩ := FilesystemState.removeDirectoryOn_eq_ok hq
    refine .of_addsNothing (fun hcalls => ?_) (fun hs => hs.of_head hhead)
      (congrArg _ hremoved) (fun _ h => by cases h)
    show s.disk.AddsNothing q.2.1
    rw [hdisk]
    exact hcalls.rmdir _ _ _
  | createFile name content isBinary size =>
    obtain ⟨q, hq, rfl⟩ := Except.map_eq_ok_iff.mp hok
    -- the file is opened for input, and nothing is written
    rw [FilesystemState.createFile_eq_ok hq]
    exact .of_disk_eq rfl id rfl (fun _ h => by cases h)
  | getFile name =>
    obtain ⟨q, hq, rfl⟩ := Except.map_eq_ok_iff.mp hok
    obtain ⟨place, held, hheld, rfl⟩ := FilesystemState.getFile_eq_ok hq
    -- the one call that gives back what a file holds
    exact ⟨fun _ _ _ h => .inl h, id, trivial, fun _ _ => ⟨place, held, hheld, rfl⟩⟩
  | deleteFile name =>
    obtain ⟨q, hq, rfl⟩ := Except.map_eq_ok_iff.mp hok
    obtain ⟨hdisk, hhead⟩ := FilesystemState.deleteFileOn_eq_ok hq
    refine .of_addsNothing (fun hcalls => ?_) (fun hs => hs.of_head hhead) trivial
      (fun _ h => by cases h)
    show s.disk.AddsNothing q.2.1
    rw [hdisk]
    exact hcalls.unlink _ _ _
  | others disk process =>
    cases hok
    -- whatever is there now others have put there
    exact ⟨fun _ _ _ h => .inr h, id, trivial, fun _ h => by cases h⟩

/-! ## Runs -/

/-- Whatever the calls on a head are, and whatever others do in between: what a file holds it
    held at first, or others have put it there.  So nothing else is ever read through the head. -/
theorem content_comes_from_others {calls : SystemCalls} (hcalls : calls.KeepsFiles)
    (s : FilesystemObject) (ops : List FilesystemOp) :
    let source : FilePlace → List UInt8 → Prop := fun place bytes =>
      s.disk.held place = some bytes ∨ ∃ op ∈ ops, Puts op place bytes
    (∀ t ∈ StepRun.visited (step calls) s ops, ∀ place bytes,
      t.disk.held place = some bytes → source place bytes) ∧
    ∀ c ∈ StepRun.calls (step calls) s ops, ∀ r, step calls c.1 c.2 = .ok r →
      ∀ fileName, c.2 = .getFile fileName → ∃ place bytes, source place bytes ∧
        r.1 = .file (.pointsTo (FileStream.readArray bytes)) bytes.length := by
  intro source
  let Known : FilesystemObject → Prop := fun t =>
    ∀ place bytes, t.disk.held place = some bytes → source place bytes
  -- what is known of the disk holds at first, and every step keeps it
  have hinit : Known s := fun place bytes hheld => .inl hheld
  have hstep : ∀ t op r, Known t → op ∈ ops → step calls t op = .ok r →
      Known r.2 ∧ ∀ fileName, op = .getFile fileName → ∃ place bytes, source place bytes ∧
        r.1 = .file (.pointsTo (FileStream.readArray bytes)) bytes.length := by
    intro t op r ht hop hok
    have hdid := Did.of_step hok
    constructor
    · intro place bytes hheld
      -- a content is old, or the step itself has put it there
      cases hdid.disk hcalls place bytes hheld with
      | inl hold => exact ht place bytes hold
      | inr hputs => exact .inr ⟨op, hop, hputs⟩
    · intro fileName heq
      obtain ⟨place, bytes, hheld, hreply⟩ := hdid.reads fileName heq
      exact ⟨place, bytes, ht place bytes hheld, hreply⟩
  constructor
  · exact StepRun.forall_visited_of_ops (P := fun op => op ∈ ops)
      (fun t op o t' ht hop hok => (hstep t op (o, t') ht hop hok).1) hinit fun op hop => hop
  · exact StepRun.forall_calls_of_ops (P := fun op => op ∈ ops) hstep hinit fun op hop => hop

/-- System calls on directory entries that do nothing, where no path exists. -/
def idleCalls : SystemCalls where
  rmdir disk process _ := (0, disk, process)
  unlink disk process _ := (0, disk, process)
  mkdir disk process _ := (0, disk, process)
  view _ _ := { stat := fun _ => none, readdir := fun _ => none }

theorem keepsFiles_idleCalls : idleCalls.KeepsFiles where
  mkdir _ _ _ _ _ hheld := hheld
  rmdir _ _ _ _ _ hheld := hheld
  unlink _ _ _ _ _ hheld := hheld

/-- At the root of a disk without files. -/
def atRootBlank : FilesystemObject where
  status := { filesystem := .atRoot }
  disk := FilesystemState.blankDisk

/-- A file is created and asked for. -/
def createAndGet : List FilesystemOp :=
  [.createFile ['f'] (.ofBytes [104, 105]) true 2, .getFile ['f']]

/-- The first call returns, and on a blank disk there is no file afterwards. -/
theorem content_comes_from_others_created :
    (StepRun.outputs (step idleCalls) atRootBlank createAndGet).length = 1 ∧
      ∀ t ∈ StepRun.visited (step idleCalls) atRootBlank createAndGet,
        ∀ place, t.disk.held place = none := by
  refine ⟨rfl, ?_⟩
  intro t ht place
  cases hheld : t.disk.held place with
  | none => rfl
  | some bytes =>
    have hsource := (content_comes_from_others keepsFiles_idleCalls atRootBlank createAndGet).1 t ht
      place bytes hheld
    cases hsource with
    | inl hfirst => cases hfirst
    | inr hputs =>
      obtain ⟨op, hop, hputs⟩ := hputs
      simp only [createAndGet, List.mem_cons, List.not_mem_nil, or_false] at hop
      cases hop with
      | inl hcreate => rw [hcreate] at hputs; exact hputs.elim
      | inr hget => rw [hget] at hputs; exact hputs.elim

/-- In a run from the constructor a head never has a status other than `OK`, and the calls
    that make or remove something, or list a directory, never say that they failed. -/
theorem only_success_is_reported (calls : SystemCalls) (disk : Disk) (process : Process)
    (directory : List Char) (ops : List FilesystemOp) :
    (∀ t ∈ StepRun.visited (step calls) (construct disk process directory) ops,
      t.filesystem.Quiet) ∧
    ∀ c ∈ StepRun.calls (step calls) (construct disk process directory) ops, ∀ r,
      step calls c.1 c.2 = .ok r → Succeeds calls c.1 c.2 r.1 := by
  have hinit : (construct disk process directory).filesystem.Quiet := .inl rfl
  constructor
  · exact StepRun.forall_visited_of_ops (I := fun t => t.filesystem.Quiet) (P := fun _ => True)
      (fun t op o t' ht _ hok => (Did.of_step hok).quiet ht) hinit fun _ _ => trivial
  · intro c _ r hok
    exact (Did.of_step hok).succeeds

end FilesystemObject

end NetworkedFS
