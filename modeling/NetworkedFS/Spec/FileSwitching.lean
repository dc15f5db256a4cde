import Mathlib.Data.List.TakeDrop
import Mathlib.Logic.Function.Basic
import NetworkedFS.Spec.FileRoundTrip

/-!
# Switching a descriptor to another file or mode

A descriptor is to append what it is given to the file whose name was set last, as an
`IntendedFile` does.  Its one stream is never closed, so a switch of an open descriptor does not
open the other file: the stream fails, and from then on it takes nothing.

## Key results

- `getFileDescriptor_enters_iff`: when opening a file truncates what is to be truncated;
- `lands_iff`: the calls after which the files hold what they are to hold;
- `runLands_iff`: the runs all of whose calls do;
- `intended_final`: what the files hold after such a run;
- `disk_of_switched`: after a switch of an open descriptor no call changes the disk.
-/

namespace NetworkedFS

/-- The bytes of a file; a file that is not there has none. -/
def Disk.contents (disk : Disk) (place : FilePlace) : List UInt8 := (disk.held place).getD []

theorem Disk.contents_store (disk : Disk) (place : FilePlace) (bytes : List UInt8) :
    (disk.store place bytes).contents = Function.update disk.contents place bytes := by
  funext other
  by_cases hplace : other = place
  · rw [hplace, Function.update_self, Disk.contents, Disk.held_store]
    rfl
  · rw [Function.update_of_ne hplace, Disk.contents, Disk.held_store_of_ne hplace, Disk.contents]

/-! ## What is intended -/

/-- The calls on a descriptor that switch it or write. -/
inductive DescriptorCall where
  | modifyMode (mode : FileMode)
  | repurpose (name : List Char)
  | repurposeMode (name : List Char) (mode : FileMode)
  | writeFile (data : List UInt8)
  deriving DecidableEq, Repr

/-- The name and the mode that were set last, and the bytes of all files. -/
structure IntendedFile where
  fileName : List Char
  fileMode : FileMode
  contents : FilePlace → List UInt8

namespace IntendedFile

/-- The mode `truncate` empties the file of the name. -/
def enter (process : Process) (file : IntendedFile) : IntendedFile :=
  match file.fileMode, process.place file.fileName with
  | .truncate, some place =>
    { file with contents := Function.update file.contents place [] }
  | _, _ => file

/-- The bytes go behind those of the file of the name, which has to lead somewhere. -/
def append (process : Process) (file : IntendedFile) (data : List UInt8) : Option IntendedFile :=
  (process.place file.fileName).map fun place =>
    { file with contents := Function.update file.contents place (file.contents place ++ data) }

/-- What a call is to do.  In the modes that read nothing is written. -/
def step (process : Process) (file : IntendedFile) : DescriptorCall → Option IntendedFile
  | .modifyMode mode => some ({ file with fileMode := mode }.enter process)
  | .repurpose name => some ({ file with fileName := name }.enter process)
  | .repurposeMode name mode =>
    some ({ file with fileName := name, fileMode := mode }.enter process)
  | .writeFile data =>
    match file.fileMode with
    | .append | .truncate => file.append process data
    | .in_ | .binary => some file

end IntendedFile

/-! ## Descriptors at work -/

/-- A descriptor, the disk and the process. -/
structure FileWork where
  disk : Disk
  process : Process
  file : FileDescriptor

namespace FileWork

/-- The work goes on with another disk and descriptor. -/
def continueWith (w : FileWork) (r : Disk × FileDescriptor) : FileWork :=
  { w with disk := r.1, file := r.2 }

/-- The stream has been given some bytes. -/
def written (w : FileWork) (data : List UInt8) : FileWork :=
  w.continueWith ((w.file.fileInstance.write w.disk data).1,
    { w.file with fileInstance := (w.file.fileInstance.write w.disk data).2 })

def step (w : FileWork) : DescriptorCall → Except Fault (Unit × FileWork)
  | .modifyMode mode => .ok ((), w.continueWith (w.file.modifyMode w.disk w.process mode))
  | .repurpose name =>
    (w.file.repurpose w.disk w.process name).map fun r => ((), w.continueWith r)
  | .repurposeMode name mode =>
    (w.file.repurposeMode w.disk w.process name mode).map fun r => ((), w.continueWith r)
  | .writeFile data =>
    (w.file.writeFile w.disk (.ofBytes data) data.length).map fun r => ((), w.continueWith r)

/-- The intention behind a state. -/
def intended (w : FileWork) : IntendedFile where
  fileName := w.file.fileName
  fileMode := w.file.fileMode
  contents := w.disk.contents

/-- A call does what is intended.  The assertion that there is a name stops it before it does
    anything. -/
def Lands (w : FileWork) (call : DescriptorCall) : Prop :=
  match w.step call with
  | .ok (_, w') => w.intended.step w.process call = some w'.intended
  | .error .assertion => True
  | .error _ => False

/-- Opening the file truncates it in the mode `truncate`, or there is nothing to truncate. -/
def CanEnter (disk : Disk) (process : Process) (file : FileDescriptor) : Prop :=
  file.fileMode = .truncate → ∀ place, process.place file.fileName = some place →
    disk.contents place = [] ∨
      file.fileInstance.file = none ∧ disk.opensForOutput place = true

/-- There is nothing to write, or the stream takes all of it. -/
def CanWrite (w : FileWork) (data : List UInt8) : Prop :=
  ∃ place, w.process.place w.file.fileName = some place ∧
    (data = [] ∨ w.file.fileInstance.isWritable = true ∧ data.length ≤ w.disk.takes place data)

/-- The condition under which a call does what is intended. -/
def CanLand (w : FileWork) : DescriptorCall → Prop
  | .modifyMode mode => CanEnter w.disk w.process { w.file with fileMode := mode }
  | .repurpose name =>
    w.file.fileName = [] ∨ CanEnter w.disk w.process { w.file with fileName := name }
  | .repurposeMode name mode =>
    w.file.fileName = [] ∨
      CanEnter w.disk w.process { w.file with fileName := name, fileMode := mode }
  | .writeFile data => w.file.fileMode.flags.out = true → w.CanWrite data

/-- A stream that has not failed is open on the file of the name in the mode, and one that was
    truncated is at the end of its file. -/
def Sound (w : FileWork) : Prop :=
  ∀ place flags, w.file.fileInstance.file = some (place, flags) →
    w.file.fileInstance.failed = false →
    w.process.place w.file.fileName = some place ∧ flags = w.file.fileMode.flags ∧
      (w.file.fileMode = .truncate →
        w.file.fileInstance.position = (w.disk.contents place).length)

/-! ## Opening -/

/-- A stream that is open is not opened again: it fails. -/
theorem openFile_of_open {stream : FileStream} (hopen : stream.file ≠ none) (disk : Disk)
    (process : Process) (path : List Char) (flags : OpenFlags) :
    stream.openFile disk process path flags = (disk, { stream with failed := true }) :=
  if_pos (Option.isSome_iff_ne_none.mpr hopen)

/-- How a file is not opened: the disk is left as it is, and the stream has failed. -/
structure NotOpened (disk : Disk) (process : Process) (stream : FileStream) (path : List Char)
    (mode : FileMode) : Prop where
  result : stream.openFile disk process path mode.flags = (disk, { stream with failed := true })
  cannotTruncate : mode = .truncate → ∀ place, process.place path = some place →
    ¬ (stream.file = none ∧ disk.opensForOutput place = true)

/-- How a file is opened: the stream is at its start, and only the mode `truncate` takes bytes
    away. -/
structure Opened (disk : Disk) (process : Process) (stream : FileStream) (path : List Char)
    (mode : FileMode) (place : FilePlace) : Prop where
  closed : stream.file = none
  leads : process.place path = some place
  result : (stream.openFile disk process path mode.flags).2 = { file := some (place, mode.flags) }
  canTruncate : mode = .truncate → disk.opensForOutput place = true
  contents : (stream.openFile disk process path mode.flags).1.contents =
    if mode = .truncate then Function.update disk.contents place [] else disk.contents
  others : ∀ other, other ≠ place →
    (stream.openFile disk process path mode.flags).1.held other = disk.held other

/-- A file is opened or not. -/
theorem openFile_cases (disk : Disk) (process : Process) (stream : FileStream) (path : List Char)
    (mode : FileMode) : NotOpened disk process stream path mode ∨
      ∃ place, Opened disk process stream path mode place := by
  by_cases hopen : stream.file = none
  · have hclosed : ¬ stream.file.isSome = true := by simp [hopen]
    cases hplace : process.place path with
    | none =>
      refine .inl ⟨?_, fun _ other hother => ?_⟩
      · simp only [FileStream.openFile, if_neg hclosed, hplace]
      · rw [hplace] at hother
        cases hother
    | some place =>
      by_cases hout : mode.flags.out = true
      · by_cases hopens : disk.opensForOutput place = true
        -- the file is there afterwards, with its bytes unless they are truncated
        · refine .inr ⟨place, hopen, hplace, ?_, fun _ => hopens, ?_, fun other hother => ?_⟩
          · simp only [FileStream.openFile, if_neg hclosed, hplace, if_pos hout, if_pos hopens]
          · simp only [FileStream.openFile, if_neg hclosed, hplace, if_pos hout, if_pos hopens,
              Disk.contents_store]
            cases mode with
            | append => exact Function.update_eq_self place disk.contents
            | truncate => rfl
            | in_ => cases hout
            | binary => cases hout
          · simp only [FileStream.openFile, if_neg hclosed, hplace, if_pos hout, if_pos hopens]
            exact Disk.held_store_of_ne hother
        · refine .inl ⟨?_, fun _ other hother hcan => ?_⟩
          · simp only [FileStream.openFile, if_neg hclosed, hplace, if_pos hout, if_neg hopens]
          · rw [hplace] at hother
            cases hother
            exact hopens hcan.2
      · have hmode : mode ≠ .truncate := fun h => hout (by rw [h]; rfl)
        by_cases hheld : (disk.held place).isSome = true
        · refine .inr ⟨place, hopen, hplace, ?_, fun h => absurd h hmode, ?_, fun other _ => ?_⟩
          · simp only [FileStream.openFile, if_neg hclosed, hplace, if_neg hout, if_pos hheld]
          · simp only [FileStream.openFile, if_neg hclosed, hplace, if_neg hout, if_pos hheld,
              if_neg hmode]
          · simp only [FileStream.openFile, if_neg hclosed, hplace, if_neg hout, if_pos hheld]
        · refine .inl ⟨?_, fun h => absurd h hmode⟩
          simp only [FileStream.openFile, if_neg hclosed, hplace, if_neg hout, if_neg hheld]
  · exact .inl ⟨openFile_of_open hopen disk process path mode.flags, fun _ _ _ hcan => hopen hcan.1⟩

/-- Opening does what is intended exactly when it can. -/
theorem getFileDescriptor_enters_iff (disk : Disk) (process : Process) (file : FileDescriptor) :
    IntendedFile.enter process ⟨file.fileName, file.fileMode, disk.contents⟩ =
        ⟨file.fileName, file.fileMode, (file.getFileDescriptor disk process).1.contents⟩ ↔
      CanEnter disk process file := by
  have hdisk : (file.getFileDescriptor disk process).1 =
      (file.fileInstance.openFile disk process file.fileName file.fileMode.flags).1 := rfl
  rw [hdisk]
  by_cases hmode : file.fileMode = .truncate
  · cases openFile_cases disk process file.fileInstance file.fileName file.fileMode with
    | inl hnot =>
      rw [hnot.result]
      cases hplace : process.place file.fileName with
      | none => simp [IntendedFile.enter, CanEnter, hmode, hplace]
      | some place =>
        have hcannot := hnot.cannotTruncate hmode place hplace
        have hcan : CanEnter disk process file ↔ disk.contents place = [] := by
          simp [CanEnter, hmode, hplace, hcannot]
        rw [hcan]
        simp only [IntendedFile.enter, hmode, hplace, IntendedFile.mk.injEq, true_and,
          Function.update_eq_self_iff]
        exact eq_comm
    | inr hopened =>
      obtain ⟨place, hopened⟩ := hopened
      have hopens := hopened.canTruncate hmode
      rw [hopened.contents, if_pos hmode]
      simp [IntendedFile.enter, CanEnter, hmode, hopened.leads, hopened.closed, hopens]
  -- in the other modes no file has other bytes afterwards
  · have hsame : (file.fileInstance.openFile disk process file.fileName
        file.fileMode.flags).1.contents = disk.contents := by
      cases openFile_cases disk process file.fileInstance file.fileName file.fileMode with
      | inl hnot => rw [hnot.result]
      | inr hopened =>
        obtain ⟨place, hopened⟩ := hopened
        rw [hopened.contents, if_neg hmode]
    rw [hsame]
    refine iff_of_true ?_ fun h => absurd h hmode
    cases hm : file.fileMode with
    | append => rfl
    | truncate => exact absurd hm hmode
    | in_ => rfl
    | binary => rfl

/-- After opening, the stream is on the file of the name or has failed. -/
theorem sound_getFileDescriptor (w : FileWork) (file : FileDescriptor) :
    (w.continueWith (file.getFileDescriptor w.disk w.process)).Sound := by
  intro place flags hfile hfailed
  have hfile : (file.fileInstance.openFile w.disk w.process file.fileName
    file.fileMode.flags).2.file = some (place, flags) := hfile
  have hfailed : (file.fileInstance.openFile w.disk w.process file.fileName
    file.fileMode.flags).2.failed = false := hfailed
  cases openFile_cases w.disk w.process file.fileInstance file.fileName file.fileMode with
  | inl hnot =>
    rw [hnot.result] at hfailed
    cases hfailed
  | inr hopened =>
    obtain ⟨other, hopened⟩ := hopened
    rw [hopened.result] at hfile
    cases hfile
    refine ⟨hopened.leads, rfl, fun htruncate => ?_⟩
    have htruncate : file.fileMode = .truncate := htruncate
    have hcontents := hopened.contents
    rw [if_pos htruncate] at hcontents
    show (file.fileInstance.openFile w.disk w.process file.fileName
        file.fileMode.flags).2.position =
      ((file.fileInstance.openFile w.disk w.process file.fileName
        file.fileMode.flags).1.contents place).length
    rw [hopened.result, hcontents, Function.update_self]
    rfl

/-! ## Writing -/

/-- Bytes that are written at the end of a file go behind the others. -/
theorem writeAt_length (held data : List UInt8) :
    writeAt held held.length data = held ++ data := by
  simp [writeAt]

/-- What a writable stream writes goes behind the bytes of the file of the name. -/
theorem write_of_isWritable {w : FileWork} (hw : w.Sound)
    (hwritable : w.file.fileInstance.isWritable = true) (data : List UInt8) :
    ∃ place, w.process.place w.file.fileName = some place ∧
      let taken := data.take (w.disk.takes place data)
      (w.file.fileInstance.write w.disk data).1.contents =
          Function.update w.disk.contents place (w.disk.contents place ++ taken) ∧
        (w.file.fileInstance.write w.disk data).2 = { w.file.fileInstance with
          position := (w.disk.contents place).length + taken.length
          failed := decide (taken.length < data.length) } := by
  have hwritable' := hwritable
  rw [FileStream.isWritable, Bool.and_eq_true, Bool.not_eq_true'] at hwritable
  obtain ⟨hfailed, hany⟩ := hwritable
  cases hfile : w.file.fileInstance.file with
  | none =>
    rw [hfile] at hany
    cases hany
  | some r =>
    obtain ⟨place, flags⟩ := r
    obtain ⟨hplace, hflags, hend⟩ := hw place flags hfile hfailed
    rw [hfile, Option.any_some] at hany
    -- in both modes that write, the position is the end of the file
    have hposition : (if flags.app then ((w.disk.held place).getD []).length
        else w.file.fileInstance.position) = (w.disk.contents place).length := by
      rw [hflags] at hany ⊢
      cases hmode : w.file.fileMode with
      | append => rfl
      | truncate => exact hend hmode
      | in_ =>
        rw [hmode] at hany
        cases hany
      | binary =>
        rw [hmode] at hany
        cases hany
    refine ⟨place, hplace, ?_⟩
    simp only [FileStream.write, hfile, hwritable', if_true, hposition]
    refine ⟨?_, trivial⟩
    rw [Disk.contents_store]
    exact congrArg _ (writeAt_length (w.disk.contents place) _)

/-- What has failed stays so. -/
theorem FileStream.refuse_of_failed {stream : FileStream} (h : stream.failed = true) (size : Int) :
    stream.refuse size = stream := by
  obtain ⟨file, position, failed⟩ := stream
  cases h
  rfl

theorem FileStream.isWritable_refuse {stream : FileStream} (h : stream.isWritable = false)
    (size : Int) : (stream.refuse size).isWritable = false := by
  cases hfailed : stream.failed with
  | true => rw [refuse_of_failed hfailed, h]
  | false =>
    rw [FileStream.isWritable, hfailed, Bool.not_false, Bool.true_and] at h
    rw [FileStream.isWritable]
    exact Bool.and_eq_false_iff.mpr (.inr h)

/-- Another stream takes nothing. -/
theorem write_of_not_isWritable {stream : FileStream} (h : stream.isWritable = false)
    (disk : Disk) (data : List UInt8) :
    stream.write disk data = (disk, stream.refuse data.length) := by
  unfold FileStream.write
  cases hfile : stream.file with
  | none => rfl
  | some r => simp only [h, Bool.false_eq_true, if_false]

/-- A write of bytes that can be read always returns. -/
theorem writeFile_of_load (w : FileWork) {custom : CharPointer} {data : List UInt8}
    (hload : custom.load data.length = .ok data) :
    w.file.writeFile w.disk custom data.length =
      .ok ((w.written data).disk, (w.written data).file) := by
  cases hwritable : w.file.fileInstance.isWritable with
  | true =>
    have hsize : ¬ (data.length : Int) < 0 := by omega
    simp only [FileDescriptor.writeFile, hwritable, if_true, if_neg hsize, Int.toNat_natCast, hload,
      bind, Except.bind, pure, Except.pure]
    rfl
  | false =>
    simp only [FileDescriptor.writeFile, hwritable, Bool.false_eq_true, if_false, written,
      continueWith, write_of_not_isWritable hwritable]

theorem step_writeFile (w : FileWork) (data : List UInt8) :
    w.step (.writeFile data) = .ok ((), w.written data) := by
  rw [step, w.writeFile_of_load (CharPointer.load_ofBytes data)]
  rfl

/-- A write in a mode that writes does what is intended exactly when it can. -/
theorem append_iff_canWrite {w : FileWork} (hw : w.Sound) (data : List UInt8) :
    w.intended.append w.process data =
        some ⟨w.file.fileName, w.file.fileMode,
          (w.file.fileInstance.write w.disk data).1.contents⟩ ↔
      w.CanWrite data := by
  cases hwritable : w.file.fileInstance.isWritable with
  | true =>
    obtain ⟨place, hplace, hcontents, -⟩ := write_of_isWritable hw hwritable data
    have hname : w.process.place w.intended.fileName = some place := hplace
    rw [hcontents, IntendedFile.append, hname, Option.map_some, Option.some.injEq,
      IntendedFile.mk.injEq]
    -- all bytes have to be taken
    have htaken : data.take (w.disk.takes place data) = data ↔
        data.length ≤ w.disk.takes place data := by
      rw [List.take_eq_self_iff]
    have hcan : w.CanWrite data ↔ data.length ≤ w.disk.takes place data := by
      simp only [CanWrite, hplace, Option.some.injEq, exists_eq_left', hwritable, true_and]
      refine ⟨fun h => ?_, .inr⟩
      cases h with
      | inl hnil =>
        rw [hnil]
        exact Nat.zero_le _
      | inr hle => exact hle
    rw [hcan, ← htaken]
    constructor
    · intro h
      have hsame := congrFun h.2.2 place
      rw [Function.update_self, Function.update_self] at hsame
      exact (List.append_cancel_left hsame).symm
    · intro h
      rw [h]
      exact ⟨rfl, rfl, rfl⟩
  -- nothing is taken, so there must not be anything
  | false =>
    rw [write_of_not_isWritable hwritable, IntendedFile.append]
    cases hplace : w.process.place w.file.fileName with
    | none =>
      have hname : w.process.place w.intended.fileName = none := hplace
      rw [hname]
      simp [CanWrite, hplace]
    | some place =>
      have hname : w.process.place w.intended.fileName = some place := hplace
      rw [hname]
      simp [CanWrite, hplace, hwritable, intended]

/-- After a write the stream is at the end of its file, or has failed. -/
theorem sound_written {w : FileWork} (hw : w.Sound) (data : List UInt8) :
    (w.written data).Sound := by
  intro other flags hfile hfailed
  have hfile : (w.file.fileInstance.write w.disk data).2.file = some (other, flags) := hfile
  have hfailed : (w.file.fileInstance.write w.disk data).2.failed = false := hfailed
  cases hwritable : w.file.fileInstance.isWritable with
  -- only if there was nothing to write, and then the stream is where it was
  | false =>
    rw [write_of_not_isWritable hwritable] at hfile hfailed
    rw [written, write_of_not_isWritable hwritable]
    exact hw other flags hfile (Bool.or_eq_false_iff.mp hfailed).1
  | true =>
    obtain ⟨place, hplace, hcontents, hstream⟩ := write_of_isWritable hw hwritable data
    rw [hstream] at hfile
    have hgood : w.file.fileInstance.failed = false := by
      rw [FileStream.isWritable, Bool.and_eq_true, Bool.not_eq_true'] at hwritable
      exact hwritable.1
    obtain ⟨hother, hflags, -⟩ := hw other flags hfile hgood
    have heq : place = other := Option.some.inj (hplace.symm.trans hother)
    subst heq
    refine ⟨hplace, hflags, fun _ => ?_⟩
    show (w.file.fileInstance.write w.disk data).2.position =
      ((w.file.fileInstance.write w.disk data).1.contents place).length
    rw [hstream, hcontents, Function.update_self, List.length_append]

/-! ## Runs -/

theorem eq_of_repurpose_eq_ok {file : FileDescriptor} {disk : Disk} {process : Process}
    {name : List Char} {r : Disk × FileDescriptor}
    (h : file.repurpose disk process name = .ok r) :
    r = { file with fileName := name }.getFileDescriptor disk process := by
  unfold FileDescriptor.repurpose at h
  split at h
  · cases h
  · exact (Except.ok.inj h).symm

theorem eq_of_repurposeMode_eq_ok {file : FileDescriptor} {disk : Disk} {process : Process}
    {name : List Char} {mode : FileMode} {r : Disk × FileDescriptor}
    (h : file.repurposeMode disk process name mode = .ok r) :
    r = { file with fileName := name, fileMode := mode }.getFileDescriptor disk process := by
  unfold FileDescriptor.repurposeMode at h
  split at h
  · cases h
  · exact (Except.ok.inj h).symm

/-- A call opens the stream with another name or mode, or writes to it. -/
theorem step_cases {w w' : FileWork} {call : DescriptorCall} (h : w.step call = .ok ((), w')) :
    (∃ file : FileDescriptor, file.fileInstance = w.file.fileInstance ∧
      w' = w.continueWith (file.getFileDescriptor w.disk w.process)) ∨
    ∃ data, w' = w.written data := by
  cases call with
  | modifyMode mode =>
    cases h
    exact .inl ⟨{ w.file with fileMode := mode }, rfl, rfl⟩
  | repurpose name =>
    obtain ⟨r, hr, h⟩ := Except.map_eq_ok_iff.mp h
    cases h
    exact .inl ⟨{ w.file with fileName := name }, rfl, by rw [eq_of_repurpose_eq_ok hr]⟩
  | repurposeMode name mode =>
    obtain ⟨r, hr, h⟩ := Except.map_eq_ok_iff.mp h
    cases h
    exact .inl ⟨{ w.file with fileName := name, fileMode := mode }, rfl,
      by rw [eq_of_repurposeMode_eq_ok hr]⟩
  | writeFile data =>
    rw [step_writeFile] at h
    cases h
    exact .inr ⟨data, rfl⟩

/-- Every call leaves a sound state. -/
theorem sound_step {w w' : FileWork} {call : DescriptorCall} (hw : w.Sound)
    (h : w.step call = .ok ((), w')) : w'.Sound := by
  cases step_cases h with
  | inl hopened =>
    obtain ⟨file, -, hw'⟩ := hopened
    rw [hw']
    exact sound_getFileDescriptor w file
  | inr hwritten =>
    obtain ⟨data, hw'⟩ := hwritten
    rw [hw']
    exact sound_written hw data

/-- A call leaves the process alone. -/
theorem process_step {w w' : FileWork} {call : DescriptorCall} (h : w.step call = .ok ((), w')) :
    w'.process = w.process := by
  cases step_cases h with
  | inl hopened =>
    obtain ⟨file, -, hw'⟩ := hopened
    rw [hw']
    rfl
  | inr hwritten =>
    obtain ⟨data, hw'⟩ := hwritten
    rw [hw']
    rfl

/-- A call that returns is judged by what it leaves. -/
theorem lands_of_ok {w w' : FileWork} {call : DescriptorCall} (h : w.step call = .ok ((), w')) :
    w.Lands call ↔ w.intended.step w.process call = some w'.intended := by
  rw [Lands, h]

theorem lands_of_assertion {w : FileWork} {call : DescriptorCall}
    (h : w.step call = .error .assertion) : w.Lands call := by
  rw [Lands, h]
  trivial

/-- A switch to what `file` says does what is intended exactly when the file can be entered. -/
theorem lands_of_switch {w : FileWork} {call : DescriptorCall} {file : FileDescriptor}
    (hstep : w.step call = .ok ((), w.continueWith (file.getFileDescriptor w.disk w.process)))
    (hintended : w.intended.step w.process call =
      some (IntendedFile.enter w.process ⟨file.fileName, file.fileMode, w.disk.contents⟩)) :
    w.Lands call ↔ CanEnter w.disk w.process file := by
  rw [lands_of_ok hstep, hintended, Option.some.injEq]
  exact getFileDescriptor_enters_iff w.disk w.process file

/-- What is intended of a write depends on whether the mode writes. -/
theorem intended_step_writeFile (w : FileWork) (data : List UInt8) :
    w.intended.step w.process (.writeFile data) =
      if w.file.fileMode.flags.out = true then w.intended.append w.process data
      else some w.intended := by
  have hmode : w.intended.fileMode = w.file.fileMode := rfl
  rw [IntendedFile.step, hmode]
  cases w.file.fileMode with
  | append => rfl
  | truncate => rfl
  | in_ => rfl
  | binary => rfl

theorem lands_writeFile_of_out {w : FileWork} (hw : w.Sound)
    (hout : w.file.fileMode.flags.out = true) (data : List UInt8) :
    w.Lands (.writeFile data) ↔ w.CanWrite data := by
  rw [lands_of_ok (step_writeFile w data), intended_step_writeFile, if_pos hout]
  exact append_iff_canWrite hw data

/-- A sound stream is not writable in a mode that reads. -/
theorem lands_writeFile_of_not_out {w : FileWork} (hw : w.Sound)
    (hout : ¬ w.file.fileMode.flags.out = true) (data : List UInt8) :
    w.Lands (.writeFile data) := by
  have hreads : w.file.fileMode.flags.out = false := by simpa using hout
  have hwritable : w.file.fileInstance.isWritable = false := by
    rw [FileStream.isWritable]
    cases hfailed : w.file.fileInstance.failed with
    | true => rfl
    | false =>
      cases hfile : w.file.fileInstance.file with
      | none => rfl
      | some r =>
        have hflags := (hw r.1 r.2 hfile hfailed).2.1
        rw [Option.any_some, hflags, hreads]
        rfl
  rw [lands_of_ok (step_writeFile w data), intended_step_writeFile, if_neg hout, written,
    write_of_not_isWritable hwritable]
  rfl

/-- A call of a sound descriptor does what is intended exactly when it can. -/
theorem lands_iff {w : FileWork} (hw : w.Sound) (call : DescriptorCall) :
    w.Lands call ↔ w.CanLand call := by
  cases call with
  | modifyMode mode => exact lands_of_switch rfl rfl
  | repurpose name =>
    -- an empty name fails the assertion, and there is nothing to land on
    by_cases hname : w.file.fileName = []
    · have hstep : w.step (.repurpose name) = .error .assertion :=
        congrArg (Except.map _) (if_pos hname)
      exact iff_of_true (lands_of_assertion hstep) (.inl hname)
    · have hstep : w.step (.repurpose name) = .ok ((), w.continueWith
          ({ w.file with fileName := name }.getFileDescriptor w.disk w.process)) :=
        congrArg (Except.map _) (if_neg hname)
      exact (lands_of_switch hstep rfl).trans (or_iff_right hname).symm
  | repurposeMode name mode =>
    by_cases hname : w.file.fileName = []
    · have hstep : w.step (.repurposeMode name mode) = .error .assertion :=
        congrArg (Except.map _) (if_pos hname)
      exact iff_of_true (lands_of_assertion hstep) (.inl hname)
    · have hstep : w.step (.repurposeMode name mode) = .ok ((), w.continueWith
          ({ w.file with fileName := name, fileMode := mode }.getFileDescriptor w.disk
            w.process)) :=
        congrArg (Except.map _) (if_neg hname)
      exact (lands_of_switch hstep rfl).trans (or_iff_right hname).symm
  | writeFile data =>
    -- a stream that is not for output is not writable
    by_cases hout : w.file.fileMode.flags.out = true
    · exact (lands_writeFile_of_out hw hout data).trans (imp_iff_right hout).symm
    · exact iff_of_true (lands_writeFile_of_not_out hw hout data) fun h => absurd h hout

/-- The constructor opens the file as a switch of a new descriptor would. -/
def CanConstruct (disk : Disk) (process : Process) (name : List Char) (mode : FileMode) : Prop :=
  mode = .truncate → ∀ place, process.place name = some place →
    disk.contents place = [] ∨ disk.opensForOutput place = true

/-- The constructor does what is intended exactly when it can, and leaves a sound state. -/
theorem construct_enters_iff {disk disk' : Disk} {process : Process} {name : List Char}
    {mode : FileMode} {file : FileDescriptor}
    (h : FileDescriptor.construct disk process name mode = .ok (disk', file)) :
    (IntendedFile.enter process ⟨name, mode, disk.contents⟩ =
        (⟨disk', process, file⟩ : FileWork).intended ↔ CanConstruct disk process name mode) ∧
      (⟨disk', process, file⟩ : FileWork).Sound := by
  unfold FileDescriptor.construct at h
  split at h
  · -- an empty name fails the assertion
    cases h
  · -- what is left is the opening of a descriptor without a stream
    let blank : FileDescriptor :=
      { fileName := name
        fileMode := mode
        isWrite := decide (mode.value < FileMode.in_.value)
        isString := decide (mode = .in_) }
    have hresult : blank.getFileDescriptor disk process = (disk', file) := Except.ok.inj h
    have henters := getFileDescriptor_enters_iff disk process blank
    have hsound := sound_getFileDescriptor ⟨disk, process, blank⟩ blank
    have hname : (blank.getFileDescriptor disk process).2.fileName = name ∧
        (blank.getFileDescriptor disk process).2.fileMode = mode := ⟨rfl, rfl⟩
    rw [hresult] at henters hname
    refine ⟨?_, ?_⟩
    · have hintended : (⟨disk', process, file⟩ : FileWork).intended =
          ⟨name, mode, disk'.contents⟩ := by
        rw [intended, hname.1, hname.2]
      rw [hintended]
      refine henters.trans ?_
      simp [CanEnter, CanConstruct, blank]
    · have hwork : (⟨disk, process, blank⟩ : FileWork).continueWith
          (blank.getFileDescriptor disk process) = ⟨disk', process, file⟩ := by
        rw [hresult]
        rfl
      exact hwork ▸ hsound

/-- In a run from the constructor on, everything does what is intended exactly when every
    opening and every write can. -/
theorem runLands_iff {disk disk' : Disk} {process : Process} {name : List Char} {mode : FileMode}
    {file : FileDescriptor}
    (h : FileDescriptor.construct disk process name mode = .ok (disk', file))
    (calls : List DescriptorCall) :
    (IntendedFile.enter process ⟨name, mode, disk.contents⟩ =
        (⟨disk', process, file⟩ : FileWork).intended ∧
      ∀ c ∈ StepRun.calls step ⟨disk', process, file⟩ calls, c.1.Lands c.2) ↔
    (CanConstruct disk process name mode ∧
      ∀ c ∈ StepRun.calls step ⟨disk', process, file⟩ calls, c.1.CanLand c.2) := by
  obtain ⟨henters, hsound⟩ := construct_enters_iff h
  refine and_congr henters (StepRun.forall_calls_iff (I := Sound) ?_ ?_ hsound calls)
  · exact fun w call hw => lands_iff hw call
  · exact fun w call _ w' hw _ hstep => sound_step hw hstep

/-- After a run whose calls all return and do what is intended, the files hold what the whole
    run was to write. -/
theorem intended_final {w : FileWork} {calls : List DescriptorCall}
    (hreturn : (StepRun.outputs step w calls).length = calls.length)
    (hlands : ∀ c ∈ StepRun.calls step w calls, c.1.Lands c.2) :
    calls.foldlM (IntendedFile.step w.process) w.intended =
      some (StepRun.final step w calls).intended := by
  induction calls generalizing w with
  | nil => rfl
  | cons call calls ih =>
    simp only [StepRun.outputs, StepRun.calls, StepRun.final, List.forall_mem_cons] at *
    cases hstep : w.step call with
    | error e =>
      rw [hstep] at hreturn
      cases hreturn
    | ok r =>
      obtain ⟨o, w'⟩ := r
      simp only [hstep, List.length_cons, Nat.add_right_cancel_iff] at hreturn hlands
      have hfirst := (lands_of_ok hstep).mp hlands.1
      have hrest := ih hreturn hlands.2
      rw [process_step hstep] at hrest
      rw [List.foldlM_cons, hfirst]
      exact hrest

/-- An open stream that has failed stays so, and does not change the disk. -/
theorem disk_of_step {w w' : FileWork} {call : DescriptorCall}
    (hopen : w.file.fileInstance.file ≠ none) (hfailed : w.file.fileInstance.failed = true)
    (h : w.step call = .ok ((), w')) :
    w'.disk = w.disk ∧ w'.file.fileInstance.file ≠ none ∧ w'.file.fileInstance.failed = true := by
  cases step_cases h with
  | inl hopened =>
    obtain ⟨file, hstream, hw'⟩ := hopened
    -- to open an open stream only sets its failure
    have hresult : (file.getFileDescriptor w.disk w.process).1 = w.disk ∧
        (file.getFileDescriptor w.disk w.process).2.fileInstance =
          { w.file.fileInstance with failed := true } := by
      rw [← hstream] at hopen ⊢
      have hopenFile := openFile_of_open hopen w.disk w.process file.fileName
        file.fileMode.flags
      exact ⟨congrArg Prod.fst hopenFile, congrArg Prod.snd hopenFile⟩
    rw [hw']
    refine ⟨hresult.1, ?_, ?_⟩
    · show (file.getFileDescriptor w.disk w.process).2.fileInstance.file ≠ none
      rw [hresult.2]
      exact hopen
    · show (file.getFileDescriptor w.disk w.process).2.fileInstance.failed = true
      rw [hresult.2]
  | inr hwritten =>
    obtain ⟨data, hw'⟩ := hwritten
    -- a stream that has failed writes nothing
    have hwritable : w.file.fileInstance.isWritable = false := by
      rw [FileStream.isWritable, hfailed]
      rfl
    rw [hw', written, write_of_not_isWritable hwritable, FileStream.refuse_of_failed hfailed]
    exact ⟨rfl, hopen, hfailed⟩

/-- After a switch of an open descriptor no call changes the disk any more. -/
theorem disk_of_switched {w : FileWork} (hopen : w.file.fileInstance.file ≠ none)
    (hfailed : w.file.fileInstance.failed = true) {calls : List DescriptorCall} {w' : FileWork}
    (hw' : w' ∈ StepRun.visited step w calls) : w'.disk = w.disk := by
  have hreach := StepRun.Reachable.init.of_mem_visited hw'
  have hinvariant : w'.disk = w.disk ∧ w'.file.fileInstance.file ≠ none ∧
      w'.file.fileInstance.failed = true := by
    apply hreach.invariant ⟨rfl, hopen, hfailed⟩
    intro v call o v' hv hstep
    obtain ⟨hdisk, hopen', hfailed'⟩ := hv
    obtain ⟨hsame, hkept⟩ := disk_of_step hopen' hfailed' hstep
    exact ⟨hsame.trans hdisk, hkept⟩
  exact hinvariant.1

open FilesystemState (atRoot blankDisk)

/-- A new descriptor that appends to a file. -/
def appending : FileWork :=
  let file : FileDescriptor :=
    { isWrite := true, isString := false, fileName := ['f'], fileMode := .append }
  FileWork.continueWith ⟨blankDisk, atRoot.process, file⟩
    (file.getFileDescriptor blankDisk atRoot.process)

theorem construct_appending :
    FileDescriptor.construct blankDisk atRoot.process ['f'] .append =
      .ok (appending.disk, appending.file) := rfl

/-- One byte is appended, and nothing is switched. -/
theorem runLands_appending :
    IntendedFile.enter atRoot.process ⟨['f'], .append, blankDisk.contents⟩ = appending.intended ∧
      ∀ c ∈ StepRun.calls step appending [.writeFile [104]], c.1.Lands c.2 := by
  have hconstruct : CanConstruct blankDisk atRoot.process ['f'] .append := fun h => nomatch h
  refine (runLands_iff construct_appending [.writeFile [104]]).mpr ⟨hconstruct, ?_⟩
  intro c hc
  rw [List.mem_singleton.mp hc]
  exact fun _ => ⟨([], ['f']), rfl, .inr ⟨rfl, by decide⟩⟩

/-- What is written after a switch to another file is lost. -/
theorem write_lost_after_switch :
    (StepRun.final step appending [.repurpose ['g'], .writeFile [104]]).disk.held ([], ['g']) =
      none ∧
    ¬ ∀ (disk disk' : Disk) (process : Process) (name : List Char) (mode : FileMode)
      (file : FileDescriptor),
      FileDescriptor.construct disk process name mode = .ok (disk', file) →
      ∀ calls, ∀ c ∈ StepRun.calls step ⟨disk', process, file⟩ calls, c.1.Lands c.2 := by
  refine ⟨rfl, fun hall => ?_⟩
  have hlands := hall _ _ _ _ _ _ construct_appending [.repurpose ['g'], .writeFile [104]] _
    (List.mem_cons_of_mem _ List.mem_cons_self)
  have hsame := congrArg (Option.map fun f => f.contents ([], ['g'])) hlands
  cases hsame

end FileWork

end NetworkedFS
