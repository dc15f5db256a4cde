import NetworkedFS.Spec.FileRoundTrip

/-!
# Reading a file twice

`read_file_binary` and `read_file_string` read a file in the same way.  The first one asserts
that the file was opened for reading, the second one that it was not.

## Key results

- `readAll_of_short`: reading a short file gives its bytes and leaves the stream as good as it was;
- `readsBack_iff`: the mode and the files for which a descriptor reads what the file holds.
-/

namespace NetworkedFS

open CString (Cell)

namespace FileStream

/-- A good stream that was opened for input fills the array. -/
theorem readAll_eq {disk : Disk} {stream : FileStream} {place : FilePlace} {flags : OpenFlags}
    (hfile : stream.file = some (place, flags)) (hin : flags.in_ = true)
    (hfailed : stream.failed = false) {held : List UInt8} (hheld : disk.held place = some held) :
    ∃ stream', stream.readAll disk = .ok (readArray held, held.length, stream') ∧
      stream'.file = stream.file ∧
      (held.length < 2 ^ 31 → stream'.failed = false) := by
  refine ⟨{ stream with
    position := (held.take (toInt held.length).toNat).length
    failed := decide (((held.take (toInt held.length).toNat).length : Int) ≠ toInt held.length) },
    ?_, rfl, fun hshort => ?_⟩
  · simp only [readAll, hfile, hfailed, hheld, Option.getD_some, hin, if_true, Bool.false_eq_true,
      if_false, readArray]
  -- the size is the same as an `int`, so all of it is read
  · have hsize : toInt held.length = held.length := Int.bmod_eq_of_le (by omega) (by omega)
    simp [hsize]

/-- A short file is read as often as one likes. -/
theorem readAll_of_short {disk : Disk} {stream : FileStream} {place : FilePlace}
    {flags : OpenFlags} (hfile : stream.file = some (place, flags)) (hin : flags.in_ = true)
    (hfailed : stream.failed = false) {held : List UInt8} (hheld : disk.held place = some held)
    (hshort : held.length < 2 ^ 31) :
    ∃ stream', stream.readAll disk = .ok (held.map some, held.length, stream') ∧
      stream'.file = some (place, flags) ∧ stream'.failed = false := by
  obtain ⟨stream', hread, hfile', hgood⟩ := readAll_eq hfile hin hfailed hheld
  rw [readArray_eq_iff.mpr ⟨rfl, hshort⟩] at hread
  exact ⟨stream', hread, hfile'.trans hfile, hgood hshort⟩

end FileStream

namespace FileDescriptor

/-- The modes that read. -/
inductive ReadMode where
  | in_
  | binary
  deriving DecidableEq, Repr

def ReadMode.mode : ReadMode → FileMode
  | .in_ => .in_
  | .binary => .binary

/-- The function that reads in a mode.  A string is given as a pointer to its bytes. -/
def readAs (disk : Disk) (file : FileDescriptor) :
    ReadMode → Except Fault (CharPointer × Int × FileDescriptor)
  | .in_ => (file.readFileString disk).map fun r => (.ofBytes r.1, r.2)
  | .binary => file.readFileBinary disk

/-- A new descriptor reads the bytes and their number, and then it does so again. -/
def ReadsBack (disk : Disk) (process : Process) (name : List Char) (mode : ReadMode)
    (bytes : List UInt8) : Prop :=
  ∃ disk' file file' file'', construct disk process name mode.mode = .ok (disk', file) ∧
    file.readAs disk' mode = .ok (.ofBytes bytes, bytes.length, file') ∧
    file'.readAs disk' mode = .ok (.ofBytes bytes, bytes.length, file'')

/-- A name that leads to a file is not empty. -/
theorem ne_nil_of_place {process : Process} {name : List Char} {place : FilePlace}
    (h : process.place name = some place) : name ≠ [] := by
  intro hnil
  rw [hnil] at h
  cases h

/-- In the mode `in` the assertion fails. -/
theorem not_readsBack_in (disk : Disk) (process : Process) (name : List Char)
    (bytes : List UInt8) : ¬ ReadsBack disk process name .in_ bytes := by
  intro h
  obtain ⟨disk', file, file', file'', hconstruct, hread, -⟩ := h
  obtain ⟨-, stream, -, hfile⟩ := construct_eq_ok_iff.mp hconstruct
  subst hfile
  cases hread

/-- A descriptor for a short file reads it again and again in the mode `binary`. -/
theorem readFileBinary_of_short {disk : Disk} {file : FileDescriptor} {place : FilePlace}
    {flags : OpenFlags} (hwrite : file.isWrite = false)
    (hfile : file.fileInstance.file = some (place, flags)) (hin : flags.in_ = true)
    (hfailed : file.fileInstance.failed = false) {held : List UInt8}
    (hheld : disk.held place = some held) (hshort : held.length < 2 ^ 31) :
    ∃ file', file.readFileBinary disk = .ok (.ofBytes held, held.length, file') ∧
      file'.isWrite = false ∧ file'.fileInstance.file = some (place, flags) ∧
      file'.fileInstance.failed = false := by
  obtain ⟨stream', hread, hfile', hfailed'⟩ :=
    FileStream.readAll_of_short hfile hin hfailed hheld hshort
  refine ⟨{ file with fileInstance := stream' }, ?_, hwrite, hfile', hfailed'⟩
  simp only [readFileBinary, hwrite, Bool.false_eq_true, if_false, hread, bind, Except.bind, pure,
    Except.pure, CharPointer.ofBytes]

/-- A file is read back exactly in the mode `binary` and if its size is an `int`. -/
theorem readsBack_iff {disk : Disk} {process : Process} {name : List Char} {place : FilePlace}
    (hplace : process.place name = some place) {bytes : List UInt8}
    (hheld : disk.held place = some bytes) (mode : ReadMode) :
    ReadsBack disk process name mode bytes ↔ mode = .binary ∧ bytes.length < 2 ^ 31 := by
  cases mode with
  | in_ => exact iff_of_false (not_readsBack_in disk process name bytes) nofun
  | binary =>
    rw [and_iff_right rfl]
    constructor
    · intro h
      obtain ⟨disk', file, file', file'', hconstruct, hread, -⟩ := h
      have hfirst := readFileBinary_of_construct hconstruct
      have hread : file.readFileBinary disk' = _ := hread
      rw [hread, hplace, Option.bind_some, hheld] at hfirst
      have harray := CharPointer.pointsTo.inj (Prod.mk.inj (Except.ok.inj hfirst)).1
      exact (FileStream.readArray_eq_iff.mp harray.symm).2
    · intro hshort
      have hout : FileMode.binary.flags.out = false := rfl
      have hopen := FileStream.openFile_of_not_out disk process name hout
      have hsome : (disk.held place).isSome = true := by rw [hheld, Option.isSome_some]
      rw [hplace, Option.filter_some, if_pos hsome] at hopen
      have hnew : ∃ file : FileDescriptor, construct disk process name .binary = .ok (disk, file) ∧
          file.isWrite = false ∧
          file.fileInstance = { file := some (place, FileMode.binary.flags) } :=
        ⟨_, construct_eq_ok_iff.mpr ⟨ne_nil_of_place hplace, _, hopen, rfl⟩, rfl, rfl⟩
      obtain ⟨file, hconstruct, hwrite, hstream⟩ := hnew
      have hfile : file.fileInstance.file = some (place, FileMode.binary.flags) := by rw [hstream]
      have hfailed : file.fileInstance.failed = false := by rw [hstream]
      -- the first read leaves a stream that can be read again
      obtain ⟨file', hread, hwrite', hfile', hfailed'⟩ :=
        readFileBinary_of_short hwrite hfile rfl hfailed hheld hshort
      obtain ⟨file'', hread', -⟩ :=
        readFileBinary_of_short hwrite' hfile' rfl hfailed' hheld hshort
      exact ⟨disk, file, file', file'', hconstruct, hread, hread'⟩

/-- A disk whose root holds one file of two bytes. -/
def twoBytes : Disk where
  listing directory := if directory = [] then some [(['f'], true)] else none
  content directory name := if directory = [] ∧ name = ['f'] then some [104, 0] else none

/-- The two bytes are read in the mode `binary`. -/
theorem readsBack_twoBytes :
    ReadsBack twoBytes FilesystemState.atRoot.process ['f'] .binary [104, 0] := by
  have hplace : FilesystemState.atRoot.process.place ['f'] = some ([], ['f']) := rfl
  exact (readsBack_iff hplace rfl .binary).mpr ⟨rfl, by decide⟩

/-- In the mode `in` the assertion of the function that reads strings fails. -/
theorem string_not_read :
    (∃ file, construct twoBytes FilesystemState.atRoot.process ['f'] .in_ = .ok (twoBytes, file) ∧
      file.readFileString twoBytes = .error .assertion) ∧
    ¬ ∀ (disk : Disk) (process : Process) (name : List Char) (place : FilePlace)
      (bytes : List UInt8), process.place name = some place → disk.held place = some bytes →
      ∀ mode, ReadsBack disk process name mode bytes := by
  refine ⟨⟨_, rfl, rfl⟩, fun hall => ?_⟩
  exact not_readsBack_in _ _ _ _
    (hall twoBytes FilesystemState.atRoot.process ['f'] ([], ['f']) [104, 0] rfl rfl .in_)

end FileDescriptor

end NetworkedFS
