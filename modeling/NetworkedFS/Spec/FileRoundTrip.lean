import NetworkedFS.ForStd.Except
import NetworkedFS.Spec.DirectoryTracking

/-!
# Creating files and getting them back

`createFile` computes the mode of its descriptor from `in`, so that both modes it can get are
modes for reading: it writes nothing and says that it wrote.  `getFile` reads as many bytes as
the size is as an `int`.

## Key results

- `FileStream.readArray_eq_iff`: when the array that is read holds exactly some bytes;
- `FileDescriptor.truncate_then_binary`: what one descriptor writes in the mode `truncate`,
  another reads in the mode `binary`;
- `FilesystemState.createFile_eq`: creating a file says yes and leaves the disk as it is;
- `FilesystemState.createdComesBack_iff`: what was created comes back exactly when it was there
  before, is short enough, and could have been written.
-/

namespace NetworkedFS

open CString (Cell)

/-- A file that was stored is there. -/
@[simp] theorem Disk.held_store (disk : Disk) (place : FilePlace) (bytes : List UInt8) :
    (disk.store place bytes).held place = some bytes := by
  simp only [Disk.held, store, if_true]

theorem Disk.held_store_of_ne {disk : Disk} {place other : FilePlace} (h : other ≠ place)
    {bytes : List UInt8} : (disk.store place bytes).held other = disk.held other := if_neg h

/-- Whether a file can be opened for writing and takes all of some bytes. -/
def Disk.canWrite (disk : Disk) (process : Process) (path : List Char) (bytes : List UInt8) :
    Bool :=
  let (disk, stream) :=
    ({} : FileStream).openFile disk process path { out := true, trunc := true }
  !(stream.write disk bytes).2.failed

/-! ## Streams -/

namespace FileStream

/-- The array that `readAll` fills from a file that was opened for input. -/
def readArray (held : List UInt8) : List Cell :=
  let data := held.take (toInt held.length).toNat
  data.map some ++ List.replicate (held.length - data.length) none

/-- A size is the same as an `int` up to the largest one, and never more. -/
theorem length_le_toInt_iff (n : Nat) : n ≤ (toInt n).toNat ↔ n < 2 ^ 31 := by
  have hlt : toInt n < (2 ^ 32 + 1 : Nat) / 2 := Int.bmod_lt (by decide)
  constructor
  · intro hle
    omega
  · intro hn
    have heq : toInt n = n := Int.bmod_eq_of_le (by omega) (by omega)
    omega

/-- The array holds exactly the bytes of a short file. -/
theorem readArray_eq_iff {held content : List UInt8} :
    readArray held = content.map some ↔ held = content ∧ content.length < 2 ^ 31 := by
  rw [readArray, ← length_le_toInt_iff]
  constructor
  · intro heq
    -- a byte that was not read has no value, but those of the content have one
    have hall : held.length ≤ (toInt held.length).toNat := by
      by_contra hlong
      have hnone : (none : Cell) ∈ content.map some := by
        rw [← heq, List.length_take]
        exact List.mem_append_right _ (List.mem_replicate.mpr ⟨by omega, rfl⟩)
      obtain ⟨_, -, hbyte⟩ := List.mem_map.mp hnone
      cases hbyte
    rw [List.take_of_length_le hall, Nat.sub_self, List.replicate_zero, List.append_nil] at heq
    have hheld : held = content := List.map_injective_iff.mpr (fun _ _ => Option.some.inj) heq
    exact ⟨hheld, hheld ▸ hall⟩
  · rintro ⟨rfl, hall⟩
    rw [List.take_of_length_le hall, Nat.sub_self, List.replicate_zero, List.append_nil]

/-- Opening for input leaves the disk as it is, and needs a file. -/
theorem openFile_of_not_out (disk : Disk) (process : Process) (path : List Char)
    {flags : OpenFlags} (hflags : flags.out = false) :
    ({} : FileStream).openFile disk process path flags =
      (disk, match (process.place path).filter fun place => (disk.held place).isSome with
        | none => { failed := true }
        | some place => { file := some (place, flags) }) := by
  unfold openFile
  cases process.place path with
  | none => rfl
  | some place =>
    simp only [hflags, Option.isSome_none, Bool.false_eq_true, if_false, Option.filter_some]
    by_cases hheld : (disk.held place).isSome = true
    · rw [if_pos hheld, if_pos hheld]
    · rw [if_neg hheld, if_neg hheld]

/-- A stream that was opened for input is not writable. -/
theorem isWritable_openFile (disk : Disk) (process : Process) (path : List Char)
    {flags : OpenFlags} (hflags : flags.out = false) :
    (({} : FileStream).openFile disk process path flags).2.isWritable = false := by
  rw [openFile_of_not_out disk process path hflags]
  cases (process.place path).filter fun place => (disk.held place).isSome with
  | none => rfl
  | some place => simp only [isWritable, Option.any_some, hflags, Bool.and_false]

/-- What `Disk.canWrite` asks of the disk, and what a stream then writes. -/
theorem write_of_canWrite {disk : Disk} {process : Process} {path : List Char}
    {bytes : List UInt8} (h : disk.canWrite process path bytes = true) :
    ∃ place stream, process.place path = some place ∧
      ({} : FileStream).openFile disk process path { out := true, trunc := true } =
        (disk.store place [], stream) ∧ stream.isWritable = true ∧
      (stream.write (disk.store place []) bytes).1 = (disk.store place []).store place bytes := by
  unfold Disk.canWrite openFile at h
  unfold openFile
  cases hplace : process.place path with
  | none =>
    rw [hplace] at h
    cases h
  | some place =>
    rw [hplace] at h
    by_cases hopens : disk.opensForOutput place = true
    · -- a stream that wrote all bytes has not failed, and the file was empty before
      simp only [Option.isSome_none, Bool.false_eq_true, if_false, if_true, if_pos hopens] at h ⊢
      refine ⟨place, _, rfl, rfl, rfl, ?_⟩
      simp only [write, isWritable, Bool.not_false, Option.any_some, Bool.and_self, if_true,
        Bool.not_eq_true', decide_eq_false_iff_not, Nat.not_lt, Disk.held_store,
        Option.getD_some] at h ⊢
      rw [List.length_take] at h
      rw [List.take_of_length_le (by omega : bytes.length ≤ _)]
      simp only [writeAt, Bool.false_eq_true, if_false, List.take_nil, List.length_nil,
        Nat.sub_self, List.replicate_zero, List.nil_append, List.drop_nil, List.append_nil]
    · simp only [Option.isSome_none, Bool.false_eq_true, if_false, if_true, if_neg hopens] at h
      cases h

end FileStream

/-! ## Descriptors -/

namespace FileDescriptor

/-- A new descriptor has a name, and opens it. -/
theorem construct_eq_ok_iff {disk disk' : Disk} {process : Process} {name : List Char}
    {mode : FileMode} {file : FileDescriptor} :
    construct disk process name mode = .ok (disk', file) ↔ name ≠ [] ∧
      ∃ stream, ({} : FileStream).openFile disk process name mode.flags = (disk', stream) ∧
        file =
          { isWrite := decide (mode.value < FileMode.in_.value)
            isString := decide (mode = .in_)
            fileName := name
            fileMode := mode
            fileInstance := stream } := by
  rw [construct]
  by_cases hname : name = []
  · rw [if_pos hname]
    exact iff_of_false nofun fun h => h.1 hname
  · rw [if_neg hname, and_iff_right hname, Except.ok.injEq]
    constructor
    · intro h
      obtain ⟨rfl, rfl⟩ := Prod.mk.inj h
      exact ⟨_, rfl, rfl⟩
    · rintro ⟨stream, hstream, rfl⟩
      simp only [getFileDescriptor, hstream]

/-- A descriptor for a mode that reads: nothing happens to the disk, and nothing will. -/
theorem construct_of_not_out (disk : Disk) (process : Process) {name : List Char}
    (hname : name ≠ []) {mode : FileMode} (hmode : mode.flags.out = false) :
    ∃ file, construct disk process name mode = .ok (disk, file) ∧
      file.fileInstance.isWritable = false := by
  have hopen := FileStream.openFile_of_not_out disk process name hmode
  have hstream := FileStream.isWritable_openFile disk process name hmode
  rw [hopen] at hstream
  exact ⟨_, construct_eq_ok_iff.mpr ⟨hname, _, hopen, rfl⟩, hstream⟩

/-- What cannot be written is dropped, and only the stream knows. -/
theorem writeFile_of_not_isWritable {file : FileDescriptor}
    (h : file.fileInstance.isWritable = false) (disk : Disk) (custom : CharPointer) (size : Int) :
    ∃ file', file.writeFile disk custom size = .ok (disk, file') := by
  rw [writeFile, h, if_neg Bool.false_ne_true]
  exact ⟨_, rfl⟩

/-- A stream that is writable gets the bytes that the pointer points to. -/
theorem writeFile_ofBytes {file : FileDescriptor} (h : file.fileInstance.isWritable = true)
    (disk : Disk) (bytes : List UInt8) :
    ∃ file', file.writeFile disk (.ofBytes bytes) bytes.length =
      .ok ((file.fileInstance.write disk bytes).1, file') := by
  rw [writeFile, h, if_pos rfl, if_neg (by omega), Int.toNat_natCast, CharPointer.load_ofBytes]
  exact ⟨_, rfl⟩

/-- A new descriptor in the mode `binary` reads the file that its name leads to, and the one of
    a file that is not there throws. -/
theorem readFileBinary_of_construct {disk disk' : Disk} {process : Process} {name : List Char}
    {file : FileDescriptor} (h : construct disk process name .binary = .ok (disk', file)) :
    (file.readFileBinary disk').map (fun r => (r.1, r.2.1)) =
      match (process.place name).bind disk.held with
      | some held => .ok (.pointsTo (FileStream.readArray held), held.length)
      | none => .error .exception := by
  obtain ⟨-, stream, hopen, rfl⟩ := construct_eq_ok_iff.mp h
  have hout : FileMode.binary.flags.out = false := rfl
  rw [FileStream.openFile_of_not_out disk process name hout] at hopen
  obtain ⟨rfl, rfl⟩ := Prod.mk.inj hopen
  cases process.place name with
  | none => rfl
  | some place =>
    rw [Option.filter_some, Option.bind_some]
    cases hheld : disk.held place with
    | none => rfl
    | some held =>
      have hwrite : decide (FileMode.binary.value < FileMode.in_.value) = false := rfl
      have hin : FileMode.binary.flags.in_ = true := rfl
      simp only [Option.isSome_some, if_true, readFileBinary, hwrite, Bool.false_eq_true, if_false,
        FileStream.readAll, hheld, Option.getD_some, hin, bind, Except.bind, pure, Except.pure,
        Except.map, FileStream.readArray]

/-- What one descriptor writes in the mode `truncate`, another reads in the mode `binary`. -/
theorem truncate_then_binary {disk : Disk} {process : Process} {name : List Char}
    (hname : name ≠ []) {bytes : List UInt8} (hwrite : disk.canWrite process name bytes = true)
    (hshort : bytes.length < 2 ^ 31) :
    ∃ disk₁ writer disk₂ writer' reader,
      construct disk process name .truncate = .ok (disk₁, writer) ∧
      writer.writeFile disk₁ (.ofBytes bytes) bytes.length = .ok (disk₂, writer') ∧
      construct disk₂ process name .binary = .ok (disk₂, reader) ∧
      (reader.readFileBinary disk₂).map (fun r => (r.1, r.2.1)) =
        .ok (.ofBytes bytes, bytes.length) := by
  obtain ⟨place, stream, hplace, hopen, hwritable, hdisk⟩ := FileStream.write_of_canWrite hwrite
  have hout : FileMode.binary.flags.out = false := rfl
  have hwriter : ∃ writer : FileDescriptor, writer.fileInstance = stream ∧
      construct disk process name .truncate = .ok (disk.store place [], writer) :=
    ⟨_, rfl, construct_eq_ok_iff.mpr ⟨hname, stream, hopen, rfl⟩⟩
  obtain ⟨writer, rfl, hwriter⟩ := hwriter
  obtain ⟨writer', hwritten⟩ := writeFile_ofBytes hwritable (disk.store place []) bytes
  obtain ⟨reader, hreader, -⟩ := construct_of_not_out
    (writer.fileInstance.write (disk.store place []) bytes).1 process hname hout
  refine ⟨_, writer, _, writer', reader, hwriter, hwritten, hreader, ?_⟩
  have hread := readFileBinary_of_construct hreader
  have harray : FileStream.readArray bytes = bytes.map some :=
    FileStream.readArray_eq_iff.mpr ⟨rfl, hshort⟩
  rw [hread, hplace, Option.bind_some, hdisk, Disk.held_store]
  simp only [harray]
  rfl

end FileDescriptor

/-! ## The filesystem head -/

namespace FilesystemState

/-- Where `getFile` looks for a file. -/
def trackedPlace (s : FilesystemState) (fileName : List Char) : Option FilePlace :=
  s.process.place (s.head.currentDirectory ++ nodeDelimeter :: fileName)

/-- A file is read, in one array, or is not there and throws. -/
theorem getFile_eq (disk : Disk) {s : FilesystemState} (hknown : s.head.directoryKnown = true)
    (fileName : List Char) :
    s.getFile disk fileName = match (s.trackedPlace fileName).bind disk.held with
      | some held => .ok (.pointsTo (FileStream.readArray held), held.length)
      | none => .error .exception := by
  have hname : s.head.currentDirectory ++ nodeDelimeter :: fileName ≠ [] :=
    List.append_ne_nil_of_right_ne_nil _ (List.cons_ne_nil _ _)
  have hout : FileMode.binary.flags.out = false := rfl
  obtain ⟨file, hconstruct, -⟩ :=
    FileDescriptor.construct_of_not_out disk s.process hname hout
  have hread := FileDescriptor.readFileBinary_of_construct hconstruct
  rw [trackedPlace, ← hread]
  simp only [getFile, hconstruct, hknown, bind, Except.bind, Bool.not_true, Bool.false_eq_true,
    if_false]
  cases file.readFileBinary disk with
  | error e => rfl
  | ok r => rfl

/-- Some bytes are got exactly when the file holds them and is short. -/
theorem getFile_eq_ok_iff {disk : Disk} {s : FilesystemState}
    (hknown : s.head.directoryKnown = true) {fileName : List Char} {content : List UInt8} :
    s.getFile disk fileName = .ok (.ofBytes content, content.length) ↔
      (s.trackedPlace fileName).bind disk.held = some content ∧ content.length < 2 ^ 31 := by
  rw [getFile_eq disk hknown]
  cases (s.trackedPlace fileName).bind disk.held with
  | none => exact iff_of_false nofun fun h => nomatch h.1
  | some held =>
    rw [Option.some.injEq, ← FileStream.readArray_eq_iff]
    constructor
    · intro h
      exact CharPointer.pointsTo.inj (Prod.mk.inj (Except.ok.inj h)).1
    · intro h
      have hheld := (FileStream.readArray_eq_iff.mp h).1
      show Except.ok (CharPointer.pointsTo (FileStream.readArray held), (held.length : Int)) = _
      rw [h, hheld]
      rfl

/-- Creating a file says yes, whatever is there and whatever could be written. -/
theorem createFile_eq (disk : Disk) {s : FilesystemState} (hknown : s.head.directoryKnown = true)
    {fileName : List Char} (hname : fileName ≠ []) (content : CharPointer) (isBinaryFile : Bool)
    {size : Int} (hsize : size ≠ -1) :
    s.createFile disk fileName content isBinaryFile size = .ok (true, disk) := by
  have hmode : ∃ mode, FileMode.ofValue (FileMode.in_.value + isBinaryFile.toInt) = .ok mode ∧
      mode.flags.out = false := by
    cases isBinaryFile with
    | false => exact ⟨.in_, rfl, rfl⟩
    | true => exact ⟨.binary, rfl, rfl⟩
  obtain ⟨mode, hmode, hout⟩ := hmode
  obtain ⟨file, hconstruct, hwritable⟩ :=
    FileDescriptor.construct_of_not_out disk s.process hname hout
  obtain ⟨file', hwrite⟩ := FileDescriptor.writeFile_of_not_isWritable hwritable disk content size
  simp only [createFile, hmode, hconstruct, hknown, bind, Except.bind, Bool.not_true,
    Bool.false_eq_true, if_false, if_neg hsize, hwrite, pure, Except.pure]

/-- A file that was created with some bytes is got back with them, and what could not be
    written is said to have failed. -/
def CreatedComesBack (disk : Disk) (s : FilesystemState) (fileName : List Char)
    (content : List UInt8) (isBinaryFile : Bool) : Prop :=
  ∀ result disk', s.createFile disk fileName (.ofBytes content) isBinaryFile content.length =
      .ok (result, disk') →
    (result = true → s.getFile disk' fileName = .ok (.ofBytes content, content.length)) ∧
      (disk.canWrite s.process fileName content = false → result = false)

/-- What is created comes back exactly when it was there before, in a short file, and could
    have been written. -/
theorem createdComesBack_iff (disk : Disk) (s : FilesystemState)
    (hknown : s.head.directoryKnown = true) (fileName : List Char) (hname : fileName ≠ [])
    (content : List UInt8) (isBinaryFile : Bool) :
    s.CreatedComesBack disk fileName content isBinaryFile ↔
      (s.trackedPlace fileName).bind disk.held = some content ∧ content.length < 2 ^ 31 ∧
        disk.canWrite s.process fileName content = true := by
  have hsize : (content.length : Int) ≠ -1 := by omega
  rw [CreatedComesBack, createFile_eq disk hknown hname _ isBinaryFile hsize, ← and_assoc,
    ← getFile_eq_ok_iff hknown]
  constructor
  · intro h
    obtain ⟨hback, hfailed⟩ := h true disk rfl
    exact ⟨hback rfl, by simpa using hfailed⟩
  · rintro ⟨hback, hwrite⟩ result disk' heq
    obtain ⟨rfl, rfl⟩ := Prod.mk.inj (Except.ok.inj heq)
    exact ⟨fun _ => hback, fun hfailed => by rw [hwrite] at hfailed; cases hfailed⟩

/-- A disk without files, on which anything can be written. -/
def blankDisk : Disk where
  listing _ := some []
  content _ _ := none

/-- At the root, two bytes are said to be written, and then there is no file. -/
theorem created_not_found :
    (atRoot.createFile blankDisk ['f'] (.ofBytes [104, 105]) true 2 = .ok (true, blankDisk) ∧
      atRoot.getFile blankDisk ['f'] = .error .exception) ∧
    ¬ atRoot.CreatedComesBack blankDisk ['f'] [104, 105] true := by
  have hcreate : atRoot.createFile blankDisk ['f'] (.ofBytes [104, 105]) true 2 =
      .ok (true, blankDisk) := createFile_eq blankDisk rfl (by decide) _ true (by decide)
  have hget : atRoot.getFile blankDisk ['f'] = .error .exception := getFile_eq blankDisk rfl ['f']
  refine ⟨⟨hcreate, hget⟩, fun h => ?_⟩
  have hback := (h true blankDisk hcreate).1 rfl
  rw [hget] at hback
  cases hback

/-- The theorem at that input. -/
theorem createdComesBack_iff_atRoot :
    atRoot.CreatedComesBack blankDisk ['f'] [104, 105] true ↔
      (atRoot.trackedPlace ['f']).bind blankDisk.held = some [104, 105] ∧
        ([104, 105] : List UInt8).length < 2 ^ 31 ∧
        blankDisk.canWrite atRoot.process ['f'] [104, 105] = true :=
  createdComesBack_iff blankDisk atRoot rfl ['f'] (by decide) [104, 105] true

end FilesystemState

end NetworkedFS
