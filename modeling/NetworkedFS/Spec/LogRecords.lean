import NetworkedFS.Native.Logger
import NetworkedFS.Spec.FileSwitching

/-!
# What a logger writes

A logger begins its file with a header, and each call of `log` is to add a record.  The last
step of a record is a newline, which a descriptor only writes in a mode that reads strings and
writes.  There is no such mode, so no record is ever finished.

## Key results

- `FileWork.contents_writeAll_iff`: a file gets all of what is written in pieces exactly when it
  takes each piece;
- `log_of_reachable`: whatever was called before, `log` ends the process;
- `logsAll_iff`: a logger does what it is for exactly when nothing is logged.
-/

namespace NetworkedFS

/-! ## Writing in pieces -/

namespace FileWork

/-- The stream has been given some pieces, one after the other. -/
def writeAll (w : FileWork) (chunks : List (List UInt8)) : FileWork := chunks.foldl written w

/-- A stream that cannot be written does not change the disk. -/
theorem disk_writeAll_of_not_isWritable {w : FileWork}
    (hwritable : w.file.fileInstance.isWritable = false) (chunks : List (List UInt8)) :
    (w.writeAll chunks).disk = w.disk := by
  induction chunks generalizing w with
  | nil => rfl
  | cons chunk chunks ih =>
    have hwrite := write_of_not_isWritable hwritable w.disk chunk
    have hnext : (w.written chunk).file.fileInstance.isWritable = false := by
      rw [written, hwrite]
      exact FileStream.isWritable_refuse hwritable chunk.length
    have hdisk : (w.written chunk).disk = w.disk := by
      rw [written, hwrite]
      rfl
    exact (ih hnext).trans hdisk

/-- What a file takes does not depend on what was written. -/
theorem takes_written (w : FileWork) (data : List UInt8) :
    (w.written data).disk.takes = w.disk.takes := by
  show (w.file.fileInstance.write w.disk data).1.takes = w.disk.takes
  unfold FileStream.write
  split
  · rfl
  · split
    · rfl
    · rfl

/-- All pieces arrive exactly when each of them is taken. -/
theorem contents_writeAll_iff {w : FileWork} (hw : w.Sound)
    (hwritable : w.file.fileInstance.isWritable = true) {place : FilePlace}
    (hplace : w.process.place w.file.fileName = some place) (chunks : List (List UInt8)) :
    (w.writeAll chunks).disk.contents place = w.disk.contents place ++ chunks.flatten ↔
      ∀ chunk ∈ chunks, chunk.length ≤ w.disk.takes place chunk := by
  induction chunks generalizing w with
  | nil =>
    rw [List.flatten_nil, List.append_nil]
    exact iff_of_true rfl fun _ h => nomatch h
  | cons chunk chunks ih =>
    obtain ⟨other, hother, hcontents, hstream⟩ := write_of_isWritable hw hwritable chunk
    have heq : place = other := Option.some.inj (hplace.symm.trans hother)
    subst heq
    have hcontents' : (w.written chunk).disk.contents place =
        w.disk.contents place ++ chunk.take (w.disk.takes place chunk) :=
      (congrFun hcontents place).trans (Function.update_self ..)
    rw [List.flatten_cons, List.forall_mem_cons]
    by_cases htakes : chunk.length ≤ w.disk.takes place chunk
    -- the file takes all of the piece, and the stream goes on
    · rw [List.take_of_length_le htakes] at hcontents' hstream
      have hnext : (w.written chunk).file.fileInstance.isWritable = true := by
        have hfile : (w.written chunk).file.fileInstance =
            (w.file.fileInstance.write w.disk chunk).2 := rfl
        rw [FileStream.isWritable, Bool.and_eq_true] at hwritable ⊢
        rw [hfile, hstream, decide_eq_false (Nat.lt_irrefl _)]
        exact ⟨rfl, hwritable.2⟩
      have hrest := ih (sound_written hw chunk) hnext hplace
      rw [hcontents', takes_written, List.append_assoc] at hrest
      exact hrest.trans (and_iff_right htakes).symm
    -- the stream has failed, and the file ends inside the piece
    · have hnext : (w.written chunk).file.fileInstance.isWritable = false := by
        have hfile : (w.written chunk).file.fileInstance =
            (w.file.fileInstance.write w.disk chunk).2 := rfl
        have hshort : (chunk.take (w.disk.takes place chunk)).length < chunk.length := by
          rw [List.length_take]
          omega
        rw [FileStream.isWritable, hfile, hstream, decide_eq_true hshort]
        rfl
      refine iff_of_false (fun h => ?_) fun h => htakes h.1
      have hdisk : (w.writeAll (chunk :: chunks)).disk = (w.written chunk).disk :=
        disk_writeAll_of_not_isWritable hnext chunks
      rw [hdisk, hcontents'] at h
      -- what is missing of this piece is not made up for by later ones
      have hlength := congrArg List.length (List.append_cancel_left h)
      rw [List.length_take, List.length_append] at hlength
      omega

/-- A new descriptor in a mode that writes is open exactly when its name leads to a file that
    can be opened. -/
theorem isWritable_construct_iff {disk disk' : Disk} {process : Process} {name : List Char}
    {mode : FileMode} {file : FileDescriptor} (hout : mode.flags.out = true)
    (h : FileDescriptor.construct disk process name mode = .ok (disk', file)) :
    file.fileInstance.isWritable = true ↔
      ∃ place, process.place name = some place ∧ disk.opensForOutput place = true := by
  unfold FileDescriptor.construct at h
  split at h
  · cases h
  · have hstream : file.fileInstance =
        (({} : FileStream).openFile disk process name mode.flags).2 := by
      cases h
      rfl
    rw [hstream]
    cases hplace : process.place name with
    | none => simp [FileStream.openFile, FileStream.isWritable, hplace]
    | some place =>
      cases hopens : disk.opensForOutput place with
      | true => simp [FileStream.openFile, FileStream.isWritable, hplace, hopens, hout]
      | false => simp [FileStream.openFile, FileStream.isWritable, hplace, hopens, hout]

/-- A new descriptor has its name, and the disk takes what it took. -/
theorem construct_keeps {disk disk' : Disk} {process : Process} {name : List Char}
    {mode : FileMode} {file : FileDescriptor}
    (h : FileDescriptor.construct disk process name mode = .ok (disk', file)) :
    file.fileName = name ∧ disk'.takes = disk.takes := by
  unfold FileDescriptor.construct at h
  split at h
  · cases h
  · have hopened : file.fileName = name ∧
        disk' = (({} : FileStream).openFile disk process name mode.flags).1 := by
      cases h
      exact ⟨rfl, rfl⟩
    refine ⟨hopened.1, ?_⟩
    rw [hopened.2]
    simp only [FileStream.openFile, Option.isSome_none, Bool.false_eq_true, if_false]
    cases process.place name with
    | none => rfl
    | some place =>
      simp only
      split_ifs <;> rfl

end FileWork

namespace DebugLogger

open FileDescriptor (newline)

/-! ## What is intended -/

/-- A call of `log`, and the time when it is made. -/
structure LogEntry where
  time : List UInt8
  text : List UInt8
  deriving DecidableEq, Repr

/-- The pieces of the header. -/
def startChunks (start : List UInt8) : List (List UInt8) :=
  [debugStatusLogHeader, start, startEnd]

/-- The header that is written at some time. -/
def startRecord (start : List UInt8) : List UInt8 := debugStatusLogHeader ++ start ++ startEnd

/-- What a call is to add. -/
def LogEntry.record (entry : LogEntry) : List UInt8 :=
  entry.time ++ separator ++ entry.text ++ [newline]

/-- The calls of `log`, one after the other. -/
def logAll (entries : List LogEntry) (r : Disk × DebugLogger) :
    Except Fault (Disk × DebugLogger) :=
  entries.foldlM (fun r entry => r.2.log r.1 entry.time entry.text) r

/-- Behind what the file holds when it has been opened come the header and the records. -/
def LogsAll (disk : Disk) (process : Process) (name : List Char) (mode : FileMode)
    (start : List UInt8) (entries : List LogEntry) : Prop :=
  ∃ place opened file disk' logger, process.place (logName name) = some place ∧
    FileDescriptor.construct disk process (logName name) mode = .ok (opened, file) ∧
    (construct disk process name mode start >>= logAll entries) = .ok (disk', logger) ∧
    disk'.contents place =
      opened.contents place ++ (startRecord start ++ entries.flatMap LogEntry.record)

/-- The file can be opened, and takes each piece of the header. -/
def TakesStart (disk : Disk) (process : Process) (name : List Char) (start : List UInt8) : Prop :=
  ∃ place, process.place (logName name) = some place ∧ disk.opensForOutput place = true ∧
    ∀ chunk ∈ startChunks start, chunk.length ≤ disk.takes place chunk

/-! ## The calls -/

theorem flatten_startChunks (start : List UInt8) :
    (startChunks start).flatten = startRecord start := by
  simp [startChunks, startRecord]

theorem logName_ne_nil (name : List Char) : logName name ≠ [] := by
  unfold logName
  split
  · decide
  · assumption

/-- The header is written in its pieces. -/
theorem prependTime_start (w : FileWork) (time now : List UInt8) :
    prependTime w.disk ⟨w.file, time⟩ now true =
      .ok ((w.writeAll (startChunks now)).disk, ⟨(w.writeAll (startChunks now)).file, now⟩) := by
  have hheader := w.writeFile_of_load (CharPointer.load_ofString debugStatusLogHeader)
  have htime := (w.written debugStatusLogHeader).writeFile_of_load (CharPointer.load_ofString now)
  have hlength : (CharPointer.ofString debugStatusLogHeader).strlen =
    .ok debugStatusLogHeader.length := rfl
  -- both literals at the end have two characters
  have hend : ((w.written debugStatusLogHeader).written now).file.writeFile
      ((w.written debugStatusLogHeader).written now).disk (.ofString startEnd) 2 =
    .ok ((w.writeAll (startChunks now)).disk, (w.writeAll (startChunks now)).file) :=
    FileWork.writeFile_of_load _ (CharPointer.load_ofString startEnd)
  simp only [prependTime, if_true, hlength, bind, Except.bind, hheader, htime, hend, pure,
    Except.pure]

/-- `is_string` and `is_write` are not both set. -/
def ReadsOrWrites (file : FileDescriptor) : Prop := (file.isString && file.isWrite) = false

/-- No mode sets both. -/
theorem readsOrWrites_getFileDescriptor (disk : Disk) (process : Process)
    (file : FileDescriptor) : ReadsOrWrites (file.getFileDescriptor disk process).2 := by
  show (decide (file.fileMode = .in_) && decide (file.fileMode.value < FileMode.in_.value)) = false
  cases file.fileMode with
  | append => rfl
  | truncate => rfl
  | in_ => rfl
  | binary => rfl

/-- A record's last newline fails its assertion. -/
theorem log_of_readsOrWrites {logger : DebugLogger} (h : ReadsOrWrites logger.outputFile)
    (disk : Disk) (process : Process) (now text : List UInt8) :
    logger.log disk now text = .error .assertion := by
  let w : FileWork := ⟨disk, process, logger.outputFile⟩
  have htime := w.writeFile_of_load (CharPointer.load_ofString now)
  have hseparator : (w.written now).file.writeFile (w.written now).disk (.ofString separator) 2 =
      .ok (((w.written now).written separator).disk, ((w.written now).written separator).file) :=
    FileWork.writeFile_of_load _ (CharPointer.load_ofString separator)
  have htext := ((w.written now).written separator).writeFile_of_load
    (CharPointer.load_ofString text)
  have hnewline : (((w.written now).written separator).written text).file.writeNewline
      (((w.written now).written separator).written text).disk = .error .assertion :=
    if_neg (by rw [Bool.not_eq_true]; exact h)
  have hprepend : logger.prependTime disk now false =
      .ok (((w.written now).written separator).disk,
        ⟨((w.written now).written separator).file, now⟩) := by
    simp only [prependTime, Bool.false_eq_true, if_false, bind, Except.bind, pure, Except.pure]
    rw [htime]
    simp only [hseparator]
  simp only [log, hprepend, bind, Except.bind, htext, hnewline]

/-! ## Runs -/

/-- The calls on a logger. -/
inductive LoggerCall where
  | log (now text : List UInt8)
  | setName (name : List Char)
  | setTruncate (name : List Char)
  | setAppend (name : List Char)
  deriving DecidableEq, Repr

/-- A logger and the disk, in a process. -/
def step (process : Process) (r : Disk × DebugLogger) :
    LoggerCall → Except Fault (Unit × Disk × DebugLogger)
  | .log now text => (r.2.log r.1 now text).map ((), ·)
  | .setName name => (r.2.setName r.1 process name).map ((), ·)
  | .setTruncate name => (r.2.setTruncate r.1 process name).map ((), ·)
  | .setAppend name => (r.2.setAppend r.1 process name).map ((), ·)

theorem readsOrWrites_setName {disk : Disk} {process : Process} {logger : DebugLogger}
    {name : List Char} {r : Disk × DebugLogger}
    (h : logger.setName disk process name = .ok r) : ReadsOrWrites r.2.outputFile := by
  unfold setName at h
  split at h
  · cases h
  · obtain ⟨q, hq, h⟩ := Except.bind_eq_ok_iff.mp h
    cases h
    rw [FileWork.eq_of_repurpose_eq_ok hq]
    exact readsOrWrites_getFileDescriptor disk process _

theorem readsOrWrites_setMode {disk : Disk} {process : Process} {logger : DebugLogger}
    {name : List Char} {mode : FileMode} {r : Disk × DebugLogger}
    (h : logger.setMode disk process name mode = .ok r) : ReadsOrWrites r.2.outputFile := by
  unfold setMode at h
  split at h
  · cases h
    exact readsOrWrites_getFileDescriptor disk process _
  · obtain ⟨q, hq, h⟩ := Except.bind_eq_ok_iff.mp h
    cases h
    rw [FileWork.eq_of_repurposeMode_eq_ok hq]
    exact readsOrWrites_getFileDescriptor disk process _

/-- A call that returns leaves a logger that cannot write a newline. -/
theorem readsOrWrites_step {process : Process} {r r' : Disk × DebugLogger} {call : LoggerCall}
    (hr : ReadsOrWrites r.2.outputFile) (h : step process r call = .ok ((), r')) :
    ReadsOrWrites r'.2.outputFile := by
  cases call with
  | log now text =>
    have hfails : step process r (.log now text) = .error .assertion :=
      congrArg (Except.map _) (log_of_readsOrWrites hr r.1 process now text)
    rw [hfails] at h
    cases h
  | setName name =>
    obtain ⟨q, hq, h⟩ := Except.map_eq_ok_iff.mp h
    cases h
    exact readsOrWrites_setName hq
  | setTruncate name =>
    obtain ⟨q, hq, h⟩ := Except.map_eq_ok_iff.mp h
    cases h
    exact readsOrWrites_setMode hq
  | setAppend name =>
    obtain ⟨q, hq, h⟩ := Except.map_eq_ok_iff.mp h
    cases h
    exact readsOrWrites_setMode hq

/-- The constructor opens the file and writes the header in its pieces. -/
theorem construct_eq {disk opened : Disk} {process : Process} {name : List Char} {mode : FileMode}
    {file : FileDescriptor}
    (h : FileDescriptor.construct disk process (logName name) mode = .ok (opened, file))
    (start : List UInt8) :
    let w := FileWork.writeAll ⟨opened, process, file⟩ (startChunks start)
    construct disk process name mode start = .ok (w.disk, ⟨w.file, start⟩) := by
  intro w
  simp only [construct, h, bind, Except.bind]
  exact prependTime_start ⟨opened, process, file⟩ [] start

/-- Writing leaves what the descriptor can do. -/
theorem readsOrWrites_writeAll {w : FileWork} (h : ReadsOrWrites w.file)
    (chunks : List (List UInt8)) : ReadsOrWrites (w.writeAll chunks).file := by
  induction chunks generalizing w with
  | nil => exact h
  | cons chunk chunks ih => exact ih (w := w.written chunk) h

/-- Every logger can be constructed. -/
theorem construct_returns (disk : Disk) (process : Process) (name : List Char) (mode : FileMode) :
    ∃ opened file, FileDescriptor.construct disk process (logName name) mode = .ok (opened, file) ∧
      ReadsOrWrites file := by
  refine ⟨_, _, if_neg (logName_ne_nil name), ?_⟩
  exact readsOrWrites_getFileDescriptor disk process _

/-- Whatever was called before, a call of `log` ends the process. -/
theorem log_of_reachable {disk : Disk} {process : Process} {name : List Char} {mode : FileMode}
    {start : List UInt8} {r r' : Disk × DebugLogger}
    (hr : construct disk process name mode start = .ok r)
    (hr' : StepRun.Reachable (step process) r r') (now text : List UInt8) :
    r'.2.log r'.1 now text = .error .assertion := by
  obtain ⟨opened, file, hfile, hflags⟩ := construct_returns disk process name mode
  rw [construct_eq hfile start] at hr
  cases hr
  have hinvariant : ReadsOrWrites r'.2.outputFile :=
    hr'.invariant (I := fun r => ReadsOrWrites r.2.outputFile)
      (readsOrWrites_writeAll (w := ⟨opened, process, file⟩) hflags (startChunks start))
      fun s a _ s' hs hstep => readsOrWrites_step hs hstep
  exact log_of_readsOrWrites hinvariant r'.1 process now text

/-! ## What a logger does -/

/-- The header arrives exactly when the file can be opened and takes its pieces. -/
theorem contents_start_iff {disk opened : Disk} {process : Process} {name : List Char}
    {mode : FileMode} {file : FileDescriptor} (hout : mode.flags.out = true)
    (hfile : FileDescriptor.construct disk process (logName name) mode = .ok (opened, file))
    {place : FilePlace} (hplace : process.place (logName name) = some place)
    (start : List UInt8) :
    (FileWork.writeAll ⟨opened, process, file⟩ (startChunks start)).disk.contents place =
        opened.contents place ++ startRecord start ↔ TakesStart disk process name start := by
  let w : FileWork := ⟨opened, process, file⟩
  obtain ⟨hname, htakes⟩ := FileWork.construct_keeps hfile
  have hplace' : w.process.place w.file.fileName = some place := by
    rw [← hplace, ← hname]
  have hopens := FileWork.isWritable_construct_iff hout hfile
  cases hwritable : file.fileInstance.isWritable with
  | true =>
    obtain ⟨other, hother, hopens⟩ := hopens.mp hwritable
    have heq : place = other := Option.some.inj (hplace.symm.trans hother)
    subst heq
    have hsound : w.Sound := (FileWork.construct_enters_iff hfile).2
    have hcontents := FileWork.contents_writeAll_iff hsound hwritable hplace' (startChunks start)
    rw [flatten_startChunks] at hcontents
    refine hcontents.trans ?_
    have htakes' : w.disk.takes = disk.takes := htakes
    simp only [TakesStart, hplace, Option.some.injEq, exists_eq_left', hopens, true_and, htakes']
  | false =>
    have hdisk := FileWork.disk_writeAll_of_not_isWritable (w := w) hwritable (startChunks start)
    refine iff_of_false (fun h => ?_) fun h => ?_
    -- the header is not empty
    · rw [hdisk] at h
      have hempty := List.self_eq_append_right.mp h
      cases hempty
    · obtain ⟨other, hother, hopens', -⟩ := h
      rw [hopens.mpr ⟨other, hother, hopens'⟩] at hwritable
      cases hwritable

/-- A logger writes what it is to write exactly when nothing is logged. -/
theorem logsAll_iff {mode : FileMode} (hmode : mode = .append ∨ mode = .truncate) (disk : Disk)
    (process : Process) (name : List Char) (start : List UInt8) (entries : List LogEntry) :
    LogsAll disk process name mode start entries ↔
      entries = [] ∧ TakesStart disk process name start := by
  have hout : mode.flags.out = true := by
    cases hmode with
    | inl h =>
      rw [h]
      rfl
    | inr h =>
      rw [h]
      rfl
  obtain ⟨opened, file, hfile, -⟩ := construct_returns disk process name mode
  have hconstruct := construct_eq hfile start
  constructor
  · intro h
    -- a first entry ends in an assertion, so there is none
    obtain ⟨place, opened', file', disk', logger, hplace, hfile', hlogs, hcontents⟩ := h
    rw [hfile] at hfile'
    cases hfile'
    cases entries with
    | nil =>
      rw [hconstruct] at hlogs
      cases hlogs
      rw [List.flatMap_nil, List.append_nil] at hcontents
      exact ⟨rfl, (contents_start_iff hout hfile hplace start).mp hcontents⟩
    | cons entry entries =>
      obtain ⟨r, hr, hlogs⟩ := Except.bind_eq_ok_iff.mp hlogs
      have hfails := log_of_reachable hr .init entry.time entry.text
      rw [logAll, List.foldlM_cons, hfails] at hlogs
      cases hlogs
  · rintro ⟨rfl, htakes⟩
    -- with no entry only the header is asked for
    obtain ⟨place, hplace, -⟩ := id htakes
    have hcontents := (contents_start_iff hout hfile hplace start).mpr htakes
    let w := FileWork.writeAll ⟨opened, process, file⟩ (startChunks start)
    refine ⟨place, opened, file, w.disk, ⟨w.file, start⟩, hplace, hfile, ?_, ?_⟩
    · rw [hconstruct]
      rfl
    · rw [List.flatMap_nil, List.append_nil]
      exact hcontents

open FilesystemState (atRoot blankDisk)

/-- What `ctime` says of the time 0. -/
def epoch : List UInt8 := "Thu Jan  1 00:00:00 1970\n".toList.map fun c => c.toNat.toUInt8

theorem takesStart_atRoot : TakesStart blankDisk atRoot.process ['f'] epoch :=
  ⟨([], ['f']), rfl, rfl, fun _ _ => Nat.le_refl _⟩

/-- A logger that is only made writes its header. -/
theorem logsAll_startOnly : LogsAll blankDisk atRoot.process ['f'] .append epoch [] :=
  (logsAll_iff (.inl rfl) blankDisk atRoot.process ['f'] epoch []).mpr ⟨rfl, takesStart_atRoot⟩

/-- The first string that is logged ends the process. -/
theorem first_record_fails :
    (construct blankDisk atRoot.process ['f'] .append epoch >>= logAll [⟨epoch, [120]⟩]) =
      .error .assertion ∧
    ¬ ∀ (disk : Disk) (process : Process) (name : List Char) (mode : FileMode)
      (start : List UInt8) (entries : List LogEntry), mode = .append ∨ mode = .truncate →
      TakesStart disk process name start → LogsAll disk process name mode start entries := by
  have hfails :
      (construct blankDisk atRoot.process ['f'] .append epoch >>= logAll [⟨epoch, [120]⟩]) =
        .error .assertion := rfl
  refine ⟨hfails, fun hall => ?_⟩
  obtain ⟨place, opened, file, disk', logger, -, -, hlogs, -⟩ :=
    hall _ _ _ _ _ [⟨epoch, [120]⟩] (.inl rfl) takesStart_atRoot
  rw [hfails] at hlogs
  cases hlogs

end DebugLogger

end NetworkedFS
