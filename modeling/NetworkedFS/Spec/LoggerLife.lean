import NetworkedFS.Spec.LogRecords

/-!
# The life of a logger

What a logger does to the disk from its constructor to its end, whatever is called in which
order.  Only the constructor writes, and a stream that is open is not opened again, so that one
file at most is not as it was before.

## Key results

- `FileWork.contents_writeAll`: what is written in pieces is a beginning of all of them;
- `Opens.of_step`: what a call does after the constructor;
- `life_of_logger`: the one file that changes, and what it gets.
-/

namespace NetworkedFS

/-! ## Writing in pieces -/

namespace FileWork

/-- Writing leaves the file that a stream is open on. -/
theorem file_write (disk : Disk) (stream : FileStream) (data : List UInt8) :
    (stream.write disk data).2.file = stream.file := by
  unfold FileStream.write
  split
  · rfl
  · split
    · rfl
    · rfl

theorem file_writeAll (w : FileWork) (chunks : List (List UInt8)) :
    (w.writeAll chunks).file.fileInstance.file = w.file.fileInstance.file := by
  induction chunks generalizing w with
  | nil => rfl
  | cons chunk chunks ih =>
    have hfirst : (w.written chunk).file.fileInstance.file = w.file.fileInstance.file :=
      file_write w.disk w.file.fileInstance chunk
    exact (ih (w.written chunk)).trans hfirst

/-- A stream that has not written all of a piece writes nothing more. -/
theorem not_isWritable_written {w : FileWork} (hw : w.Sound)
    (hwritable : w.file.fileInstance.isWritable = true) {place : FilePlace}
    (hplace : w.process.place w.file.fileName = some place) {chunk : List UInt8}
    (hshort : ¬ chunk.length ≤ w.disk.takes place chunk) :
    (w.written chunk).file.fileInstance.isWritable = false := by
  obtain ⟨other, hother, -, hstream⟩ := write_of_isWritable hw hwritable chunk
  have heq : place = other := Option.some.inj (hplace.symm.trans hother)
  subst heq
  have hfile : (w.written chunk).file.fileInstance =
      (w.file.fileInstance.write w.disk chunk).2 := rfl
  have hlength : (chunk.take (w.disk.takes place chunk)).length < chunk.length := by
    rw [List.length_take]
    omega
  rw [FileStream.isWritable, hfile, hstream, decide_eq_true hlength]
  rfl

/-- Behind what the file holds comes a beginning of what is written. -/
theorem contents_writeAll {w : FileWork} (hw : w.Sound) {place : FilePlace}
    (hplace : w.process.place w.file.fileName = some place) (chunks : List (List UInt8)) :
    ∃ data, data <+: chunks.flatten ∧ (w.writeAll chunks).disk.contents =
      Function.update w.disk.contents place (w.disk.contents place ++ data) := by
  induction chunks generalizing w with
  | nil =>
    refine ⟨[], List.prefix_rfl, ?_⟩
    rw [List.append_nil, Function.update_eq_self]
    rfl
  | cons chunk chunks ih =>
    rw [List.flatten_cons]
    cases hwritable : w.file.fileInstance.isWritable with
    | false =>
      refine ⟨[], List.nil_prefix, ?_⟩
      rw [disk_writeAll_of_not_isWritable hwritable, List.append_nil, Function.update_eq_self]
    | true =>
      obtain ⟨other, hother, hfirst, -⟩ := write_of_isWritable hw hwritable chunk
      have heq : place = other := Option.some.inj (hplace.symm.trans hother)
      subst heq
      have hfirst : (w.written chunk).disk.contents = Function.update w.disk.contents place
          (w.disk.contents place ++ chunk.take (w.disk.takes place chunk)) := hfirst
      by_cases hall : chunk.length ≤ w.disk.takes place chunk
      -- the stream goes on with the next piece
      · obtain ⟨data, hdata, hrest⟩ := ih (sound_written hw chunk) hplace
        refine ⟨chunk ++ data, (List.prefix_append_right_inj chunk).mpr hdata, ?_⟩
        rw [List.take_of_length_le hall] at hfirst
        show ((w.written chunk).writeAll chunks).disk.contents = _
        rw [hrest, hfirst, Function.update_self, Function.update_idem, List.append_assoc]
      -- the stream has failed, and this piece is the last that is begun
      · refine ⟨chunk.take (w.disk.takes place chunk),
          (List.take_prefix _ chunk).trans (List.prefix_append chunk _), ?_⟩
        rw [← hfirst]
        exact congrArg Disk.contents (disk_writeAll_of_not_isWritable
          (not_isWritable_written hw hwritable hplace hall) chunks)

end FileWork

namespace DebugLogger

/-! ## After the constructor -/

/-- The logger's stream is open. -/
def IsOpen (logger : DebugLogger) : Prop := logger.outputFile.fileInstance.file ≠ none

/-- What calls do after the constructor: nothing to the disk, or a closed logger opens a file,
    which may be emptied. -/
inductive Opens (r r' : Disk × DebugLogger) : Prop
  | never (disk : r'.1 = r.1) (isOpen : r.2.IsOpen → r'.2.IsOpen)
  | once (place : FilePlace) (kept : List UInt8) (closed : ¬ r.2.IsOpen) (isOpen : r'.2.IsOpen)
      (held : kept = r.1.contents place ∨ kept = [])
      (contents : r'.1.contents = Function.update r.1.contents place kept)

theorem Opens.trans {r r' r'' : Disk × DebugLogger} (h : Opens r r') (h' : Opens r' r'') :
    Opens r r'' := by
  cases h with
  | never hdisk hopen =>
    cases h' with
    | never hdisk' hopen' => exact .never (hdisk'.trans hdisk) fun h => hopen' (hopen h)
    | once place kept hclosed' hopen' hheld hcontents =>
      rw [hdisk] at hheld hcontents
      exact .once place kept (fun h => hclosed' (hopen h)) hopen' hheld hcontents
  | once place kept hclosed hopen hheld hcontents =>
    cases h' with
    | never hdisk' hopen' =>
      rw [← hdisk'] at hcontents
      exact .once place kept hclosed (hopen' hopen) hheld hcontents
    -- an open stream is not opened again
    | once _ _ hclosed' => exact absurd hopen hclosed'

/-- A descriptor with the logger's stream is opened, or not. -/
theorem Opens.of_getFileDescriptor (disk : Disk) (process : Process) (logger : DebugLogger)
    {file : FileDescriptor} (hfile : file.fileInstance = logger.outputFile.fileInstance) :
    Opens (disk, logger) ((file.getFileDescriptor disk process).1,
      { logger with outputFile := (file.getFileDescriptor disk process).2 }) := by
  have hstream : (file.getFileDescriptor disk process).2.fileInstance =
      (file.fileInstance.openFile disk process file.fileName file.fileMode.flags).2 := rfl
  have hdisk : (file.getFileDescriptor disk process).1 =
      (file.fileInstance.openFile disk process file.fileName file.fileMode.flags).1 := rfl
  cases FileWork.openFile_cases disk process file.fileInstance file.fileName file.fileMode with
  | inl hnot =>
    rw [hnot.result] at hstream hdisk
    -- the stream was open already, or the file cannot be opened
    refine .never hdisk fun hopen => ?_
    show (file.getFileDescriptor disk process).2.fileInstance.file ≠ none
    rw [hstream, hfile]
    exact hopen
  | inr hopened =>
    obtain ⟨place, hopened⟩ := hopened
    have hcontents := hopened.contents
    rw [← hdisk] at hcontents
    have hclosed : ¬ logger.IsOpen := fun hopen => hopen (hfile ▸ hopened.closed)
    have hopen : (file.getFileDescriptor disk process).2.fileInstance.file ≠ none := by
      rw [hstream, hopened.result]
      exact Option.some_ne_none _
    -- the file is emptied only in the mode for truncation
    by_cases hmode : file.fileMode = .truncate
    · rw [if_pos hmode] at hcontents
      exact .once place [] hclosed hopen (.inr rfl) hcontents
    · rw [if_neg hmode] at hcontents
      exact .once place (disk.contents place) hclosed hopen (.inl rfl)
        (hcontents.trans (Function.update_eq_self place disk.contents).symm)

/-- A call that returns asks for a file to be opened, and does nothing else. -/
theorem step_eq_ok {process : Process} {r r' : Disk × DebugLogger} {call : LoggerCall}
    (hr : ReadsOrWrites r.2.outputFile) (hok : step process r call = .ok ((), r')) :
    ∃ file : FileDescriptor, file.fileInstance = r.2.outputFile.fileInstance ∧
      r' = ((file.getFileDescriptor r.1 process).1,
        { r.2 with outputFile := (file.getFileDescriptor r.1 process).2 }) := by
  -- truncating and appending are one function with a mode, and open the stream again
  have hmode : ∀ name mode, r.2.setMode r.1 process name mode = .ok r' →
      ∃ file : FileDescriptor, file.fileInstance = r.2.outputFile.fileInstance ∧
        r' = ((file.getFileDescriptor r.1 process).1,
          { r.2 with outputFile := (file.getFileDescriptor r.1 process).2 }) := by
    intro name mode hset
    unfold setMode at hset
    split at hset
    · cases hset
      exact ⟨{ r.2.outputFile with fileMode := mode }, rfl, rfl⟩
    · obtain ⟨q, hq, hlast⟩ := Except.bind_eq_ok_iff.mp hset
      rw [FileWork.eq_of_repurposeMode_eq_ok hq] at hlast
      cases hlast
      exact ⟨{ r.2.outputFile with fileName := name, fileMode := mode }, rfl, rfl⟩
  cases call with
  | log now text =>
    -- no entry is ever logged
    have hfails : step process r (.log now text) = .error .assertion :=
      congrArg (Except.map _) (log_of_readsOrWrites hr r.1 process now text)
    rw [hfails] at hok
    cases hok
  | setName name =>
    obtain ⟨q, hset, heq⟩ := Except.map_eq_ok_iff.mp hok
    cases heq
    unfold setName at hset
    split at hset
    · cases hset
    · obtain ⟨q, hq, hlast⟩ := Except.bind_eq_ok_iff.mp hset
      rw [FileWork.eq_of_repurpose_eq_ok hq] at hlast
      cases hlast
      exact ⟨{ r.2.outputFile with fileName := name }, rfl, rfl⟩
  | setTruncate name =>
    obtain ⟨q, hset, heq⟩ := Except.map_eq_ok_iff.mp hok
    cases heq
    exact hmode name .truncate hset
  | setAppend name =>
    obtain ⟨q, hset, heq⟩ := Except.map_eq_ok_iff.mp hok
    cases heq
    exact hmode name .append hset

/-- Whatever is called after the constructor, one file is opened at most, and the time of the
    last record stays that of the header. -/
theorem opens_final (process : Process) {r : Disk × DebugLogger}
    (hr : ReadsOrWrites r.2.outputFile) (calls : List LoggerCall) :
    Opens r (StepRun.final (step process) r calls) ∧
      (StepRun.final (step process) r calls).2.timeOutputFile = r.2.timeOutputFile := by
  apply StepRun.final_of_steps (I := fun r => ReadsOrWrites r.2.outputFile)
    (R := fun r r' => Opens r r' ∧ r'.2.timeOutputFile = r.2.timeOutputFile)
  · exact fun r => ⟨.never rfl id, rfl⟩
  · exact fun r r' r'' h h' => ⟨h.1.trans h'.1, h'.2.trans h.2⟩
  · intro r call _ r' hr hok
    obtain ⟨file, hfile, rfl⟩ := step_eq_ok hr hok
    exact ⟨readsOrWrites_step hr hok, .of_getFileDescriptor r.1 process r.2 hfile, rfl⟩
  · exact hr

/-! ## From the constructor on -/

/-- The constructor opens its file and writes a beginning of the header to it, or does nothing
    to the disk. -/
theorem contents_construct (disk : Disk) (process : Process) (name : List Char)
    (mode : FileMode) (start : List UInt8) :
    ∃ r, construct disk process name mode start = .ok r ∧ ReadsOrWrites r.2.outputFile ∧
      r.2.timeOutputFile = start ∧
      (r.1.contents = disk.contents ∨ r.2.IsOpen ∧ ∃ place kept data,
        (kept = disk.contents place ∨ kept = []) ∧ data <+: startRecord start ∧
        r.1.contents = Function.update disk.contents place (kept ++ data)) := by
  obtain ⟨opened, file, hfile, hflags⟩ := construct_returns disk process name mode
  let w : FileWork := ⟨opened, process, file⟩
  refine ⟨_, construct_eq hfile start,
    readsOrWrites_writeAll (w := w) hflags (startChunks start), rfl, ?_⟩
  obtain ⟨-, stream, hopen, hfields⟩ := FileDescriptor.construct_eq_ok_iff.mp hfile
  have hstream : file.fileInstance = stream := by rw [hfields]
  -- the file is opened once, by the constructor
  cases FileWork.openFile_cases disk process {} (logName name) mode with
  | inl hnot =>
    rw [hnot.result] at hopen
    obtain ⟨rfl, rfl⟩ := Prod.mk.inj hopen
    -- a stream that is not open takes nothing of the header
    have hwritable : w.file.fileInstance.isWritable = false := by
      show file.fileInstance.isWritable = false
      rw [hstream]
      rfl
    exact .inl (congrArg Disk.contents
      (FileWork.disk_writeAll_of_not_isWritable hwritable (startChunks start)))
  | inr hopened =>
    obtain ⟨place, hopened⟩ := hopened
    have hplace : w.process.place w.file.fileName = some place := by
      rw [← hopened.leads, ← (FileWork.construct_keeps hfile).1]
    have hsound : w.Sound := (FileWork.construct_enters_iff hfile).2
    -- otherwise it takes a beginning of it, behind what the mode has left
    obtain ⟨data, hdata, hwritten⟩ :=
      FileWork.contents_writeAll hsound hplace (startChunks start)
    rw [flatten_startChunks] at hdata
    have hcontents := hopened.contents
    have hresult := hopened.result
    rw [hopen] at hcontents hresult
    have hopened' : stream.file = some (place, mode.flags) := congrArg FileStream.file hresult
    have hisOpen : IsOpen ⟨(w.writeAll (startChunks start)).file, start⟩ := by
      show (w.writeAll (startChunks start)).file.fileInstance.file ≠ none
      rw [FileWork.file_writeAll]
      show file.fileInstance.file ≠ none
      rw [hstream, hopened']
      exact Option.some_ne_none _
    refine .inr ⟨hisOpen, place, opened.contents place, data, ?_, hdata, ?_⟩
    · rw [hcontents]
      split
      · exact .inr (Function.update_self ..)
      · exact .inl rfl
    · rw [hwritten]
      show Function.update opened.contents place _ = _
      rw [hcontents]
      split
      · rw [Function.update_idem]
      · rfl

/-- From its constructor on, whatever is called, a logger changes one file at most: it may be
    emptied, and then gets a beginning of the header.  The time of the last record is that of
    the header. -/
theorem life_of_logger (disk : Disk) (process : Process) (name : List Char) (mode : FileMode)
    (start : List UInt8) :
    ∃ r, construct disk process name mode start = .ok r ∧ ∀ calls : List LoggerCall,
      let r' := StepRun.final (step process) r calls
      r'.2.getLastLog = start ∧ ∃ place kept data,
        (kept = disk.contents place ∨ kept = []) ∧ data <+: startRecord start ∧
        r'.1.contents = Function.update disk.contents place (kept ++ data) := by
  obtain ⟨r, hr, hflags, htime, hcontents⟩ := contents_construct disk process name mode start
  refine ⟨r, hr, fun calls => ?_⟩
  obtain ⟨hopens, hlast⟩ := opens_final process hflags calls
  refine ⟨hlast.trans htime, ?_⟩
  have hnil : ∀ kept : List UInt8, kept ++ [] = kept := List.append_nil
  cases hcontents with
  | inl hsame =>
    cases hopens with
    | never hdisk _ =>
      refine ⟨([], []), disk.contents ([], []), [], .inl rfl, List.nil_prefix, ?_⟩
      rw [hdisk, hsame, hnil, Function.update_eq_self]
    | once place kept _ _ hheld hafter =>
      rw [hsame] at hheld hafter
      exact ⟨place, kept, [], hheld, List.nil_prefix, by rw [hafter, hnil]⟩
  | inr hwritten =>
    obtain ⟨hopen, place, kept, data, hkept, hdata, hheader⟩ := hwritten
    cases hopens with
    | never hdisk _ => exact ⟨place, kept, data, hkept, hdata, by rw [hdisk, hheader]⟩
    | once _ _ hclosed => exact absurd hopen hclosed

end DebugLogger

end NetworkedFS
