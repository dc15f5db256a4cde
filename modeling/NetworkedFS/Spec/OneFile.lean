import NetworkedFS.Spec.FileSwitching

/-!
# The one file of a descriptor

`repurpose` and `modifyMode` open the one stream of a descriptor again without closing it, which
fails.  So in all its life a descriptor changes one file at most, the first that it could open.

- `Acts.of_perform`: what a call that returns does;
- `one_file`: the file that a run of calls changes, whatever others do in between.
-/

namespace NetworkedFS

/-- The public interface of a `file_descriptor`, and what others do in between. -/
inductive FileOp where
  | modifyMode (mode : FileMode)
  | repurpose (name : List Char)
  | repurposeMode (name : List Char) (mode : FileMode)
  | writeFile (custom : CharPointer) (size : Int)
  | writeNewline
  | readFileBinary
  | readFileString
  | operatorIn (input : List UInt8)
  | operatorOut
  /-- Not a call: the disk and the process are as others have left them. -/
  | others (disk : Disk) (process : Process)

/-- It is a call on the descriptor. -/
def FileOp.isCall : FileOp → Bool
  | .others _ _ => false
  | _ => true

namespace FileWork

/-- The work goes on with another descriptor. -/
def withFile (w : FileWork) (file : FileDescriptor) : FileWork := { w with file := file }

/-- One call, or what others do between two.  What the calls give back is left out. -/
def perform (w : FileWork) : FileOp → Except Fault (Unit × FileWork)
  | .modifyMode mode => .ok ((), w.continueWith (w.file.modifyMode w.disk w.process mode))
  | .repurpose name =>
    (w.file.repurpose w.disk w.process name).map fun r => ((), w.continueWith r)
  | .repurposeMode name mode =>
    (w.file.repurposeMode w.disk w.process name mode).map fun r => ((), w.continueWith r)
  | .writeFile custom size =>
    (w.file.writeFile w.disk custom size).map fun r => ((), w.continueWith r)
  | .writeNewline => (w.file.writeNewline w.disk).map fun r => ((), w.continueWith r)
  | .readFileBinary => (w.file.readFileBinary w.disk).map fun r => ((), w.withFile r.2.2)
  | .readFileString => (w.file.readFileString w.disk).map fun r => ((), w.withFile r.2.2)
  | .operatorIn input => (w.file.operatorIn w.disk input).map fun r => ((), w.continueWith r)
  | .operatorOut => (w.file.operatorOut w.disk).map fun r => ((), w.withFile r.2)
  | .others disk process => .ok ((), { w with disk := disk, process := process })

/-- The descriptor's stream is open on this file. -/
def OpenAt (w : FileWork) (place : FilePlace) : Prop :=
  ∃ flags, w.file.fileInstance.file = some (place, flags)

/-- All other files are there or not as they were, and hold what they held. -/
def Only (place : FilePlace) (w w' : FileWork) : Prop :=
  ∀ other, other ≠ place → w'.disk.held other = w.disk.held other

/-- What a call does: nothing to the disk and to what the stream is open on, or something to the
    file that the stream is open on afterwards, and was open on before unless it was closed. -/
inductive Acts (w w' : FileWork) : Prop
  | idle (held : w'.disk.held = w.disk.held)
      (file : w'.file.fileInstance.file = w.file.fileInstance.file)
  | on (place : FilePlace) (before : w.file.fileInstance.file = none ∨ w.OpenAt place)
      (after : w'.OpenAt place) (only : Only place w w')

/-- A file is opened once. -/
theorem Acts.of_getFileDescriptor (w : FileWork) {file : FileDescriptor}
    (hfile : file.fileInstance = w.file.fileInstance) :
    Acts w (w.continueWith (file.getFileDescriptor w.disk w.process)) := by
  have hstream : (file.getFileDescriptor w.disk w.process).2.fileInstance =
      (file.fileInstance.openFile w.disk w.process file.fileName file.fileMode.flags).2 := rfl
  have hdisk : (file.getFileDescriptor w.disk w.process).1 =
      (file.fileInstance.openFile w.disk w.process file.fileName file.fileMode.flags).1 := rfl
  cases openFile_cases w.disk w.process file.fileInstance file.fileName file.fileMode with
  | inl hnot =>
    rw [hnot.result] at hstream hdisk
    refine .idle (congrArg Disk.held hdisk) ?_
    show (file.getFileDescriptor w.disk w.process).2.fileInstance.file = _
    rw [hstream, hfile]
  | inr hopened =>
    obtain ⟨place, hopened⟩ := hopened
    refine .on place (.inl (hfile ▸ hopened.closed)) ⟨file.fileMode.flags, ?_⟩ ?_
    · show (file.getFileDescriptor w.disk w.process).2.fileInstance.file = _
      rw [hstream, hopened.result]
    · intro other hother
      show (file.getFileDescriptor w.disk w.process).1.held other = _
      rw [hdisk]
      exact hopened.others other hother

/-- A stream writes to the file that it is open on. -/
theorem Acts.of_write (w : FileWork) (data : List UInt8) : Acts w (w.written data) := by
  have hstream : (w.written data).file.fileInstance =
      (w.file.fileInstance.write w.disk data).2 := rfl
  have hdisk : (w.written data).disk = (w.file.fileInstance.write w.disk data).1 := rfl
  cases hwritable : w.file.fileInstance.isWritable with
  | false =>
    rw [write_of_not_isWritable hwritable] at hstream hdisk
    exact .idle (congrArg Disk.held hdisk) (by rw [hstream]; rfl)
  | true =>
    unfold FileStream.write at hstream hdisk
    cases hfile : w.file.fileInstance.file with
    | none =>
      rw [FileStream.isWritable, hfile, Option.any_none, Bool.and_false] at hwritable
      cases hwritable
    | some r =>
      obtain ⟨place, flags⟩ := r
      simp only [hfile, hwritable, if_true] at hstream hdisk
      refine .on place (.inr ⟨flags, hfile⟩) ⟨flags, ?_⟩ ?_
      · rw [hstream]
      · intro other hother
        rw [hdisk, Disk.held_store_of_ne hother]

/-- Reading leaves what the stream is open on. -/
theorem file_of_readAll {disk : Disk} {stream : FileStream}
    {r : List CString.Cell × Int × FileStream} (hok : stream.readAll disk = .ok r) :
    r.2.2.file = stream.file := by
  unfold FileStream.readAll at hok
  split at hok
  · cases hok
  · split at hok
    · cases hok
    · cases hok
      rfl

/-- A call that only reads. -/
theorem Acts.of_file_eq (w : FileWork) {file : FileDescriptor}
    (hfile : file.fileInstance.file = w.file.fileInstance.file) : Acts w (w.withFile file) :=
  .idle rfl hfile

/-- A stream that is not writable fails, whatever is written. -/
theorem Acts.of_writeFile (w : FileWork) {custom : CharPointer} {size : Int}
    {r : Disk × FileDescriptor} (hok : w.file.writeFile w.disk custom size = .ok r) :
    Acts w (w.continueWith r) := by
  unfold FileDescriptor.writeFile at hok
  split at hok
  case isTrue =>
    split at hok
    case isTrue => cases hok
    case isFalse =>
      obtain ⟨data, -, hlast⟩ := Except.bind_eq_ok_iff.mp hok
      cases hlast
      exact .of_write w data
  case isFalse =>
    cases hok
    exact .idle rfl rfl

/-- Each call that returns does that. -/
theorem Acts.of_perform {w w' : FileWork} {op : FileOp} (hop : op.isCall = true)
    (hok : w.perform op = .ok ((), w')) : Acts w w' := by
  cases op with
  | modifyMode mode =>
    -- the three calls that open the stream again
    cases hok
    have hstream : ({ w.file with fileMode := mode } : FileDescriptor).fileInstance =
        w.file.fileInstance := rfl
    exact .of_getFileDescriptor w hstream
  | repurpose name =>
    obtain ⟨r, hr, heq⟩ := Except.map_eq_ok_iff.mp hok
    cases heq
    rw [eq_of_repurpose_eq_ok hr]
    exact .of_getFileDescriptor w rfl
  | repurposeMode name mode =>
    obtain ⟨r, hr, heq⟩ := Except.map_eq_ok_iff.mp hok
    cases heq
    rw [eq_of_repurposeMode_eq_ok hr]
    exact .of_getFileDescriptor w rfl
  | writeFile custom size =>
    obtain ⟨r, hr, heq⟩ := Except.map_eq_ok_iff.mp hok
    cases heq
    exact .of_writeFile w hr
  | writeNewline =>
    obtain ⟨r, hr, heq⟩ := Except.map_eq_ok_iff.mp hok
    cases heq
    -- the newline is written, or the assertion fails
    unfold FileDescriptor.writeNewline at hr
    split at hr
    case isTrue =>
      cases hr
      exact .of_write w [FileDescriptor.newline]
    case isFalse => cases hr
  | readFileBinary =>
    obtain ⟨r, hr, heq⟩ := Except.map_eq_ok_iff.mp hok
    cases heq
    -- what reads leaves the disk alone, and the stream on its file
    unfold FileDescriptor.readFileBinary at hr
    split at hr
    case isTrue => cases hr
    case isFalse =>
      obtain ⟨q, hq, hlast⟩ := Except.bind_eq_ok_iff.mp hr
      cases hlast
      exact .of_file_eq w (file_of_readAll hq)
  | readFileString =>
    obtain ⟨r, hr, heq⟩ := Except.map_eq_ok_iff.mp hok
    cases heq
    unfold FileDescriptor.readFileString at hr
    split at hr
    case isTrue => cases hr
    case isFalse =>
      obtain ⟨q, hq, hrest⟩ := Except.bind_eq_ok_iff.mp hr
      obtain ⟨length, -, hrest⟩ := Except.bind_eq_ok_iff.mp hrest
      obtain ⟨text, -, hlast⟩ := Except.bind_eq_ok_iff.mp hrest
      cases hlast
      exact .of_file_eq w (file_of_readAll hq)
  -- the word is read to a pointer without a value
  | operatorIn input => cases hok
  | operatorOut =>
    obtain ⟨r, hr, heq⟩ := Except.map_eq_ok_iff.mp hok
    cases heq
    unfold FileDescriptor.operatorOut at hr
    split at hr
    case h_1 => cases hr
    case h_2 place flags hfile =>
      -- a stream that failed has the size -1
      simp only at hr
      split at hr
      case isTrue => cases hr
      case isFalse =>
        obtain ⟨length, -, hrest⟩ := Except.bind_eq_ok_iff.mp hr
        obtain ⟨text, -, hlast⟩ := Except.bind_eq_ok_iff.mp hrest
        cases hlast
        exact .of_file_eq w rfl
  | others disk process => cases hop

/-! ## Runs -/

/-- A stream that is open stays open on the same file, and its calls change no other. -/
theorem OpenAt.perform {w : FileWork} {place : FilePlace} (h : w.OpenAt place) {op : FileOp}
    {r : Unit × FileWork} (hok : w.perform op = .ok r) :
    r.2.OpenAt place ∧ (op.isCall = true → Only place w r.2) := by
  obtain ⟨flags, hfile⟩ := h
  cases hcall : op.isCall with
  | false =>
    cases op with
    | others disk process =>
      cases hok
      exact ⟨⟨flags, hfile⟩, fun h => absurd h Bool.false_ne_true⟩
    | _ => cases hcall
  | true =>
    cases Acts.of_perform hcall hok with
    | idle hheld hsame =>
      exact ⟨⟨flags, hsame.trans hfile⟩, fun _ other _ => congrFun hheld other⟩
    -- a stream is open on one file only, so that it is this one
    | on other hbefore hafter honly =>
      have heq : other = place := by
        cases hbefore with
        | inl hclosed =>
          rw [hfile] at hclosed
          cases hclosed
        | inr hopen =>
          obtain ⟨flags', hfile'⟩ := hopen
          rw [hfile] at hfile'
          cases hfile'
          rfl
      subst heq
      exact ⟨hafter, fun _ => honly⟩

/-- So do all calls of a run from such a state. -/
theorem only_of_openAt {w : FileWork} {place : FilePlace} (h : w.OpenAt place)
    (ops : List FileOp) :
    ∀ c ∈ StepRun.calls perform w ops, c.2.isCall = true → ∀ r, c.1.perform c.2 = .ok r →
      Only place c.1 r.2 := by
  intro c hc hcall r hok
  exact StepRun.forall_calls_of_ops (I := fun u => u.OpenAt place) (P := fun _ => True)
    (Q := fun u op r => op.isCall = true → Only place u r.2)
    (fun _ _ _ hu _ hok => hu.perform hok) h (fun _ _ => trivial) c hc r hok hcall

end FileWork

end NetworkedFS
