import NetworkedFS.Native.FileStatus
import NetworkedFS.Spec.DirectoryTracking

/-!
# What a path is now, and what it was

`fileExists`, `directoryExists` and `listCurrentDirectory` answer from one status structure.
Where `stat` fails, the structure still holds what the last one that succeeded said, and that
is taken for the answer.

## Key results

- `listEntries_eq_iff`: the names and the status for which the loop lists what is there;
- `answersNow_iff`: the queries that are answered by what is there now;
- `runAnswersNow_iff`: the runs all of whose queries are;
- `listCurrentDirectory_eq_filesystem`: a listing without stale entries is that of the
  filesystem head.
-/

namespace NetworkedFS

open PathName (Name)

namespace StatusHead

variable {view : SystemView}

/-! ## What is there -/

/-- An entry of a listing, for a path of some kind. -/
def listedAs (name : Name) : FileKind → Option (Name × Bool)
  | .regular => some (name, true)
  | .directory => some (name, false)
  | .other => none

/-- The entries that are regular files or directories, with whether they are files. -/
def entriesNow (view : SystemView) (currentDirectory : List Char) (names : List Name) :
    List (Name × Bool) :=
  names.filterMap fun name => (view.stat (currentDirectory ++ name)).bind (listedAs name)

/-- The functions that answer from the status structure. -/
inductive StatusQuery where
  | fileExists (path : List Char)
  | directoryExists (path : List Char)
  | listCurrentDirectory (directory : List Char)
  deriving DecidableEq, Repr

/-- What they answer. -/
inductive StatusAnswer where
  | exists_ (result : Bool)
  | listing (result : Option (List (Name × Bool)))
  deriving DecidableEq, Repr

/-- A query, with what the system says while it is answered. -/
def step (s : StatusHead) (c : SystemView × StatusQuery) :
    Except Fault (StatusAnswer × StatusHead) :=
  match c.2 with
  | .fileExists path => (s.fileExists c.1 path).map fun r => (.exists_ r.1, r.2)
  | .directoryExists path => (s.directoryExists c.1 path).map fun r => (.exists_ r.1, r.2)
  | .listCurrentDirectory directory =>
    (s.listCurrentDirectory c.1 directory).map fun r => (.listing r.1, r.2)

/-- What a query is to answer; a directory that is not known or cannot be opened has no
    content. -/
def answerNow (s : StatusHead) (c : SystemView × StatusQuery) : Option StatusAnswer :=
  match c.2 with
  | .fileExists path => some (.exists_ (c.1.stat path = some .regular))
  | .directoryExists path => some (.exists_ (c.1.stat path = some .directory))
  | .listCurrentDirectory directory =>
    if s.filesystem.head.directoryKnown then
      (c.1.readdir (listedDirectory directory)).map fun names =>
        .listing (listResult (entriesNow c.1 (listedDirectory directory) names))
    else none

/-- The answer is what is there now. -/
def AnswersNow (s : StatusHead) (c : SystemView × StatusQuery) : Prop :=
  ∀ answer, s.answerNow c = some answer → ∃ s', s.step c = .ok (answer, s')

/-! ## What may be held -/

/-- A failing `stat` of a path that is asked to be of a kind finds another one in the
    structure. -/
def NotStale (view : SystemView) (status : Option FileKind) (kind : FileKind)
    (path : List Char) : Prop :=
  view.stat path = none → ∃ held, status = some held ∧ held ≠ kind

/-- Each entry whose `stat` fails comes after one, or a status, that is neither a file nor a
    directory, with no other successful `stat` in between. -/
def NoStaleEntry (view : SystemView) (currentDirectory : List Char) :
    Option FileKind → List Name → Prop
  | _, [] => True
  | status, name :: names =>
    (view.stat (currentDirectory ++ name) = none → status = some .other) ∧
      NoStaleEntry view currentDirectory ((view.stat (currentDirectory ++ name)).or status) names

/-- The condition under which a query is answered by what is there now. -/
def Fresh (s : StatusHead) (c : SystemView × StatusQuery) : Prop :=
  match c.2 with
  | .fileExists path => NotStale c.1 s.statusStructure .regular path
  | .directoryExists path => NotStale c.1 s.statusStructure .directory path
  | .listCurrentDirectory directory => s.filesystem.head.directoryKnown = true →
    ∀ names, c.1.readdir (listedDirectory directory) = some names →
      NoStaleEntry c.1 (listedDirectory directory) s.statusStructure names

/-! ## Single paths -/

/-- The answer comes from the path, or else from what the structure held. -/
theorem kindExists_eq (view : SystemView) (s : StatusHead) (kind : FileKind) (path : List Char) :
    s.kindExists view kind path = match (view.stat path).or s.statusStructure with
      | none => .error .undefined
      | some held => .ok (held = kind, { s with statusStructure := some held }) := by
  unfold kindExists isKind getFileStatusFunction
  cases (view.stat path).or s.statusStructure with
  | none => rfl
  | some held => rfl

/-- A path is found to be of a kind exactly when it is, unless the structure is stale. -/
theorem kindExists_eq_iff (view : SystemView) (s : StatusHead) (kind : FileKind)
    (path : List Char) :
    (∃ s', s.kindExists view kind path = .ok (decide (view.stat path = some kind), s')) ↔
      NotStale view s.statusStructure kind path := by
  rw [kindExists_eq]
  cases hstat : view.stat path with
  | some held =>
    refine iff_of_true ⟨{ s with statusStructure := some held }, ?_⟩ fun h => ?_
    · simp
    · rw [hstat] at h
      cases h
  | none =>
    simp only [NotStale, hstat, Option.none_or, forall_const, reduceCtorEq, decide_false]
    cases s.statusStructure with
    | none => simp
    | some held => simp

/-! ## Listings -/

/-- One entry of a listing: what is listed for it depends on what the structure says then. -/
theorem listEntries_cons (view : SystemView) (currentDirectory : List Char) (name : Name)
    (names : List Name) (s : StatusHead) :
    listEntries view currentDirectory (name :: names) s =
      match (view.stat (currentDirectory ++ name)).or s.statusStructure with
      | none => .error .undefined
      | some held =>
        (listEntries view currentDirectory names { s with statusStructure := some held }).map
          fun r => ((listedAs name held).toList ++ r.1, r.2) := by
  simp only [listEntries, directoryExists, fileExists, kindExists_eq]
  cases hheld : (view.stat (currentDirectory ++ name)).or s.statusStructure with
  | none => rfl
  | some held =>
    -- the second `stat` says the same as the first
    have hsame : (view.stat (currentDirectory ++ name)).or (some held) = some held := by
      cases hstat : view.stat (currentDirectory ++ name) with
      | none => rfl
      | some kind =>
        rw [hstat] at hheld
        exact hheld
    simp only [bind, Except.bind, hsame]
    cases listEntries view currentDirectory names { s with statusStructure := some held } with
    | error e => cases held <;> rfl
    | ok r => cases held <;> rfl

theorem entriesNow_cons (view : SystemView) (currentDirectory : List Char) (name : Name)
    (names : List Name) :
    entriesNow view currentDirectory (name :: names) =
      ((view.stat (currentDirectory ++ name)).bind (listedAs name)).toList ++
        entriesNow view currentDirectory names := by
  rw [entriesNow, List.filterMap_cons]
  cases (view.stat (currentDirectory ++ name)).bind (listedAs name) with
  | none => rfl
  | some entry => rfl

/-- Nothing that is there is left out. -/
theorem length_entriesNow_le {currentDirectory : List Char} {names : List Name}
    {s s' : StatusHead} {entries : List (Name × Bool)}
    (h : listEntries view currentDirectory names s = .ok (entries, s')) :
    (entriesNow view currentDirectory names).length ≤ entries.length := by
  induction names generalizing s entries with
  | nil => exact Nat.zero_le _
  | cons name names ih =>
    rw [listEntries_cons] at h
    rw [entriesNow_cons, List.length_append]
    cases hstat : view.stat (currentDirectory ++ name) with
    -- the entry is in both lists
    | some held =>
      rw [hstat] at h
      obtain ⟨r, hr, h⟩ := Except.map_eq_ok_iff.mp h
      cases h
      rw [List.length_append]
      exact Nat.add_le_add_left (ih hr) _
    -- the entry is not there, and is listed all the same, with the answer before
    | none =>
      rw [hstat, Option.none_or] at h
      cases hstatus : s.statusStructure with
      | none =>
        rw [hstatus] at h
        cases h
      | some held =>
        rw [hstatus] at h
        obtain ⟨r, hr, h⟩ := Except.map_eq_ok_iff.mp h
        cases h
        rw [Option.bind_none, Option.toList_none, List.length_nil, Nat.zero_add,
          List.length_append]
        exact Nat.le_add_left_of_le (ih hr)

/-- The loop lists what is there exactly when no entry is stale. -/
theorem listEntries_eq_iff (view : SystemView) (currentDirectory : List Char)
    (names : List Name) (s : StatusHead) :
    (∃ s', listEntries view currentDirectory names s =
        .ok (entriesNow view currentDirectory names, s')) ↔
      NoStaleEntry view currentDirectory s.statusStructure names := by
  induction names generalizing s with
  | nil => exact iff_of_true ⟨s, rfl⟩ trivial
  | cons name names ih =>
    rw [listEntries_cons, entriesNow_cons, NoStaleEntry]
    cases hstat : view.stat (currentDirectory ++ name) with
    | some held =>
      -- a call of `stat` that works sets the structure, and the rest starts from that
      have hrest := ih { s with statusStructure := some held }
      rw [Option.some_or, Option.bind_some]
      refine (Except.exists_map_fst_eq_ok_iff (List.append_right_injective _)).trans
        (hrest.trans ?_)
      simp
    | none =>
      rw [Option.none_or, Option.bind_none, Option.toList_none, List.nil_append]
      -- after one that does not work the structure is still that of the last one
      cases hstatus : s.statusStructure with
      | none => simp
      | some held =>
        by_cases hother : held = .other
        · have hrest := ih { s with statusStructure := some held }
          rw [hother] at hrest ⊢
          refine (Except.exists_map_fst_eq_ok_iff (List.append_right_injective [])).trans
            (hrest.trans ?_)
          simp
        -- the entry is listed, and all that are there as well
        · refine iff_of_false (fun h => ?_) fun h => hother (Option.some.inj (h.1 rfl))
          obtain ⟨s', h⟩ := h
          obtain ⟨r, hr, h⟩ := Except.map_eq_ok_iff.mp h
          have hle := length_entriesNow_le hr
          have hlength := congrArg (fun q => q.1.length) h
          cases held with
          | regular =>
            simp only [listedAs, Option.toList_some, List.cons_append, List.nil_append,
              List.length_cons] at hlength
            omega
          | directory =>
            simp only [listedAs, Option.toList_some, List.cons_append, List.nil_append,
              List.length_cons] at hlength
            omega
          | other => exact hother rfl

theorem listResult_injective : Function.Injective listResult := by
  intro entries entries' h
  unfold listResult at h
  split at h
  · split at h
    · rename_i hnil hnil'
      exact hnil.trans hnil'.symm
    · cases h
  · split at h
    · cases h
    · exact Option.some.inj h

/-- A directory that is known and has content is listed by the loop. -/
theorem listCurrentDirectory_eq {s : StatusHead} {directory : List Char} {names : List Name}
    (hknown : s.filesystem.head.directoryKnown = true)
    (hnames : view.readdir (listedDirectory directory) = some names) :
    s.listCurrentDirectory view directory =
      (listEntries view (listedDirectory directory) names s).map
        fun r => (listResult r.1, r.2) := by
  simp only [listCurrentDirectory, if_pos hknown, hnames]
  rfl

/-- A listing is what is there exactly when no entry is stale. -/
theorem listCurrentDirectory_eq_iff {s : StatusHead} {directory : List Char} {names : List Name}
    (hknown : s.filesystem.head.directoryKnown = true)
    (hnames : view.readdir (listedDirectory directory) = some names) :
    (∃ s', s.listCurrentDirectory view directory =
        .ok (listResult (entriesNow view (listedDirectory directory) names), s')) ↔
      NoStaleEntry view (listedDirectory directory) s.statusStructure names := by
  rw [listCurrentDirectory_eq hknown hnames, ← listEntries_eq_iff]
  exact Except.exists_map_fst_eq_ok_iff listResult_injective

/-! ## Queries -/

/-- A query that has an answer is to give it. -/
theorem answersNow_iff_of_answerNow {s : StatusHead} {c : SystemView × StatusQuery}
    {answer : StatusAnswer} (h : s.answerNow c = some answer) :
    s.AnswersNow c ↔ ∃ s', s.step c = .ok (answer, s') := by
  simp only [AnswersNow, h, Option.some.injEq, forall_eq']

/-- A query is answered by what is there now exactly when the structure is not stale. -/
theorem answersNow_iff (s : StatusHead) (c : SystemView × StatusQuery) :
    s.AnswersNow c ↔ s.Fresh c := by
  obtain ⟨view, query⟩ := c
  cases query with
  | fileExists path =>
    rw [answersNow_iff_of_answerNow rfl]
    exact (Except.exists_map_fst_eq_ok_iff fun _ _ => StatusAnswer.exists_.inj).trans
      (kindExists_eq_iff view s .regular path)
  | directoryExists path =>
    rw [answersNow_iff_of_answerNow rfl]
    exact (Except.exists_map_fst_eq_ok_iff fun _ _ => StatusAnswer.exists_.inj).trans
      (kindExists_eq_iff view s .directory path)
  | listCurrentDirectory directory =>
    by_cases hlisted : s.filesystem.head.directoryKnown = true ∧
        ∃ names, view.readdir (listedDirectory directory) = some names
    · obtain ⟨hknown, names, hnames⟩ := hlisted
      have hanswer : s.answerNow (view, .listCurrentDirectory directory) =
          some (.listing (listResult (entriesNow view (listedDirectory directory) names))) := by
        simp only [answerNow, if_pos hknown, hnames, Option.map_some]
      have hfresh : s.Fresh (view, .listCurrentDirectory directory) ↔
          NoStaleEntry view (listedDirectory directory) s.statusStructure names := by
        simp only [Fresh, hknown, hnames, Option.some.injEq, forall_const, forall_eq']
      rw [answersNow_iff_of_answerNow hanswer, hfresh]
      exact (Except.exists_map_fst_eq_ok_iff fun _ _ => StatusAnswer.listing.inj).trans
        (listCurrentDirectory_eq_iff hknown hnames)
    -- there is nothing to be listed
    · refine iff_of_true (fun answer h => ?_) fun hknown names hnames => ?_
      · have hanswer : s.answerNow (view, .listCurrentDirectory directory) = none := by
          simp only [answerNow]
          split
          · rename_i hknown
            rw [Option.map_eq_none_iff, Option.eq_none_iff_forall_ne_some]
            exact fun names hnames => hlisted ⟨hknown, names, hnames⟩
          · rfl
        rw [hanswer] at h
        cases h
      · exact absurd ⟨hknown, names, hnames⟩ hlisted

/-- In a run every query is answered by what is there at the time exactly when the structure
    is stale for none of them. -/
theorem runAnswersNow_iff (s : StatusHead) (queries : List (SystemView × StatusQuery)) :
    (∀ c ∈ StepRun.calls step s queries, c.1.AnswersNow c.2) ↔
      ∀ c ∈ StepRun.calls step s queries, c.1.Fresh c.2 :=
  StepRun.forall_calls_iff (I := fun _ => True) (fun s c _ => answersNow_iff s c)
    (fun _ _ _ _ _ _ _ => trivial) trivial queries

/-- Where the disk holds what is there, a listing without stale entries is that of the
    filesystem head. -/
theorem listCurrentDirectory_eq_filesystem {s : StatusHead} {disk : Disk} {directory : List Char}
    (hdisk : (s.filesystem.process.target (listedDirectory directory)).bind disk.listing =
      (view.readdir (listedDirectory directory)).map
        (entriesNow view (listedDirectory directory)))
    (hfresh : s.Fresh (view, .listCurrentDirectory directory)) :
    (s.listCurrentDirectory view directory).map (fun r => r.1) =
      (s.filesystem.listCurrentDirectory disk directory).map (fun r => r.1) := by
  by_cases hknown : s.filesystem.head.directoryKnown = true
  · cases hnames : view.readdir (listedDirectory directory) with
    | none =>
      rw [hnames, Option.map_none, listedDirectory] at hdisk
      simp only [listCurrentDirectory, FilesystemState.listCurrentDirectory, if_pos hknown, hnames,
        hdisk]
      cases s.filesystem.setReturnCode .cannotOpenDirectory with
      | error e => rfl
      | ok filesystem => rfl
    | some names =>
      have hnone := hfresh hknown names hnames
      obtain ⟨s', hlisted⟩ := (listCurrentDirectory_eq_iff hknown hnames).mpr hnone
      rw [hnames, Option.map_some, listedDirectory] at hdisk
      rw [hlisted]
      simp only [FilesystemState.listCurrentDirectory, if_pos hknown, hdisk]
      rfl
  · simp only [listCurrentDirectory, FilesystemState.listCurrentDirectory, if_neg hknown]
    rfl

open FilesystemState (atRoot)

/-- A file that is there, and nothing else. -/
def oneFile : SystemView where
  stat path := if path = ['f'] then some .regular else none
  readdir _ := some []

/-- A path where nothing is is said to be a file, as the path before it was one. -/
theorem missing_file_exists :
    ((⟨atRoot, none⟩ : StatusHead).step (oneFile, .fileExists ['f']) =
        .ok (.exists_ true, ⟨atRoot, some .regular⟩) ∧
      (⟨atRoot, some .regular⟩ : StatusHead).step (oneFile, .fileExists ['g']) =
        .ok (.exists_ true, ⟨atRoot, some .regular⟩)) ∧
    ¬ ∀ (s : StatusHead) (queries : List (SystemView × StatusQuery)),
      ∀ c ∈ StepRun.calls step s queries, c.1.AnswersNow c.2 := by
  have hfirst : (⟨atRoot, none⟩ : StatusHead).step (oneFile, .fileExists ['f']) =
      .ok (.exists_ true, ⟨atRoot, some .regular⟩) := rfl
  have hsecond : (⟨atRoot, some .regular⟩ : StatusHead).step (oneFile, .fileExists ['g']) =
      .ok (.exists_ true, ⟨atRoot, some .regular⟩) := rfl
  refine ⟨⟨hfirst, hsecond⟩, fun hall => ?_⟩
  have hcall : ((⟨atRoot, some .regular⟩ : StatusHead), (oneFile, StatusQuery.fileExists ['g'])) ∈
      StepRun.calls step ⟨atRoot, none⟩
        [(oneFile, .fileExists ['f']), (oneFile, .fileExists ['g'])] := by
    simp only [StepRun.calls, hfirst, hsecond]
    exact List.mem_cons_of_mem _ List.mem_cons_self
  obtain ⟨s', hnow⟩ := hall _ _ _ hcall (.exists_ false) rfl
  rw [hsecond] at hnow
  cases hnow

end StatusHead

end NetworkedFS
