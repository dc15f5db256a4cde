import NetworkedFS.Spec.DirectoryTracking

/-!
# Stepping back by some levels

`stepBackDirectory` counts delimiters from the end of the tracked string.  Its index is
unsigned, so the test against zero never ends the loop: with too few delimiters it leaves the
string at its start.  With enough of them the prefix that it finds is handed to
`changeDirectory`, which appends it to the tracked string and reports what does not exist.

## Key results

- `stepsBack_iff`: the strings and numbers of levels for which the call does what its comment
  says.
-/

namespace NetworkedFS

namespace FilesystemState

/-- What the call is to do for a number of levels that is not negative. -/
structure StepsBack (s : FilesystemState) (n : Nat) : Prop where
  /-- Every index of the scan is one of the tracked string. -/
  scan : ∃ r, stepBackScan s.head.currentDirectory n 0 s.head.currentDirectory.length = .ok r
  /-- A directory that exists is reported and tracked. -/
  enough : ∀ parent, ancestor n s.head.currentDirectory = some parent → s.named parent ≠ none →
    ∃ s', s.stepBackDirectory n = .ok (true, s') ∧ s'.head.currentDirectory = parent
  /-- Too few delimiters are reported, and nothing changes. -/
  tooFew : ancestor n s.head.currentDirectory = none → s.stepBackDirectory n = .ok (false, s)

/-- The prefix is not empty, and leads nowhere from the tracked directory. -/
def LeadsNowhere (s : FilesystemState) (parent : List Char) : Prop :=
  parent ≠ [] ∧ s.process.target (s.completeDirectory parent) = none

/-- A prefix is reported as a directory exactly when it leads nowhere. -/
theorem stepBackDirectory_reports_iff {s : FilesystemState} (hknown : s.head.directoryKnown = true)
    {n : Nat} {parent : List Char} (hparent : ancestor n s.head.currentDirectory = some parent) :
    (∃ s', s.stepBackDirectory n = .ok (true, s') ∧ s'.head.currentDirectory = parent) ↔
      s.LeadsNowhere parent := by
  have hback := stepBackDirectory_of_some hknown hparent
  unfold LeadsNowhere
  by_cases hne : parent = []
  -- the last character of the empty prefix is read out of range
  · rw [hne, changeDirectory_nil hknown] at hback
    simp [hback, hne, Except.map]
  cases htarget : s.process.target (s.completeDirectory parent) with
  | none =>
    rw [changeDirectory_of_none hknown hne htarget] at hback
    simp [hback, hne, Except.map, setCurrentDirectory]
  | some d =>
    obtain ⟨s', hcall, -⟩ := changeDirectory_of_some hknown hne htarget
    rw [hcall] at hback
    simp [hback, Except.map]

/-- The call does what it is to do exactly when there are enough delimiters and the prefix, if
    it exists, is not empty and leads nowhere from the tracked directory. -/
theorem stepsBack_iff {s : FilesystemState} (hknown : s.head.directoryKnown = true) (n : Nat) :
    s.StepsBack n ↔ ∃ parent, ancestor n s.head.currentDirectory = some parent ∧
      (s.named parent ≠ none → s.LeadsNowhere parent) := by
  constructor
  · intro h
    obtain ⟨parent, hparent⟩ := (stepBackScan_returns_iff _ n).mp h.scan
    refine ⟨parent, hparent, fun hexists => ?_⟩
    exact (stepBackDirectory_reports_iff hknown hparent).mp (h.enough parent hparent hexists)
  · intro h
    obtain ⟨parent, hparent, hnowhere⟩ := h
    refine ⟨(stepBackScan_returns_iff _ n).mpr ⟨parent, hparent⟩, ?_, ?_⟩
    · intro parent' hparent' hexists
      have heq : parent = parent' := by simpa [hparent] using hparent'
      subst heq
      exact (stepBackDirectory_reports_iff hknown hparent).mpr (hnowhere hexists)
    · intro hnone
      simp [hparent] at hnone

/-- A head that tracks the one directory `/a`. -/
def belowRoot : FilesystemState :=
  { atRoot with head := { directoryKnown := true, currentDirectory := ['/', 'a'] } }

/-- No level back from `/a` leads to `/a/a`, which does not exist. -/
theorem stepsBack_belowRoot : belowRoot.StepsBack 0 := by
  refine (stepsBack_iff rfl 0).mpr ⟨['/', 'a'], rfl, fun _ => ⟨by decide, ?_⟩⟩
  decide

/-- Without a delimiter to be found the scan runs out of the string. -/
theorem stepBack_leaves_string :
    ¬ ∀ s : FilesystemState, s.head.directoryKnown = true → ∀ n, s.StepsBack n := by
  intro hall
  let s : FilesystemState :=
    { atRoot with head := { directoryKnown := true, currentDirectory := ['a'] } }
  obtain ⟨r, hr⟩ := (hall s rfl 1).scan
  cases hr

end FilesystemState

end NetworkedFS
