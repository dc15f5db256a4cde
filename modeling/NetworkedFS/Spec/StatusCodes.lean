import NetworkedFS.Native.Debug

/-!
# Local errors and status codes

The subclasses of `debug_status` report a local error by handing its enumerator to
`setReturnCode`, whose class range only starts at `getMinClassError()`.  This file
says what each enumerator does there: the first two fall into the standard range, the
others fail the assertion until the enumerators themselves reach the class range,
where the text is looked up `getMinClassError()` places too early.

## Key results

- `reportLocalError_eq`: the outcome of every report;
- `reportsError_iff`: when a report records the error it stands for.
-/

namespace NetworkedFS

namespace DebugStatus

/-- The error paths of the subclasses: `setReturnCode((int)error)` for the local error
    with enumerator `k` of a class with the error texts `table`. -/
def reportLocalError (table : List String) (d : DebugStatus) (k : Fin table.length) :
    Except Fault DebugStatus :=
  d.setReturnCode (subclassErrors table) (k : Nat)

/-- What the status holds when the local error `k` was recorded: its own text, and a
    code that no standard error and no other local error has. -/
structure Records (table : List String) (k : Fin table.length) (d : DebugStatus) : Prop where
  text : d.getReturnStatus = table[k]
  ne_standard : ∀ e : StandardError, d.getReturnCode ≠ some e.code
  ne_local : ∀ d₀ (j : Fin table.length) d₁, j ≠ k → reportLocalError table d₀ j = .ok d₁ →
    d₁.getReturnCode ≠ d.getReturnCode

/-- Reporting `k` returns and records it. -/
def ReportsError (table : List String) (d : DebugStatus) (k : Fin table.length) : Prop :=
  ∃ d', reportLocalError table d k = .ok d' ∧ Records table k d'

/-! ## The ranges -/

/-- In the standard range the standard texts are used. -/
private theorem setReturnCode_standard (c : ClassErrors) (d : DebugStatus) {k : Nat}
    {text : String} (htext : standardCodeToStatus[k]? = some text) :
    d.setReturnCode c k = .ok { returnCode := some k, status := text } := by
  have hk : k < 2 := by
    obtain ⟨hk, -⟩ := List.getElem?_eq_some_iff.mp htext
    exact hk
  have hrange : standardMinError ≤ (k : Int) ∧ (k : Int) ≤ standardMaxError := by
    simp only [standardMinError, standardMaxError]
    omega
  have hlow : ¬ (k : Int) > standardMaxError := by
    simp only [standardMaxError]
    omega
  simp only [setReturnCode, if_pos (Or.inl hrange), if_neg hlow, Int.toNat_natCast, htext]

/-- The outcome of reporting the enumerator `k`: a standard error, a failed assertion,
    or the text that stands `getMinClassError()` places before the one of `k`. -/
theorem reportLocalError_eq (table : List String) (d : DebugStatus) (k : Fin table.length) :
    reportLocalError table d k =
      if k.val = 0 then .ok { returnCode := some 0, status := "OK" }
      else if k.val = 1 then .ok { returnCode := some 1, status := "Allocation failed" }
      else if k.val < 2500 then .error .assertion
      else .ok { returnCode := some k.val, status := table.get ⟨k.val - 2500, by omega⟩ } := by
  unfold reportLocalError
  -- the standard range takes the enumerators 0 and 1
  by_cases h0 : k.val = 0
  · rw [if_pos h0, h0]
    exact setReturnCode_standard _ d rfl
  rw [if_neg h0]
  by_cases h1 : k.val = 1
  · rw [if_pos h1, h1]
    exact setReturnCode_standard _ d rfl
  rw [if_neg h1]
  have hstd : ¬ (standardMinError ≤ (k.val : Int) ∧ (k.val : Int) ≤ standardMaxError) := by
    simp only [standardMinError, standardMaxError]
    omega
  have hmax : (k.val : Int) ≤ (subclassErrors table).maxError := by
    have := k.isLt
    simp only [subclassErrors, getMinClassError]
    omega
  by_cases hlow : k.val < 2500
  · -- between the two ranges the assertion fails
    have hclass : ¬ (classMinError ≤ (k.val : Int) ∧
        (k.val : Int) ≤ (subclassErrors table).maxError) := by
      simp only [classMinError]
      omega
    rw [if_pos hlow, setReturnCode, if_neg (not_or.mpr ⟨hstd, hclass⟩)]
  -- from 2500 on it is an index into the table of the class
  · have hclass : classMinError ≤ (k.val : Int) := by
      simp only [classMinError]
      omega
    have hgt : (k.val : Int) > standardMaxError := by
      simp only [standardMaxError]
      omega
    have hindex : ((k.val : Int) - classMinError).toNat = k.val - 2500 := by
      simp only [classMinError]
      omega
    have hbound : k.val - 2500 < (subclassErrors table).codeToStatus.length := by
      have := k.isLt
      simp only [subclassErrors]
      omega
    rw [if_neg hlow, setReturnCode, if_pos (Or.inr ⟨hclass, hmax⟩)]
    simp only [if_pos hgt, hindex, List.getElem?_eq_getElem hbound]
    rfl

/-- A code that is accepted is recorded. -/
theorem returnCode_of_setReturnCode {c : ClassErrors} {d d' : DebugStatus} {code : Int}
    (h : d.setReturnCode c code = .ok d') : d'.getReturnCode = some code := by
  unfold setReturnCode at h
  split at h
  · simp only at h
    split at h
    · cases h; rfl
    · cases h
  · cases h

/-! ## When a report is right -/

/-- A report records its error exactly when the enumerator reaches the class range and
    the text that many places before is the same. -/
theorem reportsError_iff (table : List String) (d : DebugStatus) (k : Fin table.length) :
    ReportsError table d k ↔ 2500 ≤ k.val ∧ table[k.val - 2500]? = some table[k] := by
  constructor
  · rintro ⟨d', hok, hrec⟩
    -- what was recorded is the enumerator itself, so it is no standard code
    have hne : ∀ e : StandardError, (k.val : Int) ≠ e.code := by
      intro e heq
      exact hrec.ne_standard e (by rw [returnCode_of_setReturnCode hok, heq])
    have h0 : k.val ≠ 0 := fun h => hne .ok (by rw [h]; rfl)
    have h1 : k.val ≠ 1 := fun h => hne .allocation (by rw [h]; rfl)
    rw [reportLocalError_eq, if_neg h0, if_neg h1] at hok
    split at hok
    · cases hok
    · next hlow =>
      cases hok
      have htext := hrec.text
      simp only [getReturnStatus, List.get_eq_getElem] at htext
      refine ⟨by omega, ?_⟩
      rw [List.getElem?_eq_getElem (by omega), htext]
  · rintro ⟨hlow, htext⟩
    have hbound : k.val - 2500 < table.length := by omega
    rw [List.getElem?_eq_getElem hbound, Option.some.injEq] at htext
    have hok : reportLocalError table d k =
        .ok { returnCode := some k.val, status := table[k.val - 2500] } := by
      rw [reportLocalError_eq, if_neg (by omega), if_neg (by omega), if_neg (by omega),
        List.get_eq_getElem]
    refine ⟨_, hok, htext, ?_, ?_⟩
    · intro e heq
      have hk : (k.val : Int) = e.code := Option.some.inj heq
      cases e <;> simp only [StandardError.code] at hk <;> omega
    -- different enumerators are recorded as different codes
    · intro d₀ j d₁ hj hok₁ heq
      rw [returnCode_of_setReturnCode hok₁] at heq
      have hjk : (j.val : Int) = k.val := Option.some.inj heq
      exact hj (Fin.ext (by omega))

/-- A class with at most `getMinClassError()` error texts records none of them. -/
theorem not_reportsError_of_length_le {table : List String} (hlen : table.length ≤ 2500)
    (d : DebugStatus) (k : Fin table.length) : ¬ ReportsError table d k := by
  rw [reportsError_iff]
  have := k.isLt
  omega

/-- The first local error of a class with one text is recorded as success. -/
theorem first_error_reads_ok :
    ¬ ∀ (table : List String) (d : DebugStatus) (k : Fin table.length),
      ReportsError table d k := by
  intro hall
  have hlength : ["Identifier not available"].length ≤ 2500 := by decide
  exact not_reportsError_of_length_le hlength {} 0 (hall _ _ _)

end DebugStatus

end NetworkedFS
