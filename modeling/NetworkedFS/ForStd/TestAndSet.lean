import Mathlib.Logic.Function.Basic

/-!
# Test-and-set flags

A lock that is one flag: whoever finds the flag clear in a test-and-set becomes its
holder, and should clear it when leaving.  This file gives the ways in which the flag
and the set of holders can change (`Act`, `Step`) and the invariant of such a lock:

- `Exact`: the flag is set exactly while somebody holds it, and never two at once.

Only `abandon`, which leaves without clearing, breaks it (`Exact.step_iff`).  Then the flag is
`Lost`: nobody holds it, and nothing happens to it any more (`Lost.eq_of_step`).  That there is
one holder at most goes on holding (`Exclusive`).
-/

/-- The flag, and who has acquired it and not left. -/
structure TestAndSet (ι : Type*) where
  flag : Bool
  holds : ι → Bool

namespace TestAndSet

variable {ι : Type*} [DecidableEq ι]

/-- The ways in which the flag and its holders change. -/
inductive Act (ι : Type*) where
  | quiet
  | acquire (i : ι)
  | release (i : ι)
  | abandon (i : ι)

/-- The act leaves without clearing the flag. -/
def Act.Abandons : Act ι → Prop
  | .abandon _ => True
  | _ => False

/-- What each act demands and does. -/
def Step (g : TestAndSet ι) : Act ι → TestAndSet ι → Prop
  | .quiet, g' => g' = g
  | .acquire i, g' => g.flag = false ∧ g' = ⟨true, Function.update g.holds i true⟩
  | .release i, g' => g.holds i = true ∧ g' = ⟨false, Function.update g.holds i false⟩
  | .abandon i, g' => g.holds i = true ∧ g' = ⟨g.flag, Function.update g.holds i false⟩

/-- The flag is set exactly while somebody holds it, and there is one holder at most. -/
structure Exact (g : TestAndSet ι) : Prop where
  flag_iff : g.flag = true ↔ ∃ i, g.holds i = true
  unique : ∀ i j, g.holds i = true → g.holds j = true → i = j

omit [DecidableEq ι] in
/-- A clear flag has no holder. -/
theorem Exact.holds_eq_false {g : TestAndSet ι} (hg : g.Exact) (hflag : g.flag = false) (i : ι) :
    g.holds i = false := by
  cases hi : g.holds i with
  | false => rfl
  | true =>
    have hset := hg.flag_iff.mpr ⟨i, hi⟩
    rw [hflag] at hset
    cases hset

/-- When the only holder leaves, nobody holds the flag. -/
theorem Exact.update_false {g : TestAndSet ι} (hg : g.Exact) {i : ι} (hi : g.holds i = true)
    (j : ι) : Function.update g.holds i false j = false := by
  rw [Function.update_apply]
  split
  · rfl
  · next hne =>
    cases hj : g.holds j with
    | false => rfl
    | true => exact absurd (hg.unique j i hj hi) hne

theorem Exact.acquire {g : TestAndSet ι} (hg : g.Exact) (hflag : g.flag = false) (i : ι) :
    (⟨true, Function.update g.holds i true⟩ : TestAndSet ι).Exact := by
  -- nobody held the clear flag, so the newcomer is alone
  have honly : ∀ j, Function.update g.holds i true j = true → j = i := by
    intro j hj
    rw [Function.update_apply] at hj
    split at hj
    · next h => exact h
    · rw [hg.holds_eq_false hflag j] at hj
      cases hj
  refine ⟨⟨fun _ => ⟨i, Function.update_self ..⟩, fun _ => rfl⟩, ?_⟩
  intro j k hj hk
  rw [honly j hj, honly k hk]

theorem Exact.release {g : TestAndSet ι} (hg : g.Exact) {i : ι} (hi : g.holds i = true) :
    (⟨false, Function.update g.holds i false⟩ : TestAndSet ι).Exact := by
  -- the flag is clear again, and its only holder has left
  have hnone := hg.update_false hi
  constructor
  · simp only [hnone, Bool.false_eq_true, exists_false]
  · intro j k hj
    have hfalse : Function.update g.holds i false j = true := hj
    rw [hnone j] at hfalse
    cases hfalse

theorem Exact.not_abandon {g : TestAndSet ι} (hg : g.Exact) {i : ι} (hi : g.holds i = true) :
    ¬ (⟨g.flag, Function.update g.holds i false⟩ : TestAndSet ι).Exact := by
  intro hg'
  -- the flag stays set, and nobody is left to clear it
  obtain ⟨j, hj⟩ := hg'.flag_iff.mp (hg.flag_iff.mpr ⟨i, hi⟩)
  have hfalse : Function.update g.holds i false j = true := hj
  rw [hg.update_false hi j] at hfalse
  cases hfalse

/-- From an exact state exactly the acts other than `abandon` lead to an exact one. -/
theorem Exact.step_iff {g g' : TestAndSet ι} (hg : g.Exact) {act : Act ι}
    (hstep : g.Step act g') : g'.Exact ↔ ¬ act.Abandons := by
  cases act with
  | quiet =>
    obtain rfl := hstep
    simp only [hg, Act.Abandons, not_false_eq_true]
  | acquire i =>
    obtain ⟨hflag, rfl⟩ := hstep
    simp only [hg.acquire hflag i, Act.Abandons, not_false_eq_true]
  | release i =>
    obtain ⟨hi, rfl⟩ := hstep
    simp only [hg.release hi, Act.Abandons, not_false_eq_true]
  | abandon i =>
    obtain ⟨hi, rfl⟩ := hstep
    simp only [hg.not_abandon hi, Act.Abandons, not_true_eq_false]

/-- Whoever stops holding the flag clears it, unless it is abandoned. -/
theorem Step.clears {g g' : TestAndSet ι} {act : Act ι} (hstep : g.Step act g')
    (hact : ¬ act.Abandons) {i : ι} (hi : g.holds i = true) (hi' : g'.holds i = false) :
    g'.flag = false := by
  cases act with
  | quiet =>
    obtain rfl := hstep
    rw [hi] at hi'
    cases hi'
  | acquire j =>
    obtain ⟨-, rfl⟩ := hstep
    -- an acquisition ends nobody's hold
    simp only [Function.update_apply, hi, ite_self, Bool.true_eq_false] at hi'
  | release j =>
    obtain ⟨-, rfl⟩ := hstep
    rfl
  -- this is what the act must not do
  | abandon j => exact absurd trivial hact

/-- A set flag is cleared by a holder only. -/
theorem Step.cleared_by_holder {g g' : TestAndSet ι} {act : Act ι} (hstep : g.Step act g')
    (hflag : g.flag = true) (hflag' : g'.flag = false) :
    ∃ i, act = .release i ∧ g.holds i = true := by
  cases act with
  | quiet =>
    obtain rfl := hstep
    rw [hflag] at hflag'
    cases hflag'
  | acquire j =>
    obtain ⟨hclear, -⟩ := hstep
    rw [hflag] at hclear
    cases hclear
  | release j => exact ⟨j, rfl, hstep.1⟩
  | abandon j =>
    obtain ⟨-, rfl⟩ := hstep
    rw [hflag] at hflag'
    cases hflag'

/-! ## Flags that may be abandoned -/

/-- Whoever holds the flag has set it, and there is one holder at most. -/
structure Exclusive (g : TestAndSet ι) : Prop where
  set : ∀ i, g.holds i = true → g.flag = true
  unique : ∀ i j, g.holds i = true → g.holds j = true → i = j

/-- The flag is set, and nobody holds it. -/
structure Lost (g : TestAndSet ι) : Prop where
  set : g.flag = true
  none_holds : ∀ i, g.holds i = false

omit [DecidableEq ι] in
theorem Exact.exclusive {g : TestAndSet ι} (hg : g.Exact) : g.Exclusive where
  set i hi := hg.flag_iff.mpr ⟨i, hi⟩
  unique := hg.unique

/-- When the holder leaves, nobody holds the flag. -/
theorem Exclusive.update_false {g : TestAndSet ι} (hg : g.Exclusive) {i : ι}
    (hi : g.holds i = true) (j : ι) : Function.update g.holds i false j = false := by
  by_cases hj : j = i
  · rw [hj, Function.update_self]
  · rw [Function.update_of_ne hj]
    cases hholds : g.holds j with
    | false => rfl
    | true => exact absurd (hg.unique j i hholds hi) hj

/-- No act makes a second holder. -/
theorem Exclusive.step {g g' : TestAndSet ι} (hg : g.Exclusive) {act : Act ι}
    (hstep : g.Step act g') : g'.Exclusive := by
  -- nobody holds a flag after its holder has left
  have hnone : ∀ {i : ι} {flag : Bool}, g.holds i = true →
      (⟨flag, Function.update g.holds i false⟩ : TestAndSet ι).Exclusive := by
    intro i flag hi
    have hfalse := hg.update_false hi
    refine ⟨fun j hj => ?_, fun j k hj => ?_⟩
    · exact absurd (hj.symm.trans (hfalse j)) Bool.true_eq_false.mp
    · exact absurd (hj.symm.trans (hfalse j)) Bool.true_eq_false.mp
  cases act with
  | quiet =>
    obtain rfl := hstep
    exact hg
  | acquire i =>
    obtain ⟨hflag, rfl⟩ := hstep
    have honly : ∀ j, Function.update g.holds i true j = true → j = i := by
      intro j hj
      by_contra hne
      rw [Function.update_of_ne hne] at hj
      rw [hg.set j hj] at hflag
      cases hflag
    exact ⟨fun _ _ => rfl, fun j k hj hk => (honly j hj).trans (honly k hk).symm⟩
  | release i =>
    obtain ⟨hi, rfl⟩ := hstep
    exact hnone hi
  | abandon i =>
    obtain ⟨hi, rfl⟩ := hstep
    exact hnone hi

/-- An abandoned flag is lost. -/
theorem Exclusive.lost_of_abandon {g g' : TestAndSet ι} (hg : g.Exclusive) {act : Act ι}
    (hstep : g.Step act g') (hact : act.Abandons) : g'.Lost := by
  cases act with
  | abandon i =>
    obtain ⟨hi, rfl⟩ := hstep
    exact ⟨hg.set i hi, hg.update_false hi⟩
  | _ => exact hact.elim

/-- A lost flag stays as it is. -/
theorem Lost.eq_of_step {g g' : TestAndSet ι} (hg : g.Lost) {act : Act ι}
    (hstep : g.Step act g') : g' = g := by
  cases act with
  | quiet => exact hstep
  | acquire i =>
    have hset := hg.set
    rw [hstep.1] at hset
    cases hset
  | release i =>
    have hi := hstep.1
    rw [hg.none_holds i] at hi
    cases hi
  | abandon i =>
    have hi := hstep.1
    rw [hg.none_holds i] at hi
    cases hi

end TestAndSet
