import NetworkedFS.Spec.RunsliceRegistry

/-!
# The unchecked accesses of the slice scheduler

The operations on one identifier ask the lookup which queue to search and then use the
iterator that `find_if` gives without comparing it with `end()`; `run()` asks the
lookup whether there are tasks and then takes the back of a queue.  Both are safe
because every registered identifier has an entry in the queue its flag names, which
is `Registry.Housed` of the scheduler's registry.

## Key results

- `housed`: the invariant, in every reachable state;
- `safeAccesses`: no access goes past the end of a queue or into an empty one.
-/

namespace NetworkedFS

namespace SchedulerRunslice

variable {Fn Args : Type}

/-- The accesses of a state that the source makes without a check. -/
structure SafeAccesses (s : SchedulerRunslice Fn Args) : Prop where
  entry : ∀ i isPriority, s.isPriorityLookup.lookup i = some isPriority →
    ∃ e ∈ s.queue isPriority, e.identifier = i
  updateSharedHelper : ∀ i, s.updateSharedHelper i ≠ .error .undefined
  removeRegistrationInline : ∀ i, s.removeRegistrationInline i ≠ .error .undefined
  updateRegistrationPriority : ∀ i isPriority,
    s.updateRegistrationPriority i isPriority ≠ .error .undefined
  /-- The queue that `run()` hands over without asking whether it is empty. -/
  runQueue : s.isPriorityLookup ≠ ∅ → s.mode ≠ .priorityOnlyRoundRobin →
    s.queue s.takesPriority ≠ []
  /-- What is undefined in a `run()` is at most the call of the stored function. -/
  run : s.run = .error .undefined → ∃ e, (s.queue s.runsPriority).getLast? = some e ∧
    e.callback.run = .error .undefined

/-! ## The invariant -/

/-- Every registered identifier has an entry in the queue its flag names. -/
theorem housed {s : SchedulerRunslice Fn Args} (hs : StepRun.Reachable step construct s) :
    s.view.Housed := by
  apply hs.invariant
  · intro k r hk
    cases hk
  · intro s op o s' hhoused hok
    obtain ⟨act, heffect⟩ := step_effect hok
    exact hhoused.step heffect.registry

/-- The `find_if` for a registered identifier does not give `end()`. -/
theorem find?_of_housed {s : SchedulerRunslice Fn Args} (hs : s.view.Housed) {i : Int} {p : Bool}
    (hi : s.isPriorityLookup.lookup i = some p) :
    ∃ e, (s.queue p).find? (hasIdentifier i) = some e ∧ e ∈ s.queue p ∧ e.identifier = i := by
  obtain ⟨t, hmem, htk⟩ := hs i p hi
  obtain ⟨e, he, rfl⟩ := List.mem_map.mp hmem
  have hei : hasIdentifier i e = true := beq_iff_eq.mpr htk
  have hsome : ((s.queue p).find? (hasIdentifier i)).isSome := List.find?_isSome.mpr ⟨e, he, hei⟩
  obtain ⟨e', he'⟩ := Option.isSome_iff_exists.mp hsome
  exact ⟨e', he', List.mem_of_find?_eq_some he', by simpa [hasIdentifier] using List.find?_some he'⟩

/-! ## The accesses -/

/-- With a registration there is an entry, so one of the two queues is not empty, and
    `run()` prefers it. -/
theorem queue_takesPriority_ne_nil {s : SchedulerRunslice Fn Args} (hs : s.view.Housed)
    (hlookup : s.isPriorityLookup ≠ ∅) : s.queue s.takesPriority ≠ [] := by
  obtain ⟨i, p, hi⟩ := UMap.exists_lookup_of_ne_empty hlookup
  obtain ⟨e, -, hmem, -⟩ := find?_of_housed hs hi
  have hne : s.queue p ≠ [] := List.ne_nil_of_mem hmem
  cases htakes : s.takesPriority with
  | false =>
    simp only [takesPriority, Bool.or_eq_false_iff, List.isEmpty_eq_false_iff] at htakes
    exact htakes.2
  | true =>
    simp only [takesPriority, Bool.or_eq_true, Bool.and_eq_true, List.isEmpty_iff,
      Bool.not_eq_true', List.isEmpty_eq_false_iff] at htakes
    rcases htakes with hpriority | hnormal
    · exact hpriority.2
    · cases p with
      | true => exact hne
      -- an empty normal queue cannot hold the entry
      | false => exact absurd hnormal hne

/-- Running a queue that is not empty is undefined only through the stored function. -/
theorem runOperationInline_undefined {s : SchedulerRunslice Fn Args}
    {q : List (RunsliceEntry Fn Args)} (hq : q ≠ [])
    (h : s.runOperationInline q = .error .undefined) :
    ∃ e, q.getLast? = some e ∧ e.callback.run = .error .undefined := by
  unfold runOperationInline at h
  cases hlast : q.getLast? with
  | none => exact absurd (List.getLast?_eq_none_iff.mp hlast) hq
  | some e =>
    simp only [hlast] at h
    refine ⟨e, rfl, ?_⟩
    cases hrun : e.callback.run with
    | error f =>
      rw [hrun] at h
      cases h
      rfl
    | ok v =>
      -- once the function has returned, both branches return
      simp only [hrun, bind, Except.bind] at h
      split at h <;> cases h

/-- What is undefined in a `run()` is at most the call of the function at the back of the
    queue that it takes. -/
theorem run_undefined {s : SchedulerRunslice Fn Args} (hs : s.view.Housed)
    (h : s.run = .error .undefined) :
    ∃ e, (s.queue s.runsPriority).getLast? = some e ∧ e.callback.run = .error .undefined := by
  unfold run at h
  by_cases hlookup : s.isPriorityLookup = ∅
  · rw [if_neg (not_not.mpr hlookup), report_noTasksAvailable] at h
    cases h
  rw [if_pos hlookup] at h
  -- the other modes look at the lookup only, and rely on the queue
  by_cases hmode : s.mode = .priorityOnlyRoundRobin
  · have hp : s.runsPriority = true := by simp only [runsPriority, hmode]
    rw [if_neg (not_not.mpr hmode)] at h
    by_cases hempty : s.priorityQueue = []
    · rw [if_neg (by simp [hempty]), report_noPriorityTasksAvailable] at h
      cases h
    · -- only in this mode the source asks for the queue itself
      rw [if_pos (by simpa using hempty)] at h
      rcases Except.bind_eq_error_iff.mp h with hop | ⟨r, -, hrest⟩
      · rw [hp]
        exact runOperationInline_undefined hempty hop
      · cases hrest
  · have hp : s.runsPriority = s.takesPriority := by
      cases hm : s.mode <;> simp only [runsPriority, hm]
      exact absurd hm hmode
    rw [if_pos hmode] at h
    rcases Except.bind_eq_error_iff.mp h with hop | ⟨r, -, hrest⟩
    · rw [hp]
      exact runOperationInline_undefined (queue_takesPriority_ne_nil hs hlookup) hop
    · cases hrest

/-- Reporting that there is no such registration accesses nothing. -/
theorem map_report_identifierNotAvailable_ne {α : Type} (s : SchedulerRunslice Fn Args)
    (f : SchedulerRunslice Fn Args → α) :
    (s.report .identifierNotAvailable).map f ≠ .error .undefined := by
  obtain ⟨d, hd⟩ := s.report_identifierNotAvailable
  rw [hd]
  simp only [Except.map, ne_eq, reduceCtorEq, not_false_eq_true]

/-- Every unchecked access of a reachable state finds what it expects. -/
theorem safeAccesses {s : SchedulerRunslice Fn Args} (hs : StepRun.Reachable step construct s) :
    s.SafeAccesses := by
  have hhoused := housed hs
  constructor
  · intro i p hi
    obtain ⟨e, -, hmem, hei⟩ := find?_of_housed hhoused hi
    exact ⟨e, hmem, hei⟩
  · -- the iterator is used unchecked, and finds the entry
    intro i
    unfold updateSharedHelper
    cases hi : s.isPriorityLookup.lookup i with
    | none => exact s.map_report_identifierNotAvailable_ne _
    | some p =>
      obtain ⟨e, he, -⟩ := find?_of_housed hhoused hi
      simp only [he, ne_eq, reduceCtorEq, not_false_eq_true]
  · intro i
    unfold removeRegistrationInline
    cases hi : s.isPriorityLookup.lookup i with
    | none => exact s.map_report_identifierNotAvailable_ne _
    | some p =>
      obtain ⟨e, he, -⟩ := find?_of_housed hhoused hi
      simp only [he, ne_eq, reduceCtorEq, not_false_eq_true]
  · intro i p
    unfold updateRegistrationPriority
    cases hi : s.isPriorityLookup.lookup i with
    | none => exact s.map_report_identifierNotAvailable_ne _
    | some q =>
      obtain ⟨e, he, -⟩ := find?_of_housed hhoused hi
      simp only [he]
      split <;> simp only [ne_eq, reduceCtorEq, not_false_eq_true]
  · -- a queue that is taken from is not empty
    intro hlookup _
    exact queue_takesPriority_ne_nil hhoused hlookup
  · intro hrun
    exact run_undefined hhoused hrun

/-- A one-shot task runs, and its identifier is registered again for the other queue. -/
def reusedIdentifier : List (Op Unit Unit) :=
  [.enqueueRegistration 1 (some ()) false false, .run, .enqueueRegistration 1 (some ()) true true]

theorem safeAccesses_reusedIdentifier :
    (StepRun.final step construct reusedIdentifier).SafeAccesses :=
  safeAccesses (StepRun.Reachable.init.final reusedIdentifier)

end SchedulerRunslice

end NetworkedFS
