import Mathlib.Data.List.Rotate
import NetworkedFS.Spec.RunsliceFairness

/-!
# Rotation of the slice scheduler's queues

Persistent entries are to take turns: the entry that `run()` executes at the back of its
queue goes to the front.  `runOperationInline` gets the queue by value and moves the entry
in its own copy, so the queue of the scheduler never rotates, and the same entry runs
again and again.

## Key results

- `lookup_ne_empty_of_persistent`: entries that are all persistent are registered;
- `rotates_iff`: the queues that seem to rotate are those of one entry.
-/

namespace NetworkedFS

namespace SchedulerRunslice

variable {Fn Args : Type}

/-- The entry that a `run()` executed. -/
def Output.executed : Output Fn Args → Option (RunsliceEntry Fn Args)
  | .ran (some x) => some x.entry
  | _ => none

/-- As many `run()` calls as the queue has entries execute them one after the other, the
    oldest first, and each call rotates the queue by one. -/
structure Rotates (s : SchedulerRunslice Fn Args) (isPriority : Bool) : Prop where
  executes : ∀ j ≤ (s.queue isPriority).length,
    (s.runWindow j).map Output.executed = ((s.queue isPriority).reverse.take j).map some
  rotates : ∀ j ≤ (s.queue isPriority).length,
    (StepRun.final step s (List.replicate j .run)).queue isPriority =
      (s.queue isPriority).rotate ((s.queue isPriority).length - j)

/-! ## Persistent entries -/

/-- Serial numbers are given out once. -/
theorem numbered {s : SchedulerRunslice Fn Args} (hs : StepRun.Reachable step construct s) :
    s.view.Numbered := by
  apply hs.invariant
  · exact Registry.numbered_of_forall_eq_nil fun p => by cases p <;> rfl
  · intro s op o s' hnumbered hok
    obtain ⟨act, heffect⟩ := step_effect hok
    exact hnumbered.step heffect.registry

/-- Every entry is the one that its identifier's registration stands for, unless there is a
    one-shot entry that is not. -/
theorem liveOrHaunted {s : SchedulerRunslice Fn Args} (hs : StepRun.Reachable step construct s) :
    s.view.LiveOrHaunted := by
  suffices h : s.view.Numbered ∧ s.view.LiveOrHaunted from h.2
  apply hs.invariant (I := fun s => s.view.Numbered ∧ s.view.LiveOrHaunted)
  · refine ⟨numbered .init, Or.inl fun p t ht => ?_⟩
    cases p <;> exact absurd ht List.not_mem_nil
  · intro s op o s' ⟨hnumbered, hlive⟩ hok
    obtain ⟨act, heffect⟩ := step_effect hok
    exact ⟨hnumbered.step heffect.registry, hlive.step hnumbered heffect.registry⟩

/-- The entries of a queue are all different. -/
theorem nodup_queue {s : SchedulerRunslice Fn Args} (hs : StepRun.Reachable step construct s)
    (p : Bool) : (s.queue p).Nodup :=
  List.Nodup.of_map RunsliceEntry.ticket ((numbered hs).nodup p)

/-- When all entries are persistent no ghost can have taken a registration away. -/
theorem lookup_ne_empty_of_persistent {s : SchedulerRunslice Fn Args}
    (hs : StepRun.Reachable step construct s) {p : Bool} (hne : s.queue p ≠ [])
    (hpersist : ∀ p, ∀ e ∈ s.queue p, e.persist = true) : s.isPriorityLookup ≠ ∅ := by
  obtain ⟨e, he⟩ := List.exists_mem_of_ne_nil _ hne
  have hlive : s.view.Live p e.ticket := by
    apply (liveOrHaunted hs).elim
    · intro hall
      exact hall p e.ticket (List.mem_map_of_mem he)
    · rintro ⟨q, t, ht, honce, -⟩
      obtain ⟨u, hu, rfl⟩ := List.mem_map.mp ht
      rw [RunsliceEntry.ticket, hpersist q u hu] at honce
      cases honce
  intro hempty
  have hhome : s.isPriorityLookup.lookup e.identifier = some p := hlive.1
  rw [hempty, Finmap.lookup_empty] at hhome
  cases hhome

/-! ## Calls on one queue -/

/-- With entries in one queue only, a mode that serves it takes it. -/
theorem runsPriority_of_only {s : SchedulerRunslice Fn Args} {p : Bool} (hne : s.queue p ≠ [])
    (hother : s.queue (!p) = []) (hserves : s.mode = .priorityOnlyRoundRobin → p = true) :
    s.runsPriority = p := by
  have htakes : s.takesPriority = p := by
    cases p with
    | true =>
      have hnormal : s.normalQueue = [] := hother
      simp [takesPriority, hnormal]
    | false =>
      have hpriority : s.priorityQueue = [] := hother
      have hnormal : s.normalQueue ≠ [] := hne
      simp [takesPriority, hpriority, hnormal]
  cases hmode : s.mode with
  | priorityOnlyRoundRobin => simp only [runsPriority, hmode, hserves hmode]
  | roundRobin => simp only [runsPriority, hmode, htakes]
  | priorityRoundRobin => simp only [runsPriority, hmode, htakes]

/-- A `run()` that returns leaves the queues as they are. -/
theorem queue_of_step_run {s s' : SchedulerRunslice Fn Args} {o : Output Fn Args}
    (h : s.step .run = .ok (o, s')) (p : Bool) : s'.queue p = s.queue p := by
  obtain ⟨⟨x, t⟩, hrun, heq⟩ := Except.map_eq_ok_iff.mp h
  cases heq
  obtain ⟨-, e, v, -, -, -, rfl⟩ := run_eq_ok_iff.mp hrun
  rfl

/-- So do any number of calls. -/
theorem queue_of_runs (n : Nat) (s : SchedulerRunslice Fn Args) (p : Bool) :
    (StepRun.final step s (List.replicate n .run)).queue p = s.queue p := by
  induction n generalizing s with
  | zero => rfl
  | succ n ih =>
    simp only [List.replicate_succ, StepRun.final]
    cases hok : s.step .run with
    | error f => rfl
    | ok r =>
      obtain ⟨o, s'⟩ := r
      show (StepRun.final step s' (List.replicate n .run)).queue p = s.queue p
      rw [ih s', queue_of_step_run hok]

/-! ## Rotation -/

/-- A queue that seems to rotate has one entry, as no call changes it. -/
theorem Rotates.length_eq_one {s : SchedulerRunslice Fn Args}
    (hs : StepRun.Reachable step construct s) {p : Bool} (hne : s.queue p ≠ [])
    (h : s.Rotates p) : (s.queue p).length = 1 := by
  have hpos : 1 ≤ (s.queue p).length := List.length_pos_iff.mpr hne
  have hsame := h.rotates 1 hpos
  rw [queue_of_runs] at hsame
  -- the entries are all different, so the rotation is by a multiple of the length
  have hmod := (((nodup_queue hs p).rotate_eq_self_iff).mp hsame.symm).resolve_right hne
  rw [Nat.mod_eq_of_lt (by omega)] at hmod
  omega

/-- The first of the calls that are promised returns. -/
theorem Rotates.exists_step_run {s : SchedulerRunslice Fn Args} {p : Bool}
    (hne : s.queue p ≠ []) (h : s.Rotates p) : ∃ o s', s.step .run = .ok (o, s') := by
  have hpos : 1 ≤ (s.queue p).length := List.length_pos_iff.mpr hne
  have hcount := congrArg List.length (h.executes 1 hpos)
  cases hok : s.step .run with
  | ok r => exact ⟨r.1, r.2, rfl⟩
  | error f =>
    have hnil : s.runWindow 1 = [] := by
      simp only [runWindow, List.replicate_one, StepRun.outputs, hok]
    simp only [hnil, List.map_nil, List.length_nil, List.length_map, List.length_take,
      List.length_reverse] at hcount
    omega

/-- A single entry that can be executed takes turns with itself. -/
theorem rotates_of_singleton {s : SchedulerRunslice Fn Args} {p : Bool}
    (hp : s.runsPriority = p) (hlookup : s.isPriorityLookup ≠ ∅)
    {e : RunsliceEntry Fn Args} (he : s.queue p = [e]) {v : Invocation Fn Args}
    (hv : e.callback.run = .ok v) : s.Rotates p := by
  have hrun := run_eq_ok_iff.mpr ⟨hlookup, e, v, by rw [hp, he]; rfl, hv, rfl, rfl⟩
  have hwindow : (s.runWindow 1).map Output.executed = [some e] := by
    simp only [runWindow, List.replicate_one, StepRun.outputs, step, hrun, Except.map]
    rfl
  refine ⟨fun j hj => ?_, fun j hj => ?_⟩
  · rw [he, List.length_singleton] at hj
    rw [he]
    cases j with
    | zero => rfl
    | succ j =>
      have hzero : j = 0 := by omega
      rw [hzero]
      exact hwindow
  · rw [queue_of_runs, he, List.rotate_singleton]

/-- Where the only entries are persistent ones of one queue, and the mode serves it, the
    entries take turns exactly when there is a single one, whose function can be called. -/
theorem rotates_iff {s : SchedulerRunslice Fn Args} (hs : StepRun.Reachable step construct s)
    {p : Bool} (hne : s.queue p ≠ []) (hother : s.queue (!p) = [])
    (hpersist : ∀ e ∈ s.queue p, e.persist = true)
    (hserves : s.mode = .priorityOnlyRoundRobin → p = true) :
    s.Rotates p ↔ (s.queue p).length = 1 ∧ ∀ e ∈ s.queue p, ∃ v, e.callback.run = .ok v := by
  have hp := runsPriority_of_only hne hother hserves
  constructor
  · intro hrot
    have hlength := hrot.length_eq_one hs hne
    refine ⟨hlength, fun e he => ?_⟩
    -- the one call that is promised returns, so the function was called
    obtain ⟨o, s', hok⟩ := hrot.exists_step_run hne
    obtain ⟨⟨x, t⟩, hrun, -⟩ := Except.map_eq_ok_iff.mp hok
    obtain ⟨-, e', v, hlast, hv, -, -⟩ := run_eq_ok_iff.mp hrun
    obtain ⟨e₀, he₀⟩ := List.length_eq_one_iff.mp hlength
    rw [hp, he₀] at hlast
    rw [he₀, List.mem_singleton] at he
    cases hlast
    exact ⟨v, he ▸ hv⟩
  · rintro ⟨hlength, hcall⟩
    obtain ⟨e, he⟩ := List.length_eq_one_iff.mp hlength
    obtain ⟨v, hv⟩ := hcall e (he ▸ List.mem_singleton_self e)
    have hall : ∀ q, ∀ u ∈ s.queue q, u.persist = true := by
      intro q u hu
      by_cases hq : q = p
      · exact hpersist u (hq ▸ hu)
      · have hempty : s.queue q = [] := Bool.eq_not_of_ne hq ▸ hother
        rw [hempty] at hu
        cases hu
    exact rotates_of_singleton hp (lookup_ne_empty_of_persistent hs hne hall) he hv

/-- One persistent task. -/
def oneTask : List (Op Unit Unit) := [.enqueueRegistration 1 (some ()) false true]

theorem rotates_oneTask : (StepRun.final step construct oneTask).Rotates false :=
  (rotates_iff (StepRun.Reachable.init.final oneTask) (by decide) (by decide) (by decide)
    nofun).mpr ⟨rfl, fun e he => by
      obtain rfl := List.mem_singleton.mp he
      exact ⟨.free (), rfl⟩⟩

/-- Two persistent tasks in one queue do not take turns. -/
theorem two_tasks_not_rotated :
    ¬ ∀ (s : SchedulerRunslice Unit Unit) (p : Bool), StepRun.Reachable step construct s →
      s.queue p ≠ [] → s.queue (!p) = [] → (∀ e ∈ s.queue p, e.persist = true) →
      (s.mode = .priorityOnlyRoundRobin → p = true) → s.Rotates p := by
  intro hall
  let ops : List (Op Unit Unit) :=
    [.enqueueRegistration 1 (some ()) false true, .enqueueRegistration 2 (some ()) false true]
  have hrot := (hall (StepRun.final step construct ops) false (StepRun.Reachable.init.final ops)
    (by decide) (by decide) (by decide) nofun).rotates 1 (by decide)
  exact absurd hrot (by decide)

end SchedulerRunslice

end NetworkedFS
