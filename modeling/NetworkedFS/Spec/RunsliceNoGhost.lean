import NetworkedFS.Spec.RunsliceRegistry

/-!
# Ghost and duplicate tasks of the slice scheduler

A task is a ghost when it is queued although its identifier is not registered for
that queue.  `runOperationInline` works on a copy of the queue, so a one-shot entry
that was run loses its registration and stays queued.  This is the only way in which
ghosts and duplicates come about: `noGhost_iff_no_oneShot_run` characterises the
histories without them.
-/

namespace NetworkedFS

namespace SchedulerRunslice

variable {Fn Args : Type}

/-- Every entry's identifier is registered with the flag of the queue it is in, and no
    identifier occurs in two entries. -/
structure NoGhost (s : SchedulerRunslice Fn Args) : Prop where
  named : ∀ isPriority, ∀ e ∈ s.queue isPriority,
    s.isPriorityLookup.lookup e.identifier = some isPriority
  nodup : ((s.priorityQueue ++ s.normalQueue).map RunsliceEntry.identifier).Nodup

/-- The identifiers of a queue are the keys of its tickets. -/
theorem map_key_view (s : SchedulerRunslice Fn Args) (p : Bool) :
    (s.view.queues p).map Ticket.key = (s.queue p).map RunsliceEntry.identifier := by
  simp only [view, List.map_map]
  rfl

/-- Having no ghosts is a property of the registry. -/
theorem noGhost_iff_clean (s : SchedulerRunslice Fn Args) : s.NoGhost ↔ s.view.Clean := by
  constructor
  · intro h
    refine ⟨?_, ?_⟩
    · intro p t ht
      obtain ⟨e, he, rfl⟩ := List.mem_map.mp ht
      exact h.named p e he
    · intro p
      rw [map_key_view]
      have hnodup := h.nodup
      rw [List.map_append] at hnodup
      cases p with
      | true => exact hnodup.of_append_left
      | false => exact hnodup.of_append_right
  · intro h
    have hnamed : ∀ p, ∀ e ∈ s.queue p, s.isPriorityLookup.lookup e.identifier = some p :=
      fun p e he => h.named p e.ticket (List.mem_map_of_mem he)
    refine ⟨hnamed, ?_⟩
    rw [List.map_append, List.nodup_append]
    have hp := h.nodup true
    have hn := h.nodup false
    rw [map_key_view] at hp hn
    refine ⟨hp, hn, ?_⟩
    -- an identifier in both queues would be registered with both flags
    rintro i hi j hj rfl
    obtain ⟨e, he, hei⟩ := List.mem_map.mp hi
    obtain ⟨e', he', hei'⟩ := List.mem_map.mp hj
    have h₁ := hnamed true e he
    have h₂ := hnamed false e' he'
    rw [hei] at h₁
    rw [hei', h₁] at h₂
    cases h₂

/-- The call is a `run()`, and the entry at the back of the queue it takes is not to
    persist. -/
def RunsOneShot (s : SchedulerRunslice Fn Args) (op : Op Fn Args) : Prop :=
  op = .run ∧ ∃ e, (s.queue s.runsPriority).getLast? = some e ∧ e.persist = false

/-- A returning call spends a ticket exactly when it runs a one-shot entry. -/
theorem oneShot_eq_none_iff {s s' : SchedulerRunslice Fn Args} {op : Op Fn Args}
    {o : Output Fn Args} (h : s.step op = .ok (o, s')) :
    o.oneShot = none ↔ ¬ s.RunsOneShot op := by
  rw [Option.eq_none_iff_forall_ne_some]
  constructor
  · intro hnone ⟨hop, e, hlast, hp⟩
    exact hnone _ ((oneShot_eq_some_iff h _ _).mpr ⟨hop, rfl, e, hlast, hp, rfl⟩)
  · intro hruns x hx
    obtain ⟨hop, -, e, hlast, hp, -⟩ := (oneShot_eq_some_iff h x.1 x.2).mp hx
    exact hruns ⟨hop, e, hlast, hp⟩

/-- From a state without ghosts, a returning call leads to one exactly when it does
    not run a one-shot entry. -/
theorem NoGhost.step_iff {s s' : SchedulerRunslice Fn Args} (hs : s.NoGhost) {op : Op Fn Args}
    {o : Output Fn Args} (h : s.step op = .ok (o, s')) :
    s'.NoGhost ↔ ¬ s.RunsOneShot op := by
  obtain ⟨act, heffect⟩ := step_effect h
  rw [noGhost_iff_clean, ((noGhost_iff_clean s).mp hs).step_iff heffect.registry,
    ← heffect.oneShot, oneShot_eq_none_iff h]

theorem noGhost_construct : (construct : SchedulerRunslice Fn Args).NoGhost :=
  ⟨fun p e he => by cases p <;> exact absurd he List.not_mem_nil, List.nodup_nil⟩

/-- In a history of a fresh scheduler, every state reached is free of ghosts and
    duplicates exactly when no `run()` that returns takes a one-shot entry. -/
theorem noGhost_iff_no_oneShot_run (ops : List (Op Fn Args)) :
    (∀ s ∈ StepRun.visited step construct ops, s.NoGhost) ↔
      ∀ c ∈ StepRun.calls step construct ops,
        ∀ o s', c.1.step c.2 = .ok (o, s') → ¬ c.1.RunsOneShot c.2 := by
  rw [StepRun.forall_visited_iff, and_iff_right noGhost_construct]
  -- a call that does not return adds no state to the history
  have hlaw : ∀ (s : SchedulerRunslice Fn Args) op, s.NoGhost →
      ((∀ o s', s.step op = .ok (o, s') → s'.NoGhost) ↔
        ∀ o s', s.step op = .ok (o, s') → ¬ s.RunsOneShot op) :=
    fun s op hs => forall₃_congr fun o s' hok => hs.step_iff hok
  have hkeep : ∀ (s : SchedulerRunslice Fn Args) op o s', s.NoGhost →
      (∀ o s', s.step op = .ok (o, s') → ¬ s.RunsOneShot op) →
      s.step op = .ok (o, s') → s'.NoGhost :=
    fun s op o s' hs hcond hok => (hs.step_iff hok).mpr (hcond o s' hok)
  exact StepRun.forall_calls_iff hlaw hkeep noGhost_construct ops

/-- Registering a one-shot task and running it once leaves a ghost. -/
theorem oneShot_run_leaves_ghost :
    ¬ ∀ ops : List (Op Unit Unit), ∀ s ∈ StepRun.visited step construct ops, s.NoGhost := by
  intro hall
  let ops : List (Op Unit Unit) := [.enqueueRegistration 1 (some ()) false false, .run]
  have hnamed := (hall ops _ (StepRun.final_mem_visited construct ops)).named false
    ⟨1, false, ⟨true, none, .free ()⟩, 0⟩ (List.mem_singleton_self _)
  exact absurd hnamed (by decide)

end SchedulerRunslice

end NetworkedFS
