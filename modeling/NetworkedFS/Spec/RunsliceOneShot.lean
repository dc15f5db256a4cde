import NetworkedFS.Spec.RunsliceRegistry

/-!
# One-shot tasks of the slice scheduler

Every successful registration has a number, and the entries made from it carry it.
This file determines the histories in which no one-shot registration is executed
twice.  An executed entry stays in its queue, as `runOperationInline` pops a copy, so
it can be executed again later; what tells it apart in the scheduler's own data is
that its identifier is no longer registered for its queue, or is by now registered by
an entry further in front.
-/

namespace NetworkedFS

namespace SchedulerRunslice

variable {Fn Args : Type}

/-- The numbers of the one-shot registrations that were executed, in order. -/
def executedOneShots (outputs : List (Output Fn Args)) : List Nat :=
  outputs.filterMap fun o => o.oneShot.map fun x => x.2.serial

/-- If the call is a `run()` that takes a one-shot entry, then that entry's identifier
    is registered for the queue it is taken from, and no other entry of the queue has
    the identifier. -/
def RunsRegistered (s : SchedulerRunslice Fn Args) (op : Op Fn Args) : Prop :=
  op = .run → ∀ e, (s.queue s.runsPriority).getLast? = some e → e.persist = false →
    s.isPriorityLookup.lookup e.identifier = some s.runsPriority ∧
    ∀ u ∈ (s.queue s.runsPriority).dropLast, u.identifier ≠ e.identifier

/-- Being registered, in terms of the tickets. -/
theorem registered_ticket_iff (s : SchedulerRunslice Fn Args) (p : Bool)
    (e : RunsliceEntry Fn Args) :
    s.view.Registered p e.ticket ↔ s.isPriorityLookup.lookup e.identifier = some p ∧
      ∀ u ∈ (s.queue p).dropLast, u.identifier ≠ e.identifier := by
  simp only [Registry.Registered, view, ← List.map_dropLast, List.forall_mem_map]
  rfl

/-- A returning call satisfies `RunsRegistered` exactly when a ticket that it spends is
    registered. -/
theorem runsRegistered_iff {s s' : SchedulerRunslice Fn Args} {op : Op Fn Args}
    {o : Output Fn Args} (h : s.step op = .ok (o, s')) :
    s.RunsRegistered op ↔ ∀ p t, o.oneShot = some (p, t) → s.view.Registered p t := by
  constructor
  · intro hreg p t ht
    obtain ⟨hop, rfl, e, hlast, hp, rfl⟩ := (oneShot_eq_some_iff h p t).mp ht
    exact (registered_ticket_iff s _ e).mpr (hreg hop e hlast hp)
  · intro hreg hop e hlast hp
    have ho := (oneShot_eq_some_iff h _ _).mpr ⟨hop, rfl, e, hlast, hp, rfl⟩
    exact (registered_ticket_iff s _ e).mp (hreg _ _ ho)

/-! ## One call -/

variable {s s' : SchedulerRunslice Fn Args} {op : Op Fn Args} {o : Output Fn Args}
  {spent : List Nat}

/-- Without a one-shot entry nothing is spent, and the account carries over. -/
theorem accounted_of_none (hs : s.view.Accounted spent) (hok : s.step op = .ok (o, s'))
    (hexpired : o.oneShot = none) : s'.view.Accounted spent := by
  obtain ⟨act, heffect⟩ := step_effect hok
  have hnone : act.expired = none := by rw [← heffect.oneShot, hexpired]
  have hstep := hs.step heffect.registry (fun r t h => by rw [hnone] at h; cases h)
  rwa [Registry.Act.spends_of_none hnone] at hstep

/-- A one-shot entry that runs is registered exactly when its number is not spent, and then it
    is spent. -/
theorem accounted_of_some (hs : s.view.Accounted spent) (hok : s.step op = .ok (o, s')) {p : Bool}
    {t : Ticket Int} (hexpired : o.oneShot = some (p, t)) :
    (s.view.Registered p t ↔ t.serial ∉ spent) ∧
      (t.serial ∉ spent → s'.view.Accounted (t.serial :: spent)) := by
  obtain ⟨act, heffect⟩ := step_effect hok
  have hregistry := heffect.registry
  have hsome : act.expired = some (p, t) := by rw [← heffect.oneShot, hexpired]
  obtain ⟨hlast, honce⟩ : (s.view.queues p).getLast? = some t ∧ t.once = true := by
    cases act <;> cases hsome
    exact ⟨hregistry.1, hregistry.2.1⟩
  have hspent : s.view.Registered p t ↔ t.serial ∉ spent := by
    simpa only [honce, true_implies] using hs.registered_iff hlast
  refine ⟨hspent, fun hfresh => ?_⟩
  have hstep := hs.step hregistry (fun r u h => by
    rw [hsome] at h
    cases h
    exact hspent.mpr hfresh)
  rwa [Registry.Act.spends_of_some hsome] at hstep

/-! ## Runs -/

/-- A number that is executed next is new exactly when it is not spent and the others avoid
    it. -/
theorem fresh_cons_iff {n : Nat} {executed : List Nat} :
    ((n :: executed).Nodup ∧ ∀ m ∈ n :: executed, m ∉ spent) ↔
      n ∉ spent ∧ executed.Nodup ∧ ∀ m ∈ executed, m ∉ n :: spent := by
  rw [List.nodup_cons, List.forall_mem_cons]
  simp only [List.mem_cons, not_or]
  constructor
  · rintro ⟨⟨hnew, hnodup⟩, hfresh, hrest⟩
    refine ⟨hfresh, hnodup, fun m hm => ⟨?_, hrest m hm⟩⟩
    rintro rfl
    exact hnew hm
  · rintro ⟨hfresh, hnodup, hrest⟩
    exact ⟨⟨fun hmem => (hrest n hmem).1 rfl, hnodup⟩, hfresh, fun m hm => (hrest m hm).2⟩

/-- From a state in which the tickets numbered in `spent` are used up, a run executes
    new one-shot registrations only, and none of them twice, exactly when every
    one-shot entry is registered at the time it is taken. -/
theorem executedOneShots_fresh_iff (ops : List (Op Fn Args)) {s : SchedulerRunslice Fn Args}
    {spent : List Nat} (hs : s.view.Accounted spent) :
    ((executedOneShots (StepRun.outputs step s ops)).Nodup ∧
      ∀ n ∈ executedOneShots (StepRun.outputs step s ops), n ∉ spent) ↔
    ∀ c ∈ StepRun.calls step s ops, ∀ o s', c.1.step c.2 = .ok (o, s') →
      c.1.RunsRegistered c.2 := by
  -- induction on the run; the list of spent numbers grows with it
  induction ops generalizing s spent with
  | nil => simp [executedOneShots, StepRun.outputs, StepRun.calls]
  | cons op ops ih =>
    simp only [StepRun.outputs, StepRun.calls, List.forall_mem_cons]
    cases hok : s.step op with
    | error f => simp [executedOneShots]
    | ok r =>
      obtain ⟨o, s'⟩ := r
      -- the first call returns, so its condition is about this state
      have hfirst : (∀ o₁ s₁, Except.ok (ε := Fault) (o, s') = .ok (o₁, s₁) →
          s.RunsRegistered op) ↔ s.RunsRegistered op :=
        ⟨fun h => h o s' rfl, fun h _ _ _ => h⟩
      rw [hfirst, runsRegistered_iff hok]
      cases hexpired : o.oneShot with
      | none =>
        have hexec : executedOneShots (o :: StepRun.outputs step s' ops) =
            executedOneShots (StepRun.outputs step s' ops) := by
          simp only [executedOneShots, List.filterMap_cons, hexpired, Option.map_none]
        simp only [hexec, ih (accounted_of_none hs hok hexpired), reduceCtorEq, false_implies,
          implies_true, true_and]
      | some x =>
        obtain ⟨p, t⟩ := x
        obtain ⟨hspent, haccounted⟩ := accounted_of_some hs hok hexpired
        have hexec : executedOneShots (o :: StepRun.outputs step s' ops) =
            t.serial :: executedOneShots (StepRun.outputs step s' ops) := by
          simp only [executedOneShots, List.filterMap_cons, hexpired, Option.map_some]
        have hreg : (∀ p' t', some (p, t) = some (p', t') → s.view.Registered p' t') ↔
            s.view.Registered p t :=
          ⟨fun h => h p t rfl, fun h _ _ heq => by cases heq; exact h⟩
        rw [hexec, fresh_cons_iff, hreg, hspent]
        -- the rest of the run must avoid a number that is spent now
        exact and_congr_right fun hfresh => ih (haccounted hfresh)

/-- Nothing is spent in a fresh scheduler. -/
theorem accounted_construct : (construct : SchedulerRunslice Fn Args).view.Accounted [] := by
  have hempty : ∀ p, (construct : SchedulerRunslice Fn Args).view.queues p = [] := by
    intro p
    cases p <;> rfl
  constructor
  all_goals simp [hempty]

/-- In a history of a fresh scheduler, no one-shot registration is executed twice
    exactly when every one-shot entry that a returning `run()` takes is registered for
    its queue and the only entry there with its identifier. -/
theorem oneShots_nodup_iff (ops : List (Op Fn Args)) :
    (executedOneShots (StepRun.outputs step construct ops)).Nodup ↔
      ∀ c ∈ StepRun.calls step construct ops,
        ∀ o s', c.1.step c.2 = .ok (o, s') → c.1.RunsRegistered c.2 := by
  rw [← executedOneShots_fresh_iff ops accounted_construct]
  simp only [List.not_mem_nil, not_false_eq_true, implies_true, and_true]

/-- While a second task is registered, a one-shot task runs at every `run()`. -/
theorem oneShot_runs_twice :
    ¬ ∀ ops : List (Op Unit Unit),
      (executedOneShots (StepRun.outputs step construct ops)).Nodup := by
  intro hall
  have hnodup := hall [.enqueueRegistration 1 (some ()) false false,
    .enqueueRegistration 2 (some ()) false true, .run, .run]
  exact absurd hnodup (by decide)

end SchedulerRunslice

end NetworkedFS
