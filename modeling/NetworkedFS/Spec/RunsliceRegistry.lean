import NetworkedFS.ForStd.Except
import NetworkedFS.ForStd.Registry
import NetworkedFS.ForStd.StepRun
import NetworkedFS.Native.Runslice

/-!
# The slice scheduler as a registry

`view` forgets the callbacks of a `SchedulerRunslice` and leaves a `Registry`: the
tickets of its two queues and the lookup as their home.  `step_effect` says once
what a call that returns can do: it makes one of the registry's acts, spends a ticket
exactly when it runs a one-shot entry, and moves the priority counter in one of three
ways.  Every invariant of the scheduler is derived from this theorem.

## Key results

- `run_eq_ok_iff`: what a `run()` that returns does;
- `step_effect`: what any call that returns does;
- `oneShot_eq_some_iff`: which calls spend a ticket.
-/

namespace NetworkedFS

variable {Fn Args : Type}

/-- The part of an entry that the registry sees. -/
def RunsliceEntry.ticket (e : RunsliceEntry Fn Args) : Ticket Int where
  key := e.identifier
  once := !e.persist
  serial := e.registration

namespace SchedulerRunslice

/-- The registry of a scheduler. -/
def view (s : SchedulerRunslice Fn Args) : Registry Int Bool where
  queues isPriority := (s.queue isPriority).map RunsliceEntry.ticket
  home := s.isPriorityLookup
  next := s.registrations

/-! ## The queues -/

@[simp] theorem queue_setQueue (s : SchedulerRunslice Fn Args) (p p' : Bool)
    (q : List (RunsliceEntry Fn Args)) :
    (s.setQueue p q).queue p' = if p' = p then q else s.queue p' := by
  cases p <;> cases p' <;> rfl

@[simp] theorem isPriorityLookup_setQueue (s : SchedulerRunslice Fn Args) (p : Bool)
    (q : List (RunsliceEntry Fn Args)) :
    (s.setQueue p q).isPriorityLookup = s.isPriorityLookup := by
  cases p <;> rfl

@[simp] theorem registrations_setQueue (s : SchedulerRunslice Fn Args) (p : Bool)
    (q : List (RunsliceEntry Fn Args)) : (s.setQueue p q).registrations = s.registrations := by
  cases p <;> rfl

@[simp] theorem priorityRunsLast_setQueue (s : SchedulerRunslice Fn Args) (p : Bool)
    (q : List (RunsliceEntry Fn Args)) :
    (s.setQueue p q).priorityRunsLast = s.priorityRunsLast := by
  cases p <;> rfl

/-- Replacing a queue updates one queue of the registry. -/
theorem view_setQueue (s : SchedulerRunslice Fn Args) (p : Bool)
    (q : List (RunsliceEntry Fn Args)) :
    (s.setQueue p q).view =
      { s.view with
        queues := Function.update s.view.queues p (q.map RunsliceEntry.ticket) } := by
  simp only [view, isPriorityLookup_setQueue, registrations_setQueue, Registry.mk.injEq, and_true]
  funext p'
  rw [queue_setQueue, Function.update_apply]
  split <;> rfl

/-- `find_if` in a queue finds the ticket of the entry that it finds. -/
theorem find?_hasKey_of_find? {s : SchedulerRunslice Fn Args} {p : Bool} {i : Int}
    {e : RunsliceEntry Fn Args} (h : (s.queue p).find? (hasIdentifier i) = some e) :
    (s.view.queues p).find? (Registry.hasKey i) = some e.ticket := by
  have hcomp : Registry.hasKey i ∘ RunsliceEntry.ticket =
      (hasIdentifier i : RunsliceEntry Fn Args → Bool) := rfl
  simp only [view, List.find?_map, hcomp, h, Option.map_some]

/-- Erasing at the iterator erases its ticket. -/
theorem map_ticket_eraseP (q : List (RunsliceEntry Fn Args)) (i : Int) :
    (q.eraseP (hasIdentifier i)).map RunsliceEntry.ticket =
      (q.map RunsliceEntry.ticket).eraseP (Registry.hasKey i) := by
  rw [List.eraseP_map]
  rfl

/-- Writing a callback leaves the registry as it is. -/
theorem view_assignCallback (s : SchedulerRunslice Fn Args) (p : Bool) (i : Int)
    (c : HandlerCallback Fn Args) : (s.assignCallback p i c).view = s.view := by
  have hmap : ((s.queue p).updateFirst (hasIdentifier i)
      fun e => { e with callback := c }).map RunsliceEntry.ticket = s.view.queues p :=
    List.map_updateFirst RunsliceEntry.ticket (hasIdentifier i)
      (f := fun e => { e with callback := c }) (fun _ => rfl) (s.queue p)
  rw [assignCallback, view_setQueue, hmap, Function.update_eq_self]

/-! ## Errors -/

/-- Reporting an error that returns changes the status only. -/
theorem report_eq_ok {s s' : SchedulerRunslice Fn Args} {e : RunsliceError}
    (h : s.report e = .ok s') : ∃ d, s' = { s with status := d } := by
  obtain ⟨d, -, rfl⟩ := Except.map_eq_ok_iff.mp h
  exact ⟨d, rfl⟩

/-- The errors of the operations on one identifier are recorded as standard codes. -/
theorem report_identifierNotAvailable (s : SchedulerRunslice Fn Args) :
    ∃ d, s.report .identifierNotAvailable = .ok { s with status := d } := ⟨_, rfl⟩

theorem report_identifierIsOccupied (s : SchedulerRunslice Fn Args) :
    ∃ d, s.report .identifierIsOccupied = .ok { s with status := d } := ⟨_, rfl⟩

/-- The two errors of `run()` are outside both code ranges. -/
theorem report_noTasksAvailable (s : SchedulerRunslice Fn Args) :
    s.report .noTasksAvailable = .error .assertion := rfl

theorem report_noPriorityTasksAvailable (s : SchedulerRunslice Fn Args) :
    s.report .noPriorityTasksAvailable = .error .assertion := rfl

/-! ## Running -/

/-- The queue that `run()` takes in each mode. -/
def runsPriority (s : SchedulerRunslice Fn Args) : Bool :=
  match s.mode with
  | .priorityOnlyRoundRobin => true
  | _ => s.takesPriority

/-- The priority counter after a `run()`. -/
def runsLastAfter (s : SchedulerRunslice Fn Args) : Int8 :=
  match s.mode with
  | .priorityOnlyRoundRobin => 0
  | _ => nextPriorityRunsLast s.mode s.priorityRunsLast

/-- The lookup after `entry` was run. -/
def lookupAfter (s : SchedulerRunslice Fn Args) (entry : RunsliceEntry Fn Args) : UMap Int Bool :=
  if entry.persist then s.isPriorityLookup else s.isPriorityLookup.erase entry.identifier

theorem runOperationInline_eq_ok_iff {s s' : SchedulerRunslice Fn Args}
    {q copy : List (RunsliceEntry Fn Args)} {e : RunsliceEntry Fn Args} {v : Invocation Fn Args} :
    s.runOperationInline q = .ok ((e, v), copy, s') ↔
      q.getLast? = some e ∧ e.callback.run = .ok v ∧
      copy = (if e.persist then (e :: q).dropLast else q.dropLast) ∧
      s' = { s with isPriorityLookup := s.lookupAfter e } := by
  simp only [runOperationInline, lookupAfter]
  cases hlast : q.getLast? with
  | none => simp only [reduceCtorEq, false_and]
  | some back =>
    simp only [bind, Except.bind, pure, Except.pure, Option.some.injEq]
    -- the callback decides whether the call returns
    cases hrun : back.callback.run with
    | error f =>
      simp only [reduceCtorEq, false_iff, not_and]
      rintro rfl hok
      rw [hrun] at hok
      cases hok
    | ok w =>
      constructor
      · intro h
        cases hp : back.persist <;> simp only [hp] at h <;> cases h <;> simp [hp, hrun]
      · rintro ⟨rfl, hok, rfl, rfl⟩
        rw [hrun] at hok
        cases hok
        cases hp : back.persist <;> rfl

/-- A `run()` returns exactly when something is registered and the entry at the back
    of the queue it takes can be called; that entry is executed, and no queue
    changes. -/
theorem run_eq_ok_iff {s s' : SchedulerRunslice Fn Args} {x : Option (Execution Fn Args)} :
    s.run = .ok (x, s') ↔ s.isPriorityLookup ≠ ∅ ∧
      ∃ e v, (s.queue s.runsPriority).getLast? = some e ∧ e.callback.run = .ok v ∧
        x = some ⟨s.runsPriority, e, v⟩ ∧
        s' = { s with
          isPriorityLookup := s.lookupAfter e
          priorityRunsLast := s.runsLastAfter } := by
  -- a `run()` without a callable entry ends in the assertion of `setReturnCode`
  unfold run
  by_cases hlookup : s.isPriorityLookup = ∅
  · rw [if_neg (not_not.mpr hlookup), report_noTasksAvailable]
    simp only [bind, Except.bind, reduceCtorEq, ne_eq, hlookup, not_true_eq_false, false_and]
  rw [if_pos hlookup]
  -- both branches that run something have this shape; they differ in the queue and the counter
  have hround : ∀ (p : Bool) (c : SchedulerRunslice Fn Args → Int8),
      (s.runOperationInline (s.queue p) >>= fun r =>
        .ok (some (⟨p, r.1.1, r.1.2⟩ : Execution Fn Args),
          { r.2.2 with priorityRunsLast := c r.2.2 })) = Except.ok (x, s') ↔
      ∃ e v, (s.queue p).getLast? = some e ∧ e.callback.run = .ok v ∧ x = some ⟨p, e, v⟩ ∧
        s' = { s with
          isPriorityLookup := s.lookupAfter e
          priorityRunsLast := c { s with isPriorityLookup := s.lookupAfter e } } := by
    intro p c
    rw [Except.bind_eq_ok_iff]
    constructor
    · rintro ⟨⟨⟨e, v⟩, copy, t⟩, hrun, hok⟩
      obtain ⟨hlast, hv, -, rfl⟩ := runOperationInline_eq_ok_iff.mp hrun
      cases hok
      exact ⟨e, v, hlast, hv, rfl, rfl⟩
    · rintro ⟨e, v, hlast, hv, rfl, rfl⟩
      exact ⟨_, runOperationInline_eq_ok_iff.mpr ⟨hlast, hv, rfl, rfl⟩, rfl⟩
  -- one mode takes the priority queue and resets the counter, the others alternate
  by_cases hmode : s.mode = .priorityOnlyRoundRobin
  · have hp : s.runsPriority = true := by simp only [runsPriority, hmode]
    have hc : s.runsLastAfter = 0 := by simp only [runsLastAfter, hmode]
    rw [if_neg (not_not.mpr hmode), hp, hc]
    by_cases hempty : s.priorityQueue = []
    -- an empty priority queue is reported, which fails the assertion
    · rw [if_neg (by simp [hempty]), report_noPriorityTasksAvailable]
      simp [bind, Except.bind, queue, hempty]
    · rw [if_pos (by simpa using hempty)]
      exact (hround true fun _ => 0).trans (and_iff_right hlookup).symm
  · have hp : s.runsPriority = s.takesPriority := by
      cases hm : s.mode <;> simp only [runsPriority, hm]
      exact absurd hm hmode
    have hc : s.runsLastAfter = nextPriorityRunsLast s.mode s.priorityRunsLast := by
      cases hm : s.mode <;> simp only [runsLastAfter, hm]
      exact absurd hm hmode
    rw [if_pos hmode, hp, hc]
    exact (hround s.takesPriority fun t => nextPriorityRunsLast t.mode t.priorityRunsLast).trans
      (and_iff_right hlookup).symm

/-! ## One step -/

/-- The ticket that a call spends: that of the one-shot entry it executes. -/
def Output.oneShot : Output Fn Args → Option (Bool × Ticket Int)
  | .ran (some x) => if x.entry.persist then none else some (x.isPriority, x.entry.ticket)
  | _ => none

/-- What a call that returns can do. -/
structure Effect (s : SchedulerRunslice Fn Args) (o : Output Fn Args)
    (act : Registry.Act Int Bool) (s' : SchedulerRunslice Fn Args) : Prop where
  registry : s.view.Step act s'.view
  oneShot : o.oneShot = act.expired
  counter : s'.priorityRunsLast = s.priorityRunsLast ∨ s'.priorityRunsLast = 0 ∨
    s'.priorityRunsLast = nextPriorityRunsLast s.mode s.priorityRunsLast

/-- A call that changes neither the registry nor the counter. -/
private theorem effect_quiet {s s' : SchedulerRunslice Fn Args} {o : Output Fn Args}
    (hview : s'.view = s.view) (ho : o.oneShot = none)
    (hc : s'.priorityRunsLast = s.priorityRunsLast) : Effect s o .quiet s' :=
  ⟨hview, ho, Or.inl hc⟩

/-- The error paths report and return `false`. -/
private theorem report_effect {s s' : SchedulerRunslice Fn Args} {e : RunsliceError} {b : Bool}
    (h : (s.report e).map (fun s => (false, s)) = .ok (b, s')) :
    ∃ act, Effect s (.result b) act s' := by
  obtain ⟨t, ht, hok⟩ := Except.map_eq_ok_iff.mp h
  obtain ⟨d, rfl⟩ := report_eq_ok ht
  cases hok
  exact ⟨.quiet, effect_quiet rfl rfl rfl⟩

/-- The two enqueue functions, whose callbacks the registry does not see. -/
private theorem enqueue_effect {s s' : SchedulerRunslice Fn Args} {i : Int} {p k b : Bool}
    {c : HandlerCallback Fn Args}
    (h : (do
      let (result, s) ← s.enqueueSharedHelper i
      if result then return (true, s.emplaceRegistration i c p k) else return (false, s)) =
        Except.ok (b, s')) :
    ∃ act, Effect s (.result b) act s' := by
  unfold enqueueSharedHelper at h
  cases hlookup : s.isPriorityLookup.lookup i with
  | none =>
    simp only [hlookup] at h
    cases h
    refine ⟨.enroll i p (!k), ⟨hlookup, ?_⟩, rfl, Or.inl (priorityRunsLast_setQueue s p _)⟩
    calc (s.emplaceRegistration i c p k).view
        = { (s.setQueue p (⟨i, k, c, s.registrations⟩ :: s.queue p)).view with
            home := s.isPriorityLookup.insert i p
            next := s.registrations + 1 } := rfl
      _ = s.view.enroll i p (!k) := by rw [view_setQueue]; rfl
  | some q =>
    simp only [hlookup] at h
    obtain ⟨⟨b', t⟩, hreport, hrest⟩ := Except.bind_eq_ok_iff.mp h
    obtain ⟨act, heffect⟩ := report_effect hreport
    -- the helper has said `false`, and the function passes it on
    obtain ⟨_, -, hfalse⟩ := Except.map_eq_ok_iff.mp hreport
    cases hfalse
    cases hrest
    exact ⟨act, heffect⟩

/-- The callback updates, from the iterator on. -/
private theorem assign_effect {s s₁ s' : SchedulerRunslice Fn Args} {i : Int} {b : Bool}
    {found : Option (Bool × RunsliceEntry Fn Args)}
    (hhelp : s.updateSharedHelper i = .ok (found, s₁))
    (hs' : s' = s₁ ∨ ∃ p c, s' = s₁.assignCallback p i c) :
    ∃ act, Effect s (.result b) act s' := by
  -- the helper that finds the entry changes no more than the status
  have hs₁ : s₁.view = s.view ∧ s₁.priorityRunsLast = s.priorityRunsLast := by
    unfold updateSharedHelper at hhelp
    cases hlookup : s.isPriorityLookup.lookup i with
    | none =>
      simp only [hlookup] at hhelp
      obtain ⟨t, ht, hok⟩ := Except.map_eq_ok_iff.mp hhelp
      obtain ⟨d, rfl⟩ := report_eq_ok ht
      cases hok
      exact ⟨rfl, rfl⟩
    | some q =>
      simp only [hlookup] at hhelp
      split at hhelp
      · cases hhelp
        exact ⟨rfl, rfl⟩
      · cases hhelp
  refine ⟨.quiet, ?_⟩
  rcases hs' with rfl | ⟨p, c, rfl⟩
  · exact effect_quiet hs₁.1 rfl hs₁.2
  · exact effect_quiet (by rw [view_assignCallback, hs₁.1]) rfl
      (by rw [assignCallback, priorityRunsLast_setQueue, hs₁.2])

/-- An update with parameters writes to the entry that was found. -/
theorem updateShared_effect {s s' : SchedulerRunslice Fn Args} {i : Int} {f : Option Fn} {a : Args}
    {b : Bool} (h : s.updateShared i f a = .ok (b, s')) : ∃ act, Effect s (.result b) act s' := by
  obtain ⟨⟨found, s₁⟩, hhelp, hrest⟩ := Except.bind_eq_ok_iff.mp h
  apply assign_effect hhelp
  cases found with
  | none =>
    cases hrest
    exact Or.inl rfl
  | some x =>
    cases f with
    | none =>
      obtain ⟨c, -, hok⟩ := Except.bind_eq_ok_iff.mp hrest
      cases hok
      exact Or.inr ⟨x.1, c, rfl⟩
    | some g =>
      cases hrest
      exact Or.inr ⟨x.1, _, rfl⟩

/-- So does an update without parameters. -/
theorem updateSharedParameterFree_effect {s s' : SchedulerRunslice Fn Args} {i : Int}
    {f : Option Fn} {b : Bool} (h : s.updateSharedParameterFree i f = .ok (b, s')) :
    ∃ act, Effect s (.result b) act s' := by
  obtain ⟨⟨found, s₁⟩, hhelp, hrest⟩ := Except.bind_eq_ok_iff.mp h
  apply assign_effect hhelp
  cases found with
  | none =>
    cases hrest
    exact Or.inl rfl
  | some x =>
    cases hrest
    exact Or.inr ⟨x.1, _, rfl⟩

/-- A removal takes out the first entry of the identifier, or reports an error. -/
theorem removeRegistration_effect {s s' : SchedulerRunslice Fn Args} {i : Int} {b : Bool}
    (h : s.removeRegistration i = .ok (b, s')) : ∃ act, Effect s (.result b) act s' := by
  unfold removeRegistration removeRegistrationInline at h
  cases hlookup : s.isPriorityLookup.lookup i with
  | none =>
    simp only [hlookup] at h
    exact report_effect h
  | some p =>
    simp only [hlookup] at h
    cases hfind : (s.queue p).find? (hasIdentifier i) with
    | none =>
      simp only [hfind] at h
      cases h
    | some e =>
      simp only [hfind] at h
      cases h
      -- the entry and the key leave together
      refine ⟨.withdraw i, ⟨p, e.ticket, hlookup, find?_hasKey_of_find? hfind, ?_⟩, rfl, Or.inl ?_⟩
      · have hview := view_setQueue s p ((s.queue p).eraseP (hasIdentifier i))
        rw [map_ticket_eraseP] at hview
        exact congrArg (fun g => { g with home := s.isPriorityLookup.erase i }) hview
      · exact priorityRunsLast_setQueue s p _

/-- A change of the priority moves that entry to the other queue. -/
theorem updateRegistrationPriority_effect {s s' : SchedulerRunslice Fn Args} {i : Int} {p b : Bool}
    (h : s.updateRegistrationPriority i p = .ok (b, s')) :
    ∃ act, Effect s (.result b) act s' := by
  unfold updateRegistrationPriority at h
  cases hlookup : s.isPriorityLookup.lookup i with
  | none =>
    simp only [hlookup] at h
    exact report_effect h
  | some q =>
    simp only [hlookup] at h
    by_cases hq : q = p
    · -- the flag is written again, which changes nothing
      rw [if_neg (not_not.mpr hq)] at h
      cases h
      refine ⟨.quiet, effect_quiet ?_ rfl rfl⟩
      have hsame : s.isPriorityLookup.insert i p = s.isPriorityLookup := by
        apply Finmap.ext_lookup
        intro x
        rw [UMap.lookup_insert_eq_ite]
        split
        · next hx => rw [hx, hlookup, hq]
        · rfl
      simp only [view, hsame, queue]
    · rw [if_pos hq] at h
      cases hfind : (s.queue q).find? (hasIdentifier i) with
      | none =>
        simp only [hfind] at h
        -- the iterator is at the end of the list
        cases h
      | some e =>
        simp only [hfind] at h
        cases h
        refine ⟨.transfer i p, ⟨q, e.ticket, hlookup, hq, find?_hasKey_of_find? hfind, ?_⟩, rfl,
          Or.inl ?_⟩
        -- the queue that loses the entry is not the one that gained it
        · let t := s.setQueue p (e :: s.queue p)
          have ht : t.queue q = s.queue q := by rw [queue_setQueue, if_neg hq]
          have hhome : (t.setQueue q ((t.queue q).eraseP (hasIdentifier i))).isPriorityLookup =
              s.isPriorityLookup := by
            rw [isPriorityLookup_setQueue, isPriorityLookup_setQueue]
          calc _ = { (t.setQueue q ((t.queue q).eraseP (hasIdentifier i))).view with
                home := (t.setQueue q
                  ((t.queue q).eraseP (hasIdentifier i))).isPriorityLookup.insert i p } := rfl
            _ = s.view.transfer i e.ticket q p := by
              rw [hhome, view_setQueue, ht, map_ticket_eraseP, view_setQueue]
              rfl
        · exact (priorityRunsLast_setQueue _ q _).trans (priorityRunsLast_setQueue s p _)

theorem run_effect {s s' : SchedulerRunslice Fn Args} {x : Option (Execution Fn Args)}
    (h : s.run = .ok (x, s')) : ∃ act, Effect s (.ran x) act s' := by
  obtain ⟨-, e, v, hlast, -, rfl, rfl⟩ := run_eq_ok_iff.mp h
  have hcounter : s.runsLastAfter = s.priorityRunsLast ∨ s.runsLastAfter = 0 ∨
      s.runsLastAfter = nextPriorityRunsLast s.mode s.priorityRunsLast := by
    unfold runsLastAfter
    split
    · exact Or.inr (Or.inl rfl)
    · exact Or.inr (Or.inr rfl)
  cases hp : e.persist with
  | true =>
    refine ⟨.quiet, ?_, by simp [Output.oneShot, hp, Registry.Act.expired], hcounter⟩
    simp only [Registry.Step, view, lookupAfter, hp, if_true, queue]
  | false =>
    -- the entry stays where it is, and only its key leaves
    have hlast' : (s.view.queues s.runsPriority).getLast? = some e.ticket := by
      simp only [view, List.getLast?_map, hlast, Option.map_some]
    refine ⟨.expire s.runsPriority e.ticket, ⟨hlast', by simp [RunsliceEntry.ticket, hp], ?_⟩,
      by simp [Output.oneShot, hp, Registry.Act.expired], hcounter⟩
    simp only [view, lookupAfter, hp, Registry.expire, queue, Bool.false_eq_true, if_false,
      RunsliceEntry.ticket]

/-- What a call of the public interface can do when it returns. -/
theorem step_effect {s s' : SchedulerRunslice Fn Args} {op : Op Fn Args} {o : Output Fn Args}
    (h : s.step op = .ok (o, s')) : ∃ act, Effect s o act s' := by
  cases op with
  | enqueueRegistration i f p k =>
    -- the edits, each with its own lemma
    obtain ⟨⟨b, t⟩, hb, hok⟩ := Except.map_eq_ok_iff.mp h
    cases hok
    exact enqueue_effect hb
  | enqueueRegistrationParameters i f a p k =>
    obtain ⟨⟨b, t⟩, hb, hok⟩ := Except.map_eq_ok_iff.mp h
    cases hok
    exact enqueue_effect hb
  | updateRegistrationPriority i p =>
    obtain ⟨⟨b, t⟩, hb, hok⟩ := Except.map_eq_ok_iff.mp h
    cases hok
    exact updateRegistrationPriority_effect hb
  | updateRegistration i f =>
    obtain ⟨⟨b, t⟩, hb, hok⟩ := Except.map_eq_ok_iff.mp h
    cases hok
    exact updateSharedParameterFree_effect hb
  | updateRegistrationParameters i f a =>
    obtain ⟨⟨b, t⟩, hb, hok⟩ := Except.map_eq_ok_iff.mp h
    cases hok
    exact updateShared_effect hb
  | updateRegistrationParametersOnly i a =>
    obtain ⟨⟨b, t⟩, hb, hok⟩ := Except.map_eq_ok_iff.mp h
    cases hok
    exact updateShared_effect hb
  | removeRegistration i =>
    obtain ⟨⟨b, t⟩, hb, hok⟩ := Except.map_eq_ok_iff.mp h
    cases hok
    exact removeRegistration_effect hb
  | setAlgorithmMode m =>
    -- no entry and no flag depends on the mode
    cases h
    exact ⟨.quiet, effect_quiet rfl rfl rfl⟩
  | run =>
    obtain ⟨⟨x, t⟩, hx, hok⟩ := Except.map_eq_ok_iff.mp h
    cases hok
    exact run_effect hx
  | clean =>
    cases h
    -- `clean` empties queues and lookup alike, and resets the counter
    refine ⟨.clear, ?_, rfl, Or.inr (Or.inl rfl)⟩
    simp only [Registry.Step, view, clean, Registry.clear, Registry.mk.injEq, and_true]
    funext p
    cases p <;> rfl

/-- A returning call spends a ticket exactly when it is a `run()` whose queue has a
    one-shot entry at the back. -/
theorem oneShot_eq_some_iff {s s' : SchedulerRunslice Fn Args} {op : Op Fn Args}
    {o : Output Fn Args} (h : s.step op = .ok (o, s')) (p : Bool) (t : Ticket Int) :
    o.oneShot = some (p, t) ↔ op = .run ∧ p = s.runsPriority ∧
      ∃ e, (s.queue s.runsPriority).getLast? = some e ∧ e.persist = false ∧ e.ticket = t := by
  cases op with
  | run =>
    obtain ⟨⟨x, t⟩, hx, hok⟩ := Except.map_eq_ok_iff.mp h
    obtain ⟨-, e, v, hlast, -, rfl, -⟩ := run_eq_ok_iff.mp hx
    cases hok
    simp only [Output.oneShot, hlast, Option.some.injEq, exists_eq_left', true_and]
    cases hp : e.persist with
    | true => simp only [if_true, reduceCtorEq, false_and, and_false]
    | false =>
      simp only [Bool.false_eq_true, if_false, Option.some.injEq, Prod.mk.injEq, true_and]
      exact and_congr_left fun _ => eq_comm
  | setAlgorithmMode m =>
    cases h
    simp only [Output.oneShot, reduceCtorEq, false_and]
  | clean =>
    cases h
    simp only [Output.oneShot, reduceCtorEq, false_and]
  -- no other call gives an execution back
  | _ =>
    obtain ⟨_, -, hok⟩ := Except.map_eq_ok_iff.mp h
    cases hok
    simp only [Output.oneShot, reduceCtorEq, false_and]

end SchedulerRunslice

end NetworkedFS
