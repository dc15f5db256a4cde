import NetworkedFS.Spec.InterruptDeadlock

/-!
# Calls that do not overlap

When a call, or a handler, begins only after all others have returned, the threads are one
sequential program: the mutexes and the iterators that the calls carry from one critical section
to the next make no difference.  This file says so about whole runs, from any tables.

## Key results

- `actsAs_of_serial`: the run from a state in which at most one call is under way;
- `serial_runs_agree`: a run without overlap and the history of the calls that it begins.
-/

namespace NetworkedFS

variable {ι Fn Args : Type} [DecidableEq ι]

namespace InterruptThreads

open SchedulerInterrupt (Op Output)

/-- The operation that an event begins, if it begins one. -/
def begins (c : InterruptThreads ι Fn Args × Event ι Fn Args) : Option (Op Fn Args) :=
  match c.2 with
  | .call t op => if (c.1.stack t).isEmpty && op.isCall then some op else none
  | .interrupt _ signal => some (.deliver signal)
  | .advance _ => none

/-- A call or a handler begins only when no other is under way. -/
def Serial (w : InterruptThreads ι Fn Args) (events : List (Event ι Fn Args)) : Prop :=
  ∀ c ∈ StepRun.calls step w events, begins c ≠ none → c.1.AtRest

/-- The operations that begin in a run, in order. -/
def begun (w : InterruptThreads ι Fn Args) (events : List (Event ι Fn Args)) :
    List (Op Fn Args) :=
  (StepRun.calls step w events).filterMap begins

/-- What the calls that return in a run give back, in order. -/
def returned (w : InterruptThreads ι Fn Args) (events : List (Event ι Fn Args)) :
    List (Output Fn Args) :=
  (StepRun.outputs step w events).reduceOption

/-- A run of the threads does what a history of the scheduler does from the given tables: its
    calls give back the same, at rest the tables are the same, and a step fails only when there is
    nothing to do, or as the history fails. -/
structure ActsAs (w : InterruptThreads ι Fn Args) (events : List (Event ι Fn Args))
    (tables : SchedulerInterrupt Fn Args) (ops : List (Op Fn Args)) : Prop where
  results : returned w events <+: StepRun.outputs SchedulerInterrupt.step tables ops
  atRest : (StepRun.final step w events).AtRest →
    returned w events = StepRun.outputs SchedulerInterrupt.step tables ops ∧
      (StepRun.final step w events).shared.tables =
        StepRun.final SchedulerInterrupt.step tables ops
  stops : ∀ c ∈ StepRun.calls step w events, ∀ halt, step c.1 c.2 = .error halt →
    halt = .finished ∨ ∃ e, halt = .fault (.fault e) ∧
      ∃ d ∈ StepRun.calls SchedulerInterrupt.step tables ops,
        SchedulerInterrupt.step d.1 d.2 = .error e

variable {w w' : InterruptThreads ι Fn Args} {e : Event ι Fn Args}
  {events : List (Event ι Fn Args)} {tables tables' : SchedulerInterrupt Fn Args}
  {op : Op Fn Args} {ops : List (Op Fn Args)}

/-! ## One event before a run -/

/-- Nothing happens. -/
theorem ActsAs.nil (hrest : w.AtRest → ops = [] ∧ w.shared.tables = tables) :
    ActsAs w [] tables ops where
  results := List.nil_prefix
  atRest h := by
    obtain ⟨rfl, htables⟩ := hrest h
    exact ⟨rfl, htables⟩
  stops c hc := absurd hc List.not_mem_nil

/-- No call returns at the first event. -/
theorem ActsAs.cons_none (hok : step w e = .ok (none, w')) (h : ActsAs w' events tables ops) :
    ActsAs w (e :: events) tables ops where
  results := by
    simp only [returned, StepRun.outputs, hok]
    exact h.results
  atRest := by
    simp only [returned, StepRun.outputs, StepRun.final, hok]
    exact h.atRest
  stops := by
    simp only [StepRun.calls, hok, List.forall_mem_cons]
    exact ⟨fun halt herror => (by cases herror), h.stops⟩

/-- The first call of the history returns at the first event. -/
theorem ActsAs.cons_some {out : Output Fn Args} (hok : step w e = .ok (some out, w'))
    (hop : tables.step op = .ok (out, tables')) (h : ActsAs w' events tables' ops) :
    ActsAs w (e :: events) tables (op :: ops) where
  results := by
    simp only [returned, StepRun.outputs, hok, hop]
    exact List.cons_prefix_cons.mpr ⟨rfl, h.results⟩
  atRest := by
    simp only [returned, StepRun.outputs, StepRun.final, hok, hop]
    intro hrest
    obtain ⟨hresults, htables⟩ := h.atRest hrest
    exact ⟨congrArg (out :: ·) hresults, htables⟩
  stops := by
    simp only [StepRun.calls, hok, hop, List.forall_mem_cons]
    refine ⟨fun halt herror => (by cases herror), fun c hc halt herror => ?_⟩
    cases h.stops c hc halt herror with
    | inl hfinished => exact .inl hfinished
    | inr hfault =>
      obtain ⟨fault, hhalt, d, hd, hfails⟩ := hfault
      exact .inr ⟨fault, hhalt, d, List.mem_cons_of_mem _ hd, hfails⟩

/-- The run ends at the first event. -/
theorem ActsAs.stop {halt : Halt InterruptFault} (herror : step w e = .error halt)
    (hrest : w.AtRest → ops = [] ∧ w.shared.tables = tables)
    (hhalt : halt = .finished ∨ ∃ e, halt = .fault (.fault e) ∧
      ∃ d ∈ StepRun.calls SchedulerInterrupt.step tables ops,
        SchedulerInterrupt.step d.1 d.2 = .error e) : ActsAs w (e :: events) tables ops where
  results := by
    simp only [returned, StepRun.outputs, herror]
    exact List.nil_prefix
  atRest := by
    simp only [returned, StepRun.outputs, StepRun.final, herror]
    intro h
    obtain ⟨rfl, htables⟩ := hrest h
    exact ⟨rfl, htables⟩
  stops := by
    simp only [StepRun.calls, herror, List.forall_mem_cons]
    refine ⟨fun halt' heq => ?_, fun c hc => absurd hc List.not_mem_nil⟩
    cases heq
    exact hhalt

/-! ## Events -/

/-- An event is an advance, or begins a call, or is left out because its thread is in a call. -/
theorem step_cases (w : InterruptThreads ι Fn Args) (e : Event ι Fn Args) :
    (∃ t, e = .advance t) ∨ (step w e = .ok (none, w) ∧ begins (w, e) = none) ∨
      ∃ t op, step w e = .ok (none, w.start t op op.program) ∧ begins (w, e) = some op := by
  cases e with
  | advance t => exact .inl ⟨t, rfl⟩
  | interrupt t signal => exact .inr (.inr ⟨t, .deliver signal, rfl, rfl⟩)
  | call t op =>
    by_cases hfree : ((w.stack t).isEmpty && op.isCall) = true
    · exact .inr (.inr ⟨t, op, if_pos hfree, if_pos hfree⟩)
    · exact .inr (.inl ⟨if_neg hfree, if_neg hfree⟩)

/-! ## Runs -/

theorem begun_cons (o : Option (Output Fn Args)) (hok : step w e = .ok (o, w')) :
    begun w (e :: events) = (begins (w, e)).toList ++ begun w' events := by
  simp only [begun, StepRun.calls, hok, List.filterMap_cons]
  cases begins (w, e) <;> rfl

theorem Serial.tail {o : Option (Output Fn Args)} (h : Serial w (e :: events))
    (hok : step w e = .ok (o, w')) : Serial w' events := by
  simp only [Serial, StepRun.calls, hok, List.forall_mem_cons] at h
  exact h.2

/-- A handler that begins at rest begins on a thread that has locked nothing. -/
theorem Serial.lockInv {o : Option (Output Fn Args)} (h : Serial w (e :: events))
    (hw : w.LockInv callbackLast InterruptShared.SameDispatch) (hok : step w e = .ok (o, w')) :
    w'.LockInv callbackLast InterruptShared.SameDispatch := by
  refine lockInv_step queue_lt_callback hw ?_ hok
  cases e with
  | call t op => trivial
  | advance t => trivial
  | interrupt t signal =>
    intro _ m hm
    have hrest : w.AtRest := h (w, .interrupt t signal) List.mem_cons_self (Option.some_ne_none _)
    rw [hrest t] at hm
    cases hm

/-- What a call that is alone is about to do, its operation does. -/
theorem step_of_run
    {s : InterruptShared Fn Args} {r : Output Fn Args × InterruptShared Fn Args}
    (hrun : op.program.run s = .ok r) : s.tables.step op = .ok (r.1, r.2.tables) := by
  have hdoes := InterruptProg.program_run op s
  unfold InterruptProg.Does at hdoes
  rw [hrun] at hdoes
  cases hstep : s.tables.step op with
  | ok r' =>
    rw [hstep] at hdoes
    cases hdoes
    rfl
  | error fault =>
    rw [hstep] at hdoes
    cases hdoes

/-- Its faults are those of the operation. -/
theorem fault_of_run {s : InterruptShared Fn Args} {fault : InterruptFault}
    (hrun : op.program.run s = .error fault) :
    ∃ e, fault = .fault e ∧ s.tables.step op = .error e := by
  have hdoes := InterruptProg.program_run op s
  unfold InterruptProg.Does at hdoes
  rw [hrun] at hdoes
  cases hstep : s.tables.step op with
  | ok r =>
    rw [hstep] at hdoes
    cases hdoes
  | error e =>
    rw [hstep] at hdoes
    cases hdoes
    exact ⟨e, rfl, rfl⟩

/-- One call is under way, and what is left of it does from here what its operation does from
    the state in which it began. -/
def UnderWay (w : InterruptThreads ι Fn Args) (op : Op Fn Args) (s : InterruptShared Fn Args) :
    Prop :=
  ∃ t f, w.Alone t f ∧ f.prog.run w.shared = op.program.run s

omit [DecidableEq ι] in
theorem UnderWay.not_atRest {s : InterruptShared Fn Args} (h : w.UnderWay op s) :
    ¬ w.AtRest := by
  obtain ⟨t, f, halone, -⟩ := h
  intro hrest
  have hstack := halone.stack
  rw [hrest t] at hstack
  cases hstack

/-- What an advance of the one call does. -/
theorem UnderWay.advance {s : InterruptShared Fn Args} {u : ι} {o : Option (Output Fn Args)}
    (h : w.UnderWay op s) (hok : w.advance u = .ok (o, w')) :
    match o with
    | some out => w'.AtRest ∧ s.tables.step op = .ok (out, w'.shared.tables)
    | none => w'.UnderWay op s := by
  obtain ⟨t, f, halone, hrun⟩ := h
  have hnext := halone.advance (Threads.advance_eq_ok_iff.mp hok)
  cases o with
  | some out => exact ⟨hnext.1, step_of_run (hrun.symm.trans hnext.2)⟩
  | none =>
    obtain ⟨f', halone', hrun'⟩ := hnext
    exact ⟨t, f', halone', hrun'.trans hrun⟩

/-- The one call finds every mutex free. -/
theorem UnderWay.stops {s : InterruptShared Fn Args} {u : ι} {halt : Halt InterruptFault}
    (h : w.UnderWay op s) (hw : w.LockInv callbackLast InterruptShared.SameDispatch)
    (herror : w.advance u = .error halt) :
    halt = .finished ∨ ∃ e, halt = .fault (.fault e) ∧ s.tables.step op = .error e := by
  obtain ⟨t, f, halone, hrun⟩ := h
  have hstops := Threads.advance_eq_error_iff.mp herror
  cases halt with
  | finished => exact .inl rfl
  | waiting =>
    cases hstops with
    | waiting hstack hprog howner =>
      obtain ⟨rfl, rfl, rfl⟩ := halone.eq_of_stack hstack
      rw [hw.free_of_alone halone.stack halone.others hprog] at howner
      cases howner
  | unowned => exact absurd herror (hw.not_unowned u)
  | fault fault =>
    obtain ⟨e, rfl, hfails⟩ := fault_of_run (hrun.symm.trans (halone.fault hstops))
    exact .inr ⟨e, rfl, hfails⟩

/-- A run without overlap, from rest or with one call under way. -/
theorem actsAs_of_serial (events : List (Event ι Fn Args)) {w : InterruptThreads ι Fn Args}
    (hw : w.LockInv callbackLast InterruptShared.SameDispatch) (hserial : Serial w events) :
    (w.AtRest → ActsAs w events w.shared.tables (begun w events)) ∧
    ∀ op s, w.UnderWay op s → ActsAs w events s.tables (op :: begun w events) := by
  -- induction on the events, from both kinds of states at once
  induction events generalizing w with
  | nil =>
    constructor
    · exact fun _ => .nil fun _ => ⟨rfl, rfl⟩
    · exact fun op s hunder => .nil fun hrest => absurd hrest hunder.not_atRest
  | cons e events ih =>
    rcases step_cases w e with ⟨u, rfl⟩ | ⟨hok, hbegins⟩ | ⟨t, op', hok, hbegins⟩
    · constructor
      -- there is nothing to advance
      · intro hrest
        have herror : step w (.advance u) = .error .finished := by
          simp only [step, Threads.advance, hrest u]
        refine .stop herror (fun _ => ⟨?_, rfl⟩) (.inl rfl)
        simp only [begun, StepRun.calls, herror]
        rfl
      · intro op s hunder
        cases hadvance : w.advance u with
        | error halt =>
          refine .stop hadvance (fun hrest => absurd hrest hunder.not_atRest) ?_
          cases hunder.stops hw hadvance with
          | inl hfinished => exact .inl hfinished
          | inr hfault =>
            obtain ⟨fault, hhalt, hfails⟩ := hfault
            exact .inr ⟨fault, hhalt, (s.tables, op), List.mem_cons_self, hfails⟩
        | ok r =>
          obtain ⟨o, w'⟩ := r
          have hok : step w (.advance u) = .ok (o, w') := hadvance
          have hnext := ih (hserial.lockInv hw hok) (hserial.tail hok)
          have hdone := hunder.advance hadvance
          rw [begun_cons o hok]
          cases o with
          | none => exact .cons_none hok (hnext.2 op s hdone)
          | some out => exact .cons_some hok hdone.2 (hnext.1 hdone.1)
    -- the event is left out
    · have hnext := ih hw (hserial.tail hok)
      rw [begun_cons none hok, hbegins]
      constructor
      · exact fun hrest => .cons_none hok (hnext.1 hrest)
      · exact fun op s hunder => .cons_none hok (hnext.2 op s hunder)
    -- a call begins, which it does at rest
    · have hrest : w.AtRest := by
        refine hserial (w, e) List.mem_cons_self ?_
        rw [hbegins]
        exact Option.some_ne_none op'
      have hunder : UnderWay (w.start t op' op'.program) op' w.shared :=
        ⟨t, _, hrest.start t op' op'.program, rfl⟩
      have hnext := ih (hserial.lockInv hw hok) (hserial.tail hok)
      constructor
      · intro _
        rw [begun_cons none hok, hbegins]
        exact .cons_none hok (hnext.2 op' w.shared hunder)
      · exact fun op s hbusy => absurd hrest hbusy.not_atRest

/-- When calls and handlers do not overlap, the threads do what the scheduler does in the history
    of these calls: each gives back the same, the tables are the same at rest, nothing waits for a
    mutex, no iterator dangles, and a step fails only where the history fails. -/
theorem serial_runs_agree (shared : InterruptShared Fn Args) (events : List (Event ι Fn Args))
    (hserial : Serial (Threads.idle shared) events) :
    ActsAs (Threads.idle shared) events shared.tables (begun (Threads.idle shared) events) :=
  (actsAs_of_serial events (Threads.lockInv_idle shared) hserial).1 fun _ => rfl

/-- A thread registers a function, and when it has returned another one removes it. -/
def oneAfterTheOther : List (Event Bool Unit Unit) :=
  .call false (.registerFunction 1 (some ()) .sigabrt true) ::
    (List.replicate 7 (.advance false) ++
      .call true (.removeRegistration 1) :: List.replicate 4 (.advance true))

/-- Two threads, before anything is registered. -/
def nothingRegistered : InterruptThreads Bool Unit Unit := Threads.idle ⟨.initial, fun _ => 0⟩

/-- Both calls return, with what they give back in the history. -/
theorem serial_runs_agree_oneAfterTheOther :
    returned nothingRegistered oneAfterTheOther = [.result true, .result true] ∧
      ActsAs nothingRegistered oneAfterTheOther .initial
        [.registerFunction 1 (some ()) .sigabrt true, .removeRegistration 1] := by
  have hchecked : (StepRun.calls step nothingRegistered oneAfterTheOther).all (fun c =>
      (begins c).isNone || ((c.1.stack false).isEmpty && (c.1.stack true).isEmpty)) = true := rfl
  refine ⟨rfl, serial_runs_agree ⟨.initial, fun _ => 0⟩ oneAfterTheOther ?_⟩
  intro c hc hbegins t
  have hrest := List.all_eq_true.mp hchecked c hc
  simp only [Bool.or_eq_true, Bool.and_eq_true, Option.isNone_iff_eq_none,
    List.isEmpty_iff] at hrest
  cases t with
  | false => exact (hrest.resolve_left hbegins).1
  | true => exact (hrest.resolve_left hbegins).2

end InterruptThreads

end NetworkedFS
