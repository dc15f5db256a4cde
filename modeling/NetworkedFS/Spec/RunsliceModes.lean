import NetworkedFS.Spec.RunsliceFairness

/-!
# What decides the calls of the slice scheduler

Two schedulers whose queues and lookups are the same, registration numbers aside, and whose
modes both are or both are not the priority-only one, go on alike: every further call gives
back the same, or fails in the same way.  For the counter stays at zero, so that nothing
tells the two modes that take turns apart, and neither the status nor the number of a
registration is ever read.

## Key results

- `step_plain`: a call does to a scheduler what it does to its plain form;
- `merged_modes_agree`: the two modes that take turns are one mode;
- `clean_agrees_construct`: a scheduler that was cleaned is as good as a new one;
- `runWindow_eq_replicate`: what any number of `run()` calls in a row execute.
-/

namespace NetworkedFS

variable {Fn Args : Type}

/-- An entry without the number of its registration. -/
def RunsliceEntry.unnumbered (e : RunsliceEntry Fn Args) : RunsliceEntry Fn Args :=
  { e with registration := 0 }

/-- The two modes that take turns as one. -/
def RunsliceMode.merged : RunsliceMode → RunsliceMode
  | .priorityRoundRobin => .roundRobin
  | mode => mode

theorem RunsliceMode.merged_merged (mode : RunsliceMode) : mode.merged.merged = mode.merged := by
  cases mode <;> rfl

namespace SchedulerRunslice

/-- The scheduler without what no call depends on. -/
def plain (s : SchedulerRunslice Fn Args) : SchedulerRunslice Fn Args where
  priorityRunsLast := s.priorityRunsLast
  priorityQueue := s.priorityQueue.map RunsliceEntry.unnumbered
  normalQueue := s.normalQueue.map RunsliceEntry.unnumbered
  isPriorityLookup := s.isPriorityLookup
  mode := s.mode.merged
  status := {}
  registrations := 0

/-- The call, with the two modes that take turns as one. -/
def Op.merged : Op Fn Args → Op Fn Args
  | .setAlgorithmMode mode => .setAlgorithmMode mode.merged
  | op => op

/-- What a caller learns from a call: its result, or which function was run. -/
inductive Observation (Fn Args : Type) where
  | result (result : Bool)
  | invoked (invocation : Option (Invocation Fn Args))
  | done

def Output.observation : Output Fn Args → Observation Fn Args
  | .result b => .result b
  | .ran execution => .invoked (execution.map Execution.invocation)
  | .done => .done

/-- Two results of a call that say the same and leave the same plain scheduler. -/
def SameResult {β : Type} (r r' : β × SchedulerRunslice Fn Args) : Prop :=
  r.1 = r'.1 ∧ r.2.plain = r'.2.plain

/-! ## The plain form -/

@[simp] theorem queue_plain (s : SchedulerRunslice Fn Args) (p : Bool) :
    s.plain.queue p = (s.queue p).map RunsliceEntry.unnumbered := by
  cases p <;> rfl

@[simp] theorem isPriorityLookup_plain (s : SchedulerRunslice Fn Args) :
    s.plain.isPriorityLookup = s.isPriorityLookup := rfl

theorem map_unnumbered_map (q : List (RunsliceEntry Fn Args)) :
    (q.map RunsliceEntry.unnumbered).map RunsliceEntry.unnumbered =
      q.map RunsliceEntry.unnumbered := by
  rw [List.map_map]
  rfl

@[simp] theorem plain_plain (s : SchedulerRunslice Fn Args) : s.plain.plain = s.plain := by
  simp only [plain, map_unnumbered_map, RunsliceMode.merged_merged]

/-- The plain form of a scheduler with another queue. -/
theorem plain_setQueue (s : SchedulerRunslice Fn Args) (p : Bool)
    (q : List (RunsliceEntry Fn Args)) :
    (s.setQueue p q).plain = s.plain.setQueue p (q.map RunsliceEntry.unnumbered) := by
  cases p <;> rfl

/-- Schedulers of one plain form keep one when they get queues of one plain form. -/
theorem plain_setQueue_congr {s t : SchedulerRunslice Fn Args} (h : s.plain = t.plain) (p : Bool)
    {q q' : List (RunsliceEntry Fn Args)}
    (hq : q.map RunsliceEntry.unnumbered = q'.map RunsliceEntry.unnumbered) :
    (s.setQueue p q).plain = (t.setQueue p q').plain := by
  rw [plain_setQueue, plain_setQueue, h, hq]

/-- The same for the lookup. -/
theorem plain_lookup_congr {s t : SchedulerRunslice Fn Args} (h : s.plain = t.plain)
    (m : UMap Int Bool) :
    ({ s with isPriorityLookup := m } : SchedulerRunslice Fn Args).plain =
      ({ t with isPriorityLookup := m } : SchedulerRunslice Fn Args).plain :=
  congrArg (fun x : SchedulerRunslice Fn Args => { x with isPriorityLookup := m }) h

/-- The queues without numbers are those of the plain form. -/
theorem map_queue_congr {s t : SchedulerRunslice Fn Args} (h : s.plain = t.plain) (p : Bool) :
    (s.queue p).map RunsliceEntry.unnumbered = (t.queue p).map RunsliceEntry.unnumbered := by
  rw [← queue_plain, ← queue_plain, h]

/-- Erasing at an iterator looks at no number either. -/
theorem map_eraseP_congr {q q' : List (RunsliceEntry Fn Args)}
    (h : q.map RunsliceEntry.unnumbered = q'.map RunsliceEntry.unnumbered) (i : Int) :
    (q.eraseP (hasIdentifier i)).map RunsliceEntry.unnumbered =
      (q'.eraseP (hasIdentifier i)).map RunsliceEntry.unnumbered := by
  have hmap : ∀ q : List (RunsliceEntry Fn Args),
      (q.eraseP (hasIdentifier i)).map RunsliceEntry.unnumbered =
        (q.map RunsliceEntry.unnumbered).eraseP (hasIdentifier i) := by
    intro q
    rw [List.eraseP_map]
    rfl
  rw [hmap, hmap, h]

/-- `find_if` looks at no number. -/
theorem find?_plain (s : SchedulerRunslice Fn Args) (p : Bool) (i : Int) :
    (s.plain.queue p).find? (hasIdentifier i) =
      ((s.queue p).find? (hasIdentifier i)).map RunsliceEntry.unnumbered := by
  rw [queue_plain, List.find?_map]
  rfl

/-- Errors are reported alike. -/
theorem report_agree (s : SchedulerRunslice Fn Args) (error : RunsliceError) :
    Except.Agree (fun t t' => t.plain = t'.plain) (s.report error) (s.plain.report error) := by
  have hsame : s.plain.status.setReturnCode (subclassErrors schedulerRunsliceLocalErrors)
      error.code =
        s.status.setReturnCode (subclassErrors schedulerRunsliceLocalErrors) error.code := rfl
  unfold report
  rw [hsame]
  cases s.status.setReturnCode (subclassErrors schedulerRunsliceLocalErrors) error.code with
  | error e => exact .error _ e
  | ok status => exact .ok s.plain_plain.symm

/-- So are those of the calls that then give back `false` or nothing. -/
theorem report_map_agree {β : Type} (s : SchedulerRunslice Fn Args) (error : RunsliceError)
    (b : β) :
    Except.Agree SameResult ((s.report error).map fun t => (b, t))
      ((s.plain.report error).map fun t => (b, t)) :=
  (s.report_agree error).map fun _ _ h => ⟨rfl, h⟩

/-! ## Calls -/

/-- A new entry goes to the same place. -/
theorem plain_emplaceRegistration (s : SchedulerRunslice Fn Args) (i : Int)
    (c : HandlerCallback Fn Args) (p k : Bool) :
    (s.emplaceRegistration i c p k).plain = (s.plain.emplaceRegistration i c p k).plain := by
  cases p <;>
    simp [emplaceRegistration, plain, setQueue, queue, RunsliceMode.merged_merged,
      RunsliceEntry.unnumbered]

/-- The two enqueue functions. -/
theorem enqueue_agree (s : SchedulerRunslice Fn Args) (i : Int) (c : HandlerCallback Fn Args)
    (p k : Bool) :
    Except.Agree SameResult
      (do
        let (result, s) ← s.enqueueSharedHelper i
        if result then return (true, s.emplaceRegistration i c p k) else return (false, s))
      (do
        let (result, s) ← s.plain.enqueueSharedHelper i
        if result then return (true, s.emplaceRegistration i c p k) else return (false, s)) := by
  -- whether the identifier is taken does not depend on what `plain` forgets
  have hhelper : Except.Agree SameResult (s.enqueueSharedHelper i)
      (s.plain.enqueueSharedHelper i) := by
    unfold enqueueSharedHelper
    rw [isPriorityLookup_plain]
    cases s.isPriorityLookup.lookup i with
    | none => exact .ok ⟨rfl, s.plain_plain.symm⟩
    | some q => exact s.report_map_agree .identifierIsOccupied false
  refine hhelper.bind fun r r' h => ?_
  obtain ⟨b, t⟩ := r
  obtain ⟨b', t'⟩ := r'
  obtain ⟨rfl, ht⟩ := h
  cases b with
  | false => exact .ok ⟨rfl, ht⟩
  | true =>
    refine .ok ⟨rfl, ?_⟩
    calc (t.emplaceRegistration i c p k).plain
        = (t.plain.emplaceRegistration i c p k).plain := t.plain_emplaceRegistration i c p k
      _ = (t'.plain.emplaceRegistration i c p k).plain := by rw [show t.plain = t'.plain from ht]
      _ = (t'.emplaceRegistration i c p k).plain := (t'.plain_emplaceRegistration i c p k).symm

/-- The iterator leads to the same entry. -/
theorem updateSharedHelper_agree (s : SchedulerRunslice Fn Args) (i : Int) :
    Except.Agree
      (fun r r' => r.1.map (fun x => (x.1, x.2.unnumbered)) = r'.1 ∧ r.2.plain = r'.2.plain)
      (s.updateSharedHelper i) (s.plain.updateSharedHelper i) := by
  unfold updateSharedHelper
  rw [isPriorityLookup_plain]
  cases s.isPriorityLookup.lookup i with
  | none => exact (s.report_agree .identifierNotAvailable).map fun _ _ h => ⟨rfl, h⟩
  | some p =>
    simp only [find?_plain]
    cases (s.queue p).find? (hasIdentifier i) with
    | none => exact .error _ _
    | some e => exact .ok ⟨rfl, s.plain_plain.symm⟩

/-- Writing through it does the same. -/
theorem plain_assignCallback (s : SchedulerRunslice Fn Args) (p : Bool) (i : Int)
    (c : HandlerCallback Fn Args) :
    (s.assignCallback p i c).plain = (s.plain.assignCallback p i c).plain := by
  unfold assignCallback
  have hcomm : ∀ q : List (RunsliceEntry Fn Args),
      (q.updateFirst (hasIdentifier i) ({ · with callback := c })).map RunsliceEntry.unnumbered =
        (q.map RunsliceEntry.unnumbered).updateFirst (hasIdentifier i) ({ · with callback := c }) :=
    List.map_updateFirst_comm (fun _ => rfl) fun _ => rfl
  rw [plain_setQueue, plain_setQueue, plain_plain, queue_plain, hcomm, hcomm, map_unnumbered_map]

/-- The calls that write a callback through the iterator. -/
theorem assign_agree (s : SchedulerRunslice Fn Args) (i : Int)
    (write : RunsliceEntry Fn Args → Except Fault (HandlerCallback Fn Args))
    (hwrite : ∀ e, write e.unnumbered = write e) :
    Except.Agree SameResult
      (do
        match ← s.updateSharedHelper i with
        | (some (p, entry), s) =>
          let c ← write entry
          return (true, s.assignCallback p i c)
        | (none, s) => return (false, s))
      (do
        match ← s.plain.updateSharedHelper i with
        | (some (p, entry), s) =>
          let c ← write entry
          return (true, s.assignCallback p i c)
        | (none, s) => return (false, s)) := by
  -- both find the same callback, up to the number of its entry
  refine (s.updateSharedHelper_agree i).bind fun r r' h => ?_
  obtain ⟨found, t⟩ := r
  obtain ⟨found', t'⟩ := r'
  obtain ⟨rfl, ht⟩ := h
  cases found with
  | none => exact .ok ⟨rfl, ht⟩
  | some x =>
    simp only [Option.map_some, hwrite]
    cases write x.2 with
    | error e => exact .error _ e
    | ok c =>
      refine .ok ⟨rfl, ?_⟩
      -- writing it goes through `plain` on both sides
      calc (t.assignCallback x.1 i c).plain
          = (t.plain.assignCallback x.1 i c).plain := t.plain_assignCallback x.1 i c
        _ = (t'.plain.assignCallback x.1 i c).plain := by rw [show t.plain = t'.plain from ht]
        _ = (t'.assignCallback x.1 i c).plain := (t'.plain_assignCallback x.1 i c).symm

/-- An update with parameters writes the function that it is given, or the one that is there,
    with them. -/
theorem updateShared_agree (s : SchedulerRunslice Fn Args) (i : Int) (f : Option Fn) (a : Args) :
    Except.Agree SameResult (s.updateShared i f a) (s.plain.updateShared i f a) := by
  cases f with
  | none => exact s.assign_agree i (fun e => e.callback.setParameters a) fun _ => rfl
  | some f =>
    exact s.assign_agree i (fun e => .ok (e.callback.setFunction (some f) a)) fun _ => rfl

/-- A removal erases at the same iterator. -/
theorem removeRegistration_agree (s : SchedulerRunslice Fn Args) (i : Int) :
    Except.Agree SameResult (s.removeRegistration i) (s.plain.removeRegistration i) := by
  unfold removeRegistration removeRegistrationInline
  rw [isPriorityLookup_plain]
  cases s.isPriorityLookup.lookup i with
  | none => exact s.report_map_agree .identifierNotAvailable false
  | some p =>
    simp only [find?_plain]
    cases (s.queue p).find? (hasIdentifier i) with
    | none => exact .error _ _
    | some e =>
      exact .ok ⟨rfl, plain_lookup_congr (plain_setQueue_congr s.plain_plain.symm p
        (map_eraseP_congr (map_queue_congr s.plain_plain.symm p) i)) _⟩

/-- A change of the priority moves the same entry. -/
theorem updateRegistrationPriority_agree (s : SchedulerRunslice Fn Args) (i : Int) (p : Bool) :
    Except.Agree SameResult (s.updateRegistrationPriority i p)
      (s.plain.updateRegistrationPriority i p) := by
  unfold updateRegistrationPriority
  rw [isPriorityLookup_plain]
  cases s.isPriorityLookup.lookup i with
  | none => exact s.report_map_agree .identifierNotAvailable false
  | some current =>
    by_cases hp : current = p
    · simp only [hp, ne_eq, not_true_eq_false, if_false]
      exact .ok ⟨rfl, plain_lookup_congr s.plain_plain.symm _⟩
    · simp only [ne_eq, hp, not_false_eq_true, if_true, find?_plain]
      cases (s.queue current).find? (hasIdentifier i) with
      | none => exact .error _ _
      | some e =>
        have hput : (s.setQueue p (e :: s.queue p)).plain =
            (s.plain.setQueue p (e.unnumbered :: s.plain.queue p)).plain := by
          apply plain_setQueue_congr s.plain_plain.symm
          rw [List.map_cons, List.map_cons, map_queue_congr s.plain_plain.symm p]
          rfl
        have herase := plain_setQueue_congr hput current
          (map_eraseP_congr (map_queue_congr hput current) i)
        refine .ok ⟨rfl, ?_⟩
        simp only [isPriorityLookup_setQueue, isPriorityLookup_plain]
        exact plain_lookup_congr herase _

/-- The entry at the back is run without regard to its number. -/
theorem runOperationInline_agree (s : SchedulerRunslice Fn Args)
    (q : List (RunsliceEntry Fn Args)) :
    Except.Agree
      (fun r r' => r.1.2 = r'.1.2 ∧ r.2.2.plain = r'.2.2.plain ∧
        r.2.2.priorityRunsLast = s.priorityRunsLast)
      (s.runOperationInline q) (s.plain.runOperationInline (q.map RunsliceEntry.unnumbered)) := by
  unfold runOperationInline
  rw [List.getLast?_map]
  cases q.getLast? with
  | none => exact .error _ _
  | some back =>
    refine Except.Agree.bind_same back.callback.run fun invocation => ?_
    cases hpersist : back.persist with
    | true =>
      simp only [RunsliceEntry.unnumbered, hpersist, if_true]
      exact .ok ⟨rfl, s.plain_plain.symm, rfl⟩
    | false =>
      simp only [RunsliceEntry.unnumbered, hpersist, Bool.false_eq_true, if_false]
      exact .ok ⟨rfl, plain_lookup_congr s.plain_plain.symm _, rfl⟩

/-- The plain form takes the same queue. -/
theorem takesPriority_plain (s : SchedulerRunslice Fn Args) :
    s.plain.takesPriority = s.takesPriority := by
  simp only [takesPriority, plain, List.isEmpty_map]

/-- A scheduler whose counter is zero runs the same function. -/
theorem run_agree {s : SchedulerRunslice Fn Args} (hzero : s.priorityRunsLast = 0) :
    Except.Agree
      (fun r r' => r.1.map Execution.invocation = r'.1.map Execution.invocation ∧
        r.2.plain = r'.2.plain)
      s.run s.plain.run := by
  have hmode : s.plain.mode = .priorityOnlyRoundRobin ↔ s.mode = .priorityOnlyRoundRobin := by
    show s.mode.merged = _ ↔ _
    cases s.mode <;> decide
  -- whatever the mode does to the counter, it is zero afterwards
  have hcounter : ∀ {t t' : SchedulerRunslice Fn Args} {c c' : Int8}, t.plain = t'.plain →
      c = 0 → c' = 0 →
      ({ t with priorityRunsLast := c } : SchedulerRunslice Fn Args).plain =
        ({ t' with priorityRunsLast := c' } : SchedulerRunslice Fn Args).plain := by
    intro t t' c c' h hc hc'
    rw [hc, hc']
    exact congrArg (fun x : SchedulerRunslice Fn Args => { x with priorityRunsLast := 0 }) h
  have hnext : ∀ {t : SchedulerRunslice Fn Args}, t.priorityRunsLast = 0 →
      nextPriorityRunsLast t.mode t.priorityRunsLast = 0 := by
    intro t ht
    rw [ht, nextPriorityRunsLast_zero]
  unfold run
  by_cases hlookup : s.isPriorityLookup = ∅
  · simp only [isPriorityLookup_plain, hlookup, ne_eq, not_true_eq_false, if_false]
    exact (s.report_agree .noTasksAvailable).bind fun t t' h => .ok ⟨rfl, h⟩
  · simp only [isPriorityLookup_plain, hlookup, ne_eq, not_false_eq_true, if_true, hmode,
      takesPriority_plain]
    by_cases honly : s.mode = .priorityOnlyRoundRobin
    · have hempty : s.plain.priorityQueue.isEmpty = s.priorityQueue.isEmpty := List.isEmpty_map
      simp only [honly, not_true_eq_false, if_false, hempty]
      cases s.priorityQueue.isEmpty with
      | true =>
        exact (s.report_agree .noPriorityTasksAvailable).bind fun t t' h =>
          .ok ⟨rfl, hcounter h rfl rfl⟩
      | false =>
        exact (s.runOperationInline_agree s.priorityQueue).bind fun r r' h =>
          .ok ⟨congrArg some h.1, hcounter h.2.1 rfl rfl⟩
    · simp only [honly, not_false_eq_true, if_true, queue_plain]
      refine (s.runOperationInline_agree (s.queue s.takesPriority)).bind fun r r' h => ?_
      obtain ⟨hinvocation, hplain, hcount⟩ := h
      have hcount' : r'.2.2.plain.priorityRunsLast = r.2.2.plain.priorityRunsLast := by
        rw [hplain]
      exact .ok ⟨congrArg some hinvocation, hcounter hplain (hnext (hcount.trans hzero))
        (hnext (hcount'.trans (hcount.trans hzero)))⟩

/-- What is seen of a call: what it gives back, and the plain form of what it leaves. -/
def seenOf (r : Output Fn Args × SchedulerRunslice Fn Args) :
    Observation Fn Args × SchedulerRunslice Fn Args :=
  (r.1.observation, r.2.plain)

/-- A call does to a scheduler whose counter is zero what it does to its plain form. -/
theorem step_plain {s : SchedulerRunslice Fn Args} (hzero : s.priorityRunsLast = 0)
    (op : Op Fn Args) : (s.step op).map seenOf = (s.plain.step op.merged).map seenOf := by
  apply Except.agree_iff_map_eq_map.mp
  -- the boolean calls are wrapped alike
  have hresult : ∀ {x y : Except Fault (Bool × SchedulerRunslice Fn Args)},
      Except.Agree SameResult x y →
      Except.Agree (fun r r' => seenOf r = seenOf r')
        (x.map fun r => ((.result r.1, r.2) : Output Fn Args × SchedulerRunslice Fn Args))
        (y.map fun r => (.result r.1, r.2)) :=
    fun h => h.map fun r r' hr => Prod.ext (congrArg Observation.result hr.1) hr.2
  cases op with
  | enqueueRegistration i f p k => exact hresult (s.enqueue_agree i _ p k)
  | enqueueRegistrationParameters i f a p k => exact hresult (s.enqueue_agree i _ p k)
  | updateRegistrationPriority i p => exact hresult (s.updateRegistrationPriority_agree i p)
  | updateRegistration i f =>
    exact hresult (s.assign_agree i
      (fun e => .ok (e.callback.setBoundOrFreeFunction (.ofPointer f))) fun _ => rfl)
  | updateRegistrationParameters i f a => exact hresult (s.updateShared_agree i f a)
  | updateRegistrationParametersOnly i a => exact hresult (s.updateShared_agree i none a)
  | removeRegistration i => exact hresult (s.removeRegistration_agree i)
  | setAlgorithmMode mode =>
    have hmode : ({ s.plain with mode := mode.merged } : SchedulerRunslice Fn Args).plain =
        ({ s with mode := mode } : SchedulerRunslice Fn Args).plain := by
      simp only [plain, map_unnumbered_map, RunsliceMode.merged_merged]
    exact .ok (Prod.ext rfl hmode.symm)
  | run =>
    exact (run_agree hzero).map fun r r' h => Prod.ext (congrArg Observation.invoked h.1) h.2
  | clean => exact .ok (Prod.ext rfl rfl)

/-- A zero counter stays zero. -/
theorem priorityRunsLast_step {s s' : SchedulerRunslice Fn Args} {op : Op Fn Args}
    {o : Output Fn Args} (hzero : s.priorityRunsLast = 0) (hok : s.step op = .ok (o, s')) :
    s'.priorityRunsLast = 0 := by
  obtain ⟨act, heffect⟩ := step_effect hok
  cases heffect.counter with
  | inl hsame => rw [hsame, hzero]
  | inr hrest =>
    cases hrest with
    | inl hreset => exact hreset
    | inr hnext => rw [hnext, hzero, nextPriorityRunsLast_zero]

/-- Two schedulers of one plain form whose counter is zero answer all calls alike. -/
theorem outputs_eq_of_plain {β : Type} {f g : β → Op Fn Args}
    (hcalls : ∀ b, (f b).merged = (g b).merged) {s t : SchedulerRunslice Fn Args}
    (h : s.plain = t.plain) (hzero : s.priorityRunsLast = 0) (bs : List β) :
    (StepRun.outputs step s (bs.map f)).map Output.observation =
      (StepRun.outputs step t (bs.map g)).map Output.observation := by
  apply StepRun.outputs_agree (R := fun s t => s.plain = t.plain ∧ s.priorityRunsLast = 0)
    Output.observation _ ⟨h, hzero⟩
  intro s t b hst
  obtain ⟨hplain, hzero⟩ := hst
  have hzero' : t.priorityRunsLast = 0 := by
    show t.plain.priorityRunsLast = 0
    rw [← hplain]
    exact hzero
  -- both calls do what they do to the common plain form
  have hsame : (s.step (f b)).map seenOf = (t.step (g b)).map seenOf := by
    rw [step_plain hzero, step_plain hzero', hplain, hcalls]
  cases Except.agree_iff_map_eq_map.mpr hsame with
  | inl hok =>
    obtain ⟨r, r', hs, ht, hseen⟩ := hok
    obtain ⟨hobs, hstate⟩ := Prod.mk.inj hseen
    exact .inl ⟨r, r', hs, ht, hobs, hstate, priorityRunsLast_step hzero hs⟩
  | inr herror =>
    obtain ⟨e, hs, ht⟩ := herror
    exact .inr ⟨e, hs, ht⟩

/-! ## Results -/

/-- In every history the two modes that take turns may be exchanged for each other: every call
    gives back the same, and the same call is the last one. -/
theorem merged_modes_agree (ops : List (Op Fn Args)) :
    (StepRun.outputs step (construct : SchedulerRunslice Fn Args) (ops.map Op.merged)).map
        Output.observation =
      (StepRun.outputs step construct ops).map Output.observation := by
  have hcalls : ∀ op : Op Fn Args, op.merged.merged = (id op).merged := by
    intro op
    cases op with
    | setAlgorithmMode mode => exact congrArg Op.setAlgorithmMode mode.merged_merged
    | _ => rfl
  have h := outputs_eq_of_plain hcalls (s := construct) (t := construct) rfl rfl ops
  rw [List.map_id] at h
  exact h

/-- Whatever was done to a scheduler, once it is cleaned it answers every history as a new one
    does.  Of what it was only the status is left. -/
theorem clean_agrees_construct (s : SchedulerRunslice Fn Args) (ops : List (Op Fn Args)) :
    (StepRun.outputs step s.clean ops).map Output.observation =
      (StepRun.outputs step construct ops).map Output.observation := by
  have h := outputs_eq_of_plain (f := id) (g := id) (fun _ => rfl) (s := s.clean)
    (t := construct) rfl rfl ops
  rw [List.map_id] at h
  exact h

/-- The counter after a `run()` that started with zero. -/
theorem runsLastAfter_of_zero {s : SchedulerRunslice Fn Args} (hzero : s.priorityRunsLast = 0) :
    s.runsLastAfter = 0 := by
  unfold runsLastAfter
  cases s.mode with
  | priorityOnlyRoundRobin => rfl
  | roundRobin => rw [hzero, nextPriorityRunsLast_zero]
  | priorityRoundRobin => rw [hzero, nextPriorityRunsLast_zero]

/-- A `run()` without registrations does not return. -/
theorem run_of_empty {s : SchedulerRunslice Fn Args} (hempty : s.isPriorityLookup = ∅) :
    s.run = .error .assertion := by
  unfold run
  rw [if_neg (not_not.mpr hempty), report_noTasksAvailable]
  rfl

/-- The lookup after a run of the same entry is the one after its first run. -/
theorem lookupAfter_idem {s s' : SchedulerRunslice Fn Args} {e : RunsliceEntry Fn Args}
    (h : s'.isPriorityLookup = s.lookupAfter e) : s'.lookupAfter e = s.lookupAfter e := by
  rw [lookupAfter, h, lookupAfter]
  split
  · rfl
  · apply Finmap.ext_lookup
    intro i
    simp only [UMap.lookup_erase_eq_ite]
    split <;> rfl

/-- A `run()` that returns would do the same again, as long as anything is registered. -/
theorem run_again {s s' : SchedulerRunslice Fn Args} {x : Option (Execution Fn Args)}
    (hzero : s.priorityRunsLast = 0) (hrun : s.run = .ok (x, s')) :
    s'.run = if s'.isPriorityLookup = ∅ then .error .assertion else .ok (x, s') := by
  obtain ⟨-, e, v, hlast, hv, rfl, rfl⟩ := run_eq_ok_iff.mp hrun
  rw [runsLastAfter_of_zero hzero]
  split
  · next hempty => exact run_of_empty hempty
  · next hlookup =>
    -- the queues, the mode and the counter are as before, so the same entry is at the back
    have hruns : ({ s with
        isPriorityLookup := s.lookupAfter e
        priorityRunsLast := 0 } : SchedulerRunslice Fn Args).runsPriority = s.runsPriority := by
      simp only [runsPriority, takesPriority, hzero]
    have hafter : ({ s with
        isPriorityLookup := s.lookupAfter e
        priorityRunsLast := 0 } : SchedulerRunslice Fn Args).lookupAfter e = s.lookupAfter e :=
      lookupAfter_idem rfl
    apply run_eq_ok_iff.mpr
    refine ⟨hlookup, e, v, ?_, hv, by rw [hruns], ?_⟩
    · rw [hruns]
      exact hlast
    · rw [hafter, runsLastAfter_of_zero rfl]

/-- The window of a scheduler whose `run()` repeats itself. -/
theorem runWindow_of_run_again {s : SchedulerRunslice Fn Args} {x : Option (Execution Fn Args)}
    (hrun : s.run = .ok (x, s)) (n : Nat) : s.runWindow n = List.replicate n (.ran x) := by
  have hstep : s.step .run = .ok (.ran x, s) := by rw [step, hrun, Except.map]
  induction n with
  | zero => rfl
  | succ n ih =>
    rw [runWindow] at ih ⊢
    simp only [List.replicate_succ, StepRun.outputs, hstep, ih]

/-- `run()` calls in a row execute one and the same entry, and each but the first returns
    exactly when something is registered after the first. -/
theorem runWindow_eq_replicate {s s' : SchedulerRunslice Fn Args} {x : Option (Execution Fn Args)}
    (hs : StepRun.Reachable step construct s) (hrun : s.run = .ok (x, s')) (n : Nat) :
    s.runWindow n =
      List.replicate (if s'.isPriorityLookup = ∅ then min n 1 else n) (.ran x) := by
  have hstep : s.step .run = .ok (.ran x, s') := by rw [step, hrun, Except.map]
  have hagain := run_again (priorityRunsLast_eq_zero hs) hrun
  cases n with
  | zero => split <;> rfl
  | succ n =>
    have hwindow : s.runWindow (n + 1) = .ran x :: s'.runWindow n := by
      simp only [runWindow, List.replicate_succ, StepRun.outputs, hstep]
    rw [hwindow]
    split
    · next hempty =>
      -- the next call fails, so the first one is also the last
      rw [if_pos hempty] at hagain
      have hnil : s'.runWindow n = [] := by
        cases n with
        | zero => rfl
        | succ n =>
          simp only [runWindow, List.replicate_succ, StepRun.outputs, step, hagain, Except.map]
      rw [hnil, Nat.min_eq_right (Nat.succ_le_succ (Nat.zero_le n))]
      rfl
    · next hlookup =>
      rw [if_neg hlookup] at hagain
      rw [runWindow_of_run_again hagain, List.replicate_succ]

/-- With a persistent task in each queue, five calls run the normal one five times. -/
theorem runWindow_eq_replicate_twoTasks :
    (StepRun.final step construct twoTasks).runWindow 5 =
      List.replicate 5 (.ran (some {
        isPriority := false
        entry := {
          identifier := 1
          persist := true
          callback := (HandlerCallback.construct .empty).setBoundOrFreeFunction (.free ())
          registration := 0 }
        invocation := .free () })) :=
  runWindow_eq_replicate (StepRun.Reachable.init.final twoTasks) rfl 5

end SchedulerRunslice

end NetworkedFS
