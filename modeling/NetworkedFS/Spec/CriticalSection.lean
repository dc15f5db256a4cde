import NetworkedFS.ForStd.StepRun
import NetworkedFS.ForStd.TestAndSet
import NetworkedFS.Spec.TaskLifetime

/-!
# The critical section of the concurrency managers

All managers share one flag.  `runTask` acquires it in the first operand of a condition
whose second operand is the exit flag, and clears it in the branch where both hold: a
call that acquires the flag and then finds the exit flag set leaves it set for ever.

Calls of `runTask` are taken apart into phases here, so that any number of callers can
be interleaved with each other and with the setting of exit flags.

## Key results

- `runTask_eq_advance`: the phases of an undisturbed call make up `runTask`;
- `step_act`: what a step does to the flag, as a test-and-set lock;
- `flagExact_iff`: the interleavings in which the flag is right throughout.
-/

namespace NetworkedFS

/-- Where a call of `runTask` stands: it has acquired the flag, is inside the guarded
    section, is about to clear the flag, or is about to report and return. -/
inductive RunPhase (Fn : Type) where
  | outside
  | acquired (ignoreAllocation : Bool)
  | inside (ignoreAllocation : Bool)
  | leaving (started : Option (ThreadTask Fn))
  | finishing (started : Option (ThreadTask Fn))

namespace RunPhase

variable {Fn Ref : Type}

/-- The call has acquired the flag and not cleared it. -/
def holds : RunPhase Fn → Bool
  | .acquired _ | .inside _ | .leaving _ => true
  | .outside | .finishing _ => false

/-- The first operand of the condition. -/
def enter (s : Concurrency Fn Ref) (ignoreAllocation : Bool) :
    RunPhase Fn × Concurrency Fn Ref :=
  let (wasSet, s) := s.testAndSet
  (if wasSet then .finishing none else .acquired ignoreAllocation, s)

/-- The next phase of a call. -/
def advance (platform : Platform Fn) (fuel : Nat) (s : Concurrency Fn Ref) :
    RunPhase Fn → Except Fault (RunPhase Fn × Concurrency Fn Ref)
  | .outside => .ok (.outside, s)
  | .acquired ignoreAllocation =>
    if !s.manager.scheduledExitSet then .ok (.inside ignoreAllocation, s)
    else .ok (.finishing none, s)
  | .inside ignoreAllocation =>
    (s.guardedSection platform fuel ignoreAllocation).map fun (t, s) => (.leaving t, s)
  | .leaving started => .ok (.finishing started, s.clearCriticalSection)
  | .finishing started => (s.finishRun started).map fun (_, s) => (.outside, s)

/-- Several phases in a row. -/
def advanceTimes (platform : Platform Fn) (fuel : Nat) :
    (times : Nat) → RunPhase Fn × Concurrency Fn Ref →
      Except Fault (RunPhase Fn × Concurrency Fn Ref)
  | 0, r => .ok r
  | times + 1, r => do
    let r ← r.1.advance platform fuel r.2
    advanceTimes platform fuel times r

private theorem advanceTimes_outside (platform : Platform Fn) (fuel n : Nat)
    (s : Concurrency Fn Ref) :
    advanceTimes platform fuel n (.outside, s) = .ok (.outside, s) := by
  induction n with
  | zero => rfl
  | succ n ih => exact ih

private theorem advanceTimes_finishing (platform : Platform Fn) (fuel n : Nat)
    (s : Concurrency Fn Ref) (started : Option (ThreadTask Fn)) :
    advanceTimes platform fuel (n + 1) (.finishing started, s) =
      (s.finishRun started).map fun (_, s) => (.outside, s) := by
  unfold advanceTimes
  simp only [advance]
  cases s.finishRun started with
  | error e => rfl
  | ok r => exact advanceTimes_outside platform fuel n r.2

/-- A call that nobody disturbs is over after four phases, and does what `runTask`
    does. -/
theorem runTask_eq_advance (platform : Platform Fn) (fuel : Nat) (s : Concurrency Fn Ref)
    (ignoreAllocation : Bool) :
    advanceTimes platform fuel 4 (enter s ignoreAllocation) =
      (s.runTask platform fuel ignoreAllocation).map fun (_, s) => (.outside, s) := by
  have hfinish : ∀ n (s : Concurrency Fn Ref) started,
      advanceTimes platform fuel (n + 1) (.finishing started, s) = _ :=
    advanceTimes_finishing platform fuel
  unfold Concurrency.runTask enter
  -- what the flag was decides between reporting and going on
  generalize s.testAndSet = r
  obtain ⟨wasSet, s⟩ := r
  cases wasSet with
  | true => exact hfinish 3 s none
  | false =>
    cases hexit : s.manager.scheduledExitSet with
    | true =>
      -- the exit flag is set: the guarded section and the clearing are skipped
      calc advanceTimes platform fuel 4 (.acquired ignoreAllocation, s)
          = advanceTimes platform fuel 3 (.finishing none, s) := by
            rw [advanceTimes]
            simp only [advance, hexit]
            rfl
        _ = _ := by
            rw [hfinish 2 s none]
            simp only [hexit]
            rfl
    | false =>
      calc advanceTimes platform fuel 4 (.acquired ignoreAllocation, s)
          = advanceTimes platform fuel 3 (.inside ignoreAllocation, s) := by
            rw [advanceTimes]
            simp only [advance, hexit]
            rfl
        _ = _ := by
            rw [advanceTimes]
            simp only [advance, hexit, bind, Except.bind]
            cases s.guardedSection platform fuel ignoreAllocation with
            | error e => rfl
            | ok r => exact hfinish 0 r.2.clearCriticalSection r.1

end RunPhase

/-- The static members, the managers, and for each caller the manager and the phase of
    its call. -/
structure ConcurrencyWorld (ι μ Fn Ref : Type) where
  statics : ConcurrencyStatics
  manager : μ → ConcurrencyManager Fn Ref
  target : ι → μ
  phase : ι → RunPhase Fn

namespace ConcurrencyWorld

variable {ι μ Fn Ref : Type}

/-- What can happen next: a caller calls `runTask`, a call goes on, or somebody sets the
    exit flags of a manager. -/
inductive Event (ι μ : Type) where
  | call (i : ι) (m : μ) (ignoreAllocation : Bool)
  | advance (i : ι)
  | setTasks (m : μ)
  | endTasks (m : μ)
  | endAllTasks (m : μ)

/-- The caller whose step an event is. -/
def Event.caller : Event ι μ → Option ι
  | .call i _ _ | .advance i => some i
  | _ => none

/-- One manager with the static members. -/
def view (w : ConcurrencyWorld ι μ Fn Ref) (m : μ) : Concurrency Fn Ref :=
  { statics := w.statics, manager := w.manager m }

variable [DecidableEq ι] [DecidableEq μ]

/-- Writes a manager and the static members back. -/
def update (w : ConcurrencyWorld ι μ Fn Ref) (m : μ) (s : Concurrency Fn Ref) :
    ConcurrencyWorld ι μ Fn Ref :=
  { w with statics := s.statics, manager := Function.update w.manager m s.manager }

/-- Sets flags of one manager. -/
def onManager (w : ConcurrencyWorld ι μ Fn Ref) (m : μ)
    (f : ConcurrencyManager Fn Ref → Except Fault (ConcurrencyManager Fn Ref)) :
    Except Fault (Unit × ConcurrencyWorld ι μ Fn Ref) :=
  (f (w.manager m)).map fun x => ((), { w with manager := Function.update w.manager m x })

/-- One step of the interleaving.  A caller that is in a call cannot start another. -/
def step (platform : Platform Fn) (fuel : Nat) (w : ConcurrencyWorld ι μ Fn Ref) :
    Event ι μ → Except Fault (Unit × ConcurrencyWorld ι μ Fn Ref)
  | .call i m ignoreAllocation =>
    match w.phase i with
    | .outside =>
      let (phase, s) := RunPhase.enter (w.view m) ignoreAllocation
      .ok ((), { w.update m s with
        target := Function.update w.target i m
        phase := Function.update w.phase i phase })
    | _ => .ok ((), w)
  | .advance i =>
    ((w.phase i).advance platform fuel (w.view (w.target i))).map fun (phase, s) =>
      ((), { w.update (w.target i) s with phase := Function.update w.phase i phase })
  | .setTasks m => w.onManager m ConcurrencyManager.setTasks
  | .endTasks m => w.onManager m ConcurrencyManager.endTasks
  | .endAllTasks m => w.onManager m ConcurrencyManager.endAllTasks

/-- No call is under way, and the flag is clear. -/
def initial (statics : ConcurrencyStatics) (manager : μ → ConcurrencyManager Fn Ref)
    (target : ι → μ) : ConcurrencyWorld ι μ Fn Ref where
  statics := { statics with criticalSection := false }
  manager := manager
  target := target
  phase := fun _ => .outside

omit [DecidableEq ι] [DecidableEq μ] in
/-- The flag is set exactly while a call is between acquiring and clearing it, and there
    is one such call at most. -/
structure FlagExact (w : ConcurrencyWorld ι μ Fn Ref) : Prop where
  flag_iff : w.statics.criticalSection = true ↔ ∃ i, (w.phase i).holds = true
  unique : ∀ i j, (w.phase i).holds = true → (w.phase j).holds = true → i = j

/-- A call that stops holding the flag clears it, and one that does not hold it does not
    clear it. -/
def ClearsOwn (platform : Platform Fn) (fuel : Nat) (w : ConcurrencyWorld ι μ Fn Ref)
    (e : Event ι μ) : Prop :=
  ∀ o w', w.step platform fuel e = .ok (o, w') →
    (∀ i, (w.phase i).holds = true → (w'.phase i).holds = false →
      w'.statics.criticalSection = false) ∧
    ∀ i, e.caller = some i → (w.phase i).holds = false → w.statics.criticalSection = true →
      w'.statics.criticalSection = true

/-- A call that has acquired the flag is about to find the exit flag of its manager
    set. -/
def FindsExit (w : ConcurrencyWorld ι μ Fn Ref) (e : Event ι μ) : Prop :=
  ∃ i ignoreAllocation, e = .advance i ∧ w.phase i = .acquired ignoreAllocation ∧
    (w.manager (w.target i)).scheduledExitSet = true

/-! ## The flag as a lock -/

/-- The flag and its holders. -/
def lock (w : ConcurrencyWorld ι μ Fn Ref) : TestAndSet ι :=
  ⟨w.statics.criticalSection, fun i => (w.phase i).holds⟩

omit [DecidableEq ι] [DecidableEq μ] in
theorem flagExact_iff_exact (w : ConcurrencyWorld ι μ Fn Ref) : w.FlagExact ↔ w.lock.Exact :=
  ⟨fun h => ⟨h.flag_iff, h.unique⟩, fun h => ⟨h.flag_iff, h.unique⟩⟩

omit [DecidableEq μ] in
/-- A new phase of one caller changes who holds the flag at that caller only. -/
private theorem holds_update (w : ConcurrencyWorld ι μ Fn Ref) (i : ι) (phase : RunPhase Fn) :
    (fun j => (Function.update w.phase i phase j).holds) =
      Function.update (fun j => (w.phase j).holds) i phase.holds := by
  funext j
  simp only [Function.update_apply]
  split <;> rfl

omit [DecidableEq μ] in
/-- A new phase that holds the flag as before changes nothing. -/
private theorem holds_update_same (w : ConcurrencyWorld ι μ Fn Ref) {i : ι} {phase : RunPhase Fn}
    (h : phase.holds = (w.phase i).holds) :
    (fun j => (Function.update w.phase i phase j).holds) = fun j => (w.phase j).holds := by
  rw [holds_update, h]
  exact Function.update_eq_self i _

/-- What the next phase of a call does to the flag. -/
private theorem advance_cases {platform : Platform Fn} {fuel : Nat} {s s' : Concurrency Fn Ref}
    {phase phase' : RunPhase Fn} (h : phase.advance platform fuel s = .ok (phase', s')) :
    (s'.statics.criticalSection = s.statics.criticalSection ∧ phase'.holds = phase.holds ∧
      ∀ b, phase = .acquired b → s.manager.scheduledExitSet = false) ∨
    (phase.holds = true ∧ phase'.holds = false ∧ s'.statics.criticalSection = false ∧
      ∀ b, phase ≠ .acquired b) ∨
    (phase.holds = true ∧ phase'.holds = false ∧
      s'.statics.criticalSection = s.statics.criticalSection ∧
      s.manager.scheduledExitSet = true ∧ ∃ b, phase = .acquired b) := by
  -- a phase keeps the lock, gives it up by clearing the flag, or leaves the flag set
  cases phase with
  | outside =>
    cases h
    refine Or.inl ⟨rfl, rfl, ?_⟩
    intro b heq
    cases heq
  | acquired b =>
    cases hexit : s.manager.scheduledExitSet with
    -- acquired, and the exit flag lets the call in
    | false =>
      simp only [RunPhase.advance, hexit] at h
      cases h
      exact Or.inl ⟨rfl, rfl, fun _ _ => rfl⟩
    | true =>
      -- acquired, and the call leaves without clearing the flag
      simp only [RunPhase.advance, hexit] at h
      cases h
      exact Or.inr (Or.inr ⟨rfl, rfl, rfl, rfl, b, rfl⟩)
  | inside b =>
    obtain ⟨⟨t, s₁⟩, hguarded, heq⟩ := Except.map_eq_ok_iff.mp h
    cases heq
    -- the guarded section itself does not touch the flag
    refine Or.inl ⟨Concurrency.criticalSection_guardedSection hguarded, rfl, ?_⟩
    intro c hc
    cases hc
  | leaving started =>
    cases h
    -- the flag is cleared
    refine Or.inr (Or.inl ⟨rfl, rfl, rfl, ?_⟩)
    intro b heq
    cases heq
  | finishing started =>
    obtain ⟨⟨t, s₁⟩, hfinish, heq⟩ := Except.map_eq_ok_iff.mp h
    cases heq
    cases started with
    | none => cases hfinish
    | some t =>
      cases hfinish
      refine Or.inl ⟨rfl, rfl, ?_⟩
      intro b heq
      cases heq

omit [DecidableEq ι] in
/-- Setting exit flags leaves the lock alone. -/
private theorem lock_onManager {w w' : ConcurrencyWorld ι μ Fn Ref} {m : μ} {o : Unit}
    {f : ConcurrencyManager Fn Ref → Except Fault (ConcurrencyManager Fn Ref)}
    (h : w.onManager m f = .ok (o, w')) : w'.lock = w.lock := by
  obtain ⟨x, -, heq⟩ := Except.map_eq_ok_iff.mp h
  cases heq
  rfl

/-- What an event does to the lock, and that only the release of a caller is its own. -/
private def ActsOnLock (w w' : ConcurrencyWorld ι μ Fn Ref) (e : Event ι μ) : Prop :=
  ∃ act, w.lock.Step act w'.lock ∧ (act.Abandons ↔ w.FindsExit e) ∧
    ∀ i, act = .release i → e.caller = some i

omit [DecidableEq μ] in
/-- Events that leave the lock alone, which `advance` never has to be. -/
private theorem actsOnLock_of_eq {w w' : ConcurrencyWorld ι μ Fn Ref} {e : Event ι μ}
    (hne : ∀ i, e ≠ .advance i) (hlock : w'.lock = w.lock) : w.ActsOnLock w' e := by
  refine ⟨.quiet, hlock, ?_, ?_⟩
  · simp only [TestAndSet.Act.Abandons, false_iff]
    rintro ⟨i, b, he, -⟩
    exact hne i he
  · intro i heq
    cases heq

/-- A call acquires the flag, or finds it set. -/
private theorem actsOnLock_call {platform : Platform Fn} {fuel : Nat}
    {w w' : ConcurrencyWorld ι μ Fn Ref} {i : ι} {m : μ} {ignoreAllocation : Bool} {o : Unit}
    (h : w.step platform fuel (.call i m ignoreAllocation) = .ok (o, w')) :
    w.ActsOnLock w' (.call i m ignoreAllocation) := by
  simp only [step] at h
  have hexit : ¬ w.FindsExit (.call i m ignoreAllocation) := by
    rintro ⟨j, b, he, -⟩
    cases he
  cases hphase : w.phase i with
  | outside =>
    simp only [hphase] at h
    cases h
    cases hflag : w.statics.criticalSection with
    | false =>
      -- the flag was clear, and this call has it now
      refine ⟨.acquire i, ⟨hflag, ?_⟩, ?_, ?_⟩
      · simp only [lock, update, RunPhase.enter, Concurrency.testAndSet, view, hflag,
          Bool.false_eq_true, if_false, holds_update]
        rfl
      · simp only [TestAndSet.Act.Abandons, hexit]
      · intro j heq
        cases heq
    | true =>
      -- the flag was set, so nothing changes, and this call is on its way to report
      apply actsOnLock_of_eq (fun j heq => by cases heq)
      simp only [lock, update, RunPhase.enter, Concurrency.testAndSet, view, hflag, if_true]
      rw [holds_update_same w (by rw [hphase]; rfl)]
  | _ =>
    -- the caller is still in a call, and starts no other
    simp only [hphase] at h
    cases h
    exact actsOnLock_of_eq (fun j heq => by cases heq) rfl

/-- The next phase of a call keeps the lock, releases it, or abandons the flag. -/
private theorem actsOnLock_advance {platform : Platform Fn} {fuel : Nat}
    {w w' : ConcurrencyWorld ι μ Fn Ref} {i : ι} {o : Unit}
    (h : w.step platform fuel (.advance i) = .ok (o, w')) : w.ActsOnLock w' (.advance i) := by
  obtain ⟨⟨phase, s⟩, hadvance, heq⟩ := Except.map_eq_ok_iff.mp h
  cases heq
  have hfinds : w.FindsExit (.advance i) ↔ (∃ b, w.phase i = .acquired b) ∧
      (w.manager (w.target i)).scheduledExitSet = true := by
    constructor
    · rintro ⟨j, b, he, hb, hexit⟩
      cases he
      exact ⟨⟨b, hb⟩, hexit⟩
    · rintro ⟨⟨b, hb⟩, hexit⟩
      exact ⟨i, b, rfl, hb, hexit⟩
  rw [ActsOnLock, hfinds]
  rcases advance_cases hadvance with ⟨hflag, hholds, hexit⟩ | ⟨hi, hi', hflag, hne⟩ |
    ⟨hi, hi', hflag, hexit, hb⟩
  · refine ⟨.quiet, ?_, ?_, ?_⟩
    · simp only [TestAndSet.Step, lock, update, hflag, holds_update_same w hholds]
      rfl
    · simp only [TestAndSet.Act.Abandons, false_iff]
      rintro ⟨⟨b, hb⟩, hset⟩
      have hunset : (w.manager (w.target i)).scheduledExitSet = false := hexit b hb
      rw [hset] at hunset
      cases hunset
    · intro j heq
      cases heq
  · refine ⟨.release i, ⟨hi, ?_⟩, ?_, ?_⟩
    · simp only [lock, update, hflag, holds_update, hi']
    · simp only [TestAndSet.Act.Abandons, false_iff]
      rintro ⟨⟨b, hb⟩, -⟩
      exact hne b hb
    · intro j heq
      cases heq
      rfl
  -- the second operand failed after the first had set the flag
  · refine ⟨.abandon i, ⟨hi, ?_⟩, ?_, ?_⟩
    · simp only [lock, update, hflag, holds_update, hi']
      rfl
    · simp only [TestAndSet.Act.Abandons, true_iff]
      exact ⟨hb, hexit⟩
    · intro j heq
      cases heq

/-- What a step that returns does to the lock: the flag is abandoned exactly when a call
    that has acquired it finds the exit flag set, and only its own call releases it. -/
theorem step_act {platform : Platform Fn} {fuel : Nat} {w w' : ConcurrencyWorld ι μ Fn Ref}
    {e : Event ι μ} {o : Unit} (h : w.step platform fuel e = .ok (o, w')) :
    ∃ act, w.lock.Step act w'.lock ∧ (act.Abandons ↔ w.FindsExit e) ∧
      ∀ i, act = .release i → e.caller = some i := by
  cases e with
  | call i m ignoreAllocation => exact actsOnLock_call h
  | advance i => exact actsOnLock_advance h
  | setTasks m => exact actsOnLock_of_eq (fun j heq => by cases heq) (lock_onManager h)
  | endTasks m => exact actsOnLock_of_eq (fun j heq => by cases heq) (lock_onManager h)
  | endAllTasks m => exact actsOnLock_of_eq (fun j heq => by cases heq) (lock_onManager h)

/-! ## Interleavings -/

/-- A call that has acquired the flag and finds the exit flag set goes on to report. -/
private theorem step_of_findsExit (platform : Platform Fn) (fuel : Nat)
    {w : ConcurrencyWorld ι μ Fn Ref} {e : Event ι μ} (h : w.FindsExit e) :
    ∃ o w', w.step platform fuel e = .ok (o, w') := by
  obtain ⟨i, b, rfl, hphase, hexit⟩ := h
  have hadvance : (w.phase i).advance platform fuel (w.view (w.target i)) =
      .ok (.finishing none, w.view (w.target i)) := by
    simp only [hphase, RunPhase.advance, view, hexit]
    rfl
  simp only [step, hadvance, Except.map]
  exact ⟨_, _, rfl⟩

/-- When the flag is right, it is right after a step, and the step clears no flag but its
    own, exactly when no call finds the exit flag set. -/
theorem FlagExact.step_iff {platform : Platform Fn} {fuel : Nat}
    {w : ConcurrencyWorld ι μ Fn Ref} (hw : w.FlagExact) (e : Event ι μ) :
    ((∀ o w', w.step platform fuel e = .ok (o, w') → w'.FlagExact) ∧ w.ClearsOwn platform fuel e) ↔
      ¬ w.FindsExit e := by
  have hexact : w.lock.Exact := (flagExact_iff_exact w).mp hw
  constructor
  · rintro ⟨hlaw, -⟩ hfinds
    -- the call goes on to report, and has left the flag set
    obtain ⟨o, w', hok⟩ := step_of_findsExit platform fuel hfinds
    obtain ⟨act, hstep, habandons, -⟩ := step_act hok
    have hexact' := (flagExact_iff_exact w').mp (hlaw o w' hok)
    exact (hexact.step_iff hstep).mp hexact' (habandons.mpr hfinds)
  · intro hfinds
    refine ⟨fun o w' hok => ?_, fun o w' hok => ?_⟩
    · obtain ⟨act, hstep, habandons, -⟩ := step_act hok
      refine (flagExact_iff_exact w').mpr ((hexact.step_iff hstep).mpr ?_)
      rw [habandons]
      exact hfinds
    · obtain ⟨act, hstep, habandons, hown⟩ := step_act hok
      have hact : ¬ act.Abandons := by
        rw [habandons]
        exact hfinds
      refine ⟨fun i hi hi' => hstep.clears hact hi hi', fun i hcaller hi hset => ?_⟩
      cases hclear : w'.statics.criticalSection with
      | true => rfl
      | false =>
        -- only a holder's own call clears a set flag
        obtain ⟨j, hj, hholds⟩ := hstep.cleared_by_holder hset hclear
        have hij := hown j hj
        rw [hcaller, Option.some.injEq] at hij
        have hholds' : (w.phase j).holds = true := hholds
        rw [← hij, hi] at hholds'
        cases hholds'

omit [DecidableEq ι] [DecidableEq μ] in
theorem flagExact_initial (statics : ConcurrencyStatics) (manager : μ → ConcurrencyManager Fn Ref)
    (target : ι → μ) : (initial statics manager target).FlagExact := by
  constructor
  · simp [initial, RunPhase.holds]
  · intro i j hi
    cases hi

/-- In an interleaving of calls of `runTask` with the setting of exit flags, the flag is
    right throughout and every call clears it exactly when it is its own to clear, if and
    only if no call that has acquired the flag finds the exit flag of its manager set. -/
theorem flagExact_iff (platform : Platform Fn) (fuel : Nat) (statics : ConcurrencyStatics)
    (manager : μ → ConcurrencyManager Fn Ref) (target : ι → μ) (events : List (Event ι μ)) :
    ((∀ w ∈ StepRun.visited (step platform fuel) (initial statics manager target) events,
        w.FlagExact) ∧
      ∀ c ∈ StepRun.calls (step platform fuel) (initial statics manager target) events,
        c.1.ClearsOwn platform fuel c.2) ↔
    ∀ c ∈ StepRun.calls (step platform fuel) (initial statics manager target) events,
      ¬ c.1.FindsExit c.2 := by
  have hinitial := flagExact_initial statics manager target
  rw [StepRun.forall_visited_iff, and_iff_right hinitial, ← forall₂_and]
  exact StepRun.forall_calls_iff (fun w e hw => FlagExact.step_iff hw e)
    (fun w e o w' hw hfinds hok => ((hw.step_iff e).mpr hfinds).1 o w' hok) hinitial events

/-- A manager that was launched with an empty queue. -/
def launched : ConcurrencyManager Unit Unit :=
  { (Concurrency.construct .quadCore {}).manager with primaryLaunchRan := true }

/-- A call of `runTask` after `endTasks` leaves the flag set, with nobody inside. -/
theorem endTasks_leaks_flag :
    ¬ ∀ events : List (Event Unit Unit),
      (∀ w ∈ StepRun.visited (step .quadCore 1) (initial {} (fun _ => launched) id) events,
        w.FlagExact) ∧
      ∀ c ∈ StepRun.calls (step .quadCore 1) (initial {} (fun _ => launched) id) events,
        c.1.ClearsOwn .quadCore 1 c.2 := by
  intro hall
  let events : List (Event Unit Unit) := [.endTasks (), .call () () false, .advance ()]
  have hexact := (hall events).1 _ (StepRun.final_mem_visited _ events)
  obtain ⟨i, hi⟩ := hexact.flag_iff.mp (by decide)
  cases i
  exact absurd hi (by decide)

end ConcurrencyWorld

end NetworkedFS
