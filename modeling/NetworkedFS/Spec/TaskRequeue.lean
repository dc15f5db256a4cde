import NetworkedFS.ForStd.StepRun
import NetworkedFS.Spec.TaskLifetime

/-!
# Tasks that are queued again

When `enqueueTask` and `runTask` return at all.  `enqueueTask` constructs a local task,
copies it into the queue, and destroys the original; `runTask` destroys the task that it
pops.  So the destructor runs before any thread of the task has finished: for a permanent
task it asserts an exit flag that is not set yet, and for a reoccuring task it enqueues the
task again, whose original is destroyed in turn.

## Key results

- `enqueueTask_returns_iff`, `runTask_returns_iff`: exactly when the calls return;
- `requeue_iff_exitFlag`: a permanent or reoccuring task is enqueued exactly when its exit
  flag is set, and a reoccuring one is never queued again by `runTask`.
-/

namespace NetworkedFS

namespace ConcurrencyManager

variable {Fn Ref : Type}

/-- The loop of the constructor finds every name that is enlisted: counting one variable up
    takes none away. -/
theorem accessParameters_returns {names : List String} {m : ConcurrencyManager Fn Ref}
    (hnames : ∀ name ∈ names, m.systemParameters.lookup name ≠ none) :
    ∃ r, m.accessParameters names = .ok r := by
  -- induction on the names, over the tables that the rounds before leave
  induction names generalizing m with
  | nil => exact ⟨_, rfl⟩
  | cons name names ih =>
    unfold accessParameters
    cases hlookup : m.systemParameters.lookup name with
    | none => exact absurd hlookup (hnames name List.mem_cons_self)
    | some v =>
      have hrest : ∀ x ∈ names,
          (m.adjustAccess 1 ⟨name, v.address⟩).systemParameters.lookup x ≠ none := by
        intro x hx
        rw [lookup_adjustAccess, Ne, Option.map_eq_none_iff]
        exact hnames x (List.mem_cons_of_mem _ hx)
      obtain ⟨⟨ps, m'⟩, hok⟩ := ih hrest
      simp only [hok]
      exact ⟨_, rfl⟩

end ConcurrencyManager

namespace Concurrency

variable {Fn Ref : Type}

/-! ## When a call returns -/

/-- A task is constructed exactly when its variables are enlisted and it is not a permanent
    task of a launch that ran already. -/
theorem constructTask_returns_iff {s : Concurrency Fn Ref} {j p r : Bool} {f : Fn}
    {parameters : List String} :
    (∃ x, s.constructTask j p r f parameters = .ok x) ↔
      (s.manager.primaryLaunchRan && p) = false ∧
        ∀ name ∈ parameters, s.manager.systemParameters.lookup name ≠ none := by
  constructor
  · rintro ⟨⟨t, s'⟩, hok⟩
    refine ⟨?_, (constructTask_eq_ok hok).2.1⟩
    -- a permanent task after the launch fails the assertion
    by_contra hassert
    rw [Bool.not_eq_false] at hassert
    rw [constructTask, if_pos hassert] at hok
    cases hok
  · rintro ⟨hassert, hnames⟩
    unfold constructTask
    rw [hassert, if_neg Bool.false_ne_true]
    -- the loop over the names returns, wherever the identifier comes from
    cases s.manager.lastIdDeath with
    | nil =>
      obtain ⟨⟨ps, m'⟩, hok⟩ := ConcurrencyManager.accessParameters_returns (m :=
        { s.manager with
          localThreadCount := s.manager.localThreadCount + 1
          lastIdDeath := [] }) hnames
      simp only [hok]
      exact ⟨_, rfl⟩
    | cons topId rest =>
      obtain ⟨⟨ps, m'⟩, hok⟩ := ConcurrencyManager.accessParameters_returns (m :=
        { s.manager with
          localThreadCount := s.manager.localThreadCount + 1
          lastIdDeath := rest }) hnames
      simp only [hok]
      exact ⟨_, rfl⟩

/-- A task can be destroyed: a permanent one must not run any more, and a reoccuring one
    must not be queued again. -/
def Destroyable (s : Concurrency Fn Ref) (t : ThreadTask Fn) : Prop :=
  t.isPermanent = true ∨ t.isReoccuring = true → s.manager.exitFlag t.isPermanent = true

instance (s : Concurrency Fn Ref) (t : ThreadTask Fn) : Decidable (s.Destroyable t) :=
  inferInstanceAs (Decidable (_ → _))

/-- The destructor of a task returns exactly when the task is destroyable. -/
theorem destroyTask_returns_iff {fuel : Nat} {s : Concurrency Fn Ref} {t : ThreadTask Fn} :
    (∃ s', s.destroyTask fuel t = .ok s') ↔ s.Destroyable t := by
  constructor
  · rintro ⟨s', hok⟩ hexit
    by_contra hunset
    rw [Bool.not_eq_true] at hunset
    rcases hexit with hp | hr
    · -- a permanent task fails the assertion
      rw [hp] at hunset
      rw [destroyTask, destroyTaskWith, hp, hunset] at hok
      cases hok
    · -- the task is enqueued again, and its original destroyed again, without an end
      rcases destroyTaskWith_eq_ok hok with ⟨hre, -, s₁, hs₁, hagain⟩ | ⟨hset, -⟩
      · rw [← hs₁] at hunset
        rw [hre] at hagain
        exact enqueueTask_reoccuring_ne_ok fuel hunset hagain
      · rw [hset hr] at hunset
        cases hunset
  · intro hexit
    unfold destroyTask destroyTaskWith
    rw [if_neg, if_neg]
    · exact ⟨_, rfl⟩
    · intro hre
      rw [Bool.and_eq_true, Bool.not_eq_true'] at hre
      rw [hexit (.inr hre.1)] at hre
      cases hre.2
    · intro hp
      rw [Bool.and_eq_true, Bool.not_eq_true'] at hp
      rw [hexit (.inl hp.1)] at hp
      cases hp.2

/-- The task is made of these arguments. -/
def MadeOf (t : ThreadTask Fn) (j p r : Bool) (f : Fn) (parameters : List String) : Prop :=
  t.isJoin = j ∧ t.isPermanent = p ∧ t.isReoccuring = r ∧ t.saveFunction = f ∧
    t.saveParameters = parameters

/-- What a task is constructed from is stored in it. -/
theorem constructTask_fields {s s' : Concurrency Fn Ref} {j p r : Bool} {f : Fn}
    {parameters : List String} {t : ThreadTask Fn}
    (h : s.constructTask j p r f parameters = .ok (t, s')) : MadeOf t j p r f parameters := by
  unfold constructTask at h
  split at h
  · cases h
  · obtain ⟨⟨ps, m'⟩, -, heq⟩ := Except.bind_eq_ok_iff.mp h
    cases heq
    exact ⟨rfl, rfl, rfl, rfl, rfl⟩

/-- `enqueueTask` is the construction of a task followed by the destruction of the original
    of its copy. -/
theorem enqueueTask_eq_destroyTask {fuel : Nat} {s s₁ : Concurrency Fn Ref} {j p r : Bool} {f : Fn}
    {parameters : List String} {t : ThreadTask Fn}
    (h : s.constructTask j p r f parameters = .ok (t, s₁)) :
    s.enqueueTask (fuel + 1) j p r f parameters = (s₁.queueCopy t).destroyTask fuel t := by
  obtain ⟨rfl, rfl, rfl, rfl, rfl⟩ := constructTask_fields h
  have hassert := (constructTask_returns_iff.mp ⟨_, h⟩).1
  rw [enqueueTask, hassert, if_neg Bool.false_ne_true, h]
  have hqueue : (if !t.isPermanent then t :: s₁.manager.taskQueue
      else s₁.manager.taskQueue ++ [t]) = (s₁.queueCopy t).manager.taskQueue := by
    unfold queueCopy
    cases t.isPermanent <;> rfl
  exact congrArg (fun taskQueue =>
    destroyTask fuel { s₁ with manager.taskQueue := taskQueue } t) hqueue

/-- Whether the original may be destroyed depends on the exit flags before the call. -/
theorem destroyable_queueCopy_iff {s s₁ : Concurrency Fn Ref} {j p r : Bool} {f : Fn}
    {parameters : List String} {t : ThreadTask Fn}
    (h : s.constructTask j p r f parameters = .ok (t, s₁)) :
    (s₁.queueCopy t).Destroyable t ↔ (p = true ∨ r = true → s.manager.exitFlag p = true) := by
  obtain ⟨-, -, m, -, -, hm, hs₁⟩ := constructTask_eq_ok h
  obtain ⟨-, rfl, rfl, -⟩ := constructTask_fields h
  have hexit : (s₁.queueCopy t).manager.exitFlag t.isPermanent =
      s.manager.exitFlag t.isPermanent := by
    show s₁.manager.exitFlag t.isPermanent = _
    rw [hs₁, ConcurrencyManager.exitFlag_foldl_adjustAccess, hm]
  rw [Destroyable, hexit]

/-- A call of `enqueueTask` returns exactly when its task can be constructed, and destroyed
    again. -/
theorem enqueueTask_returns_iff {fuel : Nat} {s : Concurrency Fn Ref} {j p r : Bool} {f : Fn}
    {parameters : List String} :
    (∃ s', s.enqueueTask (fuel + 1) j p r f parameters = .ok s') ↔
      ((s.manager.primaryLaunchRan && p) = false ∧
        ∀ name ∈ parameters, s.manager.systemParameters.lookup name ≠ none) ∧
      (p = true ∨ r = true → s.manager.exitFlag p = true) := by
  rw [← constructTask_returns_iff (j := j) (r := r) (f := f)]
  constructor
  · rintro ⟨s', hok⟩
    obtain ⟨t, s₁, hconstruct, -⟩ := enqueueTask_eq_countDown hok
    refine ⟨⟨_, hconstruct⟩, ?_⟩
    rw [enqueueTask_eq_destroyTask hconstruct] at hok
    exact (destroyable_queueCopy_iff hconstruct).mp (destroyTask_returns_iff.mp ⟨s', hok⟩)
  · rintro ⟨⟨⟨t, s₁⟩, hconstruct⟩, hexit⟩
    rw [enqueueTask_eq_destroyTask hconstruct]
    exact destroyTask_returns_iff.mpr ((destroyable_queueCopy_iff hconstruct).mpr hexit)

/-- A call of `enqueueTask` that returns has queued one task, made of its arguments. -/
theorem enqueueTask_queue {fuel : Nat} {s s' : Concurrency Fn Ref} {j p r : Bool} {f : Fn}
    {parameters : List String} (h : s.enqueueTask fuel j p r f parameters = .ok s') :
    ∃ t : ThreadTask Fn, MadeOf t j p r f parameters ∧
      s'.manager.taskQueue =
        if p then s.manager.taskQueue ++ [t] else t :: s.manager.taskQueue := by
  obtain ⟨t, s₁, hconstruct, rfl⟩ := enqueueTask_eq_countDown h
  have hfields := constructTask_fields hconstruct
  refine ⟨t, hfields, ?_⟩
  obtain ⟨-, -, m, -, hqueue, -, hs₁⟩ := constructTask_eq_ok hconstruct
  -- neither the construction nor the destruction of the original moves a queued task
  rw [countDown, ConcurrencyManager.taskQueue_foldl_adjustAccess]
  simp only [queueCopy, hs₁, ConcurrencyManager.taskQueue_foldl_adjustAccess, hqueue, hfields.2.1]

/-! ## Running a task -/

/-- The processors that `runTask` computes to be free. -/
def availableAllocation (platform : Platform Fn) (s : Concurrency Fn Ref) : Int16 :=
  (s.manager.setResources platform s.statics).cpuCount - s.statics.runningScheduledTasks

/-- Everything that `runTask` asks for before it starts `t`. -/
structure Starts (platform : Platform Fn) (ignoreAllocation : Bool) (s : Concurrency Fn Ref)
    (t : ThreadTask Fn) : Prop where
  criticalSection : s.statics.criticalSection = false
  scheduledExit : s.manager.scheduledExitSet = false
  getLast : s.manager.taskQueue.getLast? = some t
  allocation : s.availableAllocation platform > 0 ∨ ignoreAllocation = true

/-- A call of `runTask` that returns has started the task at the back of the queue. -/
theorem runTask_starts {platform : Platform Fn} {fuel : Nat} {s : Concurrency Fn Ref}
    {ignoreAllocation : Bool} {x : Option (ThreadTask Fn) × Concurrency Fn Ref}
    (h : s.runTask platform fuel ignoreAllocation = .ok x) :
    ∃ t, x.1 = some t ∧ s.Starts platform ignoreAllocation t := by
  obtain ⟨x, s'⟩ := x
  obtain ⟨t, rfl, hlast, havailable, -⟩ := runTask_eq_countDown h
  have hguard : (!s.statics.criticalSection && !s.manager.scheduledExitSet) = true := by
    by_contra hguard
    simp only [runTask, testAndSet, hguard] at h
    cases h
  rw [Bool.and_eq_true, Bool.not_eq_true', Bool.not_eq_true'] at hguard
  exact ⟨t, rfl, hguard.1, hguard.2, hlast, havailable⟩

/-- A call that starts a task ends with the destruction of what it popped. -/
theorem runTask_eq_destroyTask {platform : Platform Fn} {fuel : Nat} {s : Concurrency Fn Ref}
    {ignoreAllocation : Bool} {t : ThreadTask Fn} (h : s.Starts platform ignoreAllocation t) :
    s.runTask platform fuel ignoreAllocation =
      ((s.popTask platform t).destroyTask fuel t).map fun s =>
        (some t, s.clearCriticalSection) := by
  -- the allocation does not depend on the flag that is set by now
  have havailable : ((s.manager.setResources platform
      { s.statics with criticalSection := true }).cpuCount -
      s.statics.runningScheduledTasks > 0 || ignoreAllocation) = true := by
    rw [Bool.or_eq_true, decide_eq_true_eq]
    exact h.allocation
  simp only [runTask, testAndSet, h.criticalSection, h.scheduledExit, guardedSection, h.getLast]
  rw [Bool.not_false, Bool.true_and, if_pos rfl, if_pos havailable]
  show (((s.popTask platform t).destroyTask fuel t >>= fun s => pure (some t, s)) >>=
    fun r => r.2.clearCriticalSection.finishRun r.1) = _
  cases (s.popTask platform t).destroyTask fuel t <;> rfl

/-- A call of `runTask` returns exactly when it starts a task that can be destroyed at once. -/
theorem runTask_returns_iff {platform : Platform Fn} {fuel : Nat} {s : Concurrency Fn Ref}
    {ignoreAllocation : Bool} :
    (∃ x, s.runTask platform fuel ignoreAllocation = .ok x) ↔
      ∃ t, s.Starts platform ignoreAllocation t ∧ s.Destroyable t := by
  have hpop : ∀ t, s.Starts platform ignoreAllocation t →
      ((∃ x, s.runTask platform fuel ignoreAllocation = .ok x) ↔ s.Destroyable t) := by
    intro t hstarts
    rw [runTask_eq_destroyTask hstarts]
    have hdestroy : (∃ s', (s.popTask platform t).destroyTask fuel t = .ok s') ↔
        s.Destroyable t := destroyTask_returns_iff
    rw [← hdestroy]
    cases (s.popTask platform t).destroyTask fuel t <;> simp [Except.map]
  constructor
  · rintro ⟨x, hok⟩
    obtain ⟨t, -, hstarts⟩ := runTask_starts hok
    exact ⟨t, hstarts, (hpop t hstarts).mp ⟨x, hok⟩⟩
  · rintro ⟨t, hstarts, hdestroyable⟩
    exact (hpop t hstarts).mpr hdestroyable

/-! ## Queueing a task again -/

/-- What `enqueueTask` should do: return, with the new task at its end of the queue and the
    other tasks in place. -/
def EnqueuesOnce (s : Concurrency Fn Ref) (j p r : Bool) (f : Fn) (parameters : List String) :
    Prop :=
  ∃ fuel s', s.enqueueTask fuel j p r f parameters = .ok s' ∧
    ∃ t, MadeOf t j p r f parameters ∧
      s'.manager.taskQueue = if p then s.manager.taskQueue ++ [t] else t :: s.manager.taskQueue

/-- What a `runTask` that starts the reoccuring task `t` should do: return, with one fresh
    task in its place. -/
def RequeuesOnce (platform : Platform Fn) (ignoreAllocation : Bool) (s : Concurrency Fn Ref)
    (t : ThreadTask Fn) : Prop :=
  ∃ fuel s', s.runTask platform fuel ignoreAllocation = .ok (some t, s') ∧
    ∃ t', MadeOf t' t.isJoin t.isPermanent t.isReoccuring t.saveFunction t.saveParameters ∧
      s'.manager.taskQueue =
        if t.isPermanent then s.manager.taskQueue.dropLast ++ [t']
        else t' :: s.manager.taskQueue.dropLast

/-- `enqueueTask` does what it should exactly when it returns. -/
theorem enqueuesOnce_iff {s : Concurrency Fn Ref} {j p r : Bool} {f : Fn}
    {parameters : List String} :
    s.EnqueuesOnce j p r f parameters ↔
      ((s.manager.primaryLaunchRan && p) = false ∧
        ∀ name ∈ parameters, s.manager.systemParameters.lookup name ≠ none) ∧
      (p = true ∨ r = true → s.manager.exitFlag p = true) := by
  constructor
  · rintro ⟨fuel, s', hok, -⟩
    cases fuel with
    | zero => cases hok
    | succ fuel => exact enqueueTask_returns_iff.mp ⟨s', hok⟩
  · intro hreturns
    -- one round is enough: the original is only destroyed
    obtain ⟨s', hok⟩ := enqueueTask_returns_iff (j := j) (f := f) |>.mpr hreturns
    exact ⟨1, s', hok, enqueueTask_queue hok⟩

/-- A `runTask` that starts a reoccuring task does not return before its exit flag is set. -/
theorem not_requeuesOnce {platform : Platform Fn} {ignoreAllocation : Bool}
    {s : Concurrency Fn Ref} {t : ThreadTask Fn} (hr : t.isReoccuring = true)
    (hexit : s.manager.exitFlag t.isPermanent = false) :
    ¬ s.RequeuesOnce platform ignoreAllocation t := by
  rintro ⟨fuel, s', hok, -⟩
  obtain ⟨u, hstarts, hdestroyable⟩ := runTask_returns_iff.mp ⟨_, hok⟩
  obtain ⟨v, heq, hstarted⟩ := runTask_starts hok
  obtain rfl : t = v := Option.some.inj heq
  obtain rfl : u = t := Option.some.inj (hstarts.getLast.symm.trans hstarted.getLast)
  rw [hdestroyable (.inr hr)] at hexit
  cases hexit

/-- Before the launch ran, `enqueueTask` queues a task once exactly when it is neither
    permanent nor reoccuring, or its exit flag is set already; and a `runTask` that starts a
    reoccuring task while its exit flag is unset never queues it again. -/
theorem requeue_iff_exitFlag (Fn Ref : Type) :
    (∀ (s : Concurrency Fn Ref) (j p r : Bool) (f : Fn) (parameters : List String),
      s.manager.primaryLaunchRan = false →
      (∀ name ∈ parameters, s.manager.systemParameters.lookup name ≠ none) →
      (s.EnqueuesOnce j p r f parameters ↔
        (p = true ∨ r = true → s.manager.exitFlag p = true))) ∧
    ∀ (platform : Platform Fn) (ignoreAllocation : Bool) (s : Concurrency Fn Ref)
      (t : ThreadTask Fn), s.Starts platform ignoreAllocation t → t.isReoccuring = true →
      s.manager.exitFlag t.isPermanent = false →
      ¬ s.RequeuesOnce platform ignoreAllocation t := by
  constructor
  · intro s j p r f parameters hran hnames
    rw [enqueuesOnce_iff, hran, Bool.false_and, and_iff_right ⟨rfl, hnames⟩]
  · intro platform ignoreAllocation s t _ hr hexit
    exact not_requeuesOnce hr hexit

/-- A manager whose scheduled tasks were ended, given a reoccuring task, and allowed again. -/
def withReoccuring : Concurrency Unit Unit :=
  StepRun.final (step .quadCore 1) (construct .quadCore {})
    [.setAllTasks, .endTasks, .enqueueTask false false true () [], .setTasks]

/-- A fresh manager queues a plain task but no permanent one, and the reoccuring task is
    not queued again. -/
theorem requeue_iff_exitFlag_fresh :
    ((construct .quadCore {} : Concurrency Unit Unit).EnqueuesOnce false false false () [] ∧
      ¬ (construct .quadCore {} : Concurrency Unit Unit).EnqueuesOnce false true false () []) ∧
    ∃ t, t.isReoccuring = true ∧ withReoccuring.Starts .quadCore false t ∧
      ¬ withReoccuring.RequeuesOnce .quadCore false t := by
  obtain ⟨henqueue, hrun⟩ := requeue_iff_exitFlag Unit Unit
  refine ⟨⟨(henqueue _ _ _ _ _ _ rfl (by simp)).mpr (by decide),
    fun h => absurd ((henqueue _ _ _ _ _ _ rfl (by simp)).mp h) (by decide)⟩,
    ⟨false, false, true, 1, [], (), []⟩, rfl, ?_, ?_⟩
  · exact ⟨rfl, rfl, rfl, .inl (by decide)⟩
  · exact hrun _ _ _ _ ⟨rfl, rfl, rfl, .inl (by decide)⟩ rfl rfl

/-- Enqueueing a permanent task fails the assertion of the destructor. -/
theorem permanent_not_enqueued :
    ¬ ((∀ (s : Concurrency Unit Unit) (j p r : Bool) (parameters : List String),
      s.manager.primaryLaunchRan = false →
      (∀ name ∈ parameters, s.manager.systemParameters.lookup name ≠ none) →
      s.EnqueuesOnce j p r () parameters) ∧
    ∀ (platform : Platform Unit) (ignoreAllocation : Bool) (s : Concurrency Unit Unit)
      (t : ThreadTask Unit), s.Starts platform ignoreAllocation t → t.isReoccuring = true →
      s.manager.exitFlag t.isPermanent = false →
      s.RequeuesOnce platform ignoreAllocation t) := by
  rintro ⟨henqueue, -⟩
  have h := henqueue (construct .quadCore {}) false true false [] rfl (by simp)
  exact absurd ((enqueuesOnce_iff.mp h).2 (.inl rfl)) (by decide)

end Concurrency

end NetworkedFS
