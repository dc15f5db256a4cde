import NetworkedFS.ForStd.Except
import NetworkedFS.Native.Concurrency

/-!
# The lifetime of tasks

What constructing, copying and destroying tasks does to a concurrency manager.  The
constructor counts a task's variables up through pointers into the table, and the
destructor counts them down again, unless the task is reoccuring and enqueues itself
again: then the call does not return.

## Key results

- `enqueueTask_eq_ok`: a call that returns leaves all counts as they were;
- `enqueueTask_eq_countDown`, `runTask_eq_countDown`: the state after a call, as the
  destruction of a task leaves it;
- `enqueueTask_counters`, `runTask_counters`: the state after a call, member by member.
-/

namespace NetworkedFS

namespace ConcurrencyManager

variable {Fn Ref : Type}

/-- Reporting an error that returns changes the status only. -/
theorem report_eq_ok {m m' : ConcurrencyManager Fn Ref} {e : ConcurrencyError}
    (h : m.report e = .ok m') : ∃ d, m' = { m with status := d } := by
  obtain ⟨d, -, rfl⟩ := Except.map_eq_ok_iff.mp h
  exact ⟨d, rfl⟩

/-! ## Setting flags -/

/-- A call that sets flags returns after the launch, and does nothing else. -/
theorem setTasks_eq_ok {m m' : ConcurrencyManager Fn Ref} (h : m.setTasks = .ok m') :
    m.primaryLaunchRan = true ∧ m' = { m with scheduledExitSet := false } := by
  unfold setTasks at h
  split at h
  case isTrue => cases h
  case isFalse hran =>
    cases h
    exact ⟨by simpa using hran, rfl⟩

theorem endTasks_eq_ok {m m' : ConcurrencyManager Fn Ref} (h : m.endTasks = .ok m') :
    m.primaryLaunchRan = true ∧ m' = { m with scheduledExitSet := true } := by
  unfold endTasks at h
  split at h
  case isTrue => cases h
  case isFalse hran =>
    cases h
    exact ⟨by simpa using hran, rfl⟩

theorem endAllTasks_eq_ok {m m' : ConcurrencyManager Fn Ref} (h : m.endAllTasks = .ok m') :
    m.primaryLaunchRan = true ∧ m' = { m with
      scheduledExitSet := true, permanentExitSet := true, primaryLaunchRan := false } := by
  unfold endAllTasks at h
  split at h
  case isTrue => cases h
  case isFalse hran =>
    cases h
    exact ⟨by simpa using hran, rfl⟩

/-! ## Counting through pointers -/

/-- Going through a pointer changes the count of the entry it points to. -/
theorem lookup_adjustAccess (delta : Int16) (m : ConcurrencyManager Fn Ref) (p : EntryPointer)
    (name : String) :
    (m.adjustAccess delta p).systemParameters.lookup name =
      (m.systemParameters.lookup name).map fun v =>
        if p = ⟨name, v.address⟩ then { v with accessCount := v.accessCount + delta } else v := by
  obtain ⟨x, a⟩ := p
  simp only [adjustAccess, EntryPointer.mk.injEq]
  -- the entry of another name is not touched, nor is one at another address
  by_cases hx : x = name
  · subst hx
    cases hlookup : m.systemParameters.lookup x with
    | none => simp [hlookup]
    | some v =>
      by_cases ha : v.address = a
      · simp [ha]
      · simp [ha, hlookup, Ne.symm ha]
  · have hne : ∀ v, (m.systemParameters.insert x v).lookup name = m.systemParameters.lookup name :=
      fun v => Finmap.lookup_insert_of_ne _ (Ne.symm hx)
    cases m.systemParameters.lookup x with
    | none => simp [hx]
    | some v =>
      by_cases ha : v.address = a
      · simp [ha, hx, hne]
      · simp [ha, hx]

/-- Going through a list of pointers changes each count once for each pointer to it. -/
theorem lookup_foldl_adjustAccess (delta : Int16) (ps : List EntryPointer)
    (m : ConcurrencyManager Fn Ref) (name : String) :
    (ps.foldl (adjustAccess delta) m).systemParameters.lookup name =
      (m.systemParameters.lookup name).map fun v => { v with
        accessCount := (· + delta)^[ps.count ⟨name, v.address⟩] v.accessCount } := by
  induction ps generalizing m with
  | nil => simp
  | cons p ps ih =>
    rw [List.foldl_cons, ih, lookup_adjustAccess, Option.map_map]
    congr 1
    funext v
    by_cases hp : p = ⟨name, v.address⟩
    · simp [hp]
    · simp [hp]

/-- Counting through pointers changes nothing but the table. -/
theorem foldl_adjustAccess_eq (delta : Int16) (ps : List EntryPointer)
    (m : ConcurrencyManager Fn Ref) :
    ∃ table stale, ps.foldl (adjustAccess delta) m =
      { m with systemParameters := table, staleAccesses := stale } := by
  induction ps generalizing m with
  | nil => exact ⟨m.systemParameters, m.staleAccesses, rfl⟩
  | cons p ps ih =>
    have hfirst : ∃ table stale, m.adjustAccess delta p =
        { m with systemParameters := table, staleAccesses := stale } := by
      unfold adjustAccess
      split
      · split <;> exact ⟨_, _, rfl⟩
      · exact ⟨_, _, rfl⟩
    obtain ⟨table, stale, hm⟩ := hfirst
    rw [List.foldl_cons, hm]
    exact ih _

/-- What is counted up and then down again is as before. -/
theorem systemParameters_release (ps : List EntryPointer) (m : ConcurrencyManager Fn Ref)
    {m' : ConcurrencyManager Fn Ref}
    (hm' : m'.systemParameters = (ps.foldl (adjustAccess 1) m).systemParameters) :
    (ps.foldl (adjustAccess (-1)) m').systemParameters = m.systemParameters := by
  -- each pointer is gone through as often up as down, also when the count wraps around
  have hinverse : Function.LeftInverse (fun c : Int16 => c + -1) (fun c : Int16 => c + 1) := by
    intro c
    show c + 1 + -1 = c
    rw [Int16.add_assoc]
    exact Int16.add_zero c
  apply Finmap.ext_lookup
  intro name
  rw [lookup_foldl_adjustAccess, hm', lookup_foldl_adjustAccess, Option.map_map]
  cases m.systemParameters.lookup name with
  | none => rfl
  | some v =>
    simp only [Option.map_some, Function.comp_apply]
    rw [hinverse.iterate]

/-- Counting leaves the queue of tasks alone. -/
theorem taskQueue_foldl_adjustAccess (delta : Int16) (ps : List EntryPointer)
    (m : ConcurrencyManager Fn Ref) :
    (ps.foldl (adjustAccess delta) m).taskQueue = m.taskQueue := by
  obtain ⟨table, stale, hm⟩ := foldl_adjustAccess_eq delta ps m
  rw [hm]

/-- Counting leaves the exit flag alone. -/
theorem exitFlag_foldl_adjustAccess (delta : Int16) (ps : List EntryPointer)
    (m : ConcurrencyManager Fn Ref) :
    (ps.foldl (adjustAccess delta) m).exitFlag = m.exitFlag := by
  obtain ⟨table, stale, hm⟩ := foldl_adjustAccess_eq delta ps m
  rw [hm]
  rfl

/-- The loop of the constructor counts its variables up, through the pointers that it
    stores. -/
theorem accessParameters_eq_ok {names : List String} {m m' : ConcurrencyManager Fn Ref}
    {ps : List EntryPointer} (h : m.accessParameters names = .ok (ps, m')) :
    m' = ps.foldl (adjustAccess 1) m ∧ ps.map EntryPointer.name = names ∧
      ∀ name ∈ names, m.systemParameters.lookup name ≠ none := by
  -- induction on the names; every round starts from the counts of the one before
  induction names generalizing m ps m' with
  | nil =>
    cases h
    exact ⟨rfl, rfl, fun _ h => absurd h List.not_mem_nil⟩
  | cons name names ih =>
    unfold accessParameters at h
    cases hlookup : m.systemParameters.lookup name with
    | none =>
      rw [hlookup] at h
      cases h
    | some v =>
      simp only [hlookup] at h
      obtain ⟨⟨qs, m₁⟩, hrest, heq⟩ := Except.bind_eq_ok_iff.mp h
      cases heq
      obtain ⟨hm', hnames, hmem⟩ := ih hrest
      refine ⟨hm', by rw [List.map_cons, hnames], ?_⟩
      intro x hx
      rcases List.mem_cons.mp hx with rfl | hx
      · rw [hlookup]
        exact Option.some_ne_none v
      · have := hmem x hx
        rw [lookup_adjustAccess] at this
        intro hnone
        rw [hnone] at this
        exact this rfl

end ConcurrencyManager

namespace Concurrency

variable {Fn Ref : Type}

/-! ## Construction and destruction of tasks -/

/-- A task that is constructed has counted its variables up. -/
theorem constructTask_eq_ok {s s' : Concurrency Fn Ref} {j p r : Bool} {f : Fn}
    {parameters : List String} {t : ThreadTask Fn}
    (h : s.constructTask j p r f parameters = .ok (t, s')) :
    (t.isPermanent = p ∧ t.isReoccuring = r ∧ t.saveParameters = parameters ∧
      t.taskAccessCount.map EntryPointer.name = parameters) ∧
    (∀ name ∈ parameters, s.manager.systemParameters.lookup name ≠ none) ∧
    ∃ m, m.systemParameters = s.manager.systemParameters ∧ m.taskQueue = s.manager.taskQueue ∧
      m.exitFlag = s.manager.exitFlag ∧
      s'.manager = t.taskAccessCount.foldl (ConcurrencyManager.adjustAccess 1) m := by
  unfold constructTask at h
  by_cases hassert : (s.manager.primaryLaunchRan && p) = true
  · rw [if_pos hassert] at h
    cases h
  rw [if_neg hassert] at h
  obtain ⟨⟨ps, m'⟩, haccess, heq⟩ := Except.bind_eq_ok_iff.mp h
  cases heq
  obtain ⟨hm', hnames, hmem⟩ := ConcurrencyManager.accessParameters_eq_ok haccess
  refine ⟨⟨rfl, rfl, rfl, hnames⟩, hmem, _, ?_, ?_, ?_, hm'⟩ <;> rfl

/-- What the destructor of a task does to the counters. -/
def countDown (s : Concurrency Fn Ref) (t : ThreadTask Fn) : Concurrency Fn Ref where
  statics := { s.statics with runningScheduledTasks := s.statics.runningScheduledTasks - 1 }
  manager := t.taskAccessCount.foldl (ConcurrencyManager.adjustAccess (-1)) s.manager

/-- The destruction of a task enqueues it again when it is reoccuring and its exit flag
    is unset, and else only counts down. -/
theorem destroyTaskWith_eq_ok {enqueue : Concurrency Fn Ref → Except Fault (Concurrency Fn Ref)}
    {s s' : Concurrency Fn Ref} {t : ThreadTask Fn} (h : s.destroyTaskWith enqueue t = .ok s') :
    (t.isReoccuring = true ∧ s.manager.exitFlag t.isPermanent = false ∧
      ∃ s₁, s₁.manager = s.manager ∧ enqueue s₁ = .ok s') ∨
    ((t.isReoccuring = true → s.manager.exitFlag t.isPermanent = true) ∧
      s' = s.countDown t) := by
  unfold destroyTaskWith at h
  split at h
  · cases h
  · simp only at h
    split at h
    · next hre =>
      rw [Bool.and_eq_true, Bool.not_eq_true'] at hre
      refine Or.inl ⟨hre.1, hre.2, _, ?_, h⟩
      rfl
    · next hre =>
      cases h
      refine Or.inr ⟨fun hr => ?_, rfl⟩
      simpa [hr] using hre

/-- Enqueueing a reoccuring task does not return before its exit flag is set: each
    destructor enqueues the task again. -/
theorem enqueueTask_reoccuring_ne_ok (fuel : Nat) {s s' : Concurrency Fn Ref} {j p : Bool} {f : Fn}
    {parameters : List String} (hexit : s.manager.exitFlag p = false) :
    s.enqueueTask fuel j p true f parameters ≠ .ok s' := by
  induction fuel generalizing s with
  | zero =>
    intro h
    cases h
  | succ fuel ih =>
    intro h
    unfold enqueueTask at h
    split at h
    · cases h
    · obtain ⟨⟨t, s₁⟩, hconstruct, hdestroy⟩ := Except.bind_eq_ok_iff.mp h
      obtain ⟨⟨hp, hr, -⟩, -, m, -, -, hm, hs₁⟩ := constructTask_eq_ok hconstruct
      -- the construction leaves the exit flag unset, so the destruction enqueues again
      have hexit₁ : s₁.manager.exitFlag p = false := by
        rw [hs₁, ConcurrencyManager.exitFlag_foldl_adjustAccess, hm, hexit]
      rcases destroyTaskWith_eq_ok hdestroy with ⟨-, -, s₂, hs₂, hagain⟩ | ⟨hset, -⟩
      · refine ih ?_ hagain
        rw [hs₂]
        exact hexit₁
      · have hset₁ : s₁.manager.exitFlag t.isPermanent = true := hset hr
        rw [hp, hexit₁] at hset₁
        cases hset₁

/-- The destruction of a task that returns counts down. -/
theorem destroyTask_eq_ok {fuel : Nat} {s s' : Concurrency Fn Ref} {t : ThreadTask Fn}
    (h : s.destroyTask fuel t = .ok s') : s' = s.countDown t := by
  rcases destroyTaskWith_eq_ok h with ⟨hre, hexit, s₁, hs₁, hagain⟩ | ⟨-, hs'⟩
  · rw [← hs₁] at hexit
    rw [hre] at hagain
    exact absurd hagain (enqueueTask_reoccuring_ne_ok fuel hexit)
  · exact hs'

/-! ## What a call does -/

/-- The manager after a copy of a task was put into its queue. -/
def queueCopy (s : Concurrency Fn Ref) (t : ThreadTask Fn) : Concurrency Fn Ref :=
  { s with manager.taskQueue :=
      if t.isPermanent then s.manager.taskQueue ++ [t] else t :: s.manager.taskQueue }

/-- A call of `enqueueTask` that returns has constructed a task, put a copy of it into the queue
    and counted down for the original. -/
theorem enqueueTask_eq_countDown {fuel : Nat} {s s' : Concurrency Fn Ref} {j p r : Bool} {f : Fn}
    {parameters : List String} (h : s.enqueueTask fuel j p r f parameters = .ok s') :
    ∃ t s₁, s.constructTask j p r f parameters = .ok (t, s₁) ∧
      s' = (s₁.queueCopy t).countDown t := by
  cases fuel with
  | zero => cases h
  | succ fuel =>
    unfold enqueueTask at h
    split at h
    · cases h
    · obtain ⟨⟨t, s₁⟩, hconstruct, hdestroy⟩ := Except.bind_eq_ok_iff.mp h
      obtain ⟨⟨hp, hr, -⟩, -⟩ := constructTask_eq_ok hconstruct
      refine ⟨t, s₁, hconstruct, ?_⟩
      -- a reoccuring original would enqueue itself again, and not return
      rcases destroyTaskWith_eq_ok hdestroy with ⟨hre, hexit, s₂, hs₂, hagain⟩ | ⟨-, rfl⟩
      · rw [← hs₂, hp] at hexit
        rw [hr] at hre
        rw [hre] at hagain
        exact absurd hagain (enqueueTask_reoccuring_ne_ok fuel hexit)
      · unfold queueCopy
        rw [hp]
        cases p <;> rfl

/-- Such a call has left every access count as it was: the copy in the queue is not counted. -/
theorem enqueueTask_eq_ok {fuel : Nat} {s s' : Concurrency Fn Ref} {j p r : Bool} {f : Fn}
    {parameters : List String} (h : s.enqueueTask fuel j p r f parameters = .ok s') :
    s'.manager.systemParameters = s.manager.systemParameters ∧
    (∀ name ∈ parameters, s.manager.systemParameters.lookup name ≠ none) ∧
    ∃ t : ThreadTask Fn, t.saveParameters = parameters ∧
      t.taskAccessCount.map EntryPointer.name = parameters ∧
      s'.manager.taskQueue =
        if p then s.manager.taskQueue ++ [t] else t :: s.manager.taskQueue := by
  obtain ⟨t, s₁, hconstruct, rfl⟩ := enqueueTask_eq_countDown h
  obtain ⟨⟨hp, -, hparameters, hnames⟩, hmem, m, htable, hqueue, -, hs₁⟩ :=
    constructTask_eq_ok hconstruct
  refine ⟨?_, hmem, t, hparameters, hnames, ?_⟩
  · rw [← htable]
    apply ConcurrencyManager.systemParameters_release _ m
    show s₁.manager.systemParameters = _
    rw [hs₁]
  · rw [countDown, ConcurrencyManager.taskQueue_foldl_adjustAccess]
    simp only [queueCopy, hp, hs₁, ConcurrencyManager.taskQueue_foldl_adjustAccess, hqueue]

/-- The guarded section does not touch the flag that guards it. -/
theorem criticalSection_guardedSection {platform : Platform Fn} {fuel : Nat}
    {s s' : Concurrency Fn Ref} {ignoreAllocation : Bool} {x : Option (ThreadTask Fn)}
    (h : s.guardedSection platform fuel ignoreAllocation = .ok (x, s')) :
    s'.statics.criticalSection = s.statics.criticalSection := by
  unfold guardedSection at h
  split at h
  · cases h
    rfl
  · simp only at h
    split at h
    · obtain ⟨s₁, hdestroy, heq⟩ := Except.bind_eq_ok_iff.mp h
      cases heq
      obtain rfl := destroyTask_eq_ok hdestroy
      rfl
    · cases h
      rfl

/-- The state in which `runTask` destroys the task that it popped. -/
def popTask (platform : Platform Fn) (s : Concurrency Fn Ref) (t : ThreadTask Fn) :
    Concurrency Fn Ref where
  statics := { s.statics with
    criticalSection := true
    runningScheduledTasks := s.statics.runningScheduledTasks + 1
    scheduledThreadCount := s.statics.scheduledThreadCount - if t.isPermanent then 0 else 1 }
  manager := { s.manager.setResources platform s.statics with
    localThreadCount := s.manager.localThreadCount - 1
    lastIdDeath := t.taskId :: s.manager.lastIdDeath
    taskQueue := s.manager.taskQueue.dropLast }

/-- A call of `runTask` that returns has started the task at the back of the queue, for which
    there had to be a processor unless this was ignored.  `pop_back` destroyed the queued
    copy, which counted down. -/
theorem runTask_eq_countDown {platform : Platform Fn} {fuel : Nat} {s s' : Concurrency Fn Ref}
    {ignoreAllocation : Bool} {x : Option (ThreadTask Fn)}
    (h : s.runTask platform fuel ignoreAllocation = .ok (x, s')) :
    ∃ t, x = some t ∧ s.manager.taskQueue.getLast? = some t ∧
      ((s.manager.setResources platform s.statics).cpuCount - s.statics.runningScheduledTasks > 0 ∨
        ignoreAllocation = true) ∧
      s' = ((s.popTask platform t).countDown t).clearCriticalSection := by
  -- without a task the report fails its assertion
  have hfinish : ∀ s₁ : Concurrency Fn Ref, s₁.finishRun none ≠ .ok (x, s') := by
    intro s₁ h₁
    cases h₁
  unfold runTask at h
  simp only at h
  split at h
  · obtain ⟨⟨started, s₁⟩, hguarded, hrest⟩ := Except.bind_eq_ok_iff.mp h
    unfold guardedSection at hguarded
    split at hguarded
    · cases hguarded
      exact absurd hrest (hfinish _)
    · next t hlast =>
      simp only at hguarded
      split at hguarded
      · next havailable =>
        obtain ⟨s₂, hdestroy, heq⟩ := Except.bind_eq_ok_iff.mp hguarded
        cases heq
        cases hrest
        obtain rfl := destroyTask_eq_ok hdestroy
        rw [Bool.or_eq_true, decide_eq_true_eq] at havailable
        exact ⟨t, rfl, hlast, havailable, rfl⟩
      -- no processor was free, so no task was started
      · cases hguarded
        exact absurd hrest (hfinish _)
  · exact absurd h (hfinish _)

/-- What this does to the table and to the queue. -/
theorem runTask_eq_ok {platform : Platform Fn} {fuel : Nat} {s s' : Concurrency Fn Ref}
    {ignoreAllocation : Bool} {x : Option (ThreadTask Fn)}
    (h : s.runTask platform fuel ignoreAllocation = .ok (x, s')) :
    ∃ t m, x = some t ∧ s.manager.taskQueue.getLast? = some t ∧
      m.systemParameters = s.manager.systemParameters ∧
      m.taskQueue = s.manager.taskQueue.dropLast ∧
      s'.manager = t.taskAccessCount.foldl (ConcurrencyManager.adjustAccess (-1)) m := by
  obtain ⟨t, hx, hlast, -, rfl⟩ := runTask_eq_countDown h
  exact ⟨t, (s.popTask platform t).manager, hx, hlast, rfl, rfl, rfl⟩

/-! ## The state after a call -/

/-- The manager counts a new task, whose identifier is the one given back last if there is
    one, and else the new count. -/
theorem constructTask_counters {s s' : Concurrency Fn Ref} {j p r : Bool} {f : Fn}
    {parameters : List String} {t : ThreadTask Fn}
    (h : s.constructTask j p r f parameters = .ok (t, s')) :
    t.taskId = s.manager.lastIdDeath.headD (s.manager.localThreadCount + 1) ∧
    ∃ table stale, s' =
      { statics := { s.statics with
          permanentThreadCount := s.statics.permanentThreadCount + if p then 1 else 0
          scheduledThreadCount := s.statics.scheduledThreadCount + if p then 0 else 1 }
        manager := { s.manager with
          localThreadCount := s.manager.localThreadCount + 1
          lastIdDeath := s.manager.lastIdDeath.tail
          systemParameters := table
          staleAccesses := stale } } := by
  unfold constructTask at h
  split at h
  · cases h
  · obtain ⟨⟨ps, m'⟩, haccess, heq⟩ := Except.bind_eq_ok_iff.mp h
    cases heq
    obtain ⟨hm', -, -⟩ := ConcurrencyManager.accessParameters_eq_ok haccess
    -- counting through the pointers changes the table and the ghost only
    obtain ⟨table, stale, hfold⟩ := ConcurrencyManager.foldl_adjustAccess_eq 1 ps
      { s.manager with
        localThreadCount := s.manager.localThreadCount + 1
        lastIdDeath := s.manager.lastIdDeath.tail }
    -- the identifier comes from the stack of those given back, or is the new count
    cases hdeath : s.manager.lastIdDeath with
    | nil =>
      refine ⟨by rw [List.headD_nil], table, stale, ?_⟩
      simp only [hdeath, List.tail_nil] at hm' hfold
      rw [hm', hfold]
      rfl
    | cons topId rest =>
      refine ⟨by rw [List.headD_cons], table, stale, ?_⟩
      simp only [hdeath, List.tail_cons] at hm' hfold
      rw [hm', hfold]
      rfl

/-- The state after a call of `enqueueTask` that returns.  The number of running tasks is
    counted down by the destructor of the original. -/
theorem enqueueTask_counters {fuel : Nat} {s s' : Concurrency Fn Ref} {j p r : Bool} {f : Fn}
    {parameters : List String} (h : s.enqueueTask fuel j p r f parameters = .ok s') :
    ∃ t : ThreadTask Fn, t.isPermanent = p ∧
      t.taskId = s.manager.lastIdDeath.headD (s.manager.localThreadCount + 1) ∧
      ∃ table stale, s' =
        { statics := { s.statics with
            permanentThreadCount := s.statics.permanentThreadCount + if p then 1 else 0
            scheduledThreadCount := s.statics.scheduledThreadCount + if p then 0 else 1
            runningScheduledTasks := s.statics.runningScheduledTasks - 1 }
          manager := { s.manager with
            localThreadCount := s.manager.localThreadCount + 1
            lastIdDeath := s.manager.lastIdDeath.tail
            taskQueue := if p then s.manager.taskQueue ++ [t] else t :: s.manager.taskQueue
            systemParameters := table
            staleAccesses := stale } } := by
  obtain ⟨t, s₁, hconstruct, rfl⟩ := enqueueTask_eq_countDown h
  obtain ⟨⟨rfl, -⟩, -⟩ := constructTask_eq_ok hconstruct
  obtain ⟨hid, table, stale, rfl⟩ := constructTask_counters hconstruct
  -- the destructor of the original counts down through the same pointers
  obtain ⟨table', stale', hfold⟩ :=
    ConcurrencyManager.foldl_adjustAccess_eq (-1) t.taskAccessCount
      { s.manager with
        localThreadCount := s.manager.localThreadCount + 1
        lastIdDeath := s.manager.lastIdDeath.tail
        taskQueue :=
          if t.isPermanent then s.manager.taskQueue ++ [t] else t :: s.manager.taskQueue
        systemParameters := table
        staleAccesses := stale }
  refine ⟨t, rfl, hid, table', stale', ?_⟩
  rw [← hfold]
  rfl

/-- The state after a call of `runTask` that returns: the task at the back of the queue was
    started, for which there had to be a processor unless this was ignored. -/
theorem runTask_counters {platform : Platform Fn} {fuel : Nat} {s s' : Concurrency Fn Ref}
    {ignoreAllocation : Bool} {x : Option (ThreadTask Fn)}
    (h : s.runTask platform fuel ignoreAllocation = .ok (x, s')) :
    ∃ t, x = some t ∧ s.manager.taskQueue.getLast? = some t ∧
      ((s.manager.setResources platform s.statics).cpuCount - s.statics.runningScheduledTasks > 0 ∨
        ignoreAllocation = true) ∧
      ∃ table stale, s' =
        { statics := { s.statics with
            criticalSection := false
            runningScheduledTasks := s.statics.runningScheduledTasks + 1 - 1
            scheduledThreadCount :=
              s.statics.scheduledThreadCount - if t.isPermanent then 0 else 1 }
          manager := { s.manager.setResources platform s.statics with
            localThreadCount := s.manager.localThreadCount - 1
            lastIdDeath := t.taskId :: s.manager.lastIdDeath
            taskQueue := s.manager.taskQueue.dropLast
            systemParameters := table
            staleAccesses := stale } } := by
  obtain ⟨t, hx, hlast, havailable, rfl⟩ := runTask_eq_countDown h
  -- the destructor of the popped task counts down through its pointers
  obtain ⟨table, stale, hfold⟩ :=
    ConcurrencyManager.foldl_adjustAccess_eq (-1) t.taskAccessCount (s.popTask platform t).manager
  refine ⟨t, hx, hlast, havailable, table, stale, ?_⟩
  unfold countDown
  rw [hfold]
  rfl

/-! ## Operations on the manager, and loops -/

/-- A call of the manager leaves the statics alone. -/
theorem onManager_eq_ok {α : Type} {s s' : Concurrency Fn Ref} {a : α}
    {f : ConcurrencyManager Fn Ref → Except Fault (α × ConcurrencyManager Fn Ref)}
    (h : s.onManager f = .ok (a, s')) :
    f s.manager = .ok (a, s'.manager) ∧ s'.statics = s.statics := by
  obtain ⟨⟨b, m⟩, hf, heq⟩ := Except.map_eq_ok_iff.mp h
  cases heq
  exact ⟨hf, rfl⟩

/-- What a loop body keeps, the loop keeps. -/
theorem repeatCall_invariant {I : Concurrency Fn Ref → Prop}
    {body : Concurrency Fn Ref → Except Fault (Concurrency Fn Ref)}
    (hbody : ∀ s s', I s → body s = .ok s' → I s') {times : Nat} {s s' : Concurrency Fn Ref}
    (hs : I s) (h : repeatCall body times s = .ok s') : I s' := by
  induction times generalizing s with
  | zero =>
    cases h
    exact hs
  | succ times ih =>
    obtain ⟨s₁, hfirst, hrest⟩ := Except.bind_eq_ok_iff.mp h
    exact ih (hbody s s₁ hs hfirst) hrest

/-- What every call of `runTask` keeps, calling it until it starts a task keeps. -/
theorem runUntilStarted_invariant {I : Concurrency Fn Ref → Prop} {platform : Platform Fn}
    {fuel : Nat}
    (hrun : ∀ s x s', I s → s.runTask platform fuel false = .ok (x, s') → I s') {tries : Nat}
    {s s' : Concurrency Fn Ref} (hs : I s) (h : runUntilStarted platform fuel tries s = .ok s') :
    I s' := by
  induction tries generalizing s with
  | zero => cases h
  | succ tries ih =>
    obtain ⟨⟨x, s₁⟩, hfirst, hrest⟩ := Except.bind_eq_ok_iff.mp h
    have hs₁ : I s₁ := hrun s x s₁ hs hfirst
    cases x with
    | none => exact ih hs₁ hrest
    | some t =>
      cases hrest
      exact hs₁

/-- What holds of the forwarded tasks and is kept by every call of `runTask` holds after
    `forceTasks`. -/
theorem forceTasks_invariant {I : Concurrency Fn Ref → Prop} {platform : Platform Fn} {fuel : Nat}
    {s s' : Concurrency Fn Ref} {taskIds : List Int16}
    (hforward : ∀ m, s.manager.forwardTasks platform taskIds = .ok m → I { s with manager := m })
    (hrun : ∀ s x s', I s → s.runTask platform fuel true = .ok (x, s') → I s')
    (h : s.forceTasks platform fuel taskIds = .ok s') : I s' := by
  unfold Concurrency.forceTasks at h
  split at h
  · cases h
  · obtain ⟨m, hm, hrest⟩ := Except.bind_eq_ok_iff.mp h
    refine repeatCall_invariant ?_ (hforward m hm) hrest
    intro s₁ s₂ hs₁ hbody
    obtain ⟨⟨x, s₃⟩, hok, rfl⟩ := Except.map_eq_ok_iff.mp hbody
    exact hrun s₁ x s₃ hs₁ hok

/-- What is kept by every call of `runTask` and by setting the flags holds after
    `setAllTasks`. -/
theorem setAllTasks_invariant {I : Concurrency Fn Ref → Prop} {platform : Platform Fn}
    {fuel : Nat} {s s' : Concurrency Fn Ref} (hs : I s)
    (hrun : ∀ s x s', I s → s.runTask platform fuel false = .ok (x, s') → I s')
    (hflags : ∀ s : Concurrency Fn Ref, I s → I { s with manager := { s.manager with
      scheduledExitSet := false
      permanentExitSet := false
      primaryLaunchRan := true } })
    (h : s.setAllTasks platform fuel = .ok s') : I s' := by
  obtain ⟨s₁, hloop, heq⟩ := Except.bind_eq_ok_iff.mp h
  cases heq
  exact hflags s₁ (repeatCall_invariant (fun _ _ => runUntilStarted_invariant hrun) hs hloop)

end Concurrency

end NetworkedFS
