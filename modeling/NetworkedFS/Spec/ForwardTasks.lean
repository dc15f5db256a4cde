import NetworkedFS.ForStd.StableSort
import NetworkedFS.Spec.LaunchTasks

/-!
# Forwarding and forcing tasks

`forwardTasks` is to sort the tasks with given identifiers behind the others, where
`forceTasks` starts them.  The comparison it passes to `list::sort` only asks whether its
first task is selected, so it puts a task that is not selected before itself.  And
`forceTasks` starts as many tasks as it was given identifiers.

## Key results

- `sortsStably_iff`: the comparison is a strict weak ordering exactly when every queued task
  is selected;
- `forcesSelected_iff`: `forceTasks` starts the selected tasks exactly when there are as many
  of them as identifiers, and none of them is permanent.
-/

namespace NetworkedFS

/-- The comparison that `forwardTasks` passes to `list::sort`. -/
def forwardComparison {Fn : Type} (taskIds : List Int16) (first _second : ThreadTask Fn) : Bool :=
  !taskIds.contains first.taskId

/-- A machine with four hardware threads, whose sort is a merge sort. -/
def Platform.mergeSorting : Platform Unit where
  hardwareConcurrency := 4
  listSort := StableSort.mergeSortBy
  listSort_perm := StableSort.mergeSortBy_perm

namespace ConcurrencyManager

variable {Fn Ref : Type}

/-- The tasks whose identifier is in the vector. -/
def selected (m : ConcurrencyManager Fn Ref) (taskIds : List Int16) : List (ThreadTask Fn) :=
  m.taskQueue.filter fun t => taskIds.contains t.taskId

/-- The tasks whose identifier is not in the vector. -/
def unselected (m : ConcurrencyManager Fn Ref) (taskIds : List Int16) : List (ThreadTask Fn) :=
  m.taskQueue.filter fun t => !taskIds.contains t.taskId

/-- A call of `forwardTasks` that returns has sorted the queue by its comparison. -/
theorem forwardTasks_eq_ok {platform : Platform Fn} {m m' : ConcurrencyManager Fn Ref}
    {taskIds : List Int16} (h : m.forwardTasks platform taskIds = .ok m') :
    m' = { m with taskQueue := platform.listSort (forwardComparison taskIds) m.taskQueue } := by
  unfold forwardTasks at h
  split at h
  · cases h
  · cases h
    rfl

/-! ## The order of the queue -/

/-- What `forwardTasks` should do: pass a strict weak ordering of the queue to `list::sort`,
    and leave the stable partition of the queue. -/
def SortsStably (platform : Platform Fn) (m : ConcurrencyManager Fn Ref) (taskIds : List Int16) :
    Prop :=
  StableSort.StrictWeakOn (forwardComparison taskIds) m.taskQueue ∧
  ∀ m', m.forwardTasks platform taskIds = .ok m' →
    m'.taskQueue = m.unselected taskIds ++ m.selected taskIds

/-- A task that is not selected goes before itself. -/
theorem selected_of_strictWeakOn {taskIds : List Int16} {l : List (ThreadTask Fn)}
    (h : StableSort.StrictWeakOn (forwardComparison taskIds) l) :
    ∀ t ∈ l, taskIds.contains t.taskId = true := by
  intro t ht
  have hirrefl := h.irrefl ⟨t, ht⟩
  rw [forwardComparison, Bool.not_eq_true, Bool.not_eq_false'] at hirrefl
  exact hirrefl

/-- With a `list::sort` that is a stable sort for every strict weak ordering, `forwardTasks`
    sorts stably exactly when every queued task is selected. -/
theorem sortsStably_iff (platform : Platform Fn) (hsort : StableSort.IsStableSort platform.listSort)
    (m : ConcurrencyManager Fn Ref) (taskIds : List Int16) :
    m.SortsStably platform taskIds ↔ ∀ t ∈ m.taskQueue, taskIds.contains t.taskId = true := by
  constructor
  · rintro ⟨hweak, -⟩
    exact selected_of_strictWeakOn hweak
  · intro hall
    -- between selected tasks the comparison tells no class apart
    have hless : ∀ a ∈ m.taskQueue, ∀ b ∈ m.taskQueue, forwardComparison taskIds a b =
        (!taskIds.contains a.taskId && !!taskIds.contains b.taskId) := by
      intro a ha b hb
      rw [forwardComparison, hall a ha, hall b hb]
      rfl
    refine ⟨StableSort.strictWeakOn_of_classes hless, ?_⟩
    intro m' hok
    rw [forwardTasks_eq_ok hok]
    show platform.listSort _ m.taskQueue = _
    rw [hsort.eq_partition hless]
    simp only [Bool.not_not]
    rfl

end ConcurrencyManager

namespace Concurrency

variable {Fn Ref : Type}

/-- A launched manager with one queued task. -/
def launchedWithTask : Concurrency Unit Unit :=
  StepRun.final (step .quadCore 1) (construct .quadCore {})
    [.setAllTasks, .enqueueTask false false false () []]

/-- A queue whose only task is selected is sorted stably. -/
theorem sortsStably_launchedWithTask :
    launchedWithTask.manager.SortsStably .mergeSorting [1] :=
  (ConcurrencyManager.sortsStably_iff .mergeSorting StableSort.isStableSort_mergeSortBy _ _).mpr
    (by decide)

/-- When the only task is not selected, the comparison puts it before itself. -/
theorem launchedWithTask_not_sorted :
    ¬ ∀ taskIds : List Int16, launchedWithTask.manager.SortsStably .mergeSorting taskIds := by
  intro hall
  have hselected := ConcurrencyManager.selected_of_strictWeakOn (hall []).1
  exact absurd hselected (by decide)

/-! ## Starting the selected tasks -/

/-- The tasks that a call of `forceTasks` starts, and what it leaves. -/
def forceTasksLog (platform : Platform Fn) (fuel : Nat) (s : Concurrency Fn Ref)
    (taskIds : List Int16) : Except Fault (List (ThreadTask Fn) × Concurrency Fn Ref) := do
  if !s.manager.primaryLaunchRan then .error .assertion else
  let size := Int32.ofNat taskIds.length
  let manager ← s.manager.forwardTasks platform taskIds
  startTasks platform fuel true size.toInt.toNat { s with manager }

/-- The log of `forceTasks` is a log of `forceTasks`. -/
theorem forceTasks_eq_log (platform : Platform Fn) (fuel : Nat) (s : Concurrency Fn Ref)
    (taskIds : List Int16) :
    s.forceTasks platform fuel taskIds =
      (s.forceTasksLog platform fuel taskIds).map Prod.snd := by
  rw [forceTasks, forceTasksLog]
  split
  · rfl
  · cases s.manager.forwardTasks platform taskIds with
    | error e => rfl
    | ok manager => exact repeatCall_runTask platform fuel true _ _

/-- The sort moves the selected tasks behind the others. -/
def MovesSelectedBack (platform : Platform Fn) (s : Concurrency Fn Ref) (taskIds : List Int16) :
    Prop :=
  ∃ front back,
    platform.listSort (forwardComparison taskIds) s.manager.taskQueue = front ++ back ∧
    (∀ t ∈ front, taskIds.contains t.taskId = false) ∧
    ∀ t ∈ back, taskIds.contains t.taskId = true

/-- The two parts of a queue that was sorted so are the selected tasks and the others. -/
theorem MovesSelectedBack.perm {platform : Platform Fn} {s : Concurrency Fn Ref}
    {taskIds : List Int16} (h : s.MovesSelectedBack platform taskIds) :
    ∃ front back,
      platform.listSort (forwardComparison taskIds) s.manager.taskQueue = front ++ back ∧
      front.Perm (s.manager.unselected taskIds) ∧ back.Perm (s.manager.selected taskIds) := by
  obtain ⟨front, back, hqueue, hfront, hback⟩ := h
  have hperm := platform.listSort_perm (forwardComparison taskIds) s.manager.taskQueue
  rw [hqueue] at hperm
  refine ⟨front, back, hqueue, ?_, ?_⟩
  · have := hperm.filter fun t => !taskIds.contains t.taskId
    rwa [List.filter_append, List.filter_eq_self.mpr (by simpa using hfront),
      List.filter_eq_nil_iff.mpr (by simpa using hback), List.append_nil] at this
  · have := hperm.filter fun t => taskIds.contains t.taskId
    rwa [List.filter_append, List.filter_eq_nil_iff.mpr (by simpa using hfront),
      List.filter_eq_self.mpr (by simpa using hback), List.nil_append] at this

/-- What `forceTasks` should do: return, with every selected task started once, and the
    others still queued. -/
def ForcesSelected (platform : Platform Fn) (s : Concurrency Fn Ref) (taskIds : List Int16) :
    Prop :=
  ∃ fuel started s', s.forceTasks platform fuel taskIds = .ok s' ∧
    s.forceTasksLog platform fuel taskIds = .ok (started, s') ∧
    started.Perm (s.manager.selected taskIds) ∧
    s'.manager.taskQueue.Perm (s.manager.unselected taskIds)

/-- With a launch that ran, the log is that of the calls on the sorted queue. -/
theorem forceTasksLog_eq {platform : Platform Fn} {fuel : Nat} {s : Concurrency Fn Ref}
    {taskIds : List Int16} (hran : s.manager.primaryLaunchRan = true) :
    s.forceTasksLog platform fuel taskIds =
      startTasks platform fuel true (Int32.ofNat taskIds.length).toInt.toNat
        { s with manager.taskQueue :=
            platform.listSort (forwardComparison taskIds) s.manager.taskQueue } := by
  have hpass : ¬ (!s.manager.primaryLaunchRan) = true := by
    rw [hran]
    decide
  rw [forceTasksLog, ConcurrencyManager.forwardTasks, if_neg hpass, if_neg hpass]
  rfl

/-- A log that ends is the log of a launch that ran. -/
theorem primaryLaunchRan_of_log {platform : Platform Fn} {fuel : Nat} {s : Concurrency Fn Ref}
    {taskIds : List Int16} {r : List (ThreadTask Fn) × Concurrency Fn Ref}
    (h : s.forceTasksLog platform fuel taskIds = .ok r) : s.manager.primaryLaunchRan = true := by
  by_contra hran
  rw [Bool.not_eq_true] at hran
  rw [forceTasksLog, hran] at h
  cases h

/-- While no exit is requested, the tasks at the back of a queue can be started exactly when
    none of them is permanent: a permanent one could not be destroyed. -/
theorem canStart_back_iff {platform : Platform Fn} {s : Concurrency Fn Ref}
    {front back : List (ThreadTask Fn)} (hqueue : s.manager.taskQueue = front ++ back)
    (hr : ∀ t ∈ back, t.isReoccuring = false) (hcritical : s.statics.criticalSection = false)
    (hexit : ∀ isPermanent, s.manager.exitFlag isPermanent = false) :
    CanStart platform true back.length s ↔ ∀ t ∈ back, t.isPermanent = false := by
  have htake : s.manager.taskQueue.reverse.take back.length = back.reverse := by
    rw [hqueue, List.reverse_append, List.take_left' List.length_reverse]
  constructor
  · intro hcan t ht
    have hdestroyable := hcan.destroyable t (by rw [htake]; exact List.mem_reverse.mpr ht)
    by_contra hp
    rw [Bool.not_eq_false] at hp
    have hset : s.manager.exitFlag t.isPermanent = true := hdestroyable (.inl hp)
    rw [hexit] at hset
    cases hset
  · intro hpermanent
    refine ⟨hcritical, hexit false, .inr rfl, by simp [hqueue], fun t ht => ?_⟩
    rw [htake, List.mem_reverse] at ht
    rintro (hp | hre)
    · rw [hpermanent t ht] at hp
      cases hp
    · rw [hr t ht] at hre
      cases hre

/-- While no exit is requested, `forceTasks` starts exactly the selected tasks of a queue
    without reoccuring tasks, each once, if and only if the launch ran, the vector has as
    many elements as there are selected tasks, and no selected task is permanent. -/
theorem forcesSelected_iff (platform : Platform Fn) (s : Concurrency Fn Ref) (taskIds : List Int16)
    (hr : ∀ t ∈ s.manager.taskQueue, t.isReoccuring = false)
    (hcritical : s.statics.criticalSection = false)
    (hexit : ∀ isPermanent, s.manager.exitFlag isPermanent = false)
    (hback : s.MovesSelectedBack platform taskIds) :
    s.ForcesSelected platform taskIds ↔ s.manager.primaryLaunchRan = true ∧
      (Int32.ofNat taskIds.length).toInt.toNat = (s.manager.selected taskIds).length ∧
      ∀ t ∈ s.manager.selected taskIds, t.isPermanent = false := by
  obtain ⟨front, back, hqueue, hfront, hback⟩ := hback.perm
  rw [← hback.length_eq]
  have hselected : ∀ t ∈ back, t ∈ s.manager.selected taskIds := fun t => hback.mem_iff.mp
  have hcanStart : CanStart platform true back.length
      { s with manager.taskQueue := front ++ back } ↔ ∀ t ∈ back, t.isPermanent = false :=
    canStart_back_iff rfl (fun t ht => hr t (List.mem_of_mem_filter (hselected t ht))) hcritical
      hexit
  constructor
  · rintro ⟨fuel, started, s', -, hlog, hperm, -⟩
    have hran := primaryLaunchRan_of_log hlog
    rw [forceTasksLog_eq hran, hqueue] at hlog
    -- one task was started in each round
    obtain ⟨hlength, -⟩ := startTasks_eq_ok hlog
    have hcount : (Int32.ofNat taskIds.length).toInt.toNat = back.length :=
      hlength.symm.trans (hperm.length_eq.trans hback.length_eq.symm)
    rw [hcount] at hlog
    refine ⟨hran, hcount, fun t ht => ?_⟩
    have hback' : t ∈ back := hback.mem_iff.mpr ht
    rcases startTasks_returns_iff.mp ⟨_, hlog⟩ with hzero | hcan
    · rw [List.length_eq_zero_iff.mp hzero] at hback'
      cases hback'
    · exact hcanStart.mp hcan t hback'
  · rintro ⟨hran, hcount, hpermanent⟩
    have hcan := hcanStart.mpr fun t ht => hpermanent t (hselected t ht)
    obtain ⟨⟨started, s'⟩, hstart⟩ := startTasks_returns_iff.mpr (.inr hcan)
    obtain ⟨hlength, hleft⟩ := startTasks_eq_ok hstart
    -- as many tasks were started as there are at the back
    have hsplit : front ++ back = s'.manager.taskQueue ++ started.reverse := hleft
    obtain ⟨hfrontLeft, hbackStarted⟩ := List.append_inj' hsplit (by simp [hlength])
    have hlog : s.forceTasksLog platform 0 taskIds = .ok (started, s') := by
      rw [forceTasksLog_eq hran, hcount, hqueue]
      exact hstart
    refine ⟨0, started, s', ?_, hlog, ?_, ?_⟩
    · rw [forceTasks_eq_log, hlog]
      rfl
    · rw [hbackStarted] at hback
      exact (List.reverse_perm started).symm.trans hback
    · rw [← hfrontLeft]
      exact hfront

/-- The task of the manager is started when its identifier is given once. -/
theorem forcesSelected_launchedWithTask :
    launchedWithTask.ForcesSelected .quadCore [1] :=
  (forcesSelected_iff .quadCore launchedWithTask [1] (by decide) (by decide) (by decide)
    ⟨[], launchedWithTask.manager.taskQueue, by decide, by decide, by decide⟩).mpr
    ⟨by decide, by decide, by decide⟩

/-- When its identifier is given twice, the second call of `runTask` finds an empty queue. -/
theorem repeated_id_not_forced :
    ¬ ∀ taskIds : List Int16, launchedWithTask.MovesSelectedBack .quadCore taskIds →
      launchedWithTask.ForcesSelected .quadCore taskIds := by
  intro hall
  obtain ⟨fuel, started, s', hok, -⟩ := hall [1, 1]
    ⟨[], launchedWithTask.manager.taskQueue, by decide, by decide, by decide⟩
  cases hok

end Concurrency

end NetworkedFS
