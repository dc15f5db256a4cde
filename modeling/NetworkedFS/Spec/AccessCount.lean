import NetworkedFS.ForStd.StepRun
import NetworkedFS.Spec.TaskLifetime

/-!
# Access counts of the common variables

The access count of a common variable should be the number of times the queued tasks
name it.  `enqueueTask` builds a task, copies it into the queue and destroys the
original, whose destructor takes back the increments of the constructor: a queued task
is never counted.  With a table of variables that none of the tasks uses, the counts are right
exactly as long as no task with variables is enqueued.

How the table comes to have variables is left open here; programs cannot put any into it, see
`ConcurrencyPrograms.lean`.

## Key results

- `countsAgree_iff`: the counts decide which variables can be removed;
- `countsAgree_iff_bare`: the histories in which the counts stay right.
-/

namespace NetworkedFS

namespace ConcurrencyManager

variable {Fn Ref : Type}

/-- How often the queued tasks name a variable. -/
def occurrences (m : ConcurrencyManager Fn Ref) (name : String) : Nat :=
  (m.taskQueue.flatMap ThreadTask.saveParameters).count name

/-- The access counts are the numbers of occurrences; a variable that a queued task uses
    is not removed, and any other one is when its lock is free. -/
structure CountsAgree (m : ConcurrencyManager Fn Ref) : Prop where
  count_eq : ∀ name v, m.systemParameters.lookup name = some v →
    v.accessCount.toInt = m.occurrences name
  refuses : ∀ name, 0 < m.occurrences name → ∀ m', m.removeCommonVariable name ≠ .ok (true, m')
  removes : ∀ name v, m.systemParameters.lookup name = some v → m.occurrences name = 0 →
    v.lock = false → ∃ m', m.removeCommonVariable name = .ok (true, m')

/-- A variable is removed exactly when it is there, its lock is free and its count is 0. -/
theorem removeCommonVariable_eq_true_iff (m : ConcurrencyManager Fn Ref) (name : String) :
    (∃ m', m.removeCommonVariable name = .ok (true, m')) ↔
      ∃ v, m.systemParameters.lookup name = some v ∧ v.lock = false ∧ v.accessCount = 0 := by
  -- a report does not come with the result `true`
  have hreport : ∀ m', (m.report .cannotRemoveCommonVariable).map (fun m => (false, m)) ≠
      .ok (true, m') := by
    intro m' h
    obtain ⟨_, -, heq⟩ := Except.map_eq_ok_iff.mp h
    cases heq
  unfold removeCommonVariable
  cases hlookup : m.systemParameters.lookup name with
  | none => simp [hreport]
  | some v =>
    cases hlock : v.lock with
    | true => simp [hlock, hreport]
    | false =>
      by_cases hcount : v.accessCount = 0
      · simp [hlock, hcount]
      · simp [hlock, hcount, hreport]

/-- What `removeCommonVariable` does follows from the counts. -/
theorem countsAgree_iff (m : ConcurrencyManager Fn Ref) :
    m.CountsAgree ↔ ∀ name v, m.systemParameters.lookup name = some v →
      v.accessCount.toInt = m.occurrences name := by
  constructor
  · exact CountsAgree.count_eq
  · intro hcount
    refine ⟨hcount, ?_, ?_⟩
    · intro name hpos m' hok
      obtain ⟨v, hv, -, hzero⟩ := (m.removeCommonVariable_eq_true_iff name).mp ⟨m', hok⟩
      have := hcount name v hv
      rw [hzero, Int16.toInt_zero] at this
      omega
    · intro name v hv hzero hlock
      have hv0 : v.accessCount.toInt = (0 : Int16).toInt := by
        rw [hcount name v hv, hzero]
        rfl
      exact (m.removeCommonVariable_eq_true_iff name).mpr ⟨v, hv, hlock, Int16.toInt_inj.mp hv0⟩

end ConcurrencyManager

namespace Concurrency

variable {Fn Ref : Type}

/-! ## Histories without variables in use -/

/-- No queued task names a variable or points to one, and nothing is counted. -/
structure Unused (m : ConcurrencyManager Fn Ref) : Prop where
  count_eq : ∀ name v, m.systemParameters.lookup name = some v → v.accessCount = 0
  task : ∀ t ∈ m.taskQueue, t.saveParameters = [] ∧ t.taskAccessCount = []

/-- Then all counts are right. -/
theorem Unused.countsAgree {m : ConcurrencyManager Fn Ref} (hm : Unused m) : m.CountsAgree := by
  -- no task names anything
  have hnone : ∀ name, m.occurrences name = 0 := by
    intro name
    apply List.count_eq_zero.mpr
    intro hmem
    obtain ⟨t, ht, hname⟩ := List.mem_flatMap.mp hmem
    rw [(hm.task t ht).1] at hname
    exact absurd hname List.not_mem_nil
  apply (ConcurrencyManager.countsAgree_iff m).mpr
  intro name v hv
  rw [hm.count_eq name v hv, hnone name]
  rfl

/-- The property is about the table and the queue only. -/
theorem Unused.congr {m m' : ConcurrencyManager Fn Ref} (hm : Unused m)
    (htable : m'.systemParameters = m.systemParameters)
    (hqueue : ∀ t ∈ m'.taskQueue, t ∈ m.taskQueue) : Unused m' := by
  constructor
  · intro name v hv
    rw [htable] at hv
    exact hm.count_eq name v hv
  · intro t ht
    exact hm.task t (hqueue t ht)

/-- The call is not an `enqueueTask` with variables that returns. -/
def Bare (platform : Platform Fn) (fuel : Nat) (s : Concurrency Fn Ref) (op : Op Fn Ref) : Prop :=
  ∀ j p r f parameters o s', op = .enqueueTask j p r f parameters →
    s.step platform fuel op = .ok (o, s') → parameters = []

/-- A new entry, or one that replaces another, has to have the count 0. -/
private theorem Unused.insert {m m' : ConcurrencyManager Fn Ref} (hm : Unused m) {name : String}
    {v : CommonVariable Ref} (hv : v.accessCount = 0)
    (htable : m'.systemParameters = m.systemParameters.insert name v)
    (hqueue : m'.taskQueue = m.taskQueue) : Unused m' := by
  refine ⟨fun x w hw => ?_, fun t ht => hm.task t (hqueue ▸ ht)⟩
  rw [htable, UMap.lookup_insert_eq_ite] at hw
  split at hw
  · cases hw
    exact hv
  · exact hm.count_eq x w hw

/-- A new variable has the count zero. -/
private theorem Unused.enlist {m m' : ConcurrencyManager Fn Ref} (hm : Unused m) {reference : Ref}
    {lookup : String} {b : Bool} (h : m.enlistCommonVariable reference lookup = .ok (b, m')) :
    Unused m' := by
  unfold ConcurrencyManager.enlistCommonVariable at h
  split at h
  · cases h
    exact hm.insert rfl rfl rfl
  · obtain ⟨m₁, hreport, heq⟩ := Except.map_eq_ok_iff.mp h
    obtain ⟨d, rfl⟩ := ConcurrencyManager.report_eq_ok hreport
    cases heq
    exact hm.congr rfl fun t ht => ht

/-- Removing a variable takes its count with it. -/
private theorem Unused.remove {m m' : ConcurrencyManager Fn Ref} (hm : Unused m) {lookup : String}
    {b : Bool} (h : m.removeCommonVariable lookup = .ok (b, m')) : Unused m' := by
  have hfail : (m.report .cannotRemoveCommonVariable).map (fun m => (false, m)) = .ok (b, m') →
      Unused m' := by
    intro hok
    obtain ⟨m₁, hreport, heq⟩ := Except.map_eq_ok_iff.mp hok
    obtain ⟨d, rfl⟩ := ConcurrencyManager.report_eq_ok hreport
    cases heq
    exact hm.congr rfl fun t ht => ht
  unfold ConcurrencyManager.removeCommonVariable at h
  split at h
  · split at h
    · split at h
      · cases h
        refine ⟨fun x w hw => ?_, hm.task⟩
        rw [UMap.lookup_erase_eq_ite] at hw
        split at hw
        · cases hw
        · exact hm.count_eq x w hw
      · exact hfail h
    · exact hfail h
  · exact hfail h

/-- Locks are no counts. -/
private theorem Unused.writeLock {m : ConcurrencyManager Fn Ref} (hm : Unused m)
    (p : EntryPointer) (lock : Bool) : Unused (m.writeLock p lock) := by
  unfold ConcurrencyManager.writeLock
  split
  · next v hv =>
    split
    · have hsame : ({ v with lock } : CommonVariable Ref).accessCount = 0 := hm.count_eq p.name v hv
      exact hm.insert hsame rfl rfl
    · exact hm.congr rfl fun t ht => ht
  · exact hm.congr rfl fun t ht => ht

/-- The queue is only reordered. -/
private theorem Unused.forwardTasks {platform : Platform Fn} {m m' : ConcurrencyManager Fn Ref}
    (hm : Unused m) {taskIds : List Int16} (h : m.forwardTasks platform taskIds = .ok m') :
    Unused m' := by
  unfold ConcurrencyManager.forwardTasks at h
  split at h
  · cases h
  · cases h
    exact hm.congr rfl fun t ht => (platform.listSort_perm _ _).mem_iff.mp ht

/-- Running a task without variables counts nothing. -/
private theorem Unused.runTask {platform : Platform Fn} {fuel : Nat} {s s' : Concurrency Fn Ref}
    {ignoreAllocation : Bool} {x : Option (ThreadTask Fn)} (hs : Unused s.manager)
    (h : s.runTask platform fuel ignoreAllocation = .ok (x, s')) : Unused s'.manager := by
  -- the task that was started has no pointers, so its destruction counts nothing
  obtain ⟨t, m, -, hlast, htable, hqueue, hs'⟩ := runTask_eq_ok h
  rw [(hs.task t (List.mem_of_getLast? hlast)).2, List.foldl_nil] at hs'
  rw [hs']
  apply hs.congr htable
  intro u hu
  rw [hqueue] at hu
  exact List.mem_of_mem_dropLast hu

/-- A task without parameters points to no variable. -/
private theorem Unused.enqueueTask {fuel : Nat} {s s' : Concurrency Fn Ref} {j p r : Bool} {f : Fn}
    (hs : Unused s.manager) (h : s.enqueueTask fuel j p r f [] = .ok s') : Unused s'.manager := by
  obtain ⟨htable, -, t, hparameters, hnames, hqueue⟩ := enqueueTask_eq_ok h
  refine ⟨fun name v hv => hs.count_eq name v (htable ▸ hv), fun u hu => ?_⟩
  -- the new task is at one of the two ends
  have hmem : u = t ∨ u ∈ s.manager.taskQueue := by
    rw [hqueue] at hu
    cases p with
    | true => exact (List.mem_append.mp hu).symm.imp List.mem_singleton.mp id
    | false => exact List.mem_cons.mp hu
  cases hmem with
  | inl heq =>
    rw [heq]
    exact ⟨hparameters, List.map_eq_nil_iff.mp hnames⟩
  | inr hold => exact hs.task u hold

/-- Setting flags touches neither the table nor the queue. -/
private theorem Unused.setFlags {s s' : Concurrency Fn Ref} {o : Output Fn} (hs : Unused s.manager)
    {f : ConcurrencyManager Fn Ref → Except Fault (ConcurrencyManager Fn Ref)}
    (hf : ∀ m m', f m = .ok m' →
      m'.systemParameters = m.systemParameters ∧ m'.taskQueue = m.taskQueue)
    (h : (s.onManager fun m => (f m).map fun m => (Output.done, m)) = .ok (o, s')) :
    Unused s'.manager := by
  obtain ⟨m, hm, heq⟩ := Except.map_eq_ok_iff.mp (onManager_eq_ok h).1
  cases heq
  obtain ⟨htable, hqueue⟩ := hf _ _ hm
  exact hs.congr htable fun t ht => hqueue ▸ ht

/-- Bare calls keep everything unused. -/
theorem Unused.step {platform : Platform Fn} {fuel : Nat} {s s' : Concurrency Fn Ref}
    {op : Op Fn Ref} {o : Output Fn} (hs : Unused s.manager) (hbare : s.Bare platform fuel op)
    (h : s.step platform fuel op = .ok (o, s')) : Unused s'.manager := by
  unfold Concurrency.step at h
  cases op with
  | enlistCommonVariable reference lookup =>
    obtain ⟨⟨b, m⟩, hm, heq⟩ := Except.map_eq_ok_iff.mp (onManager_eq_ok h).1
    cases heq
    exact hs.enlist hm
  | removeCommonVariable lookup =>
    obtain ⟨⟨b, m⟩, hm, heq⟩ := Except.map_eq_ok_iff.mp (onManager_eq_ok h).1
    cases heq
    exact hs.remove hm
  | writeLock p lock =>
    cases h
    exact hs.writeLock p lock
  | enqueueTask j p r f parameters =>
    -- being bare, the new task has no variables
    obtain rfl := hbare j p r f parameters o s' rfl h
    obtain ⟨s₁, hok, heq⟩ := Except.map_eq_ok_iff.mp h
    cases heq
    exact hs.enqueueTask hok
  | forwardTasks taskIds =>
    obtain ⟨m, hm, heq⟩ := Except.map_eq_ok_iff.mp (onManager_eq_ok h).1
    cases heq
    exact hs.forwardTasks hm
  -- the queue is sorted, and then `runTask` is called for each task
  | forceTasks taskIds =>
    obtain ⟨s₁, hok, heq⟩ := Except.map_eq_ok_iff.mp h
    cases heq
    exact forceTasks_invariant (I := fun s => Unused s.manager)
      (fun _ hm => hs.forwardTasks hm) (fun _ _ _ hs₁ hrun => hs₁.runTask hrun) hok
  | runTask ignoreAllocation =>
    obtain ⟨⟨x, s₁⟩, hrun, heq⟩ := Except.map_eq_ok_iff.mp h
    cases heq
    exact hs.runTask hrun
  | setTasks =>
    refine hs.setFlags (f := ConcurrencyManager.setTasks) ?_ h
    intro m m' hm
    obtain ⟨-, rfl⟩ := ConcurrencyManager.setTasks_eq_ok hm
    exact ⟨rfl, rfl⟩
  | endTasks =>
    refine hs.setFlags (f := ConcurrencyManager.endTasks) ?_ h
    intro m m' hm
    obtain ⟨-, rfl⟩ := ConcurrencyManager.endTasks_eq_ok hm
    exact ⟨rfl, rfl⟩
  -- `runTask` until a task starts, as often as there are tasks
  | setAllTasks =>
    obtain ⟨s₁, hok, heq⟩ := Except.map_eq_ok_iff.mp h
    cases heq
    exact setAllTasks_invariant (I := fun s => Unused s.manager) hs
      (fun _ _ _ hs₁ hrun => hs₁.runTask hrun) (fun _ hs₁ => hs₁.congr rfl fun _ ht => ht) hok
  | endAllTasks =>
    refine hs.setFlags (f := ConcurrencyManager.endAllTasks) ?_ h
    intro m m' hm
    obtain ⟨-, rfl⟩ := ConcurrencyManager.endAllTasks_eq_ok hm
    exact ⟨rfl, rfl⟩

/-- When nothing is in use, the counts are right after a call exactly when it is bare. -/
theorem Unused.countsAgree_step_iff {platform : Platform Fn} {fuel : Nat} {s : Concurrency Fn Ref}
    (hs : Unused s.manager) (op : Op Fn Ref) :
    (∀ o s', s.step platform fuel op = .ok (o, s') → s'.manager.CountsAgree) ↔
      s.Bare platform fuel op := by
  constructor
  · rintro hlaw j p r f parameters o s' rfl hok
    have hagree := hlaw o s' hok
    obtain ⟨s₁, henqueue, heq⟩ := Except.map_eq_ok_iff.mp hok
    cases heq
    obtain ⟨htable, hmem, t, hparameters, -, hqueue⟩ := enqueueTask_eq_ok henqueue
    cases parameters with
    | nil => rfl
    | cons name names =>
      -- the first variable is used by the new task, but its count is still 0
      obtain ⟨v, hv⟩ := Option.ne_none_iff_exists'.mp (hmem name List.mem_cons_self)
      have hcount := hagree.count_eq name v (htable ▸ hv)
      rw [hs.count_eq name v hv] at hcount
      have hpos : 0 < s'.manager.occurrences name := by
        refine List.count_pos_iff.mpr (List.mem_flatMap.mpr ⟨t, ?_, ?_⟩)
        · rw [hqueue]
          cases p <;> simp
        · rw [hparameters]
          exact List.mem_cons_self
      have hzero : (0 : Int16).toInt = 0 := rfl
      omega
  · intro hbare o s' hok
    exact (hs.step hbare hok).countsAgree

/-- A fresh manager has neither variables nor tasks. -/
theorem unused_construct (platform : Platform Fn) (statics : ConcurrencyStatics) :
    Unused (construct platform statics : Concurrency Fn Ref).manager :=
  ⟨fun _ _ hv => by simp [construct, ConcurrencyManager.setResources] at hv,
    fun _ ht => absurd ht List.not_mem_nil⟩

/-- With a table that no task uses, the access counts are right throughout exactly when every
    task that is enqueued, by a call that returns, has no variables. -/
theorem countsAgree_iff_bare {platform : Platform Fn} {fuel : Nat} {s : Concurrency Fn Ref}
    (hs : Unused s.manager) (ops : List (Op Fn Ref)) :
    (∀ t ∈ StepRun.visited (step platform fuel) s ops, t.manager.CountsAgree) ↔
    ∀ c ∈ StepRun.calls (step platform fuel) s ops, c.1.Bare platform fuel c.2 := by
  rw [StepRun.forall_visited_iff, and_iff_right hs.countsAgree]
  exact StepRun.forall_calls_iff (I := fun s => Unused s.manager)
    (fun _ op hs => hs.countsAgree_step_iff op) (fun _ _ _ _ hs hbare hok => hs.step hbare hok)
    hs ops

end Concurrency

end NetworkedFS
