import NetworkedFS.ForStd.IdPool
import NetworkedFS.ForStd.StepRun
import NetworkedFS.Spec.TaskLifetime

/-!
# The identifiers of queued tasks

A task gets the identifier on top of `concurrency_last_id_death` if there is one, and else
the value of `concurrency_local_thread_count`, which also falls when tasks start.  That is
the allocator of `IdPool`: the count is the number of queued tasks, so with an empty stack
it has not been handed out before.

## Key results

- `Numbered.step`: what a call does to identifiers and counters;
- `taskIds_of_length_lt`: identifiers are distinct and without gaps along every run.
-/

namespace NetworkedFS

namespace Concurrency

variable {Fn Ref : Type}

/-- The identifier that the count gives while `k` tasks are queued. -/
def freshId (k : Nat) : Int16 := Int16.ofNat (k + 1)

/-- The identifiers in use, and those given back. -/
def taskIds (s : Concurrency Fn Ref) : List Int16 :=
  s.manager.taskQueue.map ThreadTask.taskId ++ s.manager.lastIdDeath

/-- How many identifiers there are. -/
def issued (s : Concurrency Fn Ref) : Nat :=
  s.manager.taskQueue.length + s.manager.lastIdDeath.length

/-- The identifiers and counters of a state, up to the wrap-around of counters. -/
structure Numbered (s : Concurrency Fn Ref) : Prop where
  covers : IdPool.Covers freshId (s.manager.taskQueue.map ThreadTask.taskId)
    s.manager.lastIdDeath
  localThreadCount : s.manager.localThreadCount = Int16.ofNat s.manager.taskQueue.length
  scheduledThreadCount : s.statics.scheduledThreadCount =
    Int16.ofNat (s.manager.taskQueue.countP fun t => !t.isPermanent)

/-- No identifier is used twice or both in use and given back, together they are `1..m`,
    and the two counters are right. -/
structure TaskIds (s : Concurrency Fn Ref) : Prop where
  nodup : s.taskIds.Nodup
  range : ∃ m : Nat, ∀ i, i ∈ s.taskIds ↔ 1 ≤ i.toInt ∧ i.toInt ≤ m
  localThreadCount : s.manager.localThreadCount.toInt = s.manager.taskQueue.length
  scheduledThreadCount : s.statics.scheduledThreadCount.toInt =
    s.manager.taskQueue.countP fun t => !t.isPermanent

/-! ## Calls -/

/-- Counting one more. -/
theorem ofNat_add_one (n : Nat) : Int16.ofNat n + 1 = Int16.ofNat (n + 1) := by
  rw [Int16.ofNat_add]
  rfl

/-- Counting one less. -/
theorem ofNat_succ_sub_one (n : Nat) : Int16.ofNat (n + 1) - 1 = Int16.ofNat n := by
  rw [← ofNat_add_one, Int16.add_sub_cancel]

/-- The tasks are the same, up to the order in which they are queued. -/
structure SameTasks (s s' : Concurrency Fn Ref) : Prop where
  taskQueue : s'.manager.taskQueue.Perm s.manager.taskQueue
  lastIdDeath : s'.manager.lastIdDeath = s.manager.lastIdDeath
  localThreadCount : s'.manager.localThreadCount = s.manager.localThreadCount
  scheduledThreadCount : s'.statics.scheduledThreadCount = s.statics.scheduledThreadCount

/-- Reordering the queue changes no number. -/
theorem Numbered.congr {s s' : Concurrency Fn Ref} (hs : s.Numbered) (h : SameTasks s s') :
    s'.Numbered ∧ s'.issued = s.issued := by
  refine ⟨⟨?_, ?_, ?_⟩, ?_⟩
  · rw [h.lastIdDeath]
    exact hs.covers.perm (h.taskQueue.map _)
  · rw [h.localThreadCount, hs.localThreadCount, h.taskQueue.length_eq]
  · rw [h.scheduledThreadCount, hs.scheduledThreadCount, h.taskQueue.countP_eq]
  · rw [issued, issued, h.taskQueue.length_eq, h.lastIdDeath]

/-- A task that is enqueued takes an identifier that was given back, or else the next new
    one. -/
theorem Numbered.enqueueTask {fuel : Nat} {s s' : Concurrency Fn Ref} (hs : s.Numbered)
    {j p r : Bool} {f : Fn} {parameters : List String}
    (h : s.enqueueTask fuel j p r f parameters = .ok s') :
    s'.Numbered ∧ (s'.issued = s.issued ∨ s'.issued = s'.manager.taskQueue.length) := by
  obtain ⟨t, hp, hid, table, stale, rfl⟩ := enqueueTask_counters h
  -- at which end the task is put does not matter
  have hperm : (if p then s.manager.taskQueue ++ [t] else t :: s.manager.taskQueue).Perm
      (t :: s.manager.taskQueue) := by
    cases p with
    | true => exact List.perm_append_singleton _ _
    | false => exact List.Perm.refl _
  have hlength := hperm.length_eq
  rw [List.length_cons] at hlength
  refine ⟨⟨?_, ?_, ?_⟩, ?_⟩
  · refine IdPool.Covers.perm ?_ (hperm.map ThreadTask.taskId)
    rw [List.map_cons, hid]
    have hcovers := hs.covers
    cases hdeath : s.manager.lastIdDeath with
    | cons x free =>
      rw [hdeath] at hcovers
      exact hcovers.reuse
    | nil =>
      rw [hdeath] at hcovers
      have hfresh := hcovers.extend
      rw [List.length_map] at hfresh
      simp only [List.headD_nil, List.tail_nil, hs.localThreadCount, ofNat_add_one]
      exact hfresh
  · simp only [hlength, hs.localThreadCount, ofNat_add_one]
  · simp only [hperm.countP_eq, List.countP_cons, hp, hs.scheduledThreadCount]
    cases p with
    | true => exact Int16.add_zero _
    | false => exact ofNat_add_one _
  · simp only [issued, hlength]
    cases s.manager.lastIdDeath with
    | nil => exact Or.inr rfl
    | cons x free =>
      left
      simp only [List.tail_cons, List.length_cons]
      omega

/-- A task that is started gives its identifier back. -/
theorem Numbered.runTask {platform : Platform Fn} {fuel : Nat} {s s' : Concurrency Fn Ref}
    (hs : s.Numbered) {ignoreAllocation : Bool} {x : Option (ThreadTask Fn)}
    (h : s.runTask platform fuel ignoreAllocation = .ok (x, s')) :
    s'.Numbered ∧ s'.issued = s.issued := by
  obtain ⟨t, -, hlast, -, table, stale, rfl⟩ := runTask_counters h
  obtain ⟨front, hqueue⟩ := List.getLast?_eq_some_iff.mp hlast
  have hperm : s.manager.taskQueue.Perm (t :: front) := by
    rw [hqueue]
    exact List.perm_append_singleton t front
  have hdrop : s.manager.taskQueue.dropLast = front := by rw [hqueue, List.dropLast_concat]
  have hlength := hperm.length_eq
  rw [List.length_cons] at hlength
  refine ⟨⟨?_, ?_, ?_⟩, ?_⟩
  · have hcovers := hs.covers.perm (hperm.map ThreadTask.taskId).symm
    simp only [hdrop]
    exact hcovers.giveBack
  · simp only [hdrop, hs.localThreadCount, hlength, ofNat_succ_sub_one]
  · have hcount := hperm.countP_eq fun t => !t.isPermanent
    simp only [hdrop, hs.scheduledThreadCount, hcount, List.countP_cons]
    cases t.isPermanent with
    | true => exact Int16.sub_zero _
    | false => exact ofNat_succ_sub_one _
  · simp only [issued, hdrop, hlength, List.length_cons]
    omega

/-! ## Operations -/

/-- What an operation other than `enqueueTask` consists of. -/
inductive Advance (platform : Platform Fn) (fuel : Nat) :
    Concurrency Fn Ref → Concurrency Fn Ref → Prop
  | same {s s' : Concurrency Fn Ref} : SameTasks s s' → Advance platform fuel s s'
  | run {s s' : Concurrency Fn Ref} {ignoreAllocation : Bool} {x : Option (ThreadTask Fn)} :
      s.runTask platform fuel ignoreAllocation = .ok (x, s') → Advance platform fuel s s'

/-- A round of a loop starts tasks and issues nothing. -/
theorem Numbered.advance {platform : Platform Fn} {fuel : Nat} {s s' : Concurrency Fn Ref}
    (hs : s.Numbered) (h : Advance platform fuel s s') : s'.Numbered ∧ s'.issued = s.issued := by
  cases h with
  | same hsame => exact hs.congr hsame
  | run hrun => exact hs.runTask hrun

/-- The manager keeps its tasks, in some order, and the identifiers that it can give. -/
private def KeepsTasks (m m' : ConcurrencyManager Fn Ref) : Prop :=
  m'.taskQueue.Perm m.taskQueue ∧ m'.lastIdDeath = m.lastIdDeath ∧
    m'.localThreadCount = m.localThreadCount

/-- An operation on the manager that does not touch the tasks. -/
private theorem sameTasks_onManager {s s' : Concurrency Fn Ref} {α : Type} {a : α}
    {f : ConcurrencyManager Fn Ref → Except Fault (α × ConcurrencyManager Fn Ref)}
    (hf : ∀ m b m', f m = .ok (b, m') → KeepsTasks m m') (h : s.onManager f = .ok (a, s')) :
    SameTasks s s' := by
  obtain ⟨hm, hstatics⟩ := onManager_eq_ok h
  obtain ⟨hqueue, hdeath, hlocal⟩ := hf _ _ _ hm
  exact ⟨hqueue, hdeath, hlocal, by rw [hstatics]⟩

/-- Reporting an error keeps the tasks. -/
private theorem report_keeps {m m' : ConcurrencyManager Fn Ref} {error : ConcurrencyError}
    {b b' : Bool} (h : (m.report error).map (fun m => (b, m)) = .ok (b', m')) :
    KeepsTasks m m' := by
  obtain ⟨m₁, hm₁, heq⟩ := Except.map_eq_ok_iff.mp h
  obtain ⟨d, rfl⟩ := ConcurrencyManager.report_eq_ok hm₁
  cases heq
  exact ⟨List.Perm.refl _, rfl, rfl⟩

/-- Enlisting a variable keeps the tasks. -/
private theorem enlistCommonVariable_keeps {m m' : ConcurrencyManager Fn Ref} {reference : Ref}
    {lookup : String} {b : Bool} (h : m.enlistCommonVariable reference lookup = .ok (b, m')) :
    KeepsTasks m m' := by
  unfold ConcurrencyManager.enlistCommonVariable at h
  split at h
  · cases h
    exact ⟨List.Perm.refl _, rfl, rfl⟩
  · exact report_keeps h

/-- Removing a variable keeps the tasks. -/
private theorem removeCommonVariable_keeps {m m' : ConcurrencyManager Fn Ref} {lookup : String}
    {b : Bool} (h : m.removeCommonVariable lookup = .ok (b, m')) : KeepsTasks m m' := by
  unfold ConcurrencyManager.removeCommonVariable at h
  split at h
  · split at h
    · split at h
      · cases h
        exact ⟨List.Perm.refl _, rfl, rfl⟩
      · exact report_keeps h
    · exact report_keeps h
  · exact report_keeps h

/-- Writing a lock keeps the tasks. -/
private theorem writeLock_keeps (m : ConcurrencyManager Fn Ref) (pointer : EntryPointer)
    (lock : Bool) : KeepsTasks m (m.writeLock pointer lock) := by
  unfold ConcurrencyManager.writeLock
  split
  · split <;> exact ⟨List.Perm.refl _, rfl, rfl⟩
  · exact ⟨List.Perm.refl _, rfl, rfl⟩

/-- Forwarding only reorders the queue. -/
private theorem forwardTasks_keeps {platform : Platform Fn} {m m' : ConcurrencyManager Fn Ref}
    {taskIds : List Int16} (h : m.forwardTasks platform taskIds = .ok m') : KeepsTasks m m' := by
  unfold ConcurrencyManager.forwardTasks at h
  split at h
  · cases h
  · cases h
    exact ⟨platform.listSort_perm _ _, rfl, rfl⟩

/-- Setting flags keeps the tasks. -/
private theorem setTasks_keeps {m m' : ConcurrencyManager Fn Ref} (h : m.setTasks = .ok m') :
    KeepsTasks m m' := by
  obtain ⟨-, rfl⟩ := ConcurrencyManager.setTasks_eq_ok h
  exact ⟨List.Perm.refl _, rfl, rfl⟩

/-- Ending the scheduled tasks keeps them queued. -/
private theorem endTasks_keeps {m m' : ConcurrencyManager Fn Ref} (h : m.endTasks = .ok m') :
    KeepsTasks m m' := by
  obtain ⟨-, rfl⟩ := ConcurrencyManager.endTasks_eq_ok h
  exact ⟨List.Perm.refl _, rfl, rfl⟩

/-- Ending all tasks keeps them queued. -/
private theorem endAllTasks_keeps {m m' : ConcurrencyManager Fn Ref}
    (h : m.endAllTasks = .ok m') : KeepsTasks m m' := by
  obtain ⟨-, rfl⟩ := ConcurrencyManager.endAllTasks_eq_ok h
  exact ⟨List.Perm.refl _, rfl, rfl⟩

/-- A call with a result keeps the tasks when its operation on the manager does. -/
private theorem sameTasks_of_result {s s' : Concurrency Fn Ref} {o : Output Fn}
    {f : ConcurrencyManager Fn Ref → Except Fault (Bool × ConcurrencyManager Fn Ref)}
    (hf : ∀ {m m' b}, f m = .ok (b, m') → KeepsTasks m m')
    (h : s.onManager (fun m => (f m).map fun (r, m) => (Output.result r, m)) = .ok (o, s')) :
    SameTasks s s' := by
  refine sameTasks_onManager (fun m b m' hm => ?_) h
  obtain ⟨⟨r, m₁⟩, hm₁, heq⟩ := Except.map_eq_ok_iff.mp hm
  cases heq
  exact hf hm₁

/-- So does a call without one. -/
private theorem sameTasks_of_done {s s' : Concurrency Fn Ref} {o : Output Fn}
    {f : ConcurrencyManager Fn Ref → Except Fault (ConcurrencyManager Fn Ref)}
    (hf : ∀ {m m'}, f m = .ok m' → KeepsTasks m m')
    (h : s.onManager (fun m => (f m).map fun m => (Output.done, m)) = .ok (o, s')) :
    SameTasks s s' := by
  refine sameTasks_onManager (fun m b m' hm => ?_) h
  obtain ⟨m₁, hm₁, heq⟩ := Except.map_eq_ok_iff.mp hm
  cases heq
  exact hf hm₁

/-- `forceTasks` reorders the queue and then starts tasks. -/
private theorem forceTasks_advances {platform : Platform Fn} {fuel : Nat}
    {s s' : Concurrency Fn Ref} {taskIds : List Int16}
    (h : s.forceTasks platform fuel taskIds = .ok s') :
    Relation.ReflTransGen (Advance platform fuel) s s' := by
  refine forceTasks_invariant ?_ (fun _ _ _ hs₁ hrun => hs₁.tail (.run hrun)) h
  intro m hm
  obtain ⟨hqueue, hdeath, hlocal⟩ := forwardTasks_keeps hm
  exact .single (.same ⟨hqueue, hdeath, hlocal, rfl⟩)

/-- `setAllTasks` starts tasks, and then sets flags. -/
private theorem setAllTasks_advances {platform : Platform Fn} {fuel : Nat}
    {s s' : Concurrency Fn Ref} (h : s.setAllTasks platform fuel = .ok s') :
    Relation.ReflTransGen (Advance platform fuel) s s' :=
  setAllTasks_invariant .refl (fun _ _ _ hs₁ hrun => hs₁.tail (.run hrun))
    (fun _ hs₁ => hs₁.tail (.same ⟨List.Perm.refl _, rfl, rfl, rfl⟩)) h

/-- A call that returns enqueues a task, or it consists of reorderings and started tasks. -/
theorem step_cases {platform : Platform Fn} {fuel : Nat} {s s' : Concurrency Fn Ref}
    {op : Op Fn Ref} {o : Output Fn} (h : s.step platform fuel op = .ok (o, s')) :
    (∃ j p r f parameters, s.enqueueTask fuel j p r f parameters = .ok s') ∨
      Relation.ReflTransGen (Advance platform fuel) s s' := by
  unfold Concurrency.step at h
  cases op with
  | enlistCommonVariable reference lookup =>
    exact .inr (.single (.same (sameTasks_of_result enlistCommonVariable_keeps h)))
  | removeCommonVariable lookup =>
    exact .inr (.single (.same (sameTasks_of_result removeCommonVariable_keeps h)))
  | writeLock pointer lock =>
    -- no id depends on a lock
    refine .inr (.single (.same (sameTasks_onManager (fun m b m' hm => ?_) h)))
    cases hm
    exact writeLock_keeps m pointer lock
  | enqueueTask j p r f parameters =>
    obtain ⟨s₁, hok, heq⟩ := Except.map_eq_ok_iff.mp h
    cases heq
    exact .inl ⟨j, p, r, f, parameters, hok⟩
  | forwardTasks taskIds =>
    exact .inr (.single (.same (sameTasks_of_done forwardTasks_keeps h)))
  | forceTasks taskIds =>
    obtain ⟨s₁, hok, heq⟩ := Except.map_eq_ok_iff.mp h
    cases heq
    -- a run of single starts
    exact .inr (forceTasks_advances hok)
  | runTask ignoreAllocation =>
    obtain ⟨⟨x, s₁⟩, hrun, heq⟩ := Except.map_eq_ok_iff.mp h
    cases heq
    exact .inr (.single (.run hrun))
  | setTasks => exact .inr (.single (.same (sameTasks_of_done setTasks_keeps h)))
  | endTasks => exact .inr (.single (.same (sameTasks_of_done endTasks_keeps h)))
  | setAllTasks =>
    obtain ⟨s₁, hok, heq⟩ := Except.map_eq_ok_iff.mp h
    cases heq
    -- another one
    exact .inr (setAllTasks_advances hok)
  | endAllTasks => exact .inr (.single (.same (sameTasks_of_done endAllTasks_keeps h)))

/-- What a call that returns does to identifiers and counters: a new identifier is made
    only while all the others are in use. -/
theorem Numbered.step {platform : Platform Fn} {fuel : Nat} {s s' : Concurrency Fn Ref}
    (hs : s.Numbered) {op : Op Fn Ref} {o : Output Fn}
    (h : s.step platform fuel op = .ok (o, s')) :
    s'.Numbered ∧ (s'.issued = s.issued ∨ s'.issued = s'.manager.taskQueue.length) := by
  rcases step_cases h with ⟨j, p, r, f, parameters, henqueue⟩ | hadvance
  · exact hs.enqueueTask henqueue
  · have hall : s'.Numbered ∧ s'.issued = s.issued := by
      clear h
      induction hadvance with
      | refl => exact ⟨hs, rfl⟩
      | tail _ hlast ih =>
        obtain ⟨hnumbered, hissued⟩ := ih.1.advance hlast
        exact ⟨hnumbered, hissued.trans ih.2⟩
    exact ⟨hall.1, Or.inl hall.2⟩

/-! ## Runs -/

/-- Below the wrap-around the numbers are what they seem. -/
theorem Numbered.taskIds {s : Concurrency Fn Ref} (hs : s.Numbered) (hissued : s.issued < 2 ^ 15) :
    s.TaskIds := by
  have htoInt : ∀ {n : Nat}, n < 2 ^ 15 → (Int16.ofNat n).toInt = n := fun h =>
    Int16.toInt_ofNat_of_lt h
  have hlength : s.manager.taskQueue.length < 2 ^ 15 :=
    lt_of_le_of_lt (Nat.le_add_right _ _) hissued
  have htotal : (s.manager.taskQueue.map ThreadTask.taskId).length +
      s.manager.lastIdDeath.length = s.issued := by
    rw [List.length_map]
    rfl
  refine ⟨?_, ⟨s.issued, fun i => ?_⟩, ?_, ?_⟩
  · -- different numbers below the wrap-around are different identifiers
    apply hs.covers.nodup (n := 2 ^ 15 - 1)
    · intro j hj k hk heq
      have hint := congrArg Int16.toInt heq
      simp only [Set.mem_ofPred_eq] at hj hk
      rw [freshId, freshId, htoInt (by omega), htoInt (by omega)] at hint
      omega
    · omega
  · rw [Concurrency.taskIds, hs.covers.mem_iff, htotal]
    constructor
    · rintro ⟨k, hk, rfl⟩
      rw [freshId, htoInt (by omega)]
      omega
    · rintro ⟨hpos, hle⟩
      refine ⟨i.toInt.toNat - 1, by omega, ?_⟩
      apply Int16.toInt_inj.mp
      rw [freshId, htoInt (by omega)]
      omega
  · rw [hs.localThreadCount, htoInt hlength]
  · rw [hs.scheduledThreadCount, htoInt (lt_of_le_of_lt List.countP_le_length hlength)]

/-- Nothing is queued in a fresh manager. -/
theorem numbered_construct (platform : Platform Fn) :
    (construct platform {} : Concurrency Fn Ref).Numbered :=
  ⟨IdPool.covers_nil freshId, rfl, rfl⟩

/-- As long as fewer than `2^15` tasks are queued, the identifiers of a manager and its
    counters are right in every state of a run. -/
theorem taskIds_of_length_lt (platform : Platform Fn) (fuel : Nat) (ops : List (Op Fn Ref))
    (hlength : ∀ s ∈ StepRun.visited (step platform fuel) (construct platform {}) ops,
      s.manager.taskQueue.length < 2 ^ 15) :
    ∀ s ∈ StepRun.visited (step platform fuel) (construct platform {}) ops, s.TaskIds := by
  have hkeep : ∀ (s : Concurrency Fn Ref) op o s', (s.Numbered ∧ s.issued < 2 ^ 15) →
      step platform fuel s op = .ok (o, s') → s'.manager.taskQueue.length < 2 ^ 15 →
      s'.Numbered ∧ s'.issued < 2 ^ 15 := by
    rintro s op o s' ⟨hs, hissued⟩ hok hlt
    obtain ⟨hs', hsame | hnew⟩ := hs.step hok
    · exact ⟨hs', hsame ▸ hissued⟩
    · exact ⟨hs', hnew ▸ hlt⟩
  have hall := StepRun.forall_visited_of_step hkeep
    ⟨numbered_construct platform, Nat.two_pow_pos 15⟩ ops hlength
  intro s hs
  exact (hall s hs).1.taskIds (hall s hs).2

/-- Three tasks, of which the first is started before the third is enqueued. -/
def recycledId : List (Op Unit Unit) :=
  [.enqueueTask false false false () [], .enqueueTask false false false () [], .runTask false,
    .enqueueTask true false false () []]

theorem taskIds_recycledId :
    (StepRun.final (step .quadCore 1) (construct .quadCore {}) recycledId).TaskIds :=
  taskIds_of_length_lt .quadCore 1 recycledId (by decide) _ (StepRun.final_mem_visited _ _)

end Concurrency

end NetworkedFS
