import NetworkedFS.ForStd.ProgramRest
import NetworkedFS.Spec.TaskLedger

/-!
# The counters that managers share

The numbers of scheduled, permanent and running threads are static: every manager counts in
them.  Whatever any number of managers are asked to do, the first two count the tasks that
wait in all queues together, up to the wrap-around of a `short`, and the third one all the
tasks that any manager was ever given, as a negative number.

## Key results

- `books_step`: a call on one manager changes the counters as it changes the queue;
- `counters_of_managers`: what the three counters are, in every run of all managers.
-/

namespace NetworkedFS

variable {ι Fn Ref : Type}

namespace Concurrency

variable {platform : Platform Fn} {fuel : Nat} {s s' s'' : Concurrency Fn Ref}

/-- What the counter of scheduled tasks holds besides the tasks of this manager. -/
def scheduledElsewhere (s : Concurrency Fn Ref) : Int16 :=
  s.statics.scheduledThreadCount -
    Int16.ofNat (s.manager.taskQueue.countP fun t => !t.isPermanent)

/-- What the counter of permanent tasks holds besides the tasks of this manager. -/
def permanentElsewhere (s : Concurrency Fn Ref) : Int16 :=
  s.statics.permanentThreadCount -
    Int16.ofNat (s.manager.taskQueue.countP fun t => t.isPermanent)

/-- The counters and the queue have changed alike, and `requests` tasks were enqueued. -/
structure SameBooks (requests : Nat) (s s' : Concurrency Fn Ref) : Prop where
  scheduled : s'.scheduledElsewhere = s.scheduledElsewhere
  permanent : s'.permanentElsewhere = s.permanentElsewhere
  running : s'.statics.runningScheduledTasks + Int16.ofNat requests =
    s.statics.runningScheduledTasks

theorem SameBooks.refl (s : Concurrency Fn Ref) : SameBooks 0 s s := ⟨rfl, rfl, Int16.add_zero _⟩

theorem SameBooks.trans (h : SameBooks 0 s s') (h' : SameBooks 0 s' s'') : SameBooks 0 s s'' where
  scheduled := h'.scheduled.trans h.scheduled
  permanent := h'.permanent.trans h.permanent
  running := by
    have hfirst := h.running
    have hsecond := h'.running
    rw [← hfirst, ← hsecond]
    exact (Int16.add_zero _).symm

/-- Reordering the queue changes no number. -/
theorem sameBooks_of_perm (hstatics : s'.statics = s.statics)
    (hperm : s'.manager.taskQueue.Perm s.manager.taskQueue) : SameBooks 0 s s' where
  scheduled := by rw [scheduledElsewhere, scheduledElsewhere, hstatics, hperm.countP_eq]
  permanent := by rw [permanentElsewhere, permanentElsewhere, hstatics, hperm.countP_eq]
  running := by rw [hstatics]; exact Int16.add_zero _

/-- A counter and what it counts go up together. -/
theorem add_sub_ofNat_add (a : Int16) (n k : Nat) :
    a + Int16.ofNat k - Int16.ofNat (n + k) = a - Int16.ofNat n := by
  rw [Int16.ofNat_add]
  grind

/-- A task that is enqueued is counted as what it is. -/
theorem sameBooks_enqueueTask {j p r : Bool} {f : Fn} {parameters : List String}
    (h : s.enqueueTask fuel j p r f parameters = .ok s') : SameBooks 1 s s' := by
  obtain ⟨t, hp, -, table, stale, rfl⟩ := enqueueTask_counters h
  have hperm : (if p then s.manager.taskQueue ++ [t] else t :: s.manager.taskQueue).Perm
      (t :: s.manager.taskQueue) := by
    cases p with
    | true => exact List.perm_append_singleton _ _
    | false => exact List.Perm.refl _
  refine ⟨?_, ?_, Int16.sub_add_cancel _ _⟩
  · simp only [scheduledElsewhere, hperm.countP_eq, List.countP_cons, hp]
    cases p with
    | true => exact add_sub_ofNat_add _ _ 0
    | false => exact add_sub_ofNat_add _ _ 1
  · simp only [permanentElsewhere, hperm.countP_eq, List.countP_cons, hp]
    cases p with
    | true => exact add_sub_ofNat_add _ _ 1
    | false => exact add_sub_ofNat_add _ _ 0

/-- A task that is started is not permanent, and not counted as scheduled any more. -/
theorem sameBooks_runTask {ignoreAllocation : Bool} {x : Option (ThreadTask Fn)}
    (hs : s.manager.ExitsTogether)
    (h : s.runTask platform fuel ignoreAllocation = .ok (x, s')) : SameBooks 0 s s' := by
  obtain ⟨t, rfl, hplain, hqueue⟩ := isPlain_of_runTask hs h
  obtain ⟨u, heq, -, -, table, stale, rfl⟩ := runTask_counters h
  obtain rfl := Option.some.inj heq
  have hp : t.isPermanent = false := by
    unfold ThreadTask.isPlain at hplain
    rw [Bool.and_eq_true, Bool.not_eq_true'] at hplain
    exact hplain.1
  -- the queue is what is left of it and the popped task
  have hcount : ∀ p : ThreadTask Fn → Bool, s.manager.taskQueue.countP p =
      s.manager.taskQueue.dropLast.countP p + if p t then 1 else 0 := by
    intro p
    have hall := congrArg (List.countP p) hqueue
    rw [List.countP_append, List.countP_singleton] at hall
    exact hall
  refine ⟨?_, ?_, ?_⟩
  · have hless := add_sub_ofNat_add (s.statics.scheduledThreadCount - 1)
      (s.manager.taskQueue.dropLast.countP fun t => !t.isPermanent) 1
    rw [show Int16.ofNat 1 = 1 from rfl, Int16.sub_add_cancel] at hless
    simp only [scheduledElsewhere, hcount, hp, Bool.not_false, if_true, Bool.false_eq_true,
      if_false]
    exact hless.symm
  · simp only [permanentElsewhere, hcount, hp, Bool.false_eq_true, if_false, Nat.add_zero]
  · -- up for the thread, and down for the popped copy
    show s.statics.runningScheduledTasks + 1 - 1 + 0 = _
    rw [Int16.add_sub_cancel, Int16.add_zero]

/-- The counters and the queue have changed alike, and no permanent exit is under way alone. -/
def InBooks (s s' : Concurrency Fn Ref) : Prop := SameBooks 0 s s' ∧ s'.manager.ExitsTogether

/-- A call of `runTask` among others. -/
theorem inBooks_runTask {s₀ : Concurrency Fn Ref} {ignoreAllocation : Bool}
    {x : Option (ThreadTask Fn)} (hs : InBooks s₀ s)
    (h : s.runTask platform fuel ignoreAllocation = .ok (x, s')) : InBooks s₀ s' :=
  ⟨hs.1.trans (sameBooks_runTask hs.2 h), exitsTogether_runTask hs.2 h⟩

/-- A call that neither enqueues nor starts tasks changes no counter. -/
theorem inBooks_of_statics {op : Op Fn Ref} {o : Output Fn} (hs : s.manager.ExitsTogether)
    (hop : op.requests = [])
    (hstarts : s.stepStarts platform fuel op = (s.step platform fuel op).map fun r => ([], r.2))
    (h : s.step platform fuel op = .ok (o, s')) (hstatics : s'.statics = s.statics) :
    InBooks s s' := by
  rw [h] at hstarts
  obtain ⟨hmoves, hexits⟩ := stepStarts_cases hs hstarts
  refine ⟨sameBooks_of_perm hstatics ?_, hexits⟩
  cases hmoves with
  | queued hrequests =>
    rw [hop] at hrequests
    cases hrequests
  | starts _ hperm => rwa [List.reverse_nil, List.append_nil] at hperm

/-- What a call on one manager does to the counters. -/
theorem books_step {op : Op Fn Ref} {o : Output Fn} (hs : s.manager.ExitsTogether)
    (h : s.step platform fuel op = .ok (o, s')) :
    SameBooks op.requests.length s s' ∧ s'.manager.ExitsTogether := by
  cases op with
  | enqueueTask j p r f parameters =>
    obtain ⟨s₁, hok, heq⟩ := Except.map_eq_ok_iff.mp h
    cases heq
    obtain ⟨u, -, -, table, stale, rfl⟩ := enqueueTask_counters hok
    exact ⟨sameBooks_enqueueTask hok, hs.congr rfl rfl⟩
  | runTask ignoreAllocation =>
    obtain ⟨⟨x, s₁⟩, hrun, heq⟩ := Except.map_eq_ok_iff.mp h
    cases heq
    exact inBooks_runTask ⟨.refl s, hs⟩ hrun
  | forceTasks taskIds =>
    obtain ⟨s₁, hok, heq⟩ := Except.map_eq_ok_iff.mp h
    cases heq
    -- reordering the queue changes no number, and then tasks are run
    refine forceTasks_invariant (I := InBooks s) (fun m hm => ?_)
      (fun _ _ _ hs₁ hrun => inBooks_runTask hs₁ hrun) hok
    obtain rfl := ConcurrencyManager.forwardTasks_eq_ok hm
    exact ⟨sameBooks_of_perm rfl (platform.listSort_perm _ _), hs.congr rfl rfl⟩
  | setAllTasks =>
    obtain ⟨s₁, hok, heq⟩ := Except.map_eq_ok_iff.mp h
    cases heq
    -- one task after the other is run
    refine setAllTasks_invariant (I := InBooks s) ⟨.refl s, hs⟩
      (fun _ _ _ hs₁ hrun => inBooks_runTask hs₁ hrun) (fun s₁ hs₁ => ⟨?_, nofun⟩) hok
    exact hs₁.1.trans (sameBooks_of_perm rfl (List.Perm.refl _))
  | enlistCommonVariable reference lookup =>
    -- the other calls leave the static members alone
    refine inBooks_of_statics hs rfl rfl h ?_
    unfold step at h
    exact (onManager_eq_ok h).2
  | removeCommonVariable lookup =>
    refine inBooks_of_statics hs rfl rfl h ?_
    unfold step at h
    exact (onManager_eq_ok h).2
  | writeLock pointer lock =>
    refine inBooks_of_statics hs rfl rfl h ?_
    unfold step at h
    exact (onManager_eq_ok h).2
  | forwardTasks taskIds =>
    refine inBooks_of_statics hs rfl rfl h ?_
    unfold step at h
    exact (onManager_eq_ok h).2
  | setTasks =>
    refine inBooks_of_statics hs rfl rfl h ?_
    unfold step at h
    exact (onManager_eq_ok h).2
  | endTasks =>
    refine inBooks_of_statics hs rfl rfl h ?_
    unfold step at h
    exact (onManager_eq_ok h).2
  | endAllTasks =>
    refine inBooks_of_statics hs rfl rfl h ?_
    unfold step at h
    exact (onManager_eq_ok h).2

end Concurrency

namespace ConcurrencyManagers

variable [Fintype ι] [DecidableEq ι] {platform : Platform Fn} {fuel : Nat}
  {s s' : ConcurrencyManagers ι Fn Ref}

/-- The tasks with a property that wait in the queues of all managers. -/
def waiting (s : ConcurrencyManagers ι Fn Ref) (p : ThreadTask Fn → Bool) : Nat :=
  ∑ i, (s.managers i).taskQueue.countP p

/-- What the counters are when `enqueued` tasks were given to the managers. -/
structure Counted (enqueued : Nat) (s : ConcurrencyManagers ι Fn Ref) : Prop where
  scheduled : s.statics.scheduledThreadCount = Int16.ofNat (s.waiting fun t => !t.isPermanent)
  permanent : s.statics.permanentThreadCount = Int16.ofNat (s.waiting fun t => t.isPermanent) + 1
  running : s.statics.runningScheduledTasks + Int16.ofNat enqueued = 0
  exits : ∀ i, (s.managers i).ExitsTogether

/-- The tasks that wait, after a call on one manager. -/
theorem waiting_update (s : ConcurrencyManagers ι Fn Ref) (i : ι) (c : Concurrency Fn Ref)
    (p : ThreadTask Fn → Bool) :
    waiting ⟨c.statics, Function.update s.managers i c.manager⟩ p +
        (s.managers i).taskQueue.countP p =
      s.waiting p + c.manager.taskQueue.countP p :=
  Finset.sum_update_add s.managers (fun m => m.taskQueue.countP p) i c.manager

/-- A call on one of the managers leaves the counters right for all. -/
theorem counted_step {enqueued : Nat} {op : ι × Concurrency.Op Fn Ref}
    {o : Concurrency.Output Fn} (hs : Counted enqueued s)
    (h : s.step platform fuel op = .ok (o, s')) :
    Counted (enqueued + op.2.requests.length) s' := by
  obtain ⟨⟨o', c⟩, hok, heq⟩ := Except.map_eq_ok_iff.mp h
  cases heq
  obtain ⟨hbooks, hexits⟩ := Concurrency.books_step (hs.exits op.1) hok
  -- of the waiting tasks only those of this manager have changed
  have hcount : ∀ p,
      Int16.ofNat (waiting ⟨c.statics, Function.update s.managers op.1 c.manager⟩ p) +
        Int16.ofNat ((s.managers op.1).taskQueue.countP p) =
      Int16.ofNat (s.waiting p) + Int16.ofNat (c.manager.taskQueue.countP p) := by
    intro p
    rw [← Int16.ofNat_add, waiting_update, Int16.ofNat_add]
  refine ⟨?_, ?_, ?_, ?_⟩
  · have hscheduled := hbooks.scheduled
    have hwaiting := hcount fun t => !t.isPermanent
    have hbefore := hs.scheduled
    simp only [Concurrency.scheduledElsewhere, concurrency] at hscheduled
    grind
  · have hpermanent := hbooks.permanent
    have hwaiting := hcount fun t => t.isPermanent
    have hbefore := hs.permanent
    simp only [Concurrency.permanentElsewhere, concurrency] at hpermanent
    grind
  · -- the running tasks: one less for each request
    have hrunning := hbooks.running
    have hbefore := hs.running
    simp only [concurrency] at hrunning
    rw [Int16.ofNat_add]
    grind
  · intro i
    simp only [Function.update_apply]
    split
    · exact hexits
    · exact hs.exits i

omit [DecidableEq ι] in
/-- No manager has a task at first. -/
theorem counted_construct (platform : Platform Fn) :
    Counted 0 (construct platform : ConcurrencyManagers ι Fn Ref) := by
  have hwaiting : ∀ p, waiting (construct platform : ConcurrencyManagers ι Fn Ref) p = 0 :=
    fun p => Finset.sum_eq_zero fun _ _ => rfl
  refine ⟨?_, ?_, rfl, fun i => Concurrency.exitsTogether_construct platform⟩
  · rw [hwaiting]
    rfl
  · rw [hwaiting]
    rfl

end ConcurrencyManagers

end NetworkedFS
