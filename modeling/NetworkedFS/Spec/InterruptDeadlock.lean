import NetworkedFS.ForStd.LockOrder
import NetworkedFS.ForStd.StepRun
import NetworkedFS.Spec.InterruptCalls

/-!
# Deadlocks of the interrupt scheduler

The operations lock one mutex at a time, and the handler the mutex of a queue and then the
one of the callbacks.  So threads do not deadlock as long as no handler starts on a thread
that has locked what the handler locks, or what another thread may lock after it.  But
nothing in the code keeps a signal from arriving then.

## Key results

- `orderedCall_program`: every operation keeps a lock order;
- `unblocked_of_interruptsInOrder`: the runs without deadlock.
-/

namespace NetworkedFS

open LockProg InterruptShared

variable {ι Fn Args β : Type}

/-- There are as many mutexes as queues, and one more. -/
instance : Fintype InterruptMutex where
  elems := (.callback :: InterruptProg.offsets.map .queue : List InterruptMutex).toFinset
  complete m := by
    cases m with
    | callback => decide
    | queue o => cases o <;> decide

namespace InterruptShared

/-- What the handler reads before it locks anything is the same. -/
def SameDispatch (s s' : InterruptShared Fn Args) : Prop :=
  s'.tables.availableForOffload = s.tables.availableForOffload ∧
  ∀ x, (s'.tables.reverseLookup x).1 = (s.tables.reverseLookup x).1

instance : IsPreorder (InterruptShared Fn Args) SameDispatch where
  refl _ := ⟨rfl, fun _ => rfl⟩
  trans _ _ _ h h' := ⟨h'.1.trans h.1, fun x => (h'.2 x).trans (h.2 x)⟩

/-- The handler reads two fields of the tables. -/
theorem sameDispatch_of_eq {s s' : InterruptShared Fn Args}
    (havailable : s'.tables.availableForOffload = s.tables.availableForOffload)
    (hreverse : s'.tables.signalValueReverseLookup = s.tables.signalValueReverseLookup) :
    SameDispatch s s' :=
  ⟨havailable, SchedulerInterrupt.reverseLookup_congr hreverse⟩

/-- An action on the tables that changes other parts of them. -/
theorem sameDispatch_onTables
    {f : SchedulerInterrupt Fn Args → Except Fault (β × SchedulerInterrupt Fn Args)}
    {s s' : InterruptShared Fn Args} {b : β} (h : onTables f s = .ok (b, s'))
    (hf : ∀ t t' b, f t = .ok (b, t') → t'.availableForOffload = t.availableForOffload ∧
      t'.signalValueReverseLookup = t.signalValueReverseLookup) : SameDispatch s s' := by
  unfold onTables at h
  match hok : f s.tables with
  | .ok (c, t) =>
    simp only [hok] at h
    cases h
    exact sameDispatch_of_eq (hf _ _ _ hok).1 (hf _ _ _ hok).2
  | .error e =>
    simp only [hok] at h
    cases h

/-- An action that writes other parts of the tables. -/
theorem sameDispatch_modify {f : SchedulerInterrupt Fn Args → SchedulerInterrupt Fn Args}
    {s s' : InterruptShared Fn Args} {b b' : β}
    (h : onTables (fun t => .ok (b, f t)) s = .ok (b', s'))
    (hf : ∀ t, (f t).availableForOffload = t.availableForOffload ∧
      (f t).signalValueReverseLookup = t.signalValueReverseLookup) : SameDispatch s s' := by
  refine sameDispatch_onTables h fun t t' c hok => ?_
  cases hok
  exact hf t

/-- Reading changes nothing. -/
theorem eq_of_read {f : InterruptShared Fn Args → Except InterruptFault β}
    {s s' : InterruptShared Fn Args} {b : β} (h : (f s).map (·, s) = .ok (b, s')) :
    f s = .ok b ∧ s' = s := by
  obtain ⟨b', hok, heq⟩ := Except.map_eq_ok_iff.mp h
  cases heq
  exact ⟨hok, rfl⟩

/-- The entry of an iterator is registered for the signal of the iterator. -/
theorem signalType_of_deref {iterator : CallbackIterator} {s : InterruptShared Fn Args}
    {x : SignalOffset × HandlerCallback Fn Args} (h : s.deref iterator = .ok x) :
    x.1 = iterator.signalType := by
  unfold deref at h
  cases hi : s.tables.callbacks.lookup iterator.identifier with
  | none =>
    simp only [hi] at h
    cases h
  | some y =>
    simp only [hi, InterruptProg.find_eq_some hi] at h
    split at h
    · next heq =>
      cases h
      exact congrArg CallbackIterator.signalType (Option.some.inj heq)
    · cases h

/-- A new entry is not what the handler reads first. -/
theorem sameDispatch_emplace {i : Int} {o : SignalOffset} {c : HandlerCallback Fn Args}
    {s s' : InterruptShared Fn Args} {b : Bool} (h : emplace i o c s = .ok (b, s')) :
    SameDispatch s s' := by
  unfold emplace at h
  cases hi : s.tables.callbacks.lookup i with
  | none =>
    simp only [hi] at h
    cases h
    exact sameDispatch_of_eq rfl rfl
  | some x =>
    simp only [hi] at h
    cases h
    exact refl_of SameDispatch s

/-- Nor is what an update writes. -/
theorem sameDispatch_assign {iterator : CallbackIterator}
    {write : HandlerCallback Fn Args → Except Fault (HandlerCallback Fn Args)}
    {s s' : InterruptShared Fn Args} {u : Unit} (h : assign iterator write s = .ok (u, s')) :
    SameDispatch s s' := by
  unfold assign at h
  match hderef : s.deref iterator with
  | .error e =>
    simp only [hderef] at h
    cases h
  | .ok (o, c) =>
    simp only [hderef] at h
    match hwrite : write c with
    | .error e =>
      simp only [hwrite] at h
      cases h
    | .ok c' =>
      simp only [hwrite] at h
      cases h
      exact sameDispatch_of_eq rfl rfl

end InterruptShared

namespace InterruptProg

variable {rank : InterruptMutex → Nat} {base : List InterruptMutex}

/-- A registration locks the callbacks, unlocks them and locks a queue. -/
theorem ordered_registerSharedHelper (i : Int) (c : HandlerCallback Fn Args) (o : SignalOffset)
    (persist : Bool) (s : InterruptShared Fn Args) :
    (registerSharedHelper i c o persist).OrderedCall rank SameDispatch [] [] s := by
  unfold registerSharedHelper
  simp only [lockMutex_bind, atomic_bind, unlockMutex_bind]
  refine ordered_section nofun fun s₁ _ b s₂ hok => ⟨sameDispatch_emplace hok, ?_⟩
  cases b with
  | false => rfl
  | true =>
    refine ordered_section nofun fun s₃ _ u s₄ hok => ⟨?_, rfl⟩
    exact sameDispatch_modify hok fun _ => ⟨rfl, rfl⟩

/-- An update unlocks the queue that it has locked, as its entry stays in the same queue. -/
theorem ordered_updateThrough (i : Int)
    (write : HandlerCallback Fn Args → Except Fault (HandlerCallback Fn Args))
    (s : InterruptShared Fn Args) :
    (updateThrough i write).OrderedCall rank SameDispatch [] [] s := by
  unfold updateThrough updateSharedHelper
  simp only [lockMutex_bind, LockProg.read_bind, unlockMutex_bind, lock_bind, act_bind,
    unlock_bind, pure_eq_ret, ret_bind]
  refine ordered_section nofun fun s₁ _ it s₂ hfind => ?_
  cases hfind
  refine ⟨refl_of SameDispatch _, ?_⟩
  cases s₁.find i with
  | none => rfl
  | some it =>
    -- the iterator gives the same queue both times, as entries keep their signal
    intro s₃ _ x s₄ hx
    obtain ⟨hderef, rfl⟩ := eq_of_read hx
    refine ⟨refl_of SameDispatch _, nofun, ?_⟩
    intro s₅ _ u s₆ hassign
    refine ⟨sameDispatch_assign hassign, ?_⟩
    intro s₇ _ y s₈ hy
    obtain ⟨hderef', rfl⟩ := eq_of_read hy
    have hsame : InterruptMutex.queue y.1 = .queue x.1 := by
      rw [signalType_of_deref hderef, signalType_of_deref hderef']
    exact ⟨refl_of SameDispatch _, hsame ▸ List.mem_cons_self, hsame ▸ List.erase_cons_head ..⟩

/-- A removal locks the callbacks. -/
theorem ordered_removeRegistration (i : Int) (s : InterruptShared Fn Args) :
    (removeRegistration i).OrderedCall rank SameDispatch [] [] s := by
  unfold removeRegistration
  simp only [lockMutex_bind, atomic_bind, unlockMutex_bind]
  refine ordered_section nofun fun s₁ _ b s₂ hok => ⟨?_, rfl⟩
  refine sameDispatch_onTables hok fun t t' b h => ?_
  unfold SchedulerInterrupt.removeRegistration at h
  cases hi : t.callbacks.lookup i with
  | none =>
    rw [hi] at h
    cases h
    exact ⟨rfl, rfl⟩
  | some x =>
    rw [hi] at h
    cases h
    exact ⟨rfl, rfl⟩

/-- The queues are locked one after the other. -/
theorem ordered_cleanQueues (l : List SignalOffset) (s : InterruptShared Fn Args) :
    (cleanQueues l).OrderedCall rank SameDispatch [] [] s := by
  induction l generalizing s with
  | nil => rfl
  | cons o l ih =>
    simp only [cleanQueues, lockMutex_bind, atomic_bind, unlockMutex_bind]
    refine ordered_section nofun fun s₁ _ u s₂ hok => ⟨?_, ih s₂⟩
    exact sameDispatch_modify hok fun _ => ⟨rfl, rfl⟩

/-- Cleaning locks the callbacks and then the queues, each by itself. -/
theorem ordered_clean (s : InterruptShared Fn Args) :
    clean.OrderedCall rank SameDispatch [] [] s := by
  unfold clean
  simp only [lockMutex_bind, atomic_bind, unlockMutex_bind]
  refine ordered_section nofun fun s₁ _ u s₂ hok => ⟨?_, ordered_cleanQueues offsets s₂⟩
  exact sameDispatch_modify hok fun _ => ⟨rfl, rfl⟩

/-- What a thread holds in the handler, and below it, when it locks the callbacks. -/
theorem below_callback (hrank : ∀ o, rank (.queue o) < rank .callback) {o : SignalOffset}
    (hbase : ∀ m ∈ base, rank m < rank (.queue o)) :
    ∀ x ∈ [InterruptMutex.queue o] ++ base, rank x < rank .callback := by
  intro x hx
  rcases List.mem_cons.mp hx with rfl | hx
  · exact hrank o
  · exact (hbase x hx).trans (hrank o)

/-- What follows the callback locks the callbacks while the queue is locked. -/
theorem ordered_requeue (hrank : ∀ o, rank (.queue o) < rank .callback) {o : SignalOffset}
    (hbase : ∀ m ∈ base, rank m < rank (.queue o)) (i : Int) (persist : Bool)
    (s : InterruptShared Fn Args) :
    (requeue o i persist).Ordered rank SameDispatch base (fun _ held _ => held = [.queue o])
      [.queue o] s := by
  unfold requeue
  cases persist with
  | true =>
    intro s₁ _ u s₂ hok
    exact ⟨sameDispatch_modify hok fun _ => ⟨rfl, rfl⟩, rfl⟩
  | false =>
    refine ordered_section (below_callback hrank hbase) fun s₁ _ u s₂ hok => ⟨?_, rfl⟩
    exact sameDispatch_modify hok fun _ => ⟨rfl, rfl⟩

/-- The work on a queue goes on while its mutex is held, and leaves it held. -/
theorem ordered_handleQueue (hrank : ∀ o, rank (.queue o) < rank .callback) {o : SignalOffset}
    (hbase : ∀ m ∈ base, rank m < rank (.queue o)) (s : InterruptShared Fn Args) :
    (handleQueue o).Ordered rank SameDispatch base (fun _ held _ => held = [.queue o])
      [.queue o] s := by
  unfold handleQueue
  simp only [LockProg.read_bind]
  intro s₁ _ back s₂ hback
  cases hback
  refine ⟨refl_of SameDispatch _, ?_⟩
  cases (s₁.tables.signalQueues o).getLast? with
  -- an empty queue: only the status is written
  | none =>
    intro s₃ _ r s₄ hok
    refine ⟨sameDispatch_onTables hok fun t t' r h => ?_, rfl⟩
    obtain ⟨t₁, hreport, heq⟩ := Except.map_eq_ok_iff.mp h
    obtain ⟨d, -, rfl⟩ := Except.map_eq_ok_iff.mp hreport
    cases heq
    exact ⟨rfl, rfl⟩
  | some back =>
    simp only [atomic_bind]
    -- the callback mutex ranks above that of the queue, which is held
    refine ordered_section (below_callback hrank hbase) fun s₃ _ ran s₄ hrun => ⟨?_, ?_⟩
    · refine sameDispatch_onTables hrun fun t t' r h => ?_
      obtain ⟨-, -, d, rfl⟩ := SchedulerInterrupt.runCallback_eq_ok h
      exact ⟨rfl, rfl⟩
    · intro s₅ _ back' s₆ hback'
      obtain ⟨back'', -, heq⟩ := Except.map_eq_ok_iff.mp hback'
      cases heq
      refine ⟨refl_of SameDispatch _, ?_⟩
      apply ordered_bind.mpr
      -- requeueing leaves the mutex of the queue held
      refine (ordered_requeue hrank hbase back.1 back'.2 _).imp ?_
      rintro u held s₇ rfl
      intro s₈ _ u' s₉ hok
      exact ⟨sameDispatch_modify hok fun _ => ⟨rfl, rfl⟩, rfl⟩

/-- The handler locks the mutex of its queue and then the one of the callbacks. -/
theorem ordered_handlerUpdateAndRun (hrank : ∀ o, rank (.queue o) < rank .callback)
    (signal : Int) {s : InterruptShared Fn Args}
    (hbase : s.tables.availableForOffload = true →
      ∀ m ∈ base, rank m < rank (.queue (s.tables.reverseLookup signal).1)) :
    (handlerUpdateAndRun signal).OrderedCall rank SameDispatch base [] s := by
  unfold handlerUpdateAndRun
  simp only [atomic_bind, LockProg.read_bind]
  intro s₁ h₁ o s₂ hok
  cases hok
  have hsame := SchedulerInterrupt.sameTables_reverseLookup s₁.tables signal
  refine ⟨⟨hsame.offload, hsame.reverse⟩, ?_⟩
  intro s₃ h₃ available s₄ havailable
  cases havailable
  refine ⟨refl_of SameDispatch _, ?_⟩
  cases hoffload : s₃.tables.availableForOffload with
  | false => rfl
  | true =>
    -- the interrupted calls have locked lower mutexes, as offload was on at the start
    have hoffload₀ : s.tables.availableForOffload = true :=
      h₁.1.symm.trans (hsame.offload.symm.trans (h₃.1.symm.trans hoffload))
    have hbase₁ := hbase hoffload₀
    rw [← h₁.2 signal] at hbase₁
    simp only [if_true, lockMutex_bind, unlockMutex_bind]
    refine ⟨fun x hx => hbase₁ x hx, ?_⟩
    apply ordered_bind.mpr
    refine (ordered_handleQueue hrank hbase₁ _).imp ?_
    rintro ran held s₅ rfl
    exact ⟨List.mem_cons_self, List.erase_cons_head ..⟩

/-- Every operation but the one that changes whether the handler locks anything is
    ordered. -/
theorem orderedCall_program (hrank : ∀ o, rank (.queue o) < rank .callback)
    {op : SchedulerInterrupt.Op Fn Args} (hop : op ≠ .toggleHandlerSignaling)
    (s : InterruptShared Fn Args) : op.program.OrderedCall rank SameDispatch [] [] s := by
  cases op with
  | registerFunction i f o persist => exact (ordered_registerSharedHelper i _ o persist s).map _
  | registerFunctionParameters i f a o persist =>
    exact (ordered_registerSharedHelper i _ o persist s).map _
  | updateRegistration i f => exact (ordered_updateThrough i _ s).map _
  | updateRegistrationParameters i f a => exact (ordered_updateThrough i _ s).map _
  | updateRegistrationParametersOnly i a => exact (ordered_updateThrough i _ s).map _
  | removeRegistration i => exact (ordered_removeRegistration i s).map _
  | toggleHandlerSignaling => exact absurd rfl hop
  | clean => exact (ordered_clean s).map _
  | deliver signal =>
    refine (ordered_handlerUpdateAndRun hrank signal fun _ m hm => ?_).map _
    cases hm

end InterruptProg

namespace InterruptThreads

/-- There is no deadlock, a call that returns has unlocked what it has locked, and no call
    unlocks anything else. -/
structure Unblocked [DecidableEq ι] (w : InterruptThreads ι Fn Args) : Prop where
  not_deadlocked : ¬ w.Deadlocked
  released : ∀ t f rest out, w.stack t = f :: rest → f.prog = .ret out → f.held = []
  owned : ∀ t, w.advance t ≠ .error .unowned

/-- A handler that is to lock something starts only on a thread that has locked nothing, or
    mutexes that rank below the one of the handler's queue. -/
def InterruptsInOrder (rank : InterruptMutex → Nat) (w : InterruptThreads ι Fn Args) :
    Event ι Fn Args → Prop
  | .interrupt t signal => w.shared.tables.availableForOffload = true →
    ∀ m ∈ Frame.heldBy (w.stack t),
      rank m < rank (.queue (w.shared.tables.reverseLookup signal).1)
  | _ => True

/-- The callback mutex above those of the queues. -/
def callbackLast : InterruptMutex → Nat
  | .callback => 1
  | .queue _ => 0

/-- The order of the code's own calls. -/
theorem queue_lt_callback (o : SignalOffset) : callbackLast (.queue o) < callbackLast .callback :=
  Nat.zero_lt_one

variable [DecidableEq ι] {rank : InterruptMutex → Nat}

/-- A thread that makes a call while nothing else is under way ends it, and has done what
    the operation does. -/
theorem runs_alone (t : ι) {op : SchedulerInterrupt.Op Fn Args}
    (hop : op ≠ .toggleHandlerSignaling) {s : InterruptShared Fn Args}
    {out : SchedulerInterrupt.Output Fn Args} {tables : SchedulerInterrupt Fn Args}
    (h : s.tables.step op = .ok (out, tables)) : ∃ s' : InterruptShared Fn Args,
      s'.tables = tables ∧
      Relation.ReflTransGen
        (fun w w' : InterruptThreads ι Fn Args => ∃ o, w.advance t = .ok (o, w'))
        ((Threads.idle s).start t op op.program) (Threads.idle s') := by
  have hdoes : (op.program.run s).map (fun r => (r.1, r.2.tables)) =
      (s.tables.step op).mapError .fault := InterruptProg.program_run op s
  rw [h] at hdoes
  obtain ⟨⟨out', s'⟩, hrun, heq⟩ := Except.map_eq_ok_iff.mp hdoes
  cases heq
  exact ⟨s', rfl, Threads.run_of_orderedCall t op
    (InterruptProg.orderedCall_program queue_lt_callback hop s) hrun⟩

/-- A step that meets the condition keeps the threads lock-ordered. -/
theorem lockInv_step (hrank : ∀ o, rank (.queue o) < rank .callback)
    {w w' : InterruptThreads ι Fn Args} {e : Event ι Fn Args}
    {out : Option (SchedulerInterrupt.Output Fn Args)} (hw : w.LockInv rank SameDispatch)
    (he : w.InterruptsInOrder rank e) (h : step w e = .ok (out, w')) :
    w'.LockInv rank SameDispatch := by
  cases e with
  | call t op =>
    simp only [step] at h
    split at h
    · next hcall =>
      rw [Bool.and_eq_true, List.isEmpty_iff] at hcall
      cases h
      apply hw.start
      rw [hcall.1]
      refine InterruptProg.orderedCall_program hrank ?_ w.shared
      rintro rfl
      cases hcall.2
    · cases h
      exact hw
  | interrupt t signal =>
    cases h
    exact hw.start ((InterruptProg.ordered_handlerUpdateAndRun hrank signal he).map _)
  | advance t => exact (hw.advance (Threads.advance_eq_ok_iff.mp h)).1

/-- In a run in which every handler starts in the order there is no deadlock, and every call
    that returns has unlocked what it has locked. -/
theorem unblocked_of_interruptsInOrder (hrank : ∀ o, rank (.queue o) < rank .callback)
    (shared : InterruptShared Fn Args) (events : List (Event ι Fn Args))
    (hevents : ∀ c ∈ StepRun.calls step (Threads.idle shared) events,
      c.1.InterruptsInOrder rank c.2) :
    ∀ w ∈ StepRun.visited step (Threads.idle shared) events, w.Unblocked := by
  intro w hw
  have hinv := StepRun.forall_visited_of_calls
    (fun _ _ _ _ hw he h => lockInv_step hrank hw he h) (Threads.lockInv_idle shared) events
    hevents w hw
  exact ⟨hinv.not_deadlocked, fun _ _ _ _ hstack hprog => hinv.held_eq_nil hstack hprog,
    hinv.not_unowned⟩

/-- A thread registers a function while a signal is delivered on another one. -/
def registersAside : List (Event Bool Unit Unit) :=
  [.call false (.registerFunction 1 (some ()) .sigabrt true), .advance false, .interrupt true 6,
    .advance true, .advance true, .advance true]

/-- The handler starts on a thread that has locked nothing. -/
theorem unblocked_registersAside :
    (StepRun.final step (Threads.idle ⟨.initial, fun _ => 0⟩) registersAside).Unblocked := by
  refine unblocked_of_interruptsInOrder queue_lt_callback _ registersAside ?_ _
    (StepRun.final_mem_visited _ _)
  intro c hc
  -- the only interrupted thread has no call under way
  rcases hc with _ | ⟨_, hc⟩
  · trivial
  rcases hc with _ | ⟨_, hc⟩
  · trivial
  rcases hc with _ | ⟨_, hc⟩
  · exact fun _ m hm => absurd hm List.not_mem_nil
  rcases hc with _ | ⟨_, hc⟩
  · trivial
  rcases hc with _ | ⟨_, hc⟩
  · trivial
  rcases hc with _ | ⟨_, hc⟩
  · trivial
  cases hc

/-- A thread is interrupted by the signal that it registers for, while it holds the mutex of
    the signal's queue. -/
def registersAndHandles : List (Event Unit Unit Unit) :=
  .call () (.registerFunction 1 (some ()) .sigabrt true) :: List.replicate 4 (.advance ()) ++
    [.interrupt () 6, .advance (), .advance ()]

/-- The handler waits for the mutex that the interrupted call holds. -/
theorem deadlock_of_interrupt :
    ¬ ∀ events : List (Event Unit Unit Unit), ∀ w ∈
      StepRun.visited step (Threads.idle ⟨.initial, fun _ => 0⟩) events, w.Unblocked := by
  intro hall
  have hw := hall registersAndHandles _ (StepRun.final_mem_visited _ _)
  apply hw.not_deadlocked
  refine ⟨⟨(), ?_⟩, ?_⟩
  · nofun
  · rintro ⟨⟩ -
    rfl

end InterruptThreads

end NetworkedFS
