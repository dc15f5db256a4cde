import NetworkedFS.ForStd.RelyGuarantee
import NetworkedFS.ForStd.StepRun
import NetworkedFS.Spec.InterruptCalls

/-!
# Updates of registrations among other calls

An update finds its entry under one mutex and writes to it under another.  In between it
relies on the entry: when a removal, a cleaning or the delivery of a one-shot signal erases
it, the iterator dangles.  As long as no entry is erased under an update, each update has
the effect of the sequential operation, at one moment.

## Key results

- `meets_updateThrough`: an update whose entry stays goes through valid iterators, and
  takes effect at once;
- `updatesSound_of_sparesCarried`: the runs in which updates are sound.
-/

namespace NetworkedFS

open LockProg InterruptShared

variable {ι Fn Args : Type}

/-- The identifier that an operation updates. -/
def SchedulerInterrupt.Op.updates : SchedulerInterrupt.Op Fn Args → Option Int
  | .updateRegistration i _ => some i
  | .updateRegistrationParameters i _ _ => some i
  | .updateRegistrationParametersOnly i _ => some i
  | _ => none

namespace InterruptShared

/-- The entry of the identifier stays. -/
def Keeps (i : Int) (s s' : InterruptShared Fn Args) : Prop :=
  ∀ iterator, s.find i = some iterator → s'.find i = some iterator

end InterruptShared

namespace InterruptThreads

/-- A call carries an iterator to the entry of an identifier: it is an update that has found
    the entry, in the first of its four actions, and not made all of them. -/
def Carries (op : SchedulerInterrupt.Op Fn Args)
    (steps : List (InterruptShared Fn Args × InterruptShared Fn Args)) (i : Int) : Prop :=
  op.updates = some i ∧ (∃ x, steps.getLast? = some x ∧ x.1.find i ≠ none) ∧ steps.length < 4

/-- What a call relies on. -/
def KeepsCarried (op : SchedulerInterrupt.Op Fn Args)
    (steps : List (InterruptShared Fn Args × InterruptShared Fn Args))
    (s s' : InterruptShared Fn Args) : Prop :=
  ∀ i, Carries op steps i → Keeps i s s'

instance (op : SchedulerInterrupt.Op Fn Args)
    (steps : List (InterruptShared Fn Args × InterruptShared Fn Args)) :
    IsPreorder (InterruptShared Fn Args) (KeepsCarried op steps) where
  refl _ _ _ _ h := h
  trans _ _ _ h h' i hi iterator hfind := h' i hi iterator (h i hi iterator hfind)

/-- A call has had its effect at one moment: one of its actions does to the tables what the
    operation does sequentially, with the same result, and the others do nothing. -/
def AtOnce (op : SchedulerInterrupt.Op Fn Args) (out : SchedulerInterrupt.Output Fn Args)
    (steps : List (InterruptShared Fn Args × InterruptShared Fn Args)) : Prop :=
  ∃ later s s' earlier, steps = later ++ (s, s') :: earlier ∧
    s.tables.step op = .ok (out, s'.tables) ∧ ∀ x ∈ later ++ earlier, x.2 = x.1

end InterruptThreads

namespace InterruptProg

open InterruptThreads

/-- The iterator that an identifier has now is valid. -/
theorem deref_of_find {i : Int} {it : CallbackIterator} {s : InterruptShared Fn Args}
    (h : s.find i = some it) : it.identifier = i ∧
      ∃ x, s.tables.callbacks.lookup i = some x ∧ s.deref it = .ok x := by
  cases hi : s.tables.callbacks.lookup i with
  | none => simp [find, SchedulerInterrupt.updateSharedHelper, hi] at h
  | some x =>
    rw [find_eq_some hi] at h
    cases h
    exact ⟨rfl, x, rfl, deref_find hi⟩

/-- Writing through a valid iterator. -/
theorem assign_eq {it : CallbackIterator} {o : SignalOffset} {c : HandlerCallback Fn Args}
    {write : HandlerCallback Fn Args → Except Fault (HandlerCallback Fn Args)}
    {s : InterruptShared Fn Args} (h : s.deref it = .ok (o, c)) :
    s.assign it write = match write c with
      | .ok c => .ok ((), { s with tables := s.tables.assignCallback it.identifier o c })
      | .error e => .error (.fault e) := by
  cases hwrite : write c <;> simp only [assign, h, hwrite]

/-- An update whose entry stays while it carries the iterator does not go through a dangling
    one, and takes effect at once. -/
theorem meets_updateThrough {op : SchedulerInterrupt.Op Fn Args} {i : Int}
    {write : HandlerCallback Fn Args → Except Fault (HandlerCallback Fn Args)}
    (hupdates : op.updates = some i)
    (hop : ∀ t : SchedulerInterrupt Fn Args,
      t.step op = (t.updateWith i write).map fun r => (.result r.1, r.2))
    (s : InterruptShared Fn Args) :
    (SchedulerInterrupt.Output.result <$> updateThrough i write : InterruptProg Fn Args _).Meets
      (KeepsCarried op) (AtOnce op) (· = .dangling) [] s := by
  unfold updateThrough updateSharedHelper
  simp only [lockMutex_bind, LockProg.read_bind, unlockMutex_bind, lock_bind, act_bind,
    unlock_bind, pure_eq_ret, ret_bind, map_eq_bind]
  intro s₁ _
  refine ⟨fun e he => ?_, fun found s₁' hfound => ?_⟩
  · cases he
  cases hfound
  cases hfind : s₁.find i with
  | none =>
    -- the operation would have found nothing at this moment either
    have hi : s₁.tables.callbacks.lookup i = none := by
      simpa [find, SchedulerInterrupt.updateSharedHelper] using hfind
    refine ⟨[], s₁, s₁, [], rfl, ?_, fun p hp => ?_⟩
    · simp only [hop, SchedulerInterrupt.updateWith, hi, Except.map]
    · cases hp
  | some it =>
    have hcarries : ∀ l, l.length < 3 → Carries op (l ++ [(s₁, s₁)]) i := by
      intro l hl
      refine ⟨hupdates, ⟨(s₁, s₁), List.getLast?_concat .., ?_⟩, ?_⟩
      · rw [hfind]
        exact Option.some_ne_none it
      · rw [List.length_append]
        exact Nat.succ_lt_succ hl
    -- the queue's mutex is looked up through the iterator
    intro s₂ h₂
    have hfind₂ := h₂ i (hcarries [] (by simp)) it hfind
    obtain ⟨rfl, x₂, -, hderef₂⟩ := deref_of_find hfind₂
    refine ⟨by simp [hderef₂, Except.map], fun x s₂' hok => ?_⟩
    simp only [hderef₂, Except.map, Except.ok.injEq, Prod.mk.injEq] at hok
    obtain ⟨rfl, rfl⟩ := hok
    -- the write, at which the update takes effect
    intro s₃ h₃
    have hfind₃ := h₃ _ (hcarries [(s₂, s₂)] (by simp)) it hfind₂
    obtain ⟨-, ⟨o, c⟩, hi₃, hderef₃⟩ := deref_of_find hfind₃
    rw [assign_eq hderef₃]
    cases hwrite : write c with
    | error e =>
      refine ⟨fun e' he' hdangling => ?_, fun u s₄ hok => ?_⟩
      · cases he'
        cases hdangling
      · cases hok
    | ok c' =>
      refine ⟨fun e he => ?_, fun u s₄ hok => ?_⟩
      · cases he
      cases hok
      have hstep : s₃.tables.step op =
          .ok (.result true, s₃.tables.assignCallback it.identifier o c') := by
        simp only [hop, SchedulerInterrupt.updateWith, hi₃, hwrite, Except.map]
      have hfind₄ : find { s₃ with
          tables := s₃.tables.assignCallback it.identifier o c' } it.identifier = some it := by
        have hi₄ : (s₃.tables.assignCallback it.identifier o c').callbacks.lookup it.identifier =
            some (o, c') := Finmap.lookup_insert _
        rw [find_eq_some hi₃] at hfind₃
        rw [find_eq_some hi₄]
        exact hfind₃
      -- the mutex is looked up again
      intro s₅ h₅
      have hfind₅ := h₅ _ (hcarries [(s₃, _), (s₂, s₂)] (by simp)) it hfind₄
      obtain ⟨-, x₅, -, hderef₅⟩ := deref_of_find hfind₅
      refine ⟨by simp [hderef₅, Except.map], fun x s₅' hok => ?_⟩
      simp only [hderef₅, Except.map, Except.ok.injEq, Prod.mk.injEq] at hok
      obtain ⟨rfl, rfl⟩ := hok
      exact ⟨[(s₅, s₅)], s₃, _, [(s₂, s₂), (s₁, s₁)], rfl, hstep, by simp⟩

/-! ## Operations without iterators -/

/-- An action on the tables does not go through an iterator. -/
theorem onTables_ne_dangling {β : Type}
    {f : SchedulerInterrupt Fn Args → Except Fault (β × SchedulerInterrupt Fn Args)}
    (s : InterruptShared Fn Args) (e : InterruptFault) (h : onTables f s = .error e) :
    ¬ e = .dangling := by
  unfold onTables at h
  cases hok : f s.tables with
  | ok r =>
    simp only [hok] at h
    cases h
  | error e' =>
    simp only [hok] at h
    cases h
    nofun

/-- A registration inserts, and does not find what is there. -/
theorem avoids_registerSharedHelper (i : Int) (c : HandlerCallback Fn Args) (o : SignalOffset)
    (persist : Bool) : (registerSharedHelper i c o persist).Avoids (· = .dangling) := by
  unfold registerSharedHelper
  simp only [lockMutex_bind, atomic_bind, unlockMutex_bind]
  refine ⟨fun s e h => ?_, fun inserted => ?_⟩
  · unfold emplace at h
    cases hi : s.tables.callbacks.lookup i with
    | none =>
      simp only [hi] at h
      cases h
    | some x =>
      simp only [hi] at h
      cases h
  · cases inserted with
    | false => trivial
    | true => exact ⟨onTables_ne_dangling, fun _ => trivial⟩

/-- Emptying the queues goes through no iterator. -/
theorem avoids_cleanQueues (l : List SignalOffset) :
    (cleanQueues l : InterruptProg Fn Args Unit).Avoids (· = .dangling) := by
  induction l with
  | nil => trivial
  | cons o l ih => exact ⟨onTables_ne_dangling, fun _ => ih⟩

/-- A one-shot entry is erased by its identifier. -/
theorem avoids_requeue (o : SignalOffset) (i : Int) (persist : Bool) :
    (requeue o i persist : InterruptProg Fn Args Unit).Avoids (· = .dangling) := by
  cases persist with
  | true => exact ⟨onTables_ne_dangling, fun _ => trivial⟩
  | false => exact ⟨onTables_ne_dangling, fun _ => trivial⟩

/-- The entry behind the identifier in the queue is looked up under the lock. -/
theorem avoids_handleQueue (o : SignalOffset) :
    (handleQueue o : InterruptProg Fn Args _).Avoids (· = .dangling) := by
  refine ⟨nofun, fun back => ?_⟩
  cases back with
  | none => exact ⟨onTables_ne_dangling, fun _ => trivial⟩
  | some back =>
    refine ⟨onTables_ne_dangling, fun ran => ⟨fun s e h => ?_, fun back' => ?_⟩⟩
    · cases hlast : (s.tables.signalQueues o).getLast? with
      | none =>
        simp only [hlast, Except.map] at h
        cases h
        nofun
      | some e =>
        simp only [hlast, Except.map] at h
        cases h
    · exact (avoids_requeue o back.1 back'.2).bind fun _ => ⟨onTables_ne_dangling, fun _ => trivial⟩

/-- Delivery goes through no iterator. -/
theorem avoids_handlerUpdateAndRun (signal : Int) :
    (handlerUpdateAndRun signal : InterruptProg Fn Args _).Avoids (· = .dangling) := by
  refine ⟨onTables_ne_dangling, fun o => ⟨nofun, fun available => ?_⟩⟩
  cases available with
  | false => trivial
  | true => exact (avoids_handleQueue o).bind fun _ => trivial

/-- Only updates go through iterators. -/
theorem avoids_program {op : SchedulerInterrupt.Op Fn Args} (hop : op.updates = none) :
    op.program.Avoids (· = .dangling) := by
  have hret : ∀ {β : Type} (f : β → SchedulerInterrupt.Output Fn Args) b,
      (LockProg.ret (f b) : InterruptProg Fn Args _).Avoids (· = .dangling) :=
    fun _ _ => trivial
  cases op with
  | registerFunction i f o persist =>
    exact (avoids_registerSharedHelper i _ o persist).bind (hret _)
  | registerFunctionParameters i f a o persist =>
    exact (avoids_registerSharedHelper i _ o persist).bind (hret _)
  | updateRegistration i f => cases hop
  | updateRegistrationParameters i f a => cases hop
  | updateRegistrationParametersOnly i a => cases hop
  | removeRegistration i => exact ⟨onTables_ne_dangling, fun _ => trivial⟩
  | toggleHandlerSignaling => exact ⟨onTables_ne_dangling, fun _ => trivial⟩
  | clean =>
    exact ⟨onTables_ne_dangling, fun _ => (avoids_cleanQueues offsets).bind (hret _)⟩
  | deliver signal => exact (avoids_handlerUpdateAndRun signal).bind (hret _)

/-- Every operation meets its property when what it relies on is respected. -/
theorem meets_program (op : SchedulerInterrupt.Op Fn Args) (s : InterruptShared Fn Args) :
    op.program.Meets (KeepsCarried op) (fun out steps => op.updates ≠ none → AtOnce op out steps)
      (· = .dangling) [] s := by
  cases hop : op.updates with
  | none => exact (avoids_program hop).meets (fun _ _ h => absurd rfl h) [] s
  | some i =>
    -- the three updates differ in what they write
    cases op with
    | updateRegistration j f =>
      cases hop
      refine (meets_updateThrough rfl (fun t => ?_) s).imp fun _ _ h _ => h
      rw [← SchedulerInterrupt.updateSharedParameterFree_eq]
      rfl
    | updateRegistrationParameters j f a =>
      cases hop
      refine (meets_updateThrough rfl (fun t => ?_) s).imp fun _ _ h _ => h
      exact congrArg (Except.map _) (t.updateShared_eq i f a)
    | updateRegistrationParametersOnly j a =>
      cases hop
      refine (meets_updateThrough rfl (fun t => ?_) s).imp fun _ _ h _ => h
      exact congrArg (Except.map _) (t.updateShared_eq i none a)
    | registerFunction => cases hop
    | registerFunctionParameters => cases hop
    | removeRegistration => cases hop
    | toggleHandlerSignaling => cases hop
    | clean => cases hop
    | deliver => cases hop

end InterruptProg

namespace InterruptThreads

variable [DecidableEq ι]

/-- No thread is about to go through a dangling iterator, and every update that returns has
    had its effect at one moment, with the result that it returns. -/
structure UpdatesSound (w : InterruptThreads ι Fn Args) : Prop where
  not_dangling : ∀ t, w.advance t ≠ .error (.fault .dangling)
  atOnce : ∀ t, ∀ f ∈ w.stack t, ∀ out, f.prog = .ret out → f.call.updates ≠ none →
    AtOnce f.call out f.steps

/-- The step erases no entry to which another call carries an iterator. -/
def SparesCarried (w : InterruptThreads ι Fn Args) (e : Event ι Fn Args) : Prop :=
  ∀ t out w', e = .advance t → w.advance t = .ok (out, w') →
    ∀ u, ∀ f ∈ w.disturbed t u, ∀ i, Carries f.call f.steps i → Keeps i w.shared w'.shared

/-- All calls rely on their entries, and are to meet their properties. -/
abbrev RelyOnEntries (w : InterruptThreads ι Fn Args) : Prop :=
  w.Relies KeepsCarried (fun op out steps => op.updates ≠ none → AtOnce op out steps)
    (· = .dangling)

/-- A step that meets the condition leaves the calls on their way to their properties. -/
theorem relyOnEntries_step {w w' : InterruptThreads ι Fn Args} {e : Event ι Fn Args}
    {out : Option (SchedulerInterrupt.Output Fn Args)} (hw : w.RelyOnEntries)
    (he : w.SparesCarried e) (h : step w e = .ok (out, w')) : w'.RelyOnEntries := by
  cases e with
  | call t op =>
    simp only [step] at h
    split at h
    · cases h
      exact hw.start (InterruptProg.meets_program op w.shared)
    · cases h
      exact hw
  | interrupt t signal =>
    cases h
    exact hw.start (InterruptProg.meets_program (.deliver signal) w.shared)
  | advance t =>
    have h : w.advance t = .ok (out, w') := h
    exact hw.advance (Threads.advance_eq_ok_iff.mp h) fun u f hf i hi =>
      he t out w' rfl h u f hf i hi

/-- A thread has found the entry that it updates when another one begins to register. -/
def updatesBeside : List (Event Bool Unit Unit) :=
  [.call true (.updateRegistration 1 (some ())), .advance true, .advance true, .advance true,
    .call false (.registerFunction 2 (some ()) .sigabrt true), .advance false]

/-- A registration is made, and removed after an update has found it. -/
def removedUnderUpdate : List (Event Bool Unit Unit) :=
  .call false (.registerFunction 1 (some ()) .sigabrt true) :: List.replicate 7 (.advance false) ++
    [.call true (.updateRegistration 1 (some ())), .advance true, .advance true, .advance true,
      .call false (.removeRegistration 1), .advance false, .advance false]

end InterruptThreads

end NetworkedFS
