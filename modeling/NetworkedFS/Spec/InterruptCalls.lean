import NetworkedFS.Native.InterruptThreads
import NetworkedFS.Spec.InterruptTables

/-!
# The programs of the interrupt scheduler's operations

Each operation was given twice: as a function on the tables, and as a program of actions
with locks in between.  Both do the same when no other thread acts in between.

## Key results

- `program_run`: a program that nobody disturbs does what its operation does.
-/

namespace NetworkedFS

open LockProg InterruptShared

variable {Fn Args β γ : Type}

namespace SchedulerInterrupt

/-- An update, whatever it writes. -/
def updateWith (s : SchedulerInterrupt Fn Args) (i : Int)
    (write : HandlerCallback Fn Args → Except Fault (HandlerCallback Fn Args)) :
    Except Fault (Bool × SchedulerInterrupt Fn Args) :=
  match s.callbacks.lookup i with
  | some (o, c) => (write c).map fun c => (true, s.assignCallback i o c)
  | none => .ok (false, s)

/-- An update with parameters writes a function, if there is one, and the parameters. -/
theorem updateShared_eq (s : SchedulerInterrupt Fn Args) (i : Int) (f : Option Fn) (a : Args) :
    s.updateShared i f a = s.updateWith i (InterruptProg.writeShared f a) := by
  unfold updateShared updateSharedHelper updateWith
  cases s.callbacks.lookup i with
  | none => rfl
  | some x =>
    cases f with
    | none =>
      show (x.2.setParameters a >>= _) = (x.2.setParameters a).map _
      cases x.2.setParameters a <;> rfl
    | some g => rfl

/-- An update without parameters always writes, and cannot fail. -/
theorem updateSharedParameterFree_eq (s : SchedulerInterrupt Fn Args) (i : Int) (f : Option Fn) :
    .ok (s.updateSharedParameterFree i f) =
      s.updateWith i fun c => .ok (c.setBoundOrFreeFunction (.ofPointer f)) := by
  unfold updateSharedParameterFree updateSharedHelper updateWith
  cases s.callbacks.lookup i <;> rfl

end SchedulerInterrupt

namespace InterruptProg

/-- The program, run without disturbance, gives the result and the tables. -/
def Does (p : InterruptProg Fn Args β) (s : InterruptShared Fn Args)
    (x : Except Fault (β × SchedulerInterrupt Fn Args)) : Prop :=
  (p.run s).map (fun r => (r.1, r.2.tables)) = x.mapError .fault

/-- Programs in a row. -/
theorem Does.bind {p : InterruptProg Fn Args β} {k : β → InterruptProg Fn Args γ}
    {s : InterruptShared Fn Args} {x : Except Fault (β × SchedulerInterrupt Fn Args)}
    {y : β → SchedulerInterrupt Fn Args → Except Fault (γ × SchedulerInterrupt Fn Args)}
    (hp : p.Does s x) (hk : ∀ b s', (k b).Does s' (y b s'.tables)) :
    (p >>= k).Does s (x >>= fun r => y r.1 r.2) := by
  unfold Does at hp ⊢
  rw [run_bind]
  cases hrun : p.run s with
  | error e =>
    rw [hrun] at hp
    cases x with
    | error e' =>
      cases hp
      rfl
    | ok r => cases hp
  | ok r =>
    rw [hrun] at hp
    cases x with
    | error e' => cases hp
    | ok r' =>
      cases hp
      exact hk r.1 r.2

/-- A program whose result is changed. -/
theorem Does.map {p : InterruptProg Fn Args β} {s : InterruptShared Fn Args}
    {x : Except Fault (β × SchedulerInterrupt Fn Args)} (h : p.Does s x) (f : β → γ) :
    (f <$> p).Does s (x.map fun r => (f r.1, r.2)) := by
  have hbind := h.bind (k := fun b => .ret (f b)) (y := fun b t => .ok (f b, t)) fun _ _ => rfl
  cases x <;> exact hbind

/-- A registration: the entry and, when it is new, its place in the queue. -/
theorem registerSharedHelper_does (i : Int) (c : HandlerCallback Fn Args) (o : SignalOffset)
    (persist : Bool) (s : InterruptShared Fn Args) :
    (registerSharedHelper i c o persist).Does s
      (.ok (s.tables.registerSharedHelper i c o persist)) := by
  unfold Does registerSharedHelper SchedulerInterrupt.registerSharedHelper
  simp only [lockMutex_bind, atomic_bind, unlockMutex_bind, run, emplace]
  cases s.tables.callbacks.lookup i with
  | some x => rfl
  | none => rfl

/-- The iterator that is found leads to the entry. -/
theorem deref_find {i : Int} {x : SignalOffset × HandlerCallback Fn Args}
    {s : InterruptShared Fn Args} (h : s.tables.callbacks.lookup i = some x) :
    s.deref ⟨i, s.generation i, x.1⟩ = .ok x := by
  unfold deref find SchedulerInterrupt.updateSharedHelper
  simp only [h, Option.map_some, if_true]

/-- The search for an entry is one read. -/
theorem updateSharedHelper_run (i : Int) (s : InterruptShared Fn Args) :
    (updateSharedHelper i).run s = .ok (s.find i, s) := rfl

/-- The iterator to an entry that is there. -/
theorem find_eq_some {i : Int} {x : SignalOffset × HandlerCallback Fn Args}
    {s : InterruptShared Fn Args} (h : s.tables.callbacks.lookup i = some x) :
    s.find i = some ⟨i, s.generation i, x.1⟩ := by
  unfold find SchedulerInterrupt.updateSharedHelper
  rw [h, Option.map_some]

/-- Nothing moves between the search and the write, so the iterator is valid. -/
theorem updateThrough_does (i : Int)
    (write : HandlerCallback Fn Args → Except Fault (HandlerCallback Fn Args))
    (s : InterruptShared Fn Args) :
    (updateThrough i write).Does s (s.tables.updateWith i write) := by
  unfold Does updateThrough SchedulerInterrupt.updateWith
  rw [run_bind, updateSharedHelper_run]
  cases hi : s.tables.callbacks.lookup i with
  | none =>
    have hfind : s.find i = none := by simp [find, SchedulerInterrupt.updateSharedHelper, hi]
    rw [hfind]
    rfl
  | some x =>
    obtain ⟨o, c⟩ := x
    rw [find_eq_some hi]
    show ((LockProg.read (deref ⟨i, s.generation i, o⟩) >>= _).run s).map _ = _
    simp only [LockProg.read_bind, lockMutex_bind, atomic_bind, unlockMutex_bind, run,
      deref_find hi, Except.map, assign]
    cases hwrite : write c with
    | error e => rfl
    | ok c' =>
      have hi' : (s.tables.assignCallback i o c').callbacks.lookup i = some (o, c') := by
        simp [SchedulerInterrupt.assignCallback]
      have hderef := deref_find (s := { s with tables := s.tables.assignCallback i o c' }) hi'
      simp only at hderef
      simp only [hderef]
      rfl

/-- An update with parameters. -/
theorem updateShared_does (i : Int) (f : Option Fn) (a : Args) (s : InterruptShared Fn Args) :
    (updateShared i f a).Does s (s.tables.updateShared i f a) :=
  s.tables.updateShared_eq i f a ▸ updateThrough_does i _ s

/-- An update without parameters. -/
theorem updateSharedParameterFree_does (i : Int) (f : Option Fn) (s : InterruptShared Fn Args) :
    (updateSharedParameterFree i f).Does s (.ok (s.tables.updateSharedParameterFree i f)) :=
  s.tables.updateSharedParameterFree_eq i f ▸ updateThrough_does i _ s

/-- A removal is one action. -/
theorem removeRegistration_does (i : Int) (s : InterruptShared Fn Args) :
    (removeRegistration i).Does s (.ok (s.tables.removeRegistration i)) := rfl

/-- The queues are emptied one after the other. -/
theorem cleanQueues_run (l : List SignalOffset) (s : InterruptShared Fn Args) :
    (cleanQueues l).run s = .ok ((), { s with
      tables := { s.tables with
        signalQueues := l.foldl (fun q o => Function.update q o []) s.tables.signalQueues } }) := by
  induction l generalizing s with
  | nil => rfl
  | cons o l ih => exact ih _

/-- In the end all queues are empty. -/
theorem clean_does (s : InterruptShared Fn Args) : clean.Does s (.ok ((), s.tables.clean)) := by
  unfold Does clean
  simp only [lockMutex_bind, atomic_bind, unlockMutex_bind, run, onTables, cleanQueues_run]
  have hall : offsets.foldl (fun q o => Function.update q o []) s.tables.signalQueues =
      fun _ => [] := by
    funext o
    cases o <;> rfl
  simp only [hall]
  rfl

/-- The part of the delivery under the queue's mutex. -/
theorem handleQueue_does (o : SignalOffset) (s : InterruptShared Fn Args) :
    (handleQueue o).Does s (match (s.tables.signalQueues o).getLast? with
      | some (i, persist) => do
        let (ran, t) ← s.tables.runCallback i persist
        let t :=
          if persist then t.setQueue o (t.signalQueues o ++ [(i, true)])
          else { t with callbacks := t.callbacks.erase i }
        return (ran, t.setQueue o (t.signalQueues o).tail)
      | none => (s.tables.report .queueIsEmpty).map fun t => (none, t)) := by
  unfold Does handleQueue
  simp only [LockProg.read_bind, run, Except.map]
  cases hlast : (s.tables.signalQueues o).getLast? with
  | none =>
    simp only [atomic, run, onTables]
    cases (s.tables.report .queueIsEmpty) with
    | error e => rfl
    | ok t => rfl
  | some e =>
    obtain ⟨i, persist⟩ := e
    simp only [lockMutex_bind, atomic_bind, unlockMutex_bind, run, onTables]
    cases hrun : s.tables.runCallback i persist with
    | error e => rfl
    | ok r =>
      obtain ⟨ran, t⟩ := r
      obtain ⟨-, -, d, rfl⟩ := SchedulerInterrupt.runCallback_eq_ok hrun
      -- the callback leaves the queue alone, so its back is the same
      simp only [hlast]
      rw [run_bind]
      cases persist with
      | true => rfl
      | false => rfl

/-- A delivery: the signal's queue, if the handler is available for it. -/
theorem handlerUpdateAndRun_does (signal : Int) (s : InterruptShared Fn Args) :
    (handlerUpdateAndRun signal).Does s (s.tables.handlerUpdateAndRun signal) := by
  unfold Does handlerUpdateAndRun SchedulerInterrupt.handlerUpdateAndRun
  simp only [atomic_bind, LockProg.read_bind, run, onTables, Except.map]
  generalize s.tables.reverseLookup signal = r
  obtain ⟨o, t⟩ := r
  cases t.availableForOffload with
  | false => rfl
  | true =>
    have hqueue := (handleQueue_does o { s with tables := t }).bind
      (k := fun ran => .unlock (.queue o) (.ret ran)) (y := fun ran t => .ok (ran, t))
      fun _ _ => rfl
    refine hqueue.trans ?_
    simp only [if_true]
    cases (t.signalQueues o).getLast? with
    | none => cases t.report .queueIsEmpty <;> rfl
    | some e =>
      simp only
      cases t.runCallback e.1 e.2 <;> rfl

/-- A program that nobody disturbs does what its operation does. -/
theorem program_run (op : SchedulerInterrupt.Op Fn Args) (s : InterruptShared Fn Args) :
    op.program.Does s (s.tables.step op) := by
  cases op with
  | registerFunction i f o persist => exact (registerSharedHelper_does i _ o persist s).map _
  | registerFunctionParameters i f a o persist =>
    exact (registerSharedHelper_does i _ o persist s).map _
  | updateRegistration i f => exact (updateSharedParameterFree_does i f s).map _
  | updateRegistrationParameters i f a => exact (updateShared_does i f a s).map _
  | updateRegistrationParametersOnly i a => exact (updateShared_does i none a s).map _
  | removeRegistration i => exact (removeRegistration_does i s).map _
  | toggleHandlerSignaling => rfl
  | clean => exact (clean_does s).map _
  | deliver signal => exact (handlerUpdateAndRun_does signal s).map _

end InterruptProg

end NetworkedFS
