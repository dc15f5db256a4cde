import NetworkedFS.Spec.InterruptTables

/-!
# The routing of signals

A delivery looks its queue up by the number of the signal, in a table without an entry
for `SIGINT`, and finds the callback to run by the identifier that the queue's last entry
names.  So it can go to the queue of `SIGABRT`, and it can run a callback that was
registered for another signal after an entry of the same identifier was left behind.

## Key results

- `routed_iff_wellAimed`: the runs after which every signal is routed to its own queue
  and callbacks;
- `routed_of_registersFresh`: registrations that lead to such runs.
-/

namespace NetworkedFS

namespace SchedulerInterrupt

variable {Fn Args : Type}

/-- Delivering the signal changes no queue but its own, and runs no callback but one that
    is registered for it. -/
def Routed (s : SchedulerInterrupt Fn Args) (signalType : SignalOffset) : Prop :=
  ∀ ran s', s.handlerUpdateAndRun signalType.signalValue = .ok (ran, s') →
    (∀ o, o ≠ signalType → s'.signalQueues o = s.signalQueues o) ∧
    ∀ d, ran = some d → ∃ c, s.callbacks.lookup d.identifier = some (signalType, c)

/-- The condition on the entry at the back of the queue that the signal goes to, if the
    handler gets past its callback: it is not registered for another signal, and for
    `SIGINT` the queue, which is that of `SIGABRT`, repeats one persistent entry. -/
def WellAimed (s : SchedulerInterrupt Fn Args) (signalType : SignalOffset) : Prop :=
  s.availableForOffload = true → ∀ i persist,
    (s.signalQueues (served signalType)).getLast? = some (i, persist) → s.Passes i →
    (∀ o c, s.callbacks.lookup i = some (o, c) → o = signalType) ∧
    (signalType = .sigint → ∀ e ∈ s.signalQueues .sigabrt, e = (i, true))

/-! ## Queues that a delivery leaves as they are -/

/-- Moving an entry from the front to the back changes nothing only if all entries are
    the same. -/
theorem forall_eq_of_append_singleton {β : Type} {x a : β} {l : List β}
    (h : l ++ [a] = x :: l) : ∀ e ∈ x :: l, e = a := by
  induction l generalizing x with
  | nil =>
    cases h
    simp
  | cons y l ih =>
    obtain ⟨hxy, hrest⟩ := List.cons.inj h
    intro e he
    rcases List.mem_cons.mp he with rfl | he
    · exact hxy ▸ ih hrest y List.mem_cons_self
    · exact ih hrest e he

/-- The queue after a delivery to it is the one before exactly when it repeats one
    persistent entry. -/
theorem requeued_eq_iff {q : List (Int × Bool)} {i : Int} {persist : Bool}
    (hlast : q.getLast? = some (i, persist)) :
    (if persist then q ++ [(i, true)] else q).tail = q ↔ ∀ e ∈ q, e = (i, true) := by
  cases q with
  | nil => cases hlast
  | cons x rest =>
    cases persist with
    | true =>
      constructor
      · exact forall_eq_of_append_singleton
      · intro hall
        have hrepeat := List.eq_replicate_iff.mpr ⟨rfl, hall⟩
        rw [hrepeat, List.length_cons, List.replicate_succ, if_pos rfl, List.cons_append,
          List.tail_cons, ← List.replicate_succ', List.replicate_succ]
    | false =>
      constructor
      · intro htail
        have hlength := congrArg List.length htail
        simp at hlength
      · intro hall
        -- the entry at the back would be persistent
        have hback := hall _ (List.mem_of_getLast? hlast)
        cases hback

/-! ## States -/

/-- When the numbers of the signals are looked up as in the initial table, a signal is
    routed exactly when it is well aimed. -/
theorem routed_iff {s : SchedulerInterrupt Fn Args} {signalType : SignalOffset}
    (hreverse : (s.reverseLookup signalType.signalValue).1 = served signalType) :
    s.Routed signalType ↔ s.WellAimed signalType := by
  constructor
  · intro hrouted hoffload i persist hlast hpasses
    -- an entry at the back that passes the test is served, so the call returns
    rw [← hreverse] at hlast
    obtain ⟨ran, s', hok⟩ := handlerUpdateAndRun_returns hoffload hlast hpasses
    obtain ⟨hqueues, hruns⟩ := hrouted ran s' hok
    rcases handlerUpdateAndRun_eq_ok hok with ⟨hoff, -⟩ | ⟨-, j, p, hlast', -, hran, hdelivered⟩
    · rw [hoffload] at hoff
      cases hoff
    rw [hlast] at hlast'
    cases hlast'
    refine ⟨?_, ?_⟩
    -- what was run is a function of the signal
    · intro o c hi
      cases ran with
      | none =>
        rw [show s.callbacks.lookup i = none from hran] at hi
        cases hi
      | some d =>
        obtain ⟨x, v, -, -, rfl⟩ := hran
        obtain ⟨c', hc'⟩ := hruns _ rfl
        rw [hi] at hc'
        cases hc'
        rfl
    -- and the queue that `SIGINT` takes from is as long as it was
    · rintro rfl
      have hsame := hqueues .sigabrt (by decide)
      rw [hreverse] at hdelivered hlast
      rw [hdelivered.queues, show served .sigint = .sigabrt from rfl, Function.update_self] at hsame
      exact (requeued_eq_iff hlast).mp hsame
  · intro haimed ran s' hok
    -- the entry at the back is well aimed, or nothing is served
    rcases handlerUpdateAndRun_eq_ok hok with
      ⟨-, rfl, hsame⟩ | ⟨hoffload, i, persist, hlast, hpasses, hran, hdelivered⟩
    · exact ⟨fun o _ => by rw [hsame.queues], nofun⟩
    rw [hreverse] at hlast hdelivered
    obtain ⟨hregistered, hsigint⟩ := haimed hoffload i persist hlast hpasses
    refine ⟨?_, ?_⟩
    · intro o ho
      rw [hdelivered.queues, Function.update_apply]
      split
      · next hserved =>
        -- the queue is another one than the signal's own, so the signal is `SIGINT`
        have hsig : signalType = .sigint := by
          by_contra hne
          rw [served_of_ne hne] at hserved
          exact ho hserved
        subst hsig
        rw [(requeued_eq_iff hlast).mpr (hsigint rfl), hserved]
      · rfl
    · rintro d rfl
      obtain ⟨⟨o, c⟩, v, hi, -, rfl⟩ := hran
      exact ⟨c, by rw [hi, hregistered o c hi]⟩

/-! ## Runs -/

/-- Along a run from empty tables every signal would be routed in every state exactly when
    every signal is well aimed in every state. -/
theorem routed_iff_wellAimed (ops : List (Op Fn Args)) :
    (∀ s ∈ StepRun.visited step (initial : SchedulerInterrupt Fn Args) ops,
      ∀ signalType, s.Routed signalType) ↔
    ∀ s ∈ StepRun.visited step (initial : SchedulerInterrupt Fn Args) ops,
      ∀ signalType, s.WellAimed signalType :=
  forall₂_congr fun _ hs => forall_congr' fun signalType =>
    routed_iff (reverseLookup_of_reachable (StepRun.Reachable.init.of_mem_visited hs) signalType)

/-- A callback that is registered for `SIGABRT` is run when `SIGINT` is delivered. -/
theorem sigint_runs_sigabrt :
    ¬ ∀ ops : List (Op Unit Unit), ∀ s ∈ StepRun.visited step initial ops,
      ∀ signalType, s.Routed signalType := by
  intro hall
  let s : SchedulerInterrupt Unit Unit := (initial.registerFunction 1 (some ()) .sigabrt false).2
  have hvisited : s ∈ StepRun.visited step initial [.registerFunction 1 (some ()) .sigabrt false] :=
    StepRun.final_mem_visited initial _
  have haimed := (routed_iff_wellAimed _).mp (hall _) s hvisited .sigint rfl 1 false rfl
    (fun x hx => by cases hx; exact ⟨_, rfl⟩)
  cases haimed.1 .sigabrt _ rfl

/-- A registration that succeeds is not for `SIGABRT`, and its identifier is not left over
    in the queue of another signal. -/
def RegistersFresh (s : SchedulerInterrupt Fn Args) (op : Op Fn Args) : Prop :=
  ∀ i o, op.registers = some (i, o) → s.callbacks.lookup i = none →
    o ≠ .sigabrt ∧ ∀ x, x ≠ o → i ∉ s.waiting x

/-- Nothing waits for `SIGABRT`, and what is registered waits for no other signal. -/
structure Sorted (s : SchedulerInterrupt Fn Args) : Prop where
  sigabrt : s.signalQueues .sigabrt = []
  offset_eq : ∀ i o c, s.callbacks.lookup i = some (o, c) → ∀ x, i ∈ s.waiting x → x = o

/-- In sorted tables the back of each queue belongs to the signal. -/
theorem Sorted.wellAimed {s : SchedulerInterrupt Fn Args} (hs : s.Sorted)
    (signalType : SignalOffset) : s.WellAimed signalType := by
  intro hoffload i persist hlast hpasses
  have hmem : i ∈ s.waiting (served signalType) :=
    List.mem_map.mpr ⟨_, List.mem_of_getLast? hlast, rfl⟩
  -- `SIGINT` finds the empty queue of `SIGABRT`
  have hne : signalType ≠ .sigint := by
    rintro rfl
    rw [show served .sigint = .sigabrt from rfl, hs.sigabrt] at hlast
    cases hlast
  rw [served_of_ne hne] at hmem
  exact ⟨fun o c hi => (hs.offset_eq i o c hi signalType hmem).symm, fun h => absurd h hne⟩

/-- Fresh registrations keep the tables sorted. -/
theorem Sorted.change {s s' : SchedulerInterrupt Fn Args} (hs : s.Sorted) {op : Op Fn Args}
    (hop : s.RegistersFresh op) (h : Change s s' op) : s'.Sorted := by
  cases h with
  | same hsame =>
    refine ⟨by rw [hsame.queues, hs.sigabrt], fun i o c hi x hx => ?_⟩
    rw [hsame.callbacks] at hi
    rw [waiting, hsame.queues] at hx
    exact hs.offset_eq i o c hi x hx
  | @register _ o i persist c hregisters h =>
    -- a fresh identifier waits for no other signal yet
    obtain ⟨ho, hother⟩ := hop i o hregisters h.free
    refine ⟨by rw [h.queues, Function.update_of_ne ho.symm, hs.sigabrt], fun j x c' hj y hy => ?_⟩
    rw [waiting, h.queues, Function.update_apply] at hy
    rw [h.callbacks, UMap.lookup_insert_eq_ite] at hj
    split at hj
    · next hji =>
      -- the new identifier waits for `o` only
      cases hj
      by_contra hyo
      rw [if_neg hyo, hji] at hy
      exact hother y hyo hy
    · next hji =>
      split at hy
      · next hyo =>
        rw [List.map_append, List.mem_append] at hy
        -- in the queue of its own signal the new entry is the last one
        rcases hy with hold | hnew
        · exact hs.offset_eq j x c' hj y (hyo ▸ hold)
        · exact absurd (List.mem_singleton.mp hnew) hji
      · exact hs.offset_eq j x c' hj y hy
  | @update _ o i c c' hi h =>
    subst h
    -- an update keeps the signal of the identifier
    refine ⟨hs.sigabrt, fun j x d hj y hy => ?_⟩
    rw [show (s.assignCallback i o c').callbacks = s.callbacks.insert i (o, c') from rfl,
      UMap.lookup_insert_eq_ite] at hj
    split at hj
    · next hji =>
      cases hj
      exact hs.offset_eq i o c hi y (hji ▸ hy)
    · exact hs.offset_eq j x d hj y hy
  | remove hi h =>
    subst h
    -- fewer identifiers have to be at their place
    refine ⟨hs.sigabrt, fun j x d hj y hy => ?_⟩
    rw [UMap.lookup_erase_eq_ite] at hj
    split at hj
    · cases hj
    · exact hs.offset_eq j x d hj y hy
  | toggle h =>
    subst h
    exact ⟨hs.sigabrt, hs.offset_eq⟩
  | clean h =>
    subst h
    exact ⟨rfl, fun i o c hi => by simp [SchedulerInterrupt.clean] at hi⟩
  | @deliver signal i persist hoffload hlast hpasses h =>
    refine ⟨?_, fun j x c hj y hy => ?_⟩
    -- the queue of `SIGABRT` is empty, so another one was served
    · rw [h.queues, Function.update_apply]
      split
      · next ho =>
        rw [← ho, hs.sigabrt] at hlast
        cases hlast
      · exact hs.sigabrt
    -- what still waits did so before
    · refine hs.offset_eq j x c ?_ y (h.mem_waiting hlast hy)
      rw [h.callbacks] at hj
      split at hj
      · exact hj
      · rw [UMap.lookup_erase_eq_ite] at hj
        split at hj
        · cases hj
        · exact hj

/-- Along a run whose registrations are all fresh every signal is routed in every state. -/
theorem routed_of_registersFresh (ops : List (Op Fn Args))
    (hops : ∀ c ∈ StepRun.calls step (initial : SchedulerInterrupt Fn Args) ops,
      c.1.RegistersFresh c.2) :
    ∀ s ∈ StepRun.visited step (initial : SchedulerInterrupt Fn Args) ops,
      ∀ signalType, s.Routed signalType := by
  have hsorted : (initial : SchedulerInterrupt Fn Args).Sorted :=
    ⟨rfl, fun i o c hi => by cases hi⟩
  have hall := StepRun.forall_visited_of_calls
    (fun s op _ s' hs hop hok => hs.change hop (step_change hok)) hsorted ops hops
  rw [routed_iff_wellAimed]
  exact fun s hs signalType => (hall s hs).wellAimed signalType

end SchedulerInterrupt

end NetworkedFS
