import NetworkedFS.Spec.InterruptTables

/-!
# Agreement of the tables of the interrupt scheduler

An identifier should be in the callbacks with a signal exactly when it waits, once, for
that signal and for no other.  `removeRegistration` takes it out of the callbacks only,
and a delivery to a queue with several entries runs one of them and pops another.  These
are the two ways in which the tables come apart.

## Key results

- `Tracked.change`: every other call keeps the tables together;
- `agrees_iff`: the runs in which they agree throughout.
-/

namespace NetworkedFS

namespace SchedulerInterrupt

variable {Fn Args : Type}

/-- An identifier is registered for a signal exactly when it is queued once for it, and
    for no other signal. -/
def Agrees (s : SchedulerInterrupt Fn Args) : Prop :=
  ∀ i o, (∃ c, s.callbacks.lookup i = some (o, c)) ↔
    (s.waiting o).count i = 1 ∧ ∀ x, x ≠ o → i ∉ s.waiting x

/-- A delivery does not queue an identifier that is not registered. -/
def RequeuesRegistered (s : SchedulerInterrupt Fn Args) (op : Op Fn Args) : Prop :=
  ∀ signal out s', op = .deliver signal → s.step op = .ok (out, s') →
    ∀ i, s.callbacks.lookup i = none → ∀ x, (s'.waiting x).count i ≤ (s.waiting x).count i

/-- The condition on a call: nothing that is registered is removed, and nothing is
    delivered to a queue with several entries, unless the handler does not get past the
    callback at its back. -/
def KeepsTogether (s : SchedulerInterrupt Fn Args) : Op Fn Args → Prop
  | .removeRegistration i => s.callbacks.lookup i = none
  | .deliver signal => s.availableForOffload = true →
    (s.signalQueues (s.reverseLookup signal).1).length ≤ 1 ∨
    ∃ i persist, (s.signalQueues (s.reverseLookup signal).1).getLast? = some (i, persist) ∧
      ¬ s.Passes i
  | _ => True

/-! ## Tables that hold the same registrations -/

/-- Tables with the same registrations agree. -/
theorem Tracked.agrees {s : SchedulerInterrupt Fn Args} (hs : s.Tracked) : s.Agrees := by
  intro i o
  rw [← hs.waiting_iff o i]
  constructor
  · intro hmem
    refine ⟨List.count_eq_one_of_mem (hs.nodup o) hmem, ?_⟩
    intro x hx hmem'
    exact hx (hs.offset_unique hmem' hmem)
  · rintro ⟨hcount, -⟩
    exact List.count_pos_iff.mp (by omega)

/-- Two fields decide whether the tables agree. -/
theorem Tracked.congr {s s' : SchedulerInterrupt Fn Args} (hs : s.Tracked)
    (hqueues : s'.signalQueues = s.signalQueues) (hcallbacks : s'.callbacks = s.callbacks) :
    s'.Tracked := by
  have hwaiting : ∀ o, s'.waiting o = s.waiting o := fun o => by simp only [waiting, hqueues]
  refine ⟨fun o i => ?_, fun o => ?_⟩
  · rw [hwaiting, hcallbacks]
    exact hs.waiting_iff o i
  · rw [hwaiting]
    exact hs.nodup o

/-- A call that meets the condition keeps the registrations of the two tables the same. -/
theorem Tracked.change {s s' : SchedulerInterrupt Fn Args} (hs : s.Tracked) {op : Op Fn Args}
    (hop : s.KeepsTogether op) (h : Change s s' op) : s'.Tracked := by
  cases h with
  | same hsame => exact hs.congr hsame.queues hsame.callbacks
  | register _ h => exact hs.registered h
  | @update _ o i c c' hi h =>
    subst h
    refine ⟨fun x j => ?_, hs.nodup⟩
    -- the callback is another one, but its signal is the same
    rw [show (s.assignCallback i o c').callbacks = s.callbacks.insert i (o, c') from rfl,
      UMap.lookup_insert_eq_ite]
    rw [show (s.assignCallback i o c').waiting x = s.waiting x from rfl, hs.waiting_iff x j]
    split
    · next hj =>
      rw [hj, hi]
      simp
    · rfl
  | remove hi h => exact absurd hop hi
  | toggle h => exact hs.congr (by rw [h]; rfl) (by rw [h]; rfl)
  | clean h =>
    subst h
    refine ⟨fun x j => ?_, fun _ => List.nodup_nil⟩
    simp [waiting, SchedulerInterrupt.clean]
  | @deliver signal i persist hoffload hlast hpasses h =>
    rcases hop hoffload with hlen | ⟨j, p, hlast', hnot⟩
    · -- the entry at the back is the only one
      cases hq : s.signalQueues (s.reverseLookup signal).1 with
      | nil =>
        rw [hq] at hlast
        cases hlast
      | cons e entries =>
        rw [hq] at hlast hlen
        rw [List.length_cons] at hlen
        have hnil : entries = [] := List.length_eq_zero_iff.mp (by omega)
        rw [hnil] at hlast hq
        cases hlast
        exact hs.delivered hq h
    · rw [hlast] at hlast'
      cases hlast'
      exact absurd hpasses hnot

/-- In tracked tables a delivery queues nothing that is not registered. -/
theorem Tracked.requeuesRegistered {s : SchedulerInterrupt Fn Args} (hs : s.Tracked)
    (op : Op Fn Args) : s.RequeuesRegistered op := by
  rintro signal out s' rfl hok i hi x
  -- an identifier without a callback waits nowhere
  have hnot : ∀ o, i ∉ s.waiting o := by
    intro o hmem
    obtain ⟨c, hc⟩ := (hs.waiting_iff o i).mp hmem
    rw [hi] at hc
    cases hc
  cases step_change hok with
  | same hsame => simp only [waiting, hsame.queues, Nat.le_refl]
  | register hop => cases hop
  | @update _ o j c c' hj h =>
    rw [h]
    exact Nat.le_refl _
  | @deliver _ j persist hoffload hlast hpasses h =>
    have hzero : i ∉ s'.waiting x := fun hwaits => hnot x (h.mem_waiting hlast hwaits)
    rw [List.count_eq_zero.mpr hzero]
    exact Nat.zero_le _

/-! ## Calls that take the tables apart -/

/-- A registration that is removed stays queued. -/
theorem Tracked.not_agrees_of_remove {s s' : SchedulerInterrupt Fn Args} (hs : s.Tracked) {i : Int}
    (hi : s.callbacks.lookup i ≠ none)
    (h : s' = { s with callbacks := s.callbacks.erase i }) : ¬ s'.Agrees := by
  intro hagrees
  obtain ⟨⟨o, c⟩, hc⟩ := Option.ne_none_iff_exists'.mp hi
  -- the queues still hold it, exactly once
  have hqueued := (hs.agrees i o).mp ⟨c, hc⟩
  subst h
  obtain ⟨c', hc'⟩ := (hagrees i o).mpr hqueued
  rw [Finmap.lookup_erase] at hc'
  cases hc'

/-- A delivery to a queue with several entries drops the one at the front, whose callback
    stays. -/
theorem Tracked.not_agrees_of_deliver {s s' : SchedulerInterrupt Fn Args} (hs : s.Tracked)
    {o : SignalOffset} {j : Int} {p : Bool}
    (hlast : (s.signalQueues o).getLast? = some (j, p)) (h : s.Delivered o j p s')
    (hlen : ¬ (s.signalQueues o).length ≤ 1) : ¬ s'.Agrees := by
  intro hagrees
  match hq : s.signalQueues o with
  | [] =>
    rw [hq] at hlen
    simp at hlen
  | [_] =>
    rw [hq] at hlen
    simp at hlen
  | (i, pi) :: y :: rest =>
    obtain ⟨hij, hdropped⟩ := hs.front_dropped hq hlast h
    have hwaits : i ∈ s.waiting o := by simp [waiting, hq]
    obtain ⟨c, hc⟩ := (hs.waiting_iff o i).mp hwaits
    have hqueued := (hagrees i o).mp ⟨c, by rw [h.lookup_of_ne hij, hc]⟩
    have hcount := List.count_eq_zero.mpr hdropped
    omega

/-- From tracked tables a call that returns leads to tables that agree exactly when it
    meets the condition. -/
theorem Tracked.law_iff {s : SchedulerInterrupt Fn Args} (hs : s.Tracked) (op : Op Fn Args) :
    ((∀ out s', s.step op = .ok (out, s') → s'.Agrees) ∧ s.RequeuesRegistered op) ↔
      s.KeepsTogether op := by
  constructor
  · rintro ⟨hlaw, -⟩
    cases op with
    | removeRegistration i =>
      by_contra hi
      have hstep : s.step (.removeRegistration i) =
          .ok (.result true, { s with callbacks := s.callbacks.erase i }) := by
        obtain ⟨x, hx⟩ := Option.ne_none_iff_exists'.mp hi
        simp only [step, removeRegistration, hx]
      exact hs.not_agrees_of_remove hi rfl (hlaw _ _ hstep)
    | deliver signal =>
      intro hoffload
      by_contra hnot
      rw [not_or] at hnot
      obtain ⟨hlen, hpasses⟩ := hnot
      have hne : s.signalQueues (s.reverseLookup signal).1 ≠ [] := by
        intro hempty
        rw [hempty] at hlen
        exact hlen (Nat.zero_le 1)
      obtain ⟨⟨i, p⟩, hlast⟩ := Option.isSome_iff_exists.mp (List.getLast?_isSome.mpr hne)
      -- the handler gets past the back, so the delivery returns
      have hpass : s.Passes i := by
        by_contra hnot
        exact hpasses ⟨i, p, hlast, hnot⟩
      obtain ⟨ran, s', hok⟩ := handlerUpdateAndRun_returns hoffload hlast hpass
      have hagrees := hlaw (.delivered ran) s' (by simp only [step, hok, Except.map])
      rcases handlerUpdateAndRun_eq_ok hok with ⟨hoff, -⟩ | ⟨-, j, q, hlast', -, -, hdelivered⟩
      · rw [hoffload] at hoff
        cases hoff
      · exact hs.not_agrees_of_deliver hlast' hdelivered hlen hagrees
    | _ => exact trivial
  · intro hcond
    exact ⟨fun out s' hok => (hs.change hcond (step_change hok)).agrees, hs.requeuesRegistered op⟩

/-! ## Runs -/

/-- Empty tables agree. -/
theorem tracked_initial : (initial : SchedulerInterrupt Fn Args).Tracked :=
  consistent_initial.tracked

/-- Along a run from empty tables the two tables agree, and deliveries queue registered
    identifiers only, exactly when no registration is removed and no delivery gets past
    the callback at the back of a queue with several entries. -/
theorem agrees_iff (ops : List (Op Fn Args)) :
    ((∀ s ∈ StepRun.visited step (initial : SchedulerInterrupt Fn Args) ops, s.Agrees) ∧
      ∀ c ∈ StepRun.calls step (initial : SchedulerInterrupt Fn Args) ops,
        c.1.RequeuesRegistered c.2) ↔
    ∀ c ∈ StepRun.calls step (initial : SchedulerInterrupt Fn Args) ops,
      c.1.KeepsTogether c.2 := by
  rw [StepRun.forall_visited_iff, and_iff_right tracked_initial.agrees, ← forall₂_and]
  exact StepRun.forall_calls_iff (fun s op hs => hs.law_iff op)
    (fun s op out s' hs hcond hok => hs.change hcond (step_change hok)) tracked_initial ops

/-- An identifier that is removed is still queued. -/
theorem removed_identifier_stays_queued :
    ¬ ∀ ops : List (Op Unit Unit),
      (∀ s ∈ StepRun.visited step (initial : SchedulerInterrupt Unit Unit) ops, s.Agrees) ∧
      ∀ c ∈ StepRun.calls step (initial : SchedulerInterrupt Unit Unit) ops,
        c.1.RequeuesRegistered c.2 := by
  intro hall
  let ops : List (Op Unit Unit) :=
    [.registerFunction 1 (some ()) .sigusr1 true, .removeRegistration 1]
  have hagrees := (hall ops).1 _ (StepRun.final_mem_visited _ ops)
  have hqueued : ∀ x : SignalOffset, x ≠ .sigusr1 →
      1 ∉ (StepRun.final step initial ops).waiting x :=
    fun x hx => by cases x <;> first | exact absurd rfl hx | decide
  obtain ⟨c, hc⟩ := (hagrees 1 .sigusr1).mpr ⟨by decide, hqueued⟩
  have hnone : (StepRun.final step initial ops).callbacks.lookup 1 = none := by decide
  rw [hnone] at hc
  cases hc

end SchedulerInterrupt

end NetworkedFS
