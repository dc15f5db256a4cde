import NetworkedFS.ForStd.Except
import NetworkedFS.ForStd.StepRun
import NetworkedFS.Native.Interrupt

/-!
# The order of deliveries of the interrupt scheduler

`handlerUpdateAndRun` runs the callback at the back of a queue and pops the front.
The two agree as long as the queue has one entry.  This file states what a delivery
should do (`Lawful`) and determines the runs of registrations and deliveries in which
every call is lawful.

## Key results

- `Consistent.handler_eq`: what a delivery does to consistent tables;
- `Consistent.lawful_iff`: when a call is lawful;
- `runsInOrder_iff`: when a whole run is lawful and runs every one-shot registration once.
-/

namespace NetworkedFS

namespace SchedulerInterrupt

variable {Fn Args : Type}

/-- Registrations of functions, with or without arguments, and deliveries. -/
inductive Traffic (Fn Args : Type) where
  | register (identifier : Int) (function : Fn) (args : Option Args) (signalType : SignalOffset)
      (persist : Bool)
  | deliver (signalType : SignalOffset)

/-- The operation that each kind of traffic stands for. -/
def Traffic.op : Traffic Fn Args → Op Fn Args
  | .register i f none signalType persist => .registerFunction i (some f) signalType persist
  | .register i f (some a) signalType persist =>
    .registerFunctionParameters i (some f) a signalType persist
  | .deliver signalType => .deliver signalType.signalValue

/-- One step of a run of registrations and deliveries. -/
def traffic (s : SchedulerInterrupt Fn Args) (t : Traffic Fn Args) :
    Except Fault (Output Fn Args × SchedulerInterrupt Fn Args) :=
  s.step t.op

/-- The identifiers in a signal's queue. -/
def waiting (s : SchedulerInterrupt Fn Args) (offset : SignalOffset) : List Int :=
  (s.signalQueues offset).map Prod.fst

/-! ## The law of deliveries -/

/-- Delivering a signal with a non-empty queue runs the callback at its front, which
    then leaves the tables, or goes to the end of the queue if it is to persist. -/
def ServesFront (s : SchedulerInterrupt Fn Args) (signalType : SignalOffset) : Prop :=
  ∀ i persist rest, s.signalQueues signalType = (i, persist) :: rest → ∃ c v s',
    s.callbacks.lookup i = some (signalType, c) ∧ c.run = .ok v ∧
    s.traffic (.deliver signalType) = .ok (.delivered (some ⟨i, persist, v⟩), s') ∧
    s'.signalQueues = Function.update s.signalQueues signalType
      (rest ++ if persist then [(i, true)] else []) ∧
    s'.callbacks = if persist then s.callbacks else s.callbacks.erase i

/-- An identifier is registered and waits in the queue of its signal. -/
def Waits (s : SchedulerInterrupt Fn Args) (i : Int) : Prop :=
  ∃ offset c, s.callbacks.lookup i = some (offset, c) ∧ i ∈ s.waiting offset

/-- What a call has to do: a delivery serves the front, no waiting callback is dropped
    without being run, and a one-shot callback that is run is unregistered. -/
structure Lawful (s : SchedulerInterrupt Fn Args) (t : Traffic Fn Args) : Prop where
  front : ∀ signalType, t = .deliver signalType → s.ServesFront signalType
  kept : ∀ o s', s.traffic t = .ok (o, s') → ∀ i, s.Waits i →
    s'.Waits i ∨ ∃ persist v, o = .delivered (some ⟨i, persist, v⟩)
  ended : ∀ s' i v, s.traffic t = .ok (.delivered (some ⟨i, false, v⟩), s') →
    s'.callbacks.lookup i = none ∧ ∀ offset, i ∉ s'.waiting offset

/-- The queue that a delivery of the signal goes to. -/
def served : SignalOffset → SignalOffset
  | .sigint => .sigabrt
  | signalType => signalType

/-- The condition on a delivery: at most one callback waits in the queue it goes to, and
    if that is not the signal's own queue, none waits there. -/
def Deliverable (s : SchedulerInterrupt Fn Args) : Traffic Fn Args → Prop
  | .register .. => True
  | .deliver signalType => (s.signalQueues (served signalType)).length ≤ 1 ∧
      (signalType = .sigint → s.signalQueues .sigint = [])

theorem served_of_ne {signalType : SignalOffset} (h : signalType ≠ .sigint) :
    served signalType = signalType := by
  cases signalType <;> first | rfl | exact absurd rfl h

/-! ## Consistent tables -/

/-- The two tables hold the same registrations: an identifier is queued, once, for exactly
    the signal it is registered for. -/
structure Tracked (s : SchedulerInterrupt Fn Args) : Prop where
  waiting_iff : ∀ offset i, i ∈ s.waiting offset ↔ ∃ c, s.callbacks.lookup i = some (offset, c)
  nodup : ∀ offset, (s.waiting offset).Nodup

/-- The tables between two calls: an identifier is queued, once, for exactly the signal
    it is registered for, and every registered callback can be called. -/
structure Consistent (s : SchedulerInterrupt Fn Args) : Prop where
  offload : s.availableForOffload = true
  reverse : ∀ signalType, (s.reverseLookup signalType.signalValue).1 = served signalType
  waiting_iff : ∀ offset i, i ∈ s.waiting offset ↔ ∃ c, s.callbacks.lookup i = some (offset, c)
  nodup : ∀ offset, (s.waiting offset).Nodup
  callable : ∀ i x, s.callbacks.lookup i = some x → ∃ v, x.2.run = .ok v

/-- The empty tables are consistent. -/
theorem consistent_initial : (initial : SchedulerInterrupt Fn Args).Consistent where
  offload := rfl
  reverse signalType := by
    -- the initial table has every signal but `sigint`, whose default is `sigabrt`
    have hlookup : ∀ x : SignalOffset,
        (initialReverseLookup.lookup x.signalValue).getD .sigabrt = served x := by
      intro x
      cases x <;> decide
    rw [← hlookup signalType]
    simp only [reverseLookup, initial]
    cases initialReverseLookup.lookup signalType.signalValue <;> rfl
  waiting_iff offset i := by
    simp [waiting, initial]
  nodup _ := List.nodup_nil
  callable i x hx := by
    simp [initial] at hx

theorem Consistent.tracked {s : SchedulerInterrupt Fn Args} (hs : s.Consistent) : s.Tracked :=
  ⟨hs.waiting_iff, hs.nodup⟩

/-- An identifier waits in one queue only. -/
theorem Tracked.offset_unique {s : SchedulerInterrupt Fn Args} (hs : s.Tracked) {i : Int}
    {o o' : SignalOffset} (h : i ∈ s.waiting o) (h' : i ∈ s.waiting o') : o = o' := by
  obtain ⟨c, hc⟩ := (hs.waiting_iff o i).mp h
  obtain ⟨c', hc'⟩ := (hs.waiting_iff o' i).mp h'
  rw [hc] at hc'
  cases hc'
  rfl

/-- Reading the reverse lookup changes no other part of the state, and no later
    reading. -/
theorem reverseLookup_snd (s : SchedulerInterrupt Fn Args) (signal : Int) :
    ∃ lookup, (s.reverseLookup signal).2 = { s with signalValueReverseLookup := lookup } ∧
      ∀ t : SchedulerInterrupt Fn Args, t.signalValueReverseLookup = lookup →
        ∀ x, (t.reverseLookup x).1 = (s.reverseLookup x).1 := by
  cases hlookup : s.signalValueReverseLookup.lookup signal with
  | some offset =>
    refine ⟨s.signalValueReverseLookup, by simp only [reverseLookup, hlookup], ?_⟩
    intro t ht x
    simp only [reverseLookup, ht]
    cases s.signalValueReverseLookup.lookup x <;> rfl
  | none =>
    refine ⟨s.signalValueReverseLookup.insert signal .sigabrt,
      by simp only [reverseLookup, hlookup], ?_⟩
    intro t ht x
    simp only [reverseLookup, ht, UMap.lookup_insert_eq_ite]
    by_cases hx : x = signal
    · -- the missing key now reads as the default it was inserted with
      subst hx
      simp only [if_true, hlookup]
    · simp only [hx, if_false]
      cases s.signalValueReverseLookup.lookup x <;> rfl

/-- A delivery's effect on the tables, when the entry at the back of queue `o` is
    `(i, persist)`. -/
structure Delivered (s : SchedulerInterrupt Fn Args) (o : SignalOffset) (i : Int) (persist : Bool)
    (s' : SchedulerInterrupt Fn Args) : Prop where
  queues : s'.signalQueues = Function.update s.signalQueues o
    (if persist then s.signalQueues o ++ [(i, true)] else s.signalQueues o).tail
  callbacks : s'.callbacks = if persist then s.callbacks else s.callbacks.erase i
  offload : s'.availableForOffload = s.availableForOffload
  reverse : ∀ x, (s'.reverseLookup x).1 = (s.reverseLookup x).1

/-- The tables after a delivery, from those after its callback was run. -/
def requeue (s : SchedulerInterrupt Fn Args) (o : SignalOffset) (i : Int)
    (persist : Bool) : SchedulerInterrupt Fn Args :=
  let s :=
    if persist then s.setQueue o (s.signalQueues o ++ [(i, true)])
    else { s with callbacks := s.callbacks.erase i }
  s.setQueue o (s.signalQueues o).tail

/-- A delivery to a queue that is not empty, from what its callback did. -/
theorem handler_of_last {s s₁ s₂ : SchedulerInterrupt Fn Args} {signal : Int}
    {o : SignalOffset} {i : Int} {persist : Bool} {ran : Option (Delivery Fn Args)}
    (hpair : s.reverseLookup signal = (o, s₁)) (hoffload : s₁.availableForOffload = true)
    (hlast : (s₁.signalQueues o).getLast? = some (i, persist))
    (hrun : s₁.runCallback i persist = .ok (ran, s₂)) :
    s.handlerUpdateAndRun signal = .ok (ran, s₂.requeue o i persist) := by
  simp only [handlerUpdateAndRun, hpair, hoffload, if_true, hlast, bind, Except.bind, hrun]
  rfl

/-- A delivery to an empty queue fails the assertion of `setReturnCode`. -/
theorem handler_of_empty {s s₁ : SchedulerInterrupt Fn Args} {signal : Int}
    {o : SignalOffset} (hpair : s.reverseLookup signal = (o, s₁))
    (hoffload : s₁.availableForOffload = true) (hempty : s₁.signalQueues o = []) :
    s.handlerUpdateAndRun signal = .error .assertion := by
  simp only [handlerUpdateAndRun, hpair, hoffload, if_true, hempty, List.getLast?_nil]
  rfl

/-- What reading the reverse lookup gives in consistent tables. -/
private theorem Consistent.reverseLookup_eq {s : SchedulerInterrupt Fn Args} (hs : s.Consistent)
    (signalType : SignalOffset) :
    ∃ lookup, s.reverseLookup signalType.signalValue =
        (served signalType, { s with signalValueReverseLookup := lookup }) ∧
      ∀ t : SchedulerInterrupt Fn Args, t.signalValueReverseLookup = lookup →
        ∀ x, (t.reverseLookup x).1 = (s.reverseLookup x).1 := by
  obtain ⟨lookup, hsnd, hreverse⟩ := reverseLookup_snd s signalType.signalValue
  exact ⟨lookup, Prod.ext (hs.reverse signalType) hsnd, hreverse⟩

/-- Delivering to a non-empty queue of consistent tables runs the entry at the back. -/
theorem Consistent.handler_eq {s : SchedulerInterrupt Fn Args} (hs : s.Consistent)
    (signalType : SignalOffset) {i : Int} {persist : Bool}
    (hlast : (s.signalQueues (served signalType)).getLast? = some (i, persist)) :
    ∃ c v s', s.callbacks.lookup i = some (served signalType, c) ∧ c.run = .ok v ∧
      s.traffic (.deliver signalType) = .ok (.delivered (some ⟨i, persist, v⟩), s') ∧
      s.Delivered (served signalType) i persist s' := by
  have hmem : i ∈ s.waiting (served signalType) :=
    List.mem_map.mpr ⟨_, List.mem_of_getLast? hlast, rfl⟩
  obtain ⟨c, hc⟩ := (hs.waiting_iff _ i).mp hmem
  obtain ⟨v, hv⟩ := hs.callable i _ hc
  obtain ⟨lookup, hpair, hreverse⟩ := hs.reverseLookup_eq signalType
  -- the handler works on the state in which the lookup was read
  generalize hs₁ : { s with signalValueReverseLookup := lookup } = s₁ at hpair
  have hrun : s₁.runCallback i persist = .ok (some ⟨i, persist, v⟩, s₁) := by
    simp only [runCallback, ← hs₁, hc, hv, Except.map]
  have hhandler := handler_of_last hpair (by rw [← hs₁]; exact hs.offload)
    (by rw [← hs₁]; exact hlast) hrun
  refine ⟨c, v, s₁.requeue (served signalType) i persist, hc, hv, ?_, ?_⟩
  · simp only [traffic, Traffic.op, step, hhandler, Except.map]
  · subst hs₁
    -- the entry goes to the end before the front is popped, or its callback is erased
    cases persist with
    | true =>
      refine ⟨?_, rfl, rfl, fun x => hreverse _ rfl x⟩
      simp only [requeue, if_true, setQueue, Function.update_self, Function.update_idem]
    | false => exact ⟨rfl, rfl, rfl, fun x => hreverse _ rfl x⟩

/-- Delivering to an empty queue of consistent tables fails the assertion of
    `setReturnCode`. -/
theorem Consistent.handler_empty {s : SchedulerInterrupt Fn Args} (hs : s.Consistent)
    {signalType : SignalOffset} (hempty : s.signalQueues (served signalType) = []) :
    s.traffic (.deliver signalType) = .error .assertion := by
  obtain ⟨lookup, hpair, -⟩ := hs.reverseLookup_eq signalType
  have hhandler : s.handlerUpdateAndRun signalType.signalValue = .error .assertion :=
    handler_of_empty hpair hs.offload hempty
  simp only [traffic, Traffic.op, step, hhandler, Except.map]

/-- The effect of a successful registration on the tables. -/
structure Registered (s : SchedulerInterrupt Fn Args) (o : SignalOffset) (i : Int) (persist : Bool)
    (c : HandlerCallback Fn Args) (s' : SchedulerInterrupt Fn Args) : Prop where
  free : s.callbacks.lookup i = none
  queues : s'.signalQueues =
    Function.update s.signalQueues o (s.signalQueues o ++ [(i, persist)])
  callbacks : s'.callbacks = s.callbacks.insert i (o, c)
  offload : s'.availableForOffload = s.availableForOffload
  reverse : s'.signalValueReverseLookup = s.signalValueReverseLookup

/-- A registration fails and changes nothing when its identifier is taken; otherwise it
    enters a callable callback. -/
theorem register_cases (s : SchedulerInterrupt Fn Args) (i : Int) (f : Fn) (args : Option Args)
    (o : SignalOffset) (persist : Bool) :
    (s.callbacks.lookup i ≠ none ∧
      s.traffic (.register i f args o persist) = .ok (.result false, s)) ∨
    ∃ c v s', c.run = .ok v ∧ s.Registered o i persist c s' ∧
      s.traffic (.register i f args o persist) = .ok (.result true, s') := by
  -- both functions end in the shared helper, with a callback that can be called
  have hhelper : ∃ c v, HandlerCallback.run c = .ok v ∧
      s.traffic (.register i f args o persist) =
        .ok (.result (s.registerSharedHelper i c o persist).1,
          (s.registerSharedHelper i c o persist).2) := by
    cases args with
    | none => exact ⟨_, .free f, rfl, rfl⟩
    | some a => exact ⟨_, .bound f a, rfl, rfl⟩
  obtain ⟨c, v, hrun, htraffic⟩ := hhelper
  cases hlookup : s.callbacks.lookup i with
  | some x =>
    refine Or.inl ⟨Option.some_ne_none x, ?_⟩
    simp only [htraffic, registerSharedHelper, hlookup]
  | none =>
    let s' := { s.setQueue o (s.signalQueues o ++ [(i, persist)]) with
      callbacks := s.callbacks.insert i (o, c) }
    have hok : s.registerSharedHelper i c o persist = (true, s') := by
      simp only [registerSharedHelper, hlookup, s']
    exact Or.inr ⟨c, v, s', hrun, ⟨hlookup, rfl, rfl, rfl, rfl⟩, by rw [htraffic, hok]⟩

/-- A registration enters an identifier into both tables. -/
theorem Tracked.registered {s s' : SchedulerInterrupt Fn Args} (hs : s.Tracked)
    {o : SignalOffset} {i : Int} {persist : Bool} {c : HandlerCallback Fn Args}
    (h : s.Registered o i persist c s') : s'.Tracked := by
  -- an identifier without a callback is in no queue
  have hnew : ∀ x, i ∉ s.waiting x := by
    intro x hmem
    obtain ⟨c', hc'⟩ := (hs.waiting_iff x i).mp hmem
    rw [h.free] at hc'
    cases hc'
  have hwaiting : ∀ x, s'.waiting x = if x = o then s.waiting o ++ [i] else s.waiting x := by
    intro x
    simp only [waiting, h.queues, Function.update_apply]
    split
    · rw [List.map_append, List.map_singleton]
    · rfl
  refine ⟨?_, ?_⟩
  · intro x j
    rw [hwaiting, h.callbacks, UMap.lookup_insert_eq_ite]
    by_cases hj : j = i
    · -- the new identifier waits for `o` only
      rw [if_pos hj, hj]
      by_cases hx : x = o
      · simp [hx]
      · simp [hx, hnew x, Ne.symm hx]
    · rw [if_neg hj, ← hs.waiting_iff x j]
      by_cases hx : x = o
      · simp [hx, hj]
      · simp [hx]
  · intro x
    rw [hwaiting]
    split
    · rw [List.nodup_append]
      refine ⟨hs.nodup o, List.nodup_singleton i, ?_⟩
      intro a ha b hb hab
      rw [hab, List.mem_singleton.mp hb] at ha
      exact hnew o ha
    · exact hs.nodup x

/-- Registrations keep the tables consistent. -/
theorem Consistent.registered {s s' : SchedulerInterrupt Fn Args} (hs : s.Consistent)
    {o : SignalOffset} {i : Int} {persist : Bool} {c : HandlerCallback Fn Args}
    {v : Invocation Fn Args} (hv : c.run = .ok v) (h : s.Registered o i persist c s') :
    s'.Consistent := by
  have htracked := hs.tracked.registered h
  refine ⟨by rw [h.offload, hs.offload], ?_, htracked.waiting_iff, htracked.nodup, ?_⟩
  · intro signalType
    rw [← hs.reverse signalType]
    simp only [reverseLookup, h.reverse]
    cases s.signalValueReverseLookup.lookup signalType.signalValue <;> rfl
  · intro j x hx
    rw [h.callbacks, UMap.lookup_insert_eq_ite] at hx
    split at hx
    · cases hx
      exact ⟨v, hv⟩
    · exact hs.callable j x hx

/-! ## Queues with one entry -/

/-- A delivery to a queue with at most one entry has nothing to run, or runs that entry. -/
theorem Consistent.deliver_cases {s : SchedulerInterrupt Fn Args} (hs : s.Consistent)
    {signalType : SignalOffset} (hlen : (s.signalQueues (served signalType)).length ≤ 1) :
    (s.signalQueues (served signalType) = [] ∧
      s.traffic (.deliver signalType) = .error .assertion) ∨
    ∃ i persist c v s', s.signalQueues (served signalType) = [(i, persist)] ∧
      s.callbacks.lookup i = some (served signalType, c) ∧ c.run = .ok v ∧
      s.traffic (.deliver signalType) = .ok (.delivered (some ⟨i, persist, v⟩), s') ∧
      s.Delivered (served signalType) i persist s' := by
  match hq : s.signalQueues (served signalType) with
  | [] => exact Or.inl ⟨rfl, hs.handler_empty hq⟩
  | [(i, persist)] =>
    obtain ⟨c, v, s', hc, hv, hok, hdelivered⟩ := hs.handler_eq signalType
      (show (s.signalQueues (served signalType)).getLast? = some (i, persist) by rw [hq]; rfl)
    exact Or.inr ⟨i, persist, c, v, s', rfl, hc, hv, hok, hdelivered⟩
  | _ :: _ :: _ =>
    rw [hq] at hlen
    simp at hlen

/-- After a delivery to a queue with the one entry `(i, persist)`, that queue holds the
    entry again or nothing. -/
theorem Delivered.waiting_eq {s s' : SchedulerInterrupt Fn Args} {o : SignalOffset}
    {i : Int} {persist : Bool} (h : s.Delivered o i persist s')
    (hq : s.signalQueues o = [(i, persist)]) (x : SignalOffset) :
    s'.waiting x = if x = o then (if persist then [i] else []) else s.waiting x := by
  simp only [waiting, h.queues, hq, Function.update_apply]
  split
  · cases persist <;> rfl
  · rfl

/-- A delivery leaves the registrations of other identifiers alone. -/
theorem Delivered.lookup_of_ne {s s' : SchedulerInterrupt Fn Args} {o : SignalOffset}
    {i : Int} {persist : Bool} (h : s.Delivered o i persist s') {j : Int} (hj : j ≠ i) :
    s'.callbacks.lookup j = s.callbacks.lookup j := by
  rw [h.callbacks]
  cases persist with
  | true => rfl
  | false => exact Finmap.lookup_erase_ne hj

/-- A delivery to a queue with one entry keeps that entry in both tables, or takes it out of
    both. -/
theorem Tracked.delivered {s s' : SchedulerInterrupt Fn Args} (hs : s.Tracked)
    {o : SignalOffset} {i : Int} {persist : Bool} (hq : s.signalQueues o = [(i, persist)])
    (h : s.Delivered o i persist s') : s'.Tracked := by
  -- the entry that was run is the only one of its queue, and in no other queue
  have hi : ∀ x, i ∈ s.waiting x ↔ x = o := by
    have hio : i ∈ s.waiting o := by simp [waiting, hq]
    exact fun x => ⟨fun hx => hs.offset_unique hx hio, fun hx => hx ▸ hio⟩
  have honly : ∀ j, j ∈ s.waiting o ↔ j = i := by
    intro j
    simp [waiting, hq]
  refine ⟨?_, ?_⟩
  · intro x j
    rw [h.waiting_eq hq]
    by_cases hj : j = i
    · subst hj
      cases persist with
      | true =>
        rw [show s'.callbacks = s.callbacks from h.callbacks, ← hs.waiting_iff x j, hi x]
        by_cases hx : x = o
        · simp [hx]
        · simp [hx, hi x]
      | false =>
        rw [show s'.callbacks = s.callbacks.erase j from h.callbacks, Finmap.lookup_erase]
        by_cases hx : x = o
        · simp [hx]
        · simp [hx, hi x]
    · rw [h.lookup_of_ne hj, ← hs.waiting_iff x j]
      by_cases hx : x = o
      · rw [if_pos hx, hx, honly j]
        cases persist <;> simp [hj]
      · rw [if_neg hx]
  · intro x
    rw [h.waiting_eq hq]
    split
    · cases persist <;> simp
    · exact hs.nodup x

/-- Delivering to a queue with one entry keeps the tables consistent. -/
theorem Consistent.delivered {s s' : SchedulerInterrupt Fn Args} (hs : s.Consistent)
    {o : SignalOffset} {i : Int} {persist : Bool} (hq : s.signalQueues o = [(i, persist)])
    (h : s.Delivered o i persist s') : s'.Consistent := by
  have htracked := hs.tracked.delivered hq h
  refine ⟨by rw [h.offload, hs.offload], fun x => by rw [h.reverse, hs.reverse],
    htracked.waiting_iff, htracked.nodup, ?_⟩
  intro j x hx
  by_cases hj : j = i
  · apply hs.callable j x
    rw [h.callbacks] at hx
    cases persist with
    | true => exact hx
    | false =>
      rw [if_neg (by decide), hj, Finmap.lookup_erase] at hx
      cases hx
  · rw [h.lookup_of_ne hj] at hx
    exact hs.callable j x hx

/-! ## Lawful calls -/

/-- With two or more entries the back that is run is another one than the front that is
    popped. -/
theorem Tracked.front_dropped {s s' : SchedulerInterrupt Fn Args} (hs : s.Tracked)
    {o : SignalOffset} {i j : Int} {p p' : Bool} {y : Int × Bool} {rest : List (Int × Bool)}
    (hq : s.signalQueues o = (i, p) :: y :: rest)
    (hlast : (s.signalQueues o).getLast? = some (j, p')) (h : s.Delivered o j p' s') :
    i ≠ j ∧ i ∉ s'.waiting o := by
  rw [hq, List.getLast?_cons_cons] at hlast
  have hnodup := hs.nodup o
  rw [waiting, hq, List.map_cons, List.nodup_cons] at hnodup
  have hij : i ≠ j := by
    rintro rfl
    exact hnodup.1 (List.mem_map.mpr ⟨_, List.mem_of_getLast? hlast, rfl⟩)
  refine ⟨hij, ?_⟩
  rw [waiting, h.queues, Function.update_self, hq]
  cases p' with
  | true =>
    have htail : ((i, p) :: y :: rest ++ [(j, true)]).tail = (y :: rest) ++ [(j, true)] := rfl
    rw [if_pos rfl, htail, List.map_append, List.mem_append, not_or]
    exact ⟨hnodup.1, by simpa using hij⟩
  | false => exact hnodup.1

/-- A delivery that drops nothing goes to a queue with at most one entry. -/
private theorem Consistent.length_le_one {s : SchedulerInterrupt Fn Args} (hs : s.Consistent)
    {signalType : SignalOffset} (h : s.Lawful (.deliver signalType)) :
    (s.signalQueues (served signalType)).length ≤ 1 := by
  match hq : s.signalQueues (served signalType) with
  | [] => exact Nat.zero_le 1
  | [_] => exact Nat.le_refl 1
  | (i, p) :: y :: rest =>
    obtain ⟨⟨j, p'⟩, hlast⟩ : ∃ x, (s.signalQueues (served signalType)).getLast? = some x :=
      Option.isSome_iff_exists.mp (by simp [hq])
    obtain ⟨c, v, s', -, -, hok, hdelivered⟩ := hs.handler_eq signalType hlast
    obtain ⟨hij, hdropped⟩ := hs.tracked.front_dropped hq hlast hdelivered
    have hwaits : i ∈ s.waiting (served signalType) := by simp [waiting, hq]
    -- the front is popped although the back was run
    obtain ⟨c', hc'⟩ := (hs.waiting_iff _ i).mp hwaits
    rcases h.kept _ _ hok i ⟨_, c', hc', hwaits⟩ with ⟨o, c'', hc'', hmem⟩ | ⟨_, _, heq⟩
    · rw [hdelivered.lookup_of_ne hij, hc'] at hc''
      cases hc''
      exact absurd hmem hdropped
    · cases heq
      exact absurd rfl hij

/-- No delivery of `sigint` serves its own queue. -/
private theorem Consistent.sigint_empty {s : SchedulerInterrupt Fn Args} (hs : s.Consistent)
    (h : s.ServesFront .sigint) : s.signalQueues .sigint = [] := by
  cases hq : s.signalQueues .sigint with
  | nil => rfl
  | cons x rest =>
    obtain ⟨i, p⟩ := x
    obtain ⟨c, v, s', hc, -, hok, -, -⟩ := h i p rest hq
    cases habrt : (s.signalQueues (served .sigint)).getLast? with
    | none =>
      rw [hs.handler_empty (List.getLast?_eq_none_iff.mp habrt)] at hok
      cases hok
    | some y =>
      -- what runs is registered for another signal
      obtain ⟨c', v', s'', hc', -, hok', -⟩ := hs.handler_eq .sigint habrt
      rw [hok'] at hok
      cases hok
      rw [hc] at hc'
      cases hc'

/-- A delivery to a queue with one entry is lawful. -/
private theorem Consistent.lawful_single {s : SchedulerInterrupt Fn Args} (hs : s.Consistent)
    {signalType : SignalOffset} {i : Int} {persist : Bool}
    (hq : s.signalQueues (served signalType) = [(i, persist)])
    (hown : signalType = .sigint → s.signalQueues .sigint = []) :
    s.Lawful (.deliver signalType) := by
  obtain ⟨c, v, s', hc, hv, hok, hdelivered⟩ := hs.handler_eq signalType
    (show (s.signalQueues (served signalType)).getLast? = some (i, persist) by rw [hq]; rfl)
  refine ⟨?_, ?_, ?_⟩
  · intro x heq i' persist' rest hfront
    cases heq
    -- a delivery of `sigint` has no front to serve
    have hne : signalType ≠ .sigint := by
      rintro rfl
      rw [hown rfl] at hfront
      cases hfront
    rw [served_of_ne hne] at hq hc hdelivered
    rw [hq] at hfront
    cases hfront
    refine ⟨c, v, s', hc, hv, hok, ?_, hdelivered.callbacks⟩
    rw [hdelivered.queues, hq]
    cases persist <;> rfl
  · intro o t hok' j ⟨x, c', hc', hmem⟩
    rw [hok] at hok'
    cases hok'
    by_cases hj : j = i
    · exact Or.inr ⟨persist, v, by rw [hj]⟩
    · have hx : x ≠ served signalType := by
        rintro rfl
        simp only [waiting, hq, List.map_singleton, List.mem_singleton] at hmem
        exact hj hmem
      refine Or.inl ⟨x, c', by rw [hdelivered.lookup_of_ne hj, hc'], ?_⟩
      rw [hdelivered.waiting_eq hq, if_neg hx]
      exact hmem
  · intro t j w hok'
    rw [hok] at hok'
    cases hok'
    refine ⟨by rw [hdelivered.callbacks]; exact Finmap.lookup_erase _ _, ?_⟩
    intro x hmem
    rw [hdelivered.waiting_eq hq] at hmem
    have hi : i ∈ s.waiting (served signalType) := by simp [waiting, hq]
    by_cases hx : x = served signalType
    · simp [hx] at hmem
    · rw [if_neg hx] at hmem
      exact hx (hs.tracked.offset_unique hmem hi)

/-- Registrations are lawful: what waits goes on waiting. -/
private theorem lawful_register (s : SchedulerInterrupt Fn Args) (i : Int) (f : Fn)
    (args : Option Args) (o : SignalOffset) (persist : Bool) :
    s.Lawful (.register i f args o persist) := by
  refine ⟨?_, ?_, ?_⟩
  · intro signalType heq
    cases heq
  · intro out t hok j hj
    apply Or.inl
    rcases register_cases s i f args o persist with ⟨-, hsame⟩ | ⟨c, v, s', -, hreg, hnew⟩
    · rw [hsame] at hok
      cases hok
      exact hj
    · rw [hnew] at hok
      cases hok
      obtain ⟨x, c', hc', hmem⟩ := hj
      -- what waits already has another identifier
      have hji : j ≠ i := by
        rintro rfl
        rw [hreg.free] at hc'
        cases hc'
      refine ⟨x, c', by rw [hreg.callbacks, Finmap.lookup_insert_of_ne _ hji, hc'], ?_⟩
      simp only [waiting, hreg.queues, Function.update_apply]
      split
      · next hx =>
        rw [List.map_append]
        exact List.mem_append_left _ (hx ▸ hmem)
      · exact hmem
  · intro t j w hok
    rcases register_cases s i f args o persist with ⟨-, hsame⟩ | ⟨c, v, s', -, -, hnew⟩
    · rw [hsame] at hok
      cases hok
    · rw [hnew] at hok
      cases hok

/-- In consistent tables a call is lawful exactly when it is deliverable. -/
theorem Consistent.lawful_iff {s : SchedulerInterrupt Fn Args} (hs : s.Consistent)
    (t : Traffic Fn Args) : s.Lawful t ↔ s.Deliverable t := by
  cases t with
  | register i f args o persist =>
    simp only [Deliverable, iff_true]
    exact lawful_register s i f args o persist
  | deliver signalType =>
    constructor
    · intro h
      refine ⟨hs.length_le_one h, ?_⟩
      rintro rfl
      exact hs.sigint_empty (h.front _ rfl)
    · intro ⟨hlen, hown⟩
      rcases hs.deliver_cases hlen with ⟨hq, hstuck⟩ | ⟨i, p, -, -, -, hq, -⟩
      · -- nothing is delivered, so there is nothing to show but an empty own queue
        refine ⟨?_, ?_, ?_⟩
        · intro x heq i p rest hfront
          cases heq
          by_cases hsig : signalType = .sigint
          · rw [hsig, hown hsig] at hfront
            cases hfront
          · rw [served_of_ne hsig, hfront] at hq
            cases hq
        · intro o s' hok
          rw [hstuck] at hok
          cases hok
        · intro s' i v hok
          rw [hstuck] at hok
          cases hok
      · exact hs.lawful_single hq hown

/-! ## Runs -/

/-- The call registers a one-shot callback under `i`, successfully. -/
def registersOneShot (i : Int) (call : SchedulerInterrupt Fn Args × Traffic Fn Args) : Bool :=
  match call.2, call.1.traffic call.2 with
  | .register j _ _ _ persist, .ok (.result true, _) => j == i && !persist
  | _, _ => false

/-- The call runs the one-shot callback `i`. -/
def runsOneShot (i : Int) (call : SchedulerInterrupt Fn Args × Traffic Fn Args) : Bool :=
  match call.1.traffic call.2 with
  | .ok (.delivered (some d), _) => d.identifier == i && !d.persist
  | _ => false

/-- How many one-shot callbacks wait under `i`. -/
def oneShotsWaiting (i : Int) (s : SchedulerInterrupt Fn Args) : Nat :=
  match s.callbacks.lookup i with
  | some (offset, _) => (s.signalQueues offset).count (i, false)
  | none => 0

/-- Every call of the run is lawful, and each one-shot registration was run exactly once
    or still waits. -/
def RunsInOrder (ops : List (Traffic Fn Args)) : Prop :=
  (∀ call ∈ StepRun.calls traffic initial ops, call.1.Lawful call.2) ∧
  ∀ i, (StepRun.calls traffic initial ops).countP (registersOneShot i) =
    oneShotsWaiting i (StepRun.final traffic initial ops) +
      (StepRun.calls traffic initial ops).countP (runsOneShot i)

/-- A deliverable call keeps the tables consistent. -/
theorem Consistent.step {s s' : SchedulerInterrupt Fn Args} (hs : s.Consistent)
    {t : Traffic Fn Args} {o : Output Fn Args} (ht : s.Deliverable t)
    (hok : s.traffic t = .ok (o, s')) : s'.Consistent := by
  cases t with
  | register i f args offset persist =>
    rcases register_cases s i f args offset persist with ⟨-, hsame⟩ | ⟨c, v, t, hv, hreg, hnew⟩
    · rw [hsame] at hok
      cases hok
      exact hs
    · rw [hnew] at hok
      cases hok
      exact hs.registered hv hreg
  | deliver signalType =>
    rcases hs.deliver_cases ht.1 with ⟨-, hstuck⟩ | ⟨i, p, c, v, t, hq, -, -, hok', hdelivered⟩
    · rw [hstuck] at hok
      cases hok
    · rw [hok'] at hok
      cases hok
      exact hs.delivered hq hdelivered

/-- A deliverable call moves as many one-shot callbacks into the tables as it registers,
    and as many out as it runs. -/
private theorem Consistent.oneShotsWaiting_step {s s' : SchedulerInterrupt Fn Args}
    (hs : s.Consistent) {t : Traffic Fn Args} {o : Output Fn Args} (ht : s.Deliverable t)
    (hok : s.traffic t = .ok (o, s')) (i : Int) :
    oneShotsWaiting i s + (if registersOneShot i (s, t) then 1 else 0) =
      oneShotsWaiting i s' + if runsOneShot i (s, t) then 1 else 0 := by
  cases t with
  | register j f args offset persist =>
    -- a registration that is refused changes nothing
    rcases register_cases s j f args offset persist with ⟨-, hsame⟩ | ⟨c, v, t, hv, hreg, hnew⟩
    · rw [hsame] at hok
      cases hok
      simp [registersOneShot, runsOneShot, hsame]
    · rw [hnew] at hok
      cases hok
      simp only [registersOneShot, runsOneShot, hnew]
      by_cases hi : j = i
      · subst hi
        -- a free identifier is in no queue
        have hnot : (j, false) ∉ s.signalQueues offset := by
          intro hmem
          obtain ⟨c', hc'⟩ := (hs.waiting_iff offset j).mp (List.mem_map.mpr ⟨_, hmem, rfl⟩)
          rw [hreg.free] at hc'
          cases hc'
        simp only [oneShotsWaiting, hreg.free, hreg.callbacks, Finmap.lookup_insert, hreg.queues,
          Function.update_self, List.count_append, List.count_eq_zero.mpr hnot]
        cases persist <;> simp
      -- what waits of another identifier is behind the same lookup as before
      · have hlookup : s'.callbacks.lookup i = s.callbacks.lookup i := by
          rw [hreg.callbacks, Finmap.lookup_insert_of_ne _ (Ne.symm hi)]
        simp only [oneShotsWaiting, hlookup, hreg.queues, Function.update_apply]
        cases s.callbacks.lookup i with
        | none => simp [hi]
        | some x =>
          by_cases hx : x.1 = offset
          · simp [hx, hi]
          · simp [hx, hi]
  | deliver signalType =>
    rcases hs.deliver_cases ht.1 with ⟨-, hstuck⟩ | ⟨j, p, c, v, t, hq, hc, -, hok', hdelivered⟩
    -- with nothing to serve the queues stay as they are
    · rw [hstuck] at hok
      cases hok
    · rw [hok'] at hok
      cases hok
      simp only [registersOneShot, runsOneShot, hok']
      by_cases hi : j = i
      · -- a persistent callback counts nowhere; a one-shot one is run and gone
        subst hi
        cases p with
        | true =>
          simp [oneShotsWaiting, hc, show s'.callbacks = s.callbacks from hdelivered.callbacks,
            hdelivered.queues, hq]
        | false =>
          simp [oneShotsWaiting, hc, show s'.callbacks = s.callbacks.erase j from
            hdelivered.callbacks, hq]
      -- the entry of another identifier is where it was
      · simp only [oneShotsWaiting, hdelivered.lookup_of_ne (Ne.symm hi), hdelivered.queues,
          Function.update_apply]
        cases s.callbacks.lookup i with
        | none => simp [hi]
        | some x =>
          by_cases hx : x.1 = served signalType
          · cases p <;> simp [hx, hq, hi]
          · simp [hx, hi]

/-- A run of registrations and deliveries from empty tables is in order exactly when
    every delivery in it is deliverable. -/
theorem runsInOrder_iff (ops : List (Traffic Fn Args)) :
    RunsInOrder ops ↔ ∀ call ∈ StepRun.calls traffic initial ops, call.1.Deliverable call.2 := by
  have hkeep : ∀ (s : SchedulerInterrupt Fn Args) t o s', s.Consistent → s.Deliverable t →
      s.traffic t = .ok (o, s') → s'.Consistent :=
    fun _ _ _ _ hs ht hok => hs.step ht hok
  have hlawful : (∀ call ∈ StepRun.calls traffic initial ops, call.1.Lawful call.2) ↔
      ∀ call ∈ StepRun.calls traffic initial ops, call.1.Deliverable call.2 :=
    StepRun.forall_calls_iff (fun _ t hs => hs.lawful_iff t) hkeep consistent_initial ops
  rw [RunsInOrder, hlawful]
  apply and_iff_left_of_imp
  intro hcond i
  -- what was registered once was run once or still waits
  have hledger := StepRun.count_ledger (registersOneShot i) (runsOneShot i) (oneShotsWaiting i)
    hkeep (fun _ _ _ _ hs ht hok => hs.oneShotsWaiting_step ht hok i) ?_ consistent_initial ops
    hcond
  · have hempty : oneShotsWaiting i (initial : SchedulerInterrupt Fn Args) = 0 := rfl
    omega
  · intro s t e herr
    simp only [registersOneShot, runsOneShot, herr, and_self]

/-- Of two callbacks that wait for one signal, the older is dropped without being run. -/
theorem second_callback_drops_first :
    ¬ ∀ ops : List (Traffic Unit Unit), RunsInOrder ops := by
  intro hall
  have hledger := (hall [.register 1 () none .sigusr1 false, .register 2 () none .sigusr1 false,
    .deliver .sigusr1]).2 1
  exact absurd hledger (by decide)

end SchedulerInterrupt

end NetworkedFS
