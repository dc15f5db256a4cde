import NetworkedFS.Spec.InterruptFifo

/-!
# What a call does to the tables of the interrupt scheduler

The callbacks and the queues are two tables of the same registrations.  This file says,
for tables in any state, what each operation does to the two of them.

## Key results

- `handlerUpdateAndRun_eq_ok`, `handlerUpdateAndRun_returns`: what a delivery does, and
  when it returns;
- `step_change`: what a call that returns does.
-/

namespace NetworkedFS

namespace SchedulerInterrupt

variable {Fn Args : Type}

/-- The handler gets past the callback of an identifier: it was dropped, or its function
    can be called. -/
def Passes (s : SchedulerInterrupt Fn Args) (i : Int) : Prop :=
  ∀ x, s.callbacks.lookup i = some x → ∃ v, x.2.run = .ok v

/-- What a delivery runs, if the entry at the back of the queue is `(i, persist)`. -/
def Ran (s : SchedulerInterrupt Fn Args) (i : Int) (persist : Bool) :
    Option (Delivery Fn Args) → Prop
  | some d => ∃ x v, s.callbacks.lookup i = some x ∧ x.2.run = .ok v ∧ d = ⟨i, persist, v⟩
  | none => s.callbacks.lookup i = none

/-- Two states that differ in the reverse lookup and in the status at most. -/
structure SameTables (s s' : SchedulerInterrupt Fn Args) : Prop where
  offload : s'.availableForOffload = s.availableForOffload
  queues : s'.signalQueues = s.signalQueues
  callbacks : s'.callbacks = s.callbacks
  reverse : ∀ x, (s'.reverseLookup x).1 = (s.reverseLookup x).1

theorem SameTables.refl (s : SchedulerInterrupt Fn Args) : SameTables s s :=
  ⟨rfl, rfl, rfl, fun _ => rfl⟩

/-- Looking up a signal may add it to the reverse table, where it reads the same. -/
theorem sameTables_reverseLookup (s : SchedulerInterrupt Fn Args) (signal : Int) :
    SameTables s (s.reverseLookup signal).2 := by
  obtain ⟨lookup, hsnd, hreverse⟩ := reverseLookup_snd s signal
  rw [hsnd]
  exact ⟨rfl, rfl, rfl, fun x => hreverse _ rfl x⟩

/-! ## Deliveries -/

/-- Running a callback changes the status at most. -/
theorem runCallback_eq_ok {s s' : SchedulerInterrupt Fn Args} {i : Int} {persist : Bool}
    {ran : Option (Delivery Fn Args)} (h : s.runCallback i persist = .ok (ran, s')) :
    s.Passes i ∧ s.Ran i persist ran ∧ ∃ d, s' = { s with status := d } := by
  unfold runCallback at h
  cases hi : s.callbacks.lookup i with
  | none =>
    simp only [hi] at h
    obtain ⟨t, hreport, heq⟩ := Except.map_eq_ok_iff.mp h
    obtain ⟨d, -, rfl⟩ := Except.map_eq_ok_iff.mp hreport
    cases heq
    refine ⟨fun x hx => ?_, hi, d, rfl⟩
    rw [hi] at hx
    cases hx
  | some x =>
    simp only [hi] at h
    obtain ⟨v, hv, heq⟩ := Except.map_eq_ok_iff.mp h
    cases heq
    refine ⟨fun y hy => ?_, ⟨x, v, hi, hv, rfl⟩, s.status, rfl⟩
    rw [hi] at hy
    cases hy
    exact ⟨v, hv⟩

/-- Where the callback passes, running it returns. -/
theorem runCallback_of_passes {s : SchedulerInterrupt Fn Args} {i : Int} (h : s.Passes i)
    (persist : Bool) : ∃ ran s', s.runCallback i persist = .ok (ran, s') := by
  unfold runCallback
  cases hi : s.callbacks.lookup i with
  | none => exact ⟨none, _, rfl⟩
  | some x =>
    obtain ⟨v, hv⟩ := h x hi
    exact ⟨some ⟨i, persist, v⟩, s, by simp only [hv, Except.map]⟩

/-- What a delivery that returns has done. -/
theorem handlerUpdateAndRun_eq_ok {s s' : SchedulerInterrupt Fn Args} {signal : Int}
    {ran : Option (Delivery Fn Args)} (h : s.handlerUpdateAndRun signal = .ok (ran, s')) :
    (s.availableForOffload = false ∧ ran = none ∧ SameTables s s') ∨
    (s.availableForOffload = true ∧ ∃ i persist,
      (s.signalQueues (s.reverseLookup signal).1).getLast? = some (i, persist) ∧
      s.Passes i ∧ s.Ran i persist ran ∧ s.Delivered (s.reverseLookup signal).1 i persist s') := by
  obtain ⟨lookup, hsnd, hreverse⟩ := reverseLookup_snd s signal
  have hpair : s.reverseLookup signal =
      ((s.reverseLookup signal).1, { s with signalValueReverseLookup := lookup }) :=
    Prod.ext rfl hsnd
  generalize (s.reverseLookup signal).1 = o at hpair
  cases hoffload : s.availableForOffload with
  | false =>
    refine Or.inl ⟨rfl, ?_⟩
    simp only [handlerUpdateAndRun, hpair, hoffload] at h
    cases h
    exact ⟨rfl, hoffload.symm, rfl, rfl, fun x => hreverse _ rfl x⟩
  | true =>
    refine Or.inr ⟨rfl, ?_⟩
    cases hlast : (s.signalQueues o).getLast? with
    | none =>
      rw [handler_of_empty hpair hoffload (List.getLast?_eq_none_iff.mp hlast)] at h
      cases h
    | some e =>
      obtain ⟨i, persist⟩ := e
      simp only [handlerUpdateAndRun, hpair, hoffload, if_true, hlast] at h
      obtain ⟨⟨ran', s₂⟩, hrun, hrest⟩ := Except.bind_eq_ok_iff.mp h
      obtain ⟨hpasses, hran, d, rfl⟩ := runCallback_eq_ok hrun
      cases hrest
      refine ⟨i, persist, rfl, hpasses, hran, ?_⟩
      -- the entry goes to the end before the front is popped, or its callback is erased
      cases persist with
      | true =>
        refine ⟨?_, rfl, hoffload.symm, fun x => hreverse _ rfl x⟩
        simp only [if_true, setQueue, Function.update_self, Function.update_idem]
      | false => exact ⟨rfl, rfl, hoffload.symm, fun x => hreverse _ rfl x⟩

/-- A delivery returns when the handler gets past the callback at the back. -/
theorem handlerUpdateAndRun_returns {s : SchedulerInterrupt Fn Args} {signal : Int}
    (hoffload : s.availableForOffload = true) {i : Int} {persist : Bool}
    (hlast : (s.signalQueues (s.reverseLookup signal).1).getLast? = some (i, persist))
    (hpasses : s.Passes i) : ∃ ran s', s.handlerUpdateAndRun signal = .ok (ran, s') := by
  have hsame := sameTables_reverseLookup s signal
  have hpasses' : (s.reverseLookup signal).2.Passes i := fun x hx =>
    hpasses x (by rw [← hsame.callbacks]; exact hx)
  obtain ⟨ran, s', hrun⟩ := runCallback_of_passes hpasses' persist
  have hlast' : ((s.reverseLookup signal).2.signalQueues (s.reverseLookup signal).1).getLast? =
      some (i, persist) := by rw [hsame.queues, hlast]
  exact ⟨ran, _, handler_of_last Prod.mk.eta.symm (hsame.offload.trans hoffload) hlast' hrun⟩

/-- What waits after a delivery waited before: the entry that is queued again was at the
    back of the same queue. -/
theorem Delivered.mem_waiting {s s' : SchedulerInterrupt Fn Args} {o x : SignalOffset} {i k : Int}
    {persist : Bool} (h : s.Delivered o i persist s')
    (hlast : (s.signalQueues o).getLast? = some (i, persist)) (hk : k ∈ s'.waiting x) :
    k ∈ s.waiting x := by
  rw [waiting, h.queues, Function.update_apply] at hk
  split at hk
  · next hx =>
    obtain ⟨e, he, rfl⟩ := List.mem_map.mp hk
    have hmem := List.mem_of_mem_tail he
    rw [hx]
    cases persist with
    | true =>
      rcases List.mem_append.mp hmem with hold | hnew
      · exact List.mem_map_of_mem hold
      · rw [List.mem_singleton.mp hnew]
        exact List.mem_map_of_mem (List.mem_of_getLast? hlast)
    | false => exact List.mem_map_of_mem hmem
  · exact hk

/-! ## All operations -/

/-- The identifier and the signal of a registration. -/
def Op.registers : Op Fn Args → Option (Int × SignalOffset)
  | .registerFunction i _ o _ => some (i, o)
  | .registerFunctionParameters i _ _ o _ => some (i, o)
  | _ => none

/-- The two tables after a call. -/
inductive Change (s s' : SchedulerInterrupt Fn Args) : Op Fn Args → Prop
  /-- Nothing was registered, found or ready to be handled. -/
  | same {op : Op Fn Args} (hsame : SameTables s s')
      (hremove : ∀ i, op = .removeRegistration i → s.callbacks.lookup i = none)
      (hdeliver : ∀ signal, op = .deliver signal → s.availableForOffload = false) :
      Change s s' op
  | register {op : Op Fn Args} {o : SignalOffset} {i : Int} {persist : Bool}
      {c : HandlerCallback Fn Args} (hop : op.registers = some (i, o))
      (h : s.Registered o i persist c s') : Change s s' op
  | update {op : Op Fn Args} {o : SignalOffset} {i : Int} {c c' : HandlerCallback Fn Args}
      (hi : s.callbacks.lookup i = some (o, c)) (h : s' = s.assignCallback i o c') :
      Change s s' op
  | remove {i : Int} (hi : s.callbacks.lookup i ≠ none)
      (h : s' = { s with callbacks := s.callbacks.erase i }) : Change s s' (.removeRegistration i)
  | toggle (h : s' = s.toggleHandlerSignaling) : Change s s' .toggleHandlerSignaling
  | clean (h : s' = s.clean) : Change s s' .clean
  | deliver {signal i : Int} {persist : Bool} (hoffload : s.availableForOffload = true)
      (hlast : (s.signalQueues (s.reverseLookup signal).1).getLast? = some (i, persist))
      (hpasses : s.Passes i) (h : s.Delivered (s.reverseLookup signal).1 i persist s') :
      Change s s' (.deliver signal)

/-- A registration of any function, a null pointer included. -/
private theorem change_register {s : SchedulerInterrupt Fn Args} {op : Op Fn Args} {i : Int}
    {o : SignalOffset} (hop : op.registers = some (i, o)) (persist : Bool)
    (c : HandlerCallback Fn Args) : Change s (s.registerSharedHelper i c o persist).2 op := by
  unfold registerSharedHelper
  cases hi : s.callbacks.lookup i with
  | some x =>
    refine .same (SameTables.refl s) ?_ ?_
    · rintro j rfl
      cases hop
    · rintro signal rfl
      cases hop
  | none => exact .register hop ⟨hi, rfl, rfl, rfl, rfl⟩

/-- An update writes to one entry, whose queue it keeps. -/
private theorem change_updateShared {s s' : SchedulerInterrupt Fn Args} {op : Op Fn Args} {i : Int}
    {f : Option Fn} {a : Args} {b : Bool} (hremove : ∀ j, op ≠ .removeRegistration j)
    (hdeliver : ∀ signal, op ≠ .deliver signal) (h : s.updateShared i f a = .ok (b, s')) :
    Change s s' op := by
  unfold updateShared updateSharedHelper at h
  cases hi : s.callbacks.lookup i with
  | none =>
    simp only [hi] at h
    cases h
    exact .same (SameTables.refl s) (fun j hj => absurd hj (hremove j))
      fun signal hs => absurd hs (hdeliver signal)
  | some x =>
    simp only [hi] at h
    cases f with
    | none =>
      obtain ⟨c, -, heq⟩ := Except.bind_eq_ok_iff.mp h
      cases heq
      exact .update hi rfl
    | some g =>
      cases h
      exact .update hi rfl

/-- What a call that returns does to the tables. -/
theorem step_change {s s' : SchedulerInterrupt Fn Args} {op : Op Fn Args} {out : Output Fn Args}
    (h : s.step op = .ok (out, s')) : Change s s' op := by
  cases op with
  | registerFunction i f o persist =>
    cases h
    exact change_register rfl persist _
  | registerFunctionParameters i f a o persist =>
    cases h
    exact change_register rfl persist _
  | updateRegistration i f =>
    cases h
    simp only [updateSharedHelper]
    cases hi : s.callbacks.lookup i with
    -- an update of an unknown identifier leaves the tables alone, as does its removal
    | none => exact .same (SameTables.refl s) nofun nofun
    | some x => exact .update hi rfl
  | updateRegistrationParameters i f a =>
    obtain ⟨⟨b, t⟩, hok, heq⟩ := Except.map_eq_ok_iff.mp h
    cases heq
    exact change_updateShared nofun nofun hok
  | updateRegistrationParametersOnly i a =>
    obtain ⟨⟨b, t⟩, hok, heq⟩ := Except.map_eq_ok_iff.mp h
    cases heq
    exact change_updateShared nofun nofun hok
  | removeRegistration i =>
    cases h
    cases hi : s.callbacks.lookup i with
    | none =>
      refine .same (SameTables.refl s) ?_ nofun
      rintro j heq
      cases heq
      exact hi
    | some x => exact .remove (by rw [hi]; nofun) rfl
  | toggleHandlerSignaling =>
    cases h
    exact .toggle rfl
  | clean =>
    cases h
    exact .clean rfl
  | deliver signal =>
    obtain ⟨⟨ran, t⟩, hok, heq⟩ := Except.map_eq_ok_iff.mp h
    cases heq
    rcases handlerUpdateAndRun_eq_ok hok with
      ⟨hoffload, -, hsame⟩ | ⟨hoffload, i, persist, hlast, hpasses, -, hdelivered⟩
    -- nothing is delivered, or the entry at the back is served
    · exact .same hsame nofun fun _ _ => hoffload
    · exact .deliver hoffload hlast hpasses hdelivered

/-! ## The reverse lookup -/

/-- What the reverse lookup gives depends on its table only. -/
theorem reverseLookup_congr {s s' : SchedulerInterrupt Fn Args}
    (h : s'.signalValueReverseLookup = s.signalValueReverseLookup) (x : Int) :
    (s'.reverseLookup x).1 = (s.reverseLookup x).1 := by
  simp only [reverseLookup, h]
  cases s.signalValueReverseLookup.lookup x <;> rfl

/-- No call changes what the reverse lookup gives. -/
theorem Change.reverse {s s' : SchedulerInterrupt Fn Args} {op : Op Fn Args}
    (h : Change s s' op) (x : Int) : (s'.reverseLookup x).1 = (s.reverseLookup x).1 := by
  cases h with
  | same hsame => exact hsame.reverse x
  | register _ h => exact reverseLookup_congr h.reverse x
  | update _ h => exact reverseLookup_congr (by rw [h]; rfl) x
  | remove _ h => exact reverseLookup_congr (by rw [h]) x
  | toggle h => exact reverseLookup_congr (by rw [h]; rfl) x
  | clean h => exact reverseLookup_congr (by rw [h]; rfl) x
  | deliver _ _ _ h => exact h.reverse x

/-- In every reachable state the number of a signal is looked up as in the initial table,
    in which `sigint` is missing. -/
theorem reverseLookup_of_reachable {s : SchedulerInterrupt Fn Args}
    (hs : StepRun.Reachable step initial s) (signalType : SignalOffset) :
    (s.reverseLookup signalType.signalValue).1 = served signalType := by
  apply hs.invariant (I := fun t => (t.reverseLookup signalType.signalValue).1 = served signalType)
  · exact consistent_initial.reverse signalType
  · intro t op o t' ht hok
    exact ((step_change hok).reverse _).trans ht

end SchedulerInterrupt

end NetworkedFS
