import Mathlib.Data.Fintype.Basic
import NetworkedFS.ForStd.ProgramRest
import NetworkedFS.ForStd.StepRun
import NetworkedFS.Spec.InterruptDeadlock
import NetworkedFS.Spec.InterruptUpdates

/-!
# Registrations among other calls

A registration puts its callback into the table under one mutex and its identifier into the
queue under another, so that the two tables disagree in between.  Yet nothing is lost in
any interleaving of registrations, updates and removals: what the queues lack of the
entries ever inserted is on its way there in a registration that has not returned.

## Key results

- `effect_of_rest`: what the next action of a call does, from the actions it has made;
- `accounted_of_sparesQueues`: the queues and the registrations under way account for all
  entries ever inserted.
-/

namespace NetworkedFS

open LockProg InterruptShared

variable {ι Fn Args : Type}

instance : Fintype SignalOffset where
  elems := ⟨InterruptProg.offsets, by decide⟩
  complete o := by cases o <;> decide

namespace SchedulerInterrupt

/-- The operations that take no entry out of a queue. -/
def Op.sparesQueues : Op Fn Args → Bool
  | .clean | .deliver _ => false
  | _ => true

/-- The identifier and the signal of a registration that is between its two critical sections:
    its first action, which is the only one so far, has found the identifier free. -/
def Op.pending (op : Op Fn Args) :
    List (InterruptShared Fn Args × InterruptShared Fn Args) → Option (Int × SignalOffset)
  | [(s, _)] => op.registers.filter fun r => (s.tables.callbacks.lookup r.1).isNone
  | _ => none

theorem Op.pending_of_registers_eq_none {op : Op Fn Args} (hop : op.registers = none)
    (steps : List (InterruptShared Fn Args × InterruptShared Fn Args)) :
    op.pending steps = none := by
  unfold Op.pending
  split
  · rw [hop]
    rfl
  · rfl

end SchedulerInterrupt

namespace InterruptShared

/-- The queues are as before, and no entry is new. -/
structure KeepsQueues (s s' : InterruptShared Fn Args) : Prop where
  queues : s'.tables.signalQueues = s.tables.signalQueues
  generation : s'.generation = s.generation
  callbacks : ∀ i o c, s'.tables.callbacks.lookup i = some (o, c) →
    ∃ c', s.tables.callbacks.lookup i = some (o, c')

theorem KeepsQueues.refl (s : InterruptShared Fn Args) : KeepsQueues s s where
  queues := rfl
  generation := rfl
  callbacks _ _ c h := ⟨c, h⟩

/-- Reading changes nothing. -/
theorem keepsQueues_of_read {β : Type} {f : InterruptShared Fn Args → Except InterruptFault β}
    (s : InterruptShared Fn Args) (b : β) (s' : InterruptShared Fn Args)
    (h : (f s).map (·, s) = .ok (b, s')) : KeepsQueues s s' := by
  obtain ⟨-, rfl⟩ := eq_of_read h
  exact .refl s'

/-- A valid iterator leads to the entry of its identifier. -/
theorem lookup_of_deref {iterator : CallbackIterator} {s : InterruptShared Fn Args}
    {x : SignalOffset × HandlerCallback Fn Args} (h : s.deref iterator = .ok x) :
    s.tables.callbacks.lookup iterator.identifier = some x := by
  unfold deref at h
  cases hi : s.tables.callbacks.lookup iterator.identifier with
  | none =>
    simp only [hi] at h
    cases h
  | some y =>
    simp only [hi] at h
    split at h
    · cases h
      rfl
    · cases h

/-- Writing through an iterator changes the callback of an entry, not its signal. -/
theorem keepsQueues_of_assign {iterator : CallbackIterator}
    {write : HandlerCallback Fn Args → Except Fault (HandlerCallback Fn Args)}
    (s : InterruptShared Fn Args) (u : Unit) (s' : InterruptShared Fn Args)
    (h : assign iterator write s = .ok (u, s')) : KeepsQueues s s' := by
  unfold assign at h
  cases hderef : s.deref iterator with
  | error e =>
    simp only [hderef] at h
    cases h
  | ok entry =>
    obtain ⟨o, c⟩ := entry
    simp only [hderef] at h
    cases hwrite : write c with
    | error e =>
      simp only [hwrite] at h
      cases h
    | ok c' =>
      simp only [hwrite] at h
      cases h
      refine ⟨rfl, rfl, fun j x d hj => ?_⟩
      simp only [SchedulerInterrupt.assignCallback, UMap.lookup_insert_eq_ite] at hj
      split at hj
      · next hij =>
        cases hj
        exact ⟨c, hij ▸ lookup_of_deref hderef⟩
      · exact ⟨d, hj⟩

/-- A removal takes an entry out of the callbacks. -/
theorem keepsQueues_of_removeRegistration {i : Int} (s : InterruptShared Fn Args) (b : Bool)
    (s' : InterruptShared Fn Args)
    (h : onTables (fun t => .ok (t.removeRegistration i)) s = .ok (b, s')) :
    KeepsQueues s s' := by
  unfold onTables SchedulerInterrupt.removeRegistration at h
  cases hi : s.tables.callbacks.lookup i with
  | none =>
    simp only [hi] at h
    cases h
    exact .refl s
  | some x =>
    simp only [hi] at h
    cases h
    refine ⟨rfl, rfl, fun j o c hj => ?_⟩
    simp only [UMap.lookup_erase_eq_ite] at hj
    split at hj
    · cases hj
    · exact ⟨c, hj⟩

end InterruptShared

namespace InterruptProg

open SchedulerInterrupt

/-- What an action of a call does that takes no entry out of a queue. -/
inductive Effect (op : Op Fn Args)
    (steps : List (InterruptShared Fn Args × InterruptShared Fn Args))
    (s s' : InterruptShared Fn Args) : Prop
  /-- A registration finds its identifier free. -/
  | inserts {i : Int} {o : SignalOffset} {c : HandlerCallback Fn Args}
      (hop : op.registers = some (i, o)) (hsteps : steps = [])
      (hi : s.tables.callbacks.lookup i = none)
      (h : s' = {
        tables := { s.tables with callbacks := s.tables.callbacks.insert i (o, c) }
        generation := Function.update s.generation i (s.generation i + 1) })
  /-- A registration gets to the queue. -/
  | queues {i : Int} {o : SignalOffset} {persist : Bool}
      (hpending : op.pending steps = some (i, o)) (hafter : op.pending ((s, s') :: steps) = none)
      (h : s' = { s with
        tables := s.tables.setQueue o (s.tables.signalQueues o ++ [(i, persist)]) })
  | keeps (hbefore : op.pending steps = none) (hafter : op.pending ((s, s') :: steps) = none)
      (h : KeepsQueues s s')

/-- The actions of an update. -/
theorem acts_updateThrough (i : Int)
    (write : HandlerCallback Fn Args → Except Fault (HandlerCallback Fn Args)) :
    (Output.result <$> updateThrough i write : InterruptProg Fn Args (Output Fn Args)).Acts
      KeepsQueues := by
  unfold updateThrough updateSharedHelper
  simp only [lockMutex_bind, LockProg.read_bind, unlockMutex_bind, lock_bind, act_bind,
    unlock_bind, pure_eq_ret, ret_bind, map_eq_bind]
  refine ⟨keepsQueues_of_read, fun found => ?_⟩
  cases found with
  | none => trivial
  | some it =>
    exact ⟨keepsQueues_of_read, fun _ => ⟨keepsQueues_of_assign, fun _ =>
      ⟨keepsQueues_of_read, fun _ => trivial⟩⟩⟩

/-- The operations that are neither registrations nor take entries out of the queues leave
    the queues alone. -/
theorem acts_program {op : Op Fn Args} (hop : op.registers = none)
    (hspares : op.sparesQueues = true) : op.program.Acts KeepsQueues := by
  cases op with
  | registerFunction => cases hop
  | registerFunctionParameters => cases hop
  | updateRegistration i f => exact acts_updateThrough i _
  | updateRegistrationParameters i f a => exact acts_updateThrough i _
  | updateRegistrationParametersOnly i a => exact acts_updateThrough i _
  | removeRegistration i => exact ⟨keepsQueues_of_removeRegistration, fun _ => trivial⟩
  | toggleHandlerSignaling =>
    refine ⟨fun s b s' h => ?_, fun _ => trivial⟩
    cases h
    exact ⟨rfl, rfl, fun _ _ c h => ⟨c, h⟩⟩
  | clean => cases hspares
  | deliver => cases hspares

/-- The program of a registration, step by step. -/
theorem registerSharedHelper_eq (i : Int) (c : HandlerCallback Fn Args) (o : SignalOffset)
    (persist : Bool) :
    (Output.result <$> registerSharedHelper i c o persist :
        InterruptProg Fn Args (Output Fn Args)) =
      .lock .callback (.act (emplace i o c) fun inserted => .unlock .callback
        (if inserted then .lock (.queue o) (.act
          (onTables fun s => .ok ((), s.setQueue o (s.signalQueues o ++ [(i, persist)])))
            fun _ => .unlock (.queue o) (.ret (.result true)))
        else .ret (.result false))) := by
  unfold registerSharedHelper
  simp only [lockMutex_bind, atomic_bind, unlockMutex_bind, lock_bind, act_bind,
    unlock_bind, pure_eq_ret, map_eq_bind]
  congr
  funext inserted
  cases inserted <;> rfl

/-- What is inserted, and when. -/
theorem emplace_eq_ok {i : Int} {o : SignalOffset} {c : HandlerCallback Fn Args}
    {s s' : InterruptShared Fn Args} {b : Bool} (h : emplace i o c s = .ok (b, s')) :
    (s.tables.callbacks.lookup i = none ∧ b = true ∧ s' = {
      tables := { s.tables with callbacks := s.tables.callbacks.insert i (o, c) }
      generation := Function.update s.generation i (s.generation i + 1) }) ∨
    (s.tables.callbacks.lookup i ≠ none ∧ b = false ∧ s' = s) := by
  unfold emplace at h
  cases hi : s.tables.callbacks.lookup i with
  | none =>
    simp only [hi] at h
    cases h
    exact .inl ⟨rfl, rfl, rfl⟩
  | some x =>
    simp only [hi] at h
    cases h
    exact .inr ⟨nofun, rfl, rfl⟩

variable {op : Op Fn Args} {i : Int} {o : SignalOffset} {persist : Bool}
  {c : HandlerCallback Fn Args}
  {steps : List (InterruptShared Fn Args × InterruptShared Fn Args)}

/-- After its first action a registration is pending when it has found its identifier free. -/
theorem pending_first (hop : op.registers = some (i, o)) (s s' : InterruptShared Fn Args) :
    op.pending [(s, s')] =
      if s.tables.callbacks.lookup i = none then some (i, o) else none := by
  unfold Op.pending
  rw [hop]
  cases hi : s.tables.callbacks.lookup i with
  | none => simp only [Option.filter, hi, Option.isNone_none, if_true]
  | some x => simp only [Option.filter, hi, Option.isNone_some, Bool.false_eq_true, if_false,
      reduceCtorEq]

/-- What an action of a registration does. -/
theorem effect_of_register {β : Type}
    {g : InterruptShared Fn Args → Except InterruptFault (β × InterruptShared Fn Args)}
    {next : β → InterruptProg Fn Args (Output Fn Args)} {s s' : InterruptShared Fn Args} {b : β}
    (hop : op.registers = some (i, o))
    (hrest : (Output.result <$> registerSharedHelper i c o persist :
      InterruptProg Fn Args (Output Fn Args)).Rest steps (.act g next))
    (hok : g s = .ok (b, s')) : Effect op steps s s' := by
  -- what remains says which of the two actions it is
  rw [registerSharedHelper_eq, rest_lock, rest_act] at hrest
  rcases hrest with ⟨-, heq⟩ | ⟨rfl, heq⟩ | ⟨inserted, s₀, s₁, later, hemplace, rfl, hrest⟩
  · cases heq
  · -- the first action
    cases heq
    rcases emplace_eq_ok hok with ⟨hi, -, hs'⟩ | ⟨hi, -, rfl⟩
    · exact .inserts hop rfl hi hs'
    · exact .keeps rfl ((pending_first hop _ _).trans (if_neg hi)) (.refl s')
  · rw [rest_unlock] at hrest
    rcases hrest with ⟨-, heq⟩ | hrest
    · cases heq
    rcases emplace_eq_ok hemplace with ⟨hi, rfl, -⟩ | ⟨-, rfl, -⟩
    · rw [if_pos rfl, rest_lock, rest_act] at hrest
      rcases hrest with ⟨-, heq⟩ | ⟨rfl, heq⟩ | ⟨-, -, -, later, -, -, hrest⟩
      · cases heq
      · -- the second one
        cases heq
        cases hok
        exact .queues ((pending_first hop _ _).trans (if_pos hi)) rfl rfl
      · rw [rest_unlock, rest_ret] at hrest
        rcases hrest with ⟨-, heq⟩ | ⟨-, heq⟩
        · cases heq
        · cases heq
    · rw [if_neg Bool.false_ne_true, rest_ret] at hrest
      cases hrest.2

/-- A registration that returns is not pending. -/
theorem pending_of_register_ret {out : Output Fn Args} (hop : op.registers = some (i, o))
    (hrest : (Output.result <$> registerSharedHelper i c o persist :
      InterruptProg Fn Args (Output Fn Args)).Rest steps (.ret out)) : op.pending steps = none := by
  rw [registerSharedHelper_eq, rest_lock, rest_act] at hrest
  rcases hrest with ⟨-, heq⟩ | ⟨-, heq⟩ | ⟨inserted, s₀, s₁, later, hemplace, rfl, hrest⟩
  · cases heq
  · cases heq
  · rw [rest_unlock] at hrest
    rcases hrest with ⟨-, heq⟩ | hrest
    · cases heq
    rcases emplace_eq_ok hemplace with ⟨-, rfl, -⟩ | ⟨hi, rfl, -⟩
    · rw [if_pos rfl, rest_lock, rest_act] at hrest
      rcases hrest with ⟨-, heq⟩ | ⟨-, heq⟩ | ⟨-, t, t', later, -, rfl, -⟩
      · cases heq
      · cases heq
      · -- it has made both of its actions
        unfold Op.pending
        split
        · next hsteps =>
          have hlength := congrArg List.length hsteps
          simp only [List.length_append, List.length_singleton] at hlength
          omega
        · rfl
    · rw [if_neg Bool.false_ne_true, rest_ret] at hrest
      obtain ⟨rfl, -⟩ := hrest
      exact (pending_first hop _ _).trans (if_neg hi)

/-- What the next action of a call does. -/
theorem effect_of_rest {β : Type}
    {g : InterruptShared Fn Args → Except InterruptFault (β × InterruptShared Fn Args)}
    {next : β → InterruptProg Fn Args (Output Fn Args)} {s s' : InterruptShared Fn Args} {b : β}
    (hspares : op.sparesQueues = true) (hrest : op.program.Rest steps (.act g next))
    (hok : g s = .ok (b, s')) : Effect op steps s s' := by
  cases hregisters : op.registers with
  | some r =>
    cases op with
    | registerFunction i f o persist => exact effect_of_register rfl hrest hok
    | registerFunctionParameters i f a o persist => exact effect_of_register rfl hrest hok
    | _ => cases hregisters
  | none =>
    have hkeeps := (acts_program hregisters hspares).rest hrest
    exact .keeps (Op.pending_of_registers_eq_none hregisters _)
      (Op.pending_of_registers_eq_none hregisters _) (hkeeps.1 s b s' hok)

/-- A call that returns is not pending. -/
theorem pending_of_ret {out : Output Fn Args} (hrest : op.program.Rest steps (.ret out)) :
    op.pending steps = none := by
  cases hregisters : op.registers with
  | some r =>
    cases op with
    | registerFunction i f o persist => exact pending_of_register_ret rfl hrest
    | registerFunctionParameters i f a o persist => exact pending_of_register_ret rfl hrest
    | _ => cases hregisters
  | none => exact Op.pending_of_registers_eq_none hregisters _

end InterruptProg

namespace InterruptThreads

open SchedulerInterrupt

/-- The call is a registration of the identifier between its two critical sections. -/
def pends (i : Int)
    (f : Frame (Op Fn Args) (InterruptShared Fn Args) InterruptMutex InterruptFault
      (Output Fn Args)) : Bool :=
  (f.call.pending f.steps).any fun r => r.1 == i

/-- The entries ever inserted under an identifier are in the queues or on their way, and every
    registered identifier is in the queue of its signal or on its way there. -/
structure Accounted [Fintype ι] (w : InterruptThreads ι Fn Args) : Prop where
  counted : ∀ i, ∑ o, (w.shared.tables.waiting o).count i + w.underWay (pends i) =
    w.shared.generation i
  housed : ∀ i o c, w.shared.tables.callbacks.lookup i = some (o, c) →
    i ∈ w.shared.tables.waiting o ∨
      ∃ t, ∃ f ∈ w.stack t, f.call.pending f.steps = some (i, o)

/-- The step is not the beginning of a cleaning or of a delivery. -/
def Event.sparesQueues : Event ι Fn Args → Bool
  | .call _ op => op.sparesQueues
  | .interrupt _ _ => false
  | .advance _ => true

/-- One more entry in a queue. -/
theorem sum_waiting_setQueue (s : SchedulerInterrupt Fn Args) (o : SignalOffset) (i j : Int)
    (persist : Bool) :
    ∑ x, ((s.setQueue o (s.signalQueues o ++ [(i, persist)])).waiting x).count j =
      ∑ x, (s.waiting x).count j + if i = j then 1 else 0 := by
  have hsum := Finset.sum_update_add s.signalQueues
    (fun q : List (Int × Bool) => (q.map Prod.fst).count j) o (s.signalQueues o ++ [(i, persist)])
  simp only [List.map_append, List.map_cons, List.map_nil, List.count_append,
    List.count_singleton, beq_iff_eq] at hsum
  show ∑ x, ((Function.update s.signalQueues o (s.signalQueues o ++ [(i, persist)]) x).map
    Prod.fst).count j = ∑ x, ((s.signalQueues x).map Prod.fst).count j + if i = j then 1 else 0
  omega

/-- Whatever an action inserts it announces, and what it puts into a queue it had announced. -/
theorem counted_of_effect {op : Op Fn Args}
    {steps : List (InterruptShared Fn Args × InterruptShared Fn Args)}
    {s s' : InterruptShared Fn Args} (h : InterruptProg.Effect op steps s s') (i : Int) :
    ∑ o, (s'.tables.waiting o).count i +
        (if (op.pending ((s, s') :: steps)).any (fun r => r.1 == i) then 1 else 0) +
        s.generation i =
      ∑ o, (s.tables.waiting o).count i +
        (if (op.pending steps).any (fun r => r.1 == i) then 1 else 0) + s'.generation i := by
  cases h with
  | @inserts j o c hop hsteps hj h =>
    rw [hsteps, InterruptProg.pending_first hop, if_pos hj, h]
    simp only [Op.pending, Option.any_some, Option.any_none, beq_iff_eq, Function.update_apply,
      SchedulerInterrupt.waiting, Bool.false_eq_true, if_false]
    by_cases hij : i = j
    · rw [if_pos hij.symm, if_pos hij, hij]
      omega
    · rw [if_neg (Ne.symm hij), if_neg hij]
  | @queues j o persist hpending hafter h =>
    rw [hpending, hafter, h]
    simp only [sum_waiting_setQueue, Option.any_some, Option.any_none, beq_iff_eq]
    split <;> simp
  | keeps hbefore hafter h =>
    rw [hbefore, hafter, h.generation]
    simp only [SchedulerInterrupt.waiting, h.queues]

/-- An entry is new only when its registration is pending, and a registration that was pending
    has put its identifier into the queue. -/
theorem housed_of_effect {op : Op Fn Args}
    {steps : List (InterruptShared Fn Args × InterruptShared Fn Args)}
    {s s' : InterruptShared Fn Args} (h : InterruptProg.Effect op steps s s') {i : Int}
    {o : SignalOffset} {c : HandlerCallback Fn Args}
    (hi : s'.tables.callbacks.lookup i = some (o, c)) :
    i ∈ s'.tables.waiting o ∨ op.pending ((s, s') :: steps) = some (i, o) ∨
      ((∃ c', s.tables.callbacks.lookup i = some (o, c')) ∧
        (i ∈ s.tables.waiting o → i ∈ s'.tables.waiting o) ∧ op.pending steps ≠ some (i, o)) := by
  cases h with
  | @inserts j x d hop hsteps hj h =>
    -- the new callback is registered, and the call has yet to queue it
    rw [h, UMap.lookup_insert_eq_ite] at hi
    split at hi
    · next hij =>
      cases hi
      rw [hsteps, hij]
      exact .inr (.inl ((InterruptProg.pending_first hop _ _).trans (if_pos hj)))
    · refine .inr (.inr ⟨⟨c, hi⟩, fun hwaits => ?_, ?_⟩)
      · rw [h]
        exact hwaits
      · rw [hsteps]
        nofun
  | @queues j x persist hpending hafter h =>
    rw [h] at hi ⊢
    -- the call queues what it has inserted, which may be this identifier
    by_cases heq : (j, x) = (i, o)
    · cases heq
      left
      show i ∈ ((Function.update s.tables.signalQueues o
        (s.tables.signalQueues o ++ [(i, persist)])) o).map Prod.fst
      rw [Function.update_self, List.map_append]
      exact List.mem_append_right _ (List.mem_singleton_self i)
    · refine .inr (.inr ⟨⟨c, hi⟩, fun hwaits => ?_, ?_⟩)
      -- queues only grow
      · show i ∈ ((Function.update s.tables.signalQueues x
          (s.tables.signalQueues x ++ [(j, persist)])) o).map Prod.fst
        rw [Function.update_apply]
        split
        · next hx =>
          rw [List.map_append, ← hx]
          exact List.mem_append_left _ hwaits
        · exact hwaits
      · rw [hpending]
        exact fun h => heq (Option.some.inj h)
  | keeps hbefore hafter h =>
    -- every other step keeps the queues and adds no callback
    refine .inr (.inr ⟨h.callbacks i o c hi, fun hwaits => ?_, ?_⟩)
    · unfold SchedulerInterrupt.waiting
      rw [h.queues]
      exact hwaits
    · rw [hbefore]
      nofun

variable [Fintype ι] [DecidableEq ι] {w w' : InterruptThreads ι Fn Args}

/-- The tables stay accounted for when the books of the one call that makes a step balance. -/
theorem Accounted.of_top (hw : w.Accounted) {t : ι}
    {f : Frame (Op Fn Args) (InterruptShared Fn Args) InterruptMutex InterruptFault
      (Output Fn Args)}
    {rest : List (Frame (Op Fn Args) (InterruptShared Fn Args) InterruptMutex InterruptFault
      (Output Fn Args))}
    (top : List (Frame (Op Fn Args) (InterruptShared Fn Args) InterruptMutex InterruptFault
      (Output Fn Args)))
    (hstack : w.stack t = f :: rest)
    (hstack' : w'.stack = Function.update w.stack t (top ++ rest))
    (hcounted : ∀ i, ∑ o, (w'.shared.tables.waiting o).count i + top.countP (pends i) +
        w.shared.generation i =
      ∑ o, (w.shared.tables.waiting o).count i + (if pends i f then 1 else 0) +
        w'.shared.generation i)
    (hhoused : ∀ i o c, w'.shared.tables.callbacks.lookup i = some (o, c) →
      i ∈ w'.shared.tables.waiting o ∨ (∃ g ∈ top, g.call.pending g.steps = some (i, o)) ∨
      ((∃ c', w.shared.tables.callbacks.lookup i = some (o, c')) ∧
        (i ∈ w.shared.tables.waiting o → i ∈ w'.shared.tables.waiting o) ∧
        f.call.pending f.steps ≠ some (i, o))) :
    w'.Accounted where
  counted i := by
    have hbefore := hw.counted i
    -- the other calls that are under way count what they counted
    have htop := Threads.underWay_update hstack hstack' (pends i)
    have hstep := hcounted i
    omega
  housed i o c hi := by
    rcases hhoused i o c hi with hwaits | ⟨g, hg, hpending⟩ | ⟨⟨c', hi'⟩, hwaits, hf⟩
    · exact .inl hwaits
    · refine .inr ⟨t, g, ?_, hpending⟩
      rw [hstack', Function.update_self]
      exact List.mem_append_left rest hg
    · cases hw.housed i o c' hi' with
      | inl hold => exact .inl (hwaits hold)
      | inr hold =>
        -- the call that is pending is not the one that made the step
        obtain ⟨u, g, hg, hpending⟩ := hold
        refine .inr ⟨u, g, ?_, hpending⟩
        rw [hstack', Function.update_apply]
        split
        · next hu =>
          rw [hu, hstack] at hg
          rcases List.mem_cons.mp hg with rfl | hrest
          · exact absurd hpending hf
          · exact List.mem_append_right top hrest
        · exact hg

/-- A step that does not touch the tables. -/
theorem Accounted.of_shared_eq (hw : w.Accounted) {t : ι}
    {f : Frame (Op Fn Args) (InterruptShared Fn Args) InterruptMutex InterruptFault
      (Output Fn Args)}
    {rest : List (Frame (Op Fn Args) (InterruptShared Fn Args) InterruptMutex InterruptFault
      (Output Fn Args))}
    (top : List (Frame (Op Fn Args) (InterruptShared Fn Args) InterruptMutex InterruptFault
      (Output Fn Args)))
    (hstack : w.stack t = f :: rest)
    (hstack' : w'.stack = Function.update w.stack t (top ++ rest))
    (hshared : w'.shared = w.shared)
    (htop : (∃ g, top = [g] ∧ g.call.pending g.steps = f.call.pending f.steps) ∨
      (top = [] ∧ f.call.pending f.steps = none)) : w'.Accounted := by
  apply hw.of_top top hstack hstack'
  · -- as many frames are about to push the identifier as before
    intro i
    rw [hshared]
    rcases htop with ⟨g, rfl, hpending⟩ | ⟨rfl, hpending⟩
    · have hpends : pends i g = pends i f := by
        unfold pends
        rw [hpending]
      rw [List.countP_singleton, hpends]
    · have hpends : pends i f = false := by
        unfold pends
        rw [hpending]
        rfl
      rw [hpends]
      rfl
  · intro i o c hi
    rw [hshared] at hi ⊢
    -- a callback without an entry belongs to a frame that is still to push it
    by_cases hf : f.call.pending f.steps = some (i, o)
    · rcases htop with ⟨g, rfl, hpending⟩ | ⟨rfl, hpending⟩
      · exact .inr (.inl ⟨g, List.mem_singleton_self g, hpending.trans hf⟩)
      · rw [hpending] at hf
        cases hf
    · exact .inr (.inr ⟨⟨c, hi⟩, id, hf⟩)

/-- No call under way takes an entry out of a queue, and all are on their programs. -/
abbrev Registering (w : InterruptThreads ι Fn Args) : Prop :=
  w.Follows Op.program fun op => op.sparesQueues = true

/-- A step of a thread leaves everything accounted for. -/
theorem Accounted.advance (hw : w.Accounted) (hregistering : w.Registering) {t : ι}
    {out : Option (Output Fn Args)} (h : Threads.Advance w t out w') : w'.Accounted := by
  cases h with
  | @returns f rest a hstack hprog =>
    obtain ⟨-, hrest⟩ := hregistering t f (hstack ▸ List.mem_cons_self)
    rw [hprog] at hrest
    exact hw.of_shared_eq [] hstack rfl rfl
      (.inr ⟨rfl, InterruptProg.pending_of_ret hrest⟩)
  | @locks f rest m next hstack hprog hfree =>
    exact hw.of_shared_eq [_] hstack rfl rfl (.inl ⟨_, rfl, rfl⟩)
  | @unlocks f rest m next hstack hprog howner =>
    exact hw.of_shared_eq [_] hstack rfl rfl (.inl ⟨_, rfl, rfl⟩)
  | @acts f rest β g next b s hstack hprog hok =>
    obtain ⟨hspares, hrest⟩ := hregistering t f (hstack ▸ List.mem_cons_self)
    rw [hprog] at hrest
    have heffect := InterruptProg.effect_of_rest hspares hrest hok
    apply hw.of_top [_] hstack rfl
    · intro i
      rw [List.countP_singleton]
      exact counted_of_effect heffect i
    · intro i o c hi
      rcases housed_of_effect heffect hi with hwaits | hpending | hold
      · exact .inl hwaits
      · exact .inr (.inl ⟨_, List.mem_singleton_self _, hpending⟩)
      · exact .inr (.inr hold)

/-- A call that begins has made no action yet. -/
theorem Accounted.start (hw : w.Accounted) (t : ι) (op : Op Fn Args) :
    Accounted (w.start t op op.program) where
  counted i := by
    rw [Threads.underWay_start]
    exact hw.counted i
  housed i o c hi := by
    cases hw.housed i o c hi with
    | inl hwaits => exact .inl hwaits
    | inr hpends =>
      obtain ⟨u, f, hf, hpending⟩ := hpends
      refine .inr ⟨u, f, ?_, hpending⟩
      simp only [Threads.start, Function.update_apply]
      split
      · next hu => exact List.mem_cons_of_mem _ (hu ▸ hf)
      · exact hf

/-- A step of the interleaving that begins neither a cleaning nor a delivery. -/
theorem accounted_step {e : Event ι Fn Args} {out : Option (Output Fn Args)}
    (hw : w.Registering ∧ w.Accounted) (he : e.sparesQueues = true)
    (h : step w e = .ok (out, w')) : w'.Registering ∧ w'.Accounted := by
  cases e with
  | call t op =>
    simp only [step] at h
    split at h
    · cases h
      exact ⟨hw.1.start t he, hw.2.start t op⟩
    · cases h
      exact hw
  | interrupt t signal => cases he
  | advance t =>
    have hadvance := Threads.advance_eq_ok_iff.mp h
    exact ⟨hw.1.advance hadvance, hw.2.advance hw.1 hadvance⟩

omit [DecidableEq ι] in
/-- Nothing is registered at first. -/
theorem accounted_idle :
    Accounted (Threads.idle ⟨.initial, fun _ => 0⟩ : InterruptThreads ι Fn Args) where
  counted i := by
    rw [Threads.underWay_idle]
    rfl
  housed i o c hi := by cases hi

/-- However registrations, updates and removals are interleaved, what was ever inserted under
    an identifier is in the queues or on its way there, and every registered identifier is in
    the queue of its signal or on its way to it. -/
theorem accounted_of_sparesQueues (events : List (Event ι Fn Args))
    (hevents : ∀ e ∈ events, e.sparesQueues = true) :
    ∀ w ∈ StepRun.visited step (Threads.idle ⟨.initial, fun _ => 0⟩) events, w.Accounted := by
  intro w hw
  have hkeep := StepRun.forall_visited_of_ops
    (I := fun w : InterruptThreads ι Fn Args => w.Registering ∧ w.Accounted)
    (fun _ _ _ _ hw he h => accounted_step hw he h) ⟨Threads.follows_idle _, accounted_idle⟩
    hevents
  exact (hkeep w hw).2

/-- Two threads register functions for one signal, and the first one has not got to the queue. -/
def registersTwice : List (Event Bool Unit Unit) :=
  [.call false (.registerFunction 1 (some ()) .sigabrt true), .advance false, .advance false,
    .advance false] ++ .call true (.registerFunction 2 (some ()) .sigabrt true) ::
    List.replicate 7 (.advance true)

theorem accounted_registersTwice :
    (StepRun.final step (Threads.idle ⟨.initial, fun _ => 0⟩) registersTwice).Accounted :=
  accounted_of_sparesQueues registersTwice (by decide) _ (StepRun.final_mem_visited _ _)

end InterruptThreads

end NetworkedFS
