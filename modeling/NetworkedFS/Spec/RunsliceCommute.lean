import NetworkedFS.Spec.RunsliceHoused

/-!
# Independence of the tasks of different identifiers

An operation on one identifier reads little of the scheduler (`Seen`): the flag of the
identifier, the first entry it has in the queue that the flag names, and how many
registrations were made.  From this follows what it answers and what it does
(`Op.act`), which is an `Edit`: entries are put at the front of the queues, the first
entry of the identifier is replaced or erased, and the flag changes.  An edit for one
identifier is not seen by operations on another, and edits without new front entries
commute with all edits of other identifiers.

## Key results

- `step_act`: an operation on an identifier is determined by what it sees;
- `edits_commute`: updates and removals commute with operations on other identifiers,
  whose entries no operation touches.
-/

namespace NetworkedFS

namespace SchedulerRunslice

variable {Fn Args : Type}

/-- What an operation on one identifier reads. -/
structure Seen (Fn Args : Type) where
  flag : Option Bool
  entry : Option (RunsliceEntry Fn Args)
  registrations : Nat

def seen (s : SchedulerRunslice Fn Args) (i : Int) : Seen Fn Args where
  flag := s.isPriorityLookup.lookup i
  entry := (s.isPriorityLookup.lookup i).bind fun p => (s.queue p).find? (hasIdentifier i)
  registrations := s.registrations

/-- What an operation on one identifier does. -/
structure Edit (Fn Args : Type) where
  /-- The entries that are put at the front of each queue. -/
  front : Bool → List (RunsliceEntry Fn Args) := fun _ => []
  /-- What becomes of the identifier's first entry in each queue. -/
  first : Bool → RunsliceEntry Fn Args → Option (RunsliceEntry Fn Args) := fun _ => some
  /-- The identifier's flag afterwards. -/
  flag : Option Bool
  /-- How many registrations are made. -/
  made : Nat := 0

namespace Seen

variable (v : Seen Fn Args)

/-- A registration is made when the identifier is free. -/
def enqueue (i : Int) (callback : HandlerCallback Fn Args) (isPriority persist : Bool) :
    Bool × Edit Fn Args :=
  match v.flag with
  | none => (true, {
      front := fun p =>
        if p = isPriority then [⟨i, persist, callback, v.registrations⟩] else []
      flag := some isPriority
      made := 1 })
  | some p => (false, { flag := some p })

/-- The first entry moves to the front of the other queue. -/
def move (isPriority : Bool) : Bool × Edit Fn Args :=
  match v.flag, v.entry with
  | some current, some e =>
    if current = isPriority then (true, { flag := some isPriority })
    else (true, {
      front := fun p => if p = isPriority then [e] else []
      first := fun p e => if p = current then none else some e
      flag := some isPriority })
  | _, _ => (false, { flag := v.flag })

/-- The first entry gets a callback, if this can be computed. -/
def assign (callback : RunsliceEntry Fn Args → Except Fault (HandlerCallback Fn Args)) :
    Except Fault (Bool × Edit Fn Args) :=
  match v.flag, v.entry with
  | some current, some e => (callback e).map fun c => (true, {
      first := fun p e => some (if p = current then { e with callback := c } else e)
      flag := some current })
  | _, _ => .ok (false, { flag := v.flag })

/-- The first entry and the flag go. -/
def remove : Bool × Edit Fn Args :=
  match v.flag with
  | some current => (true, {
      first := fun p e => if p = current then none else some e
      flag := none })
  | none => (false, { flag := none })

end Seen

/-- The identifier that an operation is about. -/
def Op.identifier : Op Fn Args → Option Int
  | .enqueueRegistration i _ _ _ => some i
  | .enqueueRegistrationParameters i _ _ _ _ => some i
  | .updateRegistrationPriority i _ => some i
  | .updateRegistration i _ => some i
  | .updateRegistrationParameters i _ _ => some i
  | .updateRegistrationParametersOnly i _ => some i
  | .removeRegistration i => some i
  | .setAlgorithmMode _ => none
  | .run => none
  | .clean => none

/-- The answer and the edit of an operation on an identifier, from what it sees. -/
def Op.act : Op Fn Args → Seen Fn Args → Except Fault (Bool × Edit Fn Args)
  | .enqueueRegistration i f p k, v =>
    .ok (v.enqueue i ((HandlerCallback.construct .empty).setBoundOrFreeFunction (.ofPointer f)) p k)
  | .enqueueRegistrationParameters i f a p k, v =>
    .ok (v.enqueue i ((HandlerCallback.construct .empty).setFunction f a) p k)
  | .updateRegistrationPriority _ p, v => .ok (v.move p)
  | .updateRegistration _ f, v =>
    v.assign fun e => .ok (e.callback.setBoundOrFreeFunction (.ofPointer f))
  | .updateRegistrationParameters _ none a, v => v.assign fun e => e.callback.setParameters a
  | .updateRegistrationParameters _ (some f) a, v =>
    v.assign fun e => .ok (e.callback.setFunction (some f) a)
  | .updateRegistrationParametersOnly _ a, v => v.assign fun e => e.callback.setParameters a
  | .removeRegistration _, v => .ok v.remove
  -- the other operations are not about an identifier
  | .setAlgorithmMode _, v => .ok (false, { flag := v.flag })
  | .run, v => .ok (false, { flag := v.flag })
  | .clean, v => .ok (false, { flag := v.flag })

namespace Edit

/-- The edit made for identifier `i` leads from one state to the other. -/
structure Applies (i : Int) (edit : Edit Fn Args) (s s' : SchedulerRunslice Fn Args) : Prop where
  queue : ∀ p, s'.queue p = edit.front p ++ (s.queue p).alterFirst (hasIdentifier i) (edit.first p)
  lookup : ∀ j, s'.isPriorityLookup.lookup j =
    if j = i then edit.flag else s.isPriorityLookup.lookup j
  mode : s'.mode = s.mode
  registrations : s'.registrations = s.registrations + edit.made

/-- The edit puts and leaves no entries other than those of identifier `i`. -/
structure Proper (i : Int) (edit : Edit Fn Args) : Prop where
  front : ∀ p, ∀ e ∈ edit.front p, e.identifier = i
  first : ∀ p e, e.identifier = i → ∀ e' ∈ (edit.first p e).toList, e'.identifier = i

end Edit

/-! ## What an operation on an identifier does -/

/-- A change of the status is no edit. -/
theorem quiet_applies (s : SchedulerRunslice Fn Args) (i : Int) (d : DebugStatus) :
    Edit.Applies i { flag := s.isPriorityLookup.lookup i } s { s with status := d } := by
  refine ⟨fun p => ?_, fun j => ?_, rfl, rfl⟩
  · rw [List.alterFirst_some]
    rfl
  · split
    · next hj => rw [hj]
    · rfl

/-- An edit that only writes a flag adds no entry. -/
theorem quiet_proper (i : Int) (flag : Option Bool) :
    Edit.Proper i ({ flag := flag } : Edit Fn Args) := by
  refine ⟨fun p e he => absurd he List.not_mem_nil, fun p e he e' he' => ?_⟩
  rw [Option.mem_toList, Option.some.injEq] at he'
  exact he' ▸ he

/-- Erasing in one queue only, as a case split on the queue. -/
theorem alterFirst_erases (i : Int) (c : Prop) [Decidable c] (l : List (RunsliceEntry Fn Args)) :
    l.alterFirst (hasIdentifier i) (fun e => if c then none else some e) =
      if c then l.eraseP (hasIdentifier i) else l := by
  split
  · rw [List.eraseP_eq_alterFirst]
  · exact List.alterFirst_some _ l

/-- What erasing leaves is what was there. -/
theorem erases_proper (i : Int) (c : Prop) [Decidable c] {e : RunsliceEntry Fn Args}
    (he : e.identifier = i) :
    ∀ e' ∈ (if c then none else some e : Option (RunsliceEntry Fn Args)).toList,
      e'.identifier = i := by
  intro e' he'
  split at he'
  · exact absurd he' List.not_mem_nil
  · exact List.mem_singleton.mp he' ▸ he

/-- The operation gives the answer `r` says and makes its edit, or fails with it. -/
def Performs (s : SchedulerRunslice Fn Args) (i : Int) (r : Except Fault (Bool × Edit Fn Args))
    (call : Except Fault (Bool × SchedulerRunslice Fn Args)) : Prop :=
  (∃ b edit s', r = .ok (b, edit) ∧ call = .ok (b, s') ∧ edit.Proper i ∧ edit.Applies i s s') ∨
    ∃ f, r = .error f ∧ call = .error f

/-- The operations that find no registration report it and answer `false`. -/
theorem report_performs {s : SchedulerRunslice Fn Args} {i : Int} {e : RunsliceError}
    (h : ∃ d, s.report e = .ok { s with status := d }) :
    s.Performs i (.ok (false, { flag := s.isPriorityLookup.lookup i }))
      ((s.report e).map fun s => (false, s)) := by
  obtain ⟨d, hd⟩ := h
  refine Or.inl ⟨false, _, { s with status := d }, rfl, ?_, quiet_proper i _, quiet_applies s i d⟩
  rw [hd]
  rfl

/-- The two enqueue functions. -/
theorem enqueue_performs (s : SchedulerRunslice Fn Args) (i : Int) (c : HandlerCallback Fn Args)
    (p k : Bool) :
    s.Performs i (.ok ((s.seen i).enqueue i c p k)) (do
      let (result, s) ← s.enqueueSharedHelper i
      if result then return (true, s.emplaceRegistration i c p k) else return (false, s)) := by
  unfold enqueueSharedHelper Seen.enqueue
  cases hi : s.isPriorityLookup.lookup i with
  | none =>
    simp only [seen, hi]
    refine Or.inl ⟨true, _, s.emplaceRegistration i c p k, rfl, rfl, ⟨?_, ?_⟩, ?_, ?_, ?_, ?_⟩
    · intro q e he
      dsimp only at he
      split at he
      · rw [List.mem_singleton.mp he]
      · exact absurd he List.not_mem_nil
    · exact (quiet_proper i none).first
    · intro q
      simp only [emplaceRegistration, List.alterFirst_some]
      cases p <;> cases q <;> rfl
    · intro j
      simp only [emplaceRegistration, UMap.lookup_insert_eq_ite]
    · cases p <;> rfl
    · rfl
  | some q =>
    -- an occupied identifier is reported
    have hreport := report_performs (i := i) s.report_identifierIsOccupied
    obtain ⟨d, hd⟩ := s.report_identifierIsOccupied
    simp only [hi, hd] at hreport
    simp only [seen, hi, hd]
    exact hreport

/-- What a registered identifier sees in a housed registry. -/
theorem seen_of_housed {s : SchedulerRunslice Fn Args} (hs : s.view.Housed) {i : Int} {p : Bool}
    (hi : s.isPriorityLookup.lookup i = some p) :
    ∃ e, (s.queue p).find? (hasIdentifier i) = some e ∧ e.identifier = i ∧
      s.seen i = ⟨some p, some e, s.registrations⟩ := by
  obtain ⟨e, he, -, hei⟩ := find?_of_housed hs hi
  exact ⟨e, he, hei, by simp only [seen, hi, Option.bind_some, he]⟩

/-- The functions that write a callback through the iterator. -/
theorem assign_performs {s : SchedulerRunslice Fn Args} (hs : s.view.Housed) (i : Int)
    (callback : RunsliceEntry Fn Args → Except Fault (HandlerCallback Fn Args)) :
    s.Performs i ((s.seen i).assign callback) (do
      match ← s.updateSharedHelper i with
      | (some (p, entry), s) =>
        let c ← callback entry
        return (true, s.assignCallback p i c)
      | (none, s) => return (false, s)) := by
  unfold updateSharedHelper
  cases hi : s.isPriorityLookup.lookup i with
  | none =>
    -- an unknown identifier is reported, and nothing is assigned
    have hreport := report_performs (i := i) s.report_identifierNotAvailable
    obtain ⟨d, hd⟩ := s.report_identifierNotAvailable
    simp only [hi, hd] at hreport
    simp only [Seen.assign, seen, hi, hd]
    exact hreport
  | some p =>
    obtain ⟨e, he, -, hseen⟩ := seen_of_housed hs hi
    simp only [hseen, Seen.assign, he]
    cases hc : callback e with
    -- the callback refuses, and nothing is assigned either
    | error f => exact Or.inr ⟨f, rfl, by simp only [bind, Except.bind, hc]⟩
    | ok c =>
      refine Or.inl ⟨true, _, s.assignCallback p i c, rfl,
        by simp only [bind, Except.bind, hc, pure, Except.pure], ⟨?_, ?_⟩, ?_, ?_, ?_, ?_⟩
      · exact (quiet_proper i none).front
      · intro q e he e' he'
        rw [Option.mem_toList, Option.some.injEq] at he'
        rw [← he']
        split <;> exact he
      -- the first entry of the identifier is the one that is written
      · intro q
        simp only [assignCallback, queue_setQueue, List.nil_append]
        split
        · next hq => rw [List.updateFirst_eq_alterFirst, hq]
        · exact (List.alterFirst_some _ _).symm
      · intro j
        simp only [assignCallback, isPriorityLookup_setQueue]
        split
        · next hj => rw [hj, hi]
        · rfl
      · cases p <;> rfl
      · cases p <;> rfl

/-- A removal takes out what the identifier has, or reports that there is none. -/
theorem removeRegistration_performs {s : SchedulerRunslice Fn Args} (hs : s.view.Housed)
    (i : Int) : s.Performs i (.ok (s.seen i).remove) (s.removeRegistration i) := by
  unfold removeRegistration removeRegistrationInline
  cases hi : s.isPriorityLookup.lookup i with
  | none =>
    have hreport := report_performs (i := i) s.report_identifierNotAvailable
    simp only [hi] at hreport
    simp only [Seen.remove, seen, hi]
    exact hreport
  | some p =>
    obtain ⟨e, he, -, hseen⟩ := seen_of_housed hs hi
    simp only [hseen, Seen.remove, he]
    -- the entry leaves the queue that the lookup names, and no other
    refine Or.inl ⟨true, _, _, rfl, rfl, ⟨?_, ?_⟩, ?_, ?_, ?_, ?_⟩
    · exact (quiet_proper i none).front
    · exact fun q e he => erases_proper i (q = p) he
    · intro q
      rw [List.nil_append, alterFirst_erases]
      calc _ = (s.setQueue p ((s.queue p).eraseP (hasIdentifier i))).queue q := rfl
        _ = _ := by
          rw [queue_setQueue]
          split
          · next hq => rw [hq]
          · rfl
    · intro j
      simp only [UMap.lookup_erase_eq_ite]
    · cases p <;> rfl
    · cases p <;> rfl

/-- A change of the priority moves the entry, unless it is where it should be. -/
theorem updateRegistrationPriority_performs {s : SchedulerRunslice Fn Args} (hs : s.view.Housed)
    (i : Int) (p : Bool) :
    s.Performs i (.ok ((s.seen i).move p)) (s.updateRegistrationPriority i p) := by
  unfold updateRegistrationPriority
  cases hi : s.isPriorityLookup.lookup i with
  | none =>
    -- an unknown identifier is reported
    have hreport := report_performs (i := i) s.report_identifierNotAvailable
    simp only [hi] at hreport
    simp only [Seen.move, seen, hi]
    exact hreport
  | some current =>
    -- a registered one is in the queue that its flag says
    obtain ⟨e, he, hei, hseen⟩ := seen_of_housed hs hi
    simp only [hseen, Seen.move, he]
    by_cases hp : current = p
    · -- the flag is written again
      rw [if_pos hp, if_neg (not_not.mpr hp)]
      refine Or.inl ⟨true, _, _, rfl, rfl, quiet_proper i _, ?_, ?_, rfl, rfl⟩
      · intro q
        rw [List.alterFirst_some]
        rfl
      · intro j
        simp only [UMap.lookup_insert_eq_ite]
    · rw [if_neg hp, if_pos hp]
      refine Or.inl ⟨true, _, _, rfl, rfl, ⟨?_, ?_⟩, ?_, ?_, ?_, ?_⟩
      · intro q x hx
        dsimp only at hx
        split at hx
        · rw [List.mem_singleton.mp hx, hei]
        · exact absurd hx List.not_mem_nil
      · exact fun q e he => erases_proper i (q = current) he
      · -- the queue that loses the entry is not the one that gains it
        intro q
        let t := s.setQueue p (e :: s.queue p)
        calc _ = (t.setQueue current ((t.queue current).eraseP (hasIdentifier i))).queue q := rfl
          _ = _ := by
            rw [alterFirst_erases, queue_setQueue, queue_setQueue, queue_setQueue, if_neg hp]
            dsimp only
            by_cases hq : q = current
            · rw [if_pos hq, if_pos hq, if_neg (hq ▸ hp), List.nil_append, hq]
            · rw [if_neg hq, if_neg hq]
              split
              · next hqp => rw [hqp, List.singleton_append]
              · exact (List.nil_append _).symm
      · intro j
        simp only [UMap.lookup_insert_eq_ite, isPriorityLookup_setQueue]
      · cases p <;> cases current <;> rfl
      · cases p <;> cases current <;> rfl

/-- An operation on an identifier, in a housed registry, gives the answer and makes the
    edit that follow from what it sees. -/
theorem step_act {s : SchedulerRunslice Fn Args} (hs : s.view.Housed) {op : Op Fn Args} {i : Int}
    (hop : op.identifier = some i) :
    (∃ b edit s', op.act (s.seen i) = .ok (b, edit) ∧ s.step op = .ok (.result b, s') ∧
      edit.Proper i ∧ edit.Applies i s s') ∨
    ∃ f, op.act (s.seen i) = .error f ∧ s.step op = .error f := by
  -- the step only wraps the boolean result of the call
  let wrap : Bool × SchedulerRunslice Fn Args → Output Fn Args × SchedulerRunslice Fn Args :=
    fun (r, s) => (.result r, s)
  have hwrap : ∀ {r : Except Fault (Bool × Edit Fn Args)} {call}, s.Performs i r call →
      (∃ b edit s', r = .ok (b, edit) ∧ call.map wrap = .ok (.result b, s') ∧
        edit.Proper i ∧ edit.Applies i s s') ∨
      ∃ f, r = .error f ∧ call.map wrap = .error f := by
    rintro r call (⟨b, edit, s', hr, hcall, hedit⟩ | ⟨f, hr, hcall⟩)
    · exact Or.inl ⟨b, edit, s', hr, by rw [hcall]; rfl, hedit⟩
    · exact Or.inr ⟨f, hr, by rw [hcall]; rfl⟩
  cases op with
  | enqueueRegistration j f p k =>
    cases hop
    exact hwrap (enqueue_performs s i _ p k)
  | enqueueRegistrationParameters j f a p k =>
    cases hop
    exact hwrap (enqueue_performs s i _ p k)
  | updateRegistrationPriority j p =>
    cases hop
    exact hwrap (updateRegistrationPriority_performs hs i p)
  | updateRegistration j f =>
    cases hop
    exact hwrap (assign_performs hs i fun e => .ok _)
  | updateRegistrationParameters j f a =>
    cases hop
    cases f with
    | none => exact hwrap (assign_performs hs i fun e => e.callback.setParameters a)
    | some f => exact hwrap (assign_performs hs i fun e => .ok _)
  | updateRegistrationParametersOnly j a =>
    cases hop
    exact hwrap (assign_performs hs i fun e => e.callback.setParameters a)
  | removeRegistration j =>
    cases hop
    exact hwrap (removeRegistration_performs hs i)
  | setAlgorithmMode m => cases hop
  | run => cases hop
  | clean => cases hop

/-! ## Edits for different identifiers -/

/-- An entry of one identifier is not one of another. -/
theorem hasIdentifier_eq_false {a b : Int} (hab : a ≠ b) {e : RunsliceEntry Fn Args}
    (he : e.identifier = a) : hasIdentifier b e = false := by
  simpa only [hasIdentifier, he, beq_eq_false_iff_ne] using hab

/-- What an edit for `a` puts or leaves is not of identifier `b`. -/
theorem Edit.Proper.hasIdentifier_first {a b : Int} (hab : a ≠ b) {edit : Edit Fn Args}
    (hedit : edit.Proper a) (p : Bool) (e : RunsliceEntry Fn Args)
    (he : hasIdentifier a e = true) :
    ∀ e' ∈ (edit.first p e).toList, hasIdentifier b e' = false := fun e' he' =>
  hasIdentifier_eq_false hab (hedit.first p e (beq_iff_eq.mp he) e' he')

/-- An operation on `b` does not see an edit for `a`, other than in the number of
    registrations. -/
theorem Edit.Applies.seen {a b : Int} (hab : a ≠ b) {edit : Edit Fn Args}
    (hedit : edit.Proper a) {s s' : SchedulerRunslice Fn Args} (h : edit.Applies a s s') :
    s'.seen b = { s.seen b with registrations := s.registrations + edit.made } := by
  have hlookup : s'.isPriorityLookup.lookup b = s.isPriorityLookup.lookup b := by
    rw [h.lookup, if_neg hab.symm]
  have hfind : ∀ p, (s'.queue p).find? (hasIdentifier b) = (s.queue p).find? (hasIdentifier b) := by
    intro p
    have hfront : (edit.front p).find? (hasIdentifier b) = none := by
      rw [List.find?_eq_none]
      intro e he
      rw [hasIdentifier_eq_false hab (hedit.front p e he)]
      decide
    rw [h.queue, List.find?_append, hfront, Option.none_or]
    exact List.find?_alterFirst (fun e he => hasIdentifier_eq_false hab (beq_iff_eq.mp he))
      (hedit.hasIdentifier_first hab p) (s.queue p)
  simp only [SchedulerRunslice.seen, hlookup, hfind, h.registrations]

/-- An edit for `a` leaves the entries of all other identifiers as they are, in their order. -/
theorem Edit.Applies.filter_queue {a : Int} {edit : Edit Fn Args} (hedit : edit.Proper a)
    {s s' : SchedulerRunslice Fn Args} (h : edit.Applies a s s') (p : Bool) :
    (s'.queue p).filter (·.identifier ≠ a) = (s.queue p).filter (·.identifier ≠ a) := by
  have hfront : (edit.front p).filter (·.identifier ≠ a) = [] := by
    rw [List.filter_eq_nil_iff]
    intro e he
    simp [hedit.front p e he]
  rw [h.queue, List.filter_append, hfront, List.nil_append]
  apply List.filter_alterFirst
  · intro e he
    simpa [hasIdentifier] using he
  · intro e he e' he'
    simpa using hedit.first p e (beq_iff_eq.mp he) e' he'

/-- The same queues in the same order, the same lookup and the same mode. -/
structure SameTasks (s t : SchedulerRunslice Fn Args) : Prop where
  queue : ∀ isPriority, s.queue isPriority = t.queue isPriority
  lookup : s.isPriorityLookup = t.isPriorityLookup
  mode : s.mode = t.mode

/-- Edits for different identifiers commute when one of them puts nothing to the front. -/
theorem sameTasks_of_applies {a b : Int} (hab : a ≠ b) {edit request : Edit Fn Args}
    (hedit : edit.Proper a) (hrequest : request.Proper b) (hfront : ∀ p, edit.front p = [])
    {s s₁ s₂ t₁ t₂ : SchedulerRunslice Fn Args} (h₁ : edit.Applies a s s₁)
    (ht₁ : request.Applies b s₁ t₁) (h₂ : request.Applies b s s₂) (ht₂ : edit.Applies a s₂ t₂) :
    t₁.SameTasks t₂ := by
  constructor
  · intro p
    have hcomm : ((s.queue p).alterFirst (hasIdentifier a) (edit.first p)).alterFirst
          (hasIdentifier b) (request.first p) =
        ((s.queue p).alterFirst (hasIdentifier b) (request.first p)).alterFirst
          (hasIdentifier a) (edit.first p) :=
      List.alterFirst_comm (fun e he => hasIdentifier_eq_false hab (beq_iff_eq.mp he))
        (hedit.hasIdentifier_first hab p) (hrequest.hasIdentifier_first hab.symm p) (s.queue p)
    -- the search for an entry of `a` passes over what `request` put to the front
    have hpass : ∀ e ∈ request.front p, hasIdentifier a e = false := fun e he =>
      hasIdentifier_eq_false hab.symm (hrequest.front p e he)
    calc t₁.queue p
        = request.front p ++ ((s.queue p).alterFirst (hasIdentifier a) (edit.first p)).alterFirst
            (hasIdentifier b) (request.first p) := by
          rw [ht₁.queue, h₁.queue, hfront, List.nil_append]
      _ = request.front p ++ ((s.queue p).alterFirst (hasIdentifier b)
            (request.first p)).alterFirst (hasIdentifier a) (edit.first p) := by rw [hcomm]
      _ = t₂.queue p := by
          rw [ht₂.queue, h₂.queue, hfront, List.nil_append,
            List.alterFirst_append_of_forall hpass]
  · apply Finmap.ext_lookup
    intro j
    rw [ht₁.lookup, h₁.lookup, ht₂.lookup, h₂.lookup]
    by_cases hja : j = a
    · rw [if_neg (hja.trans_ne hab), if_pos hja, if_pos hja]
    · rw [if_neg hja, if_neg hja]
  · rw [ht₁.mode, h₁.mode, ht₂.mode, h₂.mode]

/-! ## The operations -/

/-- The operations on `a` that make no registration and do not move one. -/
inductive Op.Edits (a : Int) : Op Fn Args → Prop
  | updateRegistration (f : Option Fn) : Op.Edits a (.updateRegistration a f)
  | removeRegistration : Op.Edits a (.removeRegistration a)

/-- The parameter-free operations on `b`. -/
inductive Op.Requests (b : Int) : Op Fn Args → Prop
  | enqueueRegistration (f : Option Fn) (isPriority persist : Bool) :
    Op.Requests b (.enqueueRegistration b f isPriority persist)
  | updateRegistrationPriority (isPriority : Bool) :
    Op.Requests b (.updateRegistrationPriority b isPriority)
  | updateRegistration (f : Option Fn) : Op.Requests b (.updateRegistration b f)
  | removeRegistration : Op.Requests b (.removeRegistration b)

/-- Both orders of two calls return, with the same two answers and the same tasks. -/
def Commute (s : SchedulerRunslice Fn Args) (edit request : Op Fn Args) : Prop :=
  ∃ answer answer' s₁ t₁ s₂ t₂,
    s.step edit = .ok (.result answer, s₁) ∧ s₁.step request = .ok (.result answer', t₁) ∧
    s.step request = .ok (.result answer', s₂) ∧ s₂.step edit = .ok (.result answer, t₂) ∧
    t₁.SameTasks t₂

/-- An update or removal always has an answer, and its edit puts nothing to the front and
    makes no registration. -/
theorem Op.Edits.act {a : Int} {op : Op Fn Args} (hop : op.Edits a) (v : Seen Fn Args) :
    op.identifier = some a ∧ ∃ answer edit, op.act v = .ok (answer, edit) ∧
      (∀ p, edit.front p = []) ∧ edit.made = 0 ∧
      ∀ n, op.act { v with registrations := n } = .ok (answer, edit) := by
  obtain ⟨flag, entry, registrations⟩ := v
  cases hop with
  | updateRegistration f =>
    cases flag <;> cases entry <;> exact ⟨rfl, _, _, rfl, fun _ => rfl, rfl, fun _ => rfl⟩
  | removeRegistration =>
    cases flag <;> exact ⟨rfl, _, _, rfl, fun _ => rfl, rfl, fun _ => rfl⟩

/-- A request always has an answer. -/
theorem Op.Requests.act {b : Int} {op : Op Fn Args} (hop : op.Requests b) (v : Seen Fn Args) :
    op.identifier = some b ∧ ∃ answer request, op.act v = .ok (answer, request) := by
  obtain ⟨flag, entry, registrations⟩ := v
  cases hop with
  | enqueueRegistration f p k => exact ⟨rfl, _, _, rfl⟩
  | updateRegistrationPriority p => exact ⟨rfl, _, _, rfl⟩
  | updateRegistration f => cases flag <;> cases entry <;> exact ⟨rfl, _, _, rfl⟩
  | removeRegistration => exact ⟨rfl, _, _, rfl⟩

/-- A call for an identifier that has an answer returns with it. -/
theorem step_of_act {s : SchedulerRunslice Fn Args} (hs : s.view.Housed) {op : Op Fn Args}
    {i : Int} (hop : op.identifier = some i) {answer : Bool} {edit : Edit Fn Args}
    (hact : op.act (s.seen i) = .ok (answer, edit)) :
    edit.Proper i ∧ ∃ s', s.step op = .ok (.result answer, s') ∧ edit.Applies i s s' := by
  rcases step_act hs hop with ⟨b, e, s', hact', hstep, hproper, happlies⟩ | ⟨f, hact', -⟩
  · rw [hact] at hact'
    cases hact'
    exact ⟨hproper, s', hstep, happlies⟩
  · rw [hact] at hact'
    cases hact'

/-- An edit and a request of different identifiers, in either order. -/
theorem commute_of_housed {s : SchedulerRunslice Fn Args} (hs : s.view.Housed) {a b : Int}
    (hab : a ≠ b) {edit request : Op Fn Args} (hedit : edit.Edits a)
    (hrequest : request.Requests b) : s.Commute edit request := by
  have hkeep : ∀ {s s' : SchedulerRunslice Fn Args} {op o}, s.view.Housed →
      s.step op = .ok (o, s') → s'.view.Housed := fun hhoused hok =>
    let ⟨_, heffect⟩ := step_effect hok
    hhoused.step heffect.registry
  obtain ⟨hida, answer, e, hacte, hfront, hmade, hacte'⟩ := hedit.act (s.seen a)
  obtain ⟨hidb, answer', r, hactr⟩ := hrequest.act (s.seen b)
  -- each call in the state it finds first
  obtain ⟨hproper, s₁, hs₁, h₁⟩ := step_of_act hs hida hacte
  obtain ⟨hproper', s₂, hs₂, h₂⟩ := step_of_act hs hidb hactr
  -- and after the other one, which it does not see
  have hseenb : s₁.seen b = s.seen b := by
    rw [h₁.seen hab hproper, hmade]
    rfl
  have hseena : s₂.seen a = { s.seen a with registrations := s.registrations + r.made } :=
    h₂.seen hab.symm hproper'
  obtain ⟨-, t₁, ht₁, happ₁⟩ := step_of_act (hkeep hs hs₁) hidb (hseenb ▸ hactr)
  obtain ⟨-, t₂, ht₂, happ₂⟩ := step_of_act (hkeep hs hs₂) hida (hseena ▸ hacte' _)
  exact ⟨answer, answer', s₁, t₁, s₂, t₂, hs₁, ht₁, hs₂, ht₂,
    sameTasks_of_applies hab hproper hproper' hfront h₁ happ₁ h₂ happ₂⟩

/-- The entries of identifiers other than `a` are as before, in their order, and so are
    their flags. -/
structure KeepsOthers (a : Int) (s s' : SchedulerRunslice Fn Args) : Prop where
  queue : ∀ isPriority, (s'.queue isPriority).filter (·.identifier ≠ a) =
    (s.queue isPriority).filter (·.identifier ≠ a)
  lookup : ∀ j, j ≠ a → s'.isPriorityLookup.lookup j = s.isPriorityLookup.lookup j

/-- A call for one identifier leaves those of the others as they are. -/
theorem keepsOthers_of_housed {s s' : SchedulerRunslice Fn Args} (hs : s.view.Housed)
    {op : Op Fn Args} {a : Int} (hop : op.identifier = some a) {o : Output Fn Args}
    (h : s.step op = .ok (o, s')) : KeepsOthers a s s' := by
  rcases step_act hs hop with ⟨b, edit, t, -, hstep, hproper, happlies⟩ | ⟨f, -, hstep⟩
  · rw [h] at hstep
    cases hstep
    exact ⟨happlies.filter_queue hproper, fun j hj => by rw [happlies.lookup, if_neg hj]⟩
  · rw [h] at hstep
    cases hstep

/-- In every reachable state an update or removal for one identifier commutes with the
    operations on another one, and no operation on an identifier touches the tasks of
    others. -/
theorem edits_commute {s : SchedulerRunslice Fn Args} (hs : StepRun.Reachable step construct s)
    {a b : Int} (hab : a ≠ b) :
    (∀ edit request : Op Fn Args, edit.Edits a → request.Requests b → s.Commute edit request) ∧
      ∀ op o s', op.identifier = some a → s.step op = .ok (o, s') → KeepsOthers a s s' :=
  ⟨fun _ _ hedit hrequest => commute_of_housed (housed hs) hab hedit hrequest,
    fun _ _ _ hop hstep => keepsOthers_of_housed (housed hs) hop hstep⟩

/-- Two entries of identifier 1, of which one is left from a task that has run, and one of
    identifier 2. -/
def duplicatedIdentifier : List (Op Unit Unit) :=
  [.enqueueRegistration 1 (some ()) false false, .run, .enqueueRegistration 1 (some ()) false true,
    .enqueueRegistration 2 (some ()) false true]

theorem edits_commute_duplicatedIdentifier :
    (∀ edit request : Op Unit Unit, edit.Edits 1 → request.Requests 2 →
      (StepRun.final step construct duplicatedIdentifier).Commute edit request) ∧
    ∀ op o s', op.identifier = some 1 →
      (StepRun.final step construct duplicatedIdentifier).step op = .ok (o, s') →
      KeepsOthers 1 (StepRun.final step construct duplicatedIdentifier) s' :=
  edits_commute (StepRun.Reachable.init.final duplicatedIdentifier) (by decide)

end SchedulerRunslice

end NetworkedFS
