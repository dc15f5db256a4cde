import NetworkedFS.Spec.RunsliceCommute
import NetworkedFS.Spec.RunsliceNoGhost

/-!
# Moving a registration between the queues of the slice scheduler

`updateRegistrationPriority` copies an entry to the front of one queue, erases it from the
other and rewrites the lookup.  As long as nothing was run, a registration has one entry,
in the queue that its flag names (`NoGhost`), so the three writes together move this entry
and nothing else.

## Key results

- `ReachedWithoutRun.noGhost`: without a `run()` there are no ghosts;
- `updateRegistrationPriority_moves`: a change of the priority moves one entry.
-/

namespace NetworkedFS

namespace SchedulerRunslice

variable {Fn Args : Type}

/-- The states that the operations other than `run()` lead to. -/
inductive ReachedWithoutRun : SchedulerRunslice Fn Args → Prop
  | construct : ReachedWithoutRun construct
  | step {s s' : SchedulerRunslice Fn Args} (op : Op Fn Args) {o : Output Fn Args} :
      ReachedWithoutRun s → op ≠ .run → s.step op = .ok (o, s') → ReachedWithoutRun s'

theorem ReachedWithoutRun.reachable {s : SchedulerRunslice Fn Args} (hs : s.ReachedWithoutRun) :
    StepRun.Reachable SchedulerRunslice.step SchedulerRunslice.construct s := by
  induction hs with
  | construct => exact .init
  | step op _ _ hok ih => exact ih.step hok

/-- Only a `run()` makes ghosts. -/
theorem ReachedWithoutRun.noGhost {s : SchedulerRunslice Fn Args} (hs : s.ReachedWithoutRun) :
    s.NoGhost := by
  induction hs with
  | construct => exact noGhost_construct
  | step op _ hop hok ih =>
    apply (ih.step_iff hok).mpr
    intro hruns
    exact hop hruns.1

/-- The one entry of a registered identifier. -/
theorem NoGhost.filter_queue {s : SchedulerRunslice Fn Args} (hs : s.NoGhost) {current : Bool}
    {e : RunsliceEntry Fn Args} (he : e ∈ s.queue current) (q : Bool) :
    (s.queue q).filter (hasIdentifier e.identifier) = if q = current then [e] else [] := by
  have hnamed := hs.named current e he
  split
  · next hq =>
    subst hq
    obtain ⟨front, back, hsplit⟩ := List.append_of_mem he
    -- a second entry of the identifier would be a duplicate
    have hnodup : ((s.queue q).map RunsliceEntry.identifier).Nodup := by
      rw [← map_key_view]
      exact ((noGhost_iff_clean s).mp hs).nodup q
    rw [hsplit, List.map_append, List.map_cons, List.nodup_middle, List.nodup_cons,
      List.mem_append, not_or] at hnodup
    have hother : ∀ l : List (RunsliceEntry Fn Args), e.identifier ∉ l.map RunsliceEntry.identifier →
        l.filter (hasIdentifier e.identifier) = [] := by
      intro l hl
      rw [List.filter_eq_nil_iff]
      intro x hx hxi
      exact hl (beq_iff_eq.mp hxi ▸ List.mem_map_of_mem hx)
    have hself : hasIdentifier e.identifier e = true := beq_self_eq_true e.identifier
    rw [hsplit, List.filter_append, List.filter_cons_of_pos hself, hother front hnodup.1.1,
      hother back hnodup.1.2, List.nil_append]
  · next hq =>
    rw [List.filter_eq_nil_iff]
    intro x hx hxi
    have hx' := hs.named q x hx
    rw [beq_iff_eq.mp hxi, hnamed, Option.some.injEq] at hx'
    exact hq hx'.symm

/-- The one entry `e` of identifier `i` goes from the queue `current` to the queue
    `isPriority`, and nothing else changes. -/
structure Moves (i : Int) (current isPriority : Bool) (s s' : SchedulerRunslice Fn Args)
    (e : RunsliceEntry Fn Args) : Prop where
  before : ∀ q, (s.queue q).filter (hasIdentifier i) = if q = current then [e] else []
  after : ∀ q, (s'.queue q).filter (hasIdentifier i) = if q = isPriority then [e] else []
  same : current = isPriority → s' = s
  /-- A change of the flag puts the entry to the front. -/
  front : current ≠ isPriority → s'.queue isPriority = e :: s.queue isPriority
  flag : s'.isPriorityLookup.lookup i = some isPriority
  others : KeepsOthers i s s'
  /-- The same call once more changes nothing. -/
  again : s'.updateRegistrationPriority i isPriority = .ok (true, s')

/-- Writing the flag that is there already changes nothing. -/
theorem updateRegistrationPriority_same {s : SchedulerRunslice Fn Args} {i : Int} {p : Bool}
    (hi : s.isPriorityLookup.lookup i = some p) :
    s.updateRegistrationPriority i p = .ok (true, s) := by
  simp only [updateRegistrationPriority, hi, ne_eq, not_true_eq_false, if_false,
    UMap.insert_of_lookup hi]

/-- What the call returns for a registered identifier, and what it does to the entry that
    `find_if` gives. -/
theorem updateRegistrationPriority_eq_ok {s : SchedulerRunslice Fn Args} {i : Int}
    {current : Bool} (hi : s.isPriorityLookup.lookup i = some current)
    {e : RunsliceEntry Fn Args} (he : (s.queue current).find? (hasIdentifier i) = some e)
    (p : Bool) :
    ∃ s', s.updateRegistrationPriority i p = .ok (true, s') ∧
      s'.isPriorityLookup.lookup i = some p ∧
      (current = p → s' = s) ∧
      (current ≠ p → s'.queue p = e :: s.queue p) := by
  by_cases hp : current = p
  · subst hp
    exact ⟨s, updateRegistrationPriority_same hi, hi, fun _ => rfl, fun h => absurd rfl h⟩
  · let t := s.setQueue p (e :: s.queue p)
    let u := t.setQueue current ((t.queue current).eraseP (hasIdentifier i))
    have hcall : s.updateRegistrationPriority i p =
        .ok (true, { u with isPriorityLookup := u.isPriorityLookup.insert i p }) := by
      simp only [updateRegistrationPriority, hi, ne_eq, hp, not_false_eq_true, if_true, he]
      rfl
    refine ⟨_, hcall, Finmap.lookup_insert _, fun h => absurd h hp, fun _ => ?_⟩
    calc u.queue p = t.queue p := by rw [queue_setQueue, if_neg (Ne.symm hp)]
      _ = e :: s.queue p := by rw [queue_setQueue, if_pos rfl]

/-- A change of the priority of a registered identifier moves its entry. -/
theorem updateRegistrationPriority_moves {s : SchedulerRunslice Fn Args}
    (hs : s.ReachedWithoutRun) {i : Int} {current : Bool}
    (hi : s.isPriorityLookup.lookup i = some current) (isPriority : Bool) :
    ∃ s' e, s.updateRegistrationPriority i isPriority = .ok (true, s') ∧
      Moves i current isPriority s s' e := by
  obtain ⟨e, he, hmem, rfl⟩ := find?_of_housed (housed hs.reachable) hi
  obtain ⟨s', hcall, hflag, hsame, hfront⟩ := updateRegistrationPriority_eq_ok hi he isPriority
  have hstep : s.step (.updateRegistrationPriority e.identifier isPriority) =
      .ok (.result true, s') := by
    simp only [step, hcall, Except.map]
  have hs' : s'.ReachedWithoutRun :=
    hs.step (.updateRegistrationPriority e.identifier isPriority) nofun hstep
  -- the entry stays, or goes to the front of the other queue
  have hmem' : e ∈ s'.queue isPriority := by
    by_cases hp : current = isPriority
    · rw [hsame hp, ← hp]
      exact hmem
    · rw [hfront hp]
      exact List.mem_cons_self
  refine ⟨s', e, hcall, ?_⟩
  constructor
  · exact hs.noGhost.filter_queue hmem
  · exact hs'.noGhost.filter_queue hmem'
  · exact hsame
  · exact hfront
  · exact hflag
  · exact keepsOthers_of_housed (housed hs.reachable) rfl hstep
  · exact updateRegistrationPriority_same hflag

/-- Two registrations in one queue, of which the first is moved. -/
theorem updateRegistrationPriority_moves_twoTasks :
    let s := StepRun.final step construct ([.enqueueRegistration 1 (some ()) false true,
      .enqueueRegistration 2 (some ()) false true] : List (Op Unit Unit))
    ∃ s' e, s.updateRegistrationPriority 1 true = .ok (true, s') ∧ Moves 1 false true s s' e :=
  updateRegistrationPriority_moves
    ((ReachedWithoutRun.construct.step (.enqueueRegistration 1 (some ()) false true) nofun
      rfl).step (.enqueueRegistration 2 (some ()) false true) nofun rfl)
    (by decide) true

end SchedulerRunslice

end NetworkedFS
