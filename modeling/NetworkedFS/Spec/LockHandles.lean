import NetworkedFS.ForStd.StepRun
import NetworkedFS.Native.CommonVariable
import NetworkedFS.Spec.TaskLedger

/-!
# Handles of common variables

`getCommonVariableLock` hands out a pointer into the table of common variables, and so do the
tasks that are constructed.  Whoever has such a pointer uses it without asking the table again.
This file says how long that is safe: tasks may be queued, started, destroyed and reordered, other
variables enlisted and removed, and locks set and cleared; the entry stays where it is, and goes on
to refer to what it referred to, until a removal of its own variable returns `true`.  Whoever has
set the lock of the variable keeps that from happening.

How the table came to have variables is left open: no call of `enlistCommonVariable` compiles.  An
address stands for the node of an entry as long as it exists, not for memory, which comes back.

## Key results

- `tableMove_of_step`: what a call does to the table, the counts aside;
- `handle_lives_until_removed`: how long a pointer leads to its entry;
- `held_lock_keeps_variable`: as long as its lock is held, a variable is not removed.
-/

namespace NetworkedFS

variable {Fn Ref : Type}

namespace ConcurrencyManager

/-- Where the entry of each variable is, and what it refers to. -/
def places (m : ConcurrencyManager Fn Ref) (name : String) : Option (Nat × Ref) :=
  (m.systemParameters.lookup name).map fun v => (v.address, v.reference)

/-- Whether the lock of each variable is set. -/
def locks (m : ConcurrencyManager Fn Ref) (name : String) : Option Bool :=
  (m.systemParameters.lookup name).map CommonVariable.lock

/-- Every entry is where it was. -/
structure SamePlaces (m m' : ConcurrencyManager Fn Ref) : Prop where
  places : m'.places = m.places

/-- At most the counts have changed. -/
structure SameEntries (m m' : ConcurrencyManager Fn Ref) : Prop extends SamePlaces m m' where
  locks : m'.locks = m.locks

/-- The manager hands out this pointer. -/
def HandsOut (m : ConcurrencyManager Fn Ref) (name : String) (p : EntryPointer) : Prop :=
  ∃ m', m.getCommonVariableLock name = .ok (some p, m')

/-- A pointer leads to an entry whose lock is set. -/
structure Held (m : ConcurrencyManager Fn Ref) (p : EntryPointer) : Prop where
  there : ∃ reference, m.places p.name = some (p.address, reference)
  locked : m.locks p.name = some true

/-- What the variable that a pointer leads to refers to. -/
def refers (m : ConcurrencyManager Fn Ref) (p : EntryPointer) : Option Ref :=
  (m.deref p).map CommonVariable.reference

theorem refers_eq_some_iff {m : ConcurrencyManager Fn Ref} {p : EntryPointer} {reference : Ref} :
    m.refers p = some reference ↔ m.places p.name = some (p.address, reference) := by
  rw [refers, deref, places]
  cases m.systemParameters.lookup p.name with
  | none => simp
  | some v =>
    by_cases haddress : v.address = p.address
    · simp [haddress]
    · simp [haddress]

variable {m m' m'' : ConcurrencyManager Fn Ref}

/-- A pointer that is handed out leads to the entry of its variable. -/
theorem HandsOut.places {name : String} {p : EntryPointer} (h : m.HandsOut name p) :
    p.name = name ∧ ∃ reference, m.places p.name = some (p.address, reference) := by
  obtain ⟨m', hlock⟩ := h
  unfold getCommonVariableLock at hlock
  split at hlock
  case h_1 v hlookup =>
    cases hlock
    refine ⟨rfl, v.reference, ?_⟩
    simp only [ConcurrencyManager.places, hlookup, Option.map_some]
  case h_2 =>
    obtain ⟨_, -, heq⟩ := Except.map_eq_ok_iff.mp hlock
    cases heq

theorem SameEntries.refl (m : ConcurrencyManager Fn Ref) : m.SameEntries m := ⟨⟨rfl⟩, rfl⟩

theorem SameEntries.trans (h : m.SameEntries m') (h' : m'.SameEntries m'') : m.SameEntries m'' where
  places := h'.places.trans h.places
  locks := h'.locks.trans h.locks

theorem SameEntries.of_eq (htable : m'.systemParameters = m.systemParameters) :
    m.SameEntries m' where
  places := by
    funext name
    rw [ConcurrencyManager.places, htable]
    rfl
  locks := by
    funext name
    rw [ConcurrencyManager.locks, htable]
    rfl

/-! ## What leaves the entries where they are -/

/-- Counting through pointers moves no entry and touches no lock. -/
theorem sameEntries_foldl_adjustAccess (delta : Int16) (ps : List EntryPointer)
    (m : ConcurrencyManager Fn Ref) : m.SameEntries (ps.foldl (adjustAccess delta) m) where
  places := by
    funext name
    rw [places, places, lookup_foldl_adjustAccess, Option.map_map]
    rfl
  locks := by
    funext name
    rw [locks, locks, lookup_foldl_adjustAccess, Option.map_map]
    rfl

theorem sameEntries_report {error : ConcurrencyError} (h : m.report error = .ok m') :
    m.SameEntries m' := by
  obtain ⟨d, rfl⟩ := report_eq_ok h
  exact .of_eq rfl

/-- Writing a lock moves no entry. -/
theorem samePlaces_writeLock (m : ConcurrencyManager Fn Ref) (pointer : EntryPointer)
    (lock : Bool) : m.SamePlaces (m.writeLock pointer lock) := by
  unfold writeLock
  cases hlookup : m.systemParameters.lookup pointer.name with
  | none => exact ⟨rfl⟩
  | some v =>
    by_cases haddress : v.address = pointer.address
    · simp only [if_pos haddress]
      refine ⟨?_⟩
      funext name
      by_cases hname : name = pointer.name
      · subst hname
        simp [places, hlookup]
      · simp [places, Finmap.lookup_insert_of_ne _ hname]
    · simp only [if_neg haddress]
      exact ⟨rfl⟩

/-- It writes the lock of the entry that the pointer leads to, and no other. -/
theorem locks_writeLock (m : ConcurrencyManager Fn Ref) (p q : EntryPointer) (lock : Bool)
    {reference : Ref} (hplace : m.places q.name = some (q.address, reference)) :
    (m.writeLock p lock).locks q.name = if q = p then some lock else m.locks q.name := by
  obtain ⟨v, hlookup, hv⟩ := Option.map_eq_some_iff.mp hplace
  obtain ⟨haddress, -⟩ := Prod.mk.inj hv
  by_cases hname : q.name = p.name
  · unfold writeLock
    rw [← hname, hlookup]
    -- a pointer to an entry that is gone has another address
    by_cases hsame : q.address = p.address
    · have heq : q = p := by
        cases q
        cases p
        exact congrArg₂ EntryPointer.mk hname hsame
      subst heq
      simp [locks, haddress]
    · have hne : q ≠ p := fun heq => hsame (congrArg EntryPointer.address heq)
      simp [locks, hne, haddress, hsame]
  · have hne : q ≠ p := fun heq => hname (congrArg EntryPointer.name heq)
    rw [if_neg hne, locks, locks]
    unfold writeLock
    split
    · split
      · rw [Finmap.lookup_insert_of_ne _ hname]
      · rfl
    · rfl

end ConcurrencyManager

namespace Concurrency

open ConcurrencyManager (SamePlaces SameEntries Held)

variable {platform : Platform Fn} {fuel : Nat} {s s' : Concurrency Fn Ref}

theorem sameEntries_enqueueTask {j p r : Bool} {f : Fn} {parameters : List String}
    (h : s.enqueueTask fuel j p r f parameters = .ok s') : s.manager.SameEntries s'.manager := by
  have htable := (enqueueTask_eq_ok h).1
  obtain ⟨t, -, -, table, stale, rfl⟩ := enqueueTask_counters h
  exact .of_eq htable

/-- The destructor of the queued copy counts down through its pointers. -/
theorem sameEntries_runTask {ignoreAllocation : Bool} {x : Option (ThreadTask Fn)}
    (h : s.runTask platform fuel ignoreAllocation = .ok (x, s')) :
    s.manager.SameEntries s'.manager := by
  obtain ⟨t, -, -, -, rfl⟩ := runTask_eq_countDown h
  have hpop : s.manager.SameEntries (s.popTask platform t).manager := .of_eq rfl
  exact hpop.trans (ConcurrencyManager.sameEntries_foldl_adjustAccess (-1) t.taskAccessCount _)

theorem sameEntries_forceTasks {taskIds : List Int16}
    (h : s.forceTasks platform fuel taskIds = .ok s') : s.manager.SameEntries s'.manager := by
  refine forceTasks_invariant (I := fun t => s.manager.SameEntries t.manager) ?_ ?_ h
  · intro m hm
    rw [ConcurrencyManager.forwardTasks_eq_ok hm]
    exact .of_eq rfl
  · intro t x t' ht hrun
    exact ht.trans (sameEntries_runTask hrun)

theorem sameEntries_setAllTasks (h : s.setAllTasks platform fuel = .ok s') :
    s.manager.SameEntries s'.manager := by
  refine setAllTasks_invariant (I := fun t => s.manager.SameEntries t.manager) (.refl _) ?_ ?_ h
  · intro t x t' ht hrun
    exact ht.trans (sameEntries_runTask hrun)
  · intro t ht
    exact ht.trans (.of_eq rfl)

/-! ## What a call does to the table -/

/-- The call is a removal of this variable that says that it has removed it. -/
def Removes (op : Op Fn Ref) (o : Output Fn) (name : String) : Prop :=
  op = .removeCommonVariable name ∧ o = .result true

/-- One call removes one variable. -/
theorem Removes.name_eq {op : Op Fn Ref} {o : Output Fn} {name other : String}
    (h : Removes op o name) (h' : Removes op o other) : name = other := by
  have heq := h.1.symm.trans h'.1
  cases heq
  rfl

/-- A call leaves the entries where they are, writes the lock of one, makes one at some address,
    or takes one out whose lock is not set. -/
inductive TableMove (m : ConcurrencyManager Fn Ref) (op : Op Fn Ref) (o : Output Fn)
    (m' : ConcurrencyManager Fn Ref) : Prop
  | kept (same : m.SameEntries m') (keeps : ∀ name, ¬ Removes op o name)
  | locked (p : EntryPointer) (lock : Bool) (writes : op = .writeLock p lock)
      (same : m.SamePlaces m')
      (locks : ∀ q reference, m.places q.name = some (q.address, reference) →
        m'.locks q.name = if q = p then some lock else m.locks q.name)
  | enlisted (name : String) (address : Nat) (reference : Ref)
      (enlists : op = .enlistCommonVariable reference name) (fresh : m.places name = none)
      (places : m'.places = Function.update m.places name (some (address, reference)))
      (locks : m'.locks = Function.update m.locks name (some false))
      (keeps : ∀ other, ¬ Removes op o other)
  | removed (name : String) (removes : Removes op o name) (free : m.locks name = some false)
      (places : m'.places = Function.update m.places name none)
      (locks : m'.locks = Function.update m.locks name none)

theorem tableMove_enlist {reference : Ref} {lookup : String} {o : Output Fn}
    (h : s.step platform fuel (.enlistCommonVariable reference lookup) = .ok (o, s')) :
    TableMove s.manager (.enlistCommonVariable reference lookup) o s'.manager := by
  have hkeeps : ∀ name, ¬ Removes (.enlistCommonVariable reference lookup : Op Fn Ref) o name :=
    fun name hremoves => by cases hremoves.1
  unfold step at h
  obtain ⟨⟨b, m⟩, hm, heq⟩ := Except.map_eq_ok_iff.mp (onManager_eq_ok h).1
  obtain ⟨rfl, hs'⟩ := Prod.mk.inj heq
  rw [← hs']
  unfold ConcurrencyManager.enlistCommonVariable at hm
  split at hm
  case h_1 hlookup =>
    cases hm
    refine .enlisted lookup s.manager.nextAddress reference rfl ?_
      (UMap.map_lookup_insert _ _ _ _) (UMap.map_lookup_insert _ _ _ _) hkeeps
    rw [ConcurrencyManager.places, hlookup]
    rfl
  case h_2 =>
    obtain ⟨m₁, hreport, heq'⟩ := Except.map_eq_ok_iff.mp hm
    cases heq'
    exact .kept (ConcurrencyManager.sameEntries_report hreport) hkeeps

theorem tableMove_remove {lookup : String} {o : Output Fn}
    (h : s.step platform fuel (.removeCommonVariable lookup) = .ok (o, s')) :
    TableMove s.manager (.removeCommonVariable lookup) o s'.manager := by
  unfold step at h
  obtain ⟨⟨b, m⟩, hm, heq⟩ := Except.map_eq_ok_iff.mp (onManager_eq_ok h).1
  obtain ⟨rfl, hs'⟩ := Prod.mk.inj heq
  rw [← hs']
  -- a report comes with the result `false`
  have hrefused : (s.manager.report .cannotRemoveCommonVariable).map (fun m => (false, m)) =
      .ok (b, m) → TableMove s.manager (.removeCommonVariable lookup) (.result b) m := by
    intro hreport
    obtain ⟨m₁, hm₁, heq'⟩ := Except.map_eq_ok_iff.mp hreport
    cases heq'
    exact .kept (ConcurrencyManager.sameEntries_report hm₁) fun name hremoves => by
      cases hremoves.2
  unfold ConcurrencyManager.removeCommonVariable at hm
  cases hlookup : s.manager.systemParameters.lookup lookup with
  | none =>
    simp only [hlookup] at hm
    exact hrefused hm
  | some v =>
    simp only [hlookup] at hm
    split at hm
    case isFalse => exact hrefused hm
    case isTrue hfree =>
      split at hm
      case isFalse => exact hrefused hm
      case isTrue =>
        cases hm
        refine .removed lookup ⟨rfl, rfl⟩ ?_ (UMap.map_lookup_erase _ _ _)
          (UMap.map_lookup_erase _ _ _)
        simpa [ConcurrencyManager.locks, hlookup] using hfree

/-- What each call does to the table. -/
theorem tableMove_of_step {op : Op Fn Ref} {o : Output Fn}
    (h : s.step platform fuel op = .ok (o, s')) : TableMove s.manager op o s'.manager := by
  -- a call that changes nothing but flags
  have hflags : ∀ {f : ConcurrencyManager Fn Ref → Except Fault (ConcurrencyManager Fn Ref)},
      (∀ m, f s.manager = .ok m → s.manager.SameEntries m) →
      s.onManager (fun m => (f m).map fun m => (Output.done, m)) = .ok (o, s') →
      s.manager.SameEntries s'.manager := by
    intro f hf hok
    obtain ⟨m, hm, heq⟩ := Except.map_eq_ok_iff.mp (onManager_eq_ok hok).1
    cases heq
    exact hf _ hm
  cases op with
  | enlistCommonVariable reference lookup => exact tableMove_enlist h
  | removeCommonVariable lookup => exact tableMove_remove h
  | writeLock pointer lock =>
    cases h
    exact .locked pointer lock rfl (ConcurrencyManager.samePlaces_writeLock _ pointer lock)
      fun q reference hplace => ConcurrencyManager.locks_writeLock _ pointer q lock hplace
  | enqueueTask j p r f parameters =>
    -- the constructor of a task and its destructor count through pointers
    obtain ⟨s₁, hok, heq⟩ := Except.map_eq_ok_iff.mp h
    cases heq
    exact .kept (sameEntries_enqueueTask hok) fun name hremoves => by cases hremoves.1
  | forwardTasks taskIds =>
    -- the queue is no part of the table
    unfold step at h
    refine .kept (hflags (fun m hm => ?_) h) fun name hremoves => by cases hremoves.1
    rw [ConcurrencyManager.forwardTasks_eq_ok hm]
    exact .of_eq rfl
  | forceTasks taskIds =>
    obtain ⟨s₁, hok, heq⟩ := Except.map_eq_ok_iff.mp h
    cases heq
    exact .kept (sameEntries_forceTasks hok) fun name hremoves => by cases hremoves.1
  | runTask ignoreAllocation =>
    obtain ⟨⟨x, s₁⟩, hok, heq⟩ := Except.map_eq_ok_iff.mp h
    cases heq
    exact .kept (sameEntries_runTask hok) fun name hremoves => by cases hremoves.1
  | setTasks =>
    refine .kept (hflags (fun m hm => ?_) h) fun name hremoves => by cases hremoves.1
    obtain ⟨-, rfl⟩ := ConcurrencyManager.setTasks_eq_ok hm
    exact .of_eq rfl
  | endTasks =>
    refine .kept (hflags (fun m hm => ?_) h) fun name hremoves => by cases hremoves.1
    obtain ⟨-, rfl⟩ := ConcurrencyManager.endTasks_eq_ok hm
    exact .of_eq rfl
  | setAllTasks =>
    obtain ⟨s₁, hok, heq⟩ := Except.map_eq_ok_iff.mp h
    cases heq
    exact .kept (sameEntries_setAllTasks hok) fun name hremoves => by cases hremoves.1
  | endAllTasks =>
    refine .kept (hflags (fun m hm => ?_) h) fun name hremoves => by cases hremoves.1
    obtain ⟨-, rfl⟩ := ConcurrencyManager.endAllTasks_eq_ok hm
    exact .of_eq rfl

/-! ## Runs -/

/-- An entry stays unless its own variable is removed. -/
theorem TableMove.places_eq {m m' : ConcurrencyManager Fn Ref} {op : Op Fn Ref} {o : Output Fn}
    (h : TableMove m op o m') {name : String} {place : Nat × Ref}
    (hplace : m.places name = some place) (hkeeps : ¬ Removes op o name) :
    m'.places name = some place := by
  cases h with
  | kept same keeps =>
    rw [same.places]
    exact hplace
  | locked q lock writes same hlocks =>
    rw [same.places]
    exact hplace
  -- only a name that was not there is enlisted
  | enlisted other address reference enlists fresh hplaces hlocks keeps =>
    have hne : name ≠ other := by
      intro heq
      rw [heq, fresh] at hplace
      cases hplace
    rw [hplaces, Function.update_of_ne hne]
    exact hplace
  | removed other removes hfree hplaces hlocks =>
    have hne : name ≠ other := by
      intro heq
      subst heq
      exact hkeeps removes
    rw [hplaces, Function.update_of_ne hne]
    exact hplace

/-- A removal of the variable takes its entry out. -/
theorem TableMove.places_none {m m' : ConcurrencyManager Fn Ref} {op : Op Fn Ref} {o : Output Fn}
    (h : TableMove m op o m') {name : String} (hremoves : Removes op o name) :
    m'.places name = none := by
  cases h with
  | kept same keeps => exact absurd hremoves (keeps name)
  | locked q lock writes same hlocks => cases writes.symm.trans hremoves.1
  | enlisted other address reference enlists fresh hplaces hlocks keeps =>
    exact absurd hremoves (keeps name)
  | removed other removes hfree hplaces hlocks =>
    rw [hplaces, hremoves.name_eq removes, Function.update_self]

/-- A run without a removal of the variable leaves its entry where it is. -/
theorem places_final {name : String} {place : Nat × Ref}
    (hplace : s.manager.places name = some place) (ops : List (Op Fn Ref))
    (hkeeps : ∀ c ∈ StepRun.calls (step platform fuel) s ops, ∀ o s',
      step platform fuel c.1 c.2 = .ok (o, s') → ¬ Removes c.2 o name) :
    (StepRun.final (step platform fuel) s ops).manager.places name = some place := by
  have hkeep : ∀ (t : Concurrency Fn Ref) op o t', t.manager.places name = some place →
      (∀ o t', step platform fuel t op = .ok (o, t') → ¬ Removes op o name) →
      step platform fuel t op = .ok (o, t') → t'.manager.places name = some place :=
    fun t op o t' ht hcond hok => (tableMove_of_step hok).places_eq ht (hcond o t' hok)
  have hvisited := StepRun.forall_visited_of_calls hkeep hplace ops hkeeps
  exact hvisited _ (StepRun.final_mem_visited _ _)

/-- A pointer that was handed out leads to its variable, with what that refers to, through any
    calls up to a removal of the variable that returns `true`, and to nothing right after it. -/
theorem handle_lives_until_removed {name : String} {p : EntryPointer}
    (hp : s.manager.HandsOut name p) :
    ∃ reference, s.manager.refers p = some reference ∧ ∀ ops : List (Op Fn Ref),
      (∀ c ∈ StepRun.calls (step platform fuel) s ops, ∀ o s',
        step platform fuel c.1 c.2 = .ok (o, s') → ¬ Removes c.2 o name) →
      (StepRun.final (step platform fuel) s ops).manager.refers p = some reference ∧
      ∀ op o s', step platform fuel (StepRun.final (step platform fuel) s ops) op = .ok (o, s') →
        Removes op o name → s'.manager.refers p = none := by
  obtain ⟨rfl, reference, hplace⟩ := hp.places
  refine ⟨reference, ConcurrencyManager.refers_eq_some_iff.mpr hplace, fun ops hkeeps => ⟨?_, ?_⟩⟩
  · exact ConcurrencyManager.refers_eq_some_iff.mpr (places_final hplace ops hkeeps)
  · intro op o s' hok hremoves
    have hnone := (tableMove_of_step hok).places_none hremoves
    rw [Option.eq_none_iff_forall_ne_some]
    intro other hother
    rw [ConcurrencyManager.refers_eq_some_iff, hnone] at hother
    cases hother

/-- A manager with one variable in its table. -/
def enlisted : Concurrency Unit Unit :=
  let fresh : Concurrency Unit Unit := construct Platform.quadCore {}
  { fresh with
    manager.systemParameters := fresh.manager.systemParameters.insert "x" ⟨0, (), false, 0⟩
    manager.nextAddress := 1 }

theorem handle_lives_until_removed_enlisted :
    ∃ reference, enlisted.manager.refers ⟨"x", 0⟩ = some reference ∧
      ∀ ops : List (Op Unit Unit),
      (∀ c ∈ StepRun.calls (step Platform.quadCore 1) enlisted ops, ∀ o s',
        step Platform.quadCore 1 c.1 c.2 = .ok (o, s') → ¬ Removes c.2 o "x") →
      (StepRun.final (step Platform.quadCore 1) enlisted ops).manager.refers ⟨"x", 0⟩ =
        some reference ∧
      ∀ op o s', step Platform.quadCore 1 (StepRun.final (step Platform.quadCore 1) enlisted ops)
        op = .ok (o, s') → Removes op o "x" → s'.manager.refers ⟨"x", 0⟩ = none :=
  handle_lives_until_removed ⟨enlisted.manager, rfl⟩

/-! ## Held locks -/

/-- No call but the one that clears a lock takes a held variable away, or the lock off it. -/
theorem TableMove.held {m m' : ConcurrencyManager Fn Ref} {op : Op Fn Ref} {o : Output Fn}
    (h : TableMove m op o m') {p : EntryPointer} (hheld : m.Held p)
    (hkeeps : op ≠ .writeLock p false) : m'.Held p ∧ ¬ Removes op o p.name := by
  obtain ⟨⟨reference, hplace⟩, hlocked⟩ := hheld
  -- a removal finds the lock free
  have hremoves : ¬ Removes op o p.name := by
    intro hremoves
    cases h with
    | kept same keeps => exact keeps p.name hremoves
    | locked q lock writes same hlocks => cases writes.symm.trans hremoves.1
    | enlisted other address reference' enlists fresh hplaces hlocks keeps => exact keeps p.name hremoves
    | removed other removes hfree hplaces hlocks =>
      rw [← hremoves.name_eq removes, hlocked] at hfree
      cases hfree
  refine ⟨⟨⟨reference, h.places_eq hplace hremoves⟩, ?_⟩, hremoves⟩
  cases h with
  | kept same keeps =>
    rw [same.locks]
    exact hlocked
  | locked q lock writes same hlocks =>
    rw [hlocks p reference hplace]
    split
    case isTrue hq =>
      -- it is this lock that is written, and it is not cleared
      subst hq
      cases lock with
      | true => rfl
      | false => exact absurd writes hkeeps
    case isFalse => exact hlocked
  | enlisted other address reference' enlists fresh hplaces hlocks keeps =>
    have hne : p.name ≠ other := by
      intro heq
      rw [heq, fresh] at hplace
      cases hplace
    rw [hlocks, Function.update_of_ne hne]
    exact hlocked
  | removed other removes hfree hplaces hlocks =>
    have hne : p.name ≠ other := by
      intro heq
      subst heq
      exact hremoves removes
    rw [hlocks, Function.update_of_ne hne]
    exact hlocked

/-- Setting the lock through a pointer that leads to an entry. -/
theorem held_writeLock {m : ConcurrencyManager Fn Ref} {p : EntryPointer} {reference : Ref}
    (hplace : m.places p.name = some (p.address, reference)) : (m.writeLock p true).Held p where
  there := by
    rw [(ConcurrencyManager.samePlaces_writeLock m p true).places]
    exact ⟨reference, hplace⟩
  locked := by
    rw [ConcurrencyManager.locks_writeLock m p p true hplace]
    exact if_pos rfl

/-- Whoever sets the lock of a variable through a pointer that was handed out has it until the
    lock is cleared: whatever is called meanwhile, no removal of the variable returns `true`, and
    the pointer still leads to it and finds the lock set. -/
theorem held_lock_keeps_variable {name : String} {p : EntryPointer}
    (hp : s.manager.HandsOut name p) (ops : List (Op Fn Ref))
    (hheld : ∀ op ∈ ops, op ≠ .writeLock p false) :
    (∀ c ∈ StepRun.calls (step platform fuel) s (.writeLock p true :: ops), ∀ r,
      step platform fuel c.1 c.2 = .ok r → ¬ Removes c.2 r.1 name) ∧
    (StepRun.final (step platform fuel) s (.writeLock p true :: ops)).manager.Held p := by
  obtain ⟨rfl, reference, hplace⟩ := hp.places
  let locked : Concurrency Fn Ref := { s with manager := s.manager.writeLock p true }
  have hstep : s.step platform fuel (.writeLock p true) = .ok (.done, locked) := rfl
  have hlocked : locked.manager.Held p := held_writeLock hplace
  -- what each call after the first one keeps
  have hkeep : ∀ (t : Concurrency Fn Ref) op r, t.manager.Held p → op ≠ .writeLock p false →
      step platform fuel t op = .ok r → r.2.manager.Held p ∧ ¬ Removes op r.1 p.name :=
    fun t op r ht hop hok => (tableMove_of_step hok).held ht hop
  rw [StepRun.forall_mem_calls_cons_iff]
  refine ⟨⟨?_, ?_⟩, ?_⟩
  · intro r hok hremoves
    cases hremoves.1
  · intro o s' hok
    cases hstep.symm.trans hok
    exact StepRun.forall_calls_of_ops (Q := fun _ op r => ¬ Removes op r.1 p.name) hkeep hlocked
      hheld
  · simp only [StepRun.final, hstep]
    have hvisited := StepRun.forall_visited_of_ops
      (fun t op o t' ht hop hok => (hkeep t op (o, t') ht hop hok).1) hlocked hheld
    exact hvisited _ (StepRun.final_mem_visited _ _)

theorem held_lock_keeps_variable_enlisted :
    (∀ c ∈ StepRun.calls (step Platform.quadCore 1) enlisted
        [.writeLock ⟨"x", 0⟩ true, .writeLock ⟨"x", 1⟩ false, .removeCommonVariable "x"], ∀ r,
      step Platform.quadCore 1 c.1 c.2 = .ok r → ¬ Removes c.2 r.1 "x") ∧
    (StepRun.final (step Platform.quadCore 1) enlisted
        [.writeLock ⟨"x", 0⟩ true, .writeLock ⟨"x", 1⟩ false,
          .removeCommonVariable "x"]).manager.Held ⟨"x", 0⟩ := by
  refine held_lock_keeps_variable (p := ⟨"x", 0⟩) ⟨enlisted.manager, rfl⟩ _ ?_
  simp

end Concurrency

end NetworkedFS
