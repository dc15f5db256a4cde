import NetworkedFS.Native.CommonVariable
import NetworkedFS.Spec.AccessCount

/-!
# Removing common variables

`removeCommonVariable` takes the lock of an entry, removes the entry when its count is 0,
and clears the lock through its iterator in any case.  Where nothing is removed this undoes
what the call did; where the entry was removed it writes to freed memory.

## Key results

- `removeCommonVariableStepwise_eq`: access by access the call does what
  `removeCommonVariable` does at once;
- `removesCleanly_iff`: the calls whose accesses are all sound are those that remove nothing.
-/

namespace NetworkedFS

namespace ConcurrencyManager

variable {Fn Ref : Type}

/-- The variable is there, its lock is free and its count is 0. -/
def Removable (m : ConcurrencyManager Fn Ref) (name : String) : Prop :=
  ∃ v, m.systemParameters.lookup name = some v ∧ v.lock = false ∧ v.accessCount = 0

/-- What a removal should do: it answers whether the variable could be removed, takes out
    that entry alone and touches nothing that is gone, or leaves the table as it was. -/
structure RemovesCleanly (m : ConcurrencyManager Fn Ref) (name : String) : Prop where
  removes : m.Removable name → ∃ m', m.removeCommonVariableStepwise name = .ok (true, m') ∧
    m'.systemParameters = m.systemParameters.erase name ∧ m'.staleAccesses = m.staleAccesses
  refuses : ¬ m.Removable name → ∃ m', m.removeCommonVariableStepwise name = .ok (false, m') ∧
    m'.systemParameters = m.systemParameters ∧ m'.staleAccesses = m.staleAccesses

/-! ## The accesses -/

/-- The table with a new value of one entry. -/
def withEntry (m : ConcurrencyManager Fn Ref) (name : String) (v : CommonVariable Ref) :
    ConcurrencyManager Fn Ref :=
  { m with systemParameters := m.systemParameters.insert name v }

/-- A fresh iterator leads to its entry. -/
theorem deref_of_lookup {m : ConcurrencyManager Fn Ref} {name : String} {v : CommonVariable Ref}
    (h : m.systemParameters.lookup name = some v) : m.deref ⟨name, v.address⟩ = some v := by
  simp only [deref, h, Option.filter_some, decide_true, if_true]

/-- Writing a lock through it replaces the entry. -/
theorem writeLock_of_lookup {m : ConcurrencyManager Fn Ref} {name : String}
    {v : CommonVariable Ref} (h : m.systemParameters.lookup name = some v) (lock : Bool) :
    m.writeLock ⟨name, v.address⟩ lock = m.withEntry name { v with lock } := by
  simp only [writeLock, h, if_true, withEntry]

/-- The entry that was written is there. -/
theorem lookup_withEntry (m : ConcurrencyManager Fn Ref) (name : String) (v : CommonVariable Ref) :
    (m.withEntry name v).systemParameters.lookup name = some v := Finmap.lookup_insert _

/-- Writing an entry as it is changes nothing. -/
theorem withEntry_of_lookup {m : ConcurrencyManager Fn Ref} {name : String}
    {v : CommonVariable Ref} (h : m.systemParameters.lookup name = some v) :
    m.withEntry name v = m := by
  rw [withEntry, UMap.insert_of_lookup h]

/-- Of two values the last one stays. -/
theorem withEntry_withEntry (m : ConcurrencyManager Fn Ref) (name : String)
    (v w : CommonVariable Ref) : (m.withEntry name v).withEntry name w = m.withEntry name w := by
  simp only [withEntry, Finmap.insert_insert]

/-- `test_and_set` through a fresh iterator. -/
theorem testAndSetLock_of_lookup {m : ConcurrencyManager Fn Ref} {name : String}
    {v : CommonVariable Ref} (h : m.systemParameters.lookup name = some v) :
    m.testAndSetLock ⟨name, v.address⟩ = (v.lock, m.withEntry name { v with lock := true }) := by
  rw [testAndSetLock, deref_of_lookup h, writeLock_of_lookup h]
  rfl

/-- A lock that is held is set again, which is all that happens. -/
theorem removeThrough_of_locked {m : ConcurrencyManager Fn Ref} {name : String}
    {v : CommonVariable Ref} (h : m.systemParameters.lookup name = some v)
    (hlock : v.lock = true) : m.removeThrough ⟨name, v.address⟩ = (false, m) := by
  have hset : { v with lock := true } = v := by rw [← hlock]
  rw [removeThrough, testAndSetLock_of_lookup h, hset, withEntry_of_lookup h, hlock]
  rfl

/-- A count that is not 0 is read, and the lock is given back. -/
theorem removeThrough_of_used {m : ConcurrencyManager Fn Ref} {name : String}
    {v : CommonVariable Ref} (h : m.systemParameters.lookup name = some v)
    (hlock : v.lock = false) (hcount : v.accessCount ≠ 0) :
    m.removeThrough ⟨name, v.address⟩ = (false, m) := by
  let taken := m.withEntry name { v with lock := true }
  have htaken := m.lookup_withEntry name { v with lock := true }
  have hread : taken.isUnused ⟨name, v.address⟩ = (false, taken) := by
    have hderef : taken.deref ⟨name, v.address⟩ = some { v with lock := true } :=
      deref_of_lookup htaken
    simp only [isUnused, hderef, hcount, decide_false]
  have hclear : taken.writeLock ⟨name, v.address⟩ false = m := by
    have hreset : { v with lock := false } = v := by rw [← hlock]
    calc taken.writeLock ⟨name, v.address⟩ false
        = taken.withEntry name { v with lock := false } := writeLock_of_lookup htaken false
      _ = m.withEntry name { v with lock := false } := m.withEntry_withEntry name _ _
      _ = m := by rw [hreset, withEntry_of_lookup h]
  rw [removeThrough, testAndSetLock_of_lookup h, hlock]
  simp only [Bool.not_false, if_true]
  rw [hread]
  simp only [Bool.false_eq_true, if_false]
  rw [hclear]

/-- After the erasure the lock is cleared through an iterator that has no entry any more. -/
theorem removeThrough_of_unused {m : ConcurrencyManager Fn Ref} {name : String}
    {v : CommonVariable Ref} (h : m.systemParameters.lookup name = some v)
    (hlock : v.lock = false) (hcount : v.accessCount = 0) :
    m.removeThrough ⟨name, v.address⟩ = (true, { m with
      systemParameters := m.systemParameters.erase name
      staleAccesses := m.staleAccesses + 1 }) := by
  let taken := m.withEntry name { v with lock := true }
  have hderef : taken.deref ⟨name, v.address⟩ = some { v with lock := true } :=
    deref_of_lookup (m.lookup_withEntry name { v with lock := true })
  have hread : taken.isUnused ⟨name, v.address⟩ = (true, taken) := by
    simp only [isUnused, hderef, hcount, decide_true]
  have herase : taken.eraseEntry ⟨name, v.address⟩ =
      { m with systemParameters := m.systemParameters.erase name } := by
    have herased : taken.eraseEntry ⟨name, v.address⟩ =
        { taken with systemParameters := taken.systemParameters.erase name } := by
      simp only [eraseEntry, hderef]
    rw [herased]
    exact congrArg (fun t => { m with systemParameters := t }) (UMap.erase_insert _ name _)
  rw [removeThrough, testAndSetLock_of_lookup h, hlock]
  simp only [Bool.not_false, if_true]
  rw [hread]
  simp only [if_true]
  rw [herase]
  -- the pointer is the same, but there is no entry any more
  simp only [writeLock, Finmap.lookup_erase]

/-- Access by access the call does what it does at once. -/
theorem removeCommonVariableStepwise_eq (m : ConcurrencyManager Fn Ref) (name : String) :
    m.removeCommonVariableStepwise name = m.removeCommonVariable name := by
  unfold removeCommonVariableStepwise removeCommonVariable
  cases hlookup : m.systemParameters.lookup name with
  | none => rfl
  | some v =>
    cases hlock : v.lock with
    | true =>
      simp only [removeThrough_of_locked hlookup hlock, hlock]
      rfl
    | false =>
      by_cases hcount : v.accessCount = 0
      · simp only [removeThrough_of_unused hlookup hlock hcount, hlock, hcount]
        rfl
      · simp only [removeThrough_of_used hlookup hlock hcount, hlock, hcount]
        rfl

/-! ## Sound removals -/

/-- A refused removal reports it, which records a standard code, and changes nothing else. -/
theorem removeCommonVariable_of_not_removable {m : ConcurrencyManager Fn Ref} {name : String}
    (h : ¬ m.Removable name) :
    ∃ d, m.removeCommonVariable name = .ok (false, { m with status := d }) := by
  unfold removeCommonVariable
  cases hlookup : m.systemParameters.lookup name with
  | none => exact ⟨_, rfl⟩
  | some v =>
    cases hlock : v.lock with
    | true => exact ⟨_, by simp only [hlock, Bool.not_true, Bool.false_eq_true, if_false]; rfl⟩
    | false =>
      have hcount : v.accessCount ≠ 0 := fun hzero => h ⟨v, hlookup, hlock, hzero⟩
      exact ⟨_, by simp only [hlock, Bool.not_false, if_true, hcount, if_false]; rfl⟩

/-- A removal clears the lock of the entry that it has erased. -/
theorem removeCommonVariable_of_removable {m : ConcurrencyManager Fn Ref} {name : String}
    (h : m.Removable name) : m.removeCommonVariable name = .ok (true, { m with
      systemParameters := m.systemParameters.erase name
      staleAccesses := m.staleAccesses + 1 }) := by
  obtain ⟨v, hlookup, hlock, hcount⟩ := h
  simp only [removeCommonVariable, hlookup, hlock, Bool.not_false, if_true, hcount]

/-- A call does what it should, and no more, exactly when it does not remove anything. -/
theorem removesCleanly_iff (m : ConcurrencyManager Fn Ref) (name : String) :
    m.RemovesCleanly name ↔ ¬ m.Removable name := by
  constructor
  · intro hclean hremovable
    obtain ⟨m', hok, -, hstale⟩ := hclean.removes hremovable
    rw [removeCommonVariableStepwise_eq, removeCommonVariable_of_removable hremovable] at hok
    cases hok
    exact Nat.succ_ne_self _ hstale
  · intro hnot
    refine ⟨fun hremovable => absurd hremovable hnot, fun _ => ?_⟩
    obtain ⟨d, hd⟩ := removeCommonVariable_of_not_removable hnot
    exact ⟨_, (removeCommonVariableStepwise_eq m name).trans hd, rfl, rfl⟩

end ConcurrencyManager

namespace Concurrency

/-- A manager with one common variable that nothing uses. -/
def withVariable : ConcurrencyManager Unit Unit :=
  let m := (construct .quadCore {} : Concurrency Unit Unit).manager
  { m with
    systemParameters := m.systemParameters.insert "x" ⟨0, (), false, 0⟩
    nextAddress := 1 }

/-- Its removal writes to the erased entry. -/
theorem erased_entry_written :
    ¬ ∀ (m : ConcurrencyManager Unit Unit) (name : String), m.RemovesCleanly name := by
  intro hall
  have hremovable : withVariable.Removable "x" := ⟨⟨0, (), false, 0⟩, by decide, rfl, rfl⟩
  obtain ⟨m', hok, -, hstale⟩ := (hall withVariable "x").removes hremovable
  cases hok
  exact absurd hstale (by decide)

end Concurrency

end NetworkedFS
