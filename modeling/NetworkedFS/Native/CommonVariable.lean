import NetworkedFS.Native.Concurrency

/-!
# Removing a common variable, access by access

`removeCommonVariable` (`LIBS/defs_concurrency.h`) once more, now with each access to the
table entry on its own.  The iterator that `find` gives is an `EntryPointer`: the lock is
set, the count is read, the entry is erased and the lock is cleared through it, in this
order.  An access through it after the entry has gone is counted in `staleAccesses`.
-/

namespace NetworkedFS

namespace ConcurrencyManager

variable {Fn Ref : Type}

/-- The entry of a pointer, if it is still in the table. -/
def deref (m : ConcurrencyManager Fn Ref) (p : EntryPointer) : Option (CommonVariable Ref) :=
  (m.systemParameters.lookup p.name).filter fun v => v.address = p.address

/-- `test_and_set` of the lock: what it was.  What is read through a stale pointer has no
    meaning. -/
def testAndSetLock (m : ConcurrencyManager Fn Ref) (p : EntryPointer) :
    Bool × ConcurrencyManager Fn Ref :=
  (((m.deref p).map CommonVariable.lock).getD false, m.writeLock p true)

/-- Whether the access count is 0. -/
def isUnused (m : ConcurrencyManager Fn Ref) (p : EntryPointer) :
    Bool × ConcurrencyManager Fn Ref :=
  match m.deref p with
  | some v => (v.accessCount = 0, m)
  | none => (false, { m with staleAccesses := m.staleAccesses + 1 })

/-- `concurrency_system_parameters.erase(get_element)`. -/
def eraseEntry (m : ConcurrencyManager Fn Ref) (p : EntryPointer) : ConcurrencyManager Fn Ref :=
  match m.deref p with
  | some _ => { m with systemParameters := m.systemParameters.erase p.name }
  | none => { m with staleAccesses := m.staleAccesses + 1 }

/-- The part of `removeCommonVariable` behind its `find`. -/
def removeThrough (m : ConcurrencyManager Fn Ref) (p : EntryPointer) :
    Bool × ConcurrencyManager Fn Ref :=
  let (wasSet, m) := m.testAndSetLock p
  if !wasSet then
    let (result, m) := m.isUnused p
    let m := if result then m.eraseEntry p else m
    -- the lock is cleared in both cases
    (result, m.writeLock p false)
  else (false, m)

def removeCommonVariableStepwise (m : ConcurrencyManager Fn Ref) (lookup : String) :
    Except Fault (Bool × ConcurrencyManager Fn Ref) :=
  let (result, m) := match m.systemParameters.lookup lookup with
    | some v => m.removeThrough { name := lookup, address := v.address }
    | none => (false, m)
  if !result then (m.report .cannotRemoveCommonVariable).map fun m => (false, m)
  else .ok (true, m)

end ConcurrencyManager

end NetworkedFS
