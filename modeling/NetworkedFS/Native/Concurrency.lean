import Mathlib.Logic.Function.Basic
import NetworkedFS.ForStd.Finmap
import NetworkedFS.Native.Debug

/-!
# The concurrency manager

Model of `concurrency_manager` (`LIBS/defs_concurrency.h`): a table of common
variables with a lock and an access count each, a queue of tasks that name the
variables they use, and the launch of the task at the back of the queue.

A task's constructor increments the access counts of its variables and its destructor
decrements them through stored pointers.  Copying a task runs neither, so every
construction and destruction is written out here, at the place where the source has it.
A pointer into the table is an `EntryPointer`; using one whose entry is gone is counted
in `staleAccesses`, which is ghost state, and changes nothing else.

`enqueueTask` and the destructor call each other for reoccurring tasks, so both take
fuel.
-/

namespace NetworkedFS

/-- `concurrency_local_errors_lookup`. -/
inductive ConcurrencyError where
  | cannotEnlistCommonVariable
  | cannotRemoveCommonVariable
  | cannotGetCommonVariableLock
  | cannotRunTask
  deriving DecidableEq, Repr

/-- The enumerator's value. -/
def ConcurrencyError.code : ConcurrencyError → Int
  | .cannotEnlistCommonVariable => 0
  | .cannotRemoveCommonVariable => 1
  | .cannotGetCommonVariableLock => 2
  | .cannotRunTask => 3

def concurrencyLocalErrors : List String :=
  ["Cannot enlist common variable", "Cannot remove common variable",
   "Cannot get common variable lock", "Cannot run task"]

/-- A pointer to the table entry of `name` at `address`. -/
structure EntryPointer where
  name : String
  address : Nat
  deriving DecidableEq, Repr

/-- An entry of `concurrency_system_parameters`, at the address of its node. -/
structure CommonVariable (Ref : Type) where
  address : Nat
  reference : Ref
  lock : Bool
  accessCount : Int16
  deriving DecidableEq, Repr

/-- `concurrency_thread_task`.  The pointers in `taskAccessCount` also stand for the
    entries that `task_parameters` points to, and `isPermanent` says which of the two
    exit flags `is_exit` points to. -/
structure ThreadTask (Fn : Type) where
  isJoin : Bool
  isPermanent : Bool
  isReoccuring : Bool
  taskId : Int16
  taskAccessCount : List EntryPointer
  saveFunction : Fn
  saveParameters : List String
  deriving DecidableEq, Repr

/-- The static members, which all managers share. -/
structure ConcurrencyStatics where
  criticalSection : Bool := false
  permanentThreadCount : Int16 := 1
  scheduledThreadCount : Int16 := 0
  runningScheduledTasks : Int16 := 0
  deriving DecidableEq, Repr

/-- The members of one manager. -/
structure ConcurrencyManager (Fn Ref : Type) where
  primaryLaunchRan : Bool
  scheduledExitSet : Bool
  permanentExitSet : Bool
  localThreadCount : Int16
  cpuCount : Int16
  systemParameters : UMap String (CommonVariable Ref)
  taskQueue : List (ThreadTask Fn)
  lastIdDeath : List Int16
  status : DebugStatus
  /-- The address of the next table entry. -/
  nextAddress : Nat
  /-- Ghost: how often a pointer to an erased entry was used. -/
  staleAccesses : Nat

/-- What the manager relies on: the number of hardware threads, and a `list::sort` that
    reorders its list. -/
structure Platform (Fn : Type) where
  hardwareConcurrency : UInt32
  listSort : (ThreadTask Fn → ThreadTask Fn → Bool) → List (ThreadTask Fn) → List (ThreadTask Fn)
  listSort_perm : ∀ less l, (listSort less l).Perm l

/-- A machine with four hardware threads, whose sort leaves lists as they are. -/
def Platform.quadCore : Platform Unit where
  hardwareConcurrency := 4
  listSort _ l := l
  listSort_perm _ _ := List.Perm.refl _

/-- A manager together with the static members. -/
structure Concurrency (Fn Ref : Type) where
  statics : ConcurrencyStatics
  manager : ConcurrencyManager Fn Ref

namespace ConcurrencyManager

variable {Fn Ref : Type}

/-- The flag that `is_exit` points to. -/
def exitFlag (m : ConcurrencyManager Fn Ref) (isPermanent : Bool) : Bool :=
  if isPermanent then m.permanentExitSet else m.scheduledExitSet

/-- `setReturnCode((int)error)`. -/
def report (m : ConcurrencyManager Fn Ref) (error : ConcurrencyError) :
    Except Fault (ConcurrencyManager Fn Ref) :=
  (m.status.setReturnCode (subclassErrors concurrencyLocalErrors) error.code).map
    fun status => { m with status }

/-- Adds `delta` to an access count through a pointer. -/
def adjustAccess (delta : Int16) (m : ConcurrencyManager Fn Ref) (p : EntryPointer) :
    ConcurrencyManager Fn Ref :=
  match m.systemParameters.lookup p.name with
  | some v =>
    -- another entry may have taken the name since the pointer was stored
    if v.address = p.address then
      { m with systemParameters :=
          m.systemParameters.insert p.name { v with accessCount := v.accessCount + delta } }
    else { m with staleAccesses := m.staleAccesses + 1 }
  | none => { m with staleAccesses := m.staleAccesses + 1 }

/-- The loop of the task constructor over the names of its variables. -/
def accessParameters : List String → ConcurrencyManager Fn Ref →
    Except Fault (List EntryPointer × ConcurrencyManager Fn Ref)
  | [], m => .ok ([], m)
  | name :: names, m =>
    match m.systemParameters.lookup name with
    -- every name has to be enlisted
    | none => .error .assertion
    | some v => do
      let p : EntryPointer := { name, address := v.address }
      let (ps, m) ← accessParameters names (m.adjustAccess 1 p)
      return (p :: ps, m)

/-- What the body says; no call of the template compiles, see `Op.compiles`.  So it stands for
    whatever else fills the table. -/
def enlistCommonVariable (m : ConcurrencyManager Fn Ref) (reference : Ref) (lookup : String) :
    Except Fault (Bool × ConcurrencyManager Fn Ref) :=
  match m.systemParameters.lookup lookup with
  | none =>
    let v := { address := m.nextAddress, reference, lock := false, accessCount := 0 }
    .ok (true, { m with
      systemParameters := m.systemParameters.insert lookup v
      nextAddress := m.nextAddress + 1 })
  | some _ => (m.report .cannotEnlistCommonVariable).map fun m => (false, m)

/-- The lock is taken for the test of the count, and cleared through the iterator also
    after the entry was erased. -/
def removeCommonVariable (m : ConcurrencyManager Fn Ref) (lookup : String) :
    Except Fault (Bool × ConcurrencyManager Fn Ref) :=
  match m.systemParameters.lookup lookup with
  | some v =>
    if !v.lock then
      -- the lock is held for this test only
      if v.accessCount = 0 then
        .ok (true, { m with
          systemParameters := m.systemParameters.erase lookup
          staleAccesses := m.staleAccesses + 1 })
      else (m.report .cannotRemoveCommonVariable).map fun m => (false, m)
    else (m.report .cannotRemoveCommonVariable).map fun m => (false, m)
  | none => (m.report .cannotRemoveCommonVariable).map fun m => (false, m)

def getCommonVariableLock (m : ConcurrencyManager Fn Ref) (lookup : String) :
    Except Fault (Option EntryPointer × ConcurrencyManager Fn Ref) :=
  match m.systemParameters.lookup lookup with
  | some v => .ok (some { name := lookup, address := v.address }, m)
  | none => (m.report .cannotGetCommonVariableLock).map fun m => (none, m)

/-- Somebody who holds the pointer to a lock sets or clears it. -/
def writeLock (m : ConcurrencyManager Fn Ref) (p : EntryPointer) (lock : Bool) :
    ConcurrencyManager Fn Ref :=
  match m.systemParameters.lookup p.name with
  | some v =>
    if v.address = p.address then
      { m with systemParameters := m.systemParameters.insert p.name { v with lock } }
    else { m with staleAccesses := m.staleAccesses + 1 }
  | none => { m with staleAccesses := m.staleAccesses + 1 }

/-- The queue is sorted by a comparison that only asks whether its first task is
    selected. -/
def forwardTasks (platform : Platform Fn) (m : ConcurrencyManager Fn Ref)
    (taskIds : List Int16) : Except Fault (ConcurrencyManager Fn Ref) :=
  if !m.primaryLaunchRan then .error .assertion
  else .ok { m with
    taskQueue := platform.listSort (fun first _ => !taskIds.contains first.taskId) m.taskQueue }

def setTasks (m : ConcurrencyManager Fn Ref) : Except Fault (ConcurrencyManager Fn Ref) :=
  if !m.primaryLaunchRan then .error .assertion
  else .ok { m with scheduledExitSet := false }

def endTasks (m : ConcurrencyManager Fn Ref) : Except Fault (ConcurrencyManager Fn Ref) :=
  if !m.primaryLaunchRan then .error .assertion
  else .ok { m with scheduledExitSet := true }

def endAllTasks (m : ConcurrencyManager Fn Ref) : Except Fault (ConcurrencyManager Fn Ref) :=
  if !m.primaryLaunchRan then .error .assertion
  else .ok { m with
    scheduledExitSet := true
    permanentExitSet := true
    primaryLaunchRan := false }

/-- `setResources`, with the conversions between `unsigned` and `short`. -/
def setResources (platform : Platform Fn) (statics : ConcurrencyStatics)
    (m : ConcurrencyManager Fn Ref) : ConcurrencyManager Fn Ref :=
  let cpuCount := (platform.hardwareConcurrency -
    statics.permanentThreadCount.toInt32.toUInt32).toUInt16.toInt16
  let cpuCount := cpuCount + ((if cpuCount ≤ 0 then 1 else 0) + if cpuCount < 0 then 1 else 0)
  { m with cpuCount }

end ConcurrencyManager

namespace Concurrency

variable {Fn Ref : Type}

/-- The constructor of a manager. -/
def construct (platform : Platform Fn) (statics : ConcurrencyStatics) : Concurrency Fn Ref where
  statics := statics
  manager := ConcurrencyManager.setResources platform statics
    { primaryLaunchRan := false
      scheduledExitSet := false
      permanentExitSet := false
      localThreadCount := 0
      cpuCount := 0
      systemParameters := ∅
      taskQueue := []
      lastIdDeath := []
      status := {}
      nextAddress := 0
      staleAccesses := 0 }

/-- The constructor of a task. -/
def constructTask (s : Concurrency Fn Ref) (isJoin isPermanent isReoccuring : Bool)
    (function : Fn) (parameters : List String) :
    Except Fault (ThreadTask Fn × Concurrency Fn Ref) := do
  if s.manager.primaryLaunchRan && isPermanent then .error .assertion else
  let statics := { s.statics with
    permanentThreadCount := s.statics.permanentThreadCount + if isPermanent then 1 else 0
    scheduledThreadCount := s.statics.scheduledThreadCount + if isPermanent then 0 else 1 }
  let localThreadCount := s.manager.localThreadCount + 1
  -- ids of started tasks are used again, the last one first
  let (taskId, lastIdDeath) := match s.manager.lastIdDeath with
    | topId :: rest => (topId, rest)
    | [] => (localThreadCount, [])
  let (taskAccessCount, manager) ← { s.manager with
    localThreadCount, lastIdDeath }.accessParameters parameters
  return ({ isJoin, isPermanent, isReoccuring, taskId, taskAccessCount, saveFunction := function,
            saveParameters := parameters }, { statics, manager })

/-- The destructor of a task; `enqueue` is the call with which a reoccurring task enqueues
    itself again. -/
def destroyTaskWith (enqueue : Concurrency Fn Ref → Except Fault (Concurrency Fn Ref))
    (s : Concurrency Fn Ref) (task : ThreadTask Fn) : Except Fault (Concurrency Fn Ref) :=
  -- a permanent task must not be destroyed before its exit flag is set
  if task.isPermanent && !s.manager.exitFlag task.isPermanent then .error .assertion
  else
    let s := { s with statics.runningScheduledTasks := s.statics.runningScheduledTasks - 1 }
    if task.isReoccuring && !s.manager.exitFlag task.isPermanent then enqueue s
    else .ok { s with
      manager := task.taskAccessCount.foldl (ConcurrencyManager.adjustAccess (-1)) s.manager }

/-- The new task is copied into the queue, at the front unless it is permanent, and the
    original is destroyed at the end of the function. -/
def enqueueTask : Nat → Concurrency Fn Ref → (isJoin isPermanent isReoccuring : Bool) → Fn →
    List String → Except Fault (Concurrency Fn Ref)
  | 0, _, _, _, _, _, _ => .error .outOfFuel
  | fuel + 1, s, isJoin, isPermanent, isReoccuring, function, parameters => do
    if s.manager.primaryLaunchRan && isPermanent then .error .assertion else
    let (toAdd, s) ← s.constructTask isJoin isPermanent isReoccuring function parameters
    -- the copy shares its pointers with the original, and counts nothing
    let taskQueue :=
      if !isPermanent then toAdd :: s.manager.taskQueue else s.manager.taskQueue ++ [toAdd]
    let s := { s with manager.taskQueue := taskQueue }
    s.destroyTaskWith
      (fun s => enqueueTask fuel s isJoin isPermanent isReoccuring function parameters) toAdd

def destroyTask (fuel : Nat) (s : Concurrency Fn Ref) (task : ThreadTask Fn) :
    Except Fault (Concurrency Fn Ref) :=
  s.destroyTaskWith (fun s => enqueueTask fuel s task.isJoin task.isPermanent task.isReoccuring
    task.saveFunction task.saveParameters) task

/-! ## Running a task -/

/-- `test_and_set` of the critical section: what the flag was. -/
def testAndSet (s : Concurrency Fn Ref) : Bool × Concurrency Fn Ref :=
  (s.statics.criticalSection, { s with statics.criticalSection := true })

def clearCriticalSection (s : Concurrency Fn Ref) : Concurrency Fn Ref :=
  { s with statics.criticalSection := false }

/-- What `runTask` does between acquiring the critical section and clearing it: the task
    it started, if any.  `pop_back` destroys the queued task. -/
def guardedSection (platform : Platform Fn) (fuel : Nat) (s : Concurrency Fn Ref)
    (ignoreAllocation : Bool) : Except Fault (Option (ThreadTask Fn) × Concurrency Fn Ref) :=
  match s.manager.taskQueue.getLast? with
  | none => .ok (none, s)
  | some task =>
    let s := { s with manager := s.manager.setResources platform s.statics }
    -- `runningScheduledTasks` went down for every task that was ever enqueued
    let available := s.manager.cpuCount - s.statics.runningScheduledTasks
    if available > 0 || ignoreAllocation then do
      let statics := { s.statics with
        runningScheduledTasks := s.statics.runningScheduledTasks + 1
        scheduledThreadCount := s.statics.scheduledThreadCount - if task.isPermanent then 0 else 1 }
      let manager := { s.manager with
        localThreadCount := s.manager.localThreadCount - 1
        lastIdDeath := task.taskId :: s.manager.lastIdDeath
        taskQueue := s.manager.taskQueue.dropLast }
      let s ← destroyTask fuel { statics, manager } task
      return (some task, s)
    else .ok (none, s)

/-- The end of `runTask`: a call that started no task reports it. -/
def finishRun (started : Option (ThreadTask Fn)) (s : Concurrency Fn Ref) :
    Except Fault (Option (ThreadTask Fn) × Concurrency Fn Ref) :=
  match started with
  | some task => .ok (some task, s)
  | none => (s.manager.report .cannotRunTask).map fun manager => (none, { s with manager })

/-- The result `true` is given as the task that was started. -/
def runTask (platform : Platform Fn) (fuel : Nat) (s : Concurrency Fn Ref)
    (ignoreAllocation : Bool) : Except Fault (Option (ThreadTask Fn) × Concurrency Fn Ref) := do
  let (wasSet, s) := s.testAndSet
  -- the flag is set by now, whichever operand fails
  if !wasSet && !s.manager.scheduledExitSet then
    let (started, s) ← s.guardedSection platform fuel ignoreAllocation
    s.clearCriticalSection.finishRun started
  else s.finishRun none

/-- `while(!runTask());`, for at most `tries` rounds. -/
def runUntilStarted (platform : Platform Fn) (fuel : Nat) :
    (tries : Nat) → Concurrency Fn Ref → Except Fault (Concurrency Fn Ref)
  | 0, _ => .error .outOfFuel
  | tries + 1, s => do
    match ← s.runTask platform fuel false with
    | (some _, s) => return s
    | (none, s) => runUntilStarted platform fuel tries s

/-- The body of a counting loop, `times` times. -/
def repeatCall (body : Concurrency Fn Ref → Except Fault (Concurrency Fn Ref)) :
    (times : Nat) → Concurrency Fn Ref → Except Fault (Concurrency Fn Ref)
  | 0, s => .ok s
  | times + 1, s => do
    let s ← body s
    repeatCall body times s

/-- The counter of the loop is a `short`. -/
def setAllTasks (platform : Platform Fn) (fuel : Nat) (s : Concurrency Fn Ref) :
    Except Fault (Concurrency Fn Ref) := do
  let listSize := Int16.ofNat s.manager.taskQueue.length
  let s ← repeatCall (runUntilStarted platform fuel fuel) listSize.toInt.toNat s
  return { s with manager := { s.manager with
    scheduledExitSet := false
    permanentExitSet := false
    primaryLaunchRan := true } }

def forceTasks (platform : Platform Fn) (fuel : Nat) (s : Concurrency Fn Ref)
    (taskIds : List Int16) : Except Fault (Concurrency Fn Ref) := do
  if !s.manager.primaryLaunchRan then .error .assertion else
  let size := Int32.ofNat taskIds.length
  let manager ← s.manager.forwardTasks platform taskIds
  repeatCall (fun s => (s.runTask platform fuel true).map Prod.snd) size.toInt.toNat
    { s with manager }

/-! ## Operations -/

/-- The public operations on one manager, and the use of a variable's lock. -/
inductive Op (Fn Ref : Type) where
  | enlistCommonVariable (reference : Ref) (lookup : String)
  | removeCommonVariable (lookup : String)
  | writeLock (pointer : EntryPointer) (lock : Bool)
  | enqueueTask (isJoin isPermanent isReoccuring : Bool) (function : Fn)
      (parameters : List String)
  | forwardTasks (taskIds : List Int16)
  | forceTasks (taskIds : List Int16)
  | runTask (ignoreAllocation : Bool)
  | setTasks
  | endTasks
  | setAllTasks
  | endAllTasks

/-- What an operation gives back. -/
inductive Output (Fn : Type) where
  | result (result : Bool)
  | started (task : Option (ThreadTask Fn))
  | done
  deriving DecidableEq

/-- Runs an operation that only touches the manager. -/
def onManager {α : Type} (s : Concurrency Fn Ref)
    (f : ConcurrencyManager Fn Ref → Except Fault (α × ConcurrencyManager Fn Ref)) :
    Except Fault (α × Concurrency Fn Ref) :=
  (f s.manager).map fun (a, manager) => (a, { s with manager })

/-- One operation. -/
def step (platform : Platform Fn) (fuel : Nat) (s : Concurrency Fn Ref) :
    Op Fn Ref → Except Fault (Output Fn × Concurrency Fn Ref)
  | .enlistCommonVariable reference lookup =>
    s.onManager fun m => (m.enlistCommonVariable reference lookup).map fun (r, m) => (.result r, m)
  | .removeCommonVariable lookup =>
    s.onManager fun m => (m.removeCommonVariable lookup).map fun (r, m) => (.result r, m)
  | .writeLock pointer lock => s.onManager fun m => .ok (.done, m.writeLock pointer lock)
  | .enqueueTask j p r f parameters =>
    (s.enqueueTask fuel j p r f parameters).map fun s => (.done, s)
  | .forwardTasks taskIds =>
    s.onManager fun m => (m.forwardTasks platform taskIds).map fun m => (.done, m)
  | .forceTasks taskIds => (s.forceTasks platform fuel taskIds).map fun s => (.done, s)
  | .runTask ignoreAllocation =>
    (s.runTask platform fuel ignoreAllocation).map fun (t, s) => (.started t, s)
  | .setTasks => s.onManager fun m => m.setTasks.map fun m => (.done, m)
  | .endTasks => s.onManager fun m => m.endTasks.map fun m => (.done, m)
  | .setAllTasks => (s.setAllTasks platform fuel).map fun s => (.done, s)
  | .endAllTasks => s.onManager fun m => m.endAllTasks.map fun m => (.done, m)

end Concurrency

/-- Any number of managers, and the static members that they share. -/
structure ConcurrencyManagers (ι Fn Ref : Type) where
  statics : ConcurrencyStatics
  managers : ι → ConcurrencyManager Fn Ref

namespace ConcurrencyManagers

variable {ι Fn Ref : Type}

/-- One of the managers together with the static members. -/
def concurrency (s : ConcurrencyManagers ι Fn Ref) (i : ι) : Concurrency Fn Ref where
  statics := s.statics
  manager := s.managers i

/-- All managers are constructed before the first call. -/
def construct (platform : Platform Fn) : ConcurrencyManagers ι Fn Ref where
  statics := {}
  managers := fun _ => (Concurrency.construct platform {}).manager

/-- An operation on one of the managers. -/
def step [DecidableEq ι] (platform : Platform Fn) (fuel : Nat) (s : ConcurrencyManagers ι Fn Ref)
    (op : ι × Concurrency.Op Fn Ref) :
    Except Fault (Concurrency.Output Fn × ConcurrencyManagers ι Fn Ref) :=
  ((s.concurrency op.1).step platform fuel op.2).map fun (o, c) =>
    (o, { statics := c.statics, managers := Function.update s.managers op.1 c.manager })

end ConcurrencyManagers

end NetworkedFS
