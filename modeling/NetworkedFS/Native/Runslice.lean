import NetworkedFS.ForStd.Finmap
import NetworkedFS.ForStd.List
import NetworkedFS.Native.Handler

/-!
# The slice scheduler

Model of `scheduler_runslice` (`LIBS/defs_scheduler.h`): two lists of callbacks, a
priority and a normal one, and a lookup that says for every registered identifier
which of the two holds it.  The head of a Lean list is the front of the C++ list,
where entries are put; `run()` takes the back.

The two queues are used alike throughout, so they are addressed by the flag
`is_priority` (`queue`, `setQueue`).  Each entry carries the number of the
registration that made it.  This number is ghost state: the source does not have
it and no operation reads it.
-/

namespace NetworkedFS

/-- `scheduler_runslice_mode`. -/
inductive RunsliceMode where
  | roundRobin
  | priorityRoundRobin
  | priorityOnlyRoundRobin
  deriving DecidableEq, Repr

/-- `scheduler_runslice_local_errors_lookup`. -/
inductive RunsliceError where
  | identifierNotAvailable
  | identifierIsOccupied
  | noTasksAvailable
  | noPriorityTasksAvailable
  deriving DecidableEq, Repr

/-- The enumerator's value. -/
def RunsliceError.code : RunsliceError → Int
  | .identifierNotAvailable => 0
  | .identifierIsOccupied => 1
  | .noTasksAvailable => 2
  | .noPriorityTasksAvailable => 3

def schedulerRunsliceLocalErrors : List String :=
  ["Identifier not available", "Identifier is occupied", "No tasks available",
   "No priority tasks available"]

/-- A `pair<int, pair<bool, handler_callback>>` of a scheduler list. -/
structure RunsliceEntry (Fn Args : Type) where
  identifier : Int
  persist : Bool
  callback : HandlerCallback Fn Args
  /-- Ghost: the number of the registration that made this entry. -/
  registration : Nat
  deriving DecidableEq, Repr

/-- What one `run()` executed. -/
structure Execution (Fn Args : Type) where
  isPriority : Bool
  entry : RunsliceEntry Fn Args
  invocation : Invocation Fn Args
  deriving DecidableEq, Repr

structure SchedulerRunslice (Fn Args : Type) where
  priorityRunsLast : Int8
  priorityQueue : List (RunsliceEntry Fn Args)
  normalQueue : List (RunsliceEntry Fn Args)
  isPriorityLookup : UMap Int Bool
  mode : RunsliceMode
  status : DebugStatus
  /-- Ghost: how many registrations have succeeded. -/
  registrations : Nat

namespace SchedulerRunslice

variable {Fn Args : Type}

/-- `SCHEDULER_RUNSLICE_ROUND_ROBIN_PRIORITY_CYCLES`. -/
def roundRobinPriorityCycles : Int8 := 1

/-- `SCHEDULER_RUNSLICE_PRIORITY_ROUND_ROBIN_PRIORITY_CYCLES`. -/
def priorityRoundRobinPriorityCycles : Int8 := 1

/-- The constructor. -/
def construct : SchedulerRunslice Fn Args where
  priorityRunsLast := 0
  priorityQueue := []
  normalQueue := []
  isPriorityLookup := ∅
  mode := .roundRobin
  status := {}
  registrations := 0

/-- The list that an `is_priority` flag names. -/
def queue (s : SchedulerRunslice Fn Args) (isPriority : Bool) : List (RunsliceEntry Fn Args) :=
  if isPriority then s.priorityQueue else s.normalQueue

def setQueue (s : SchedulerRunslice Fn Args) (isPriority : Bool)
    (q : List (RunsliceEntry Fn Args)) : SchedulerRunslice Fn Args :=
  if isPriority then { s with priorityQueue := q } else { s with normalQueue := q }

/-- `setReturnCode((int)error)`. -/
def report (s : SchedulerRunslice Fn Args) (error : RunsliceError) :
    Except Fault (SchedulerRunslice Fn Args) :=
  (s.status.setReturnCode (subclassErrors schedulerRunsliceLocalErrors) error.code).map
    fun status => { s with status }

/-- Says whether an identifier is free. -/
def enqueueSharedHelper (s : SchedulerRunslice Fn Args) (identifier : Int) :
    Except Fault (Bool × SchedulerRunslice Fn Args) :=
  match s.isPriorityLookup.lookup identifier with
  | none => .ok (true, s)
  | some _ => (s.report .identifierIsOccupied).map fun s => (false, s)

/-- The end that both enqueue functions share: the entry goes to the front of the
    queue its flag names, and the lookup learns the flag. -/
def emplaceRegistration (s : SchedulerRunslice Fn Args) (identifier : Int)
    (callback : HandlerCallback Fn Args) (isPriority persist : Bool) :
    SchedulerRunslice Fn Args :=
  let entry := { identifier, persist, callback, registration := s.registrations }
  { s.setQueue isPriority (entry :: s.queue isPriority) with
    isPriorityLookup := s.isPriorityLookup.insert identifier isPriority
    registrations := s.registrations + 1 }

def enqueueShared (s : SchedulerRunslice Fn Args) (identifier : Int)
    (functionPointer : Option Fn) (args : Args) (isPriority persist : Bool) :
    Except Fault (Bool × SchedulerRunslice Fn Args) := do
  let (result, s) ← s.enqueueSharedHelper identifier
  if result then
    let callback := (HandlerCallback.construct .empty).setFunction functionPointer args
    return (true, s.emplaceRegistration identifier callback isPriority persist)
  else return (false, s)

def enqueueSharedParameterFree (s : SchedulerRunslice Fn Args) (identifier : Int)
    (functionPointer : Option Fn) (isPriority persist : Bool) :
    Except Fault (Bool × SchedulerRunslice Fn Args) := do
  let (result, s) ← s.enqueueSharedHelper identifier
  if result then
    let callback := (HandlerCallback.construct .empty).setBoundOrFreeFunction
      (.ofPointer functionPointer)
    return (true, s.emplaceRegistration identifier callback isPriority persist)
  else return (false, s)

/-- The test of every `find_if`. -/
def hasIdentifier (identifier : Int) (entry : RunsliceEntry Fn Args) : Bool :=
  entry.identifier == identifier

/-- The iterator of a registered identifier: the queue its flag names, and the entry
    `find_if` gives there.  Dereferencing `end()` is undefined. -/
def updateSharedHelper (s : SchedulerRunslice Fn Args) (identifier : Int) :
    Except Fault (Option (Bool × RunsliceEntry Fn Args) × SchedulerRunslice Fn Args) :=
  match s.isPriorityLookup.lookup identifier with
  | some isPriority =>
    match (s.queue isPriority).find? (hasIdentifier identifier) with
    | some entry => .ok (some (isPriority, entry), s)
    | none => .error .undefined
  | none => (s.report .identifierNotAvailable).map fun s => (none, s)

/-- Writes a callback through the iterator. -/
def assignCallback (s : SchedulerRunslice Fn Args) (isPriority : Bool) (identifier : Int)
    (callback : HandlerCallback Fn Args) : SchedulerRunslice Fn Args :=
  s.setQueue isPriority
    ((s.queue isPriority).updateFirst (hasIdentifier identifier) ({ · with callback }))

def updateShared (s : SchedulerRunslice Fn Args) (identifier : Int)
    (functionPointer : Option Fn) (args : Args) :
    Except Fault (Bool × SchedulerRunslice Fn Args) := do
  match ← s.updateSharedHelper identifier with
  | (some (isPriority, entry), s) =>
    -- a null pointer stands for the overload that gets no function
    let callback ← match functionPointer with
      | none => entry.callback.setParameters args
      | some _ => .ok (entry.callback.setFunction functionPointer args)
    return (true, s.assignCallback isPriority identifier callback)
  | (none, s) => return (false, s)

def updateSharedParameterFree (s : SchedulerRunslice Fn Args) (identifier : Int)
    (functionPointer : Option Fn) : Except Fault (Bool × SchedulerRunslice Fn Args) := do
  match ← s.updateSharedHelper identifier with
  | (some (isPriority, entry), s) =>
    let callback := entry.callback.setBoundOrFreeFunction (.ofPointer functionPointer)
    return (true, s.assignCallback isPriority identifier callback)
  | (none, s) => return (false, s)

def removeRegistrationInline (s : SchedulerRunslice Fn Args) (identifier : Int) :
    Except Fault (Bool × SchedulerRunslice Fn Args) :=
  match s.isPriorityLookup.lookup identifier with
  | some isPriority =>
    match (s.queue isPriority).find? (hasIdentifier identifier) with
    | some _ =>
      .ok (true, { s.setQueue isPriority ((s.queue isPriority).eraseP (hasIdentifier identifier))
        with isPriorityLookup := s.isPriorityLookup.erase identifier })
    | none => .error .undefined
  | none => (s.report .identifierNotAvailable).map fun s => (false, s)

/-- Runs the back of `runQueue`.  The parameter is passed by value: the entry is
    re-queued and popped in the caller's copy, which is returned here so that it is
    seen to be dropped, and only the lookup of the scheduler itself changes. -/
def runOperationInline (s : SchedulerRunslice Fn Args) (runQueue : List (RunsliceEntry Fn Args)) :
    Except Fault ((RunsliceEntry Fn Args × Invocation Fn Args) × List (RunsliceEntry Fn Args) ×
      SchedulerRunslice Fn Args) :=
  match runQueue.getLast? with
  | none => .error .undefined
  | some back => do
    let invocation ← back.callback.run
    if back.persist then
      -- pushed to the front and popped from the back, all in the copy
      return ((back, invocation), (back :: runQueue).dropLast, s)
    else
      return ((back, invocation), runQueue.dropLast,
        { s with isPriorityLookup := s.isPriorityLookup.erase back.identifier })

def setAlgorithmMode (s : SchedulerRunslice Fn Args) (designatedAllocator : RunsliceMode) :
    SchedulerRunslice Fn Args :=
  { s with mode := designatedAllocator }

def enqueueRegistration (s : SchedulerRunslice Fn Args) (identifier : Int)
    (functionPointer : Option Fn) (isPriority persist : Bool) :
    Except Fault (Bool × SchedulerRunslice Fn Args) :=
  s.enqueueSharedParameterFree identifier functionPointer isPriority persist

def enqueueRegistrationParameters (s : SchedulerRunslice Fn Args) (identifier : Int)
    (functionPointer : Option Fn) (args : Args) (isPriority persist : Bool) :
    Except Fault (Bool × SchedulerRunslice Fn Args) :=
  s.enqueueShared identifier functionPointer args isPriority persist

/-- Moves a registration to the front of the other queue when the flag changes. -/
def updateRegistrationPriority (s : SchedulerRunslice Fn Args) (identifier : Int)
    (isPriority : Bool) : Except Fault (Bool × SchedulerRunslice Fn Args) :=
  match s.isPriorityLookup.lookup identifier with
  | some current =>
    if current ≠ isPriority then
      match (s.queue current).find? (hasIdentifier identifier) with
      | some entry =>
        -- a copy is put into the other queue before the original is erased
        let s := s.setQueue isPriority (entry :: s.queue isPriority)
        let s := s.setQueue current ((s.queue current).eraseP (hasIdentifier identifier))
        .ok (true, { s with isPriorityLookup := s.isPriorityLookup.insert identifier isPriority })
      | none => .error .undefined
    else
      .ok (true, { s with isPriorityLookup := s.isPriorityLookup.insert identifier isPriority })
  | none => (s.report .identifierNotAvailable).map fun s => (false, s)

def updateRegistration (s : SchedulerRunslice Fn Args) (identifier : Int)
    (functionPointer : Option Fn) : Except Fault (Bool × SchedulerRunslice Fn Args) :=
  s.updateSharedParameterFree identifier functionPointer

def updateRegistrationParameters (s : SchedulerRunslice Fn Args) (identifier : Int)
    (functionPointer : Option Fn) (args : Args) :
    Except Fault (Bool × SchedulerRunslice Fn Args) :=
  s.updateShared identifier functionPointer args

/-- What the body says; no call of the template compiles, see `callUpdateParametersOnly`. -/
def updateRegistrationParametersOnly (s : SchedulerRunslice Fn Args) (identifier : Int)
    (args : Args) : Except Fault (Bool × SchedulerRunslice Fn Args) :=
  s.updateShared identifier none args

def removeRegistration (s : SchedulerRunslice Fn Args) (identifier : Int) :
    Except Fault (Bool × SchedulerRunslice Fn Args) :=
  s.removeRegistrationInline identifier

/-- The queue `run()` takes in the two round robin modes. -/
def takesPriority (s : SchedulerRunslice Fn Args) : Bool :=
  (s.priorityRunsLast != 0 && !s.priorityQueue.isEmpty) || s.normalQueue.isEmpty

/-- The four updates of the counter at the end of a round robin `run()`. -/
def nextPriorityRunsLast (mode : RunsliceMode) (runsLast : Int8) : Int8 :=
  -- each comparison yields 0 or 1, which is added or multiplied in every mode
  let runsLast := runsLast + if mode = .roundRobin then 1 else 0
  let runsLast := runsLast * if runsLast > roundRobinPriorityCycles then 1 else 0
  let runsLast := runsLast + if mode = .priorityRoundRobin then 1 else 0
  runsLast * if runsLast > priorityRoundRobinPriorityCycles then 1 else 0

def run (s : SchedulerRunslice Fn Args) :
    Except Fault (Option (Execution Fn Args) × SchedulerRunslice Fn Args) := do
  -- the lookup is asked whether there are tasks, not the queues
  if s.isPriorityLookup ≠ ∅ then
    if s.mode ≠ .priorityOnlyRoundRobin then
      let isPriority := s.takesPriority
      let ((entry, invocation), _, s) ← s.runOperationInline (s.queue isPriority)
      return (some { isPriority, entry, invocation },
        { s with priorityRunsLast := nextPriorityRunsLast s.mode s.priorityRunsLast })
    else if !s.priorityQueue.isEmpty then
      let ((entry, invocation), _, s) ← s.runOperationInline s.priorityQueue
      return (some { isPriority := true, entry, invocation }, { s with priorityRunsLast := 0 })
    else
      let s ← s.report .noPriorityTasksAvailable
      return (none, { s with priorityRunsLast := 0 })
  else
    let s ← s.report .noTasksAvailable
    return (none, s)

def clean (s : SchedulerRunslice Fn Args) : SchedulerRunslice Fn Args :=
  { s with
    priorityRunsLast := 0
    mode := .roundRobin
    priorityQueue := []
    normalQueue := []
    isPriorityLookup := ∅ }

/-- The public operations. -/
inductive Op (Fn Args : Type) where
  | enqueueRegistration (identifier : Int) (functionPointer : Option Fn)
      (isPriority persist : Bool)
  | enqueueRegistrationParameters (identifier : Int) (functionPointer : Option Fn) (args : Args)
      (isPriority persist : Bool)
  | updateRegistrationPriority (identifier : Int) (isPriority : Bool)
  | updateRegistration (identifier : Int) (functionPointer : Option Fn)
  | updateRegistrationParameters (identifier : Int) (functionPointer : Option Fn) (args : Args)
  | updateRegistrationParametersOnly (identifier : Int) (args : Args)
  | removeRegistration (identifier : Int)
  | setAlgorithmMode (mode : RunsliceMode)
  | run
  | clean

/-- What an operation gives back: the result of a boolean operation, or what `run()`
    executed. -/
inductive Output (Fn Args : Type) where
  | result (result : Bool)
  | ran (execution : Option (Execution Fn Args))
  | done

/-- One call of the public interface. -/
def step (s : SchedulerRunslice Fn Args) :
    Op Fn Args → Except Fault (Output Fn Args × SchedulerRunslice Fn Args)
  | .enqueueRegistration i f p k =>
    (s.enqueueRegistration i f p k).map fun (r, s) => (.result r, s)
  | .enqueueRegistrationParameters i f a p k =>
    (s.enqueueRegistrationParameters i f a p k).map fun (r, s) => (.result r, s)
  | .updateRegistrationPriority i p =>
    (s.updateRegistrationPriority i p).map fun (r, s) => (.result r, s)
  | .updateRegistration i f => (s.updateRegistration i f).map fun (r, s) => (.result r, s)
  | .updateRegistrationParameters i f a =>
    (s.updateRegistrationParameters i f a).map fun (r, s) => (.result r, s)
  | .updateRegistrationParametersOnly i a =>
    (s.updateRegistrationParametersOnly i a).map fun (r, s) => (.result r, s)
  | .removeRegistration i => (s.removeRegistration i).map fun (r, s) => (.result r, s)
  | .setAlgorithmMode m => .ok (.done, s.setAlgorithmMode m)
  | .run => s.run.map fun (e, s) => (.ran e, s)
  | .clean => .ok (.done, s.clean)

end SchedulerRunslice

end NetworkedFS
