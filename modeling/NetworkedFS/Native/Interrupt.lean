import Mathlib.Logic.Function.Basic
import NetworkedFS.ForStd.Finmap
import NetworkedFS.Native.Handler

/-!
# The interrupt scheduler

Model of `scheduler_interrupt` (`LIBS/defs_scheduler.h`): one queue of identifiers for
each of eight signals, a table of the registered callbacks, and the handler that runs
a callback of a signal's queue when the signal is delivered.  The head of a Lean list
is the front of the C++ `queue`, where `pop()` takes entries; `push()` and `back()`
work at its other end.

The operations are modelled one at a time, so the mutexes are left out.  So is the
constructor, which asserts the result of `test_and_set` on a clear flag: states start
from `initial`.
-/

namespace NetworkedFS

/-- `scheduler_interrupt_signal_queues_offsets`. -/
inductive SignalOffset where
  | sigabrt
  | sigfpe
  | sigill
  | sigint
  | sigsegv
  | sigterm
  | sigusr1
  | sigusr2
  deriving DecidableEq, Repr

/-- `scheduler_signal_value_lookup`, with the values of `signal.h`. -/
def SignalOffset.signalValue : SignalOffset → Int
  | .sigabrt => 6
  | .sigfpe => 8
  | .sigill => 4
  | .sigint => 2
  | .sigsegv => 11
  | .sigterm => 15
  | .sigusr1 => 10
  | .sigusr2 => 12

/-- `scheduler_interrupt_local_errors_lookup`. -/
inductive InterruptError where
  | identifierNotAvailable
  | callbackDroppedPrematurely
  | queueIsEmpty
  deriving DecidableEq, Repr

/-- The enumerator's value. -/
def InterruptError.code : InterruptError → Int
  | .identifierNotAvailable => 0
  | .callbackDroppedPrematurely => 1
  | .queueIsEmpty => 2

def schedulerInterruptLocalErrors : List String :=
  ["Identifier not available", "Callback_dropped_prematurely", "Queue_is_empty"]

/-- What one delivery ran: the identifier and persist flag of the queue entry, and the
    call that its callback made. -/
structure Delivery (Fn Args : Type) where
  identifier : Int
  persist : Bool
  invocation : Invocation Fn Args
  deriving DecidableEq, Repr

structure SchedulerInterrupt (Fn Args : Type) where
  availableForOffload : Bool
  signalQueues : SignalOffset → List (Int × Bool)
  callbacks : UMap Int (SignalOffset × HandlerCallback Fn Args)
  signalValueReverseLookup : UMap Int SignalOffset
  status : DebugStatus

namespace SchedulerInterrupt

variable {Fn Args : Type}

/-- The initializer of `scheduler_signal_value_reverse_lookup`, which has no entry for
    `sigint`. -/
def initialReverseLookup : UMap Int SignalOffset :=
  [SignalOffset.sigabrt, .sigfpe, .sigill, .sigsegv, .sigterm, .sigusr1, .sigusr2].foldl
    (fun lookup offset => lookup.insert offset.signalValue offset) ∅

/-- Empty tables, ready to run callbacks. -/
def initial : SchedulerInterrupt Fn Args where
  availableForOffload := true
  signalQueues := fun _ => []
  callbacks := ∅
  signalValueReverseLookup := initialReverseLookup
  status := {}

def setQueue (s : SchedulerInterrupt Fn Args) (offset : SignalOffset) (q : List (Int × Bool)) :
    SchedulerInterrupt Fn Args :=
  { s with signalQueues := Function.update s.signalQueues offset q }

/-- `setReturnCode((int)error)`. -/
def report (s : SchedulerInterrupt Fn Args) (error : InterruptError) :
    Except Fault (SchedulerInterrupt Fn Args) :=
  (s.status.setReturnCode (subclassErrors schedulerInterruptLocalErrors) error.code).map
    fun status => { s with status }

/-- `scheduler_signal_value_reverse_lookup[signal]`: a missing key is inserted with the
    value 0, which is the offset of `sigabrt`. -/
def reverseLookup (s : SchedulerInterrupt Fn Args) (signal : Int) :
    SignalOffset × SchedulerInterrupt Fn Args :=
  match s.signalValueReverseLookup.lookup signal with
  | some offset => (offset, s)
  | none => (.sigabrt, { s with
      signalValueReverseLookup := s.signalValueReverseLookup.insert signal .sigabrt })

/-- Runs the callback of an identifier, if there is one. -/
def runCallback (s : SchedulerInterrupt Fn Args) (identifier : Int) (persist : Bool) :
    Except Fault (Option (Delivery Fn Args) × SchedulerInterrupt Fn Args) :=
  match s.callbacks.lookup identifier with
  | some (_, callback) => callback.run.map fun invocation =>
      (some { identifier, persist, invocation }, s)
  -- the callback was removed while its identifier was queued
  | none => (s.report .callbackDroppedPrematurely).map fun s => (none, s)

/-- The signal handler: it runs the callback at the back of the queue and pops the
    front. -/
def handlerUpdateAndRun (s : SchedulerInterrupt Fn Args) (signal : Int) :
    Except Fault (Option (Delivery Fn Args) × SchedulerInterrupt Fn Args) := do
  let (offset, s) := s.reverseLookup signal
  if s.availableForOffload then
    match (s.signalQueues offset).getLast? with
    -- `back()` names the callback that runs, `pop()` takes the entry at the front
    | some (identifier, persist) =>
      let (ran, s) ← s.runCallback identifier persist
      let s :=
        if persist then s.setQueue offset (s.signalQueues offset ++ [(identifier, true)])
        else { s with callbacks := s.callbacks.erase identifier }
      return (ran, s.setQueue offset (s.signalQueues offset).tail)
    | none =>
      let s ← s.report .queueIsEmpty
      return (none, s)
  else return (none, s)

def registerSharedHelper (s : SchedulerInterrupt Fn Args) (identifier : Int)
    (callback : HandlerCallback Fn Args) (signalType : SignalOffset) (persist : Bool) :
    Bool × SchedulerInterrupt Fn Args :=
  match s.callbacks.lookup identifier with
  -- a taken identifier is refused, without a report
  | some _ => (false, s)
  | none => (true, { s.setQueue signalType (s.signalQueues signalType ++ [(identifier, persist)])
      with callbacks := s.callbacks.insert identifier (signalType, callback) })

def registerShared (s : SchedulerInterrupt Fn Args) (identifier : Int)
    (functionPointer : Option Fn) (signalType : SignalOffset) (persist : Bool) (args : Args) :
    Bool × SchedulerInterrupt Fn Args :=
  let callback := (HandlerCallback.construct .empty).setFunction functionPointer args
  s.registerSharedHelper identifier callback signalType persist

def registerSharedParameterFree (s : SchedulerInterrupt Fn Args) (identifier : Int)
    (functionPointer : Option Fn) (signalType : SignalOffset) (persist : Bool) :
    Bool × SchedulerInterrupt Fn Args :=
  let callback := (HandlerCallback.construct .empty).setBoundOrFreeFunction
    (.ofPointer functionPointer)
  s.registerSharedHelper identifier callback signalType persist

/-- The iterator of an identifier, unless it is `end()`. -/
def updateSharedHelper (s : SchedulerInterrupt Fn Args) (identifier : Int) :
    Option (SignalOffset × HandlerCallback Fn Args) :=
  s.callbacks.lookup identifier

/-- Writes a callback through the iterator. -/
def assignCallback (s : SchedulerInterrupt Fn Args) (identifier : Int)
    (signalType : SignalOffset) (callback : HandlerCallback Fn Args) :
    SchedulerInterrupt Fn Args :=
  { s with callbacks := s.callbacks.insert identifier (signalType, callback) }

def updateShared (s : SchedulerInterrupt Fn Args) (identifier : Int)
    (functionPointer : Option Fn) (args : Args) :
    Except Fault (Bool × SchedulerInterrupt Fn Args) := do
  match s.updateSharedHelper identifier with
  | some (signalType, callback) =>
    let callback ← match functionPointer with
      | none => callback.setParameters args
      | some _ => .ok (callback.setFunction functionPointer args)
    return (true, s.assignCallback identifier signalType callback)
  | none => return (false, s)

def updateSharedParameterFree (s : SchedulerInterrupt Fn Args) (identifier : Int)
    (functionPointer : Option Fn) : Bool × SchedulerInterrupt Fn Args :=
  match s.updateSharedHelper identifier with
  | some (signalType, callback) =>
    (true, s.assignCallback identifier signalType
      (callback.setBoundOrFreeFunction (.ofPointer functionPointer)))
  | none => (false, s)

def registerFunction (s : SchedulerInterrupt Fn Args) (identifier : Int)
    (functionPointer : Option Fn) (signalType : SignalOffset) (persist : Bool) :
    Bool × SchedulerInterrupt Fn Args :=
  s.registerSharedParameterFree identifier functionPointer signalType persist

def registerFunctionParameters (s : SchedulerInterrupt Fn Args) (identifier : Int)
    (functionPointer : Option Fn) (args : Args) (signalType : SignalOffset) (persist : Bool) :
    Bool × SchedulerInterrupt Fn Args :=
  s.registerShared identifier functionPointer signalType persist args

def updateRegistration (s : SchedulerInterrupt Fn Args) (identifier : Int)
    (functionPointer : Option Fn) : Bool × SchedulerInterrupt Fn Args :=
  s.updateSharedParameterFree identifier functionPointer

def updateRegistrationParameters (s : SchedulerInterrupt Fn Args) (identifier : Int)
    (functionPointer : Option Fn) (args : Args) :
    Except Fault (Bool × SchedulerInterrupt Fn Args) :=
  s.updateShared identifier functionPointer args

/-- What the body says; no call of the template compiles, see `callUpdateParametersOnly`. -/
def updateRegistrationParametersOnly (s : SchedulerInterrupt Fn Args) (identifier : Int)
    (args : Args) : Except Fault (Bool × SchedulerInterrupt Fn Args) :=
  s.updateShared identifier none args

/-- Takes an identifier out of the callbacks only. -/
def removeRegistration (s : SchedulerInterrupt Fn Args) (identifier : Int) :
    Bool × SchedulerInterrupt Fn Args :=
  match s.callbacks.lookup identifier with
  | some _ => (true, { s with callbacks := s.callbacks.erase identifier })
  | none => (false, s)

def toggleHandlerSignaling (s : SchedulerInterrupt Fn Args) : SchedulerInterrupt Fn Args :=
  { s with availableForOffload := !s.availableForOffload }

def clean (s : SchedulerInterrupt Fn Args) : SchedulerInterrupt Fn Args :=
  { s with callbacks := ∅, signalQueues := fun _ => [] }

/-- The public operations, and the delivery of a signal. -/
inductive Op (Fn Args : Type) where
  | registerFunction (identifier : Int) (functionPointer : Option Fn)
      (signalType : SignalOffset) (persist : Bool)
  | registerFunctionParameters (identifier : Int) (functionPointer : Option Fn) (args : Args)
      (signalType : SignalOffset) (persist : Bool)
  | updateRegistration (identifier : Int) (functionPointer : Option Fn)
  | updateRegistrationParameters (identifier : Int) (functionPointer : Option Fn) (args : Args)
  | updateRegistrationParametersOnly (identifier : Int) (args : Args)
  | removeRegistration (identifier : Int)
  | toggleHandlerSignaling
  | clean
  | deliver (signal : Int)

/-- What an operation gives back: the result of a boolean operation, or what a delivery
    ran. -/
inductive Output (Fn Args : Type) where
  | result (result : Bool)
  | delivered (delivery : Option (Delivery Fn Args))
  | done
  deriving DecidableEq

/-- One operation. -/
def step (s : SchedulerInterrupt Fn Args) :
    Op Fn Args → Except Fault (Output Fn Args × SchedulerInterrupt Fn Args)
  | .registerFunction i f signalType persist =>
    let (r, s) := s.registerFunction i f signalType persist
    .ok (.result r, s)
  | .registerFunctionParameters i f a signalType persist =>
    let (r, s) := s.registerFunctionParameters i f a signalType persist
    .ok (.result r, s)
  | .updateRegistration i f =>
    let (r, s) := s.updateRegistration i f
    .ok (.result r, s)
  | .updateRegistrationParameters i f a =>
    (s.updateRegistrationParameters i f a).map fun (r, s) => (.result r, s)
  | .updateRegistrationParametersOnly i a =>
    (s.updateRegistrationParametersOnly i a).map fun (r, s) => (.result r, s)
  | .removeRegistration i =>
    let (r, s) := s.removeRegistration i
    .ok (.result r, s)
  | .toggleHandlerSignaling => .ok (.done, s.toggleHandlerSignaling)
  | .clean => .ok (.done, s.clean)
  | .deliver signal => (s.handlerUpdateAndRun signal).map fun (d, s) => (.delivered d, s)

end SchedulerInterrupt

end NetworkedFS
