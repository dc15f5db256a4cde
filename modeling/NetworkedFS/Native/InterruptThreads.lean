import NetworkedFS.ForStd.LockProgram
import NetworkedFS.Native.Interrupt

/-!
# The interrupt scheduler among threads

The operations of `scheduler_interrupt` (`LIBS/defs_scheduler.h`) once more, now with
their mutexes: each operation is a program of steps that lock, unlock, or act on the
tables, and any number of threads run such programs.  A signal handler starts on a thread
at any step, on top of the call that it interrupts.

An update carries an iterator from one critical section to another.  An iterator is named
here by what no operation changes in the entry that it points to: the identifier, which
of the entries inserted under that identifier it is, and the signal.  Going through an
iterator whose entry has been erased is undefined.
-/

namespace NetworkedFS

/-- `scheduler_callback_mutex` and the members of `scheduler_per_queue_mutex`. -/
inductive InterruptMutex where
  | callback
  | queue (signalType : SignalOffset)
  deriving DecidableEq, Repr

/-- Why a step of an operation does not return. -/
inductive InterruptFault where
  /-- It goes through an iterator to an erased entry. -/
  | dangling
  | fault (fault : Fault)
  deriving DecidableEq, Repr

/-- An iterator into `scheduler_callbacks`. -/
structure CallbackIterator where
  identifier : Int
  /-- How many entries had been inserted under the identifier with this one. -/
  generation : Nat
  signalType : SignalOffset
  deriving DecidableEq, Repr

/-- The tables that the threads share, and how many entries have been inserted under each
    identifier. -/
structure InterruptShared (Fn Args : Type) where
  tables : SchedulerInterrupt Fn Args
  generation : Int → Nat

namespace InterruptShared

variable {Fn Args β : Type}

/-- Acts on the tables. -/
def onTables
    (f : SchedulerInterrupt Fn Args → Except Fault (β × SchedulerInterrupt Fn Args))
    (s : InterruptShared Fn Args) : Except InterruptFault (β × InterruptShared Fn Args) :=
  match f s.tables with
  | .ok (b, tables) => .ok (b, { s with tables })
  | .error e => .error (.fault e)

/-- `scheduler_callbacks.emplace(...).second`. -/
def emplace (identifier : Int) (signalType : SignalOffset) (callback : HandlerCallback Fn Args)
    (s : InterruptShared Fn Args) : Except InterruptFault (Bool × InterruptShared Fn Args) :=
  match s.tables.callbacks.lookup identifier with
  | some _ => .ok (false, s)
  | none => .ok (true, {
      tables := { s.tables with
        callbacks := s.tables.callbacks.insert identifier (signalType, callback) }
      generation := Function.update s.generation identifier (s.generation identifier + 1) })

/-- `scheduler_callbacks.find(identifier)`, unless it is `end()`. -/
def find (s : InterruptShared Fn Args) (identifier : Int) : Option CallbackIterator :=
  (s.tables.updateSharedHelper identifier).map fun x =>
    { identifier, generation := s.generation identifier, signalType := x.1 }

/-- The entry of an iterator, if it has not been erased. -/
def deref (iterator : CallbackIterator) (s : InterruptShared Fn Args) :
    Except InterruptFault (SignalOffset × HandlerCallback Fn Args) :=
  match s.tables.callbacks.lookup iterator.identifier with
  | some entry => if s.find iterator.identifier = some iterator then .ok entry else .error .dangling
  | none => .error .dangling

/-- Replaces the callback in the entry of an iterator. -/
def assign (iterator : CallbackIterator)
    (write : HandlerCallback Fn Args → Except Fault (HandlerCallback Fn Args))
    (s : InterruptShared Fn Args) : Except InterruptFault (Unit × InterruptShared Fn Args) :=
  match s.deref iterator with
  | .ok (signalType, callback) =>
    match write callback with
    | .ok callback => .ok ((), { s with
        tables := s.tables.assignCallback iterator.identifier signalType callback })
    | .error e => .error (.fault e)
  | .error e => .error e

end InterruptShared

/-- What an operation does step by step. -/
abbrev InterruptProg (Fn Args α : Type) : Type 1 :=
  LockProg (InterruptShared Fn Args) InterruptMutex InterruptFault α

namespace InterruptProg

open LockProg InterruptShared

variable {Fn Args : Type}

def registerSharedHelper (identifier : Int) (callback : HandlerCallback Fn Args)
    (signalType : SignalOffset) (persist : Bool) : InterruptProg Fn Args Bool := do
  lockMutex .callback
  let inserted ← atomic (emplace identifier signalType callback)
  unlockMutex .callback
  if inserted then
    lockMutex (.queue signalType)
    atomic (onTables fun s =>
      .ok ((), s.setQueue signalType (s.signalQueues signalType ++ [(identifier, persist)])))
    unlockMutex (.queue signalType)
    return true
  else return false

def registerShared (identifier : Int) (functionPointer : Option Fn) (signalType : SignalOffset)
    (persist : Bool) (args : Args) : InterruptProg Fn Args Bool :=
  let callback := (HandlerCallback.construct .empty).setFunction functionPointer args
  registerSharedHelper identifier callback signalType persist

def registerSharedParameterFree (identifier : Int) (functionPointer : Option Fn)
    (signalType : SignalOffset) (persist : Bool) : InterruptProg Fn Args Bool :=
  let callback := (HandlerCallback.construct .empty).setBoundOrFreeFunction
    (.ofPointer functionPointer)
  registerSharedHelper identifier callback signalType persist

def updateSharedHelper (identifier : Int) : InterruptProg Fn Args (Option CallbackIterator) := do
  lockMutex .callback
  let iterator ← LockProg.read fun s => .ok (s.find identifier)
  unlockMutex .callback
  return iterator

/-- `updateShared` and `updateSharedParameterFree`, which differ in what they write.  The
    mutex of the queue is looked up through the iterator, once to lock and once to unlock
    it. -/
def updateThrough (identifier : Int)
    (write : HandlerCallback Fn Args → Except Fault (HandlerCallback Fn Args)) :
    InterruptProg Fn Args Bool := do
  match ← updateSharedHelper identifier with
  | some iterator =>
    let entry ← LockProg.read (deref iterator)
    lockMutex (.queue entry.1)
    atomic (assign iterator write)
    let entry ← LockProg.read (deref iterator)
    unlockMutex (.queue entry.1)
    return true
  | none => return false

/-- What `updateShared` writes. -/
def writeShared (functionPointer : Option Fn) (args : Args) (callback : HandlerCallback Fn Args) :
    Except Fault (HandlerCallback Fn Args) :=
  match functionPointer with
  | none => callback.setParameters args
  | some _ => .ok (callback.setFunction functionPointer args)

def updateShared (identifier : Int) (functionPointer : Option Fn) (args : Args) :
    InterruptProg Fn Args Bool :=
  updateThrough identifier (writeShared functionPointer args)

def updateSharedParameterFree (identifier : Int) (functionPointer : Option Fn) :
    InterruptProg Fn Args Bool :=
  updateThrough identifier fun callback =>
    .ok (callback.setBoundOrFreeFunction (.ofPointer functionPointer))

def removeRegistration (identifier : Int) : InterruptProg Fn Args Bool := do
  lockMutex .callback
  let result ← atomic (onTables fun s => .ok (s.removeRegistration identifier))
  unlockMutex .callback
  return result

/-- The loop of `clean` over the queues. -/
def cleanQueues : List SignalOffset → InterruptProg Fn Args Unit
  | [] => pure ()
  | signalType :: rest => do
    lockMutex (.queue signalType)
    atomic (onTables fun s => .ok ((), s.setQueue signalType []))
    unlockMutex (.queue signalType)
    cleanQueues rest

/-- The offsets in their order. -/
def offsets : List SignalOffset :=
  [.sigabrt, .sigfpe, .sigill, .sigint, .sigsegv, .sigterm, .sigusr1, .sigusr2]

def clean : InterruptProg Fn Args Unit := do
  lockMutex .callback
  atomic (onTables fun s => .ok ((), { s with callbacks := ∅ }))
  unlockMutex .callback
  cleanQueues offsets

/-- What becomes of the entry at the back of the queue: a persistent one is queued again,
    of another one the callback is erased. -/
def requeue (offset : SignalOffset) (identifier : Int) (persist : Bool) :
    InterruptProg Fn Args Unit :=
  if persist then
    atomic (onTables fun s =>
      .ok ((), s.setQueue offset (s.signalQueues offset ++ [(identifier, true)])))
  else do
    lockMutex .callback
    atomic (onTables fun s => .ok ((), { s with callbacks := s.callbacks.erase identifier }))
    unlockMutex .callback

/-- The part of the handler under the mutex of the queue. -/
def handleQueue (offset : SignalOffset) :
    InterruptProg Fn Args (Option (Delivery Fn Args)) := do
  match ← LockProg.read fun s => .ok (s.tables.signalQueues offset).getLast? with
  | some (identifier, persist) =>
    lockMutex .callback
    let ran ← atomic (onTables fun s => s.runCallback identifier persist)
    unlockMutex .callback
    -- the flag is read from the back of the queue again
    let back ← LockProg.read fun s => match (s.tables.signalQueues offset).getLast? with
      | some back => .ok back
      | none => .error (.fault .undefined)
    requeue offset identifier back.2
    atomic (onTables fun s => .ok ((), s.setQueue offset (s.signalQueues offset).tail))
    return ran
  | none =>
    atomic (onTables fun s => (s.report .queueIsEmpty).map fun s => (none, s))

def handlerUpdateAndRun (signal : Int) : InterruptProg Fn Args (Option (Delivery Fn Args)) := do
  let offset ← atomic (onTables fun s => .ok (s.reverseLookup signal))
  let available ← LockProg.read fun s => .ok s.tables.availableForOffload
  if available then
    lockMutex (.queue offset)
    let ran ← handleQueue offset
    unlockMutex (.queue offset)
    return ran
  else return none

end InterruptProg

variable {ι Fn Args : Type}

namespace SchedulerInterrupt

/-- The program of an operation. -/
def Op.program : Op Fn Args →
    InterruptProg Fn Args (Output Fn Args)
  | .registerFunction i f signalType persist =>
    .result <$> InterruptProg.registerSharedParameterFree i f signalType persist
  | .registerFunctionParameters i f a signalType persist =>
    .result <$> InterruptProg.registerShared i f signalType persist a
  | .updateRegistration i f => .result <$> InterruptProg.updateSharedParameterFree i f
  | .updateRegistrationParameters i f a => .result <$> InterruptProg.updateShared i f a
  | .updateRegistrationParametersOnly i a => .result <$> InterruptProg.updateShared i none a
  | .removeRegistration i => .result <$> InterruptProg.removeRegistration i
  | .toggleHandlerSignaling =>
    LockProg.atomic (InterruptShared.onTables fun s => .ok (.done, s.toggleHandlerSignaling))
  | .clean => (fun _ => .done) <$> InterruptProg.clean
  | .deliver signal => .delivered <$> InterruptProg.handlerUpdateAndRun signal

/-- The operations that threads call.  The handler is started by signals, and toggling takes
    no lock. -/
def Op.isCall : Op Fn Args → Bool
  | .toggleHandlerSignaling | .deliver _ => false
  | _ => true

end SchedulerInterrupt

/-- Threads that run the operations of one scheduler. -/
abbrev InterruptThreads (ι Fn Args : Type) : Type 1 :=
  Threads ι (SchedulerInterrupt.Op Fn Args) (InterruptShared Fn Args) InterruptMutex
    InterruptFault (SchedulerInterrupt.Output Fn Args)

namespace InterruptThreads

/-- What can happen next: a thread calls an operation, a signal is delivered on a thread, or
    a thread makes a step. -/
inductive Event (ι Fn Args : Type) where
  | call (t : ι) (op : SchedulerInterrupt.Op Fn Args)
  | interrupt (t : ι) (signal : Int)
  | advance (t : ι)

/-- One step of the interleaving.  A thread that is in a call does not make another, but the
    handler starts at any step of it. -/
def step [DecidableEq ι] (w : InterruptThreads ι Fn Args) : Event ι Fn Args →
    Except (Halt InterruptFault)
      (Option (SchedulerInterrupt.Output Fn Args) × InterruptThreads ι Fn Args)
  | .call t op =>
    if (w.stack t).isEmpty && op.isCall then .ok (none, w.start t op op.program)
    else .ok (none, w)
  | .interrupt t signal =>
    .ok (none, w.start t (.deliver signal) (SchedulerInterrupt.Op.deliver signal).program)
  | .advance t => w.advance t

end InterruptThreads

end NetworkedFS
