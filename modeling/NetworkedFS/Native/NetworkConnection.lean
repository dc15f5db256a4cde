import NetworkedFS.Native.Network
import Mathlib.Logic.Function.Basic

/-!
# Setting up and ending connections

Model of the other functions of `network_instance` (`LIBS/defs_network.h`): those that find
the hosts, open the sockets, connect and terminate.  What the resolver and the kernel answer
is an argument of each call, and the kernel knows which descriptors are open.  The addresses
only go from the one to the other and are left out.

How often each descriptor is closed is ghost state.
-/

namespace NetworkedFS

/-- `network_local_errors_lookup`. -/
inductive NetworkError where
  | cannotObtainServerAddress
  | cannotObtainClientAddress
  | cannotOpenSocket
  | cannotBind
  | cannotAcceptConnection
  | cannotConnect
  deriving DecidableEq, Repr

/-- The enumerator's value. -/
def NetworkError.code : NetworkError → Int
  | .cannotObtainServerAddress => 0
  | .cannotObtainClientAddress => 1
  | .cannotOpenSocket => 2
  | .cannotBind => 3
  | .cannotAcceptConnection => 4
  | .cannotConnect => 5

/-- `network_local_errors`, as the constructor hands it to the base class. -/
def networkErrors : ClassErrors := subclassErrors
  ["Cannot obtain server address information", "Cannot obtain client address",
    "Cannot open socket", "Cannot bind", "Cannot accept connection", "Cannot connect"]

/-! ## The kernel -/

/-- A socket that is open. -/
inductive SocketState where
  | unconnected
  | connected
  deriving DecidableEq, Repr

/-- The sockets that are open, by their descriptors. -/
structure Kernel where
  sockets : Int → Option SocketState

namespace Kernel

def isOpen (kernel : Kernel) (descriptor : Int) : Bool := (kernel.sockets descriptor).isSome

def isConnected (kernel : Kernel) (descriptor : Int) : Bool :=
  decide (kernel.sockets descriptor = some .connected)

/-- The kernel with another entry for a descriptor. -/
def set (kernel : Kernel) (descriptor : Int) (entry : Option SocketState) : Kernel :=
  ⟨Function.update kernel.sockets descriptor entry⟩

/-- Whether an answer is a new descriptor; one that is open is none, and the kernel then fails
    as it does with a negative answer. -/
def gives (kernel : Kernel) (answer : Int) : Bool :=
  decide (0 ≤ answer) && !kernel.isOpen answer

/-- `socket`. -/
def socket (kernel : Kernel) (answer : Int) : Int × Kernel :=
  if kernel.gives answer then (answer, kernel.set answer (some .unconnected)) else (-1, kernel)

/-- `bind`, which fails for a descriptor that is not open, as the next two do. -/
def bind (kernel : Kernel) (descriptor : Int) (success : Bool) : Int :=
  if kernel.isOpen descriptor && success then 0 else -1

/-- `accept`. -/
def accept (kernel : Kernel) (descriptor answer : Int) : Int × Kernel :=
  if kernel.isOpen descriptor && kernel.gives answer then
    (answer, kernel.set answer (some .connected))
  else (-1, kernel)

/-- `connect`. -/
def connect (kernel : Kernel) (descriptor : Int) (success : Bool) : Int × Kernel :=
  if kernel.isOpen descriptor && success then (0, kernel.set descriptor (some .connected))
  else (-1, kernel)

/-- `shutdown` and `close`.  What `shutdown` does nobody sees before `close`. -/
def close (kernel : Kernel) (descriptor : Int) : Kernel := kernel.set descriptor none

end Kernel

/-! ## The class -/

/-- A `network_instance` and the kernel. -/
structure NetworkConnection extends NetworkInstance sizeBufferCapacity where
  connectionReady : Bool := false
  status : DebugStatus := {}
  kernel : Kernel := ⟨fun _ => none⟩
  /-- Ghost: how often the descriptors in the two variables were closed. -/
  socketCloses : Nat := 0
  establishedSocketCloses : Nat := 0
  /-- Ghost: how often each descriptor was closed whose variable was overwritten. -/
  overwritten : List Nat := []

/-- What overwriting a variable adds to the ghost list: a variable without a value, or with
    the -1 of a failure, holds no descriptor. -/
def overwrite (variable_ : Option Int) (closes : Nat) : List Nat :=
  match variable_ with
  | none => []
  | some descriptor => if descriptor < 0 then [] else [closes]

namespace NetworkConnection

/-- `setReturnCode((int)error)`. -/
def report (s : NetworkConnection) (error : NetworkError) : Except Fault NetworkConnection :=
  (s.status.setReturnCode networkErrors error.code).map fun status => { s with status }

/-- An assignment to `network_socket_descriptor`. -/
def setSocket (s : NetworkConnection) (descriptor : Int) : NetworkConnection :=
  { s with
    overwritten := overwrite s.socketDescriptor s.socketCloses ++ s.overwritten
    socketDescriptor := some descriptor
    socketCloses := 0 }

/-- An assignment to `network_established_socket_descriptor`. -/
def setEstablishedSocket (s : NetworkConnection) (descriptor : Int) : NetworkConnection :=
  { s with
    overwritten := overwrite s.establishedSocketDescriptor s.establishedSocketCloses ++
      s.overwritten
    establishedSocketDescriptor := some descriptor
    establishedSocketCloses := 0 }

/-- Opens a socket. -/
def initConnection (s : NetworkConnection) (answer : Int) :
    Except Fault (Bool × NetworkConnection) :=
  let (descriptor, kernel) := s.kernel.socket answer
  let s := { s with kernel }.setSocket descriptor
  if descriptor < 0 then (s.report .cannotOpenSocket).map fun s => (false, s)
  else .ok (true, s)

/-- Opens a socket when both hosts were found.  An error is reported in any case. -/
def setParameters (s : NetworkConnection) (clientFound serverFound : Bool) (answer : Int) :
    Except Fault NetworkConnection := do
  let (connectionReady, s) ← if clientFound && serverFound then s.initConnection answer
    else pure (false, s)
  { s with connectionReady }.report
    (if clientFound then .cannotObtainServerAddress else .cannotObtainClientAddress)

/-- The result of `listen` is ignored: without it `accept` fails. -/
def acceptConnection (s : NetworkConnection) (bound : Bool) (answer : Int) :
    Except Fault NetworkConnection :=
  if s.connectionReady then
    let s := { s with connectionEstablished := false, connectionIsClient := false }
    match s.socketDescriptor with
    | none => .error .undefined
    | some socketDescriptor =>
      if s.kernel.bind socketDescriptor bound ≥ 0 then
        let (descriptor, kernel) := s.kernel.accept socketDescriptor answer
        let s := { s with kernel }.setEstablishedSocket descriptor
        if descriptor ≥ 0 then .ok { s with connectionEstablished := true }
        else s.report .cannotAcceptConnection
      else s.report .cannotBind
  else .error .assertion

def startConnection (s : NetworkConnection) (success : Bool) : Except Fault NetworkConnection :=
  if s.connectionReady && !s.connectionEstablished then
    let s := { s with connectionIsClient := true }
    match s.socketDescriptor with
    | none => .error .undefined
    | some socketDescriptor =>
      let (result, kernel) := s.kernel.connect socketDescriptor success
      let s := { s with kernel }
      if result < 0 then s.report .cannotConnect else .ok { s with connectionEstablished := true }
  else .error .assertion

/-- Closes the socket. -/
def closeSocket (s : NetworkConnection) : Except Fault NetworkConnection :=
  match s.socketDescriptor with
  | none => .error .undefined
  | some descriptor =>
    .ok { s with kernel := s.kernel.close descriptor, socketCloses := s.socketCloses + 1 }

/-- Closes the socket of an accepted connection. -/
def closeEstablishedSocket (s : NetworkConnection) : Except Fault NetworkConnection :=
  match s.establishedSocketDescriptor with
  | none => .error .undefined
  | some descriptor =>
    .ok { s with
      kernel := s.kernel.close descriptor
      establishedSocketCloses := s.establishedSocketCloses + 1 }

/-- Closes what is open, but the connection stays ready. -/
def terminateConnection (s : NetworkConnection) : Except Fault NetworkConnection :=
  if s.connectionEstablished then do
    let s ← s.closeSocket
    let s ← if !s.connectionIsClient then s.closeEstablishedSocket else pure s
    return { s with connectionEstablished := false }
  else .error .assertion

/-! ## Calls on one object -/

/-- A call, with the answers it gets. -/
inductive Op where
  | setParameters (clientFound serverFound : Bool) (answer : Int)
  | acceptConnection (bound : Bool) (answer : Int)
  | startConnection (success : Bool)
  | terminateConnection
  | sendToConnection (limit : Nat → Nat) (link : Link) (payload : List UInt8) (size : Int)
  | receiveFromConnection (limit : Nat → Nat) (link : Link)

/-- One call. -/
def Op.apply (s : NetworkConnection) : Op → Except Fault NetworkConnection
  | .setParameters clientFound serverFound answer => s.setParameters clientFound serverFound answer
  | .acceptConnection bound answer => s.acceptConnection bound answer
  | .startConnection success => s.startConnection success
  | .terminateConnection => s.terminateConnection
  | .sendToConnection limit link payload size =>
    (s.toNetworkInstance.sendToConnection limit link payload size).map fun r =>
      { s with toNetworkInstance := r.1 }
  | .receiveFromConnection limit link =>
    (s.toNetworkInstance.receiveFromConnection limit link).map fun r =>
      { s with toNetworkInstance := r.2.1 }

end NetworkConnection

end NetworkedFS
