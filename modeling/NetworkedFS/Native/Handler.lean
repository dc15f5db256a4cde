import NetworkedFS.Native.Debug

/-!
# Callbacks

Model of `handler_callback` (`LIBS/defs_handler.h`): a stored function that is
either parameter free or bound to its arguments.  `Fn` are the functions of the
program and `Args` the argument packs; a function pointer is an `Option Fn`.
-/

namespace NetworkedFS

variable {Fn Args : Type}

/-- A `function<void()>`: empty, a parameter-free function, or the result of `bind`,
    which keeps a null pointer as it is. -/
inductive FormattedFunction (Fn Args : Type) where
  | empty
  | free (function : Fn)
  | bound (function : Option Fn) (args : Args)
  deriving DecidableEq, Repr

/-- The constructor of `function<void()>` from a function pointer. -/
def FormattedFunction.ofPointer : Option Fn → FormattedFunction Fn Args
  | none => .empty
  | some f => .free f

/-- An invocation that a callback makes when it runs. -/
inductive Invocation (Fn Args : Type) where
  | free (function : Fn)
  | bound (function : Fn) (args : Args)
  deriving DecidableEq, Repr

/-- `handler_callback`.  The unbound pointer has no value until `setFunction` stores
    one. -/
structure HandlerCallback (Fn Args : Type) where
  functionParameterFree : Bool
  unboundFunctionPointer : Option (Option Fn)
  formattedFunction : FormattedFunction Fn Args
  deriving DecidableEq, Repr

namespace HandlerCallback

/-- The constructor: an empty function counts as parameter free. -/
def construct (boundOrFreeFunction : FormattedFunction Fn Args) : HandlerCallback Fn Args where
  functionParameterFree := match boundOrFreeFunction with
    | .empty => true
    | _ => false
  unboundFunctionPointer := none
  formattedFunction := boundOrFreeFunction

def setFunction (_h : HandlerCallback Fn Args) (functionPointer : Option Fn) (args : Args) :
    HandlerCallback Fn Args where
  formattedFunction := .bound functionPointer args
  unboundFunctionPointer := some functionPointer
  functionParameterFree := false

def setBoundOrFreeFunction (h : HandlerCallback Fn Args)
    (functionPointer : FormattedFunction Fn Args) : HandlerCallback Fn Args :=
  { h with formattedFunction := functionPointer, functionParameterFree := true }

/-- Rebinds the stored pointer.  Binding a pointer that was never stored reads an
    indeterminate value. -/
def setParameters (h : HandlerCallback Fn Args) (args : Args) :
    Except Fault (HandlerCallback Fn Args) :=
  if h.functionParameterFree then .error .assertion
  else match h.unboundFunctionPointer with
    -- only `setFunction` stores the pointer that is bound again
    | none => .error .undefined
    | some functionPointer => .ok { h with formattedFunction := .bound functionPointer args }

/-- Runs the stored function; calling a bound null pointer is undefined. -/
def run (h : HandlerCallback Fn Args) : Except Fault (Invocation Fn Args) :=
  match h.formattedFunction with
  | .empty => .error .assertion
  | .free f => .ok (.free f)
  | .bound none _ => .error .undefined
  | .bound (some f) args => .ok (.bound f args)

end HandlerCallback

end NetworkedFS
