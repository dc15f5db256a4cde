import NetworkedFS.ForStd.TemplateDeduction
import NetworkedFS.Native.Concurrency
import NetworkedFS.Native.Interrupt
import NetworkedFS.Native.Runslice

/-!
# Calls of function templates

A function template that nobody calls is hardly looked at by the compiler.  Some of the source
compile for no arguments (`LIBS/defs_scheduler.h`, `LIBS/defs_concurrency.h`):

- both `updateRegistrationParametersOnly` call `updateShared` with `nullptr` for a pointer to a
  function, from which the parameters of the function cannot be deduced;
- `enlistCommonVariable` assigns an `atomic_flag`, which has no assignment.

What their bodies say is modelled with the other functions of their classes.  Here is what
comes of a call in a program: `none`, or a fault of its own, when the call does not compile.
-/

namespace NetworkedFS

mutual

/-- The types that the templates are about. -/
inductive CppType where
  | void
  | bool
  | short
  | int
  | string
  | atomicFlag
  /-- The type of `nullptr`. -/
  | nullptr
  | pointer (target : CppType)
  | pair (first second : CppType)
  /-- `void (*)(parameters...)`. -/
  | callback (parameters : CppTypes)
  /-- Any other class. -/
  | named (name : String)
  deriving DecidableEq, Repr

/-- The types of parameters, in their order. -/
inductive CppTypes where
  | nil
  | cons (type : CppType) (types : CppTypes)
  deriving DecidableEq, Repr

end

namespace CppTypes

def ofList : List CppType → CppTypes
  | [] => nil
  | type :: types => cons type (ofList types)

def toList : CppTypes → List CppType
  | nil => []
  | cons type types => type :: types.toList

@[simp] theorem toList_ofList (types : List CppType) : (ofList types).toList = types := by
  induction types with
  | nil => rfl
  | cons type types ih => rw [ofList, toList, ih]

end CppTypes

namespace CppType

/-- The parameters of the functions that a value of the type points to. -/
def parametersOf : CppType → Option (List CppType)
  | callback parameters => some parameters.toList
  | _ => none

/-- The type of the pointers to functions with these parameters. -/
def callbackOf (types : List CppType) : CppType := callback (.ofList types)

@[simp] theorem parametersOf_callbackOf (types : List CppType) :
    (callbackOf types).parametersOf = some types := by
  rw [callbackOf, parametersOf, CppTypes.toList_ofList]

/-- Whether an object can be assigned another one of its type. -/
def copyAssignable : CppType → Bool
  | atomicFlag => false
  | pair first second => first.copyAssignable && second.copyAssignable
  | _ => true

end CppType

/-! ## The schedulers -/

/-- The call `updateShared<T...>(identifier, function_pointer, args...)` with arguments of the
    types `T`, which are given, and a `function_pointer` of the type `function`.  Both schedulers
    declare the template alike. -/
def updateSharedTypes (types : List CppType) (function : CppType) : Option (List CppType) :=
  TemplateDeduction.deduce CppType.parametersOf types [.plain, .callback]
    (.int :: function :: types)

section Schedulers

variable {Fn Args : Type} (types : List CppType)

/-- A call of `updateRegistrationParameters` with arguments of these types. -/
def SchedulerRunslice.callUpdateParameters (s : SchedulerRunslice Fn Args) (identifier : Int)
    (functionPointer : Option Fn) (args : Args) :
    Option (Except Fault (Bool × SchedulerRunslice Fn Args)) :=
  (updateSharedTypes types (.callbackOf types)).map fun _ =>
    s.updateRegistrationParameters identifier functionPointer args

/-- A call of `updateRegistrationParametersOnly`. -/
def SchedulerRunslice.callUpdateParametersOnly (s : SchedulerRunslice Fn Args) (identifier : Int)
    (args : Args) : Option (Except Fault (Bool × SchedulerRunslice Fn Args)) :=
  (updateSharedTypes types .nullptr).map fun _ =>
    s.updateRegistrationParametersOnly identifier args

/-- A call of `updateRegistrationParameters` with arguments of these types. -/
def SchedulerInterrupt.callUpdateParameters (s : SchedulerInterrupt Fn Args) (identifier : Int)
    (functionPointer : Option Fn) (args : Args) :
    Option (Except Fault (Bool × SchedulerInterrupt Fn Args)) :=
  (updateSharedTypes types (.callbackOf types)).map fun _ =>
    s.updateRegistrationParameters identifier functionPointer args

/-- A call of `updateRegistrationParametersOnly`. -/
def SchedulerInterrupt.callUpdateParametersOnly (s : SchedulerInterrupt Fn Args) (identifier : Int)
    (args : Args) : Option (Except Fault (Bool × SchedulerInterrupt Fn Args)) :=
  (updateSharedTypes types .nullptr).map fun _ =>
    s.updateRegistrationParametersOnly identifier args

end Schedulers

/-! ## The concurrency manager -/

namespace Concurrency

variable {Fn Ref : Type}

/-- What the body of `enlistCommonVariable` assigns to: the parts of its two pairs, its result,
    and the pointer to the lock. -/
def enlistAssigns : List CppType :=
  [.pointer .void, .atomicFlag, .pair (.pointer .void) .atomicFlag, .short, .bool,
    .pointer .atomicFlag]

/-- Whether a program with the call compiles. -/
def Op.compiles : Op Fn Ref → Bool
  | .enlistCommonVariable _ _ => enlistAssigns.all CppType.copyAssignable
  | _ => true

/-- Why a program does not come to the end of a call. -/
inductive ProgramFault where
  | doesNotCompile
  | fault (fault : Fault)
  deriving DecidableEq, Repr

/-- A call that is made by a program. -/
def programStep (platform : Platform Fn) (fuel : Nat) (s : Concurrency Fn Ref) (op : Op Fn Ref) :
    Except ProgramFault (Output Fn × Concurrency Fn Ref) :=
  if op.compiles then (s.step platform fuel op).mapError .fault else .error .doesNotCompile

end Concurrency

end NetworkedFS
