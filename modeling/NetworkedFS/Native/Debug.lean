import Mathlib.Data.Int.Order.Basic

/-!
# Status codes of the library classes

Model of `debug_status` (`LIBS/defs_debug.h`), the base class every component
reports its errors through.  A class hands its table of error texts and the
largest code of its own range to the base constructor; `setReturnCode` asserts
that a code lies in the standard range or in the class range and then records the
code and its text.

`assert` is active in this build (the Makefile does not define `NDEBUG`), so a
failed assertion ends the process.
-/

namespace NetworkedFS

/-- Why a call of the library does not return. -/
inductive Fault where
  /-- A failed `assert`: the process aborts. -/
  | assertion
  /-- Undefined behaviour: an invalid iterator, pointer or index is used. -/
  | undefined
  /-- A C++ exception that the library does not catch. -/
  | exception
  /-- A system call that waits for something that never happens. -/
  | blocked
  /-- The recursion did not end within the fuel that was given. -/
  | outOfFuel
  deriving DecidableEq, Repr

/-- The constants of a class: its error texts and its largest error code. -/
structure ClassErrors where
  codeToStatus : List String
  maxError : Int

/-- The mutable part of `debug_status`.  The constructor leaves the return code
    without a value and the text empty. -/
structure DebugStatus where
  returnCode : Option Int := none
  status : String := ""
  deriving DecidableEq, Repr

/-- `debug_standard_errors`. -/
inductive StandardError where
  | ok
  | allocation
  deriving DecidableEq, Repr

/-- The enumerator's value. -/
def StandardError.code : StandardError → Int
  | .ok => 0
  | .allocation => 1

namespace DebugStatus

def standardMinError : Int := 0
def standardMaxError : Int := 1
def classMinError : Int := 2500
def standardCodeToStatus : List String := ["OK", "Allocation failed"]

/-- The smallest code of a class's own range. -/
def getMinClassError : Int := 2500

/-- Records a code after asserting that it is in range, and looks its text up. -/
def setReturnCode (c : ClassErrors) (_d : DebugStatus) (code : Int) : Except Fault DebugStatus :=
  if (standardMinError ≤ code ∧ code ≤ standardMaxError) ∨
      (classMinError ≤ code ∧ code ≤ c.maxError) then
    -- the class texts are numbered from the first class code on
    let text :=
      if code > standardMaxError then c.codeToStatus[(code - classMinError).toNat]?
      else standardCodeToStatus[code.toNat]?
    match text with
    | some text => .ok { returnCode := some code, status := text }
    | none => .error .undefined
  else .error .assertion

def getReturnCode (d : DebugStatus) : Option Int := d.returnCode

def getReturnStatus (d : DebugStatus) : String := d.status

end DebugStatus

/-- The constants of a subclass, as every constructor of the library builds them:
    its table and `getMinClassError() + n - 1`. -/
def subclassErrors (table : List String) : ClassErrors where
  codeToStatus := table
  maxError := DebugStatus.getMinClassError + table.length - 1

end NetworkedFS
