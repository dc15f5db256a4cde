import NetworkedFS.Native.File

/-!
# The logger

Model of `debug_logger` (`LIBS/defs_debug.h`): a file descriptor that every record goes through,
and the time of the last one.  What `ctime` says when a time is set is an argument.
-/

namespace NetworkedFS

/-- The members of a `debug_logger`.  The `time_setter_getter` is the time that it recorded
    last. -/
structure DebugLogger where
  outputFile : FileDescriptor
  timeOutputFile : List UInt8 := []
  deriving DecidableEq, Repr

namespace DebugLogger

/-- `debug_default_log_file`. -/
def debugDefaultLogFile : List Char := "__logfile".toList

/-- `DEBUG_STATUS_LOG_HEADERp`, a line feed and `START LOGGER::`. -/
def debugStatusLogHeader : List UInt8 :=
  [10, 83, 84, 65, 82, 84, 32, 76, 79, 71, 71, 69, 82, 58, 58]

/-- `"\n\n"`. -/
def startEnd : List UInt8 := [10, 10]

/-- `"::"`. -/
def separator : List UInt8 := [58, 58]

def prependTime (disk : Disk) (logger : DebugLogger) (now : List UInt8) (isStart : Bool) :
    Except Fault (Disk × DebugLogger) := do
  let currTime := now
  let (disk, file) ←
    if isStart then do
      let length ← (CharPointer.ofString debugStatusLogHeader).strlen
      logger.outputFile.writeFile disk (.ofString debugStatusLogHeader) length
    else pure (disk, logger.outputFile)
  let (disk, file) ← file.writeFile disk (.ofString currTime) currTime.length
  let (disk, file) ←
    if isStart then file.writeFile disk (.ofString startEnd) 2
    else file.writeFile disk (.ofString separator) 2
  return (disk, { outputFile := file, timeOutputFile := now })

/-- The file that the constructor opens. -/
def logName (name : List Char) : List Char := if name = [] then debugDefaultLogFile else name

/-- The constructor. -/
def construct (disk : Disk) (process : Process) (name : List Char) (mode : FileMode)
    (now : List UInt8) : Except Fault (Disk × DebugLogger) := do
  let (disk, outputFile) ← FileDescriptor.construct disk process (logName name) mode
  DebugLogger.prependTime disk { outputFile } now true

def log (disk : Disk) (logger : DebugLogger) (now : List UInt8) (customString : List UInt8) :
    Except Fault (Disk × DebugLogger) := do
  let (disk, logger) ← logger.prependTime disk now false
  let (disk, file) ←
    logger.outputFile.writeFile disk (.ofString customString) customString.length
  let (disk, file) ← file.writeNewline disk
  return (disk, { logger with outputFile := file })

def setName (disk : Disk) (process : Process) (logger : DebugLogger) (name : List Char) :
    Except Fault (Disk × DebugLogger) := do
  if name = [] then .error .assertion
  else
    let (disk, file) ← logger.outputFile.repurpose disk process name
    return (disk, { logger with outputFile := file })

/-- What `setTruncate` and `setAppend` share. -/
def setMode (disk : Disk) (process : Process) (logger : DebugLogger) (name : List Char)
    (mode : FileMode) : Except Fault (Disk × DebugLogger) := do
  if name = [] then
    let (disk, file) := logger.outputFile.modifyMode disk process mode
    return (disk, { logger with outputFile := file })
  else
    let (disk, file) ← logger.outputFile.repurposeMode disk process name mode
    return (disk, { logger with outputFile := file })

def setTruncate (disk : Disk) (process : Process) (logger : DebugLogger) (name : List Char) :
    Except Fault (Disk × DebugLogger) :=
  logger.setMode disk process name .truncate

def setAppend (disk : Disk) (process : Process) (logger : DebugLogger) (name : List Char) :
    Except Fault (Disk × DebugLogger) :=
  logger.setMode disk process name .append

def getLastLog (logger : DebugLogger) : List UInt8 := logger.timeOutputFile

end DebugLogger

end NetworkedFS
