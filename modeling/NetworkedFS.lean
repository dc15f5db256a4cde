import NetworkedFS.ForStd.StepRun
import NetworkedFS.ForStd.Except
import NetworkedFS.ForStd.Finmap
import NetworkedFS.ForStd.List
import NetworkedFS.ForStd.KeyedList
import NetworkedFS.ForStd.Registry
import NetworkedFS.Native.Debug
import NetworkedFS.Native.Handler
import NetworkedFS.Spec.HandlerCallback
import NetworkedFS.Native.Runslice
import NetworkedFS.Spec.RunsliceRegistry
import NetworkedFS.Spec.RunsliceNoGhost
import NetworkedFS.Spec.RunsliceFairness
import NetworkedFS.Spec.RunsliceModes
import NetworkedFS.Spec.RunsliceRotation
import NetworkedFS.Spec.RunsliceHoused
import NetworkedFS.Spec.RunsliceCommute
import NetworkedFS.Spec.RunslicePriority
import NetworkedFS.Spec.StatusCodes
import NetworkedFS.Spec.RunsliceOneShot
import NetworkedFS.Native.Interrupt
import NetworkedFS.Spec.InterruptFifo
import NetworkedFS.Spec.InterruptTables
import NetworkedFS.Spec.InterruptAgreement
import NetworkedFS.Spec.InterruptRouting
import NetworkedFS.ForStd.LockProgram
import NetworkedFS.ForStd.LockOrder
import NetworkedFS.ForStd.RelyGuarantee
import NetworkedFS.ForStd.ProgramRest
import NetworkedFS.Native.InterruptThreads
import NetworkedFS.Spec.InterruptCalls
import NetworkedFS.Spec.InterruptDeadlock
import NetworkedFS.Spec.InterruptSerial
import NetworkedFS.Spec.InterruptUpdates
import NetworkedFS.Spec.InterruptRegistrations
import NetworkedFS.Native.Concurrency
import NetworkedFS.ForStd.TemplateDeduction
import NetworkedFS.Native.Templates
import NetworkedFS.Spec.ParametersOnly
import NetworkedFS.Spec.AccessCount
import NetworkedFS.Native.CommonVariable
import NetworkedFS.Spec.CommonVariables
import NetworkedFS.ForStd.IdPool
import NetworkedFS.Spec.TaskIds
import NetworkedFS.Spec.TaskRequeue
import NetworkedFS.Spec.LaunchTasks
import NetworkedFS.ForStd.StableSort
import NetworkedFS.Spec.ForwardTasks
import NetworkedFS.Spec.TaskLedger
import NetworkedFS.Spec.SharedCounters
import NetworkedFS.Spec.RunningTasks
import NetworkedFS.Spec.CpuCount
import NetworkedFS.ForStd.TestAndSet
import NetworkedFS.Spec.CriticalSection
import NetworkedFS.Spec.LostFlag
import NetworkedFS.ForStd.ByteStream
import NetworkedFS.ForStd.CString
import NetworkedFS.Native.Network
import NetworkedFS.Native.NetworkConnection
import NetworkedFS.Spec.NetworkFraming
import NetworkedFS.Spec.ConnectionLifecycle
import NetworkedFS.Spec.SizeBuffer
import NetworkedFS.Native.CharPointer
import NetworkedFS.Native.EncryptionOffline
import NetworkedFS.Spec.AesRoundTrip
import NetworkedFS.Spec.TagDelimiter
import NetworkedFS.Spec.AesRejection
import NetworkedFS.Spec.DefaultAddress
import NetworkedFS.Native.Digest
import NetworkedFS.Spec.DigestComparison
import NetworkedFS.ForStd.Base64
import NetworkedFS.Native.Base64
import NetworkedFS.Spec.Base64RoundTrip
import NetworkedFS.ForStd.TableChange
import NetworkedFS.Spec.KeyStore
import NetworkedFS.Native.EncryptionNetworked
import NetworkedFS.Spec.RsaLifecycle
import NetworkedFS.Spec.PrivateKeyErasure
import NetworkedFS.ForStd.DirectoryTree
import NetworkedFS.Native.Process
import NetworkedFS.Native.File
import NetworkedFS.Native.Filesystem
import NetworkedFS.Spec.DirectoryCalls
import NetworkedFS.Spec.DirectoryTracking
import NetworkedFS.Spec.StepBack
import NetworkedFS.Spec.PathSpelling
import NetworkedFS.Spec.WalkBack
import NetworkedFS.ForStd.RoseTree
import NetworkedFS.Native.Internal
import NetworkedFS.Native.Representation
import NetworkedFS.Spec.ParentLinks
import NetworkedFS.Spec.TreeDescent
import NetworkedFS.Spec.ChildMap
import NetworkedFS.Spec.CursorsInStep
import NetworkedFS.Spec.SingleSteps
import NetworkedFS.Native.Removal
import NetworkedFS.Spec.RemovalOnDisk
import NetworkedFS.Native.ForeignLookup
import NetworkedFS.Spec.ForeignTable
import NetworkedFS.Spec.PathQueries
import NetworkedFS.Spec.ForeignNodes
import NetworkedFS.Native.BreadthFirst
import NetworkedFS.Spec.BreadthFirst
import NetworkedFS.Spec.FileRoundTrip
import NetworkedFS.Spec.FileReading
import NetworkedFS.Spec.FileSwitching
import NetworkedFS.Native.Logger
import NetworkedFS.Spec.LogRecords
import NetworkedFS.Native.FileStatus
import NetworkedFS.Spec.FileStatus
import NetworkedFS.Spec.RepresentationUpdate
import NetworkedFS.Native.InternalObject
import NetworkedFS.Spec.BlankTree
import NetworkedFS.Spec.LostOffset
import NetworkedFS.Spec.LockHandles
import NetworkedFS.Spec.ConcurrencyPrograms
import NetworkedFS.Native.FilesystemObject
import NetworkedFS.Spec.FilesystemRun
import NetworkedFS.Spec.LoggerLife
import NetworkedFS.Spec.SocketFrame
import NetworkedFS.Spec.OneFile
