import Loi.Core.Tracer
import Loi.Core.TracerProperties
import Loi.Foundation.Projection
import Loi.Core.Process
import Loi.Core.Independence
import Loi.Core.Resumes
import Loi.Core.Pairing
import Loi.Core.RunLoop
import Loi.Foundation.Outcome
import Loi.Foundation.Utf8
import Loi.Libc
import Loi.Memory
import Loi.Syscalls.Decoder
import Loi.Syscalls.Decoders
import Loi.Syscalls.Registry
import Loi.MemoryProperties
import Loi.Syscalls.Panics
import Loi.Foundation.Text
import Loi.Foundation.Device
import Loi.Output.FormatCommon
import Loi.Output.Pretty
import Loi.Output.Json
import Loi.Output.Line
import Loi.Output.Safety
import Loi.Output.Bursts
import Loi.Filter
import Loi.Sink
import Loi.Output.Failures
import Loi.SinkProperties
import Loi.Selection
import Loi.Core.FollowForks
import Loi.Syscalls.Calls
import Loi.Foundation.Sgr
import Loi.Output.Runs
import Loi.Output.ColorModes
import Loi.Output.Columns
import Loi.Foundation.Traced
import Loi.Foundation.Scan
import Loi.ReadCstr
import Loi.Syscalls.FlagTables
import Loi.Syscalls.Flags
import Loi.Syscalls.IntArguments
import Loi.Output.Truncation
import Loi.Syscalls.Argv
import Loi.Foundation.Masks
import Loi.Foundation.Codes
import Loi.Foundation.Escapes
import Loi.Syscalls.Buffers
import Loi.Syscalls.OpenFlags
import Loi.Output.FlagText
import Loi.Output.ReturnValues
import Loi.Output.Quoting
import Loi.Output.LookupTargets
import Loi.FilterStrings
import Loi.Foundation.Program
import Loi.Core.Spawn
import Loi.Core.SpawnProcesses
import Loi.Core.SpawnSystem
import Loi.Core.ExecReport
import Loi.Core.SpawnCleanup
import Loi.Core.Trace
import Loi.Core.Durations
import Loi.Core.Faults
import Loi.Core.Teardown
import Loi.Foundation.Typestate
import Loi.Core.SpawnProtocol
import Loi.Rendering
import Loi.Main
import Loi.Foundation.Footprint
import Loi.Syscalls.Footprints
import Loi.Exposure
import Loi.Foundation.Fields
import Loi.Output.Reading
import Loi.ReadBack
import Loi.Foundation.Shortfall
import Loi.Foundation.BufWriter
import Loi.Output.Scripts
import Loi.Shortfall
import Loi.Salvage
import Loi.Foundation.Tagged
import Loi.Isolation
import Loi.Foundation.JsonTokens
import Loi.Output.JsonReading
import Loi.Records
