import Loi.Foundation.Device
import Loi.Output.FormatCommon

/-! The JSON-lines formatter. -/

set_option autoImplicit false

namespace Loi.Output.Json

open Nix Foundation Loi.Core Syscalls

/-- The pieces in which `serde_json::to_writer` writes a value. -/
abbrev Serializer := Value → List String

def argObject (arg : String × DecodedArg) : Value :=
  .object [("name", .string arg.1), ("value", argToJson arg.2)]

def eventObject (event : SyscallEvent) (decoded : DecodedCall)
    (errno : Option (String × String)) : Value :=
  .object (
    [("pid", .number event.pid.toInt), ("syscall_nr", .number event.syscallNr.toNat),
      ("syscall_name", .string event.syscallName), ("ret", .number event.ret.toInt)] ++
    (match errno with
    | some (sym, _) => [("errno_name", .string sym)]
    | none => []) ++
    [("duration", .number event.duration), ("args", .array (decoded.args.map argObject))])

/-- `json::write_event`. The failures of the writer that `to_writer` meets come
back inside a `serde_json::Error`; the one of the final newline does not. -/
def writeEvent {Device : Type} (profile : Profile) (tables : Tables) (serializer : Serializer)
    (w : TextWriter Device WriteFailure) (event : SyscallEvent) (decoded : DecodedCall) :
    WriteAction Device IoError Unit :=
  if 2 ^ 64 ≤ event.duration then WriteAction.lift (.err .duration)
  else do
    let errno ← WriteAction.lift (errnoOfRet profile tables event.ret)
    WriteAction.putAll w .serde (serializer (eventObject event decoded errno))
    WriteAction.put w .device "\n"

end Loi.Output.Json
