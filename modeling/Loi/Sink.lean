import Loi.Filter
import Loi.Output.Json
import Loi.Output.Pretty
import Loi.Syscalls.Registry

/-! The sink of the binary: it filters, decodes and formats the events of a run, and
latches the first error of its output. -/

set_option autoImplicit false

namespace Loi

open Nix Foundation Loi.Core Syscalls Output

inductive OutputFormat where
  | pretty
  | json
  | raw
  deriving DecidableEq, Repr

structure SinkState (Device : Type) where
  out : Device
  format : OutputFormat
  cfg : Pretty.PrettyConfig
  prettyState : Pretty.PrettyState
  registry : Registry
  filter : Filter
  firstErr : Option IoError
  closed : Bool

def fallbackDecoded (event : SyscallEvent) : DecodedCall where
  args :=
    [("arg0", .uint (event.args.get 0)), ("arg1", .uint (event.args.get 1)),
      ("arg2", .uint (event.args.get 2)), ("arg3", .uint (event.args.get 3)),
      ("arg4", .uint (event.args.get 4)), ("arg5", .uint (event.args.get 5))]
  ret := event.ret

/-- What the crates that the formatters rest on provide. -/
structure Crates where
  table : SysnoTable
  tables : Tables
  palette : Pretty.Palette
  serializer : Json.Serializer

namespace SinkState

variable {Device : Type} (crates : Crates) (w : TextWriter Device WriteFailure)

/-- The sink that `main` builds. -/
def new (out : Device) (format : OutputFormat) (cfg : Pretty.PrettyConfig) (registry : Registry)
    (filter : Filter) : SinkState Device :=
  { out, format, cfg, prettyState := .new, registry, filter, firstErr := none, closed := false }

def decode (host : Host) (event : SyscallEvent) (sink : SinkState Device) :
    Outcome Empty (DecodedCall × Option Category) :=
  match sink.registry.decoder crates.table event.syscallNr with
  | some d =>
      match d.decode host { pid := event.pid, args := event.args, ret := event.ret } with
      | .ok decoded => .ok (decoded, some d.category)
      | .err _ => .ok (fallbackDecoded event, none)
      | .panicked => .panicked
  | none => .ok (fallbackDecoded event, none)

/-- The part of `handle` before anything is formatted: what it goes on to format, if
it does not return. -/
def admitted (host : Host) (event : SyscallEvent) (sink : SinkState Device) :
    Outcome Empty (Option Pretty.Rendered) :=
  if sink.closed || sink.firstErr.isSome then .ok none
  else if !sink.filter.matchesEvent event then .ok none
  else do
    let (decoded, category) ← sink.decode crates host event
    if sink.filter.needsDecode && !sink.filter.matchesDecoded decoded then return none
    else return some { event, decoded, category }

/-- The `match` of `handle` on the format. -/
def write (host : Host) (item : Pretty.Rendered) (sink : SinkState Device) :
    SinkState Device × Outcome IoError Unit :=
  match sink.format with
  | .pretty =>
      let (prettyState, out, res) := Pretty.writeEvent host.profile crates.tables crates.palette w
        item sink.cfg sink.prettyState sink.out
      ({ sink with out, prettyState }, res)
  | .json =>
      let (out, res) := Json.writeEvent host.profile crates.tables crates.serializer w
        item.event item.decoded sink.out
      ({ sink with out }, res)
  | .raw => (sink, .panicked)

def record (e : IoError) (sink : SinkState Device) : SinkState Device :=
  if e.kind = .brokenPipe then { sink with closed := true }
  else if sink.firstErr.isNone then { sink with firstErr := some e }
  else sink

def handle (host : Host) (event : SyscallEvent) (sink : SinkState Device) :
    Outcome Empty (SinkState Device) := do
  match ← sink.admitted crates host event with
  | none => return sink
  | some item =>
      match sink.write crates w host item with
      | (sink, .ok ()) => return sink
      | (sink, .err e) => return sink.record e
      | (_, .panicked) => .panicked

/-- `handle` on every event, each with the tracee memory it finds. -/
def handleAll (observed : List (Host × SyscallEvent)) (sink : SinkState Device) :
    Outcome Empty (SinkState Device) :=
  observed.foldlM (fun sink observation => sink.handle crates w observation.1 observation.2) sink

/-- The flush of `finish`, and the record of its error. -/
def flush (sink : SinkState Device) : SinkState Device :=
  match w.flush sink.out with
  | (out, .ok ()) => { sink with out }
  | (out, .error failure) => { sink with out }.record (.device failure)

def finish (sink : SinkState Device) : Device × Except IoError Unit :=
  let sink := sink.flush w
  match sink.firstErr with
  | some e => (sink.out, .error e)
  | none => (sink.out, .ok ())

end SinkState

end Loi
