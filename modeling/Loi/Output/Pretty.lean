import Loi.Foundation.Device
import Loi.Output.FormatCommon

/-! The colored single-line formatter. -/

set_option autoImplicit false

namespace Loi.Output.Pretty

open Nix Foundation Loi.Core Syscalls

inductive Color where
  | cyan
  | blue
  | magenta
  | yellow
  deriving DecidableEq, Repr

/-- `owo_colors::Style`, as far as it is used. -/
structure Style where
  dimmed : Bool
  bold : Bool
  color : Option Color
  deriving DecidableEq, Repr

inductive Styling where
  | dimmed
  | bold
  | boldRed
  | style (style : Style)
  deriving DecidableEq, Repr

/-- What `owo_colors` writes before and after a styled token. -/
abbrev Palette := Styling → String × String

structure PrettyConfig where
  color : Bool
  aligned : Bool
  categoryColors : Bool
  dimLookups : Bool
  groupLookups : Bool
  deriving DecidableEq, Repr

def PrettyConfig.new (color : Bool) : PrettyConfig :=
  { color, aligned := true, categoryColors := true, dimLookups := true, groupLookups := true }

structure PrettyState where
  pidWidth : Nat
  nameWidth : Nat
  lastBasename : Option String
  lastPid : Option Pid
  deriving DecidableEq, Repr

def PrettyState.new : PrettyState :=
  { pidWidth := 0, nameWidth := 0, lastBasename := none, lastPid := none }

def BURST_PREFIX : String := "↳ "

/-- Everything `write_event` is called with, its writer and its state apart. -/
structure Rendered where
  event : SyscallEvent
  decoded : DecodedCall
  category : Option Category
  deriving DecidableEq, Repr

section Formatter

variable {Device : Type} (profile : Profile) (tables : Tables) (palette : Palette)
  (w : TextWriter Device WriteFailure)

def writeText (text : String) : WriteAction Device IoError Unit :=
  WriteAction.put w .device text

/-- One `write!`, piece by piece. -/
def writePieces (pieces : List String) : WriteAction Device IoError Unit :=
  WriteAction.putAll w .device pieces

/-- `write!(w, "{}", text.style(..))`. -/
def writeStyled (styling : Styling) (text : String) : WriteAction Device IoError Unit := do
  writeText w (palette styling).1
  writeText w text
  writeText w (palette styling).2

/-- The arguments of a `write!` are made before it writes anything, and a width that has more
than 16 bits panics there. -/
def formatWidth (width : Nat) : WriteAction Device IoError Unit :=
  WriteAction.lift (if width ≤ FORMAT_WIDTH_MAX then .ok () else .panicked)

def writeSpaces (n : Nat) : WriteAction Device IoError Unit :=
  if n = 0 then pure ()
  else do
    formatWidth n
    writeText w (spaces n)

def writePidColumnColor (pid : String) (pidPad : Nat) (isContinuation : Bool) :
    WriteAction Device IoError Unit :=
  if isContinuation then do
    let total := pid.utf8ByteSize + pidPad
    let lead := total - BURST_PREFIX.length
    writeSpaces w lead
    writeStyled palette w .dimmed BURST_PREFIX
  else do
    writeStyled palette w .dimmed pid
    writeSpaces w pidPad

def writePidColumnPlain (pid : String) (pidPad : Nat) (isContinuation : Bool) :
    WriteAction Device IoError Unit :=
  if isContinuation then do
    let total := pid.utf8ByteSize + pidPad
    let lead := total - BURST_PREFIX.length
    writeSpaces w lead
    writeText w BURST_PREFIX
  else do
    formatWidth (pid.utf8ByteSize + pidPad)
    writeText w (padRight pid (pid.utf8ByteSize + pidPad))

def nameStyle (cfg : PrettyConfig) (category : Option Category) (dimLine : Bool) : Style :=
  if dimLine then { dimmed := true, bold := false, color := none }
  else if !cfg.color then { dimmed := false, bold := false, color := none }
  else if !cfg.categoryColors then { dimmed := false, bold := true, color := some .cyan }
  else
    match category with
    | some .file => { dimmed := false, bold := true, color := some .cyan }
    | some .fileMeta => { dimmed := false, bold := true, color := some .blue }
    | some .memory => { dimmed := false, bold := true, color := some .magenta }
    | some .process => { dimmed := false, bold := true, color := some .yellow }
    | some .other | none => { dimmed := false, bold := true, color := none }

def writeRet (ret : Int64) (color dim : Bool) : WriteAction Device IoError Unit := do
  let errno ← WriteAction.lift (errnoOfRet profile tables ret)
  match errno with
  | some (sym, desc) =>
      if dim then do
        writeStyled palette w .dimmed (toString ret.toInt)
        writeText w " "
        writeStyled palette w .dimmed sym
        writeText w " ("
        writeStyled palette w .dimmed desc
        writeText w ")"
      else if color then do
        writeStyled palette w .boldRed (toString ret.toInt)
        writeText w " "
        writeStyled palette w .boldRed sym
        writePieces w [" (", desc, ")"]
      else writePieces w [toString ret.toInt, " ", sym, " (", desc, ")"]
  | none =>
      if dim then writeStyled palette w .dimmed (toString ret.toInt)
      else if color then writeStyled palette w .bold (toString ret.toInt)
      else writeText w (toString ret.toInt)

/-- `format!("[{}]", ev.pid)`. -/
def pidText (event : SyscallEvent) : String :=
  "[" ++ toString event.pid.toInt ++ "]"

def argsJoined (decoded : DecodedCall) : String :=
  join ", " (decoded.args.map fun arg => renderArgText arg.2)

def durationText (event : SyscallEvent) : String :=
  "<" ++ fmtDuration tables event.duration ++ ">"

def PrettyState.widen (cfg : PrettyConfig) (event : SyscallEvent) (state : PrettyState) :
    PrettyState :=
  if cfg.aligned then
    { state with
      pidWidth := max state.pidWidth (pidText event).utf8ByteSize
      nameWidth := max state.nameWidth event.syscallName.utf8ByteSize }
  else state

def pidPad (cfg : PrettyConfig) (event : SyscallEvent) (state : PrettyState) : Nat :=
  if cfg.aligned then (state.widen cfg event).pidWidth - (pidText event).utf8ByteSize else 0

def namePad (cfg : PrettyConfig) (event : SyscallEvent) (state : PrettyState) : Nat :=
  if cfg.aligned then (state.widen cfg event).nameWidth - event.syscallName.utf8ByteSize else 0

def isContinuation (cfg : PrettyConfig) (item : Rendered) (state : PrettyState) : Bool :=
  cfg.groupLookups && (lookupBasename item.event.syscallName item.decoded).isSome &&
    lookupBasename item.event.syscallName item.decoded = state.lastBasename &&
    state.lastPid = some item.event.pid

def dimLine (cfg : PrettyConfig) (event : SyscallEvent) : Bool :=
  cfg.dimLookups && cfg.color && event.ret = RET_ENOENT && isPathLookup event.syscallName

/-- The writes of `write_event`, in the state it was called with. -/
def writeLine (item : Rendered) (cfg : PrettyConfig) (state : PrettyState) :
    WriteAction Device IoError Unit :=
  let pid := pidText item.event
  let name := item.event.syscallName
  let pidPad := pidPad cfg item.event state
  let namePad := namePad cfg item.event state
  let continuation := isContinuation cfg item state
  let dim := dimLine cfg item.event
  if cfg.color then do
    writePidColumnColor palette w pid pidPad continuation
    writeText w " "
    writeStyled palette w (.style (nameStyle cfg item.category dim)) name
    writeSpaces w namePad
    writePieces w ["(", argsJoined item.decoded, ") = "]
    writeRet profile tables palette w item.event.ret true dim
    writeText w " "
    writeStyled palette w (.style { dimmed := true, bold := false, color := none })
      (durationText tables item.event)
    writeText w "\n"
  else do
    writePidColumnPlain w pid pidPad continuation
    formatWidth (name.utf8ByteSize + namePad)
    writePieces w [" ", padRight name (name.utf8ByteSize + namePad), "(",
      argsJoined item.decoded, ") = "]
    writeRet profile tables palette w item.event.ret false false
    writePieces w [" ", durationText tables item.event, "\n"]

/-- The look-back fields are only set once the line has been written. -/
def PrettyState.remember (item : Rendered) (state : PrettyState) : PrettyState :=
  match lookupBasename item.event.syscallName item.decoded with
  | some basename =>
      { state with lastBasename := some basename, lastPid := some item.event.pid }
  | none => state

/-- `pretty::write_event`: the state and the device it leaves, and its result. -/
def writeEvent (item : Rendered) (cfg : PrettyConfig) (state : PrettyState) (device : Device) :
    PrettyState × Device × Outcome IoError Unit :=
  let written := writeLine profile tables palette w item cfg state device
  match written.2 with
  | .ok () => ((state.widen cfg item.event).remember item, written.1, .ok ())
  | .err error => (state.widen cfg item.event, written.1, .err error)
  | .panicked => (state.widen cfg item.event, written.1, .panicked)

end Formatter

end Loi.Output.Pretty
