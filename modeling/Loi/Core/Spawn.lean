import Mathlib.Data.Nat.Digits.Defs
import Loi.Foundation.Program
import Loi.Foundation.Utf8
import Loi.Core.Tracer

set_option autoImplicit false

/-! `Tracer::spawn`: the two arms of its fork, up to the exec of the child. -/

namespace Loi.Core.Spawn

open Foundation Nix

/-- A `CString` without its terminator. -/
structure CString where
  bytes : List UInt8
  noNul : 0 ∉ bytes
  deriving DecidableEq

structure NulError where
  position : Nat
  bytes : List UInt8
  deriving DecidableEq

/-- The ends of the one pipe. -/
inductive PipeEnd where
  | read
  | write
  deriving DecidableEq

inductive ForkResult where
  | parent (child : Pid)
  | child
  deriving DecidableEq

inductive Call where
  | pipe2
  | fork
  | close (fd : PipeEnd)
  | traceme
  | raise (signal : Signal)
  | execvp (file : CString) (args : List CString)
  | write (buf : List UInt8)
  | exit (status : Int32)
  | waitpid (pid : Pid)
  | setoptions (pid : Pid) (options : UInt32)
  | cont (pid : Pid) (signal : Option Signal)
  | read (size : Nat)
  | detach (pid : Pid) (signal : Signal)
  deriving DecidableEq

/-- What a call returns, if it does: `execvp` only its error, and `_exit` nothing. A read
returns the bytes that it puts in the buffer. -/
@[reducible] def Answer : Call → Type
  | .pipe2 | .traceme | .raise _ | .setoptions _ _ | .cont _ _ | .detach _ _ => Except Errno Unit
  | .fork => Except Errno ForkResult
  | .close _ => Unit
  | .execvp _ _ => Errno
  | .write _ => Except Errno Nat
  | .exit _ => Empty
  | .waitpid _ => Except Errno WaitStatus
  | .read _ => Except Errno (List UInt8)

abbrev Process := Program Answer

section Calls

abbrev pipe2 : Process (Except Errno Unit) := perform Call.pipe2
abbrev fork : Process (Except Errno ForkResult) := perform Call.fork
abbrev close (fd : PipeEnd) : Process Unit := perform (Call.close fd)
abbrev traceme : Process (Except Errno Unit) := perform Call.traceme
abbrev raise (signal : Signal) : Process (Except Errno Unit) := perform (Call.raise signal)
abbrev execvp (file : CString) (args : List CString) : Process Errno :=
  perform (Call.execvp file args)
abbrev exit (status : Int32) : Process Empty := perform (Call.exit status)
abbrev waitpid (pid : Pid) : Process (Except Errno WaitStatus) := perform (Call.waitpid pid)
abbrev setoptions (pid : Pid) (options : UInt32) : Process (Except Errno Unit) :=
  perform (Call.setoptions pid options)
abbrev cont (pid : Pid) (signal : Option Signal) : Process (Except Errno Unit) :=
  perform (Call.cont pid signal)
abbrev detach (pid : Pid) (signal : Signal) : Process (Except Errno Unit) :=
  perform (Call.detach pid signal)

end Calls

inductive SpawnError where
  | invalidCommand
  | nul (source : NulError)
  | ptrace (errno : Errno)
  | exec (errno : Errno)
  | traceeGone
  deriving DecidableEq

def PTRACE_OPTIONS : UInt32 :=
  PTRACE_O_TRACESYSGOOD ||| PTRACE_O_TRACEFORK ||| PTRACE_O_TRACEVFORK |||
    PTRACE_O_TRACECLONE ||| PTRACE_O_TRACEEXEC ||| PTRACE_O_EXITKILL

def EXEC_FAILURE_EXIT : Int32 := 127

/-- `i32::to_ne_bytes`, on the little-endian targets. -/
def toNeBytes (value : Int32) : List UInt8 :=
  (List.range 4).map fun index => UInt8.ofNat (value.toUInt32.toNat / 256 ^ index)

/-- `i32::from_ne_bytes`. -/
def fromNeBytes (bytes : List UInt8) : Int32 :=
  Int32.ofNat (Nat.ofDigits 256 (bytes.map UInt8.toNat))

section Child

/-- The `while` loop of `write_all`, with `buf` what is not yet written. -/
def writeAll : List UInt8 → Process (Except Errno Unit)
  | [], events => .returned (.ok ()) events
  | byte :: bytes, [] => .asks (.write (byte :: bytes))
  | byte :: bytes, event :: more =>
      match event.answerTo (.write (byte :: bytes)) with
      | none => .asks (.write (byte :: bytes))
      | some (.ok n) =>
          if n = 0 then .returned (.error Errno.EIO) more
          else writeAll ((byte :: bytes).drop n) more
      | some (.error errno) =>
          if errno = .EINTR then writeAll (byte :: bytes) more
          else .returned (.error errno) more

/-- The `execvp` of `try_child`. -/
def execChild (argv : List CString) : ExceptT Errno Process Empty :=
  match argv.head? with
  | none => throw .EINVAL
  | some argv0 => do
      let errno ← ExceptT.lift (execvp argv0 argv)
      throw errno

def tryChild (argv : List CString) : ExceptT Errno Process Empty := do
  ExceptT.mk traceme
  ExceptT.mk (raise .SIGSTOP)
  execChild argv

variable {Value : Type}

/-- `libc::_exit(EXEC_FAILURE_EXIT)`, which does not return. -/
def exitChild : Process Value := do
  let never ← exit EXEC_FAILURE_EXIT
  nomatch never

/-- `run_child` behind its `try_child`. The result of the write is ignored. -/
def reportErrno : Except Errno Empty → Process Value
  | .error errno => do
      let _ ← writeAll (toNeBytes errno.raw)
      close .write
      exitChild

def runChild (argv : List CString) : Process Value := do
  reportErrno (← (tryChild argv).run)

end Child

section Parent

/-- The `while` loop of `read_full`, on a buffer of `capacity` bytes the first of which are
`filled`. -/
def readFull (capacity : Nat) : List UInt8 → Process (Except Errno (List UInt8))
  | filled, [] =>
      if filled.length < capacity then .asks (.read (capacity - filled.length))
      else .returned (.ok filled) []
  | filled, event :: more =>
      if filled.length < capacity then
        match event.answerTo (.read (capacity - filled.length)) with
        | none => .asks (.read (capacity - filled.length))
        | some (.ok []) => .returned (.ok filled) more
        | some (.ok (byte :: bytes)) => readFull capacity (filled ++ byte :: bytes) more
        | some (.error errno) =>
            if errno = .EINTR then readFull capacity filled more
            else .returned (.error errno) more
      else .returned (.ok filled) (event :: more)

variable (fromRaw : Int32 → Errno)

/-- What `read_exec_errno` makes of the bytes that it has read. -/
def execErrno (filled : List UInt8) : SpawnError :=
  if filled.length = 4 then .exec (fromRaw (fromNeBytes filled)) else .traceeGone

def readExecErrno : Process SpawnError := do
  -- `unwrap_or(0)`: a failed read has filled nothing.
  return execErrno fromRaw ((← readFull 4 []).toOption.getD [])

/-- `?` on the result of a call. -/
def orPtrace {Value : Type} (call : Process (Except Errno Value)) :
    ExceptT SpawnError Process Value :=
  ExceptT.mk do return (← call).mapError .ptrace

/-- The first `match waitpid(child, None)?` of `finish_parent`. -/
def awaitStop (child : Pid) : ExceptT SpawnError Process Unit := do
  match ← orPtrace (waitpid child) with
  | .stopped _ .SIGSTOP => pure ()
  | .exited _ _ | .signaled _ _ _ => throw (← ExceptT.lift (readExecErrno fromRaw))
  | _ => throw .traceeGone

/-- The second one. -/
def awaitExec (child : Pid) : ExceptT SpawnError Process Unit := do
  match ← orPtrace (waitpid child) with
  | .ptraceEvent _ _ _ | .stopped _ .SIGTRAP => pure ()
  | .exited _ _ | .signaled _ _ _ => throw (← ExceptT.lift (readExecErrno fromRaw))
  | _ => throw .traceeGone

/-- `read_end` is dropped on every way out of `finish_parent`. -/
def droppingReadEnd (process : ExceptT SpawnError Process Tracer) :
    Process (Except SpawnError Tracer) := do
  let finished ← process.run
  close .read
  return finished

def finishParent (child : Pid) : Process (Except SpawnError Tracer) :=
  droppingReadEnd do
    awaitStop fromRaw child
    orPtrace (setoptions child PTRACE_OPTIONS)
    orPtrace (cont child none)
    awaitExec fromRaw child
    return Tracer.postSpawn child false

end Parent

/-- `CString::new`. -/
def cString (text : String) : Except NulError CString :=
  let bytes := text.toList.flatMap fun c => utf8Encode c.toNat
  if noNul : 0 ∉ bytes then .ok { bytes, noNul }
  else .error { position := bytes.idxOf 0, bytes }

def spawn (fromRaw : Int32 → Errno) (command : List String) :
    Process (Except SpawnError Tracer) := do
  if command = [] then return .error .invalidCommand
  match command.mapM cString with
  | .error source => return .error (.nul source)
  | .ok argv =>
      match ← pipe2 with
      | .error errno => return .error (.ptrace errno)
      | .ok () =>
          match ← fork with
          | .error errno =>
              close .write
              close .read
              return .error (.ptrace errno)
          | .ok .child =>
              close .read
              runChild argv
          | .ok (.parent child) =>
              close .write
              finishParent fromRaw child

end Loi.Core.Spawn
