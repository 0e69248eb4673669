import Loi.Core.Event

set_option autoImplicit false

/-! The state kept for one ptraced process. -/

namespace Loi.Core

/-- Where in the syscall protocol a tracee currently sits. `startedAt` is the
clock reading of the entry stop. -/
inductive Phase where
  | entry
  | exit (nr : UInt64) (args : Args) (startedAt : Nat)
  deriving DecidableEq, Repr

structure Tracee where
  phase : Phase
  awaitingInitialSigstop : Bool
  skipNextSyscallStop : Bool
  deriving DecidableEq, Repr

/-- The root after `spawn`: past its initial `SIGSTOP`, still owing the exit
stop of its initial `execve`. -/
def Tracee.newRoot : Tracee :=
  { phase := .entry, awaitingInitialSigstop := false, skipNextSyscallStop := true }

/-- A tracee that was just auto-attached as somebody's child. -/
def Tracee.newChild : Tracee :=
  { phase := .entry, awaitingInitialSigstop := true, skipNextSyscallStop := false }

end Loi.Core
