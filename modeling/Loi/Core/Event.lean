import Loi.Nix

set_option autoImplicit false

/-! Register access at syscall stops and the event value built from it. -/

namespace Loi.Core

/-- The registers of an `x86_64` tracee that the tracer reads. -/
structure X86Regs where
  origRax : UInt64
  rdi : UInt64
  rsi : UInt64
  rdx : UInt64
  r10 : UInt64
  r8 : UInt64
  r9 : UInt64
  rax : UInt64
  deriving DecidableEq, Repr

/-- What `PTRACE_GETREGS` (or `PTRACE_GETREGSET`) fills in on either host. -/
inductive UserRegs where
  | x86_64 (regs : X86Regs)
  | aarch64 (regs : Vector UInt64 31)
  deriving DecidableEq, Repr

abbrev Args := Vector UInt64 6

def extractEntry : UserRegs → UInt64 × Args
  | .x86_64 r => (r.origRax, #v[r.rdi, r.rsi, r.rdx, r.r10, r.r8, r.r9])
  | .aarch64 r => (r[8], #v[r[0], r[1], r[2], r[3], r[4], r[5]])

def extractRet : UserRegs → Int64
  | .x86_64 r => r.rax.toInt64
  | .aarch64 r => r[0].toInt64

/-- One completed syscall observation. Durations are nanoseconds. -/
structure SyscallEvent where
  pid : Int32
  syscallNr : UInt64
  syscallName : String
  args : Args
  ret : Int64
  duration : Nat
  deriving DecidableEq, Repr

end Loi.Core
