import Loi.Foundation.Outcome
import Loi.Libc
import Loi.Nix

/-! The tracee memory readers. -/

set_option autoImplicit false

namespace Loi

open Nix Foundation

/-- What the code runs on: the build profile, the architecture, and the kernel's
`process_vm_readv` into one local buffer of `len` bytes, whose answer lists the
bytes that were transferred. Both hosts have 64-bit addresses and sizes. -/
structure Host where
  profile : Profile
  arch : Libc.Arch
  processVmReadv : Pid → UInt64 → Nat → Except Errno (List UInt8)

namespace Memory

inductive MemError where
  | vm (errno : Errno)
  | ptrace (errno : Errno)
  | truncatedCstr (max : Nat)
  deriving DecidableEq, Repr

def PAGE_SIZE : UInt64 := 4096

/-- The PEEKDATA fallback, a stub in the source too. -/
def readViaPtrace (_pid : Pid) (_addr : UInt64) (_len : Nat) : Outcome MemError (List UInt8) :=
  .err (.ptrace .ENOSYS)

def readBytes (host : Host) (pid : Pid) (addr : UInt64) (len : Nat) :
    Outcome MemError (List UInt8) :=
  match host.processVmReadv pid addr len with
  | .ok bytes => if bytes.length = len then .ok bytes else .err (.vm .EFAULT)
  | .error errno =>
      if errno = .EPERM then readViaPtrace pid addr len else .err (.vm errno)

/-- The `while` loop of `read_cstr`. Every round reads at least one byte, so a
fuel of `remaining` is enough; it is used up only when `remaining` is. -/
def readCstrLoop (host : Host) (pid : Pid) (max : Nat) :
    Nat → UInt64 → Nat → List UInt8 → Outcome MemError (List UInt8)
  | 0, _, _, _ => .err (.truncatedCstr max)
  | fuel + 1, cursor, remaining, out =>
      if remaining = 0 then .err (.truncatedCstr max)
      else do
        let nextPage ← host.profile.add (cursor ||| (PAGE_SIZE - 1)) 1
        let toPage ← host.profile.sub nextPage cursor
        let chunk := min remaining toPage.toNat
        let bytes ← readBytes host pid cursor chunk
        match bytes.findIdx? (· = 0) with
        | some index => .ok (out ++ bytes.take index)
        | none => do
            let cursor ← host.profile.add cursor (UInt64.ofNat chunk)
            let remaining ← host.profile.subSize remaining chunk
            readCstrLoop host pid max fuel cursor remaining (out ++ bytes)

def readCstr (host : Host) (pid : Pid) (addr : UInt64) (max : Nat) :
    Outcome MemError (List UInt8) :=
  readCstrLoop host pid max max addr max []

end Memory

end Loi
