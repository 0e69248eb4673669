import Loi.Syscalls.Panics

/-! The arguments of kernel type `int`: which of them are read from the low half of
their register alone. -/

set_option autoImplicit false

namespace Loi.Syscalls

open Nix Foundation

inductive IntArgument where
  | openatDirfd
  | statxDirfd
  | readFd
  | writeFd
  | closeFd
  | fstatFd
  | mmapFd
  | wait4Pid
  deriving DecidableEq, Repr

namespace IntArgument

def decoder : IntArgument → Decoder
  | openatDirfd => OpenAt
  | statxDirfd => Statx
  | readFd => Read
  | writeFd => Write
  | closeFd => Close
  | fstatFd => Fstat
  | mmapFd => Mmap
  | wait4Pid => Wait4

def label : IntArgument → String
  | openatDirfd | statxDirfd => "dirfd"
  | readFd | writeFd | closeFd | fstatFd | mmapFd => "fd"
  | wait4Pid => "pid"

attribute [local instance] sixRegisters

def register : IntArgument → Fin 6
  | mmapFd => 4
  | openatDirfd | statxDirfd | readFd | writeFd | closeFd | fstatFd | wait4Pid => 0

/-- The `int` as an argument: a file descriptor, or the number of a process. -/
def shown (n : Int32) : IntArgument → DecodedArg
  | wait4Pid => .int n.toInt64
  | openatDirfd | statxDirfd | readFd | writeFd | closeFd | fstatFd | mmapFd => .fd (fdOfInt n)

/-- The argument that is decoded from a register. -/
def ofRegister (raw : UInt64) : IntArgument → DecodedArg
  | wait4Pid => .int raw.toInt64
  | openatDirfd | statxDirfd | readFd | writeFd | closeFd | fstatFd | mmapFd =>
      .fd (fdOfInt (lowInt raw))

theorem decoded (argument : IntArgument) {host : Host} {ctx : DecodeCtx} {call : DecodedCall}
    (decodes : argument.decoder.decode host ctx = .ok call) :
    call.args.lookup argument.label =
      some (argument.ofRegister (ctx.args.get argument.register)) := by
  cases argument with
  | openatDirfd =>
      obtain ⟨pathname, rfl⟩ := openAt_call decodes
      rfl
  | statxDirfd =>
      obtain ⟨pathname, rfl⟩ := statx_call decodes
      rfl
  | readFd =>
      obtain ⟨inline, _, rfl⟩ := read_call decodes
      rfl
  | writeFd =>
      obtain ⟨inline, _, rfl⟩ := write_call decodes
      rfl
  | closeFd =>
      cases close_call decodes
      rfl
  | fstatFd =>
      cases fstat_call decodes
      rfl
  | mmapFd =>
      cases mmap_call decodes
      rfl
  | wait4Pid =>
      obtain ⟨wstatus, _, rfl⟩ := wait4_call decodes
      rfl

/-- All but the pid of `wait4` are read as ints. -/
theorem ofRegister_of_ne {argument : IntArgument} (other : argument ≠ wait4Pid) (raw : UInt64) :
    argument.ofRegister raw = argument.shown (lowInt raw) := by
  cases argument with
  | wait4Pid => exact absurd rfl other
  | openatDirfd | statxDirfd | readFd | writeFd | closeFd | fstatFd | mmapFd => rfl

theorem wait4Pid_eq_iff (left right : UInt64) :
    wait4Pid.ofRegister left = wait4Pid.ofRegister right ↔ left = right := by
  simp only [ofRegister, DecodedArg.int.injEq]
  constructor
  · intro same
    rw [← UInt64.toUInt64_toInt64 left, same, UInt64.toUInt64_toInt64]
  · exact congrArg UInt64.toInt64

theorem wait4Pid_shown (n : Int32) :
    wait4Pid.shown n = wait4Pid.ofRegister n.toInt64.toUInt64 := by
  simp [shown, ofRegister]

end IntArgument

/-- An `int` argument is the number in the low half of its register, whatever stands in
the upper half: always, but for the pid of `wait4`, which is it only if the upper half
extends the sign. So two registers with one low half decode to the same argument, but
for that pid, which tells them apart. -/
theorem intArgument_lowHalf_iff (argument : IntArgument) {host : Host} {ctx : DecodeCtx}
    {call : DecodedCall} (decodes : argument.decoder.decode host ctx = .ok call) :
    (call.args.lookup argument.label =
        some (argument.shown (lowInt (ctx.args.get argument.register))) ↔
      argument ≠ .wait4Pid ∨
        ctx.args.get argument.register =
          (lowInt (ctx.args.get argument.register)).toInt64.toUInt64) ∧
    ∀ (host' : Host) (ctx' : DecodeCtx) (call' : DecodedCall),
      argument.decoder.decode host' ctx' = .ok call' →
      lowInt (ctx'.args.get argument.register) = lowInt (ctx.args.get argument.register) →
      (call'.args.lookup argument.label = call.args.lookup argument.label ↔
        argument ≠ .wait4Pid ∨
          ctx'.args.get argument.register = ctx.args.get argument.register) := by
  rw [argument.decoded decodes]
  by_cases isPid : argument = .wait4Pid
  · subst isPid
    constructor
    · rw [Option.some.injEq, IntArgument.wait4Pid_shown, IntArgument.wait4Pid_eq_iff,
        or_iff_right (not_not_intro rfl)]
    · intro host' ctx' call' decodes' _
      rw [IntArgument.decoded .wait4Pid decodes', Option.some.injEq,
        IntArgument.wait4Pid_eq_iff, or_iff_right (not_not_intro rfl)]
  · constructor
    · rw [IntArgument.ofRegister_of_ne isPid]
      exact iff_of_true rfl (.inl isPid)
    · intro host' ctx' call' decodes' lowHalf
      rw [argument.decoded decodes', IntArgument.ofRegister_of_ne isPid,
        IntArgument.ofRegister_of_ne isPid, lowHalf]
      exact iff_of_true rfl (.inl isPid)

/-- The descriptor -1, zero-extended as some compilers leave it. -/
theorem intArgument_lowHalf_iff_close :
    ∃ call, Close.decode blindHost
        { pid := 100, args := #v[0xFFFFFFFF, 0, 0, 0, 0, 0], ret := -9 } = .ok call ∧
      call.args.lookup "fd" = some (.fd .invalid) := by
  obtain ⟨call, decodes⟩ : ∃ call, Close.decode blindHost
      { pid := 100, args := #v[0xFFFFFFFF, 0, 0, 0, 0, 0], ret := -9 } = .ok call := ⟨_, rfl⟩
  exact ⟨call, decodes, (intArgument_lowHalf_iff .closeFd decodes).1.mpr (.inl (by decide))⟩

/-- `wait4` for any child, with -1 zero-extended and with -1 sign-extended. -/
theorem wait4_pid_reads_upperHalf :
    lowInt 0xFFFFFFFF = lowInt 0xFFFFFFFFFFFFFFFF ∧
    ∃ narrow wide,
      Wait4.decode blindHost { pid := 100, args := #v[0xFFFFFFFF, 0, 0, 0, 0, 0], ret := 7 } =
        .ok narrow ∧
      Wait4.decode blindHost
        { pid := 100, args := #v[0xFFFFFFFFFFFFFFFF, 0, 0, 0, 0, 0], ret := 7 } = .ok wide ∧
      narrow.args.lookup "pid" = some (.int 4294967295) ∧
      wide.args.lookup "pid" = some (.int (-1)) := by
  exact ⟨by decide, _, _, rfl, rfl, by decide, by decide⟩

end Loi.Syscalls
