import Loi.Syscalls.Registry

/-! The calls that the decoders return: what becomes of each register, once the
reads of the decoder have gone through. -/

set_option autoImplicit false

namespace Loi.Syscalls

open Nix Foundation Memory

theorem sixRegisters : @NeZero Nat Zero.ofOfNat0 6 := ⟨by decide⟩

/-- The low half of a register, as the signed number it is for an `int` argument. -/
def lowInt (register : UInt64) : Int32 :=
  register.toUInt32.toInt32

/-- The file descriptor that an `int` stands for. -/
def fdOfInt (n : Int32) : FdRepr :=
  if n = -100 then .atFdCwd else if n < 0 then .invalid else .num n

/-- `decode_fd` on what the decoders give it, whose `debug_assert` always holds. -/
theorem decodeFd_intOfRegister (host : Host) (register : UInt64) :
    decodeFd host (intOfRegister register) = .ok (fdOfInt (lowInt register)) := by
  have sentinel : (lowInt register).toInt64 = AT_FDCWD ↔ lowInt register = -100 := by
    have value : AT_FDCWD = (-100 : Int32).toInt64 := by decide
    rw [value, ← Int64.toInt_inj, ← Int32.toInt_inj, Int32.toInt_toInt64, Int32.toInt_toInt64]
  have negative : (lowInt register).toInt64 < 0 ↔ lowInt register < 0 := by
    have zero : (0 : Int64) = (0 : Int32).toInt64 := by decide
    rw [zero, Int32.toInt64_lt]
  have small : (lowInt register).toInt64 ≤ Int32.maxValue.toInt64 := by
    rw [Int64.le_iff_toInt_le, Int32.toInt_toInt64, Int32.toInt_toInt64]
    exact Int32.toInt_le _
  have widened : intOfRegister register = (lowInt register).toInt64 := rfl
  unfold decodeFd fdOfInt
  rw [widened]
  simp only [sentinel, negative, host.profile.debugAssert_eq_ok small, if_pos small,
    Int32.toInt32_toInt64]
  split_ifs <;> rfl

section Calls

variable {host : Host} {ctx : DecodeCtx} {call : DecodedCall}

theorem openAt_call (decodes : OpenAt.decode host ctx = .ok call) :
    ∃ pathname, call =
      { args := [
          ("dirfd", .fd (fdOfInt (lowInt (ctx.args.get 0)))),
          ("pathname", .path pathname),
          ("flags", .flags (decodeOpenFlags host.arch (ctx.args.get 2))),
          ("mode", .mode (ctx.args.get 3).toUInt32)]
        ret := ctx.ret } := by
  simp only [OpenAt, decodeFd_intOfRegister, Outcome.bind_eq_ok_iff, Outcome.ok_bind] at decodes
  obtain ⟨pathname, _, same⟩ := decodes
  cases same
  exact ⟨pathname, rfl⟩

theorem read_call (decodes : Read.decode host ctx = .ok call) :
    ∃ inline, inlineOfRead host ctx = .ok inline ∧ call =
      { args := [
          ("fd", .fd (fdOfInt (lowInt (ctx.args.get 0)))),
          ("buf", .bytes inline (ctx.args.get 2).toNat),
          ("count", .uint (ctx.args.get 2))]
        ret := ctx.ret } := by
  simp only [Read, decodeFd_intOfRegister, Outcome.bind_eq_ok_iff, Outcome.ok_bind] at decodes
  obtain ⟨inline, captured, same⟩ := decodes
  cases same
  exact ⟨inline, captured, rfl⟩

theorem write_call (decodes : Write.decode host ctx = .ok call) :
    ∃ inline, inlineOfWrite host ctx = .ok inline ∧ call =
      { args := [
          ("fd", .fd (fdOfInt (lowInt (ctx.args.get 0)))),
          ("buf", .bytes inline (ctx.args.get 2).toNat),
          ("count", .uint (ctx.args.get 2))]
        ret := ctx.ret } := by
  simp only [Write, decodeFd_intOfRegister, Outcome.bind_eq_ok_iff, Outcome.ok_bind] at decodes
  obtain ⟨inline, captured, same⟩ := decodes
  cases same
  exact ⟨inline, captured, rfl⟩

theorem close_call (decodes : Close.decode host ctx = .ok call) :
    call = { args := [("fd", .fd (fdOfInt (lowInt (ctx.args.get 0))))], ret := ctx.ret } := by
  simp only [Close, decodeFd_intOfRegister, Outcome.ok_bind] at decodes
  cases decodes
  rfl

theorem fstat_call (decodes : Fstat.decode host ctx = .ok call) :
    call =
      { args := [
          ("fd", .fd (fdOfInt (lowInt (ctx.args.get 0)))),
          ("statbuf", .ptr (ctx.args.get 1))]
        ret := ctx.ret } := by
  simp only [Fstat, decodeFd_intOfRegister, Outcome.ok_bind] at decodes
  cases decodes
  rfl

theorem statx_call (decodes : Statx.decode host ctx = .ok call) :
    ∃ pathname, call =
      { args := [
          ("dirfd", .fd (fdOfInt (lowInt (ctx.args.get 0)))),
          ("pathname", .path pathname),
          ("flags", .flags (decodeFlags (ctx.args.get 2) STATX_FLAGS_TABLE)),
          ("mask", .flags (decodeFlags (ctx.args.get 3) STATX_MASK_TABLE)),
          ("statbuf", .ptr (ctx.args.get 4))]
        ret := ctx.ret } := by
  simp only [Statx, decodeFd_intOfRegister, Outcome.bind_eq_ok_iff, Outcome.ok_bind] at decodes
  obtain ⟨pathname, _, same⟩ := decodes
  cases same
  exact ⟨pathname, rfl⟩

theorem stat_call (decodes : Stat.decode host ctx = .ok call) :
    ∃ pathname, call =
      { args := [("pathname", .path pathname), ("statbuf", .ptr (ctx.args.get 1))]
        ret := ctx.ret } := by
  simp only [Stat, Outcome.bind_eq_ok_iff] at decodes
  obtain ⟨pathname, _, same⟩ := decodes
  cases same
  exact ⟨pathname, rfl⟩

theorem mmap_call (decodes : Mmap.decode host ctx = .ok call) :
    call =
      { args := [
          ("addr", .hex (ctx.args.get 0)),
          ("length", .uint (ctx.args.get 1)),
          ("prot", .flags (decodeProt (ctx.args.get 2))),
          ("flags", .flags (decodeFlags (ctx.args.get 3) MAP_TABLE)),
          ("fd", .fd (fdOfInt (lowInt (ctx.args.get 4)))),
          ("offset", .hex (ctx.args.get 5))]
        ret := ctx.ret } := by
  simp only [Mmap, decodeFd_intOfRegister, Outcome.ok_bind] at decodes
  cases decodes
  rfl

theorem execve_call (decodes : Execve.decode host ctx = .ok call) :
    ∃ pathname argv, call =
      { args := [
          ("pathname", .path pathname),
          ("argv", .argv argv),
          ("envp", .ptr (ctx.args.get 2))]
        ret := ctx.ret } := by
  simp only [Execve, Outcome.bind_eq_ok_iff] at decodes
  obtain ⟨pathname, _, argv, _, same⟩ := decodes
  cases same
  exact ⟨pathname, argv, rfl⟩

/-- The status word takes the place of its pointer. -/
theorem wait4_call (decodes : Wait4.decode host ctx = .ok call) :
    ∃ wstatus, ((∃ word, wstatus = .hex word) ∨ wstatus = .ptr (ctx.args.get 1)) ∧ call =
      { args := [
          ("pid", .int (ctx.args.get 0).toInt64),
          ("wstatus", wstatus),
          ("options", .flags (decodeFlags (ctx.args.get 2) OPTIONS_TABLE)),
          ("rusage", .ptr (ctx.args.get 3))]
        ret := ctx.ret } := by
  simp only [Wait4, Outcome.bind_eq_ok_iff] at decodes
  obtain ⟨wstatus, found, same⟩ := decodes
  cases same
  refine ⟨wstatus, ?_, rfl⟩
  unfold wstatusOfWait4 at found
  dsimp only at found
  split at found
  · obtain ⟨word, _, shown⟩ := Outcome.bind_eq_ok_iff.mp found
    cases word with
    | none => exact .inr (Outcome.ok.inj shown).symm
    | some word => exact .inl ⟨_, (Outcome.ok.inj shown).symm⟩
  · exact .inr (Outcome.ok.inj found).symm

end Calls

end Loi.Syscalls
