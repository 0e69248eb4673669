import Loi.ReadCstr
import Loi.Syscalls.Calls

/-! The buffers of `read` and `write`: which bytes of the tracee the two decoders ask
for, and what they make of them. -/

set_option autoImplicit false

namespace Loi.Syscalls

open Nix Foundation Memory

/-- The calls that transfer a buffer. -/
inductive BufferCall where
  | read
  | write
  deriving DecidableEq, Repr

namespace BufferCall

def decoder : BufferCall → Decoder
  | read => Read
  | write => Write

attribute [local instance] sixRegisters

/-- How many bytes of the buffer are shown: of what was transferred, and of what was to
be written when a `write` transferred nothing. -/
def captured (ctx : DecodeCtx) : BufferCall → Nat
  | read =>
      if 0 < ctx.ret.toInt then min ctx.ret.toInt.toNat MAX_INLINE_BYTES else 0
  | write =>
      if 0 < ctx.ret.toInt then
        min (min (ctx.args.get 2).toNat ctx.ret.toInt.toNat) MAX_INLINE_BYTES
      else min (ctx.args.get 2).toNat MAX_INLINE_BYTES

section Traced

variable (host : Host) (ctx : DecodeCtx)

/-- `inlineOfRead` and `inlineOfWrite` with a record of their reads. -/
def inlineTraced : BufferCall → Traced Chunk DecodeError (List UInt8)
  | read =>
      if ctx.ret > 0 then
        (Traced.ask (ctx.args.get 1, min ((sizeOfRet ctx.ret).getD 0) MAX_INLINE_BYTES)
          (readBytes host ctx.pid (ctx.args.get 1)
            (min ((sizeOfRet ctx.ret).getD 0) MAX_INLINE_BYTES))).mapErr .memory
      else .lift (.ok [])
  | write =>
      if wantOfWrite ctx = 0 then .lift (.ok [])
      else
        (Traced.ask (ctx.args.get 1, wantOfWrite ctx)
          (readBytes host ctx.pid (ctx.args.get 1) (wantOfWrite ctx))).mapErr .memory

/-- The decoder with a record of its reads. -/
def decodeTraced (call : BufferCall) : Traced Chunk DecodeError DecodedCall := do
  let count := ctx.args.get 2
  let inline ← call.inlineTraced host ctx
  let fd ← .lift (decodeFd host (intOfRegister (ctx.args.get 0)))
  return {
    args := [("fd", .fd fd), ("buf", .bytes inline count.toNat), ("count", .uint count)]
    ret := ctx.ret }

theorem decodeTraced_outcome (call : BufferCall) :
    (call.decodeTraced host ctx).outcome = call.decoder.decode host ctx := by
  simp only [decodeTraced, Traced.outcome_bind, Traced.outcome_lift, Traced.outcome_pure]
  cases call with
  | read =>
      have inline : (read.inlineTraced host ctx).outcome = inlineOfRead host ctx := by
        unfold inlineTraced inlineOfRead
        dsimp only
        split <;> rfl
      rw [inline]
      rfl
  | write =>
      have inline : (write.inlineTraced host ctx).outcome = inlineOfWrite host ctx := by
        unfold inlineTraced inlineOfWrite
        dsimp only
        split <;> rfl
      rw [inline]
      rfl

end Traced

theorem sizeOfRet_of_pos {ret : Int64} (positive : ret > 0) :
    0 < ret.toInt ∧ sizeOfRet ret = some ret.toInt.toNat := by
  have zero : (0 : Int64).toInt = 0 := rfl
  rw [gt_iff_lt, Int64.lt_iff_toInt_lt, zero] at positive
  have nonnegative : (0 : Int64) ≤ ret := by
    rw [Int64.le_iff_toInt_le, zero]
    omega
  exact ⟨positive, if_pos nonnegative⟩

theorem toInt_of_not_pos {ret : Int64} (notPositive : ¬ ret > 0) : ¬ 0 < ret.toInt := by
  intro positive
  exact notPositive (Int64.lt_iff_toInt_lt.mpr positive)

theorem wantOfWrite_eq (ctx : DecodeCtx) : wantOfWrite ctx = write.captured ctx := by
  unfold wantOfWrite captured
  dsimp only
  split
  · rename_i positive
    obtain ⟨above, size⟩ := sizeOfRet_of_pos positive
    rw [if_pos above, size, Option.getD_some, Nat.min_comm ctx.ret.toInt.toNat]
    rfl
  · rename_i notPositive
    rw [if_neg (toInt_of_not_pos notPositive)]
    rfl

/-- Both decoders ask once, for the captured bytes, and not at all when there are none. -/
theorem inlineTraced_eq (call : BufferCall) (host : Host) (ctx : DecodeCtx) :
    call.inlineTraced host ctx =
      if call.captured ctx = 0 then .lift (.ok [])
      else
        (Traced.ask (ctx.args.get 1, call.captured ctx)
          (readBytes host ctx.pid (ctx.args.get 1) (call.captured ctx))).mapErr .memory := by
  cases call with
  | read =>
      unfold inlineTraced captured
      dsimp only
      split
      · rename_i positive
        obtain ⟨above, size⟩ := sizeOfRet_of_pos positive
        have nonempty : min ctx.ret.toInt.toNat MAX_INLINE_BYTES ≠ 0 := by
          simp only [MAX_INLINE_BYTES]
          omega
        rw [if_pos above, if_neg nonempty, size]
        rfl
      · rename_i notPositive
        rw [if_neg (toInt_of_not_pos notPositive), if_pos rfl]
  | write =>
      unfold inlineTraced
      dsimp only
      rw [wantOfWrite_eq]

theorem captured_le (call : BufferCall) {ctx : DecodeCtx}
    (kernel : ctx.ret.toInt ≤ (ctx.args.get 2).toNat) :
    call.captured ctx ≤ (ctx.args.get 2).toNat := by
  cases call with
  | read =>
      simp only [captured]
      split <;> omega
  | write =>
      simp only [captured]
      split <;> omega

/-- What is asked for does not depend on the answer. -/
theorem decodeTraced_requests (call : BufferCall) (host : Host) (ctx : DecodeCtx) :
    (call.decodeTraced host ctx).requests =
      if call.captured ctx = 0 then [] else [(ctx.args.get 1, call.captured ctx)] := by
  have silent : ∀ inline, (do
      let fd ← .lift (decodeFd host (intOfRegister (ctx.args.get 0)))
      return {
        args := [("fd", .fd fd), ("buf", .bytes inline (ctx.args.get 2).toNat),
          ("count", .uint (ctx.args.get 2))]
        ret := ctx.ret } : Traced Chunk DecodeError DecodedCall).requests = [] := fun inline =>
    Traced.requests_bind_of_silent fun fd => rfl
  have asks : (call.decodeTraced host ctx).requests = (call.inlineTraced host ctx).requests :=
    Traced.requests_bind_of_silent silent
  rw [asks, inlineTraced_eq]
  split <;> rfl

section Answers

variable (call : BufferCall) {host : Host} {ctx : DecodeCtx} {memory : TraceeMemory}
  (serves : Serves host ctx.pid memory)

/-- The call that the decoder returns around the captured bytes. -/
def shown (ctx : DecodeCtx) (inline : List UInt8) : DecodedCall where
  args := [
    ("fd", .fd (fdOfInt (lowInt (ctx.args.get 0)))),
    ("buf", .bytes inline (ctx.args.get 2).toNat),
    ("count", .uint (ctx.args.get 2))]
  ret := ctx.ret

include serves

theorem decode_readable {inline : List UInt8}
    (readable : memory.read (ctx.args.get 1).toNat (call.captured ctx) = some inline) :
    call.decoder.decode host ctx = .ok (shown ctx inline) := by
  have captures : (call.inlineTraced host ctx).outcome = .ok inline := by
    rw [inlineTraced_eq]
    split
    · rename_i nothing
      rw [nothing] at readable
      cases readable
      rfl
    · rw [Traced.outcome_mapErr, Traced.outcome_ask, (readBytes_eq_ok_iff serves).mpr readable]
      rfl
  rw [← decodeTraced_outcome]
  simp only [decodeTraced, Traced.outcome_bind, captures, Outcome.ok_bind, Traced.outcome_lift,
    decodeFd_intOfRegister]
  rfl

theorem decode_unreadable
    (unreadable : memory.read (ctx.args.get 1).toNat (call.captured ctx) = none) :
    ∃ error, call.decoder.decode host ctx = .err error := by
  have nonempty : call.captured ctx ≠ 0 := by
    intro nothing
    rw [nothing] at unreadable
    cases unreadable
  cases answered : readBytes host ctx.pid (ctx.args.get 1) (call.captured ctx) with
  | panicked => exact absurd answered (readBytes_panics host ctx.pid _ _)
  | ok bytes =>
      rw [(readBytes_eq_ok_iff serves).mp answered] at unreadable
      cases unreadable
  | err error =>
      refine ⟨.memory error, ?_⟩
      have fails : (call.inlineTraced host ctx).outcome = .err (.memory error) := by
        rw [inlineTraced_eq, if_neg nonempty, Traced.outcome_mapErr, Traced.outcome_ask, answered]
        rfl
      rw [← decodeTraced_outcome]
      simp only [decodeTraced, Traced.outcome_bind, fails, Outcome.err_bind]

end Answers

/-- The two decoders show only bytes of the transfer: they ask for the captured bytes at
the buffer and for nothing else, none of them behind `count`, fail exactly when one of
these cannot be read, and return what the memory holds there. -/
theorem decode_captures (call : BufferCall) {host : Host} {ctx : DecodeCtx}
    {memory : TraceeMemory} (serves : Serves host ctx.pid memory)
    (kernel : ctx.ret.toInt ≤ (ctx.args.get 2).toNat) :
    (call.decodeTraced host ctx).outcome = call.decoder.decode host ctx ∧
    (call.decodeTraced host ctx).requests =
      (if call.captured ctx = 0 then [] else [(ctx.args.get 1, call.captured ctx)]) ∧
    call.captured ctx ≤ (ctx.args.get 2).toNat ∧
    ((∃ error, call.decoder.decode host ctx = .err error) ↔
      ∃ index < call.captured ctx, memory.byteAt ((ctx.args.get 1).toNat + index) = none) ∧
    ((∃ decoded, call.decoder.decode host ctx = .ok decoded) ↔
      ∀ index < call.captured ctx,
        (memory.byteAt ((ctx.args.get 1).toNat + index)).isSome) ∧
    ∀ decoded, call.decoder.decode host ctx = .ok decoded →
      ∃ inline, inline.length = call.captured ctx ∧
        memory.Holds (ctx.args.get 1).toNat inline ∧
        decoded =
          { args := [
              ("fd", .fd (fdOfInt (lowInt (ctx.args.get 0)))),
              ("buf", .bytes inline (ctx.args.get 2).toNat),
              ("count", .uint (ctx.args.get 2))]
            ret := ctx.ret } := by
  refine ⟨call.decodeTraced_outcome host ctx, call.decodeTraced_requests host ctx,
    call.captured_le kernel, ?_⟩
  rw [← TraceeMemory.read_eq_none_iff]
  cases held : memory.read (ctx.args.get 1).toNat (call.captured ctx) with
  | none =>
      obtain ⟨error, fails⟩ := call.decode_unreadable serves held
      obtain ⟨index, inside, missing⟩ := TraceeMemory.read_eq_none_iff.mp held
      refine ⟨iff_of_true ⟨error, fails⟩ rfl, iff_of_false ?_ ?_, ?_⟩
      · intro success
        obtain ⟨decoded, decodes⟩ := success
        rw [fails] at decodes
        cases decodes
      · intro readable
        have found := readable index inside
        rw [missing] at found
        cases found
      · intro decoded decodes
        rw [fails] at decodes
        cases decodes
  | some inline =>
      have decodes := call.decode_readable serves held
      obtain ⟨length, holds⟩ := TraceeMemory.read_eq_some_iff.mp held
      refine ⟨iff_of_false ?_ nofun, iff_of_true ⟨_, decodes⟩ ?_, ?_⟩
      · intro failure
        obtain ⟨error, fails⟩ := failure
        rw [decodes] at fails
        cases fails
      · intro index inside
        rw [holds index (by omega)]
        rfl
      · intro decoded same
        rw [decodes] at same
        cases same
        exact ⟨inline, length, holds, rfl⟩

/-- A `write` of a page, of which two bytes went through. -/
def partialWrite : DecodeCtx :=
  { pid := 7, args := #v[1, 8189, 4096, 0, 0, 0], ret := 2 }

theorem decode_captures_partialWrite :
    (write.decodeTraced (servingHost lastBytes) partialWrite).requests = [(8189, 2)] ∧
    ∃ inline, inline.length = 2 ∧ Write.decode (servingHost lastBytes) partialWrite =
      .ok { args := [("fd", .fd (.num 1)), ("buf", .bytes inline 4096), ("count", .uint 4096)]
            ret := 2 } := by
  have serves : Serves (servingHost lastBytes) partialWrite.pid lastBytes :=
    servingHost_serves lastBytes 7
  have kernel : partialWrite.ret.toInt ≤ (partialWrite.args.get 2).toNat := by decide
  obtain ⟨_, requests, _, _, succeeds, returns⟩ := write.decode_captures serves kernel
  obtain ⟨decoded, decodes⟩ := succeeds.mpr (by decide)
  obtain ⟨inline, length, _, same⟩ := returns decoded decodes
  subst same
  exact ⟨requests, inline, length, decodes⟩

end BufferCall

end Loi.Syscalls
