import Loi.Output.FormatCommon
import Loi.ReadCstr
import Loi.Syscalls.Calls

/-! The truncation marker of a buffer, from the registers of `read` to the two
formatters. -/

set_option autoImplicit false

namespace Loi.Output

open Nix Foundation Memory Syscalls

/-- The text form of an argument ends with the marker. -/
def IsMarked (arg : DecodedArg) : Prop :=
  ['.', '.', '.'] <:+ (renderArgText arg).toList

/-- The JSON form of an argument has `truncated` set. -/
def SaysTruncated (arg : DecodedArg) : Prop :=
  ∃ fields, argToJson arg = .object fields ∧ ("truncated", .bool true) ∈ fields

theorem quoted_toList (text : String) :
    (quoted text).toList = '"' :: (escapeDefault text).toList ++ ['"'] := by
  rw [quoted, String.toList_append, String.toList_append]
  rfl

/-- Text without the marker ends with its quotation mark. -/
theorem isMarked_bytes_iff (inline : List UInt8) (total : Nat) :
    IsMarked (.bytes inline total) ↔ inline.length < total := by
  unfold IsMarked
  rw [renderArgText, String.toList_append]
  split
  · rename_i less
    exact iff_of_true (List.suffix_append _ _) less
  · rename_i whole
    refine iff_of_false (fun marked => ?_) whole
    obtain ⟨front, ends⟩ := marked
    have last := congrArg List.getLast? ends
    rw [quoted_toList, String.toList_empty, List.append_nil, List.getLast?_concat,
      List.getLast?_append] at last
    cases last

theorem saysTruncated_bytes_iff (inline : List UInt8) (total : Nat) :
    SaysTruncated (.bytes inline total) ↔ inline.length < total := by
  constructor
  · intro truncated
    obtain ⟨fields, object, member⟩ := truncated
    rw [argToJson] at object
    cases object
    simpa using member
  · intro less
    exact ⟨_, rfl, by simp [less]⟩

/-- The bytes that a `read` transferred: none at the end of a file or on an error. -/
def transferred (ret : Int64) : Nat :=
  ret.toInt.toNat

/-- What `read` captures of a buffer of which that much can be read. -/
theorem inlineOfRead_eq {host : Host} {ctx : DecodeCtx} {memory : TraceeMemory}
    (serves : Serves host ctx.pid memory) {inline : List UInt8}
    (readable : memory.read (ctx.args.get 1).toNat (min (transferred ctx.ret) MAX_INLINE_BYTES) =
      some inline) : inlineOfRead host ctx = .ok inline := by
  have zero : (0 : Int64).toInt = 0 := rfl
  unfold inlineOfRead
  split
  · rename_i positive
    have size : (sizeOfRet ctx.ret).getD 0 = transferred ctx.ret := by
      have nonnegative : (0 : Int64) ≤ ctx.ret := by
        rw [gt_iff_lt, Int64.lt_iff_toInt_lt] at positive
        rw [Int64.le_iff_toInt_le]
        omega
      rw [sizeOfRet, if_pos nonnegative]
      rfl
    rw [size, show readBytes host ctx.pid ctx.args[1] _ = _ from
      (readBytes_eq_ok_iff serves).mpr readable]
    rfl
  · rename_i notPositive
    have nothing : transferred ctx.ret = 0 := by
      rw [gt_iff_lt, Int64.lt_iff_toInt_lt, zero] at notPositive
      rw [transferred]
      omega
    rw [nothing, Nat.zero_min] at readable
    cases readable
    rfl

/-- The marker of a `read` buffer says, in both formats, that fewer bytes were captured than
were requested. That is the same as fewer than were transferred exactly if the call filled the
captured part, or all that it was asked for. -/
theorem readMarker_truthful_iff {host : Host} {ctx : DecodeCtx} {memory : TraceeMemory}
    (serves : Serves host ctx.pid memory)
    (kernel : ctx.ret.toInt ≤ (ctx.args.get 2).toNat)
    (readable : memory.read (ctx.args.get 1).toNat (min (transferred ctx.ret) MAX_INLINE_BYTES) ≠
      none) :
    ∃ call inline, Read.decode host ctx = .ok call ∧
      memory.read (ctx.args.get 1).toNat (min (transferred ctx.ret) MAX_INLINE_BYTES) =
        some inline ∧
      call.args.lookup "buf" = some (.bytes inline (ctx.args.get 2).toNat) ∧
      inline.length = min (transferred ctx.ret) MAX_INLINE_BYTES ∧
      (IsMarked (.bytes inline (ctx.args.get 2).toNat) ↔
        inline.length < (ctx.args.get 2).toNat) ∧
      (SaysTruncated (.bytes inline (ctx.args.get 2).toNat) ↔
        inline.length < (ctx.args.get 2).toNat) ∧
      (inline.length < transferred ctx.ret ↔ MAX_INLINE_BYTES < transferred ctx.ret) ∧
      (((IsMarked (.bytes inline (ctx.args.get 2).toNat) ↔
            MAX_INLINE_BYTES < transferred ctx.ret) ∧
          (SaysTruncated (.bytes inline (ctx.args.get 2).toNat) ↔
            MAX_INLINE_BYTES < transferred ctx.ret)) ↔
        MAX_INLINE_BYTES < transferred ctx.ret ∨
          (ctx.args.get 2).toNat = transferred ctx.ret) := by
  cases held : memory.read (ctx.args.get 1).toNat
      (min (transferred ctx.ret) MAX_INLINE_BYTES) with
  | none => exact absurd held readable
  | some inline =>
      have length : inline.length = min (transferred ctx.ret) MAX_INLINE_BYTES :=
        (TraceeMemory.read_eq_some_iff.mp held).1
      have within : transferred ctx.ret ≤ (ctx.args.get 2).toNat := by
        rw [transferred]
        omega
      refine ⟨{ args := [
          ("fd", .fd (fdOfInt (lowInt ctx.args[0]))),
          ("buf", .bytes inline ctx.args[2].toNat),
          ("count", .uint ctx.args[2])]
                ret := ctx.ret }, inline, ?_, rfl, rfl, length, isMarked_bytes_iff _ _,
        saysTruncated_bytes_iff _ _, by omega, ?_⟩
      · simp only [Read, inlineOfRead_eq serves held, Outcome.ok_bind, decodeFd_intOfRegister]
        rfl
      · rw [isMarked_bytes_iff, saysTruncated_bytes_iff, and_self, length]
        simp only [MAX_INLINE_BYTES]
        omega

/-- A line of two letters, read into a buffer of a page. -/
def shortRead : DecodeCtx :=
  { pid := 7, args := #v[3, 8189, 4096, 0, 0, 0], ret := 2 }

theorem readMarker_truthful_iff_shortRead :
    ∃ call inline, Read.decode (servingHost lastBytes) shortRead = .ok call ∧
      call.args.lookup "buf" = some (.bytes inline 4096) ∧ inline.length = 2 := by
  have serves : Serves (servingHost lastBytes) shortRead.pid lastBytes :=
    servingHost_serves lastBytes 7
  have kernel : shortRead.ret.toInt ≤ (shortRead.args.get 2).toNat := by decide
  have readable : lastBytes.read (shortRead.args.get 1).toNat
      (min (transferred shortRead.ret) MAX_INLINE_BYTES) ≠ none := by decide
  obtain ⟨call, inline, decodes, held, buffer, _⟩ :=
    readMarker_truthful_iff serves kernel readable
  exact ⟨call, inline, decodes, buffer, (TraceeMemory.read_eq_some_iff.mp held).1⟩

/-- Both bytes of it are captured, and both formats mark that as less than a page. -/
theorem readMarker_of_shortRead :
    transferred shortRead.ret = 2 ∧ shortRead.ret.toInt ≤ (shortRead.args.get 2).toNat ∧
    ∃ call, Read.decode (servingHost lastBytes) shortRead = .ok call ∧
      call.args.lookup "buf" = some (.bytes [104, 105] 4096) ∧
      IsMarked (.bytes [104, 105] 4096) ∧ SaysTruncated (.bytes [104, 105] 4096) := by
  refine ⟨by decide, by decide, _, rfl, by decide, ?_, ?_⟩
  · exact (isMarked_bytes_iff _ _).mpr (by decide)
  · exact (saysTruncated_bytes_iff _ _).mpr (by decide)

end Loi.Output
