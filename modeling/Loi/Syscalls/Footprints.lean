import Loi.Foundation.Footprint
import Loi.MemoryProperties
import Loi.Syscalls.Registry

/-! What a decoder reads. Each of the defaults rests on a bounded number of bytes, all of
the process whose syscall it decodes. -/

set_option autoImplicit false

namespace Loi

open Nix Foundation Memory

/-- One call of `process_vm_readv`. -/
structure VmRead where
  pid : Pid
  addr : UInt64
  len : Nat
  deriving DecidableEq, Repr

def Host.answers (host : Host) (read : VmRead) : Except Errno (List UInt8) :=
  host.processVmReadv read.pid read.addr read.len

/-- The same host over other memories. -/
def Host.answering (host : Host) (answers : VmRead → Except Errno (List UInt8)) : Host :=
  { host with processVmReadv := fun pid addr len => answers ⟨pid, addr, len⟩ }

/-- On this host the result rests on at most `count` reads of `pid`, of `total` bytes. -/
def ReadsOf {Value : Type} (pid : Pid) (host : Host) (count total : Nat)
    (compute : Host → Value) : Prop :=
  ReadsWithin (fun read : VmRead => read.pid = pid) VmRead.len count total host.answers
    fun answers => compute (host.answering answers)

namespace ReadsOf

variable {Value Next Error : Type} {pid : Pid} {host : Host} {count total count' total' : Nat}

theorem silent {compute : Host → Value}
    (constant : ∀ answers, compute (host.answering answers) = compute host) :
    ReadsOf pid host 0 0 compute :=
  (ReadsWithin.const (compute host)).congr constant

theorem weaken {compute : Host → Value} (reads : ReadsOf pid host count total compute)
    (fewer : count ≤ count') (smaller : total ≤ total') :
    ReadsOf pid host count' total' compute :=
  ReadsWithin.weaken reads fewer smaller

theorem congr {compute compute' : Host → Value} (reads : ReadsOf pid host count total compute)
    (same : ∀ answers, compute' (host.answering answers) = compute (host.answering answers)) :
    ReadsOf pid host count total compute' :=
  ReadsWithin.congr reads same

theorem determined {compute : Host → Value} {use : Host → Next}
    (reads : ReadsOf pid host count total compute)
    (same : ∀ answers other,
      compute (host.answering other) = compute (host.answering answers) →
        use (host.answering other) = use (host.answering answers)) :
    ReadsOf pid host count total use :=
  ReadsWithin.determined reads same

theorem map {compute : Host → Value} (reads : ReadsOf pid host count total compute)
    (use : Value → Next) : ReadsOf pid host count total fun host => use (compute host) :=
  ReadsWithin.map reads use

theorem bind {first : Host → Outcome Error Value} {next : Value → Host → Outcome Error Next}
    (reads : ReadsOf pid host count total first)
    (later : ∀ value, ReadsOf pid host count' total' (next value)) :
    ReadsOf pid host (count + count') (total + total') fun host =>
      first host >>= fun value => next value host :=
  ReadsWithin.bind reads fun value _ => later value

end ReadsOf

section Readers

variable {pid : Pid} {host : Host}

theorem readBytes_reads (addr : UInt64) (len : Nat) :
    ReadsOf pid host 1 len fun host => readBytes host pid addr len := by
  have asked : ReadsWithin (fun read : VmRead => read.pid = pid) VmRead.len 1
      (VmRead.len ⟨pid, addr, len⟩) host.answers fun answers => answers ⟨pid, addr, len⟩ :=
    .ask rfl
  refine asked.determined fun answers other same => ?_
  unfold readBytes
  dsimp only [Host.answering]
  rw [same]

/-- How many pages the bytes from `cursor` on lie in. -/
def pagesTouched (cursor : UInt64) (remaining : Nat) : Nat :=
  if remaining = 0 then 0 else (cursor.toNat % 4096 + remaining + 4095) / 4096

theorem pagesTouched_advance (cursor : UInt64) {remaining : Nat} (more : remaining ≠ 0) :
    1 + pagesTouched (cursor + UInt64.ofNat (chunkAt cursor remaining))
        (remaining - chunkAt cursor remaining) ≤ pagesTouched cursor remaining := by
  have advanced : (cursor + UInt64.ofNat (chunkAt cursor remaining)).toNat % 4096 =
      (cursor.toNat + chunkAt cursor remaining) % 4096 := by
    rw [UInt64.toNat_add, UInt64.toNat_ofNat']
    omega
  have size : chunkAt cursor remaining = min remaining (4096 - cursor.toNat % 4096) := rfl
  unfold pagesTouched
  rw [advanced, if_neg more]
  by_cases last : remaining - chunkAt cursor remaining = 0
  · rw [if_pos last]
    omega
  · rw [if_neg last]
    omega

theorem pagesTouched_le (cursor : UInt64) {max : Nat} (small : max ≤ 4096) :
    pagesTouched cursor max ≤ 2 := by
  unfold pagesTouched
  split <;> omega

/-- One read for each page that the string may lie in. -/
theorem readCstrLoop_reads (max fuel : Nat) (cursor : UInt64) (remaining : Nat)
    (out : List UInt8) :
    ReadsOf pid host (pagesTouched cursor remaining) remaining fun host =>
      readCstrLoop host pid max fuel cursor remaining out := by
  induction fuel generalizing cursor remaining out with
  | zero => exact (ReadsOf.silent fun _ => rfl).weaken (Nat.zero_le _) (Nat.zero_le _)
  | succ fuel ih =>
      by_cases done : remaining = 0
      · subst done
        exact (ReadsOf.silent fun _ => rfl).weaken (Nat.zero_le _) (Nat.zero_le _)
      by_cases safe : host.profile.overflowChecks = false ∨ cursor.toNat < topPage
      · refine ReadsOf.weaken ?_ (pagesTouched_advance cursor done)
          (Nat.add_sub_cancel' (chunkAt_le cursor remaining)).le
        refine ReadsWithin.congr ?_ fun answers =>
          @readCstrLoop_round (host.answering answers) cursor safe pid max fuel remaining out done
        refine ReadsWithin.bind (readBytes_reads cursor (chunkAt cursor remaining)) fun bytes _ => ?_
        cases bytes.findIdx? (· = 0) with
        | some index =>
            exact (ReadsWithin.const (Outcome.ok (out ++ bytes.take index))).weaken (Nat.zero_le _)
              (Nat.zero_le _)
        | none => exact ih _ _ _
      · rw [not_or, Bool.not_eq_false, Nat.not_lt] at safe
        obtain ⟨checked, top⟩ := safe
        refine (ReadsOf.silent fun answers => ?_).weaken (Nat.zero_le _) (Nat.zero_le _)
        exact (@readCstrLoop_top (host.answering answers) checked pid max fuel cursor remaining out
          done top).trans (readCstrLoop_top checked pid max fuel out done top).symm

theorem readCstr_reads (addr : UInt64) {max : Nat} (small : max ≤ 4096) :
    ReadsOf pid host 2 max fun host => readCstr host pid addr max :=
  (readCstrLoop_reads max max addr max []).weaken (pagesTouched_le addr small) (Nat.le_refl _)

end Readers

namespace Syscalls

section Decoders

variable {pid : Pid} {host : Host}

theorem decodePath_reads (addr : UInt64) :
    ReadsOf pid host 2 PATH_MAX fun host => decodePath host pid addr := by
  refine (readCstr_reads addr (Nat.le_refl 4096)).determined fun answers other same => ?_
  unfold decodePath PATH_MAX
  rw [same]

theorem decodeArgvEntry_reads (addr : UInt64) :
    ReadsOf pid host 2 MAX_ARGV_ENTRY_BYTES fun host => decodeArgvEntry host pid addr := by
  have short : MAX_ARGV_ENTRY_BYTES ≤ 4096 := by decide
  refine (readCstr_reads addr short).determined fun answers other same => ?_
  unfold decodeArgvEntry
  rw [same]

theorem readPtrSlot_reads (addr : UInt64) :
    ReadsOf pid host 1 PTR_BYTES fun host => readPtrSlot host pid addr := by
  refine (readBytes_reads addr PTR_BYTES).determined fun answers other same => ?_
  unfold readPtrSlot
  rw [same]

/-- In every round a slot and an entry. -/
theorem walkArgvLoop_reads (rounds : Nat) (cursor : UInt64) (entries : List String) :
    ReadsOf pid host (rounds * 3) (rounds * 264) fun host =>
      walkArgvLoop host pid rounds cursor entries := by
  induction rounds generalizing cursor entries with
  | zero => exact (ReadsOf.silent fun _ => rfl).weaken (Nat.zero_le _) (Nat.zero_le _)
  | succ rounds ih =>
      have constant : ∀ outcome : Outcome DecodeError (List String × Bool),
          ReadsOf pid host (2 + rounds * 3) (256 + rounds * 264) fun _ => outcome :=
        fun outcome => (ReadsOf.silent fun _ => rfl).weaken (Nat.zero_le _) (Nat.zero_le _)
      have slot : ReadsOf pid host (1 + (2 + rounds * 3)) (8 + (256 + rounds * 264)) fun host =>
          walkArgvLoop host pid (rounds + 1) cursor entries := by
        refine ((readPtrSlot_reads cursor).map Outcome.attempt).bind ?_
        rintro (error | ptr)
        · exact constant _
        by_cases null : ptr = 0
        · simp only [null, if_true]
          exact constant _
        · simp only [null, if_false]
          refine ((decodeArgvEntry_reads ptr).map Outcome.attempt).bind ?_
          rintro (error | entry)
          · exact (ReadsOf.silent fun _ => rfl).weaken (Nat.zero_le _) (Nat.zero_le _)
          · exact ih _ _
      exact slot.weaken (by omega) (by omega)

theorem walkArgv_reads (argvAddr : UInt64) :
    ReadsOf pid host 192 16896 fun host => walkArgv host pid argvAddr := by
  refine (walkArgvLoop_reads MAX_ARGV argvAddr []).determined fun answers other same => ?_
  unfold walkArgv
  rw [same]

theorem execve_reads (ctx : DecodeCtx) :
    ReadsOf ctx.pid host (2 + (192 + 0)) (PATH_MAX + (16896 + 0)) fun host =>
      Execve.decode host ctx := by
  refine (decodePath_reads ctx.args[0]).bind fun pathname => ?_
  refine (walkArgv_reads ctx.args[1]).bind fun argv => ?_
  exact ReadsOf.silent fun _ => rfl

theorem openAt_reads (ctx : DecodeCtx) :
    ReadsOf ctx.pid host (2 + 0) (PATH_MAX + 0) fun host => OpenAt.decode host ctx :=
  (decodePath_reads ctx.args[1]).bind fun _ => ReadsOf.silent fun _ => rfl

theorem statx_reads (ctx : DecodeCtx) :
    ReadsOf ctx.pid host (2 + 0) (PATH_MAX + 0) fun host => Statx.decode host ctx :=
  (decodePath_reads ctx.args[1]).bind fun _ => ReadsOf.silent fun _ => rfl

theorem stat_reads (ctx : DecodeCtx) :
    ReadsOf ctx.pid host (2 + 0) (PATH_MAX + 0) fun host => Stat.decode host ctx :=
  (decodePath_reads ctx.args[0]).bind fun _ => ReadsOf.silent fun _ => rfl

theorem buffer_reads (addr : UInt64) {len : Nat} (small : len ≤ MAX_INLINE_BYTES) :
    ReadsOf pid host 1 MAX_INLINE_BYTES fun host =>
      (readBytes host pid addr len).mapErr DecodeError.memory :=
  ((readBytes_reads addr len).weaken (Nat.le_refl _) small).map
    fun bytes : Outcome MemError (List UInt8) => bytes.mapErr DecodeError.memory

theorem read_reads (ctx : DecodeCtx) :
    ReadsOf ctx.pid host (1 + 0) (MAX_INLINE_BYTES + 0) fun host => Read.decode host ctx := by
  have inline : ReadsOf ctx.pid host 1 MAX_INLINE_BYTES fun host => inlineOfRead host ctx := by
    unfold inlineOfRead
    split
    · exact buffer_reads _ (Nat.min_le_right _ _)
    · exact (ReadsOf.silent fun _ => rfl).weaken (Nat.zero_le _) (Nat.zero_le _)
  exact inline.bind fun _ => ReadsOf.silent fun _ => rfl

theorem write_reads (ctx : DecodeCtx) :
    ReadsOf ctx.pid host (1 + 0) (MAX_INLINE_BYTES + 0) fun host => Write.decode host ctx := by
  have inline : ReadsOf ctx.pid host 1 MAX_INLINE_BYTES fun host => inlineOfWrite host ctx := by
    unfold inlineOfWrite
    split
    · exact (ReadsOf.silent fun _ => rfl).weaken (Nat.zero_le _) (Nat.zero_le _)
    · exact buffer_reads _ (Nat.min_le_right _ _)
  exact inline.bind fun _ => ReadsOf.silent fun _ => rfl

theorem wait4_reads (ctx : DecodeCtx) :
    ReadsOf ctx.pid host (1 + 0) (STATUS_WORD_BYTES + 0) fun host => Wait4.decode host ctx := by
  have wstatus : ReadsOf ctx.pid host 1 STATUS_WORD_BYTES fun host => wstatusOfWait4 host ctx := by
    unfold wstatusOfWait4
    dsimp only
    split
    · have word : ReadsOf ctx.pid host 1 STATUS_WORD_BYTES fun host =>
          readStatusWord host ctx.pid ctx.args[1] := by
        refine (readBytes_reads ctx.args[1] STATUS_WORD_BYTES).determined
          fun answers other same => ?_
        unfold readStatusWord
        rw [same]
      exact word.bind fun _ => ReadsOf.silent fun _ => rfl
    · exact (ReadsOf.silent fun _ => rfl).weaken (Nat.zero_le _) (Nat.zero_le _)
  exact wstatus.bind fun _ => ReadsOf.silent fun _ => rfl

/-- The most reads that one event costs, those of an `execve`: its path, and a slot and an
entry for each of `MAX_ARGV` rounds, where a string may lie across two pages. -/
def MOST_READS : Nat := 2 + MAX_ARGV * 3

def MOST_BYTES : Nat := PATH_MAX + MAX_ARGV * (PTR_BYTES + MAX_ARGV_ENTRY_BYTES)

theorem defaultDecoder_rows {arch : Libc.Arch} {decoder : Decoder}
    (default : decoder ∈ (Registry.defaultDecoders arch).map Prod.snd) :
    decoder = OpenAt ∨ decoder = Read ∨ decoder = Write ∨ decoder = Close ∨ decoder = Fstat ∨
      decoder = Statx ∨ decoder = Mmap ∨ decoder = Mprotect ∨ decoder = Execve ∨
      decoder = Clone ∨ decoder = Wait4 ∨ decoder = Stat := by
  have rows : (Registry.defaultDecoders arch).map Prod.snd ⊆
      [OpenAt, Read, Write, Close, Fstat, Statx, Mmap, Mprotect, Execve, Clone, Wait4, Stat] := by
    cases arch <;> simp [Registry.defaultDecoders]
  have row := rows default
  simpa only [List.mem_cons, List.not_mem_nil, or_false] using row

theorem defaultDecoder_reads {arch : Libc.Arch} {decoder : Decoder}
    (default : decoder ∈ (Registry.defaultDecoders arch).map Prod.snd) (host : Host)
    (ctx : DecodeCtx) :
    ReadsOf ctx.pid host MOST_READS MOST_BYTES fun host => decoder.decode host ctx := by
  have blind : ∀ {decoder : Decoder}, (∀ answers, decoder.decode (host.answering answers) ctx =
      decoder.decode host ctx) →
      ReadsOf ctx.pid host MOST_READS MOST_BYTES fun host => decoder.decode host ctx :=
    fun constant => (ReadsOf.silent constant).weaken (Nat.zero_le _) (Nat.zero_le _)
  rcases defaultDecoder_rows default with
    rfl | rfl | rfl | rfl | rfl | rfl | rfl | rfl | rfl | rfl | rfl | rfl
  · exact (openAt_reads ctx).weaken (by decide) (by decide)
  · exact (read_reads ctx).weaken (by decide) (by decide)
  · exact (write_reads ctx).weaken (by decide) (by decide)
  · exact blind fun _ => rfl
  · exact blind fun _ => rfl
  · exact (statx_reads ctx).weaken (by decide) (by decide)
  · exact blind fun _ => rfl
  · exact blind fun _ => rfl
  · exact (execve_reads ctx).weaken (by decide) (by decide)
  · exact blind fun _ => rfl
  · exact (wait4_reads ctx).weaken (by decide) (by decide)
  · exact (stat_reads ctx).weaken (by decide) (by decide)

end Decoders

end Syscalls

end Loi
