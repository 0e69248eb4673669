import Loi.MemoryProperties
import Loi.Syscalls.Calls

/-! Which registers and memories make a decoder panic. The only partial step on
tracee input is the page arithmetic of `read_cstr`. -/

set_option autoImplicit false

namespace Loi.Syscalls

open Nix Foundation Memory

theorem decodeFd_panics (host : Host) (register : UInt64) :
    ¬ (decodeFd host (intOfRegister register)).Panics := by
  simp [decodeFd_intOfRegister]

/-- The pointer in the argv slot at `addr`. -/
def wordAt (memory : TraceeMemory) (addr : Nat) : Option UInt64 :=
  (memory.read addr PTR_BYTES).map fun bytes => UInt64.ofNat (fromNeBytes bytes)

theorem wordAt_outside (memory : TraceeMemory) {addr : Nat} (high : 2 ^ 64 ≤ addr + 7) :
    wordAt memory addr = none := by
  rw [wordAt, Option.map_eq_none_iff, TraceeMemory.read_eq_none_iff]
  exact ⟨7, by decide, memory.bounded _ high⟩

/-- A readable NUL-terminated string of fewer than `max` bytes stands at `addr`. -/
def Terminates (memory : TraceeMemory) (addr max : Nat) : Prop :=
  ∃ text, StringAt memory addr max text

/-- The walk over the argv array at `argv` gets to entry `index`, which points to
`ptr`: every slot before it names a string. -/
structure EntryReached (memory : TraceeMemory) (argv index : Nat) (ptr : UInt64) : Prop where
  before : ∀ earlier < index, ∃ entry, wordAt memory (argv + PTR_BYTES * earlier) = some entry ∧
    entry ≠ 0 ∧ Terminates memory entry.toNat MAX_ARGV_ENTRY_BYTES
  slot : wordAt memory (argv + PTR_BYTES * index) = some ptr
  nonNull : ptr ≠ 0

theorem not_entryReached_of_unreadable {memory : TraceeMemory} {argv : Nat}
    (unreadable : wordAt memory argv = none) (index : Nat) (ptr : UInt64) :
    ¬ EntryReached memory argv index ptr := by
  intro reached
  cases index with
  | zero =>
      have slot := reached.slot
      rw [Nat.mul_zero, Nat.add_zero, unreadable] at slot
      cases slot
  | succ index =>
      obtain ⟨entry, slot, _⟩ := reached.before 0 (Nat.succ_pos _)
      rw [Nat.mul_zero, Nat.add_zero, unreadable] at slot
      cases slot

theorem entryReached_zero {memory : TraceeMemory} {argv : Nat} {ptr : UInt64} :
    EntryReached memory argv 0 ptr ↔ wordAt memory argv = some ptr ∧ ptr ≠ 0 := by
  constructor
  · intro reached
    exact ⟨by simpa using reached.slot, reached.nonNull⟩
  · intro parts
    obtain ⟨slot, nonNull⟩ := parts
    exact ⟨fun earlier bound => absurd bound (Nat.not_lt_zero _), by simpa using slot, nonNull⟩

theorem entryReached_succ {memory : TraceeMemory} {argv index : Nat} {entry ptr : UInt64}
    (slot : wordAt memory argv = some entry) :
    EntryReached memory argv (index + 1) ptr ↔
      (entry ≠ 0 ∧ Terminates memory entry.toNat MAX_ARGV_ENTRY_BYTES) ∧
        EntryReached memory (argv + PTR_BYTES) index ptr := by
  have shift : ∀ position, argv + PTR_BYTES + PTR_BYTES * position =
      argv + PTR_BYTES * (position + 1) := by
    intro position
    rw [Nat.mul_add, Nat.mul_one]
    omega
  constructor
  · intro reached
    obtain ⟨first, found, nonNull, terminates⟩ := reached.before 0 (Nat.succ_pos _)
    rw [Nat.mul_zero, Nat.add_zero, slot] at found
    cases found
    refine ⟨⟨nonNull, terminates⟩, ?_, ?_, reached.nonNull⟩
    · intro earlier bound
      rw [shift]
      exact reached.before (earlier + 1) (Nat.succ_lt_succ bound)
    · rw [shift]
      exact reached.slot
  · intro parts
    obtain ⟨⟨nonNull, terminates⟩, rest⟩ := parts
    refine ⟨?_, by rw [← shift]; exact rest.slot, rest.nonNull⟩
    intro earlier bound
    cases earlier with
    | zero => exact ⟨entry, by simpa using slot, nonNull, terminates⟩
    | succ earlier =>
        rw [← shift]
        exact rest.before earlier (Nat.lt_of_succ_lt_succ bound)

/-- `expect` never fires: an `Ok` of `read_bytes` has the length asked for. -/
theorem readPtrSlot_cases {host : Host} {pid : Pid} {memory : TraceeMemory}
    (serves : Serves host pid memory) (addr : UInt64) :
    (∃ ptr, readPtrSlot host pid addr = .ok ptr ∧ wordAt memory addr.toNat = some ptr) ∨
      ∃ error, readPtrSlot host pid addr = .err error ∧ wordAt memory addr.toNat = none := by
  unfold readPtrSlot wordAt
  cases answered : readBytes host pid addr PTR_BYTES with
  | panicked => exact absurd answered (readBytes_panics host pid addr _)
  | ok bytes =>
      have held := (readBytes_eq_ok_iff serves).mp answered
      left
      simp [Outcome.mapErr, held, readBytes_length answered]
  | err error =>
      right
      rw [read_eq_none_of_err serves answered]
      exact ⟨_, rfl, rfl⟩

/-- The walk stays on the array: where the addition saturates, the next slot is
unreadable with or without saturation. -/
theorem entryReached_saturatingAdd {memory : TraceeMemory} {cursor : UInt64} (index : Nat)
    (ptr : UInt64) :
    EntryReached memory (saturatingAdd cursor (UInt64.ofNat PTR_BYTES)).toNat index ptr ↔
      EntryReached memory (cursor.toNat + PTR_BYTES) index ptr := by
  have step : (UInt64.ofNat PTR_BYTES).toNat = PTR_BYTES := rfl
  unfold saturatingAdd
  by_cases fits : cursor.toNat + (UInt64.ofNat PTR_BYTES).toNat < 2 ^ 64
  · rw [if_pos fits, UInt64.toNat_add, Nat.mod_eq_of_lt fits, step]
  · rw [if_neg fits]
    rw [step] at fits
    have last : (UInt64.ofNat (2 ^ 64 - 1)).toNat = 2 ^ 64 - 1 := by decide
    rw [last]
    exact iff_of_false
      (not_entryReached_of_unreadable (wordAt_outside memory (by omega)) index ptr)
      (not_entryReached_of_unreadable (wordAt_outside memory (by omega)) index ptr)

theorem decodeArgvEntry_panics_iff {host : Host} (checked : host.profile.overflowChecks = true)
    {pid : Pid} {memory : TraceeMemory} (serves : Serves host pid memory) (addr : UInt64) :
    (decodeArgvEntry host pid addr).Panics ↔
      RunsOffTop memory addr.toNat MAX_ARGV_ENTRY_BYTES := by
  rw [decodeArgvEntry, Outcome.bind_panics_iff_left (fun _ => Outcome.panics_pure _),
    Outcome.mapErr_panics, readCstr_panics_iff checked serves]

theorem decodeArgvEntry_returns_iff {host : Host} (checked : host.profile.overflowChecks = true)
    {pid : Pid} {memory : TraceeMemory} (serves : Serves host pid memory) (addr : UInt64) :
    (∃ entry, decodeArgvEntry host pid addr = .ok entry) ↔
      Terminates memory addr.toNat MAX_ARGV_ENTRY_BYTES := by
  have returns := readCstr_eq_ok_iff checked serves addr MAX_ARGV_ENTRY_BYTES
  unfold decodeArgvEntry Terminates
  cases answered : readCstr host pid addr MAX_ARGV_ENTRY_BYTES <;>
    simp [Outcome.mapErr, ← returns, answered]

/-- The walk panics exactly on an entry it reaches, by induction on the rounds
that are left. -/
theorem walkArgvLoop_panics_iff {host : Host} (checked : host.profile.overflowChecks = true)
    {pid : Pid} {memory : TraceeMemory} (serves : Serves host pid memory) (rounds : Nat)
    (cursor : UInt64) (entries : List String) :
    (walkArgvLoop host pid rounds cursor entries).Panics ↔
      ∃ index < rounds, ∃ ptr, EntryReached memory cursor.toNat index ptr ∧
        RunsOffTop memory ptr.toNat MAX_ARGV_ENTRY_BYTES := by
  induction rounds generalizing cursor entries with
  | zero => simp [walkArgvLoop]
  | succ rounds ih =>
      rcases readPtrSlot_cases serves cursor with
        ⟨entry, answered, slot⟩ | ⟨error, answered, unreadable⟩
      · by_cases null : entry = 0
        · subst null
          have stops : (walkArgvLoop host pid (rounds + 1) cursor entries) =
              .ok (entries, false) := by
            simp [walkArgvLoop, answered, Outcome.attempt]
          rw [stops]
          simp only [Outcome.panics_ok, false_iff, not_exists, not_and]
          intro index bound ptr reached
          cases index with
          | zero =>
              obtain ⟨found, nonNull⟩ := entryReached_zero.mp reached
              rw [slot] at found
              cases found
              exact absurd rfl nonNull
          | succ index => exact absurd rfl ((entryReached_succ slot).mp reached).1.1
        · have first : EntryReached memory cursor.toNat 0 entry := entryReached_zero.mpr ⟨slot, null⟩
          have panics := decodeArgvEntry_panics_iff checked serves entry
          have returns := decodeArgvEntry_returns_iff checked serves entry
          have alone : ∀ ptr, EntryReached memory cursor.toNat 0 ptr → ptr = entry := by
            intro ptr reached
            have found := (entryReached_zero.mp reached).1
            rw [slot] at found
            exact (Option.some.inj found).symm
          cases decoded : decodeArgvEntry host pid entry with
          | panicked =>
              have stops : walkArgvLoop host pid (rounds + 1) cursor entries = .panicked := by
                simp [walkArgvLoop, answered, Outcome.attempt, null, decoded]
              rw [stops]
              simp only [Outcome.panics_panicked, true_iff]
              exact ⟨0, Nat.succ_pos _, entry, first, panics.mp decoded⟩
          | err error =>
              have stops : walkArgvLoop host pid (rounds + 1) cursor entries =
                  .ok (entries ++ [SENTINEL_UNREADABLE], false) := by
                simp [walkArgvLoop, answered, Outcome.attempt, null, decoded]
              rw [stops]
              simp only [Outcome.panics_ok, false_iff, not_exists, not_and]
              intro index bound ptr reached runs
              cases index with
              | zero =>
                  rw [alone ptr reached, ← panics, decoded] at runs
                  exact Outcome.panics_err _ runs
              | succ index =>
                  obtain ⟨text, same⟩ := returns.mpr ((entryReached_succ slot).mp reached).1.2
                  rw [decoded] at same
                  cases same
          | ok text =>
              have goesOn : walkArgvLoop host pid (rounds + 1) cursor entries =
                  walkArgvLoop host pid rounds (saturatingAdd cursor (UInt64.ofNat PTR_BYTES))
                    (entries ++ [text]) := by
                simp [walkArgvLoop, answered, Outcome.attempt, null, decoded]
              have terminates := returns.mp ⟨text, decoded⟩
              rw [goesOn, ih]
              simp only [entryReached_saturatingAdd]
              constructor
              · intro found
                obtain ⟨index, bound, ptr, reached, runs⟩ := found
                exact ⟨index + 1, Nat.succ_lt_succ bound, ptr,
                  (entryReached_succ slot).mpr ⟨⟨null, terminates⟩, reached⟩, runs⟩
              · intro found
                obtain ⟨index, bound, ptr, reached, runs⟩ := found
                cases index with
                | zero =>
                    rw [alone ptr reached, ← panics, decoded] at runs
                    exact absurd runs (Outcome.panics_ok _)
                | succ index =>
                    exact ⟨index, Nat.lt_of_succ_lt_succ bound, ptr,
                      ((entryReached_succ slot).mp reached).2, runs⟩
      · have stops : ¬ (walkArgvLoop host pid (rounds + 1) cursor entries).Panics := by
          simp only [walkArgvLoop, answered, Outcome.attempt, Outcome.ok_bind]
          split <;> simp
        refine iff_of_false stops ?_
        intro found
        obtain ⟨index, _, ptr, reached, _⟩ := found
        exact not_entryReached_of_unreadable unreadable index ptr reached

theorem decodePath_panics_iff {host : Host} (checked : host.profile.overflowChecks = true)
    {pid : Pid} {memory : TraceeMemory} (serves : Serves host pid memory) (addr : UInt64) :
    (decodePath host pid addr).Panics ↔ RunsOffTop memory addr.toNat PATH_MAX := by
  rw [decodePath, Outcome.bind_panics_iff_left (fun _ => Outcome.panics_pure _),
    Outcome.mapErr_panics, readCstr_panics_iff checked serves]

theorem decodePath_returns_iff {host : Host} (checked : host.profile.overflowChecks = true)
    {pid : Pid} {memory : TraceeMemory} (serves : Serves host pid memory) (addr : UInt64) :
    (∃ path, decodePath host pid addr = .ok path) ↔ Terminates memory addr.toNat PATH_MAX := by
  have returns := readCstr_eq_ok_iff checked serves addr PATH_MAX
  unfold decodePath Terminates
  cases answered : readCstr host pid addr PATH_MAX <;>
    simp [Outcome.mapErr, ← returns, answered]

theorem walkArgv_panics_iff {host : Host} (checked : host.profile.overflowChecks = true)
    {pid : Pid} {memory : TraceeMemory} (serves : Serves host pid memory) (argv : UInt64) :
    (walkArgv host pid argv).Panics ↔
      ∃ index < MAX_ARGV, ∃ ptr, EntryReached memory argv.toNat index ptr ∧
        RunsOffTop memory ptr.toNat MAX_ARGV_ENTRY_BYTES := by
  rw [walkArgv, Outcome.bind_panics_iff_left (fun _ => Outcome.panics_pure _),
    walkArgvLoop_panics_iff checked serves]

theorem readStatusWord_panics (host : Host) (pid : Pid) (addr : UInt64) :
    ¬ (readStatusWord host pid addr).Panics := by
  unfold readStatusWord
  rw [Outcome.bind_panics_iff_left]
  · simpa using readBytes_panics host pid addr STATUS_WORD_BYTES
  · intro answer
    cases answer with
    | error error => exact Outcome.panics_pure _
    | ok bytes =>
        dsimp only
        split <;> exact Outcome.panics_pure _

/-- The C-strings that the decoder of a syscall reads: `ReadsCstr memory ctx
sysno addr max` says that it reads one at `addr` of at most `max` bytes. -/
inductive ReadsCstr (memory : TraceeMemory) (ctx : DecodeCtx) : Sysno → Nat → Nat → Prop where
  | openat : ReadsCstr memory ctx .openat (ctx.args.get 1).toNat PATH_MAX
  | statx : ReadsCstr memory ctx .statx (ctx.args.get 1).toNat PATH_MAX
  | stat : ReadsCstr memory ctx .stat (ctx.args.get 0).toNat PATH_MAX
  | pathname : ReadsCstr memory ctx .execve (ctx.args.get 0).toNat PATH_MAX
  | argument {index : Nat} {ptr : UInt64} :
      Terminates memory (ctx.args.get 0).toNat PATH_MAX → index < MAX_ARGV →
      EntryReached memory (ctx.args.get 1).toNat index ptr →
      ReadsCstr memory ctx .execve ptr.toNat MAX_ARGV_ENTRY_BYTES

/-- One of those reads leads to the last page of the address space. -/
def StringRunsOffTop (memory : TraceeMemory) (ctx : DecodeCtx) (sysno : Sysno) : Prop :=
  ∃ addr max, ReadsCstr memory ctx sysno addr max ∧ RunsOffTop memory addr max

/-- A decoder whose only string is one path argument. -/
private theorem pathDecoder_panics_iff {host : Host}
    (checked : host.profile.overflowChecks = true) {memory : TraceeMemory} {ctx : DecodeCtx}
    (serves : Serves host ctx.pid memory) {sysno : Sysno} {addr : UInt64}
    {next : String → Outcome DecodeError DecodedCall} (safe : ∀ path, ¬ (next path).Panics)
    (reads : ReadsCstr memory ctx sysno addr.toNat PATH_MAX)
    (only : ∀ other max, ReadsCstr memory ctx sysno other max →
      other = addr.toNat ∧ max = PATH_MAX) :
    (decodePath host ctx.pid addr >>= next).Panics ↔ StringRunsOffTop memory ctx sysno := by
  rw [Outcome.bind_panics_iff_left safe, decodePath_panics_iff checked serves]
  constructor
  · intro runs
    exact ⟨addr.toNat, PATH_MAX, reads, runs⟩
  · intro found
    obtain ⟨other, max, read, runs⟩ := found
    obtain ⟨rfl, rfl⟩ := only other max read
    exact runs

private theorem execve_panics_iff {host : Host} (checked : host.profile.overflowChecks = true)
    {memory : TraceeMemory} {ctx : DecodeCtx} (serves : Serves host ctx.pid memory) :
    (Execve.decode host ctx).Panics ↔ StringRunsOffTop memory ctx .execve := by
  have shape : (Execve.decode host ctx).Panics ↔
      (decodePath host ctx.pid ctx.args[0]).Panics ∨
        (∃ path, decodePath host ctx.pid ctx.args[0] = .ok path) ∧
          (walkArgv host ctx.pid ctx.args[1]).Panics := by
    simp only [Execve, Outcome.bind_panics_iff, Outcome.panics_pure, and_false, exists_false,
      or_false, exists_and_right]
  rw [shape, decodePath_panics_iff checked serves, decodePath_returns_iff checked serves,
    walkArgv_panics_iff checked serves]
  constructor
  · intro panics
    rcases panics with runs | ⟨terminates, index, bound, ptr, reached, runs⟩
    · exact ⟨_, _, .pathname, runs⟩
    · exact ⟨_, _, .argument terminates bound reached, runs⟩
  · intro found
    obtain ⟨addr, max, read, runs⟩ := found
    cases read with
    | pathname => exact .inl runs
    | argument terminates bound reached => exact .inr ⟨terminates, _, bound, _, reached, runs⟩

/-- A decoder that reads no string does not panic. -/
private theorem noString_panics_iff {host : Host} {memory : TraceeMemory} {ctx : DecodeCtx}
    {sysno : Sysno} {decoder : Decoder} (safe : ¬ (decoder.decode host ctx).Panics)
    (reads : ∀ addr max, ¬ ReadsCstr memory ctx sysno addr max) :
    (decoder.decode host ctx).Panics ↔ StringRunsOffTop memory ctx sysno := by
  refine iff_of_false safe ?_
  intro found
  obtain ⟨addr, max, read, _⟩ := found
  exact reads addr max read

theorem fdCall_safe (host : Host) (register : UInt64) (call : FdRepr → DecodedCall) :
    ¬ (decodeFd host (intOfRegister register) >>= fun fd =>
      (pure (call fd) : Outcome DecodeError DecodedCall)).Panics := by
  rw [Outcome.bind_panics_iff_left (fun _ => Outcome.panics_pure _)]
  exact decodeFd_panics host register

/-- A buffer is read in one piece, whatever its address. -/
private theorem bufferCall_safe {host : Host} {register : UInt64}
    {buffer : Outcome DecodeError (List UInt8)} (call : List UInt8 → FdRepr → DecodedCall)
    (safe : ¬ buffer.Panics) :
    ¬ (buffer >>= fun inline => decodeFd host (intOfRegister register) >>= fun fd =>
      (pure (call inline fd) : Outcome DecodeError DecodedCall)).Panics := by
  rw [Outcome.bind_panics_iff_left (fun inline => fdCall_safe host register (call inline))]
  exact safe

theorem read_safe (host : Host) (ctx : DecodeCtx) : ¬ (Read.decode host ctx).Panics := by
  apply bufferCall_safe
  unfold inlineOfRead
  split
  · rw [Outcome.mapErr_panics]
    exact readBytes_panics host ctx.pid _ _
  · exact Outcome.panics_ok _

theorem write_safe (host : Host) (ctx : DecodeCtx) : ¬ (Write.decode host ctx).Panics := by
  apply bufferCall_safe
  unfold inlineOfWrite
  split
  · exact Outcome.panics_ok _
  · rw [Outcome.mapErr_panics]
    exact readBytes_panics host ctx.pid _ _

theorem wait4_safe (host : Host) (ctx : DecodeCtx) : ¬ (Wait4.decode host ctx).Panics := by
  simp only [Wait4]
  rw [Outcome.bind_panics_iff_left (fun _ => Outcome.panics_pure _)]
  unfold wstatusOfWait4
  dsimp only
  split
  · rw [Outcome.bind_panics_iff_left]
    · exact readStatusWord_panics host ctx.pid _
    · intro word
      cases word <;> exact Outcome.panics_pure _
  · exact Outcome.panics_ok _

section Rows

variable {host : Host} {memory : TraceeMemory} {ctx : DecodeCtx}
  (checked : host.profile.overflowChecks = true) (serves : Serves host ctx.pid memory)

include checked serves

private theorem openat_panics_iff :
    (OpenAt.decode host ctx).Panics ↔ StringRunsOffTop memory ctx .openat := by
  apply pathDecoder_panics_iff checked serves
  · intro path
    exact fdCall_safe host _ _
  · exact .openat
  · intro addr max read
    cases read
    exact ⟨rfl, rfl⟩

private theorem statx_panics_iff :
    (Statx.decode host ctx).Panics ↔ StringRunsOffTop memory ctx .statx := by
  apply pathDecoder_panics_iff checked serves
  · intro path
    exact fdCall_safe host _ _
  · exact .statx
  · intro addr max read
    cases read
    exact ⟨rfl, rfl⟩

private theorem stat_panics_iff :
    (Stat.decode host ctx).Panics ↔ StringRunsOffTop memory ctx .stat := by
  apply pathDecoder_panics_iff checked serves
  · intro path
    exact Outcome.panics_pure _
  · exact .stat
  · intro addr max read
    cases read
    exact ⟨rfl, rfl⟩

/-- Row by row: a default decoder panics exactly on a string that leads to the
last page. -/
theorem defaultDecoder_panics_iff {sysno : Sysno} {decoder : Decoder}
    (row : (sysno, decoder) ∈ Registry.defaultDecoders host.arch) :
    (decoder.decode host ctx).Panics ↔ StringRunsOffTop memory ctx sysno := by
  have noString : ∀ {other : Sysno}, other ≠ .openat → other ≠ .statx → other ≠ .stat →
      other ≠ .execve → ∀ addr max, ¬ ReadsCstr memory ctx other addr max := by
    intro other notOpenat notStatx notStat notExecve addr max read
    cases read <;> contradiction
  simp only [Registry.defaultDecoders, List.mem_append, List.mem_cons, Prod.mk.injEq,
    List.not_mem_nil, or_false] at row
  rcases row with (row | row | row | row | row | row | row | row | row | row | row) | row
  · obtain ⟨rfl, rfl⟩ := row
    exact openat_panics_iff checked serves
  · obtain ⟨rfl, rfl⟩ := row
    exact noString_panics_iff (read_safe host ctx) (noString nofun nofun nofun nofun)
  · obtain ⟨rfl, rfl⟩ := row
    exact noString_panics_iff (write_safe host ctx) (noString nofun nofun nofun nofun)
  · obtain ⟨rfl, rfl⟩ := row
    exact noString_panics_iff (fdCall_safe host _ _) (noString nofun nofun nofun nofun)
  · obtain ⟨rfl, rfl⟩ := row
    exact noString_panics_iff (fdCall_safe host _ _) (noString nofun nofun nofun nofun)
  · obtain ⟨rfl, rfl⟩ := row
    exact statx_panics_iff checked serves
  · obtain ⟨rfl, rfl⟩ := row
    exact noString_panics_iff (fdCall_safe host _ _) (noString nofun nofun nofun nofun)
  · obtain ⟨rfl, rfl⟩ := row
    exact noString_panics_iff (Outcome.panics_pure _) (noString nofun nofun nofun nofun)
  · obtain ⟨rfl, rfl⟩ := row
    exact execve_panics_iff checked serves
  · obtain ⟨rfl, rfl⟩ := row
    exact noString_panics_iff (Outcome.panics_pure _) (noString nofun nofun nofun nofun)
  · obtain ⟨rfl, rfl⟩ := row
    exact noString_panics_iff (wait4_safe host ctx) (noString nofun nofun nofun nofun)
  · cases arch : host.arch with
    | aarch64 => simp [arch] at row
    | x86_64 =>
        simp only [arch, List.mem_singleton, Prod.mk.injEq] at row
        obtain ⟨rfl, rfl⟩ := row
        exact stat_panics_iff checked serves

end Rows

/-- A development build over a kernel that refuses every read. -/
def blindHost : Host :=
  { profile := .dev, arch := .x86_64, processVmReadv := fun _ _ _ => .error .EFAULT }

/-- The `x86_64` rows that have a decoder. -/
def x86Table : SysnoTable where
  fromNr nr :=
    if nr = 257 then some .openat else if nr = 0 then some .read else if nr = 1 then some .write
    else if nr = 3 then some .close else if nr = 5 then some .fstat else if nr = 332 then some .statx
    else if nr = 9 then some .mmap else if nr = 10 then some .mprotect
    else if nr = 59 then some .execve else if nr = 56 then some .clone
    else if nr = 61 then some .wait4 else if nr = 4 then some .stat else none
  id
    | .openat => 257 | .read => 0 | .write => 1 | .close => 3 | .fstat => 5 | .statx => 332
    | .mmap => 9 | .mprotect => 10 | .execve => 59 | .clone => 56 | .wait4 => 61 | .stat => 4
    | .other nr => nr
  name
    | .openat => "openat" | .read => "read" | .write => "write" | .close => "close"
    | .fstat => "fstat" | .statx => "statx" | .mmap => "mmap" | .mprotect => "mprotect"
    | .execve => "execve" | .clone => "clone" | .wait4 => "wait4" | .stat => "stat"
    | .other nr => "syscall_" ++ toString nr
  narrow := by
    intro sysno
    cases sysno with
    | other nr => exact synthetic_narrow nr
    | _ => decide

end Loi.Syscalls
