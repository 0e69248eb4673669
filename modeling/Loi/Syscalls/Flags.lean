import Mathlib.Data.List.Nodup
import Loi.ReadCstr
import Loi.Syscalls.FlagTables
import Loi.Syscalls.Panics

/-! The flag words of the decoders: which names a word decodes to, constant by
constant of each table. -/

set_option autoImplicit false

namespace Loi.Syscalls

open Nix Foundation Memory

/-- The arguments that decode to flags. -/
inductive FlagArgument where
  | openatFlags
  | mmapProt
  | mmapFlags
  | mprotectProt
  | statxFlags
  | statxMask
  | cloneFlags
  | wait4Options
  deriving DecidableEq, Repr

namespace FlagArgument

def decoder : FlagArgument → Decoder
  | openatFlags => OpenAt
  | mmapProt | mmapFlags => Mmap
  | mprotectProt => Mprotect
  | statxFlags | statxMask => Statx
  | cloneFlags => Clone
  | wait4Options => Wait4

def label : FlagArgument → String
  | openatFlags | mmapFlags | statxFlags | cloneFlags => "flags"
  | mmapProt | mprotectProt => "prot"
  | statxMask => "mask"
  | wait4Options => "options"

attribute [local instance] sixRegisters

def register : FlagArgument → Fin 6
  | openatFlags | mmapProt | mprotectProt | statxFlags | wait4Options => 2
  | mmapFlags | statxMask => 3
  | cloneFlags => 0

def table (arch : Libc.Arch) : FlagArgument → FlagTable
  | openatFlags => OPEN_FLAGS_TABLE arch
  | mmapProt | mprotectProt => PROT_TABLE
  | mmapFlags => MAP_TABLE
  | statxFlags => STATX_FLAGS_TABLE
  | statxMask => STATX_MASK_TABLE
  | cloneFlags => CLONE_TABLE
  | wait4Options => OPTIONS_TABLE

/-- The names of a register. -/
def names (arch : Libc.Arch) (raw : UInt64) : FlagArgument → List String
  | openatFlags => decodeOpenFlags arch raw
  | mmapProt | mprotectProt => decodeProt raw
  | mmapFlags => decodeFlags raw MAP_TABLE
  | statxFlags => decodeFlags raw STATX_FLAGS_TABLE
  | statxMask => decodeFlags raw STATX_MASK_TABLE
  | cloneFlags => decodeFlags raw CLONE_TABLE
  | wait4Options => decodeFlags raw OPTIONS_TABLE

/-- All bits of the constant are set, and it is not the `O_DIRECTORY` that is part of a
set `O_TMPFILE`. A constant is the 32-bit pattern that the kernel knows. -/
def IsSet (argument : FlagArgument) (arch : Libc.Arch) (word : UInt32)
    (entry : UInt64 × String) : Prop :=
  word &&& entry.1.toUInt32 = entry.1.toUInt32 ∧
    ¬ (argument = openatFlags ∧ entry.2 = "O_DIRECTORY" ∧
      word &&& (Libc.O_TMPFILE arch).toUInt32 = (Libc.O_TMPFILE arch).toUInt32)

theorem decoded (argument : FlagArgument) {host : Host} {ctx : DecodeCtx} {call : DecodedCall}
    (decodes : argument.decoder.decode host ctx = .ok call) :
    call.args.lookup argument.label =
      some (.flags (argument.names host.arch (ctx.args.get argument.register))) := by
  cases argument with
  | openatFlags =>
      obtain ⟨pathname, rfl⟩ := openAt_call decodes
      rfl
  | mmapProt =>
      cases mmap_call decodes
      rfl
  | mmapFlags =>
      cases mmap_call decodes
      rfl
  | mprotectProt =>
      cases decodes
      rfl
  | statxFlags =>
      obtain ⟨pathname, rfl⟩ := statx_call decodes
      rfl
  | statxMask =>
      obtain ⟨pathname, rfl⟩ := statx_call decodes
      rfl
  | cloneFlags =>
      cases decodes
      rfl
  | wait4Options =>
      obtain ⟨wstatus, _, rfl⟩ := wait4_call decodes
      rfl

end FlagArgument

section Words

theorem toUInt64_and_eq_iff (word mask value : UInt32) :
    word.toUInt64 &&& mask.toUInt64 = value.toUInt64 ↔ word &&& mask = value := by
  rw [← UInt32.toUInt64_and, UInt32.toUInt64_inj]

/-- A word that was zero-extended has no bit above the low half. -/
theorem zeroExtended_and_eq_iff (word : UInt32) (mask : UInt64) :
    word.toUInt64 &&& mask = mask ↔
      word &&& mask.toUInt32 = mask.toUInt32 ∧ mask.toNat < 2 ^ 32 := by
  have narrow : mask.toNat < 2 ^ 32 → mask.toUInt32.toUInt64 = mask := by
    intro small
    rw [← UInt64.toNat_inj, UInt32.toNat_toUInt64, UInt64.toNat_toUInt32, Nat.mod_eq_of_lt small]
  constructor
  · intro set
    have small : mask.toNat < 2 ^ 32 := by
      rw [← set, UInt64.toNat_and, UInt32.toNat_toUInt64]
      exact Nat.lt_of_le_of_lt Nat.and_le_left word.toNat_lt
    rw [← toUInt64_and_eq_iff, narrow small]
    exact ⟨set, small⟩
  · intro parts
    obtain ⟨set, small⟩ := parts
    rwa [← toUInt64_and_eq_iff, narrow small] at set

end Words

section Tables

variable {table : FlagTable} (distinct : (table.map Prod.snd).Nodup) {entry : UInt64 × String}
  (listed : entry ∈ table)

include distinct listed

theorem mem_names_iff (named : UInt64 × String → Bool) :
    entry.2 ∈ (table.filter named).map Prod.snd ↔ named entry = true := by
  constructor
  · intro member
    obtain ⟨other, found, same⟩ := List.mem_map.mp member
    obtain ⟨otherListed, otherNamed⟩ := List.mem_filter.mp found
    have equal := List.inj_on_of_nodup_map distinct otherListed listed same
    rw [← equal]
    exact otherNamed
  · intro isNamed
    exact List.mem_map.mpr ⟨entry, List.mem_filter.mpr ⟨listed, isNamed⟩, rfl⟩

theorem mem_decodeFlags_iff (nonzero : entry.1 ≠ 0) (raw : UInt64) :
    entry.2 ∈ decodeFlags raw table ↔ raw &&& entry.1 = entry.1 := by
  rw [decodeFlags_eq, entriesWithin, mem_names_iff distinct listed, decide_eq_true_eq,
    and_iff_right nonzero, and_eq_right_iff]

end Tables

theorem mem_decodeProt_iff {entry : UInt64 × String} (listed : entry ∈ PROT_TABLE)
    (nonzero : entry.1 ≠ 0) (raw : UInt64) :
    entry.2 ∈ decodeProt raw ↔ raw &&& entry.1 = entry.1 := by
  have otherName : ∀ entry ∈ PROT_TABLE, entry.2 ≠ "PROT_NONE" := by decide
  unfold decodeProt
  split
  · rename_i empty
    subst empty
    rw [UInt64.zero_and, List.mem_singleton]
    exact iff_of_false (otherName entry listed) (Ne.symm nonzero)
  · exact mem_decodeFlags_iff (by decide) listed nonzero raw

theorem accessModeName_cases (raw : UInt64) :
    (accessModeName raw = some "O_RDONLY" ↔ raw &&& 3 = 0) ∧
      (accessModeName raw = some "O_WRONLY" ↔ raw &&& 3 = 1) ∧
      (accessModeName raw = some "O_RDWR" ↔ raw &&& 3 = 2) := by
  have mask : O_ACCMODE = 3 := rfl
  unfold accessModeName
  rw [mask]
  split_ifs with readOnly writeOnly readWrite
  · simp [readOnly]
  · simp [writeOnly]
  · simp [readWrite]
  · simp [readOnly, writeOnly, readWrite]

def accessModes : List String :=
  ["O_RDONLY", "O_WRONLY", "O_RDWR"]

theorem accessModeName_mem {raw : UInt64} {name : String}
    (member : name ∈ (accessModeName raw).toList) : name ∈ accessModes := by
  unfold accessModeName at member
  split_ifs at member
  · rw [Option.toList_some, List.mem_singleton] at member
    simp [accessModes, member]
  · rw [Option.toList_some, List.mem_singleton] at member
    simp [accessModes, member]
  · rw [Option.toList_some, List.mem_singleton] at member
    simp [accessModes, member]
  · cases member

theorem openFlags_names (arch : Libc.Arch) :
    ∀ entry ∈ OPEN_FLAGS_TABLE arch,
      (entry.1 = O_DIRECTORY_MASK arch ↔ entry.2 = "O_DIRECTORY") ∧ entry.2 ∉ accessModes := by
  cases arch <;> decide

/-- The access mode is not in the table. -/
theorem accessMode_mem_iff (arch : Libc.Arch) (raw : UInt64) {mode : String}
    (isMode : mode ∈ accessModes) :
    mode ∈ decodeOpenFlags arch raw ↔ accessModeName raw = some mode := by
  rw [decodeOpenFlags, List.mem_append, Option.mem_toList]
  refine or_iff_left fun listed => ?_
  obtain ⟨entry, found, rfl⟩ := List.mem_map.mp listed
  exact (openFlags_names arch entry (List.mem_filter.mp found).1).2 isMode

theorem mem_decodeOpenFlags_iff {arch : Libc.Arch} {entry : UInt64 × String}
    (distinct : ((OPEN_FLAGS_TABLE arch).map Prod.snd).Nodup)
    (listed : entry ∈ OPEN_FLAGS_TABLE arch) (nonzero : entry.1 ≠ 0) (raw : UInt64) :
    entry.2 ∈ decodeOpenFlags arch raw ↔
      raw &&& entry.1 = entry.1 ∧
        ¬ (entry.2 = "O_DIRECTORY" ∧ raw &&& O_TMPFILE_MASK arch = O_TMPFILE_MASK arch) := by
  obtain ⟨directory, notMode⟩ := openFlags_names arch entry listed
  have mode : entry.2 ∉ (accessModeName raw).toList := fun member =>
    notMode (accessModeName_mem member)
  rw [decodeOpenFlags, List.mem_append, or_iff_right mode, mem_names_iff distinct listed,
    ← directory]
  simp only [Bool.and_eq_true, decide_eq_true_eq, Bool.not_eq_true', Bool.and_eq_false_iff,
    decide_eq_false_iff_not, ne_eq, nonzero, not_false_eq_true, true_and, not_and_or]
  exact and_comm

namespace FlagArgument

theorem distinct (argument : FlagArgument) (arch : Libc.Arch) :
    ((argument.table arch).map Prod.snd).Nodup := by
  cases argument <;> cases arch <;> decide

/-- The only constant that is negative as a `c_int`. -/
theorem high_iff (argument : FlagArgument) (arch : Libc.Arch) :
    ∀ entry ∈ argument.table arch,
      2 ^ 32 ≤ entry.1.toNat ↔ argument = cloneFlags ∧ entry.2 = "CLONE_IO" := by
  cases argument <;> cases arch <;> decide

theorem cloneIo_pattern :
    ∀ entry ∈ CLONE_TABLE, entry.2 = "CLONE_IO" → entry.1.toUInt32 = 0x80000000 := by
  decide

/-- Apart from the flags of `openat` and from `prot`, an argument is read off its table. -/
theorem names_cases (argument : FlagArgument) (arch : Libc.Arch) (raw : UInt64) :
    argument = openatFlags ∨
      (argument ≠ openatFlags ∧ argument.label = "prot" ∧ argument.table arch = PROT_TABLE ∧
        argument.names arch raw = decodeProt raw) ∨
      (argument ≠ openatFlags ∧ argument.label ≠ "prot" ∧
        argument.names arch raw = decodeFlags raw (argument.table arch)) := by
  cases argument with
  | openatFlags => exact .inl rfl
  | mmapProt | mprotectProt => exact .inr (.inl ⟨nofun, rfl, rfl, rfl⟩)
  | mmapFlags | statxFlags | statxMask | cloneFlags | wait4Options =>
      exact .inr (.inr ⟨nofun, by decide, rfl⟩)

/-- What the decoders do with the whole register, constant by constant. -/
theorem mem_names_iff (argument : FlagArgument) (arch : Libc.Arch) (raw : UInt64)
    {entry : UInt64 × String} (listed : entry ∈ argument.table arch) (nonzero : entry.1 ≠ 0) :
    entry.2 ∈ argument.names arch raw ↔
      raw &&& entry.1 = entry.1 ∧
        ¬ (argument = openatFlags ∧ entry.2 = "O_DIRECTORY" ∧
          raw &&& O_TMPFILE_MASK arch = O_TMPFILE_MASK arch) := by
  have distinct := argument.distinct arch
  rcases argument.names_cases arch raw with
    rfl | ⟨other, _, tabled, named⟩ | ⟨other, _, named⟩
  · refine (mem_decodeOpenFlags_iff distinct listed nonzero raw).trans ?_
    simp only [true_and]
  · rw [tabled] at listed
    rw [named, mem_decodeProt_iff listed nonzero]
    simp [other]
  · rw [named, mem_decodeFlags_iff distinct listed nonzero]
    simp [other]

theorem tmpfile_mask (arch : Libc.Arch) :
    (O_TMPFILE_MASK arch).toUInt32 = (Libc.O_TMPFILE arch).toUInt32 ∧
      (O_TMPFILE_MASK arch).toNat < 2 ^ 32 := by
  cases arch <;> decide

/-- For every zero-extended flag word: the name of a constant is decoded exactly when the
constant is set, unless it is a set `CLONE_IO`, whose widened mask has bits that no such
word has. The access mode of `openat` is named after the two bits that it has. -/
theorem names_iff_set (argument : FlagArgument) {host : Host} {ctx : DecodeCtx}
    {call : DecodedCall} (word : UInt32)
    (zeroExtended : ctx.args.get argument.register = word.toUInt64)
    (decodes : argument.decoder.decode host ctx = .ok call) :
    ∃ names, call.args.lookup argument.label = some (.flags names) ∧
      (∀ entry ∈ argument.table host.arch, entry.1 ≠ 0 →
        ((entry.2 ∈ names ↔ argument.IsSet host.arch word entry) ↔
          ¬ (argument = cloneFlags ∧ entry.2 = "CLONE_IO" ∧
            word &&& 0x80000000 = 0x80000000))) ∧
      (argument = openatFlags →
        ("O_RDONLY" ∈ names ↔ word &&& 3 = 0) ∧ ("O_WRONLY" ∈ names ↔ word &&& 3 = 1) ∧
          ("O_RDWR" ∈ names ↔ word &&& 3 = 2)) := by
  refine ⟨_, argument.decoded decodes, ?_, ?_⟩
  · intro entry listed nonzero
    obtain ⟨pattern, small⟩ := tmpfile_mask host.arch
    rw [zeroExtended, argument.mem_names_iff host.arch _ listed nonzero,
      zeroExtended_and_eq_iff, zeroExtended_and_eq_iff, pattern, IsSet]
    have high := argument.high_iff host.arch entry listed
    by_cases isHigh : argument = cloneFlags ∧ entry.2 = "CLONE_IO"
    · obtain ⟨rfl, named⟩ := isHigh
      have wide : ¬ entry.1.toNat < 2 ^ 32 := Nat.not_lt_of_ge (high.mpr ⟨rfl, named⟩)
      have bit : entry.1.toUInt32 = 0x80000000 := cloneIo_pattern entry listed named
      have unnamed : ∀ {hidden : Prop}, ¬ ((word &&& entry.1.toUInt32 = entry.1.toUInt32 ∧
          entry.1.toNat < 2 ^ 32) ∧ ¬ hidden) := fun both => wide both.1.2
      rw [iff_false_left unnamed, bit]
      simp [named]
    · have narrow : entry.1.toNat < 2 ^ 32 := Nat.lt_of_not_le fun wide => isHigh (high.mp wide)
      have other : ¬ (argument = cloneFlags ∧ entry.2 = "CLONE_IO" ∧
          word &&& 0x80000000 = 0x80000000) := fun clone => isHigh ⟨clone.1, clone.2.1⟩
      rw [and_iff_left narrow, and_iff_left small]
      exact iff_of_true Iff.rfl other
  · intro isOpenat
    subst isOpenat
    have bits : ∀ value : UInt32, word.toUInt64 &&& 3 = value.toUInt64 ↔ word &&& 3 = value :=
      toUInt64_and_eq_iff word 3
    obtain ⟨readOnly, writeOnly, readWrite⟩ := accessModeName_cases word.toUInt64
    rw [zeroExtended]
    refine ⟨?_, ?_, ?_⟩
    · exact (accessMode_mem_iff host.arch _ (by decide)).trans (readOnly.trans (bits 0))
    · exact (accessMode_mem_iff host.arch _ (by decide)).trans (writeOnly.trans (bits 1))
    · exact (accessMode_mem_iff host.arch _ (by decide)).trans (readWrite.trans (bits 2))

end FlagArgument

/-- `O_TMPFILE` is named and the `O_DIRECTORY` in it is not. -/
theorem names_iff_set_tmpfile :
    ∃ call names, OpenAt.decode (servingHost lastBytes)
        { pid := 7, args := #v[3, 8189, (0x410002 : UInt32).toUInt64, 0, 0, 0], ret := 4 } =
          .ok call ∧
      call.args.lookup "flags" = some (.flags names) ∧
      "O_RDWR" ∈ names ∧ "O_TMPFILE" ∈ names ∧ "O_DIRECTORY" ∉ names := by
  obtain ⟨call, decodes⟩ : ∃ call, OpenAt.decode (servingHost lastBytes)
      { pid := 7, args := #v[3, 8189, (0x410002 : UInt32).toUInt64, 0, 0, 0], ret := 4 } =
        .ok call := ⟨_, rfl⟩
  obtain ⟨names, shown, named, modes⟩ :=
    FlagArgument.names_iff_set .openatFlags 0x410002 rfl decodes
  have tmpfile := (named (O_TMPFILE_MASK .x86_64, "O_TMPFILE") (by decide) (by decide)).mpr
    (by decide)
  have directory := (named (O_DIRECTORY_MASK .x86_64, "O_DIRECTORY") (by decide) (by decide)).mpr
    (by decide)
  refine ⟨call, names, decodes, shown, (modes rfl).2.2.mpr (by decide), tmpfile.mpr ?_, ?_⟩
  · exact ⟨by decide, fun hidden => absurd hidden.2.1 (by decide)⟩
  · exact fun member => (directory.mp member).2 ⟨rfl, rfl, by decide⟩

/-- `clone` with nothing but `CLONE_IO` decodes to no flag. -/
theorem cloneIo_is_not_named :
    (cIntToU64 Libc.CLONE_IO, "CLONE_IO") ∈ FlagArgument.cloneFlags.table .x86_64 ∧
    FlagArgument.cloneFlags.IsSet .x86_64 0x80000000 (cIntToU64 Libc.CLONE_IO, "CLONE_IO") ∧
    ∃ call, Clone.decode blindHost
        { pid := 100, args := #v[(0x80000000 : UInt32).toUInt64, 0, 0, 0, 0, 0], ret := 7 } =
          .ok call ∧
      call.args.lookup "flags" = some (.flags []) := by
  refine ⟨by decide, ⟨by decide, by decide⟩, _, rfl, by decide⟩

end Loi.Syscalls
