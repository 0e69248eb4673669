import Loi.Output.FormatCommon
import Loi.Syscalls.OpenFlags

/-! Flag words that are shown as zero. -/

set_option autoImplicit false

namespace Loi.Output

open Nix Foundation Memory Syscalls

section Empty

variable {table : FlagTable} {raw : UInt64}

/-- A constant other than zero is part of the word. -/
def AnySet (table : FlagTable) (raw : UInt64) : Prop :=
  ∃ entry ∈ table, entry.1 ≠ 0 ∧ raw &&& entry.1 = entry.1

theorem decodeFlags_eq_nil_iff : decodeFlags raw table = [] ↔ ¬ AnySet table raw := by
  rw [decodeFlags_eq, List.map_eq_nil_iff, List.eq_nil_iff_forall_not_mem, AnySet, not_exists]
  refine forall_congr' fun entry => not_congr ?_
  rw [mem_entriesWithin, and_eq_right_iff]

theorem decodeProt_eq_nil_iff : decodeProt raw = [] ↔ ¬ AnySet PROT_TABLE raw ∧ raw ≠ 0 := by
  unfold decodeProt
  split
  · rename_i empty
    simp [empty]
  · rename_i nonzero
    rw [decodeFlags_eq_nil_iff, and_iff_left nonzero]

/-- When nothing is named, nothing is kept back either. -/
theorem decodeOpenFlags_eq_nil_iff {arch : Libc.Arch} :
    decodeOpenFlags arch raw = [] ↔
      ¬ AnySet (OPEN_FLAGS_TABLE arch) raw ∧ raw &&& O_ACCMODE = O_ACCMODE := by
  have entries : namedOpenFlags arch raw = [] ↔ ¬ AnySet (OPEN_FLAGS_TABLE arch) raw := by
    rw [List.eq_nil_iff_forall_not_mem]
    constructor
    · intro nothing found
      obtain ⟨entry, listed, _, set⟩ := found
      refine nothing entry (mem_namedOpenFlags.mpr ⟨listed, and_eq_right_iff.mp set, ?_⟩)
      intro hidden
      refine nothing _ (mem_namedOpenFlags.mpr ⟨(openFlags_listed arch).1, hidden.2, ?_⟩)
      intro other
      exact absurd other.1 (by cases arch <;> decide)
    · intro nothing entry named
      obtain ⟨listed, contained, _⟩ := mem_namedOpenFlags.mp named
      exact nothing ⟨entry, listed, (openFlags_disjoint arch entry listed).1,
        and_eq_right_iff.mpr contained⟩
  rw [decodeOpenFlags_eq, List.append_eq_nil_iff, List.map_eq_nil_iff, entries, and_comm,
    Option.toList_eq_nil_iff]
  refine and_congr_right fun _ => ?_
  rcases accessMode_value arch raw with ⟨unnamed, three⟩ | ⟨mode, _, named, _, other⟩
  · exact iff_of_true unnamed three
  · rw [named]
    exact iff_of_false nofun other

end Empty

theorem names_eq_nil_iff (argument : FlagArgument) (arch : Libc.Arch) (raw : UInt64) :
    argument.names arch raw = [] ↔
      ¬ AnySet (argument.table arch) raw ∧ (argument.label = "prot" → raw ≠ 0) ∧
        (argument = .openatFlags → raw &&& O_ACCMODE = O_ACCMODE) := by
  rcases argument.names_cases arch raw with
    rfl | ⟨other, isProt, tabled, named⟩ | ⟨other, notProt, named⟩
  · refine decodeOpenFlags_eq_nil_iff.trans (and_congr_right fun _ => ?_)
    simp [FlagArgument.label]
  · rw [named, decodeProt_eq_nil_iff, tabled]
    simp [isProt, other]
  · rw [named, decodeFlags_eq_nil_iff]
    simp [notProt, other]

/-- No name is as short as the text of zero. -/
theorem length_name (argument : FlagArgument) (arch : Libc.Arch) (raw : UInt64) :
    ∀ name ∈ argument.names arch raw, 1 < name.length := by
  have tables : ∀ entry ∈ argument.table arch, 1 < entry.2.length := by
    cases argument <;> cases arch <;> decide
  have plain : ∀ {table : FlagTable}, (∀ entry ∈ table, 1 < entry.2.length) →
      ∀ name ∈ decodeFlags raw table, 1 < name.length := by
    intro table listed name member
    rw [decodeFlags_eq] at member
    obtain ⟨entry, found, rfl⟩ := List.mem_map.mp member
    exact listed entry (mem_entriesWithin.mp found).1
  intro name member
  rcases argument.names_cases arch raw with
    rfl | ⟨_, _, tabled, named⟩ | ⟨_, _, named⟩
  · have modes : ∀ mode ∈ accessModes, 1 < mode.length := by decide
    change name ∈ decodeOpenFlags arch raw at member
    rw [decodeOpenFlags_eq] at member
    rcases List.mem_append.mp member with mode | listed
    · exact modes name (accessModeName_mem mode)
    · obtain ⟨entry, found, rfl⟩ := List.mem_map.mp listed
      exact tables entry (mem_namedOpenFlags.mp found).1
  · rw [named, decodeProt] at member
    rw [tabled] at tables
    split at member
    · rw [List.mem_singleton.mp member]
      decide
    · exact plain tables name member
  · rw [named] at member
    exact plain tables name member

theorem join_cons (separator item : String) (rest : List String) :
    ∃ later, join separator (item :: rest) = item ++ later := by
  cases rest with
  | nil => exact ⟨"", by rw [join, String.append_empty]⟩
  | cons next rest => exact ⟨separator ++ join separator (next :: rest), by
      rw [join, String.append_assoc]⟩

theorem renderFlags_eq_zero_iff {names : List String} (long : ∀ name ∈ names, 1 < name.length) :
    renderArgText (.flags names) = "0" ↔ names = [] := by
  rw [renderArgText]
  constructor
  · intro zero
    cases names with
    | nil => rfl
    | cons name rest =>
        obtain ⟨later, joined⟩ := join_cons "|" name rest
        rw [if_neg (List.cons_ne_nil name rest), joined] at zero
        have total := congrArg String.length zero
        have one : "0".length = 1 := by decide
        have first := long name List.mem_cons_self
        rw [String.length_append, one] at total
        omega
  · intro empty
    exact if_pos empty

theorem jsonFlags_eq_empty_iff {names : List String} :
    argToJson (.flags names) = .array [] ↔ names = [] := by
  rw [argToJson]
  simp

/-- A mask of the low half is contained in a register exactly if its pattern is
contained in the low half of the register. -/
theorem and_eq_iff_of_low {register mask : UInt64} (low : mask.toNat < 2 ^ 32) :
    register &&& mask = mask ↔ register.toUInt32 &&& mask.toUInt32 = mask.toUInt32 := by
  rw [and_eq_of_low low, zeroExtended_and_eq_iff, and_iff_left low]

/-- A set constant is seen in the low half of the register, where it is a `c_int`. What a
`clone` with `CLONE_IO` shows is left open. -/
theorem anySet_iff_low (argument : FlagArgument) (arch : Libc.Arch) {register : UInt64}
    (noIo : ¬ (argument = .cloneFlags ∧ register.toUInt32 &&& 0x80000000 = 0x80000000)) :
    AnySet (argument.table arch) register ↔
      ∃ entry ∈ argument.table arch, entry.1 ≠ 0 ∧
        register.toUInt32 &&& entry.1.toUInt32 = entry.1.toUInt32 := by
  refine exists_congr fun entry => and_congr_right fun listed => and_congr_right fun _ => ?_
  rcases Nat.lt_or_ge entry.1.toNat (2 ^ 32) with low | high
  · exact and_eq_iff_of_low low
  · obtain ⟨isClone, named⟩ := (argument.high_iff arch entry listed).mp high
    subst isClone
    have pattern := FlagArgument.cloneIo_pattern entry listed named
    have unset : register.toUInt32 &&& entry.1.toUInt32 ≠ entry.1.toUInt32 := by
      rw [pattern]
      exact fun set => noIo ⟨rfl, set⟩
    refine iff_of_false (fun set => unset ?_) unset
    rw [← UInt64.toUInt32_and, set]

/-- A flag word is shown as zero, in both formats, exactly if no constant of the table is
set in it, whatever other bits are: only the word zero of a `prot`, which is `PROT_NONE`,
and an access mode of `openat` have a name of their own. -/
theorem flagText_zero_iff (argument : FlagArgument) {host : Host} {ctx : DecodeCtx}
    {call : DecodedCall} (decodes : argument.decoder.decode host ctx = .ok call)
    (noIo : ¬ (argument = .cloneFlags ∧
      (ctx.args.get argument.register).toUInt32 &&& 0x80000000 = 0x80000000)) :
    ∃ names, call.args.lookup argument.label = some (.flags names) ∧
      (renderArgText (.flags names) = "0" ↔ names = []) ∧
      (argToJson (.flags names) = .array [] ↔ names = []) ∧
      (names = [] ↔
        (∀ entry ∈ argument.table host.arch, entry.1 ≠ 0 →
          (ctx.args.get argument.register).toUInt32 &&& entry.1.toUInt32 ≠ entry.1.toUInt32) ∧
        (argument.label = "prot" → ctx.args.get argument.register ≠ 0) ∧
        (argument = .openatFlags →
          (ctx.args.get argument.register).toUInt32 &&& 3 = 3)) := by
  have mode : O_ACCMODE.toUInt32 = 3 := rfl
  refine ⟨_, argument.decoded decodes,
    renderFlags_eq_zero_iff (length_name argument host.arch _), jsonFlags_eq_empty_iff, ?_⟩
  rw [names_eq_nil_iff, anySet_iff_low argument host.arch noIo,
    and_eq_iff_of_low (show O_ACCMODE.toNat < 2 ^ 32 by decide), mode]
  refine and_congr_left fun _ => ?_
  simp only [not_exists, not_and, ne_eq]

/-- The bit of `MAP_FIXED_NOREPLACE`, which the table does not list. -/
def unlistedFlag : DecodeCtx :=
  { pid := 100, args := #v[0, 4096, 3, 0x100000, 0, 0], ret := 0 }

theorem flagText_zero_iff_unlistedFlag :
    ∃ call, Mmap.decode blindHost unlistedFlag = .ok call ∧
      ∃ names, call.args.lookup "flags" = some (.flags names) ∧
        renderArgText (.flags names) = "0" := by
  obtain ⟨call, decodes⟩ :
      ∃ call, FlagArgument.mmapFlags.decoder.decode blindHost unlistedFlag = .ok call := ⟨_, rfl⟩
  obtain ⟨names, shown, text, _, empty⟩ := flagText_zero_iff .mmapFlags decodes (by decide)
  exact ⟨call, decodes, names, shown, text.mpr (empty.mpr (by decide))⟩

/-- A nonzero flag word that both formats show as they show zero. -/
theorem flagText_of_unlistedFlag :
    (unlistedFlag.args.get 3).toUInt32 ≠ 0 ∧
    ∃ call, Mmap.decode blindHost unlistedFlag = .ok call ∧
      call.args.lookup "flags" = some (.flags []) ∧ renderArgText (.flags []) = "0" ∧
      argToJson (.flags []) = .array [] := by
  exact ⟨by decide, _, rfl, by decide, by decide, rfl⟩

end Loi.Output
