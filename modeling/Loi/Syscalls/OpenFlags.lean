import Loi.Foundation.Masks
import Loi.Syscalls.Flags

/-! The flag word of `openat` and the names it decodes to, read back. -/

set_option autoImplicit false

namespace Loi.Syscalls

open Foundation

/-- The values that `libc` gives the names of `decodeOpenFlags`. -/
def openFlagValues (arch : Libc.Arch) : List (String × Int32) :=
  [("O_RDONLY", 0), ("O_WRONLY", 1), ("O_RDWR", 2), ("O_CREAT", Libc.O_CREAT),
    ("O_EXCL", Libc.O_EXCL), ("O_NOCTTY", Libc.O_NOCTTY), ("O_TRUNC", Libc.O_TRUNC),
    ("O_APPEND", Libc.O_APPEND), ("O_NONBLOCK", Libc.O_NONBLOCK), ("O_DSYNC", Libc.O_DSYNC),
    ("O_DIRECT", Libc.O_DIRECT arch), ("O_NOFOLLOW", Libc.O_NOFOLLOW arch),
    ("O_NOATIME", Libc.O_NOATIME), ("O_CLOEXEC", Libc.O_CLOEXEC), ("O_PATH", Libc.O_PATH),
    ("O_TMPFILE", Libc.O_TMPFILE arch), ("O_DIRECTORY", Libc.O_DIRECTORY arch)]

def openFlagValue (arch : Libc.Arch) (name : String) : UInt64 :=
  match (openFlagValues arch).lookup name with
  | some value => cIntToU64 value
  | none => 0

/-- The word that the decoded names stand for. -/
def reencoded (arch : Libc.Arch) (word : UInt64) : UInt64 :=
  unionOf ((decodeOpenFlags arch word).map (openFlagValue arch))

/-- All bits that the table and the access mode know. -/
def knownOpenBits (arch : Libc.Arch) : UInt64 :=
  unionOf ((OPEN_FLAGS_TABLE arch).map Prod.fst) ||| O_ACCMODE

/-- `__O_TMPFILE`: what `O_TMPFILE` has besides `O_DIRECTORY`. -/
def tmpfileBit : UInt64 := 0x400000

section Tables

variable (arch : Libc.Arch)

theorem openFlagValue_listed :
    ∀ entry ∈ OPEN_FLAGS_TABLE arch, openFlagValue arch entry.2 = entry.1 := by
  cases arch <;> decide

theorem openFlags_oneBit :
    ∀ entry ∈ OPEN_FLAGS_TABLE arch, entry.1 = O_TMPFILE_MASK arch ∨
      (OneBit entry.1 ∧ entry.1 &&& tmpfileBit = 0) := by
  cases arch <;> decide

theorem openFlags_disjoint :
    ∀ entry ∈ OPEN_FLAGS_TABLE arch, entry.1 ≠ 0 ∧ entry.1 &&& O_ACCMODE = 0 := by
  cases arch <;> decide

theorem tmpfileMask_eq : O_TMPFILE_MASK arch = tmpfileBit ||| O_DIRECTORY_MASK arch := by
  cases arch <;> decide

theorem openFlags_listed :
    (O_TMPFILE_MASK arch, "O_TMPFILE") ∈ OPEN_FLAGS_TABLE arch ∧
      (O_DIRECTORY_MASK arch, "O_DIRECTORY") ∈ OPEN_FLAGS_TABLE arch := by
  cases arch <;> decide

end Tables

theorem tmpfileBit_oneBit : OneBit tmpfileBit := by decide

/-- The access mode's name has that field as its value, and there is no name for 3. -/
theorem accessMode_value (arch : Libc.Arch) (word : UInt64) :
    (accessModeName word = none ∧ word &&& O_ACCMODE = O_ACCMODE) ∨
      ∃ mode ∈ accessModes, accessModeName word = some mode ∧
        openFlagValue arch mode = word &&& O_ACCMODE ∧ word &&& O_ACCMODE ≠ O_ACCMODE := by
  have values : openFlagValue arch "O_RDONLY" = 0 ∧ openFlagValue arch "O_WRONLY" = 1 ∧
      openFlagValue arch "O_RDWR" = 2 := by
    cases arch <;> decide
  have mask : O_ACCMODE = 3 := rfl
  obtain ⟨readOnly, writeOnly, readWrite⟩ := values
  unfold accessModeName
  split_ifs with zero one two
  · exact .inr ⟨_, by decide, rfl, by rw [readOnly, zero], by rw [zero]; decide⟩
  · exact .inr ⟨_, by decide, rfl, by rw [writeOnly, one], by rw [one]; decide⟩
  · exact .inr ⟨_, by decide, rfl, by rw [readWrite, two], by rw [two]; decide⟩
  · refine .inl ⟨rfl, ?_⟩
    rw [mask] at zero one two ⊢
    have field : (word &&& 3).toNat = word.toNat % 4 := by
      rw [UInt64.toNat_and]
      exact Nat.and_two_pow_sub_one_eq_mod word.toNat 2
    rw [← UInt64.toNat_inj] at zero one two ⊢
    have nothing : (0 : UInt64).toNat = 0 := rfl
    have first : (1 : UInt64).toNat = 1 := rfl
    have second : (2 : UInt64).toNat = 2 := rfl
    have third : (3 : UInt64).toNat = 3 := rfl
    omega

/-- The entries that are named behind the access mode. -/
def namedOpenFlags (arch : Libc.Arch) (word : UInt64) : FlagTable :=
  (OPEN_FLAGS_TABLE arch).filter fun entry =>
    entry.1 ≠ 0 && !(entry.1 = O_DIRECTORY_MASK arch &&
      word &&& O_TMPFILE_MASK arch = O_TMPFILE_MASK arch) && word &&& entry.1 = entry.1

theorem decodeOpenFlags_eq (arch : Libc.Arch) (word : UInt64) :
    decodeOpenFlags arch word =
      (accessModeName word).toList ++ (namedOpenFlags arch word).map Prod.snd := rfl

theorem mem_namedOpenFlags {arch : Libc.Arch} {word : UInt64} {entry : UInt64 × String} :
    entry ∈ namedOpenFlags arch word ↔
      entry ∈ OPEN_FLAGS_TABLE arch ∧ bits entry.1 ⊆ bits word ∧
        ¬ (entry.1 = O_DIRECTORY_MASK arch ∧ bits (O_TMPFILE_MASK arch) ⊆ bits word) := by
  rw [namedOpenFlags, List.mem_filter]
  refine and_congr_right fun listed => ?_
  have nonzero := (openFlags_disjoint arch entry listed).1
  simp only [Bool.and_eq_true, decide_eq_true_eq, Bool.not_eq_true', Bool.and_eq_false_iff,
    decide_eq_false_iff_not, nonzero, ne_eq, not_false_eq_true, true_and, not_and_or,
    and_eq_right_iff]
  exact and_comm

/-- The bits of the word that is read back: those of the access mode, unless it is 3, and
those of every mask that is contained in the word, kept back or not. -/
theorem mem_bits_reencoded (arch : Libc.Arch) (word : UInt64) {index : Nat} :
    index ∈ bits (reencoded arch word) ↔
      (index ∈ bits (word &&& O_ACCMODE) ∧ word &&& O_ACCMODE ≠ O_ACCMODE) ∨
        ∃ entry ∈ OPEN_FLAGS_TABLE arch, bits entry.1 ⊆ bits word ∧ index ∈ bits entry.1 := by
  have field : (∃ mode ∈ (accessModeName word).toList, index ∈ bits (openFlagValue arch mode)) ↔
      index ∈ bits (word &&& O_ACCMODE) ∧ word &&& O_ACCMODE ≠ O_ACCMODE := by
    rcases accessMode_value arch word with ⟨unnamed, three⟩ | ⟨mode, _, named, value, other⟩
    · rw [unnamed, three]
      simp
    · rw [named]
      simp [value, other]
  have names : (∃ name ∈ (namedOpenFlags arch word).map Prod.snd,
      index ∈ bits (openFlagValue arch name)) ↔
      ∃ entry ∈ OPEN_FLAGS_TABLE arch, bits entry.1 ⊆ bits word ∧ index ∈ bits entry.1 := by
    constructor
    · intro found
      obtain ⟨name, listed, member⟩ := found
      obtain ⟨entry, kept, rfl⟩ := List.mem_map.mp listed
      obtain ⟨known, contained, _⟩ := mem_namedOpenFlags.mp kept
      rw [openFlagValue_listed arch entry known] at member
      exact ⟨entry, known, contained, member⟩
    · intro found
      obtain ⟨entry, known, contained, member⟩ := found
      -- The bit of an `O_DIRECTORY` that is kept back is a bit of `O_TMPFILE`.
      by_cases hidden : entry.1 = O_DIRECTORY_MASK arch ∧ bits (O_TMPFILE_MASK arch) ⊆ bits word
      · obtain ⟨directory, tmpfile⟩ := hidden
        have listed := (openFlags_listed arch).1
        have different : O_TMPFILE_MASK arch ≠ O_DIRECTORY_MASK arch := by
          cases arch <;> decide
        refine ⟨"O_TMPFILE", List.mem_map.mpr ⟨_, mem_namedOpenFlags.mpr
          ⟨listed, tmpfile, fun other => different other.1⟩, rfl⟩, ?_⟩
        rw [openFlagValue_listed arch _ listed, tmpfileMask_eq, mem_bits_or, ← directory]
        exact .inr member
      · refine ⟨entry.2, List.mem_map.mpr ⟨entry, mem_namedOpenFlags.mpr
          ⟨known, contained, hidden⟩, rfl⟩, ?_⟩
        rw [openFlagValue_listed arch entry known]
        exact member
  rw [reencoded, decodeOpenFlags_eq, mem_bits_unionOf, ← field, ← names]
  simp only [List.mem_map, List.mem_append, exists_exists_and_eq_and, or_and_right, exists_or]

theorem mem_bits_known {arch : Libc.Arch} {word : UInt64}
    (known : word &&& knownOpenBits arch = word) {index : Nat} (member : index ∈ bits word) :
    index ∈ bits O_ACCMODE ∨ ∃ entry ∈ OPEN_FLAGS_TABLE arch, index ∈ bits entry.1 := by
  rw [← known, mem_bits_and, knownOpenBits, mem_bits_or, mem_bits_unionOf] at member
  rcases member.2 with ⟨mask, listed, inMask⟩ | mode
  · obtain ⟨entry, found, rfl⟩ := List.mem_map.mp listed
    exact .inr ⟨entry, found, inMask⟩
  · exact .inl mode

theorem reencoded_accessMode {arch : Libc.Arch} {word : UInt64}
    (same : reencoded arch word = word) : word &&& O_ACCMODE ≠ O_ACCMODE := by
  intro three
  have inMode : 0 ∈ bits O_ACCMODE := by
    rw [mem_bits]
    rfl
  have inWord : 0 ∈ bits (reencoded arch word) := by
    rw [same]
    exact and_eq_right_iff.mp three inMode
  rcases (mem_bits_reencoded arch word).mp inWord with field | listed
  · exact field.2 three
  · obtain ⟨entry, known, _, inMask⟩ := listed
    have both := mem_bits_and.mpr ⟨inMask, inMode⟩
    rw [(openFlags_disjoint arch entry known).2] at both
    exact not_mem_bits_zero both

theorem reencoded_tmpfile {arch : Libc.Arch} {word : UInt64} (same : reencoded arch word = word)
    (set : word &&& tmpfileBit = tmpfileBit) :
    word &&& O_DIRECTORY_MASK arch = O_DIRECTORY_MASK arch := by
  have inTmpfile : 22 ∈ bits tmpfileBit := by
    rw [mem_bits]
    rfl
  have outside : 22 ∉ bits O_ACCMODE := by
    rw [mem_bits]
    exact Bool.false_ne_true
  have inWord : 22 ∈ bits (reencoded arch word) := by
    rw [same]
    exact and_eq_right_iff.mp set inTmpfile
  rcases (mem_bits_reencoded arch word).mp inWord with field | listed
  · exact absurd (mem_bits_and.mp field.1).2 outside
  · obtain ⟨entry, known, contained, inMask⟩ := listed
    rcases openFlags_oneBit arch entry known with tmpfile | ⟨_, disjoint⟩
    · rw [tmpfile, tmpfileMask_eq] at contained
      exact and_eq_right_iff.mpr fun index member => contained (mem_bits_or.mpr (.inr member))
    · have both := mem_bits_and.mpr ⟨inMask, inTmpfile⟩
      rw [disjoint] at both
      exact absurd both not_mem_bits_zero

/-- Bit by bit: what the word has and the names know is found in the names. -/
theorem reencoded_eq {arch : Libc.Arch} {word : UInt64}
    (known : word &&& knownOpenBits arch = word) (mode : word &&& O_ACCMODE ≠ O_ACCMODE)
    (tmpfile : word &&& tmpfileBit = tmpfileBit →
      word &&& O_DIRECTORY_MASK arch = O_DIRECTORY_MASK arch) :
    reencoded arch word = word := by
  apply bits_injective
  ext index
  rw [mem_bits_reencoded]
  constructor
  · intro found
    rcases found with ⟨field, _⟩ | ⟨entry, _, contained, inMask⟩
    · exact (mem_bits_and.mp field).1
    · exact contained inMask
  · intro inWord
    rcases mem_bits_known known inWord with field | ⟨entry, listed, inMask⟩
    · exact .inl ⟨mem_bits_and.mpr ⟨inWord, field⟩, mode⟩
    · refine .inr ?_
      rcases openFlags_oneBit arch entry listed with isTmpfile | ⟨one, _⟩
      · rw [isTmpfile, tmpfileMask_eq, mem_bits_or] at inMask
        obtain ⟨tmpfileListed, directoryListed⟩ := openFlags_listed arch
        rcases inMask with own | directory
        · have set := tmpfileBit_oneBit.subset own inWord
          have directorySet := and_eq_right_iff.mp (tmpfile (and_eq_right_iff.mpr set))
          refine ⟨_, tmpfileListed, ?_, ?_⟩
          · intro other member
            rw [tmpfileMask_eq] at member
            exact (mem_bits_or.mp member).elim (fun first => set first)
              fun second => directorySet second
          · rw [tmpfileMask_eq]
            exact mem_bits_or.mpr (.inl own)
        · rcases openFlags_oneBit arch _ directoryListed with same | ⟨one, _⟩
          · exact absurd same (by cases arch <;> decide)
          · exact ⟨_, directoryListed, one.subset directory inWord, directory⟩
      · exact ⟨entry, listed, one.subset inMask inWord, inMask⟩

theorem openFlags_nodup (arch : Libc.Arch) (word : UInt64) :
    (decodeOpenFlags arch word).Nodup := by
  rw [decodeOpenFlags_eq, List.nodup_append']
  refine ⟨?_, ?_, ?_⟩
  · cases accessModeName word with
    | none => exact List.nodup_nil
    | some mode => exact List.nodup_singleton mode
  · exact (FlagArgument.openatFlags.distinct arch).sublist (List.filter_sublist.map Prod.snd)
  · intro name isMode listed
    obtain ⟨entry, found, rfl⟩ := List.mem_map.mp listed
    exact (openFlags_names arch entry (mem_namedOpenFlags.mp found).1).2
      (accessModeName_mem isMode)

theorem openFlags_accessMode (arch : Libc.Arch) (word : UInt64) :
    ∃ rest, (∀ name ∈ rest, name ∉ accessModes) ∧
      ((word &&& O_ACCMODE = O_ACCMODE ∧ decodeOpenFlags arch word = rest) ∨
        ∃ mode ∈ accessModes, word &&& O_ACCMODE ≠ O_ACCMODE ∧
          decodeOpenFlags arch word = mode :: rest) := by
  refine ⟨(namedOpenFlags arch word).map Prod.snd, ?_, ?_⟩
  · intro name listed
    obtain ⟨entry, found, rfl⟩ := List.mem_map.mp listed
    exact (openFlags_names arch entry (mem_namedOpenFlags.mp found).1).2
  · rw [decodeOpenFlags_eq]
    rcases accessMode_value arch word with ⟨unnamed, three⟩ | ⟨mode, isMode, named, _, other⟩
    · rw [unnamed]
      exact .inl ⟨three, rfl⟩
    · rw [named]
      exact .inr ⟨mode, isMode, other, rfl⟩

theorem openFlags_exclusive (arch : Libc.Arch) (word : UInt64) :
    ¬ ("O_DIRECTORY" ∈ decodeOpenFlags arch word ∧ "O_TMPFILE" ∈ decodeOpenFlags arch word) := by
  intro both
  obtain ⟨directory, tmpfile⟩ := both
  have distinct := FlagArgument.openatFlags.distinct arch
  obtain ⟨tmpfileListed, directoryListed⟩ := openFlags_listed arch
  have shown := (mem_decodeOpenFlags_iff distinct directoryListed
    (openFlags_disjoint arch _ directoryListed).1 word).mp directory
  have set := (mem_decodeOpenFlags_iff distinct tmpfileListed
    (openFlags_disjoint arch _ tmpfileListed).1 word).mp tmpfile
  exact shown.2 ⟨rfl, set.1⟩

/-- A word of known bits is read back from its names exactly if its access mode is one of
the three, and `__O_TMPFILE` comes with the `O_DIRECTORY` that makes it `O_TMPFILE`. Of
every word, no name comes twice, an access mode comes first or not at all, and
`O_DIRECTORY` does not come beside `O_TMPFILE`. -/
theorem openFlags_read_back (arch : Libc.Arch) (word : UInt64) :
    (word &&& knownOpenBits arch = word →
      (reencoded arch word = word ↔
        word &&& O_ACCMODE ≠ O_ACCMODE ∧
          (word &&& tmpfileBit = tmpfileBit →
            word &&& O_DIRECTORY_MASK arch = O_DIRECTORY_MASK arch))) ∧
    (decodeOpenFlags arch word).Nodup ∧
    (∃ rest, (∀ name ∈ rest, name ∉ accessModes) ∧
      ((word &&& O_ACCMODE = O_ACCMODE ∧ decodeOpenFlags arch word = rest) ∨
        ∃ mode ∈ accessModes, word &&& O_ACCMODE ≠ O_ACCMODE ∧
          decodeOpenFlags arch word = mode :: rest)) ∧
    ¬ ("O_DIRECTORY" ∈ decodeOpenFlags arch word ∧
      "O_TMPFILE" ∈ decodeOpenFlags arch word) := by
  refine ⟨?_, openFlags_nodup arch word, openFlags_accessMode arch word,
    openFlags_exclusive arch word⟩
  intro known
  constructor
  · intro same
    exact ⟨reencoded_accessMode same, reencoded_tmpfile same⟩
  · intro condition
    obtain ⟨mode, tmpfile⟩ := condition
    exact reencoded_eq known mode tmpfile

/-- An unnamed temporary file, created for reading and writing. -/
theorem openFlags_read_back_tmpfile :
    decodeOpenFlags .x86_64 0x490002 = ["O_RDWR", "O_CLOEXEC", "O_TMPFILE"] ∧
      reencoded .x86_64 0x490002 = 0x490002 := by
  have readBack := (openFlags_read_back .x86_64 0x490002).1 (by decide)
  exact ⟨by decide, readBack.mpr ⟨by decide, fun _ => by decide⟩⟩

/-- Two words of known bits that are not read back. -/
theorem openFlags_lost :
    ((0x400000 : UInt64) &&& knownOpenBits .x86_64 = 0x400000 ∧
      decodeOpenFlags .x86_64 0x400000 = ["O_RDONLY"] ∧ reencoded .x86_64 0x400000 = 0) ∧
    ((3 : UInt64) &&& knownOpenBits .x86_64 = 3 ∧
      decodeOpenFlags .x86_64 3 = [] ∧ reencoded .x86_64 3 = 0) := by
  decide

end Loi.Syscalls
