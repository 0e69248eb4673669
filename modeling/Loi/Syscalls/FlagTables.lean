import Mathlib.Data.List.Basic
import Loi.Foundation.Masks
import Loi.Syscalls.Decoder

/-! What `decode_flags` reads off a word, for any table: the names of the entries within the
word, which put together again are the largest part of it that the table can express. -/

set_option autoImplicit false

namespace Loi.Syscalls

open Foundation

/-- The entries with a mask other than zero that is contained in the word. -/
def entriesWithin (table : FlagTable) (word : UInt64) : FlagTable :=
  table.filter fun entry => entry.1 ≠ 0 ∧ bits entry.1 ⊆ bits word

/-- Their masks, put together again. -/
def expressed (table : FlagTable) (word : UInt64) : UInt64 :=
  unionOf ((entriesWithin table word).map Prod.fst)

/-- The entries that can be named at all. -/
def Flag (table : FlagTable) : Type :=
  {entry : UInt64 × String // entry ∈ table ∧ entry.1 ≠ 0}

def Flag.mask {table : FlagTable} (flag : Flag table) : UInt64 :=
  flag.val.1

section Entries

variable {table : FlagTable} {word : UInt64} {entry : UInt64 × String}

theorem mem_entriesWithin :
    entry ∈ entriesWithin table word ↔
      entry ∈ table ∧ entry.1 ≠ 0 ∧ bits entry.1 ⊆ bits word := by
  rw [entriesWithin, List.mem_filter, decide_eq_true_eq]

theorem entriesWithin_zero : entriesWithin table 0 = [] := by
  apply List.eq_nil_iff_forall_not_mem.mpr
  intro entry member
  obtain ⟨_, nonzero, contained⟩ := mem_entriesWithin.mp member
  rw [← and_eq_right_iff, UInt64.zero_and] at contained
  exact nonzero contained.symm

/-- The fast path for zero changes nothing. -/
theorem decodeFlags_eq (word : UInt64) (table : FlagTable) :
    decodeFlags word table = (entriesWithin table word).map Prod.snd := by
  unfold decodeFlags
  split
  · rename_i empty
    rw [empty, entriesWithin_zero, List.map_nil]
  · refine congrArg (List.map Prod.snd) (List.filter_congr fun entry _ => ?_)
    rw [Bool.eq_iff_iff, Bool.and_eq_true, decide_eq_true_eq, decide_eq_true_eq,
      decide_eq_true_eq, and_eq_right_iff]

theorem entriesWithin_mono {larger : UInt64} (more : bits word ⊆ bits larger) :
    (entriesWithin table word).Sublist (entriesWithin table larger) := by
  refine List.monotone_filter_right table fun entry within => ?_
  obtain ⟨nonzero, contained⟩ := of_decide_eq_true within
  exact decide_eq_true ⟨nonzero, contained.trans more⟩

end Entries

section Expressed

variable (table : FlagTable) (word : UInt64)

/-- Decoding and putting together again are the two adjoints, for the flags of the table. -/
theorem bits_expressed :
    bits (expressed table word) = covered Flag.mask (contained (@Flag.mask table) (bits word)) := by
  ext index
  rw [expressed, mem_bits_unionOf, mem_covered]
  constructor
  · intro found
    obtain ⟨mask, listed, inMask⟩ := found
    obtain ⟨entry, selected, rfl⟩ := List.mem_map.mp listed
    obtain ⟨member, nonzero, within⟩ := mem_entriesWithin.mp selected
    exact ⟨⟨entry, member, nonzero⟩, within, inMask⟩
  · intro found
    obtain ⟨⟨entry, member, nonzero⟩, within, inMask⟩ := found
    exact ⟨entry.1, List.mem_map.mpr ⟨entry, mem_entriesWithin.mpr ⟨member, nonzero, within⟩, rfl⟩,
      inMask⟩

theorem expressed_subset : bits (expressed table word) ⊆ bits word := by
  rw [bits_expressed]
  exact (covered_contained Flag.mask).l_u_le (bits word)

/-- A flag is within what is expressed if it is within the word. -/
theorem subset_expressed_iff {entry : UInt64 × String} (listed : entry ∈ table)
    (nonzero : entry.1 ≠ 0) :
    bits entry.1 ⊆ bits (expressed table word) ↔ bits entry.1 ⊆ bits word := by
  have same := (covered_contained (@Flag.mask table)).u_l_u_eq_u (bits word)
  rw [← bits_expressed] at same
  exact Set.ext_iff.mp same ⟨entry, listed, nonzero⟩

theorem entriesWithin_expressed :
    entriesWithin table (expressed table word) = entriesWithin table word := by
  refine List.filter_congr fun entry listed => decide_eq_decide.mpr ?_
  exact and_congr_right fun nonzero => subset_expressed_iff table word listed nonzero

/-- Only a union of flags is expressed whole. -/
theorem expressed_eq_iff :
    expressed table word = word ↔
      ∃ masks : List UInt64,
        (∀ mask ∈ masks, mask ≠ 0 ∧ mask ∈ table.map Prod.fst) ∧ unionOf masks = word := by
  constructor
  · intro whole
    refine ⟨(entriesWithin table word).map Prod.fst, ?_, whole⟩
    intro mask selected
    obtain ⟨entry, within, rfl⟩ := List.mem_map.mp selected
    obtain ⟨listed, nonzero, _⟩ := mem_entriesWithin.mp within
    exact ⟨nonzero, List.mem_map_of_mem listed⟩
  · intro found
    obtain ⟨masks, known, rfl⟩ := found
    have union : bits (unionOf masks) =
        covered (@Flag.mask table) {flag | flag.mask ∈ masks} := by
      ext index
      rw [mem_bits_unionOf, mem_covered]
      constructor
      · intro inSome
        obtain ⟨mask, chosen, inMask⟩ := inSome
        obtain ⟨nonzero, listed⟩ := known mask chosen
        obtain ⟨entry, member, rfl⟩ := List.mem_map.mp listed
        exact ⟨⟨entry, member, nonzero⟩, chosen, inMask⟩
      · intro inSome
        obtain ⟨flag, chosen, inMask⟩ := inSome
        exact ⟨flag.mask, chosen, inMask⟩
    apply bits_injective
    rw [bits_expressed]
    exact ((covered_contained Flag.mask).exists_eq_l _).mp ⟨_, union⟩ |>.symm

end Expressed

/-- Whatever the table and the word, `decode_flags` names, in the order of the table, the
entries within the word. They express nothing that is not in the word and all of it that the
table can express, are what is decoded from that again, only grow with the word, and express
the whole of it exactly if it is a union of flags. -/
theorem decodeFlags_reading (table : FlagTable) (word : UInt64) :
    decodeFlags word table = (entriesWithin table word).map Prod.snd ∧
    (entriesWithin table word).Sublist table ∧
    (∀ entry, entry ∈ entriesWithin table word ↔
      entry ∈ table ∧ entry.1 ≠ 0 ∧ word &&& entry.1 = entry.1) ∧
    bits (expressed table word) ⊆ bits word ∧
    (∀ entry ∈ table, entry.1 ≠ 0 → bits entry.1 ⊆ bits word →
      bits entry.1 ⊆ bits (expressed table word)) ∧
    entriesWithin table (expressed table word) = entriesWithin table word ∧
    decodeFlags (expressed table word) table = decodeFlags word table ∧
    (∀ larger, bits word ⊆ bits larger →
      (entriesWithin table word).Sublist (entriesWithin table larger) ∧
        (decodeFlags word table).Sublist (decodeFlags larger table)) ∧
    (expressed table word = word ↔
      ∃ masks : List UInt64,
        (∀ mask ∈ masks, mask ≠ 0 ∧ mask ∈ table.map Prod.fst) ∧ unionOf masks = word) := by
  have again := entriesWithin_expressed table word
  refine ⟨decodeFlags_eq word table, List.filter_sublist, ?_, expressed_subset table word, ?_,
    again, ?_, ?_, expressed_eq_iff table word⟩
  · intro entry
    rw [mem_entriesWithin, and_eq_right_iff]
  · intro entry listed nonzero within
    exact (subset_expressed_iff table word listed nonzero).mpr within
  · rw [decodeFlags_eq, decodeFlags_eq, again]
  · intro larger more
    have grows : (entriesWithin table word).Sublist (entriesWithin table larger) :=
      entriesWithin_mono more
    rw [decodeFlags_eq, decodeFlags_eq]
    exact ⟨grows, grows.map Prod.snd⟩

/-- A mask within another one is named beside it or, as here, without it. -/
example :
    let table : FlagTable := [(0, "NONE"), (7, "ALL"), (3, "BASIC"), (1, "TYPE")]
    decodeFlags 11 table = ["BASIC", "TYPE"] ∧ expressed table 11 = 3 := by
  decide

end Loi.Syscalls
