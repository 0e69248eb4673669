import Mathlib.Algebra.Group.Nat.Defs
import Mathlib.Data.Set.Lattice
import Mathlib.Order.CompletePartialOrder
import Mathlib.Order.GaloisConnection.Basic

/-! Words as the sets of their bits: a mask is contained in a word when its bits are, and
the union of masks has the bits of all of them. Putting masks together and taking a word
apart into masks are adjoint. -/

set_option autoImplicit false

namespace Foundation

/-- The positions of the bits that are set. -/
def bits (word : UInt64) : Set Nat :=
  {index | word.toNat.testBit index = true}

theorem mem_bits {word : UInt64} {index : Nat} :
    index ∈ bits word ↔ word.toNat.testBit index = true := Iff.rfl

@[simp] theorem mem_bits_and {left right : UInt64} {index : Nat} :
    index ∈ bits (left &&& right) ↔ index ∈ bits left ∧ index ∈ bits right := by
  simp [mem_bits]

@[simp] theorem mem_bits_or {left right : UInt64} {index : Nat} :
    index ∈ bits (left ||| right) ↔ index ∈ bits left ∨ index ∈ bits right := by
  simp [mem_bits]

@[simp] theorem not_mem_bits_zero {index : Nat} : index ∉ bits 0 := by
  simp [mem_bits]

theorem bits_injective {left right : UInt64} (same : bits left = bits right) : left = right := by
  apply UInt64.toNat_inj.mp
  apply Nat.eq_of_testBit_eq
  intro index
  exact Bool.eq_iff_iff.mpr (Set.ext_iff.mp same index)

theorem and_eq_right_iff {word mask : UInt64} :
    word &&& mask = mask ↔ bits mask ⊆ bits word := by
  constructor
  · intro contained index member
    rw [← contained, mem_bits_and] at member
    exact member.1
  · intro subset
    apply bits_injective
    ext index
    rw [mem_bits_and]
    exact and_iff_right_of_imp fun member => subset member

/-- The `|` of masks. -/
def unionOf (masks : List UInt64) : UInt64 :=
  masks.foldr (· ||| ·) 0

theorem mem_bits_unionOf {masks : List UInt64} {index : Nat} :
    index ∈ bits (unionOf masks) ↔ ∃ mask ∈ masks, index ∈ bits mask := by
  induction masks with
  | nil => simp [unionOf]
  | cons mask rest ih =>
      have unfolded : unionOf (mask :: rest) = mask ||| unionOf rest := rfl
      rw [unfolded, mem_bits_or, ih]
      simp only [List.mem_cons, exists_eq_or_imp]

instance (mask word : UInt64) : Decidable (bits mask ⊆ bits word) :=
  decidable_of_iff _ and_eq_right_iff

section Families

variable {Entry : Type*} (mask : Entry → UInt64)

/-- The bits of the masks of some entries. -/
def covered (chosen : Set Entry) : Set Nat :=
  ⋃ entry ∈ chosen, bits (mask entry)

/-- The entries whose masks are contained in a set of bits. -/
def contained (known : Set Nat) : Set Entry :=
  {entry | bits (mask entry) ⊆ known}

theorem mem_covered {chosen : Set Entry} {index : Nat} :
    index ∈ covered mask chosen ↔ ∃ entry ∈ chosen, index ∈ bits (mask entry) := by
  simp only [covered, Set.mem_iUnion, exists_prop]

theorem covered_contained : GaloisConnection (covered mask) (contained mask) :=
  fun _ _ => Set.iUnion₂_subset_iff

end Families

/-- A mask of one bit. -/
def OneBit (mask : UInt64) : Prop :=
  mask.toNat = 2 ^ mask.toNat.log2

instance (mask : UInt64) : Decidable (OneBit mask) :=
  inferInstanceAs (Decidable (_ = _))

/-- A word that has a bit of such a mask has all of it. -/
theorem OneBit.subset {mask word : UInt64} (one : OneBit mask) {index : Nat}
    (inMask : index ∈ bits mask) (inWord : index ∈ bits word) : bits mask ⊆ bits word := by
  have only : ∀ {other : Nat}, other ∈ bits mask → mask.toNat.log2 = other := by
    intro other member
    rw [mem_bits, one, Nat.testBit_two_pow] at member
    exact of_decide_eq_true member
  intro other member
  rwa [← only member, only inMask]

/-- Of a word, a mask of the low half sees the low half. -/
theorem and_eq_of_low {word mask : UInt64} (low : mask.toNat < 2 ^ 32) :
    word &&& mask = word.toUInt32.toUInt64 &&& mask := by
  apply bits_injective
  ext index
  rw [mem_bits_and, mem_bits_and]
  refine and_congr_left fun member => ?_
  have small : index < 32 := by
    by_contra high
    have bound : mask.toNat < 2 ^ index :=
      Nat.lt_of_lt_of_le low (Nat.pow_le_pow_right (by decide) (Nat.le_of_not_lt high))
    rw [mem_bits, Nat.testBit_lt_two_pow bound] at member
    cases member
  rw [mem_bits, mem_bits, UInt32.toNat_toUInt64, UInt64.toNat_toUInt32, Nat.testBit_mod_two_pow]
  simp [small]

end Foundation
