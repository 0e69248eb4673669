import Loi.Foundation.Codes
import Loi.Foundation.Text

/-! Escaped text between quotation marks is a code that can be read from the left. -/

set_option autoImplicit false

namespace Foundation

theorem toDigits_sixteen (value : Nat) :
    Nat.toDigits 16 value =
      if value < 16 then [Nat.digitChar value]
      else Nat.toDigits 16 (value / 16) ++ [Nat.digitChar (value % 16)] :=
  Nat.toDigits_eq_if (by decide)

theorem digitChar_injective :
    ∀ left < 16, ∀ right < 16, Nat.digitChar left = Nat.digitChar right → left = right := by
  decide

theorem toDigits_injective {left right : Nat}
    (same : Nat.toDigits 16 left = Nat.toDigits 16 right) : left = right := by
  induction left using Nat.strongRecOn generalizing right with
  | ind left ih =>
      rw [toDigits_sixteen left, toDigits_sixteen right] at same
      split_ifs at same with small small' small'
      · exact digitChar_injective left small right small' (List.cons.inj same).1
      · have more : 0 < (Nat.toDigits 16 (right / 16)).length := Nat.length_toDigits_pos
        have lengths := congrArg List.length same
        rw [List.length_append, List.length_singleton, List.length_singleton] at lengths
        omega
      · have more : 0 < (Nat.toDigits 16 (left / 16)).length := Nat.length_toDigits_pos
        have lengths := congrArg List.length same
        rw [List.length_append, List.length_singleton, List.length_singleton] at lengths
        omega
      · obtain ⟨early, last⟩ := List.append_inj' same rfl
        have quotient := ih (left / 16) (Nat.div_lt_self (by omega) (by decide)) early
        have remainder := digitChar_injective (left % 16) (Nat.mod_lt _ (by decide)) (right % 16)
          (Nat.mod_lt _ (by decide)) (List.cons.inj last).1
        omega

theorem brace_not_mem_toDigits (value : Nat) : '\x7d' ∉ Nat.toDigits 16 value := by
  have digits : ∀ digit < 16, Nat.digitChar digit ≠ '\x7d' := by decide
  induction value using Nat.strongRecOn with
  | ind value ih =>
      rw [toDigits_sixteen]
      split
      · rename_i small
        rw [List.mem_singleton]
        exact (digits value small).symm
      · rename_i large
        rw [List.mem_append, List.mem_singleton]
        rintro (early | last)
        · exact ih _ (Nat.div_lt_self (by omega) (by decide)) early
        · exact digits _ (Nat.mod_lt _ (by decide)) last.symm

/-- The character that stands behind a backslash for this one. -/
def shortEscaped (letter : Char) : Char :=
  if letter = 't' then '\t' else if letter = 'r' then '\r' else if letter = 'n' then '\n' else letter

theorem escapeDefaultChar_cases (c : Char) :
    (∃ letter, escapeDefaultChar c = ['\\', letter] ∧ letter ≠ 'u' ∧ c = shortEscaped letter) ∨
      (escapeDefaultChar c = [c] ∧ c ≠ '\\' ∧ c ≠ '"') ∨
      escapeDefaultChar c = '\\' :: 'u' :: '\x7b' :: (Nat.toDigits 16 c.toNat ++ ['\x7d']) := by
  unfold escapeDefaultChar
  split_ifs with tab ret newline special printable
  · exact .inl ⟨'t', rfl, by decide, tab⟩
  · exact .inl ⟨'r', rfl, by decide, ret⟩
  · exact .inl ⟨'n', rfl, by decide, newline⟩
  · refine .inl ⟨c, rfl, ?_, ?_⟩
    · rcases special with rfl | rfl | rfl <;> decide
    · rcases special with rfl | rfl | rfl <;> decide
  · exact .inr (.inl ⟨rfl, fun backslash => special (.inr (.inr backslash)),
      fun quote => special (.inr (.inl quote))⟩)
  · exact .inr (.inr rfl)

/-- Behind a backslash comes one letter, or a `u` and digits up to the brace. -/
theorem escapeDefaultChar_selfDelimiting : SelfDelimiting escapeDefaultChar := by
  intro left right after after' same
  rcases escapeDefaultChar_cases left with ⟨letter, short, notHex, isShort⟩ |
    ⟨plain, notBackslash, _⟩ | hex
  · rcases escapeDefaultChar_cases right with ⟨letter', short', notHex', isShort'⟩ |
      ⟨plain', notBackslash', _⟩ | hex'
    · rw [short, short'] at same
      simp only [List.cons_append, List.nil_append, List.cons.injEq, true_and] at same
      rw [isShort, isShort', same.1]
      exact ⟨rfl, same.2⟩
    · rw [short, plain'] at same
      exact absurd (List.cons.inj same).1.symm notBackslash'
    · rw [short, hex'] at same
      exact absurd (List.cons.inj (List.cons.inj same).2).1 notHex
  · rcases escapeDefaultChar_cases right with ⟨letter', short', notHex', isShort'⟩ |
      ⟨plain', notBackslash', _⟩ | hex'
    · rw [plain, short'] at same
      exact absurd (List.cons.inj same).1 notBackslash
    · rw [plain, plain'] at same
      exact List.cons.inj same
    · rw [plain, hex'] at same
      exact absurd (List.cons.inj same).1 notBackslash
  · rcases escapeDefaultChar_cases right with ⟨letter', short', notHex', isShort'⟩ |
      ⟨plain', notBackslash', _⟩ | hex'
    · rw [hex, short'] at same
      exact absurd (List.cons.inj (List.cons.inj same).2).1.symm notHex'
    · rw [hex, plain'] at same
      exact absurd (List.cons.inj same).1.symm notBackslash'
    · rw [hex, hex'] at same
      simp only [List.cons_append, List.append_assoc, List.nil_append, List.cons.injEq,
        true_and] at same
      have digits := until_unique (brace_not_mem_toDigits _) (brace_not_mem_toDigits _) same
      rw [digits] at same
      exact ⟨Char.toNat_inj.mp (toDigits_injective digits),
        (List.cons.inj (List.append_cancel_left same)).2⟩

/-- A quotation mark in the text is behind a backslash. -/
theorem escapeDefaultChar_neverStarts : NeverStarts escapeDefaultChar '"' := by
  intro c after rest same
  rcases escapeDefaultChar_cases c with ⟨letter, short, _⟩ | ⟨plain, _, notQuote⟩ | hex
  · rw [short] at same
    exact absurd (List.cons.inj same).1 (by decide)
  · rw [plain] at same
    exact notQuote (List.cons.inj same).1
  · rw [hex] at same
    exact absurd (List.cons.inj same).1 (by decide)

/-- An escaped text between quotation marks. -/
def quotedChars (text : String) : List Char :=
  '"' :: (text.toList.flatMap escapeDefaultChar ++ ['"'])

theorem quotedChars_selfDelimiting : SelfDelimiting quotedChars := by
  have texts := escapeDefaultChar_selfDelimiting.flatMap_until escapeDefaultChar_neverStarts
  exact (texts.comp fun _ _ same => String.toList_inj.mp same).cons '"'

theorem quotedChars_neverStarts {stop : Char} (other : stop ≠ '"') :
    NeverStarts quotedChars stop := by
  intro text after rest same
  exact other (List.cons.inj same).1.symm

end Foundation
