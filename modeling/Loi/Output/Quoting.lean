import Loi.Foundation.Escapes
import Loi.Output.Truncation

/-! Quoted arguments can be read back from the line. -/

set_option autoImplicit false

namespace Loi.Output

open Nix Foundation Memory Syscalls

theorem quoted_eq_quotedChars (text : String) : (quoted text).toList = quotedChars text := by
  rw [quoted_toList, escapeDefault, String.toList_ofList, quotedChars, List.cons_append]

theorem renderPath_injective : Function.Injective fun text => renderArgText (.path text) := by
  intro left right same
  apply quotedChars_selfDelimiting.injective
  rw [← quoted_eq_quotedChars, ← quoted_eq_quotedChars]
  exact congrArg String.toList same

/-- The entries stand between the brackets as quoted texts with `, ` between them. -/
theorem renderArgv_toList (entries : List String) :
    (renderArgText (.argv entries)).toList =
      '[' :: (List.intercalate [',', ' '] (entries.map quotedChars) ++ [']']) := by
  have quotes : (entries.map quoted).map String.toList = entries.map quotedChars := by
    rw [List.map_map]
    exact List.map_congr_left fun entry _ => quoted_eq_quotedChars entry
  rw [renderArgText, String.toList_append, String.toList_append, toList_join, quotes]
  rfl

theorem renderArgv_injective : Function.Injective fun entries => renderArgText (.argv entries) := by
  have entries := quotedChars_selfDelimiting.intercalate_until [' '] (by decide : ',' ≠ ']')
    (quotedChars_neverStarts (by decide))
  intro left right same
  apply (entries.cons '[').injective
  have chars := congrArg String.toList same
  dsimp only at chars
  rw [renderArgv_toList, renderArgv_toList] at chars
  exact chars

/-- A buffer's text and what follows it: the marker is outside of the quotation marks. -/
theorem renderBytes_toList (inline : List UInt8) (total : Nat) :
    (renderArgText (.bytes inline total)).toList =
      quotedChars (fromUtf8Lossy inline) ++
        if inline.length < total then ['.', '.', '.'] else [] := by
  rw [renderArgText, String.toList_append, quoted_eq_quotedChars]
  split <;> rfl

theorem renderBytes_determines {inline inline' : List UInt8} {total total' : Nat}
    (valid : (fromUtf8 inline).isSome) (valid' : (fromUtf8 inline').isSome)
    (same : renderArgText (.bytes inline total) = renderArgText (.bytes inline' total')) :
    inline = inline' ∧ (inline.length < total ↔ inline'.length < total') := by
  have chars := congrArg String.toList same
  rw [renderBytes_toList, renderBytes_toList] at chars
  obtain ⟨text, marker⟩ := quotedChars_selfDelimiting chars
  refine ⟨fromUtf8Lossy_injective valid valid' text, ?_⟩
  split_ifs at marker with short short' short'
  · exact iff_of_true short short'
  · exact iff_of_false short short'

/-- Paths, argument vectors and buffers of valid UTF-8 are told apart by their texts, and
so are buffers that are truncated from those that are not. -/
theorem renderArgText_read_back :
    (Function.Injective fun text => renderArgText (.path text)) ∧
    (Function.Injective fun entries => renderArgText (.argv entries)) ∧
    ∀ (inline inline' : List UInt8) (total total' : Nat),
      (fromUtf8 inline).isSome → (fromUtf8 inline').isSome →
      renderArgText (.bytes inline total) = renderArgText (.bytes inline' total') →
        inline = inline' ∧ (inline.length < total ↔ inline'.length < total') :=
  ⟨renderPath_injective, renderArgv_injective, fun _ _ _ _ => renderBytes_determines⟩

/-- One entry that imitates two, and a payload that imitates the marker. -/
theorem renderArgText_read_back_imitations :
    renderArgText (.argv ["a\", \"b"]) ≠ renderArgText (.argv ["a", "b"]) ∧
    renderArgText (.bytes [97, 34, 46, 46, 46] 5) ≠ renderArgText (.bytes [97] 5) := by
  obtain ⟨_, vectors, buffers⟩ := renderArgText_read_back
  constructor
  · intro same
    exact absurd (vectors same) (by decide)
  · intro same
    exact absurd (buffers _ _ _ _ (by decide) (by decide) same).1 (by decide)

end Loi.Output
