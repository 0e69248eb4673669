import Mathlib.Data.List.Basic

/-! Codes that can be read from the left: where a code word ends is seen from the word
itself, whatever follows it. -/

set_option autoImplicit false

namespace Foundation

variable {Item Other Letter : Type}

/-- A word, and what follows it, are determined by the two together. -/
def SelfDelimiting (write : Item → List Letter) : Prop :=
  ∀ ⦃left right : Item⦄ ⦃after after' : List Letter⦄,
    write left ++ after = write right ++ after' → left = right ∧ after = after'

/-- No word starts with `stop`, and none is empty. -/
def NeverStarts (write : Item → List Letter) (stop : Letter) : Prop :=
  ∀ item after rest, write item ++ after ≠ stop :: rest

namespace SelfDelimiting

variable {write : Item → List Letter}

theorem injective (code : SelfDelimiting write) : Function.Injective write := by
  intro left right same
  have behind : write left ++ [] = write right ++ [] := by rw [same]
  exact (code behind).1

theorem comp (code : SelfDelimiting write) {embed : Other → Item}
    (injective : Function.Injective embed) : SelfDelimiting fun other => write (embed other) := by
  intro left right after after' same
  obtain ⟨embedded, rest⟩ := code same
  exact ⟨injective embedded, rest⟩

theorem cons (code : SelfDelimiting write) (first : Letter) :
    SelfDelimiting fun item => first :: write item := by
  intro left right after after' same
  exact code (List.cons.inj same).2

/-- Words one after the other, up to a letter that starts none of them. -/
theorem flatMap_until (code : SelfDelimiting write) {stop : Letter}
    (free : NeverStarts write stop) :
    SelfDelimiting fun items : List Item => items.flatMap write ++ [stop] := by
  intro left right after after' same
  simp only [List.append_assoc, List.singleton_append] at same
  induction left generalizing right with
  | nil =>
      cases right with
      | nil => exact ⟨rfl, (List.cons.inj same).2⟩
      | cons item right =>
          rw [List.flatMap_nil, List.nil_append, List.flatMap_cons, List.append_assoc] at same
          exact absurd same.symm (free item _ _)
  | cons item left ih =>
      cases right with
      | nil =>
          rw [List.flatMap_nil, List.nil_append, List.flatMap_cons, List.append_assoc] at same
          exact absurd same (free item _ _)
      | cons other right =>
          rw [List.flatMap_cons, List.flatMap_cons, List.append_assoc, List.append_assoc] at same
          obtain ⟨rfl, later⟩ := code same
          obtain ⟨rfl, rest⟩ := ih later
          exact ⟨rfl, rest⟩

/-- Words with a separator between them, up to a letter that starts neither. -/
theorem intercalate_until (code : SelfDelimiting write) {next stop : Letter}
    (separator : List Letter) (different : next ≠ stop) (free : NeverStarts write stop) :
    SelfDelimiting fun items : List Item =>
      List.intercalate (next :: separator) (items.map write) ++ [stop] := by
  intro left right after after' same
  simp only [List.append_assoc, List.singleton_append] at same
  -- Behind a word there is the separator or the end, and its first letter tells which.
  have behind : ∀ (item : Item) (items : List Item) (after : List Letter),
      List.intercalate (next :: separator) ((item :: items).map write) ++ stop :: after =
        write item ++ match items with
          | [] => stop :: after
          | _ => next :: (separator ++
              (List.intercalate (next :: separator) (items.map write) ++ stop :: after)) := by
    intro item items after
    cases items with
    | nil => rw [List.map_singleton, List.intercalate_singleton]
    | cons other rest =>
        rw [List.map_cons, List.map_cons, List.intercalate_cons_cons]
        simp
  induction left generalizing right with
  | nil =>
      cases right with
      | nil => exact ⟨rfl, (List.cons.inj same).2⟩
      | cons item right =>
          rw [behind item right] at same
          exact absurd same.symm (free item _ _)
  | cons item left ih =>
      cases right with
      | nil =>
          rw [behind item left] at same
          exact absurd same (free item _ _)
      | cons other right =>
          rw [behind item left, behind other right] at same
          obtain ⟨rfl, later⟩ := code same
          cases left with
          | nil =>
              cases right with
              | nil => exact ⟨rfl, (List.cons.inj later).2⟩
              | cons second right => exact absurd (List.cons.inj later).1.symm different
          | cons second left =>
              cases right with
              | nil => exact absurd (List.cons.inj later).1 different
              | cons third right =>
                  obtain ⟨rest, ends⟩ := ih (List.append_cancel_left (List.cons.inj later).2)
                  exact ⟨by rw [rest], ends⟩

end SelfDelimiting

end Foundation
