import Mathlib.Data.List.TakeDrop
import Loi.Foundation.Escapes

/-! A reader for fields that are separated by commas and closed by a parenthesis, where
neither counts inside of quotation marks or of a bracketed list. -/

set_option autoImplicit false

namespace Foundation

/-- Where the reader stands in a field. -/
inductive Place where
  | bare
  | list
  | text (inList : Bool)
  | escaped (inList : Bool)
  deriving DecidableEq, Repr

namespace Place

def after : Place → Char → Place
  | .bare, c => if c = '"' then .text false else if c = '[' then .list else .bare
  | .list, c => if c = '"' then .text true else if c = ']' then .bare else .list
  | .text inList, c =>
      if c = '\\' then .escaped inList
      else if c = '"' then (if inList then .list else .bare)
      else .text inList
  | .escaped inList, _ => .text inList

/-- The character ends the field that the reader is in. -/
def stops (place : Place) (c : Char) : Bool :=
  place = .bare && (c = ',' || c = ')')

end Place

def readField : Place → List Char → List Char × List Char
  | _, [] => ([], [])
  | place, c :: rest =>
      if place.stops c then ([], c :: rest)
      else
        let (field, behind) := readField (place.after c) rest
        (c :: field, behind)

/-- At most `fuel` fields, the parenthesis behind the last, and what follows it. -/
def readFields : Nat → List Char → Option (List (List Char) × List Char)
  | 0, _ => none
  | fuel + 1, chars =>
      match readField .bare chars with
      | (field, ',' :: ' ' :: rest) => do
          let (fields, behind) ← readFields fuel rest
          return (field :: fields, behind)
      | (field, ')' :: behind) => some ([field], behind)
      | _ => none

/-- The reader goes over all of these characters, from one place to the other. -/
def Passes (place : Place) : List Char → Place → Prop
  | [], last => place = last
  | c :: rest, last => place.stops c = false ∧ Passes (place.after c) rest last

theorem Passes.append {first middle last : Place} {left right : List Char}
    (before : Passes first left middle) (behind : Passes middle right last) :
    Passes first (left ++ right) last := by
  induction left generalizing first with
  | nil =>
      cases before
      exact behind
  | cons c rest ih => exact ⟨before.1, ih before.2⟩

theorem Passes.of_all {place : Place} {chars : List Char}
    (each : ∀ c ∈ chars, place.stops c = false ∧ place.after c = place) :
    Passes place chars place := by
  induction chars with
  | nil => rfl
  | cons c rest ih =>
      obtain ⟨inside, stays⟩ := each c List.mem_cons_self
      refine ⟨inside, ?_⟩
      rw [stays]
      exact ih fun other member => each other (.tail _ member)

/-- A character that a field may have outside of quotation marks and brackets. -/
def Bare (c : Char) : Prop :=
  c ≠ ',' ∧ c ≠ ')' ∧ c ≠ '"' ∧ c ≠ '['

instance (c : Char) : Decidable (Bare c) :=
  inferInstanceAs (Decidable (_ ∧ _))

theorem passes_bare {chars : List Char} (bare : ∀ c ∈ chars, Bare c) :
    Passes .bare chars .bare := by
  refine .of_all ?_
  intro c member
  obtain ⟨comma, parenthesis, quote, bracket⟩ := bare c member
  simp [Place.stops, Place.after, comma, parenthesis, quote, bracket]

theorem passes_plain (inList : Bool) {chars : List Char}
    (plain : ∀ c ∈ chars, c ≠ '\\' ∧ c ≠ '"') :
    Passes (.text inList) chars (.text inList) := by
  refine .of_all ?_
  intro c member
  obtain ⟨backslash, quote⟩ := plain c member
  simp [Place.stops, Place.after, backslash, quote]

theorem toDigits_plain (value : Nat) : ∀ c ∈ Nat.toDigits 16 value, c ≠ '\\' ∧ c ≠ '"' := by
  have digits : ∀ digit < 16, Nat.digitChar digit ≠ '\\' ∧ Nat.digitChar digit ≠ '"' := by decide
  induction value using Nat.strongRecOn with
  | ind value ih =>
      rw [toDigits_sixteen]
      split
      · rename_i small
        intro c member
        rw [List.mem_singleton.mp member]
        exact digits value small
      · rename_i large
        intro c member
        rcases List.mem_append.mp member with early | last
        · exact ih _ (Nat.div_lt_self (by omega) (by decide)) c early
        · rw [List.mem_singleton.mp last]
          exact digits _ (Nat.mod_lt _ (by decide))

theorem passes_escapeDefaultChar (inList : Bool) (c : Char) :
    Passes (.text inList) (escapeDefaultChar c) (.text inList) := by
  rcases escapeDefaultChar_cases c with ⟨letter, short, _⟩ | ⟨plain, notBackslash, notQuote⟩ | hex
  · rw [short]
    exact ⟨by simp [Place.stops], by simp [Place.stops, Place.after], rfl⟩
  · rw [plain]
    refine passes_plain inList ?_
    intro d member
    rw [List.mem_singleton.mp member]
    exact ⟨notBackslash, notQuote⟩
  · rw [hex]
    have digits : Passes (.text inList) ('\x7b' :: (Nat.toDigits 16 c.toNat ++ ['\x7d']))
        (.text inList) := by
      refine passes_plain inList ?_
      intro d member
      rcases List.mem_cons.mp member with rfl | inside
      · decide
      · rcases List.mem_append.mp inside with digit | brace
        · exact toDigits_plain _ d digit
        · rw [List.mem_singleton.mp brace]
          decide
    refine ⟨by simp [Place.stops], by simp [Place.stops, Place.after], ?_⟩
    simpa [Place.after] using digits

theorem passes_escaped (inList : Bool) (chars : List Char) :
    Passes (.text inList) (chars.flatMap escapeDefaultChar) (.text inList) := by
  induction chars with
  | nil => rfl
  | cons c rest ih =>
      rw [List.flatMap_cons]
      exact (passes_escapeDefaultChar inList c).append ih

theorem passes_quotedChars (text : String) : Passes .bare (quotedChars text) .bare := by
  refine ⟨by decide, ?_⟩
  exact (passes_escaped false text.toList).append ⟨by decide, rfl⟩

/-- A list of quoted texts is one field, whatever is in them. -/
theorem passes_list (texts : List String) :
    Passes .bare ('[' :: (List.intercalate [',', ' '] (texts.map quotedChars) ++ [']'])) .bare := by
  have quoted : ∀ text : String, Passes .list (quotedChars text) .list := by
    intro text
    refine ⟨by decide, ?_⟩
    exact (passes_escaped true text.toList).append ⟨by decide, rfl⟩
  have entries : Passes .list (List.intercalate [',', ' '] (texts.map quotedChars)) .list := by
    induction texts with
    | nil => rfl
    | cons text rest ih =>
        cases rest with
        | nil =>
            rw [List.map_singleton, List.intercalate_singleton]
            exact quoted text
        | cons next rest =>
            rw [List.map_cons, List.map_cons, List.intercalate_cons_cons, List.append_assoc]
            have comma : Passes .list [',', ' '] .list := ⟨by decide, by decide, rfl⟩
            exact (quoted text).append (comma.append ih)
  exact ⟨by decide, entries.append ⟨by decide, rfl⟩⟩

theorem readField_passes {place : Place} {field : List Char} (passes : Passes place field .bare)
    {stop : Char} (ends : stop = ',' ∨ stop = ')') (rest : List Char) :
    readField place (field ++ stop :: rest) = (field, stop :: rest) := by
  induction field generalizing place with
  | nil =>
      cases passes
      rcases ends with rfl | rfl <;> rfl
  | cons c field ih =>
      obtain ⟨inside, later⟩ := passes
      rw [List.cons_append, readField, if_neg (by simp [inside]), ih later]

/-- Fields that the reader passes over are read as they were written. -/
theorem readFields_intercalate {fields : List (List Char)} (nonempty : fields ≠ [])
    (passes : ∀ field ∈ fields, Passes .bare field .bare) {fuel : Nat}
    (enough : fields.length ≤ fuel) (behind : List Char) :
    readFields fuel (List.intercalate [',', ' '] fields ++ ')' :: behind) =
      some (fields, behind) := by
  induction fields generalizing fuel with
  | nil => exact absurd rfl nonempty
  | cons field rest ih =>
      cases fuel with
      | zero => cases enough
      | succ fuel =>
          have first := passes field List.mem_cons_self
          cases rest with
          | nil =>
              rw [List.intercalate_singleton, readFields, readField_passes first (.inr rfl)]
              rfl
          | cons next rest =>
              have later := ih (by simp) (fun other member => passes other (.tail _ member))
                (Nat.le_of_succ_le_succ enough)
              rw [List.intercalate_cons_cons, List.append_assoc, List.append_assoc, readFields]
              simp only [List.cons_append, List.nil_append]
              rw [readField_passes first (.inl rfl)]
              change (readFields fuel _ >>= _) = _
              rw [later]
              rfl

theorem dropWhile_spaces (count : Nat) {first : Char} (other : first ≠ ' ') (rest : List Char) :
    (List.replicate count ' ' ++ first :: rest).dropWhile (· = ' ') = first :: rest := by
  rw [List.dropWhile_append_of_pos]
  · simp [other]
  · intro c member
    simp [List.eq_of_mem_replicate member]

end Foundation
