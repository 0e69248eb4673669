import Mathlib.Data.List.Sort
import Loi.Foundation.JsonTokens
import Loi.Output.Safety

/-! The compact text of a JSON value, and a reader that gets the value back. -/

set_option autoImplicit false

namespace Loi.Output.Json

open Foundation

/-- The order in which a `BTreeMap` goes through its entries. -/
def keyLE (field other : String × Value) : Prop :=
  field.1.toList ≤ other.1.toList

instance : DecidableRel keyLE :=
  fun field other => inferInstanceAs (Decidable (field.1.toList ≤ other.1.toList))

mutual

/-- The value with the fields of its objects in the order of their keys. -/
def sorted : Value → Value
  | .array items => .array (sortedItems items)
  | .object fields => .object ((sortedFields fields).insertionSort keyLE)
  | .null => .null
  | .bool value => .bool value
  | .number value => .number value
  | .string text => .string text

def sortedItems : List Value → List Value
  | [] => []
  | item :: rest => sorted item :: sortedItems rest

def sortedFields : List (String × Value) → List (String × Value)
  | [] => []
  | (key, value) :: rest => (key, sorted value) :: sortedFields rest

end

mutual

def chars : Value → List Char
  | .null => ['n', 'u', 'l', 'l']
  | .bool true => ['t', 'r', 'u', 'e']
  | .bool false => ['f', 'a', 'l', 's', 'e']
  | .number value => (toString value).toList
  | .string text => jsonString text
  | .array [] => ['[', ']']
  | .array (first :: rest) => '[' :: (chars first ++ itemsBehind rest)
  | .object [] => ['\x7b', '\x7d']
  | .object ((key, value) :: rest) =>
      '\x7b' :: (jsonString key ++ ':' :: (chars value ++ fieldsBehind rest))

/-- What stands behind an item of an array, the closing bracket included. -/
def itemsBehind : List Value → List Char
  | [] => [']']
  | item :: rest => ',' :: (chars item ++ itemsBehind rest)

def fieldsBehind : List (String × Value) → List Char
  | [] => ['\x7d']
  | (key, value) :: rest =>
      ',' :: (jsonString key ++ ':' :: (chars value ++ fieldsBehind rest))

end

mutual

/-- The value in front, with fuel for each level and item of it. -/
def readValue : Nat → List Char → Option (Value × List Char)
  | 0, _ => none
  | _ + 1, '"' :: rest => (readString rest).map fun read => (.string (.ofList read.1), read.2)
  | _ + 1, 'n' :: 'u' :: 'l' :: 'l' :: rest => some (.null, rest)
  | _ + 1, 't' :: 'r' :: 'u' :: 'e' :: rest => some (.bool true, rest)
  | _ + 1, 'f' :: 'a' :: 'l' :: 's' :: 'e' :: rest => some (.bool false, rest)
  | _ + 1, '[' :: ']' :: rest => some (.array [], rest)
  | fuel + 1, '[' :: rest => do
      let (first, rest) ← readValue fuel rest
      let (items, rest) ← readItemsBehind fuel rest
      return (.array (first :: items), rest)
  | _ + 1, '\x7b' :: '\x7d' :: rest => some (.object [], rest)
  | fuel + 1, '\x7b' :: rest => do
      let (first, rest) ← readField fuel rest
      let (fields, rest) ← readFieldsBehind fuel rest
      return (.object (first :: fields), rest)
  | _ + 1, rest => (readInt rest).map fun read => (.number read.1, read.2)

def readItemsBehind : Nat → List Char → Option (List Value × List Char)
  | _ + 1, ']' :: rest => some ([], rest)
  | fuel + 1, ',' :: rest => do
      let (item, rest) ← readValue fuel rest
      let (items, rest) ← readItemsBehind fuel rest
      return (item :: items, rest)
  | _, _ => none

def readField : Nat → List Char → Option ((String × Value) × List Char)
  | fuel + 1, '"' :: rest => do
      let (key, rest) ← readString rest
      if rest.head? = some ':' then
        let (value, rest) ← readValue fuel rest.tail
        return ((.ofList key, value), rest)
      else none
  | _, _ => none

def readFieldsBehind : Nat → List Char → Option (List (String × Value) × List Char)
  | _ + 1, '\x7d' :: rest => some ([], rest)
  | fuel + 1, ',' :: rest => do
      let (field, rest) ← readField fuel rest
      let (fields, rest) ← readFieldsBehind fuel rest
      return (field :: fields, rest)
  | _, _ => none

end

theorem noDigit_itemsBehind (items : List Value) (rest : List Char) :
    NoDigit (itemsBehind items ++ rest) := by
  cases items <;> simp [itemsBehind, NoDigit]

theorem noDigit_fieldsBehind (fields : List (String × Value)) (rest : List Char) :
    NoDigit (fieldsBehind fields ++ rest) := by
  rcases fields with _ | ⟨⟨key, value⟩, fields⟩ <;> simp [fieldsBehind, NoDigit]

theorem chars_first (value : Value) : ∃ c rest, chars value = c :: rest ∧ c ≠ ']' := by
  cases value with
  | null => exact ⟨_, _, rfl, by decide⟩
  | bool value => cases value <;> exact ⟨_, _, rfl, by decide⟩
  | number value =>
      obtain ⟨c, rest, first, shape⟩ := intToString_first value
      refine ⟨c, rest, first, ?_⟩
      rintro rfl
      rcases shape with minus | digit
      · cases minus
      · cases digit
  | string text => exact ⟨_, _, rfl, by decide⟩
  | array items => cases items <;> exact ⟨_, _, rfl, by decide⟩
  | object fields => rcases fields with _ | ⟨⟨key, value⟩, fields⟩ <;> exact ⟨_, _, rfl, by decide⟩

/-- A number is told from every other value by its first character. -/
theorem readValue_number (fuel : Nat) (value : Int) {rest : List Char} (ends : NoDigit rest) :
    readValue (fuel + 1) ((toString value).toList ++ rest) = some (.number value, rest) := by
  have read := readInt_toString value ends
  obtain ⟨c, behind, first, shape⟩ := intToString_first value
  have apart : ∀ other : Char, other ≠ '-' → other.isDigit = false → c ≠ other := by
    rintro other minus digit rfl
    rcases shape with same | same
    · exact minus same
    · exact absurd (same.symm.trans digit) nofun
  rw [first, List.cons_append] at read ⊢
  rw [readValue, read]
  · rfl
  all_goals
    intro later same
    exact absurd (List.cons.inj same).1 (apart _ (by decide) (by decide))

theorem readField_chars {value : Value} {fuel : Nat} {rest : List Char}
    (read : readValue fuel (chars value ++ rest) = some (value, rest)) (key : String) :
    readField (fuel + 1) (jsonString key ++ ':' :: (chars value ++ rest)) =
      some ((key, value), rest) := by
  have name := readString_jsonString key (':' :: (chars value ++ rest))
  unfold jsonString
  rw [List.cons_append, List.append_assoc, List.singleton_append, readField, name]
  simp [read]

mutual

/-- Whatever follows a value in a text, the value is read off its front. -/
theorem readValue_chars (value : Value) {fuel : Nat} (enough : (chars value).length ≤ fuel)
    {rest : List Char} (ends : NoDigit rest) :
    readValue fuel (chars value ++ rest) = some (value, rest) := by
  obtain ⟨c, behind, first, _⟩ := chars_first value
  obtain ⟨fuel, rfl⟩ : ∃ smaller, fuel = smaller + 1 := by
    refine Nat.exists_eq_add_one.mpr (Nat.lt_of_lt_of_le ?_ enough)
    simp [first]
  match value with
  | .null => simp [chars, readValue]
  | .bool true => simp [chars, readValue]
  | .bool false => simp [chars, readValue]
  | .number value => exact readValue_number fuel value ends
  | .string text =>
      unfold chars jsonString
      rw [List.cons_append, List.append_assoc, List.singleton_append, readValue,
        readString_jsonString]
      simp
  | .array [] => simp [chars, readValue]
  | .array (item :: items) =>
      simp only [chars, List.length_cons, List.length_append] at enough
      have read := readValue_chars item (by omega : (chars item).length ≤ fuel)
        (noDigit_itemsBehind items rest)
      have more := readItemsBehind_chars items (by omega : (itemsBehind items).length ≤ fuel) rest
      obtain ⟨c, later, start, apart⟩ := chars_first item
      have open' : ∀ other, chars item ++ (itemsBehind items ++ rest) = ']' :: other → False := by
        intro other same
        rw [start] at same
        exact apart (List.cons.inj same).1
      rw [chars, List.cons_append, List.append_assoc, readValue]
      · simp [read, more]
      · exact open'
  | .object [] => simp [chars, readValue]
  | .object ((key, value) :: fields) =>
      simp only [chars, jsonString, List.length_cons, List.length_append] at enough
      obtain ⟨fuel, rfl⟩ : ∃ smaller, fuel = smaller + 1 := ⟨fuel - 1, by omega⟩
      have read := readValue_chars value (by omega : (chars value).length ≤ fuel)
        (noDigit_fieldsBehind fields rest)
      have more := readFieldsBehind_chars fields (by omega : (fieldsBehind fields).length ≤ fuel + 1)
        rest
      have open' : ∀ other, jsonString key ++ ':' :: (chars value ++ (fieldsBehind fields ++ rest)) =
          '\x7d' :: other → False := by
        intro other same
        exact absurd (List.cons.inj same).1 (by decide)
      rw [chars, List.cons_append, List.append_assoc, List.cons_append, List.append_assoc,
        readValue]
      · simp [readField_chars read, more]
      · exact open'

theorem readItemsBehind_chars (items : List Value) {fuel : Nat}
    (enough : (itemsBehind items).length ≤ fuel) (rest : List Char) :
    readItemsBehind fuel (itemsBehind items ++ rest) = some (items, rest) := by
  match items with
  | [] =>
      simp only [itemsBehind, List.length_singleton] at enough
      obtain ⟨fuel, rfl⟩ : ∃ smaller, fuel = smaller + 1 := ⟨fuel - 1, by omega⟩
      rfl
  | item :: items =>
      simp only [itemsBehind, List.length_cons, List.length_append] at enough
      obtain ⟨fuel, rfl⟩ : ∃ smaller, fuel = smaller + 1 := ⟨fuel - 1, by omega⟩
      have read := readValue_chars item (by omega : (chars item).length ≤ fuel)
        (noDigit_itemsBehind items rest)
      have more := readItemsBehind_chars items (by omega : (itemsBehind items).length ≤ fuel) rest
      rw [itemsBehind, List.cons_append, List.append_assoc, readItemsBehind]
      simp [read, more]

theorem readFieldsBehind_chars (fields : List (String × Value)) {fuel : Nat}
    (enough : (fieldsBehind fields).length ≤ fuel) (rest : List Char) :
    readFieldsBehind fuel (fieldsBehind fields ++ rest) = some (fields, rest) := by
  match fields with
  | [] =>
      simp only [fieldsBehind, List.length_singleton] at enough
      obtain ⟨fuel, rfl⟩ : ∃ smaller, fuel = smaller + 1 := ⟨fuel - 1, by omega⟩
      rfl
  | (key, value) :: fields =>
      simp only [fieldsBehind, jsonString, List.length_cons, List.length_append] at enough
      obtain ⟨fuel, rfl⟩ : ∃ smaller, fuel = smaller + 2 := ⟨fuel - 2, by omega⟩
      have read := readValue_chars value (by omega : (chars value).length ≤ fuel)
        (noDigit_fieldsBehind fields rest)
      have more := readFieldsBehind_chars fields
        (by omega : (fieldsBehind fields).length ≤ fuel + 1) rest
      rw [fieldsBehind, List.cons_append, List.append_assoc, List.cons_append, List.append_assoc,
        readFieldsBehind]
      simp [readField_chars read, more]

end

/-- A text that is one value and nothing else. -/
def readText (text : String) : Option Value :=
  match readValue (text.toList.length + 1) text.toList with
  | some (value, []) => some value
  | _ => none

/-- The compact text in one piece, with the keys in order. -/
def compact : Serializer :=
  fun value => [.ofList (chars (sorted value))]

theorem readText_compact (value : Value) : readText (.ofList (chars value)) = some value := by
  have ends : NoDigit [] := by simp [NoDigit]
  have read := readValue_chars value (Nat.le_succ _) ends
  unfold readText
  rw [List.append_nil] at read
  rw [String.toList_ofList, read]

mutual

theorem printed_chars (value : Value) : ∀ c ∈ chars value, 32 ≤ c.toNat := by
  match value with
  | .null => simp [chars]
  | .bool true => simp [chars]
  | .bool false => simp [chars]
  | .number value => exact fun c member => (printable_intToString value c member).1
  | .string text => exact printed_jsonString text
  | .array [] => simp [chars]
  | .array (item :: items) =>
      simp only [chars, List.forall_mem_cons, List.forall_mem_append]
      exact ⟨by decide, printed_chars item, printed_itemsBehind items⟩
  | .object [] => simp [chars]
  | .object ((key, value) :: fields) =>
      simp only [chars, List.forall_mem_cons, List.forall_mem_append]
      exact ⟨by decide, printed_jsonString key, by decide, printed_chars value,
        printed_fieldsBehind fields⟩

theorem printed_itemsBehind (items : List Value) : ∀ c ∈ itemsBehind items, 32 ≤ c.toNat := by
  match items with
  | [] => simp [itemsBehind]
  | item :: items =>
      simp only [itemsBehind, List.forall_mem_cons, List.forall_mem_append]
      exact ⟨by decide, printed_chars item, printed_itemsBehind items⟩

theorem printed_fieldsBehind (fields : List (String × Value)) :
    ∀ c ∈ fieldsBehind fields, 32 ≤ c.toNat := by
  match fields with
  | [] => simp [fieldsBehind]
  | (key, value) :: fields =>
      simp only [fieldsBehind, List.forall_mem_cons, List.forall_mem_append]
      exact ⟨by decide, printed_jsonString key, by decide, printed_chars value,
        printed_fieldsBehind fields⟩

end

theorem compact_escapes : EscapesControls compact := by
  intro value piece member
  rw [List.mem_singleton.mp member]
  exact allChars_ofList.mpr (printed_chars (sorted value))

end Loi.Output.Json
