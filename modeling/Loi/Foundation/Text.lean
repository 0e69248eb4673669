import Mathlib.Data.String.Basic
import Mathlib.Tactic.Common

/-! Texts by their characters: printable ones, the escapes of
`char::escape_default`, numerals, joins, padding and the columns of a table. -/

set_option autoImplicit false

namespace Foundation

/-- A printable ASCII character, the blank included. -/
def Printable (c : Char) : Prop :=
  0x20 ≤ c.toNat ∧ c.toNat ≤ 0x7E

instance (c : Char) : Decidable (Printable c) :=
  inferInstanceAs (Decidable (_ ∧ _))

/-- A Unicode control character. -/
def IsControl (c : Char) : Prop :=
  c.toNat < 0x20 ∨ (0x7F ≤ c.toNat ∧ c.toNat ≤ 0x9F)

instance (c : Char) : Decidable (IsControl c) :=
  inferInstanceAs (Decidable (_ ∨ _))

theorem Printable.not_control {c : Char} (printable : Printable c) : ¬ IsControl c := by
  unfold Printable at printable
  unfold IsControl
  omega

def AllChars (predicate : Char → Prop) (text : String) : Prop :=
  ∀ c ∈ text.toList, predicate c

instance (predicate : Char → Prop) [DecidablePred predicate] (text : String) :
    Decidable (AllChars predicate text) :=
  List.decidableBAll predicate text.toList

section AllChars

variable {predicate : Char → Prop}

@[simp] theorem allChars_empty : AllChars predicate "" := by
  intro c member
  simp at member

@[simp] theorem allChars_append {left right : String} :
    AllChars predicate (left ++ right) ↔ AllChars predicate left ∧ AllChars predicate right := by
  simp [AllChars, or_imp, forall_and]

theorem allChars_foldr {texts : List String} (each : ∀ text ∈ texts, AllChars predicate text) :
    AllChars predicate (texts.foldr (· ++ ·) "") := by
  induction texts with
  | nil => exact allChars_empty
  | cons text rest ih =>
      exact allChars_append.mpr
        ⟨each text List.mem_cons_self, ih fun other member => each other (.tail _ member)⟩

theorem AllChars.imp {other : Char → Prop} {text : String} (all : AllChars predicate text)
    (weaker : ∀ c, predicate c → other c) : AllChars other text :=
  fun c member => weaker c (all c member)

theorem allChars_ofList {chars : List Char} :
    AllChars predicate (String.ofList chars) ↔ ∀ c ∈ chars, predicate c := by
  simp [AllChars]

end AllChars

/-- `[..].join(separator)`. -/
def join (separator : String) : List String → String
  | [] => ""
  | [item] => item
  | item :: next :: rest => item ++ separator ++ join separator (next :: rest)

theorem allChars_join {predicate : Char → Prop} {separator : String} {items : List String}
    (separated : AllChars predicate separator)
    (each : ∀ item ∈ items, AllChars predicate item) :
    AllChars predicate (join separator items) := by
  induction items with
  | nil => exact allChars_empty
  | cons item rest ih =>
      cases rest with
      | nil => exact each item List.mem_cons_self
      | cons next rest =>
          rw [join, allChars_append, allChars_append]
          exact ⟨⟨each item List.mem_cons_self, separated⟩,
            ih fun other member => each other (.tail _ member)⟩

theorem toList_join (separator : String) (items : List String) :
    (join separator items).toList =
      List.intercalate separator.toList (items.map String.toList) := by
  induction items with
  | nil => rfl
  | cons item rest ih =>
      cases rest with
      | nil => rw [join, List.map_singleton, List.intercalate_singleton]
      | cons next rest =>
          rw [join, String.toList_append, String.toList_append, ih, List.map_cons, List.map_cons,
            List.map_cons, List.intercalate_cons_cons]

/-- `char::is_whitespace`: the property `White_Space` of Unicode. -/
def isWhitespace (c : Char) : Bool :=
  (0x9 ≤ c.toNat && c.toNat ≤ 0xD) || c.toNat = 0x20 || c.toNat = 0x85 || c.toNat = 0xA0 ||
    c.toNat = 0x1680 || (0x2000 ≤ c.toNat && c.toNat ≤ 0x200A) || c.toNat = 0x2028 ||
    c.toNat = 0x2029 || c.toNat = 0x202F || c.toNat = 0x205F || c.toNat = 0x3000

/-- `str::trim`. -/
def trim (text : String) : String :=
  String.ofList ((text.toList.dropWhile isWhitespace).reverse.dropWhile isWhitespace).reverse

/-- `str::split` at one character. -/
def splitAt (separator : Char) (text : String) : List String :=
  (text.toList.splitOn separator).map String.ofList

theorem splitAt_join {separator : Char} {items : List String} (nonempty : items ≠ [])
    (free : ∀ item ∈ items, separator ∉ item.toList) :
    splitAt separator (join (String.singleton separator) items) = items := by
  rw [splitAt, toList_join, String.toList_singleton, List.splitOn_intercalate]
  · simp
  · intro chars member
    obtain ⟨item, inItems, rfl⟩ := List.mem_map.mp member
    exact free item inItems
  · simpa using nonempty

def spaces (count : Nat) : String :=
  String.ofList (List.replicate count ' ')

/-- The width of a format argument has 16 bits in `std`. -/
def FORMAT_WIDTH_MAX : Nat := 65535

/-- `{text:<width$}`, for a width that `std` takes. -/
def padRight (text : String) (width : Nat) : String :=
  text ++ spaces (width - text.length)

theorem allChars_spaces {predicate : Char → Prop} (blank : predicate ' ') (count : Nat) :
    AllChars predicate (spaces count) := by
  rw [spaces, allChars_ofList]
  intro c member
  rw [List.eq_of_mem_replicate member]
  exact blank

theorem allChars_padRight {predicate : Char → Prop} (blank : predicate ' ') {text : String}
    (all : AllChars predicate text) (width : Nat) : AllChars predicate (padRight text width) :=
  allChars_append.mpr ⟨all, allChars_spaces blank _⟩

theorem utf8ByteSize_of_ascii {text : String} (ascii : AllChars (fun c => c.toNat < 128) text) :
    text.utf8ByteSize = text.length := by
  have counted : ∀ chars : List Char, (∀ c ∈ chars, c.toNat < 128) →
      String.utf8Len chars = chars.length := by
    intro chars
    induction chars with
    | nil => intro _; rfl
    | cons c rest ih =>
        intro small
        have one : c.utf8Size = 1 :=
          Char.utf8Size_eq_one_iff.mpr (UInt32.le_iff_toNat_le.mpr
            (Nat.le_of_lt_succ (small c List.mem_cons_self)))
        rw [String.utf8Len_cons, ih fun other member => small other (.tail _ member), one,
          List.length_cons]
  rw [← String.utf8Len_toList, counted _ ascii, String.length_toList]

/-- Blanks before a text do not move a later character to where the text ends. -/
theorem shifted_ne {before after rest : List Char} {bracket glyph : Char}
    (notBlank : bracket ≠ ' ') (different : bracket ≠ glyph) (lead : Nat) :
    List.replicate lead ' ' ++ (before ++ glyph :: rest) ≠ before ++ bracket :: after := by
  induction before generalizing lead with
  | nil =>
      cases lead with
      | zero => simp [different.symm]
      | succ lead => simp [List.replicate_succ, notBlank.symm]
  | cons c before ih =>
      cases lead with
      | zero => simp [different.symm]
      | succ lead =>
          intro same
          simp only [List.replicate_succ, List.cons_append, List.cons.injEq] at same
          obtain ⟨blank, same⟩ := same
          apply ih (lead + 1)
          rw [← same, ← blank, List.replicate_succ']
          simp

theorem until_unique {bracket : Char} {left right after after' : List Char}
    (leftFree : bracket ∉ left) (rightFree : bracket ∉ right)
    (same : left ++ bracket :: after = right ++ bracket :: after') : left = right := by
  induction left generalizing right with
  | nil =>
      cases right with
      | nil => rfl
      | cons c right =>
          simp only [List.nil_append, List.cons_append, List.cons.injEq] at same
          exact absurd (same.1 ▸ List.mem_cons_self) rightFree
  | cons c left ih =>
      cases right with
      | nil =>
          simp only [List.nil_append, List.cons_append, List.cons.injEq] at same
          exact absurd (same.1 ▸ List.mem_cons_self) leftFree
      | cons d right =>
          simp only [List.cons_append, List.cons.injEq] at same
          obtain ⟨rfl, same⟩ := same
          rw [ih (fun member => leftFree (.tail _ member)) (fun member => rightFree (.tail _ member))
            same]

theorem Printable.ascii {c : Char} (printable : Printable c) : c.toNat < 128 := by
  unfold Printable at printable
  omega

theorem padRight_of_ascii {text : String} (ascii : AllChars (fun c => c.toNat < 128) text)
    (extra : Nat) : padRight text (text.utf8ByteSize + extra) = text ++ spaces extra := by
  rw [padRight, utf8ByteSize_of_ascii ascii, Nat.add_sub_cancel_left]

def numeral (base value : Nat) : String :=
  String.ofList (Nat.toDigits base value)

theorem printable_digitChar (digit : Nat) : Printable (Nat.digitChar digit) := by
  rcases Nat.lt_or_ge digit 16 with small | large
  · revert small
    revert digit
    decide
  · rw [Nat.digitChar_eq_star.mpr large]
    decide

private theorem printable_toDigitsCore (base fuel value : Nat) {digits : List Char}
    (printable : ∀ c ∈ digits, Printable c) :
    ∀ c ∈ Nat.toDigitsCore base fuel value digits, Printable c := by
  induction fuel generalizing value digits with
  | zero => exact printable
  | succ fuel ih =>
      have more : ∀ c ∈ Nat.digitChar (value % base) :: digits, Printable c := by
        intro c member
        rcases List.mem_cons.mp member with rfl | old
        · exact printable_digitChar _
        · exact printable c old
      rw [Nat.toDigitsCore]
      split
      · exact more
      · exact ih _ more

theorem printable_numeral (base value : Nat) : AllChars Printable (numeral base value) := by
  rw [numeral, allChars_ofList]
  exact printable_toDigitsCore base _ value (by simp)

theorem allChars_natToString {predicate : Char → Prop}
    (digits : ∀ c : Char, c.isDigit = true → predicate c) (value : Nat) :
    AllChars predicate (toString value) := by
  rw [Nat.toString_eq_ofList_toDigits, allChars_ofList]
  intro c member
  exact digits c (Nat.isDigit_of_mem_toDigits (by decide) (by decide) member)

theorem allChars_intToString {predicate : Char → Prop}
    (digits : ∀ c : Char, c.isDigit = true → predicate c) (minus : predicate '-') (value : Int) :
    AllChars predicate (toString value) := by
  cases value with
  | ofNat value => exact allChars_natToString digits value
  | negSucc value =>
      have shape : toString (Int.negSucc value) = "-" ++ toString (value + 1) := rfl
      rw [shape, allChars_append]
      refine ⟨?_, allChars_natToString digits _⟩
      intro c member
      rw [List.mem_singleton.mp member]
      exact minus

theorem natToString_injective {left right : Nat} (same : toString left = toString right) :
    left = right := by
  rw [Nat.toString_eq_ofList_toDigits, Nat.toString_eq_ofList_toDigits, String.ofList_inj] at same
  have values := congrArg (Nat.ofDigitChars 10 · 0) same
  simpa only [Nat.ofDigitChars_ten_toDigits] using values

private theorem minus_not_mem_natToString (value : Nat) : '-' ∉ (toString value).toList := by
  have digits : AllChars (· ≠ '-') (toString value) := by
    refine allChars_natToString ?_ value
    intro c digit minus
    subst minus
    revert digit
    decide
  intro member
  exact digits '-' member rfl

theorem intToString_injective {left right : Int} (same : toString left = toString right) :
    left = right := by
  have negative : ∀ value : Nat, toString (Int.negSucc value) = "-" ++ toString (value + 1) :=
    fun _ => rfl
  have nonnegative : ∀ value : Nat, toString (Int.ofNat value) = toString value := fun _ => rfl
  cases left with
  | ofNat left =>
      cases right with
      | ofNat right => rw [natToString_injective (same : toString left = toString right)]
      | negSucc right =>
          refine absurd ?_ (minus_not_mem_natToString left)
          rw [← nonnegative, same, negative]
          simp
  | negSucc left =>
      cases right with
      | ofNat right =>
          refine absurd ?_ (minus_not_mem_natToString right)
          rw [← nonnegative, ← same, negative]
          simp
      | negSucc right =>
          rw [negative, negative, String.append_right_inj] at same
          have next := natToString_injective same
          rw [Nat.succ.inj next]

theorem Printable.of_isDigit {c : Char} (digit : c.isDigit = true) : Printable c := by
  simp only [Char.isDigit, Bool.and_eq_true, decide_eq_true_eq, ge_iff_le,
    UInt32.le_iff_toNat_le] at digit
  have lower : 48 ≤ c.toNat := digit.1
  have upper : c.toNat ≤ 57 := digit.2
  unfold Printable
  omega

theorem printable_natToString (value : Nat) : AllChars Printable (toString value) :=
  allChars_natToString (fun _ => Printable.of_isDigit) value

theorem printable_intToString (value : Int) : AllChars Printable (toString value) :=
  allChars_intToString (fun _ => Printable.of_isDigit) (by decide) value

theorem natToString_size {value digits : Nat} (positive : 0 < digits)
    (bound : value < 10 ^ digits) : (toString value).utf8ByteSize ≤ digits := by
  rw [utf8ByteSize_of_ascii ((printable_natToString value).imp fun _ => Printable.ascii)]
  exact (Nat.length_repr_le_iff positive).mpr bound

theorem intToString_size {value : Int} {digits : Nat} (positive : 0 < digits)
    (bound : value.natAbs < 10 ^ digits) : (toString value).utf8ByteSize ≤ digits + 1 := by
  cases value with
  | ofNat value => exact (natToString_size positive bound).trans (Nat.le_succ _)
  | negSucc value =>
      have shape : toString (Int.negSucc value) = "-" ++ toString (value + 1) := rfl
      have sign : "-".utf8ByteSize = 1 := rfl
      rw [shape, String.utf8ByteSize_append, sign, Nat.add_comm]
      exact Nat.succ_le_succ (natToString_size positive bound)

/-- `char::escape_default`. -/
def escapeDefaultChar (c : Char) : List Char :=
  if c = '\t' then ['\\', 't']
  else if c = '\r' then ['\\', 'r']
  else if c = '\n' then ['\\', 'n']
  else if c = '\'' ∨ c = '"' ∨ c = '\\' then ['\\', c]
  else if Printable c then [c]
  else ['\\', 'u', '\x7b'] ++ Nat.toDigits 16 c.toNat ++ ['\x7d']

/-- `str::escape_default`. -/
def escapeDefault (text : String) : String :=
  String.ofList (text.toList.flatMap escapeDefaultChar)

section Columns

variable {Item : Type} (width : Item → Nat)

/-- The largest width of a list, from one that is there already. -/
def widest (start : Nat) (items : List Item) : Nat :=
  items.foldl (fun most item => max most (width item)) start

@[simp] theorem widest_cons (start : Nat) (item : Item) (rest : List Item) :
    widest width start (item :: rest) = widest width (max start (width item)) rest := rfl

theorem widest_le {start bound : Nat} {items : List Item} :
    widest width start items ≤ bound ↔ start ≤ bound ∧ ∀ item ∈ items, width item ≤ bound := by
  induction items generalizing start with
  | nil => simp [widest]
  | cons item rest ih => simp [ih, and_assoc]

theorem widest_mono {start : Nat} {items more : List Item} (subset : items ⊆ more) :
    widest width start items ≤ widest width start more := by
  have least : widest width start more ≤ widest width start more := Nat.le_refl _
  obtain ⟨started, each⟩ := (widest_le width).mp least
  exact (widest_le width).mpr ⟨started, fun item member => each item (subset member)⟩

theorem widest_snoc (start : Nat) (items : List Item) (item : Item) :
    widest width start (items ++ [item]) = max (widest width start items) (width item) := by
  rw [widest, List.foldl_append]
  rfl

theorem widest_take_succ {start n : Nat} {items : List Item} {item : Item}
    (found : items[n]? = some item) :
    widest width start (items.take (n + 1)) =
      max (widest width start (items.take n)) (width item) := by
  rw [List.take_add_one, found, Option.toList_some, widest_snoc]

/-- What is no wider than the widest changes nothing. -/
theorem widest_append_of_le {start : Nat} {items more : List Item}
    (narrow : ∀ item ∈ more, width item ≤ widest width start items) :
    widest width start (items ++ more) = widest width start items := by
  apply Nat.le_antisymm
  · have least : widest width start items ≤ widest width start items := Nat.le_refl _
    obtain ⟨started, each⟩ := (widest_le width).mp least
    refine (widest_le width).mpr ⟨started, fun item member => ?_⟩
    exact (List.mem_append.mp member).elim (each item) (narrow item)
  · exact widest_mono width (List.subset_append_left items more)

end Columns

theorem printable_escapeDefaultChar (c : Char) : ∀ d ∈ escapeDefaultChar c, Printable d := by
  unfold escapeDefaultChar
  split_ifs with tab ret newline special printable
  · simp [Printable]
  · simp [Printable]
  · simp [Printable]
  · intro d member
    simp only [List.mem_cons, List.not_mem_nil, or_false] at member
    rcases member with rfl | rfl
    · decide
    · rcases special with rfl | rfl | rfl <;> decide
  · intro d member
    rw [List.mem_singleton.mp member]
    exact printable
  · intro d member
    simp only [List.mem_append] at member
    rcases member with (opening | digit) | closing
    · have printable : AllChars Printable "\\u\x7b" := by decide
      exact printable d opening
    · exact printable_toDigitsCore 16 _ c.toNat (by simp) d digit
    · rw [List.mem_singleton.mp closing]
      decide

theorem printable_escapeDefault (text : String) : AllChars Printable (escapeDefault text) := by
  rw [escapeDefault, allChars_ofList]
  intro d member
  obtain ⟨c, _, escaped⟩ := List.mem_flatMap.mp member
  exact printable_escapeDefaultChar c d escaped

end Foundation
