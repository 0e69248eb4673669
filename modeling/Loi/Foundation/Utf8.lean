import Mathlib.Algebra.Group.Nat.Defs
import Mathlib.Tactic.Common

/-! Decoding of byte strings that may be invalid UTF-8: every maximal invalid
part is one undecodable item, as in `String::from_utf8_lossy`. -/

set_option autoImplicit false

namespace Foundation

/-- How many bytes must follow a leading byte, and the range of the first of them. -/
def utf8Shape (first : UInt8) : Option (Nat × UInt8 × UInt8) :=
  if 0xC2 ≤ first ∧ first ≤ 0xDF then some (1, 0x80, 0xBF)
  else if first = 0xE0 then some (2, 0xA0, 0xBF)
  else if first = 0xED then some (2, 0x80, 0x9F)
  else if 0xE1 ≤ first ∧ first ≤ 0xEF then some (2, 0x80, 0xBF)
  else if first = 0xF0 then some (3, 0x90, 0xBF)
  else if 0xF1 ≤ first ∧ first ≤ 0xF3 then some (3, 0x80, 0xBF)
  else if first = 0xF4 then some (3, 0x80, 0x8F)
  else none

def utf8Tail : Nat → UInt8 → UInt8 → List UInt8 → List UInt8
  | needed + 1, low, high, byte :: rest =>
      if low ≤ byte ∧ byte ≤ high then byte :: utf8Tail needed 0x80 0xBF rest else []
  | _, _, _, _ => []

/-- The item that starts with `first`, and how many of the bytes after it belong
to it; `none` when it is an invalid part. -/
def utf8Head (first : UInt8) (rest : List UInt8) : Option Char × Nat :=
  if first < 0x80 then (some (Char.ofNat first.toNat), 0)
  else
    match utf8Shape first with
    | none => (none, 0)
    | some (needed, low, high) =>
        let tail := utf8Tail needed low high rest
        if tail.length = needed then
          let code := tail.foldl (fun code byte => code * 64 + byte.toNat % 64)
            (first.toNat % 2 ^ (6 - needed))
          (some (Char.ofNat code), needed)
        else (none, tail.length)

/-- Decode after skipping the bytes that belong to the item before. -/
def utf8Items : Nat → List UInt8 → List (Option Char)
  | _, [] => []
  | skip + 1, _ :: rest => utf8Items skip rest
  | 0, first :: rest => (utf8Head first rest).1 :: utf8Items (utf8Head first rest).2 rest

/-- `String::from_utf8`, with its error left out. -/
def fromUtf8 (bytes : List UInt8) : Option String :=
  ((utf8Items 0 bytes).mapM id).map String.ofList

/-- `String::from_utf8_lossy`. -/
def fromUtf8Lossy (bytes : List UInt8) : String :=
  String.ofList ((utf8Items 0 bytes).map fun item => item.getD '\uFFFD')

theorem items_of_mapM {items : List (Option Char)} {chars : List Char}
    (found : items.mapM id = some chars) : items = chars.map some := by
  induction items generalizing chars with
  | nil =>
      cases found
      rfl
  | cons item rest ih =>
      simp only [List.mapM_cons, Option.bind_eq_bind, Option.bind_eq_some_iff, Option.pure_def,
        Option.some.injEq, id_eq] at found
      obtain ⟨c, rfl, later, restFound, rfl⟩ := found
      rw [List.map_cons, ← ih restFound]

/-- What is valid has no undecodable item, so the lossy decoding loses nothing. -/
theorem fromUtf8Lossy_of_valid {bytes : List UInt8} {text : String}
    (valid : fromUtf8 bytes = some text) : fromUtf8Lossy bytes = text := by
  obtain ⟨chars, found, rfl⟩ := Option.map_eq_some_iff.mp valid
  rw [fromUtf8Lossy, items_of_mapM found, List.map_map]
  exact congrArg String.ofList (List.map_id chars)

/-- The bytes of a code point. -/
def utf8Encode (code : Nat) : List UInt8 :=
  if code < 0x80 then [UInt8.ofNat code]
  else if code < 0x800 then [UInt8.ofNat (0xC0 + code / 64), UInt8.ofNat (0x80 + code % 64)]
  else if code < 0x10000 then
    [UInt8.ofNat (0xE0 + code / 4096), UInt8.ofNat (0x80 + code / 64 % 64),
      UInt8.ofNat (0x80 + code % 64)]
  else
    [UInt8.ofNat (0xF0 + code / 262144), UInt8.ofNat (0x80 + code / 4096 % 64),
      UInt8.ofNat (0x80 + code / 64 % 64), UInt8.ofNat (0x80 + code % 64)]

/-- The bytes of a text. -/
def utf8Bytes (text : String) : List UInt8 :=
  text.toList.flatMap fun c => utf8Encode c.toNat

@[simp] theorem utf8Bytes_empty : utf8Bytes "" = [] := rfl

@[simp] theorem utf8Bytes_append (left right : String) :
    utf8Bytes (left ++ right) = utf8Bytes left ++ utf8Bytes right := by
  simp [utf8Bytes]

@[simp] theorem utf8Bytes_newline : utf8Bytes "\n" = [10] := by
  decide

/-- No code point begins with the bytes of another. -/
theorem utf8Encode_front {code other : Nat} (low : code < 0x110000) (low' : other < 0x110000)
    {rest rest' : List UInt8} (same : utf8Encode code ++ rest = utf8Encode other ++ rest') :
    code = other := by
  unfold utf8Encode at same
  split_ifs at same
  all_goals
    simp only [List.cons_append, List.nil_append, List.cons.injEq, ← UInt8.toNat_inj,
      UInt8.toNat_ofNat'] at same
    omega

theorem utf8Encode_ne_nil (code : Nat) : utf8Encode code ≠ [] := by
  unfold utf8Encode
  split_ifs <;> nofun

theorem utf8Bytes_injective {left right : String} (same : utf8Bytes left = utf8Bytes right) :
    left = right := by
  have valid : ∀ c : Char, c.toNat < 0x110000 := by
    intro c
    have range := c.valid
    simp only [UInt32.isValidChar, Nat.isValidChar] at range
    unfold Char.toNat
    omega
  apply String.toList_inj.mp
  unfold utf8Bytes at same
  generalize left.toList = chars at same ⊢
  generalize right.toList = others at same ⊢
  induction chars generalizing others with
  | nil =>
      cases others with
      | nil => rfl
      | cons c others => simp [utf8Encode_ne_nil] at same
  | cons c chars ih =>
      cases others with
      | nil => simp [utf8Encode_ne_nil] at same
      | cons d others =>
          rw [List.flatMap_cons, List.flatMap_cons] at same
          have first : c = d := Char.toNat_inj.mp (utf8Encode_front (valid c) (valid d) same)
          subst first
          rw [ih others (List.append_cancel_left same)]

/-- The byte of a newline is no part of another character. -/
theorem newline_mem_utf8Encode {code : Nat} (member : (10 : UInt8) ∈ utf8Encode code)
    (valid : code.isValidChar) : code = 10 := by
  have bounded : code < 0x110000 := valid.elim (fun below => by omega) And.right
  unfold utf8Encode at member
  split_ifs at member
  all_goals simp only [List.mem_cons, List.not_mem_nil, or_false, ← UInt8.toNat_inj,
    UInt8.toNat_ofNat', UInt8.toNat_ofNat] at member
  all_goals omega

theorem newline_not_mem_utf8Bytes {text : String} (single : '\n' ∉ text.toList) :
    (10 : UInt8) ∉ utf8Bytes text := by
  intro member
  obtain ⟨c, among, byte⟩ := List.mem_flatMap.mp member
  have newline : c = '\n' := Char.toNat_inj.mp (newline_mem_utf8Encode byte c.valid)
  exact single (newline ▸ among)

/-- A tail of full length begins the rest, each byte in its range. -/
theorem utf8Tail_succ {needed : Nat} {low high : UInt8} {rest : List UInt8}
    (full : (utf8Tail (needed + 1) low high rest).length = needed + 1) :
    ∃ byte later, rest = byte :: later ∧ low.toNat ≤ byte.toNat ∧ byte.toNat ≤ high.toNat ∧
      utf8Tail (needed + 1) low high rest = byte :: utf8Tail needed 0x80 0xBF later ∧
      (utf8Tail needed 0x80 0xBF later).length = needed := by
  cases rest with
  | nil => cases full
  | cons byte later =>
      rw [utf8Tail] at full ⊢
      split at full
      · rename_i inside
        rw [if_pos inside]
        exact ⟨byte, later, rfl, UInt8.le_iff_toNat_le.mp inside.1,
          UInt8.le_iff_toNat_le.mp inside.2, rfl, Nat.succ.inj full⟩
      · cases full

theorem byte_eq_ofNat {byte : UInt8} {value : Nat} (same : byte.toNat = value) :
    byte = UInt8.ofNat value := by
  rw [← same, UInt8.ofNat_toNat]

theorem utf8Encode_two {first second : UInt8} (lead : 0xC2 ≤ first.toNat ∧ first.toNat ≤ 0xDF)
    (byte : 0x80 ≤ second.toNat ∧ second.toNat ≤ 0xBF) {code : Nat}
    (same : code = first.toNat % 32 * 64 + second.toNat % 64) :
    utf8Encode code = [first, second] ∧ code.isValidChar := by
  have one : first = UInt8.ofNat (0xC0 + code / 64) := byte_eq_ofNat (by omega)
  have two : second = UInt8.ofNat (0x80 + code % 64) := byte_eq_ofNat (by omega)
  constructor
  · unfold utf8Encode
    rw [if_neg (by omega), if_pos (by omega), ← one, ← two]
  · exact .inl (by omega)

theorem utf8Encode_three {first second third : UInt8}
    (lead : 0xE0 ≤ first.toNat ∧ first.toNat ≤ 0xEF)
    (byte : 0x80 ≤ second.toNat ∧ second.toNat ≤ 0xBF)
    (byte' : 0x80 ≤ third.toNat ∧ third.toNat ≤ 0xBF)
    (shortest : first.toNat = 0xE0 → 0xA0 ≤ second.toNat)
    (scalar : first.toNat = 0xED → second.toNat ≤ 0x9F) {code : Nat}
    (same : code = (first.toNat % 16 * 64 + second.toNat % 64) * 64 + third.toNat % 64) :
    utf8Encode code = [first, second, third] ∧ code.isValidChar := by
  have one : first = UInt8.ofNat (0xE0 + code / 4096) := byte_eq_ofNat (by omega)
  have two : second = UInt8.ofNat (0x80 + code / 64 % 64) := byte_eq_ofNat (by omega)
  have three : third = UInt8.ofNat (0x80 + code % 64) := byte_eq_ofNat (by omega)
  constructor
  · unfold utf8Encode
    rw [if_neg (by omega), if_neg (by omega), if_pos (by omega), ← one, ← two, ← three]
  · have outside : code < 0xD800 ∨ 0xDFFF < code := by omega
    exact outside.imp id fun above => ⟨above, by omega⟩

theorem utf8Encode_four {first second third fourth : UInt8}
    (lead : 0xF0 ≤ first.toNat ∧ first.toNat ≤ 0xF4)
    (byte : 0x80 ≤ second.toNat ∧ second.toNat ≤ 0xBF)
    (byte' : 0x80 ≤ third.toNat ∧ third.toNat ≤ 0xBF)
    (byte'' : 0x80 ≤ fourth.toNat ∧ fourth.toNat ≤ 0xBF)
    (shortest : first.toNat = 0xF0 → 0x90 ≤ second.toNat)
    (scalar : first.toNat = 0xF4 → second.toNat ≤ 0x8F) {code : Nat}
    (same : code = ((first.toNat % 8 * 64 + second.toNat % 64) * 64 + third.toNat % 64) * 64 +
      fourth.toNat % 64) :
    utf8Encode code = [first, second, third, fourth] ∧ code.isValidChar := by
  have one : first = UInt8.ofNat (0xF0 + code / 262144) := byte_eq_ofNat (by omega)
  have two : second = UInt8.ofNat (0x80 + code / 4096 % 64) := byte_eq_ofNat (by omega)
  have three : third = UInt8.ofNat (0x80 + code / 64 % 64) := byte_eq_ofNat (by omega)
  have four : fourth = UInt8.ofNat (0x80 + code % 64) := byte_eq_ofNat (by omega)
  constructor
  · unfold utf8Encode
    rw [if_neg (by omega), if_neg (by omega), if_neg (by omega), ← one, ← two, ← three, ← four]
  · exact .inr ⟨by omega, by omega⟩

/-- What a leading byte asks of the bytes behind it. -/
theorem utf8Shape_cases {first : UInt8} {needed : Nat} {low high : UInt8}
    (shape : utf8Shape first = some (needed, low, high)) :
    0x80 ≤ low.toNat ∧ high.toNat ≤ 0xBF ∧
      ((needed = 1 ∧ 0xC2 ≤ first.toNat ∧ first.toNat ≤ 0xDF) ∨
        (needed = 2 ∧ (0xE0 ≤ first.toNat ∧ first.toNat ≤ 0xEF) ∧
          (first.toNat = 0xE0 → 0xA0 ≤ low.toNat) ∧ (first.toNat = 0xED → high.toNat ≤ 0x9F)) ∨
        (needed = 3 ∧ (0xF0 ≤ first.toNat ∧ first.toNat ≤ 0xF4) ∧
          (first.toNat = 0xF0 → 0x90 ≤ low.toNat) ∧ (first.toNat = 0xF4 → high.toNat ≤ 0x8F))) := by
  unfold utf8Shape at shape
  simp only [UInt8.le_iff_toNat_le, ← UInt8.toNat_inj, UInt8.toNat_ofNat] at shape
  split_ifs at shape <;> cases shape <;> simp <;> omega

theorem toNat_ofNat_of_valid {code : Nat} (valid : code.isValidChar) :
    (Char.ofNat code).toNat = code := by
  rw [Char.ofNat, dif_pos valid]
  rfl

/-- A decoded character is the one that the bytes of its item encode. -/
theorem utf8Head_encode {first : UInt8} {rest : List UInt8} {c : Char} {count : Nat}
    (head : utf8Head first rest = (some c, count)) :
    utf8Encode c.toNat = first :: rest.take count := by
  have low80 : (0x80 : UInt8).toNat = 0x80 := rfl
  unfold utf8Head at head
  split at head
  · rename_i ascii
    rw [UInt8.lt_iff_toNat_lt, low80] at ascii
    cases head
    rw [toNat_ofNat_of_valid (.inl (by omega)), utf8Encode, if_pos ascii, UInt8.ofNat_toNat]
    rfl
  · cases shape : utf8Shape first with
    | none =>
        rw [shape] at head
        cases head
    | some found =>
        obtain ⟨needed, low, high⟩ := found
        obtain ⟨above, below, cases⟩ := utf8Shape_cases shape
        rw [shape] at head
        dsimp only at head
        split at head
        · rename_i full
          rcases cases with ⟨rfl, lead⟩ | ⟨rfl, lead, shortest, scalar⟩ |
            ⟨rfl, lead, shortest, scalar⟩
          · obtain ⟨second, rest, rfl, from₂, to₂, first₂, full⟩ := utf8Tail_succ full
            have ends := List.eq_nil_of_length_eq_zero full
            rw [first₂, ends] at head
            cases head
            have byte₂ : 0x80 ≤ second.toNat ∧ second.toNat ≤ 0xBF := by omega
            obtain ⟨encodes, valid⟩ := utf8Encode_two lead byte₂ rfl
            exact (congrArg utf8Encode (toNat_ofNat_of_valid valid)).trans encodes
          · obtain ⟨second, rest, rfl, from₂, to₂, first₂, full⟩ := utf8Tail_succ full
            obtain ⟨third, rest, rfl, from₃, to₃, first₃, full⟩ := utf8Tail_succ full
            have ends := List.eq_nil_of_length_eq_zero full
            rw [first₂, first₃, ends] at head
            cases head
            have byte₂ : 0x80 ≤ second.toNat ∧ second.toNat ≤ 0xBF := by omega
            obtain ⟨encodes, valid⟩ := utf8Encode_three lead byte₂ ⟨from₃, to₃⟩
              (fun least => Nat.le_trans (shortest least) from₂)
              (fun surrogates => Nat.le_trans to₂ (scalar surrogates)) rfl
            exact (congrArg utf8Encode (toNat_ofNat_of_valid valid)).trans encodes
          · obtain ⟨second, rest, rfl, from₂, to₂, first₂, full⟩ := utf8Tail_succ full
            obtain ⟨third, rest, rfl, from₃, to₃, first₃, full⟩ := utf8Tail_succ full
            obtain ⟨fourth, rest, rfl, from₄, to₄, first₄, full⟩ := utf8Tail_succ full
            have ends := List.eq_nil_of_length_eq_zero full
            rw [first₂, first₃, first₄, ends] at head
            cases head
            have byte₂ : 0x80 ≤ second.toNat ∧ second.toNat ≤ 0xBF := by omega
            obtain ⟨encodes, valid⟩ := utf8Encode_four lead byte₂ ⟨from₃, to₃⟩ ⟨from₄, to₄⟩
              (fun least => Nat.le_trans (shortest least) from₂)
              (fun greatest => Nat.le_trans to₂ (scalar greatest)) rfl
            exact (congrArg utf8Encode (toNat_ofNat_of_valid valid)).trans encodes
        · cases head

theorem utf8Items_skip (skip : Nat) (bytes : List UInt8) :
    utf8Items skip bytes = utf8Items 0 (bytes.drop skip) := by
  induction bytes generalizing skip with
  | nil => simp [utf8Items]
  | cons first rest ih =>
      cases skip with
      | zero => rfl
      | succ skip =>
          rw [utf8Items, ih, List.drop_succ_cons]

/-- Bytes that decode to characters are their encoding. -/
theorem utf8Items_encode {chars : List Char} {bytes : List UInt8}
    (decodes : utf8Items 0 bytes = chars.map some) :
    chars.flatMap (fun c => utf8Encode c.toNat) = bytes := by
  induction chars generalizing bytes with
  | nil =>
      cases bytes with
      | nil => rfl
      | cons first rest => cases decodes
  | cons c chars ih =>
      cases bytes with
      | nil => cases decodes
      | cons first rest =>
          rw [utf8Items, List.map_cons] at decodes
          obtain ⟨head, later⟩ := List.cons.inj decodes
          have encodes := utf8Head_encode (Prod.ext head rfl : utf8Head first rest = (some c, _))
          rw [utf8Items_skip] at later
          rw [List.flatMap_cons, encodes, ih later, List.cons_append, List.take_append_drop]

theorem fromUtf8_encode {bytes : List UInt8} {text : String}
    (valid : fromUtf8 bytes = some text) :
    text.toList.flatMap (fun c => utf8Encode c.toNat) = bytes := by
  obtain ⟨chars, found, rfl⟩ := Option.map_eq_some_iff.mp valid
  rw [String.toList_ofList]
  exact utf8Items_encode (items_of_mapM found)

/-- Two valid byte strings are told apart by their texts. -/
theorem fromUtf8Lossy_injective {left right : List UInt8} (leftValid : (fromUtf8 left).isSome)
    (rightValid : (fromUtf8 right).isSome) (same : fromUtf8Lossy left = fromUtf8Lossy right) :
    left = right := by
  obtain ⟨text, decodes⟩ := Option.isSome_iff_exists.mp leftValid
  obtain ⟨text', decodes'⟩ := Option.isSome_iff_exists.mp rightValid
  rw [fromUtf8Lossy_of_valid decodes, fromUtf8Lossy_of_valid decodes'] at same
  rw [← fromUtf8_encode decodes, ← fromUtf8_encode decodes', same]

end Foundation
