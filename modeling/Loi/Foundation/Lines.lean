import Mathlib.Data.List.Forall2
import Mathlib.Data.List.Infix
import Loi.Foundation.Utf8

/-! Texts of lines, each ended by a newline: what is left of one that is cut off, and a reader
that goes line by line. -/

set_option autoImplicit false

namespace Foundation

/-- The text is what the bytes have up to their last newline. -/
structure CompleteLines (bytes : List UInt8) (text : String) : Prop where
  torn : ∃ tail, bytes = utf8Bytes text ++ tail ∧ (10 : UInt8) ∉ tail
  ended : text = "" ∨ ∃ before, text = before ++ "\n"

/-- There is one such text. -/
theorem CompleteLines.unique {bytes : List UInt8} {left right : String}
    (first : CompleteLines bytes left) (second : CompleteLines bytes right) : left = right := by
  -- What the longer text has more would end in a newline, and stand in the tail of the other.
  have extends' : ∀ {left right : String}, CompleteLines bytes left → CompleteLines bytes right →
      utf8Bytes left <+: utf8Bytes right → left = right := by
    intro left right first second shorter
    obtain ⟨⟨tail, split, free⟩, _⟩ := first
    obtain ⟨⟨tail', split', _⟩, ended⟩ := second
    obtain ⟨more, longer⟩ := shorter
    rcases List.eq_nil_or_concat' more with rfl | ⟨before, last, rfl⟩
    · rw [List.append_nil] at longer
      exact utf8Bytes_injective longer
    · have inside : tail = before ++ [last] ++ tail' := by
        rw [split, ← longer, List.append_assoc] at split'
        exact List.append_cancel_left split'
      rcases ended with rfl | ⟨front, rfl⟩
      · simp at longer
      · have newline : last = 10 := by
          have ends := congrArg List.getLast? longer
          rw [utf8Bytes_append, utf8Bytes_newline, ← List.append_assoc, List.getLast?_concat,
            List.getLast?_concat] at ends
          exact Option.some.inj ends
        refine absurd ?_ free
        simp [inside, newline]
  obtain ⟨⟨tail, split, _⟩, _⟩ := id first
  obtain ⟨⟨tail', split', _⟩, _⟩ := id second
  rcases List.prefix_or_prefix_of_prefix ⟨tail, split.symm⟩ ⟨tail', split'.symm⟩ with
    shorter | longer
  · exact extends' first second shorter
  · exact (extends' second first longer).symm

def linesOf (bodies : List String) : String :=
  (bodies.map (· ++ "\n")).foldr (· ++ ·) ""

@[simp] theorem linesOf_nil : linesOf [] = "" := rfl

@[simp] theorem linesOf_cons (body : String) (rest : List String) :
    linesOf (body :: rest) = body ++ "\n" ++ linesOf rest := rfl

theorem linesOf_ended (bodies : List String) :
    linesOf bodies = "" ∨ ∃ before, linesOf bodies = before ++ "\n" := by
  induction bodies with
  | nil => exact .inl rfl
  | cons body rest ih =>
      right
      rcases ih with none | ⟨before, last⟩
      · exact ⟨body, by rw [linesOf_cons, none, String.append_empty]⟩
      · exact ⟨body ++ "\n" ++ before, by rw [linesOf_cons, last, ← String.append_assoc]⟩

/-- Wherever a text of lines is cut off, what is complete are its first lines. -/
theorem completeLines_of_prefix {bodies : List String}
    (single : ∀ body ∈ bodies, '\n' ∉ body.toList) {bytes : List UInt8}
    (initial : bytes <+: utf8Bytes (linesOf bodies)) :
    ∃ count, CompleteLines bytes (linesOf (bodies.take count)) := by
  induction bodies generalizing bytes with
  | nil => exact ⟨0, ⟨⟨[], by simpa using initial, List.not_mem_nil⟩, .inl rfl⟩⟩
  | cons body rest ih =>
      have apart := newline_not_mem_utf8Bytes (single body List.mem_cons_self)
      rw [linesOf_cons, utf8Bytes_append, utf8Bytes_append, utf8Bytes_newline, List.append_assoc]
        at initial
      rcases List.prefix_or_prefix_of_prefix initial (List.prefix_append _ _) with inside | beyond
      · refine ⟨0, ⟨⟨bytes, rfl, ?_⟩, .inl rfl⟩⟩
        exact fun member => apart (inside.subset member)
      · obtain ⟨behind, rfl⟩ := beyond
        rw [List.prefix_append_right_inj] at initial
        cases behind with
        | nil => exact ⟨0, ⟨⟨utf8Bytes body, by simp, apart⟩, .inl rfl⟩⟩
        | cons first later =>
            rw [List.singleton_append, List.cons_prefix_cons] at initial
            obtain ⟨rfl, initial⟩ := initial
            obtain ⟨count, ⟨tail, split, free⟩, _⟩ :=
              ih (fun other member => single other (.tail _ member)) initial
            refine ⟨count + 1, ⟨⟨tail, ?_, free⟩, linesOf_ended _⟩⟩
            simp [split]

variable {Item : Type}

/-- The readings of all lines. What stands behind the last newline is not looked at. -/
def readLines (read : List Char → Option Item) (text : String) : Option (List Item) :=
  (text.toList.splitOn '\n').dropLast.mapM read

theorem readLines_line {body : String} (single : '\n' ∉ body.toList)
    (read : List Char → Option Item) (rest : String) :
    readLines read (body ++ "\n" ++ rest) = do
      let item ← read body.toList
      let items ← readLines read rest
      return item :: items := by
  have lines : (body ++ "\n" ++ rest).toList.splitOn '\n' =
      body.toList :: rest.toList.splitOn '\n' := by
    rw [String.toList_append, String.toList_append, List.append_assoc]
    exact List.splitOn_append_cons_self_of_not_mem single _
  unfold readLines
  rw [lines, List.dropLast_cons_of_ne_nil (List.splitOn_ne_nil _ _), List.mapM_cons]

theorem readLines_linesOf {read : List Char → Option Item} {bodies : List String}
    {items : List Item} (single : ∀ body ∈ bodies, '\n' ∉ body.toList)
    (each : List.Forall₂ (fun body item => read body.toList = some item) bodies items) :
    readLines read (linesOf bodies) = some items := by
  induction each with
  | nil => rfl
  | cons first _ ih =>
      rw [linesOf_cons, readLines_line (single _ List.mem_cons_self), first,
        ih fun body member => single body (.tail _ member)]
      rfl

end Foundation
