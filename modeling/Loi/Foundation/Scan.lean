import Mathlib.Data.List.Basic
import Mathlib.Tactic.Common

/-! Terminated texts in a row of cells, not all of which can be read: what it means
to read one cell after the other up to the terminator. -/

set_option autoImplicit false

namespace Foundation

variable {Cell : Type}

/-- What reading cell by cell comes to. -/
inductive Scan (Cell : Type) where
  | terminated (text : List Cell)
  | unterminated
  | unreadable
  deriving DecidableEq, Repr

def Scan.prepend (front : List Cell) : Scan Cell → Scan Cell
  | .terminated text => .terminated (front ++ text)
  | .unterminated => .unterminated
  | .unreadable => .unreadable

theorem Scan.prepend_prepend (front back : List Cell) (scanned : Scan Cell) :
    (scanned.prepend back).prepend front = scanned.prepend (front ++ back) := by
  cases scanned <;> simp [Scan.prepend]

section Texts

variable (stop : Cell)

/-- A text and its terminator are the first cells, `budget` at most. -/
structure TerminatedText (cells : Nat → Option Cell) (budget : Nat) (text : List Cell) : Prop where
  within : text.length < budget
  holds : ∀ index (bound : index < text.length), cells index = some text[index]
  before : stop ∉ text
  ends : cells text.length = some stop

/-- All cells can be read and none is the terminator. -/
def Unterminated (cells : Nat → Option Cell) (budget : Nat) : Prop :=
  ∀ index < budget, ∃ cell, cells index = some cell ∧ cell ≠ stop

variable {stop}

theorem TerminatedText.unique {cells : Nat → Option Cell} {budget budget' : Nat}
    {text text' : List Cell} (terminated : TerminatedText stop cells budget text)
    (terminated' : TerminatedText stop cells budget' text') : text = text' := by
  have noShorter : ∀ {budget budget' : Nat} {text text' : List Cell},
      TerminatedText stop cells budget text → TerminatedText stop cells budget' text' →
      text'.length ≤ text.length := by
    intro budget budget' text text' terminated terminated'
    apply Nat.le_of_not_lt
    intro shorter
    have ends := terminated.ends
    rw [terminated'.holds _ shorter] at ends
    exact terminated'.before (Option.some.inj ends ▸ List.getElem_mem shorter)
  apply List.ext_getElem
    (Nat.le_antisymm (noShorter terminated' terminated) (noShorter terminated terminated'))
  intro index bound bound'
  have same := terminated.holds index bound
  rw [terminated'.holds index bound'] at same
  exact (Option.some.inj same).symm

theorem terminatedText_cons {cells : Nat → Option Cell} {budget : Nat} {cell : Cell}
    {text : List Cell} (first : cells 0 = some cell) (other : cell ≠ stop) :
    TerminatedText stop cells (budget + 1) (cell :: text) ↔
      TerminatedText stop (fun index => cells (index + 1)) budget text := by
  constructor
  · intro terminated
    refine ⟨Nat.lt_of_succ_lt_succ terminated.within, ?_, ?_, terminated.ends⟩
    · intro index bound
      exact terminated.holds (index + 1) (Nat.succ_lt_succ bound)
    · exact fun member => terminated.before (.tail _ member)
  · intro terminated
    refine ⟨Nat.succ_lt_succ terminated.within, ?_, ?_, terminated.ends⟩
    · intro index bound
      cases index with
      | zero => exact first
      | succ index => exact terminated.holds index (Nat.lt_of_succ_lt_succ bound)
    · intro member
      rcases List.mem_cons.mp member with same | later
      · exact other same.symm
      · exact terminated.before later

theorem unterminated_succ {cells : Nat → Option Cell} {budget : Nat} {cell : Cell}
    (first : cells 0 = some cell) (other : cell ≠ stop) :
    Unterminated stop cells (budget + 1) ↔
      Unterminated stop (fun index => cells (index + 1)) budget := by
  constructor
  · intro unterminated index bound
    exact unterminated (index + 1) (Nat.succ_lt_succ bound)
  · intro unterminated index bound
    cases index with
    | zero => exact ⟨cell, first, other⟩
    | succ index => exact unterminated index (Nat.lt_of_succ_lt_succ bound)

theorem not_terminatedText_of_unreadable {cells : Nat → Option Cell} {budget : Nat}
    (first : cells 0 = none) (text : List Cell) : ¬ TerminatedText stop cells budget text := by
  intro terminated
  cases text with
  | nil =>
      have ends := terminated.ends
      rw [List.length_nil, first] at ends
      cases ends
  | cons cell rest =>
      have holds := terminated.holds 0 (Nat.succ_pos _)
      rw [first] at holds
      cases holds

end Texts

section Scan

variable [DecidableEq Cell] (stop : Cell)

/-- Read up to the terminator, and no more than `budget` cells. -/
def scan : Nat → (Nat → Option Cell) → Scan Cell
  | 0, _ => .unterminated
  | budget + 1, cells =>
      match cells 0 with
      | none => .unreadable
      | some cell =>
          if cell = stop then .terminated []
          else (scan budget fun index => cells (index + 1)).prepend [cell]

variable {stop} {cells : Nat → Option Cell}

theorem scan_unreadable {budget : Nat} (more : 0 < budget) (first : cells 0 = none) :
    scan stop budget cells = .unreadable := by
  cases budget with
  | zero => exact absurd more (Nat.lt_irrefl 0)
  | succ budget => rw [scan, first]

theorem scan_stop (budget : Nat) (first : cells 0 = some stop) :
    scan stop (budget + 1) cells = .terminated [] := by
  rw [scan, first]
  exact if_pos rfl

theorem scan_other (budget : Nat) {cell : Cell} (first : cells 0 = some cell)
    (other : cell ≠ stop) :
    scan stop (budget + 1) cells =
      (scan stop budget fun index => cells (index + 1)).prepend [cell] := by
  rw [scan, first]
  exact if_neg other

theorem scan_eq_terminated_iff {budget : Nat} {text : List Cell} :
    scan stop budget cells = .terminated text ↔ TerminatedText stop cells budget text := by
  induction budget generalizing cells text with
  | zero => exact iff_of_false nofun fun terminated => Nat.not_lt_zero _ terminated.within
  | succ budget ih =>
      cases first : cells 0 with
      | none =>
          rw [scan_unreadable (Nat.succ_pos budget) first]
          exact iff_of_false nofun (not_terminatedText_of_unreadable first text)
      | some cell =>
          by_cases same : cell = stop
          · subst same
            have empty : TerminatedText cell cells (budget + 1) [] :=
              ⟨Nat.succ_pos _, nofun, List.not_mem_nil, first⟩
            rw [scan_stop budget first, Scan.terminated.injEq]
            exact ⟨fun same => same ▸ empty, empty.unique⟩
          · rw [scan_other budget first same]
            cases text with
            | nil =>
                refine iff_of_false ?_ fun terminated => ?_
                · cases scan stop budget fun index => cells (index + 1) <;> simp [Scan.prepend]
                · have ends := terminated.ends
                  rw [List.length_nil, first] at ends
                  exact same (Option.some.inj ends)
            | cons head rest =>
                by_cases starts : head = cell
                · subst starts
                  rw [terminatedText_cons first same, ← ih]
                  cases scan stop budget fun index => cells (index + 1) <;> simp [Scan.prepend]
                · refine iff_of_false ?_ fun terminated => ?_
                  · cases scan stop budget fun index => cells (index + 1) <;>
                      simp [Scan.prepend, Ne.symm starts]
                  · have holds := terminated.holds 0 (Nat.succ_pos _)
                    rw [first] at holds
                    exact starts (Option.some.inj holds).symm

theorem scan_eq_unterminated_iff {budget : Nat} :
    scan stop budget cells = .unterminated ↔ Unterminated stop cells budget := by
  induction budget generalizing cells with
  | zero => exact iff_of_true rfl fun index bound => absurd bound (Nat.not_lt_zero index)
  | succ budget ih =>
      cases first : cells 0 with
      | none =>
          rw [scan_unreadable (Nat.succ_pos budget) first]
          refine iff_of_false nofun fun unterminated => ?_
          obtain ⟨cell, found, _⟩ := unterminated 0 (Nat.succ_pos _)
          rw [first] at found
          cases found
      | some cell =>
          by_cases same : cell = stop
          · subst same
            rw [scan_stop budget first]
            refine iff_of_false nofun fun unterminated => ?_
            obtain ⟨other, found, different⟩ := unterminated 0 (Nat.succ_pos _)
            rw [first] at found
            exact different (Option.some.inj found).symm
          · rw [scan_other budget first same, unterminated_succ first same, ← ih]
            cases scan stop budget fun index => cells (index + 1) <;> simp [Scan.prepend]

/-- A scan goes on behind cells that are not the terminator. -/
theorem scan_chunk {budget : Nat} {chunk : List Cell}
    (holds : ∀ index (bound : index < chunk.length), cells index = some chunk[index])
    (free : stop ∉ chunk) (within : chunk.length ≤ budget) :
    scan stop budget cells =
      (scan stop (budget - chunk.length) fun index => cells (chunk.length + index)).prepend
        chunk := by
  induction chunk generalizing budget cells with
  | nil =>
      simp only [List.length_nil, Nat.sub_zero, Nat.zero_add]
      cases scan stop budget cells <;> rfl
  | cons cell rest ih =>
      rw [List.mem_cons, not_or] at free
      cases budget with
      | zero => exact absurd within (Nat.not_succ_le_zero _)
      | succ budget =>
          have first : cells 0 = some cell := holds 0 (Nat.succ_pos _)
          have later := ih (fun index bound => holds (index + 1) (Nat.succ_lt_succ bound)) free.2
            (Nat.le_of_succ_le_succ within)
          rw [scan_other budget first (Ne.symm free.1), later, Scan.prepend_prepend]
          simp only [List.singleton_append, List.length_cons, Nat.succ_sub_succ, Nat.add_right_comm]

/-- A text with such cells in front of it is they and a text behind them. -/
theorem terminatedText_chunk {budget : Nat} {chunk text : List Cell}
    (holds : ∀ index (bound : index < chunk.length), cells index = some chunk[index])
    (free : stop ∉ chunk) (within : chunk.length ≤ budget) :
    TerminatedText stop cells budget text ↔
      ∃ rest, text = chunk ++ rest ∧
        TerminatedText stop (fun index => cells (chunk.length + index)) (budget - chunk.length)
          rest := by
  simp only [← scan_eq_terminated_iff]
  rw [scan_chunk holds free within]
  cases scan stop (budget - chunk.length) fun index => cells (chunk.length + index) with
  | terminated found => simp [Scan.prepend, eq_comm]
  | unterminated => simp [Scan.prepend]
  | unreadable => simp [Scan.prepend]

/-- The first terminator among cells that can be read ends a text. -/
theorem terminatedText_take {budget index : Nat} {chunk : List Cell}
    (holds : ∀ index (bound : index < chunk.length), cells index = some chunk[index])
    (search : chunk.findIdx? (· = stop) = some index) (within : chunk.length ≤ budget) :
    TerminatedText stop cells budget (chunk.take index) := by
  obtain ⟨bound, found, before⟩ := List.findIdx?_eq_some_iff_getElem.mp search
  simp only [decide_eq_true_eq] at found before
  have size : (chunk.take index).length = index := by
    rw [List.length_take]
    omega
  refine ⟨by omega, ?_, ?_, by rw [size, holds index bound, found]⟩
  · intro position inside
    rw [holds position (by omega), List.getElem_take]
  · intro member
    obtain ⟨position, inside, same⟩ := List.mem_iff_getElem.mp member
    rw [List.getElem_take] at same
    exact before position (by omega) same

theorem scan_ends {budget index : Nat} {chunk : List Cell}
    (holds : ∀ index (bound : index < chunk.length), cells index = some chunk[index])
    (search : chunk.findIdx? (· = stop) = some index) (within : chunk.length ≤ budget) :
    scan stop budget cells = .terminated (chunk.take index) :=
  scan_eq_terminated_iff.mpr (terminatedText_take holds search within)

/-- Only the cells within the budget count. -/
theorem scan_congr {budget : Nat} {other : Nat → Option Cell}
    (agree : ∀ index < budget, cells index = other index) :
    scan stop budget cells = scan stop budget other := by
  induction budget generalizing cells other with
  | zero => rfl
  | succ budget ih =>
      have later := ih fun index bound => agree (index + 1) (Nat.succ_lt_succ bound)
      rw [scan, scan, agree 0 (Nat.succ_pos _), later]

end Scan

end Foundation
