import Mathlib.Data.String.Basic
import Mathlib.Tactic.Common

/-! The sequences that select the graphic rendition of a terminal, `ESC [ .. m`, and
what is left of a text when they are deleted. -/

set_option autoImplicit false

namespace Foundation

def ESC : Char := '\x1b'

/-- What may stand between the bracket and the final `m`. -/
def isParameter (c : Char) : Bool :=
  c.isDigit || c = ';'

/-- The length of the rest of a sequence, behind its bracket. -/
def parametersLength : List Char → Option Nat
  | [] => none
  | c :: rest =>
      if c = 'm' then some 1
      else if isParameter c then (parametersLength rest).map (· + 1)
      else none

/-- The length of a sequence behind its `ESC`. -/
def sequenceLength : List Char → Option Nat
  | [] => none
  | c :: rest => if c = '[' then (parametersLength rest).map (· + 1) else none

/-- Delete the sequences, after skipping the characters that belong to the one before. -/
def withoutSgr : Nat → List Char → List Char
  | _, [] => []
  | skip + 1, _ :: rest => withoutSgr skip rest
  | 0, c :: rest =>
      if c = ESC then
        match sequenceLength rest with
        | some length => withoutSgr length rest
        | none => c :: withoutSgr 0 rest
      else c :: withoutSgr 0 rest

def stripSgr (text : String) : String :=
  String.ofList (withoutSgr 0 text.toList)

/-- One sequence. -/
def IsSgr (text : String) : Prop :=
  ∃ parameters : List Char, (∀ c ∈ parameters, isParameter c = true) ∧
    text.toList = ESC :: '[' :: parameters ++ ['m']

/-- Any number of sequences, and nothing else. -/
def SgrOnly (text : String) : Prop :=
  ∃ sequences : List String, (∀ sequence ∈ sequences, IsSgr sequence) ∧
    text = sequences.foldr (· ++ ·) ""

theorem isSgr_of_parameters {text : String} (parameters : List Char)
    (valid : parameters.all isParameter = true)
    (shape : text.toList = ESC :: '[' :: parameters ++ ['m']) : IsSgr text :=
  ⟨parameters, List.all_eq_true.mp valid, shape⟩

theorem IsSgr.sgrOnly {text : String} (sequence : IsSgr text) : SgrOnly text :=
  ⟨[text], fun _ member => List.mem_singleton.mp member ▸ sequence, by simp⟩

theorem IsSgr.sgrOnly_append {left right : String} (first : IsSgr left) (second : IsSgr right) :
    SgrOnly (left ++ right) := by
  refine ⟨[left, right], ?_, by simp⟩
  simp only [List.forall_mem_cons, List.not_mem_nil, false_imp_iff, implies_true, and_true]
  exact ⟨first, second⟩

theorem parametersLength_append {parameters : List Char}
    (valid : ∀ c ∈ parameters, isParameter c = true) (rest : List Char) :
    parametersLength (parameters ++ 'm' :: rest) = some (parameters.length + 1) := by
  induction parameters with
  | nil => simp [parametersLength]
  | cons c parameters ih =>
      have parameter := valid c List.mem_cons_self
      have notFinal : c ≠ 'm' := by
        intro final
        subst final
        revert parameter
        decide
      rw [List.cons_append, parametersLength, if_neg notFinal, if_pos parameter,
        ih fun other member => valid other (.tail _ member)]
      rfl

theorem withoutSgr_skip (skipped rest : List Char) :
    withoutSgr skipped.length (skipped ++ rest) = withoutSgr 0 rest := by
  induction skipped with
  | nil => rfl
  | cons c skipped ih => exact ih

theorem withoutSgr_plain {plain : List Char} (free : ESC ∉ plain) (rest : List Char) :
    withoutSgr 0 (plain ++ rest) = plain ++ withoutSgr 0 rest := by
  induction plain with
  | nil => rfl
  | cons c plain ih =>
      rw [List.mem_cons, not_or] at free
      rw [List.cons_append, withoutSgr, if_neg (Ne.symm free.1), ih free.2, List.cons_append]

theorem IsSgr.withoutSgr {sequence : String} (isSgr : IsSgr sequence) (rest : List Char) :
    withoutSgr 0 (sequence.toList ++ rest) = withoutSgr 0 rest := by
  obtain ⟨parameters, valid, shape⟩ := isSgr
  have length : sequenceLength (('[' :: parameters ++ ['m']) ++ rest) =
      some ('[' :: parameters ++ ['m']).length := by
    rw [List.append_assoc, List.singleton_append, List.cons_append, sequenceLength, if_pos rfl,
      parametersLength_append valid]
    simp
  have split : sequence.toList ++ rest = ESC :: (('[' :: parameters ++ ['m']) ++ rest) := by
    rw [shape]
    rfl
  rw [split, Foundation.withoutSgr, if_pos rfl, length]
  exact withoutSgr_skip _ rest

theorem stripSgr_append_plain {plain : String} (free : ESC ∉ plain.toList) (rest : String) :
    stripSgr (plain ++ rest) = plain ++ stripSgr rest := by
  unfold stripSgr
  rw [String.toList_append, withoutSgr_plain free, String.ofList_append, String.ofList_toList]

theorem stripSgr_append_sgr {styling : String} (only : SgrOnly styling) (rest : String) :
    stripSgr (styling ++ rest) = stripSgr rest := by
  obtain ⟨sequences, each, rfl⟩ := only
  induction sequences with
  | nil => simp
  | cons sequence sequences ih =>
      rw [List.foldr_cons, String.append_assoc, stripSgr, String.toList_append,
        (each sequence List.mem_cons_self).withoutSgr]
      exact ih fun other member => each other (.tail _ member)

/-- A sequence is on one line. -/
theorem SgrOnly.newline {text : String} (only : SgrOnly text) : '\n' ∉ text.toList := by
  obtain ⟨sequences, each, rfl⟩ := only
  induction sequences with
  | nil => simp
  | cons sequence sequences ih =>
      obtain ⟨parameters, valid, shape⟩ := each sequence List.mem_cons_self
      have inside : '\n' ∉ parameters := fun member => by
        have parameter := valid '\n' member
        revert parameter
        decide
      have first : '\n' ∉ sequence.toList := by
        rw [shape]
        simp [ESC, inside]
      rw [List.foldr_cons, String.toList_append, List.mem_append, not_or]
      exact ⟨first, ih fun other member => each other (.tail _ member)⟩

example : stripSgr "\x1b[1;31mENOENT\x1b[0m (\x1b[" = "ENOENT (\x1b[" := by decide

end Foundation
