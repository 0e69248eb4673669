import Mathlib.Algebra.Group.Nat.Defs
import Mathlib.Tactic.Common

/-! Computations that return a value, return a typed error, or panic, with the
arithmetic of a build that may check for overflow. -/

set_option autoImplicit false

namespace Foundation

inductive Outcome (Error Value : Type) where
  | ok (value : Value)
  | err (error : Error)
  | panicked
  deriving DecidableEq, Repr

namespace Outcome

variable {Error Value Next : Type}

protected def bind (outcome : Outcome Error Value) (next : Value → Outcome Error Next) :
    Outcome Error Next :=
  match outcome with
  | .ok value => next value
  | .err error => .err error
  | .panicked => .panicked

instance : Monad (Outcome Error) where
  pure := .ok
  bind := Outcome.bind

instance : LawfulMonad (Outcome Error) :=
  LawfulMonad.mk' _
    (fun outcome => by cases outcome <;> rfl)
    (fun _ _ => rfl)
    (fun outcome _ _ => by cases outcome <;> rfl)

/-- A caller that matches on the result of a fallible call; a panic is not caught. -/
def attempt (outcome : Outcome Error Value) : Outcome Error (Except Error Value) :=
  match outcome with
  | .ok value => .ok (.ok value)
  | .err error => .ok (.error error)
  | .panicked => .panicked

def mapErr {Error' : Type} (outcome : Outcome Error Value) (wrap : Error → Error') :
    Outcome Error' Value :=
  match outcome with
  | .ok value => .ok value
  | .err error => .err (wrap error)
  | .panicked => .panicked

def ofExcept : Except Error Value → Outcome Error Value
  | .ok value => .ok value
  | .error error => .err error

def Panics (outcome : Outcome Error Value) : Prop :=
  outcome = .panicked

@[simp] theorem pure_eq_ok (value : Value) : (pure value : Outcome Error Value) = .ok value := rfl

@[simp] theorem ok_bind (value : Value) (next : Value → Outcome Error Next) :
    (Outcome.ok value >>= next) = next value := rfl

@[simp] theorem err_bind (error : Error) (next : Value → Outcome Error Next) :
    (Outcome.err error >>= next) = .err error := rfl

@[simp] theorem panicked_bind (next : Value → Outcome Error Next) :
    ((Outcome.panicked : Outcome Error Value) >>= next) = .panicked := rfl

@[simp] theorem panics_ok (value : Value) : ¬ (Outcome.ok value : Outcome Error Value).Panics := by
  simp [Panics]

@[simp] theorem panics_pure (value : Value) :
    ¬ (pure value : Outcome Error Value).Panics :=
  panics_ok value

@[simp] theorem panics_err (error : Error) : ¬ (Outcome.err error : Outcome Error Value).Panics := by
  simp [Panics]

@[simp] theorem panics_panicked : (Outcome.panicked : Outcome Error Value).Panics := rfl

theorem bind_panics_iff {outcome : Outcome Error Value} {next : Value → Outcome Error Next} :
    (outcome >>= next).Panics ↔
      outcome.Panics ∨ ∃ value, outcome = .ok value ∧ (next value).Panics := by
  cases outcome <;> simp

theorem bind_eq_ok_iff {outcome : Outcome Error Value} {next : Value → Outcome Error Next}
    {result : Next} :
    (outcome >>= next) = .ok result ↔ ∃ value, outcome = .ok value ∧ next value = .ok result := by
  cases outcome <;> simp

theorem bind_panics_iff_left {outcome : Outcome Error Value} {next : Value → Outcome Error Next}
    (safe : ∀ value, ¬ (next value).Panics) : (outcome >>= next).Panics ↔ outcome.Panics := by
  rw [bind_panics_iff]
  constructor
  · intro panics
    rcases panics with first | ⟨value, _, later⟩
    · exact first
    · exact absurd later (safe value)
  · exact .inl

@[simp] theorem attempt_panics {outcome : Outcome Error Value} :
    outcome.attempt.Panics ↔ outcome.Panics := by
  cases outcome <;> simp [attempt]

@[simp] theorem mapErr_panics {Error' : Type} {outcome : Outcome Error Value}
    {wrap : Error → Error'} : (outcome.mapErr wrap).Panics ↔ outcome.Panics := by
  cases outcome <;> simp [mapErr]

end Outcome

/-- The two checks that a build profile turns on or off. -/
structure Profile where
  overflowChecks : Bool
  debugAssertions : Bool
  deriving DecidableEq, Repr

def Profile.dev : Profile :=
  { overflowChecks := true, debugAssertions := true }

namespace Profile

variable {Error : Type} (profile : Profile)

def add (left right : UInt64) : Outcome Error UInt64 :=
  if profile.overflowChecks ∧ 2 ^ 64 ≤ left.toNat + right.toNat then .panicked
  else .ok (left + right)

def sub (left right : UInt64) : Outcome Error UInt64 :=
  if profile.overflowChecks ∧ left < right then .panicked else .ok (left - right)

/-- `left - right` on sizes, which wrap at 64 bits when nothing checks them. -/
def subSize (left right : Nat) : Outcome Error Nat :=
  if right ≤ left then .ok (left - right)
  else if profile.overflowChecks then .panicked
  else .ok (2 ^ 64 + left - right)

def debugAssert (condition : Prop) [Decidable condition] : Outcome Error Unit :=
  if profile.debugAssertions ∧ ¬ condition then .panicked else .ok ()

/-- What does not overflow is added in every build, and the rest where nothing checks. -/
theorem add_eq_ok_of {left right : UInt64}
    (safe : profile.overflowChecks = false ∨ left.toNat + right.toNat < 2 ^ 64) :
    (profile.add left right : Outcome Error UInt64) = .ok (left + right) := by
  apply if_neg
  intro overflows
  rcases safe with unchecked | fits
  · rw [unchecked] at overflows
    exact Bool.false_ne_true overflows.1
  · exact absurd overflows.2 (Nat.not_le_of_gt fits)

theorem add_panics {left right : UInt64} (checked : profile.overflowChecks = true)
    (overflows : 2 ^ 64 ≤ left.toNat + right.toNat) :
    (profile.add left right : Outcome Error UInt64) = .panicked := by
  unfold add
  rw [if_pos ⟨checked, overflows⟩]

theorem sub_eq_ok_of {left right : UInt64}
    (safe : profile.overflowChecks = false ∨ right ≤ left) :
    (profile.sub left right : Outcome Error UInt64) = .ok (left - right) := by
  apply if_neg
  intro underflows
  rcases safe with unchecked | fits
  · rw [unchecked] at underflows
    exact Bool.false_ne_true underflows.1
  · exact absurd underflows.2 (UInt64.not_lt.mpr fits)

theorem subSize_eq_ok {left right : Nat} (fits : right ≤ left) :
    (profile.subSize left right : Outcome Error Nat) = .ok (left - right) :=
  if_pos fits

theorem debugAssert_eq_ok {condition : Prop} [Decidable condition] (holds : condition) :
    (profile.debugAssert condition : Outcome Error Unit) = .ok () := by
  simp [debugAssert, holds]

end Profile

end Foundation
