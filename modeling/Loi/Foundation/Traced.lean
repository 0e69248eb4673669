import Loi.Foundation.Outcome

/-! Computations that keep a record of what they ask for. An instrumented copy of a
function has the function as its outcome, and beside it the requests it made. -/

set_option autoImplicit false

namespace Foundation

structure Traced (Request Error Value : Type) where
  requests : List Request
  outcome : Outcome Error Value

namespace Traced

variable {Request Error Value Next : Type}

protected def bind (first : Traced Request Error Value)
    (next : Value → Traced Request Error Next) : Traced Request Error Next :=
  match first.outcome with
  | .ok value =>
      { requests := first.requests ++ (next value).requests, outcome := (next value).outcome }
  | .err error => { requests := first.requests, outcome := .err error }
  | .panicked => { requests := first.requests, outcome := .panicked }

/-- A step that asks for nothing. -/
def lift (outcome : Outcome Error Value) : Traced Request Error Value :=
  { requests := [], outcome }

instance : Monad (Traced Request Error) where
  pure value := lift (.ok value)
  bind := Traced.bind

def ask (request : Request) (answer : Outcome Error Value) : Traced Request Error Value :=
  { requests := [request], outcome := answer }

def attempt (traced : Traced Request Error Value) : Traced Request Error (Except Error Value) :=
  { requests := traced.requests, outcome := traced.outcome.attempt }

def mapErr {Error' : Type} (traced : Traced Request Error Value) (wrap : Error → Error') :
    Traced Request Error' Value :=
  { requests := traced.requests, outcome := traced.outcome.mapErr wrap }

/-- The same computation behind other requests. -/
def after (requests : List Request) (traced : Traced Request Error Value) :
    Traced Request Error Value :=
  { requests := requests ++ traced.requests, outcome := traced.outcome }

@[simp] theorem outcome_lift (outcome : Outcome Error Value) :
    (lift outcome : Traced Request Error Value).outcome = outcome := rfl

@[simp] theorem outcome_pure (value : Value) :
    (pure value : Traced Request Error Value).outcome = .ok value := rfl

@[simp] theorem outcome_ask (request : Request) (answer : Outcome Error Value) :
    (ask request answer).outcome = answer := rfl

@[simp] theorem outcome_attempt (traced : Traced Request Error Value) :
    traced.attempt.outcome = traced.outcome.attempt := rfl

@[simp] theorem outcome_mapErr {Error' : Type} (traced : Traced Request Error Value)
    (wrap : Error → Error') : (traced.mapErr wrap).outcome = traced.outcome.mapErr wrap := rfl

@[simp] theorem outcome_after (requests : List Request) (traced : Traced Request Error Value) :
    (traced.after requests).outcome = traced.outcome := rfl

@[simp] theorem requests_attempt (traced : Traced Request Error Value) :
    traced.attempt.requests = traced.requests := rfl

@[simp] theorem requests_after (requests : List Request) (traced : Traced Request Error Value) :
    (traced.after requests).requests = requests ++ traced.requests := rfl

theorem after_after (first second : List Request) (traced : Traced Request Error Value) :
    (traced.after second).after first = traced.after (first ++ second) := by
  simp only [after, List.append_assoc]

/-- The record does not change what is computed. -/
@[simp] theorem outcome_bind (first : Traced Request Error Value)
    (next : Value → Traced Request Error Next) :
    (first >>= next).outcome = first.outcome >>= fun value => (next value).outcome := by
  have unfolded : (first >>= next) = Traced.bind first next := rfl
  rw [unfolded, Traced.bind]
  cases first.outcome <;> rfl

theorem bind_of_ok {first : Traced Request Error Value} {value : Value}
    (success : first.outcome = .ok value) (next : Value → Traced Request Error Next) :
    (first >>= next) = (next value).after first.requests := by
  have unfolded : (first >>= next) = Traced.bind first next := rfl
  rw [unfolded, Traced.bind, success]
  rfl

theorem bind_of_err {first : Traced Request Error Value} {error : Error}
    (failure : first.outcome = .err error) (next : Value → Traced Request Error Next) :
    (first >>= next) = { requests := first.requests, outcome := .err error } := by
  have unfolded : (first >>= next) = Traced.bind first next := rfl
  rw [unfolded, Traced.bind, failure]

/-- What asks for nothing adds nothing to the record. -/
theorem requests_bind_of_silent {first : Traced Request Error Value}
    {next : Value → Traced Request Error Next} (silent : ∀ value, (next value).requests = []) :
    (first >>= next).requests = first.requests := by
  have unfolded : (first >>= next) = Traced.bind first next := rfl
  rw [unfolded, Traced.bind]
  cases first.outcome with
  | ok value =>
      dsimp only
      rw [silent, List.append_nil]
  | err error => rfl
  | panicked => rfl

@[simp] theorem lift_ok_bind (value : Value) (next : Value → Traced Request Error Next) :
    (lift (.ok value) >>= next) = next value := rfl

end Traced

end Foundation
