import Mathlib.Tactic.Common

/-! Programs that act by calls: what a program does is told by the events, the calls with
their answers, that it has been through. -/

set_option autoImplicit false

namespace Foundation

structure Event {Call : Type} (Answer : Call → Type) where
  call : Call
  answer : Answer call

/-- A program makes a call next, or has returned and left the later events unread. -/
inductive Progress {Call : Type} (Answer : Call → Type) (Value : Type) where
  | asks (call : Call)
  | returned (value : Value) (unread : List (Event Answer))

/-- What a program does behind some events. -/
def Program {Call : Type} (Answer : Call → Type) (Value : Type) : Type :=
  List (Event Answer) → Progress Answer Value

variable {Call : Type} {Answer : Call → Type} {Value Next : Type}

section Calls

variable [DecidableEq Call]

def Event.answerTo (event : Event Answer) (call : Call) : Option (Answer call) :=
  if same : event.call = call then some (same ▸ event.answer) else none

@[simp] theorem Event.answerTo_self (call : Call) (answer : Answer call) :
    Event.answerTo ⟨call, answer⟩ call = some answer := by
  simp [Event.answerTo]

theorem Event.answerTo_eq_some {event : Event Answer} {call : Call} {answer : Answer call} :
    event.answerTo call = some answer ↔ event = ⟨call, answer⟩ := by
  constructor
  · intro found
    obtain ⟨other, given⟩ := event
    unfold Event.answerTo at found
    split at found
    case isTrue same =>
      cases same
      cases found
      rfl
    case isFalse => cases found
  · rintro rfl
    exact answerTo_self call answer

/-- One call. Behind an event of another call the program still waits for its own. -/
def perform (call : Call) : Program Answer (Answer call)
  | [] => .asks call
  | event :: more =>
      match event.answerTo call with
      | some answer => .returned answer more
      | none => .asks call

@[simp] theorem perform_nil (call : Call) :
    (perform call : Program Answer (Answer call)) [] = .asks call := rfl

@[simp] theorem perform_cons (call : Call) (answer : Answer call) (more : List (Event Answer)) :
    perform call (⟨call, answer⟩ :: more) = .returned answer more := by
  simp [perform]

theorem perform_other {call : Call} {event : Event Answer} (other : event.call ≠ call)
    (more : List (Event Answer)) : perform call (event :: more) = .asks call := by
  simp [perform, Event.answerTo, other]

end Calls

namespace Program

protected def bind (program : Program Answer Value) (next : Value → Program Answer Next) :
    Program Answer Next := fun events =>
  match program events with
  | .asks call => .asks call
  | .returned value unread => next value unread

instance : Monad (Program Answer) where
  pure value := fun events => .returned value events
  bind := Program.bind

@[simp] theorem pure_apply (value : Value) (events : List (Event Answer)) :
    (pure value : Program Answer Value) events = .returned value events := rfl

theorem bind_apply (program : Program Answer Value) (next : Value → Program Answer Next)
    (events : List (Event Answer)) :
    (program >>= next) events =
      match program events with
      | .asks call => .asks call
      | .returned value unread => next value unread := rfl

theorem map_apply (change : Value → Next) (program : Program Answer Value)
    (events : List (Event Answer)) :
    (change <$> program) events =
      match program events with
      | .asks call => .asks call
      | .returned value unread => .returned (change value) unread := rfl

theorem bind_asks {program : Program Answer Value} {events : List (Event Answer)} {call : Call}
    (asks : program events = .asks call) (next : Value → Program Answer Next) :
    (program >>= next) events = .asks call := by
  rw [bind_apply, asks]

theorem bind_returned {program : Program Answer Value} {events unread : List (Event Answer)}
    {value : Value} (returned : program events = .returned value unread)
    (next : Value → Program Answer Next) : (program >>= next) events = next value unread := by
  rw [bind_apply, returned]

instance : LawfulMonad (Program Answer) :=
  LawfulMonad.mk' _
    (fun program => by
      funext events
      change Program.bind program _ events = program events
      unfold Program.bind
      cases program events <;> rfl)
    (fun _ _ => rfl)
    (fun program _ _ => by
      funext events
      change Program.bind (Program.bind program _) _ events = Program.bind program _ events
      unfold Program.bind
      cases program events <;> rfl)

section EarlyReturn

variable {Error : Type} {process : ExceptT Error (Program Answer) Value}
  {events unread : List (Event Answer)}

theorem run_bind_asks {call : Call} (asks : process.run events = .asks call)
    (next : Value → ExceptT Error (Program Answer) Next) :
    (process >>= next).run events = .asks call := by
  rw [ExceptT.run_bind, bind_asks asks]

theorem run_bind_ok {value : Value} (returned : process.run events = .returned (.ok value) unread)
    (next : Value → ExceptT Error (Program Answer) Next) :
    (process >>= next).run events = (next value).run unread := by
  rw [ExceptT.run_bind, bind_returned returned]

theorem run_bind_error {error : Error}
    (returned : process.run events = .returned (.error error) unread)
    (next : Value → ExceptT Error (Program Answer) Next) :
    (process >>= next).run events = .returned (.error error) unread := by
  rw [ExceptT.run_bind, bind_returned returned]
  rfl

theorem run_lift {program : Program Answer Value} {value : Value}
    (returned : program events = .returned value unread) :
    (ExceptT.lift program : ExceptT Error (Program Answer) Value).run events =
      .returned (.ok value) unread := by
  rw [ExceptT.run_lift, map_apply, returned]

end EarlyReturn

/-- Behind the events, this is left of the program. -/
def Leaves (program : Program Answer Value) (events : List (Event Answer))
    (rest : Program Answer Value) : Prop :=
  ∀ more, program (events ++ more) = rest more

namespace Leaves

variable {program rest last : Program Answer Value} {events : List (Event Answer)}

theorem refl (program : Program Answer Value) : Leaves program [] program :=
  fun _ => rfl

theorem now (left : Leaves program events rest) : program events = rest [] := by
  rw [← left [], List.append_nil]

theorem snoc {event : Event Answer} (left : Leaves program events rest)
    (step : ∀ more, rest (event :: more) = last more) :
    Leaves program (events ++ [event]) last := by
  intro more
  rw [List.append_assoc, left, List.singleton_append, step]

end Leaves

/-- A program reads its events from the front. -/
def ReadsFront (program : Program Answer Value) : Prop :=
  ∀ ⦃events value unread⦄, program events = .returned value unread → unread <:+ events

namespace ReadsFront

theorem pure (value : Value) : ReadsFront (pure value : Program Answer Value) := by
  intro events found unread returned
  cases returned
  exact List.suffix_rfl

theorem perform [DecidableEq Call] (call : Call) :
    ReadsFront (Foundation.perform call : Program Answer (Answer call)) := by
  intro events found unread returned
  cases events with
  | nil => cases returned
  | cons event more =>
      cases answer : event.answerTo call with
      | some given =>
          simp only [Foundation.perform, answer] at returned
          cases returned
          exact List.suffix_cons event _
      | none =>
          simp only [Foundation.perform, answer] at returned
          cases returned

theorem bind {program : Program Answer Value} {next : Value → Program Answer Next}
    (first : ReadsFront program) (second : ∀ value, ReadsFront (next value)) :
    ReadsFront (program >>= next) := by
  intro events found unread returned
  rw [bind_apply] at returned
  cases result : program events with
  | asks call =>
      rw [result] at returned
      cases returned
  | returned value between =>
      rw [result] at returned
      exact (second value returned).trans (first result)

theorem run_bind {Error : Type} {process : ExceptT Error (Program Answer) Value}
    {next : Value → ExceptT Error (Program Answer) Next} (first : ReadsFront process.run)
    (second : ∀ value, ReadsFront (next value).run) : ReadsFront (process >>= next).run := by
  rw [ExceptT.run_bind]
  refine first.bind fun result => ?_
  cases result with
  | ok value => exact second value
  | error error => exact pure _

end ReadsFront

/-- The events are a history of the program: it made the calls, one after the other. -/
inductive History (program : Program Answer Value) : List (Event Answer) → Prop where
  | nil : History program []
  | snoc {events : List (Event Answer)} {event : Event Answer} :
      History program events → program events = .asks event.call →
      History program (events ++ [event])

end Program

end Foundation
