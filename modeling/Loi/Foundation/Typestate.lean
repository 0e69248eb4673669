import Loi.Foundation.Program

/-! Protocols of calls, and a program logic for them: from a state of the protocol a
program makes allowed calls only, whatever they are answered, and returns in a state that
its postcondition knows. -/

set_option autoImplicit false

namespace Foundation

/-- Which calls are allowed in a state, and the state behind an answered call. -/
structure Protocol {Call : Type} (Answer : Call → Type) (State : Type) where
  allows : State → Call → Prop
  after : State → (call : Call) → Answer call → State

namespace Protocol

variable {Call State Value Next : Type} {Answer : Call → Type}

def afterAll (protocol : Protocol Answer State) (state : State)
    (events : List (Event Answer)) : State :=
  events.foldl (fun state event => protocol.after state event.call event.answer) state

/-- Each of the events is of a call that is allowed where it stands. -/
def Obeyed (protocol : Protocol Answer State) : State → List (Event Answer) → Prop
  | _, [] => True
  | state, event :: more =>
      protocol.allows state event.call ∧
        protocol.Obeyed (protocol.after state event.call event.answer) more

/-- What is left of a program behind an event. -/
def behind (program : Program Answer Value) (event : Event Answer) : Program Answer Value :=
  fun more => program (event :: more)

/-- The program keeps to the protocol for its next calls, as many as are counted. -/
def KeepsFor (protocol : Protocol Answer State) (post : Value → State → Prop) :
    Nat → State → Program Answer Value → Prop
  | 0, _, _ => True
  | count + 1, state, program =>
      (∃ value, program = pure value ∧ post value state) ∨
        ∃ call, program [] = .asks call ∧ protocol.allows state call ∧
          ∀ answer, protocol.KeepsFor post count (protocol.after state call answer)
            (behind program ⟨call, answer⟩)

def Keeps (protocol : Protocol Answer State) (state : State) (program : Program Answer Value)
    (post : Value → State → Prop) : Prop :=
  ∀ count, protocol.KeepsFor post count state program

variable {protocol : Protocol Answer State} {post : Value → State → Prop} {state : State}
  {program : Program Answer Value}

theorem KeepsFor.weaken {weaker : Value → State → Prop} {count : Nat}
    (keeps : protocol.KeepsFor post count state program)
    (weakens : ∀ value state, post value state → weaker value state) :
    protocol.KeepsFor weaker count state program := by
  induction count generalizing state program with
  | zero => trivial
  | succ count ih =>
      rcases keeps with ⟨value, same, held⟩ | ⟨call, asks, allowed, later⟩
      · exact .inl ⟨value, same, weakens value state held⟩
      · exact .inr ⟨call, asks, allowed, fun answer => ih (later answer)⟩

namespace Keeps

theorem pure {value : Value} (held : post value state) :
    protocol.Keeps state (pure value) post := by
  intro count
  cases count with
  | zero => trivial
  | succ count => exact .inl ⟨value, rfl, held⟩

theorem asks {call : Call} (asks : program [] = .asks call) (allowed : protocol.allows state call)
    (later : ∀ answer,
      protocol.Keeps (protocol.after state call answer) (behind program ⟨call, answer⟩) post) :
    protocol.Keeps state program post := by
  intro count
  cases count with
  | zero => trivial
  | succ count => exact .inr ⟨call, asks, allowed, fun answer => later answer count⟩

theorem weaken {weaker : Value → State → Prop} (keeps : protocol.Keeps state program post)
    (weakens : ∀ value state, post value state → weaker value state) :
    protocol.Keeps state program weaker :=
  fun count => (keeps count).weaken weakens

theorem bind {next : Value → Program Answer Next} {last : Next → State → Prop}
    (first : protocol.Keeps state program post)
    (second : ∀ value state, post value state → protocol.Keeps state (next value) last) :
    protocol.Keeps state (program >>= next) last := by
  intro count
  induction count generalizing state program with
  | zero => trivial
  | succ count ih =>
      rcases first (count + 1) with ⟨value, rfl, held⟩ | ⟨call, asks, allowed, _⟩
      · rw [pure_bind]
        exact second value state held (count + 1)
      · refine .inr ⟨call, Program.bind_asks asks next, allowed, fun answer => ?_⟩
        apply ih
        intro fewer
        -- the first program makes this call in its longer approximations too
        rcases first (fewer + 1) with ⟨value, same, _⟩ | ⟨other, asks', _, later⟩
        · rw [same] at asks
          cases asks
        · rw [asks] at asks'
          cases asks'
          exact later answer

theorem perform [DecidableEq Call] {call : Call} {post : Answer call → State → Prop}
    (allowed : protocol.allows state call)
    (held : ∀ answer, post answer (protocol.after state call answer)) :
    protocol.Keeps state (Foundation.perform call) post := by
  refine .asks (Foundation.perform_nil call) allowed fun answer => ?_
  have done : behind (Foundation.perform call) ⟨call, answer⟩ =
      (Pure.pure answer : Program Answer _) := funext fun more => perform_cons call answer more
  rw [done]
  exact .pure (held answer)

theorem perform_bind [DecidableEq Call] {call : Call} {next : Answer call → Program Answer Next}
    {last : Next → State → Prop} (allowed : protocol.allows state call)
    (later : ∀ answer, protocol.Keeps (protocol.after state call answer) (next answer) last) :
    protocol.Keeps state (Foundation.perform call >>= next) last := by
  have first : protocol.Keeps state (Foundation.perform call)
      (fun answer reached => reached = protocol.after state call answer) :=
    .perform allowed fun _ => rfl
  refine first.bind fun answer reached same => ?_
  rw [same]
  exact later answer

/-- A loop may go on for ever, so its rule asks for an invariant that every turn keeps. -/
theorem loop (invariant : State → Program Answer Value → Prop)
    (turn : ∀ state program, invariant state program →
      (∃ value, program = Pure.pure value ∧ post value state) ∨
        ∃ call, program [] = .asks call ∧ protocol.allows state call ∧
          ∀ answer, invariant (protocol.after state call answer) (behind program ⟨call, answer⟩))
    (start : invariant state program) : protocol.Keeps state program post := by
  intro count
  induction count generalizing state program with
  | zero => trivial
  | succ count ih =>
      rcases turn state program start with ended | ⟨call, asks, allowed, later⟩
      · exact .inl ended
      · exact .inr ⟨call, asks, allowed, fun answer => ih (later answer)⟩

section EarlyReturn

variable {Error : Type}

theorem run_bind {process : ExceptT Error (Program Answer) Value}
    {next : Value → ExceptT Error (Program Answer) Next}
    {middle : Except Error Value → State → Prop} {last : Except Error Next → State → Prop}
    (first : protocol.Keeps state process.run middle)
    (failed : ∀ error state, middle (.error error) state → last (.error error) state)
    (second : ∀ value state, middle (.ok value) state → protocol.Keeps state (next value).run last) :
    protocol.Keeps state (process >>= next).run last := by
  rw [ExceptT.run_bind]
  refine first.bind fun result state held => ?_
  cases result with
  | ok value => exact second value state held
  | error error => exact .pure (failed error state held)

theorem run_lift {middle : Except Error Value → State → Prop}
    (keeps : protocol.Keeps state program fun value reached => middle (.ok value) reached) :
    protocol.Keeps state (ExceptT.lift program : ExceptT Error (Program Answer) Value).run
      middle := by
  rw [ExceptT.run_lift, map_eq_pure_bind]
  exact keeps.bind fun _ _ held => .pure held

end EarlyReturn

end Keeps

/-- A history begins with the first call of its program, and goes on as a history of what
is left of it. -/
theorem history_cons_iff {event : Event Answer} {more : List (Event Answer)} :
    Program.History program (event :: more) ↔
      program [] = .asks event.call ∧ Program.History (behind program event) more := by
  constructor
  · intro history
    generalize whole : event :: more = events at history
    induction history generalizing more with
    | nil => cases whole
    | @snoc events last history asks ih =>
        cases events with
        | nil =>
            cases whole
            exact ⟨asks, .nil⟩
        | cons first rest =>
            cases whole
            obtain ⟨begins, goesOn⟩ := ih rfl
            exact ⟨begins, .snoc goesOn asks⟩
  · rintro ⟨begins, goesOn⟩
    induction goesOn with
    | nil => exact .snoc .nil begins
    | snoc _ asks ih => exact .snoc ih asks

/-- What the logic says of a program holds of all its histories. -/
theorem Keeps.history (keeps : protocol.Keeps state program post) {events : List (Event Answer)}
    (history : Program.History program events) :
    protocol.Obeyed state events ∧
      (∀ call, program events = .asks call → protocol.allows (protocol.afterAll state events) call) ∧
      ∀ value unread, program events = .returned value unread →
        unread = [] ∧ post value (protocol.afterAll state events) := by
  induction events generalizing state program with
  | nil =>
      refine ⟨trivial, ?_, ?_⟩
      · intro call asks
        rcases keeps 1 with ⟨value, rfl, _⟩ | ⟨other, asks', allowed, _⟩
        · cases asks
        · rw [asks] at asks'
          cases asks'
          exact allowed
      · intro value unread returned
        rcases keeps 1 with ⟨other, rfl, held⟩ | ⟨call, asks, _⟩
        · cases returned
          exact ⟨rfl, held⟩
        · rw [asks] at returned
          cases returned
  | cons event more ih =>
      obtain ⟨begins, goesOn⟩ := history_cons_iff.mp history
      have later : protocol.Keeps (protocol.after state event.call event.answer)
          (behind program event) post := by
        intro count
        rcases keeps (count + 1) with ⟨value, rfl, _⟩ | ⟨call, asks, _, later⟩
        · cases begins
        · rw [begins] at asks
          cases asks
          exact later event.answer
      have allowed : protocol.allows state event.call := by
        rcases keeps 1 with ⟨value, rfl, _⟩ | ⟨call, asks, allowed, _⟩
        · cases begins
        · rw [begins] at asks
          cases asks
          exact allowed
      obtain ⟨obeyed, next, last⟩ := ih later goesOn
      exact ⟨⟨allowed, obeyed⟩, next, last⟩

/-- The protocol of the calls that are on a list, one after the other. -/
def script : Protocol Answer (List Call) where
  allows calls call := calls.head? = some call
  after calls _ _ := calls.tail

theorem obeyed_script {calls : List Call} {events : List (Event Answer)}
    (obeyed : (script : Protocol Answer (List Call)).Obeyed calls events) :
    calls = events.map Event.call ++ script.afterAll calls events := by
  induction events generalizing calls with
  | nil => rfl
  | cons event more ih =>
      obtain ⟨next, later⟩ := obeyed
      obtain ⟨rest, rfl⟩ := List.head?_eq_some_iff.mp next
      exact congrArg (event.call :: ·) (ih later)

/-- A program that keeps to a script makes its calls, and has made all of them where it
returns. -/
theorem Keeps.follows {calls : List Call}
    (keeps : (script : Protocol Answer (List Call)).Keeps calls program fun _ left => left = [])
    {events : List (Event Answer)} (history : Program.History program events) :
    events.map Event.call <+: calls ∧
      ((∃ value, program events = .returned value []) ↔ events.map Event.call = calls) := by
  obtain ⟨obeyed, next, returned⟩ := keeps.history history
  have split := obeyed_script obeyed
  refine ⟨⟨_, split.symm⟩, ?_, ?_⟩
  · rintro ⟨value, ends⟩
    rw [(returned value [] ends).2, List.append_nil] at split
    exact split.symm
  · intro whole
    cases reached : program events with
    | returned value unread => exact ⟨value, by rw [(returned value unread reached).1]⟩
    | asks call =>
        have left : script.afterAll calls events = [] :=
          List.self_eq_append_right.mp (whole.trans split)
        have first := next call reached
        rw [left] at first
        cases first

end Protocol

end Foundation
