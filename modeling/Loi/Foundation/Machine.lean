import Mathlib.Data.List.Induction

/-! Machines that react to one input at a time, may fail, and stop at the first
failure. A failing reaction still leaves a state and the outputs it produced
before failing, so effects and errors are never confused. -/

set_option autoImplicit false

namespace Foundation

/-- What one reaction leaves behind, whether or not it succeeded. -/
structure Reaction (State Output Error : Type) where
  state : State
  outputs : List Output
  result : Except Error Unit

abbrev Machine (State Input Output Error : Type) :=
  State → Input → Reaction State Output Error

/-- A finite run: the last state, one log entry per handled input, and the
error of the last handled input if it failed. -/
structure Run (State Output Error : Type) where
  state : State
  log : List (List Output)
  result : Except Error Unit

def Run.outputs {State Output Error : Type} (run : Run State Output Error) : List Output :=
  run.log.flatten

namespace Machine

variable {State Local Input Output Error : Type}

def run (machine : Machine State Input Output Error) (state : State) :
    List Input → Run State Output Error
  | [] => ⟨state, [], .ok ()⟩
  | input :: rest =>
      let reaction := machine state input
      match reaction.result with
      | .error error => ⟨reaction.state, [reaction.outputs], .error error⟩
      | .ok () =>
          let later := run machine reaction.state rest
          ⟨later.state, reaction.outputs :: later.log, later.result⟩

@[simp] theorem run_nil (machine : Machine State Input Output Error) (state : State) :
    run machine state [] = ⟨state, [], .ok ()⟩ := rfl

theorem run_cons_ok {machine : Machine State Input Output Error} {state : State}
    {input : Input} (rest : List Input) (success : (machine state input).result = .ok ()) :
    run machine state (input :: rest) =
      ⟨(run machine (machine state input).state rest).state,
        (machine state input).outputs :: (run machine (machine state input).state rest).log,
        (run machine (machine state input).state rest).result⟩ := by
  simp only [run, success]

theorem run_cons_error {machine : Machine State Input Output Error} {state : State}
    {input : Input} {error : Error} (rest : List Input)
    (failure : (machine state input).result = .error error) :
    run machine state (input :: rest) =
      ⟨(machine state input).state, [(machine state input).outputs], .error error⟩ := by
  simp only [run, failure]

theorem run_append {machine : Machine State Input Output Error} {state : State}
    {seen : List Input} (rest : List Input)
    (success : (run machine state seen).result = .ok ()) :
    run machine state (seen ++ rest) =
      ⟨(run machine (run machine state seen).state rest).state,
        (run machine state seen).log ++ (run machine (run machine state seen).state rest).log,
        (run machine (run machine state seen).state rest).result⟩ := by
  induction seen generalizing state with
  | nil => rfl
  | cons input seen ih =>
      cases reacted : (machine state input).result with
      | error error =>
          rw [run_cons_error seen reacted] at success
          cases success
      | ok =>
          rw [run_cons_ok seen reacted] at success
          rw [List.cons_append, run_cons_ok _ reacted, ih success, run_cons_ok seen reacted]
          rfl

theorem run_initial_ok {machine : Machine State Input Output Error} {state : State}
    {seen rest : List Input}
    (success : (run machine state (seen ++ rest)).result = .ok ()) :
    (run machine state seen).result = .ok () := by
  induction seen generalizing state with
  | nil => rfl
  | cons input seen ih =>
      cases reacted : (machine state input).result with
      | error error =>
          rw [List.cons_append, run_cons_error _ reacted] at success
          cases success
      | ok =>
          rw [List.cons_append, run_cons_ok _ reacted] at success
          rw [run_cons_ok _ reacted]
          exact ih success

theorem run_snoc {machine : Machine State Input Output Error} {state : State}
    {seen : List Input} {input : Input}
    (success : (run machine state seen).result = .ok ()) :
    run machine state (seen ++ [input]) =
      ⟨(machine (run machine state seen).state input).state,
        (run machine state seen).log ++ [(machine (run machine state seen).state input).outputs],
        (machine (run machine state seen).state input).result⟩ := by
  rw [run_append [input] success]
  cases reacted : (machine (run machine state seen).state input).result with
  | error error => rw [run_cons_error [] reacted]
  | ok => rw [run_cons_ok [] reacted]; rfl

theorem run_snoc_ok {machine : Machine State Input Output Error} {state : State}
    {seen : List Input} {input : Input}
    (success : (run machine state (seen ++ [input])).result = .ok ()) :
    (run machine state seen).result = .ok () ∧
      (machine (run machine state seen).state input).result = .ok () := by
  have before := run_initial_ok success
  refine ⟨before, ?_⟩
  rw [run_snoc before] at success
  exact success

theorem run_log_length {machine : Machine State Input Output Error} {state : State}
    {inputs : List Input} (success : (run machine state inputs).result = .ok ()) :
    (run machine state inputs).log.length = inputs.length := by
  induction inputs using List.reverseRecOn with
  | nil => rfl
  | append_singleton seen input ih =>
      obtain ⟨before, _⟩ := run_snoc_ok success
      simp [run_snoc before, ih before]

theorem run_log_length_le (machine : Machine State Input Output Error) (state : State)
    (inputs : List Input) : (run machine state inputs).log.length ≤ inputs.length := by
  induction inputs generalizing state with
  | nil => exact Nat.le_refl _
  | cons input rest ih =>
      cases reacted : (machine state input).result with
      | error error =>
          rw [run_cons_error rest reacted]
          exact Nat.succ_le_succ (Nat.zero_le _)
      | ok =>
          rw [run_cons_ok rest reacted]
          exact Nat.succ_le_succ (ih _)

/-- What holds of every output of every reaction holds of those of a run. -/
theorem run_log_forall {machine : Machine State Input Output Error} {told : Output → Prop}
    (each : ∀ state input, ∀ output ∈ (machine state input).outputs, told output)
    (state : State) (inputs : List Input) :
    ∀ outputs ∈ (run machine state inputs).log, ∀ output ∈ outputs, told output := by
  induction inputs generalizing state with
  | nil => simp
  | cons input rest ih =>
      intro outputs member
      cases reacted : (machine state input).result with
      | error error =>
          rw [run_cons_error rest reacted, List.mem_singleton] at member
          exact member ▸ each state input
      | ok =>
          rw [run_cons_ok rest reacted] at member
          rcases List.mem_cons.mp member with rfl | later
          · exact each state input
          · exact ih _ outputs later

/-- The log entry of an input is what the machine output in the state reached
by the inputs before it. -/
theorem run_log_at {machine : Machine State Input Output Error} {state : State}
    {seen rest : List Input} {input : Input}
    (success : (run machine state (seen ++ input :: rest)).result = .ok ()) :
    (run machine state (seen ++ input :: rest)).log[seen.length]? =
      some (machine (run machine state seen).state input).outputs := by
  have before := run_initial_ok success
  have reacted : (machine (run machine state seen).state input).result = .ok () := by
    rw [List.append_cons] at success
    exact (run_snoc_ok (run_initial_ok success)).2
  rw [run_append _ before, run_cons_ok rest reacted, ← run_log_length before]
  simp

/-- A failed run is a successful run of a proper prefix followed by one failing
reaction; nothing after that input is looked at. -/
theorem run_failure {machine : Machine State Input Output Error} {state : State}
    {inputs : List Input} {error : Error}
    (failure : (run machine state inputs).result = .error error) :
    ∃ seen input rest, inputs = seen ++ input :: rest ∧
      (run machine state seen).result = .ok () ∧
      run machine state inputs = run machine state (seen ++ [input]) := by
  induction inputs generalizing state with
  | nil => cases failure
  | cons input inputs ih =>
      cases reacted : (machine state input).result with
      | error found =>
          refine ⟨[], input, inputs, rfl, rfl, ?_⟩
          rw [run_cons_error inputs reacted, List.nil_append, run_cons_error [] reacted]
      | ok =>
          rw [run_cons_ok inputs reacted] at failure
          obtain ⟨seen, last, rest, split, before, same⟩ := ih failure
          refine ⟨input :: seen, last, rest, by rw [split, List.cons_append], ?_, ?_⟩
          · rw [run_cons_ok seen reacted]
            exact before
          · rw [run_cons_ok inputs reacted, same, List.cons_append,
              run_cons_ok (seen ++ [last]) reacted]

def Conforms (legal : List Input → Input → Prop) (inputs : List Input) : Prop :=
  ∀ seen input rest, inputs = seen ++ input :: rest → legal seen input

theorem Conforms.initial {legal : List Input → Input → Prop} {seen rest : List Input}
    (conforms : Conforms legal (seen ++ rest)) : Conforms legal seen := by
  intro before input after split
  exact conforms before input (after ++ rest) (by rw [split]; simp)

theorem Conforms.last {legal : List Input → Input → Prop} {seen : List Input} {input : Input}
    (conforms : Conforms legal (seen ++ [input])) : legal seen input :=
  conforms seen input [] rfl

theorem conforms_iff_getElem {legal : List Input → Input → Prop} {inputs : List Input} :
    Conforms legal inputs ↔
      ∀ index : Fin inputs.length, legal (inputs.take index) inputs[index] := by
  constructor
  · intro conforms index
    exact conforms _ _ (inputs.drop (index + 1)) (by simp)
  · intro each seen input rest split
    subst split
    simpa using each ⟨seen.length, by simp⟩

instance {legal : List Input → Input → Prop} [∀ seen input, Decidable (legal seen input)]
    (inputs : List Input) : Decidable (Conforms legal inputs) :=
  decidable_of_iff _ conforms_iff_getElem.symm

/-- What one successful reaction preserves, together with the inputs seen so
far, every successful run preserves. -/
theorem run_preserves {machine : Machine State Input Output Error} {initial : State}
    (invariant : List Input → State → Prop) (legal : List Input → Input → Prop)
    (start : invariant [] initial)
    (step : ∀ seen input state, legal seen input → invariant seen state →
      (machine state input).result = .ok () →
      invariant (seen ++ [input]) (machine state input).state)
    {inputs : List Input} (conforms : Conforms legal inputs)
    (success : (run machine initial inputs).result = .ok ()) :
    invariant inputs (run machine initial inputs).state := by
  induction inputs using List.reverseRecOn with
  | nil => exact start
  | append_singleton seen input ih =>
      obtain ⟨before, reacted⟩ := run_snoc_ok success
      have held := ih conforms.initial before
      rw [run_snoc before]
      exact step seen input _ conforms.last held reacted

/-- A relation that one pair of successful reactions preserves relates the ends
and the logs of any two successful runs on related inputs. -/
theorem run_simulates {State' Input' Output' : Type}
    {left : Machine State Input Output Error} {right : Machine State' Input' Output' Error}
    (states : State → State' → Prop) (inputs : Input → Input' → Prop)
    (outputs : List Output → List Output' → Prop)
    (step : ∀ state state' input input', states state state' → inputs input input' →
      (left state input).result = .ok () → (right state' input').result = .ok () →
      states (left state input).state (right state' input').state ∧
        outputs (left state input).outputs (right state' input').outputs)
    {state : State} {state' : State'} {ins : List Input} {ins' : List Input'}
    (start : states state state') (related : List.Forall₂ inputs ins ins')
    (success : (run left state ins).result = .ok ())
    (success' : (run right state' ins').result = .ok ()) :
    states (run left state ins).state (run right state' ins').state ∧
      List.Forall₂ outputs (run left state ins).log (run right state' ins').log := by
  induction related generalizing state state' with
  | nil => exact ⟨start, .nil⟩
  | @cons input input' ins ins' same rest ih =>
      cases reacted : (left state input).result with
      | error error =>
          rw [run_cons_error ins reacted] at success
          cases success
      | ok =>
          cases reacted' : (right state' input').result with
          | error error =>
              rw [run_cons_error ins' reacted'] at success'
              cases success'
          | ok =>
              rw [run_cons_ok ins reacted] at success ⊢
              rw [run_cons_ok ins' reacted'] at success' ⊢
              obtain ⟨next, said⟩ := step _ _ _ _ start same reacted reacted'
              obtain ⟨final, logs⟩ := ih next success success'
              exact ⟨final, .cons said logs⟩

/-- Two machines that a relation keeps in step, with the same results and with
outputs that are one view of the other's, stay in step over any run, a failing one
included. -/
theorem run_lockstep {State' Output' : Type} {left : Machine State Input Output Error}
    {right : Machine State' Input Output' Error} (states : State → State' → Prop)
    (view : List Output → List Output')
    (step : ∀ state state' input, states state state' →
      states (left state input).state (right state' input).state ∧
        (right state' input).outputs = view (left state input).outputs ∧
        (right state' input).result = (left state input).result)
    {state : State} {state' : State'} (start : states state state') (inputs : List Input) :
    states (run left state inputs).state (run right state' inputs).state ∧
      (run right state' inputs).log = (run left state inputs).log.map view ∧
      (run right state' inputs).result = (run left state inputs).result := by
  induction inputs generalizing state state' with
  | nil => exact ⟨start, rfl, rfl⟩
  | cons input inputs ih =>
      obtain ⟨next, said, same⟩ := step state state' input start
      cases reacted : (left state input).result with
      | error error =>
          rw [reacted] at same
          rw [run_cons_error inputs reacted, run_cons_error inputs same, said]
          exact ⟨next, rfl, rfl⟩
      | ok =>
          rw [reacted] at same
          rw [run_cons_ok inputs reacted, run_cons_ok inputs same, said]
          obtain ⟨final, logs, ends⟩ := ih next
          exact ⟨final, by rw [logs, List.map_cons], ends⟩

end Machine

end Foundation
