import Loi.Foundation.Machine

/-! Projecting a machine that serves many parties onto one of them. The party
sees only its own inputs; everybody else's inputs leave its view unchanged. -/

set_option autoImplicit false

namespace Foundation.Machine

variable {State Local Input Output Error : Type}

/-- `machine` restricted to the inputs selected by `own` is simulated step by
step by the one-party machine `party` running on `view`. -/
structure Projects (machine : Machine State Input Output Error)
    (party : Machine Local Input Output Error) (view : State → Local)
    (own : Input → Bool) (mine : Output → Bool)
    (legal : List Input → Input → Prop) (invariant : List Input → State → Prop) : Prop where
  keeps : ∀ seen input state, legal seen input → invariant seen state →
    (machine state input).result = .ok () →
    invariant (seen ++ [input]) (machine state input).state
  ownState : ∀ seen input state, legal seen input → invariant seen state → own input = true →
    view (machine state input).state = (party (view state) input).state
  ownOutputs : ∀ seen input state, legal seen input → invariant seen state → own input = true →
    (machine state input).outputs.filter mine = (party (view state) input).outputs
  ownResult : ∀ seen input state, legal seen input → invariant seen state → own input = true →
    (machine state input).result = (party (view state) input).result
  otherState : ∀ seen input state, legal seen input → invariant seen state → own input = false →
    view (machine state input).state = view state
  otherOutputs : ∀ seen input state, legal seen input → invariant seen state → own input = false →
    (machine state input).outputs.filter mine = []

variable {machine : Machine State Input Output Error} {party : Machine Local Input Output Error}
  {view : State → Local} {own : Input → Bool} {mine : Output → Bool}
  {legal : List Input → Input → Prop} {invariant : List Input → State → Prop}

theorem Projects.run_ok (projects : Projects machine party view own mine legal invariant)
    {initial : State} (start : invariant [] initial) {inputs : List Input}
    (conforms : Conforms legal inputs) (success : (run machine initial inputs).result = .ok ()) :
    (run party (view initial) (inputs.filter own)).result = .ok () ∧
      view (run machine initial inputs).state =
        (run party (view initial) (inputs.filter own)).state ∧
      (run machine initial inputs).outputs.filter mine =
        (run party (view initial) (inputs.filter own)).outputs := by
  induction inputs using List.reverseRecOn with
  | nil => exact ⟨rfl, rfl, rfl⟩
  | append_singleton seen input ih =>
      obtain ⟨before, reacted⟩ := run_snoc_ok success
      obtain ⟨partyOk, sameState, sameOutputs⟩ := ih conforms.initial before
      have held : invariant seen (run machine initial seen).state :=
        run_preserves invariant legal start projects.keeps conforms.initial before
      rw [run_snoc before]
      simp only [Run.outputs] at sameOutputs
      cases selected : own input with
      | false =>
          have unchanged := projects.otherState _ _ _ conforms.last held selected
          have silent := projects.otherOutputs _ _ _ conforms.last held selected
          simp only [Run.outputs, List.filter_append, List.filter_cons, selected,
            List.flatten_append, List.flatten_singleton, silent, sameOutputs]
          exact ⟨by simpa using partyOk, by simpa [unchanged] using sameState, by simp⟩
      | true =>
          have moved := projects.ownState _ _ _ conforms.last held selected
          have said := projects.ownOutputs _ _ _ conforms.last held selected
          have answered := projects.ownResult _ _ _ conforms.last held selected
          have filtered : (seen ++ [input]).filter own = seen.filter own ++ [input] := by
            simp [List.filter_append, selected]
          rw [filtered, run_snoc partyOk, ← sameState]
          refine ⟨by rw [← answered]; exact reacted, moved, ?_⟩
          simp only [Run.outputs, List.filter_append, List.flatten_append,
            List.flatten_singleton, said, sameOutputs]

/-- A run cut short by anybody's failure shows the party an initial part of what
it would have seen alone. -/
theorem Projects.run_cut (projects : Projects machine party view own mine legal invariant)
    {initial : State} (start : invariant [] initial) {inputs : List Input}
    (conforms : Conforms legal inputs) :
    (run machine initial inputs).outputs.filter mine <+:
      (run party (view initial) (inputs.filter own)).outputs := by
  cases finished : (run machine initial inputs).result with
  | ok =>
      have same := (projects.run_ok start conforms finished).2.2
      exact ⟨[], by rw [same, List.append_nil]⟩
  | error error =>
      obtain ⟨seen, input, rest, rfl, before, same⟩ := run_failure finished
      have legalSeen : Conforms legal seen := conforms.initial
      have legalLast : legal seen input := conforms seen input rest rfl
      obtain ⟨partyOk, sameState, sameOutputs⟩ := projects.run_ok start legalSeen before
      have held : invariant seen (run machine initial seen).state :=
        run_preserves invariant legal start projects.keeps legalSeen before
      rw [same, run_snoc before, List.filter_append, run_append _ partyOk]
      simp only [Run.outputs] at sameOutputs
      simp only [Run.outputs, List.flatten_append, List.flatten_singleton, List.filter_append,
        sameOutputs, ← sameState]
      apply List.prefix_append_right_inj _ |>.mpr
      cases selected : own input with
      | false =>
          rw [projects.otherOutputs _ _ _ legalLast held selected]
          exact List.nil_prefix
      | true =>
          rw [projects.ownOutputs _ _ _ legalLast held selected, List.filter_cons_of_pos selected]
          cases reacted : (party (view (run machine initial seen).state) input).result with
          | error error => simp [run_cons_error _ reacted]
          | ok => simp [run_cons_ok _ reacted]

end Foundation.Machine
