import Loi.Core.Process

/-! Two runs of the tracer that agree on the stops of one process act alike on
that process. -/

set_option autoImplicit false

namespace Loi.Core

open Nix Foundation

/-- The same stop as far as its own process goes: status, registers and clock.
The answers to `getevent` and to the resume may differ. -/
structure SameStop (left right : Delivery) : Prop where
  status : left.status = right.status
  getregs : left.answers.getregs = right.answers.getregs
  now : left.answers.now = right.answers.now

theorem processStatus_sameStop (name : UInt64 → Option String) (pid : Pid) (reported : Bool)
    (tracee tracee' : Tracee) (left right : Delivery) (tracees : tracee = tracee')
    (same : SameStop left right)
    (leftOk : (processStatus name pid reported tracee left).result = .ok ())
    (rightOk : (processStatus name pid reported tracee' right).result = .ok ()) :
    (processStatus name pid reported tracee left).state =
        (processStatus name pid reported tracee' right).state ∧
      (processStatus name pid reported tracee left).outputs =
        (processStatus name pid reported tracee' right).outputs := by
  subst tracees
  obtain ⟨status, getregs, now⟩ := same
  rcases left with ⟨leftStatus, leftAnswers⟩
  rcases right with ⟨rightStatus, rightAnswers⟩
  simp only at status getregs now
  subst status
  cases leftStatus with
  | ptraceSyscall other =>
      simp only [processStatus, getregs, now]
      split
      · exact ⟨rfl, rfl⟩
      · split
        · exact ⟨rfl, rfl⟩
        · split <;> exact ⟨rfl, rfl⟩
  | ptraceEvent other signal event =>
      -- A refused `getevent` would end the run, so both answers were granted.
      simp only [processStatus] at leftOk rightOk ⊢
      split
      · rename_i forks
        rw [if_pos forks] at leftOk rightOk
        cases leftAnswer : leftAnswers.getevent with
        | error errno => simp [leftAnswer] at leftOk
        | ok leftRaw =>
            cases rightAnswer : rightAnswers.getevent with
            | error errno => simp [rightAnswer] at rightOk
            | ok rightRaw => exact ⟨rfl, rfl⟩
      · split <;> exact ⟨rfl, rfl⟩
  | stopped other signal =>
      simp only [processStatus]
      split <;> exact ⟨rfl, rfl⟩
  | exited | signaled | continued | stillAlive => exact ⟨rfl, rfl⟩

/-- Per-process independence: the events emitted for `pid` and the resume
requests issued for it, with their signals, depend on the stops of `pid` only.
Everything else in the two runs may differ, fork events naming `pid` included. -/
theorem handleAll_independent (name : UInt64 → Option String) (root pid : Pid)
    (followForks : Bool) (left right : List Delivery)
    (leftOk : (handleAll name (.postSpawn root followForks) left).result = .ok ())
    (rightOk : (handleAll name (.postSpawn root followForks) right).result = .ok ())
    (leftExecs : Machine.Conforms (ExecAfterStop root pid) left)
    (rightExecs : Machine.Conforms (ExecAfterStop root pid) right)
    (same : List.Forall₂ SameStop (ownDeliveries pid left) (ownDeliveries pid right)) :
    effectsOf pid (handleAll name (.postSpawn root followForks) left).outputs =
      effectsOf pid (handleAll name (.postSpawn root followForks) right).outputs := by
  obtain ⟨leftAlone, leftOutputs⟩ := handleAll_alone name leftExecs leftOk
  obtain ⟨rightAlone, rightOutputs⟩ := handleAll_alone name rightExecs rightOk
  have logs := (Machine.run_simulates Eq SameStop Eq
    (processStatus_sameStop name pid (decide (pid = root) || followForks))
    rfl same leftAlone rightAlone).2
  rw [List.forall₂_eq_eq_eq] at logs
  rw [leftOutputs, rightOutputs]
  exact congrArg List.flatten logs

theorem handleAll_independent_of_fork_order :
    effectsOf 200 (handleAll (fun _ => none) (.postSpawn 100 true)
        (childExecs ++ [forksChild 20])).outputs =
      effectsOf 200 (handleAll (fun _ => none) (.postSpawn 100 true)
        (forksChild 1 :: childExecs)).outputs := by
  have same : ownDeliveries 200 (childExecs ++ [forksChild 20]) = childExecs := rfl
  have same' : ownDeliveries 200 (forksChild 1 :: childExecs) = childExecs := rfl
  refine handleAll_independent (fun _ => none) 100 200 true (childExecs ++ [forksChild 20])
    (forksChild 1 :: childExecs) rfl rfl (by decide) (by decide) ?_
  rw [same, same']
  exact List.forall₂_same.mpr fun _ _ => ⟨rfl, rfl, rfl⟩

end Loi.Core
