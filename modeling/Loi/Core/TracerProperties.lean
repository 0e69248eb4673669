import Loi.Core.Tracer

/-! What one handled wait status can do to the tracer: every later invariant is
derived from `handleStatus_state_cases`, never from the handlers themselves. -/

set_option autoImplicit false

namespace Loi.Core

open Nix Foundation

@[simp] theorem Tracer.lookup_set_self (tracer : Tracer) (pid : Pid) (tracee : Tracee) :
    (tracer.set pid tracee).tracees.lookup pid = some tracee :=
  Finmap.lookup_insert _

theorem Tracer.lookup_set_ne (tracer : Tracer) {pid other : Pid} (tracee : Tracee)
    (different : other ≠ pid) :
    (tracer.set pid tracee).tracees.lookup other = tracer.tracees.lookup other :=
  Finmap.lookup_insert_of_ne _ different

@[simp] theorem Tracer.entryOrNewChild_set_self (tracer : Tracer) (pid : Pid) (tracee : Tracee) :
    (tracer.set pid tracee).entryOrNewChild pid = tracee := by
  simp [Tracer.entryOrNewChild]

theorem Tracer.entryOrNewChild_set_ne (tracer : Tracer) {pid other : Pid} (tracee : Tracee)
    (different : other ≠ pid) :
    (tracer.set pid tracee).entryOrNewChild other = tracer.entryOrNewChild other := by
  simp [Tracer.entryOrNewChild, tracer.lookup_set_ne tracee different]

/-- Inserting a fresh child where nothing was is invisible to `entryOrNewChild`. -/
@[simp] theorem Tracer.entryOrNewChild_set_entry (tracer : Tracer) (pid other : Pid) :
    (tracer.set pid (tracer.entryOrNewChild pid)).entryOrNewChild other =
      tracer.entryOrNewChild other := by
  by_cases same : other = pid
  · subst same
    simp
  · exact tracer.entryOrNewChild_set_ne _ same

section Reactions

variable {State : Type} (state : State) (effects : List Effect) (pid : Pid)
  (signal : Option Signal) (answers : Answers) (errno : Errno)

@[simp] theorem resumeTracee_state :
    (resumeTracee state effects pid signal answers).state = state := rfl

@[simp] theorem resumeTracee_outputs :
    (resumeTracee state effects pid signal answers).outputs =
      effects ++ [.resume pid signal] := rfl

@[simp] theorem resumeTracee_result :
    (resumeTracee state effects pid signal answers).result =
      answers.resume.mapError .ptrace := rfl

@[simp] theorem ptraceFailed_state : (ptraceFailed state errno).state = state := rfl

@[simp] theorem ptraceFailed_outputs : (ptraceFailed state errno).outputs = [] := rfl

@[simp] theorem ptraceFailed_result :
    (ptraceFailed state errno).result = .error (.ptrace errno) := rfl

@[simp] theorem nothingToResume_state : (nothingToResume state).state = state := rfl

@[simp] theorem nothingToResume_outputs : (nothingToResume state).outputs = [] := rfl

@[simp] theorem nothingToResume_result : (nothingToResume state).result = .ok () := rfl

end Reactions

/-- The delivery is a fork-like event of `parent` whose message is `child`. -/
def Delivery.ForksTo (delivery : Delivery) (parent child : Pid) : Prop :=
  ∃ signal event raw, delivery.status = .ptraceEvent parent signal event ∧
    isForkEvent event = true ∧ delivery.answers.getevent = .ok raw ∧
    childPidFromEvent raw = child

theorem handleSyscallStop_state (name : UInt64 → Option String) (tracer : Tracer) (pid : Pid)
    (answers : Answers) :
    ∃ tracee, (handleSyscallStop name tracer pid answers).state = tracer.set pid tracee := by
  unfold handleSyscallStop
  dsimp only
  split
  · exact ⟨_, rfl⟩
  · split <;> split <;> exact ⟨_, rfl⟩

theorem handleSignal_state (tracer : Tracer) (pid : Pid) (signal : Signal) (answers : Answers) :
    ∃ tracee, (handleSignal tracer pid signal answers).state = tracer.set pid tracee := by
  unfold handleSignal
  dsimp only
  split <;> exact ⟨_, rfl⟩

theorem handleEvent_state (tracer : Tracer) (pid : Pid) (signal : Signal) (event : Int32)
    (answers : Answers) :
    (∃ child, (⟨.ptraceEvent pid signal event, answers⟩ : Delivery).ForksTo pid child ∧
      (handleEvent tracer pid event answers).state =
        tracer.set child (tracer.entryOrNewChild child)) ∨
    (event = PTRACE_EVENT_EXEC ∧ ∃ before tracee, tracer.tracees.lookup pid = some before ∧
      (handleEvent tracer pid event answers).state = tracer.set pid tracee) ∨
    (∀ child, ¬ (⟨.ptraceEvent pid signal event, answers⟩ : Delivery).ForksTo pid child) ∧
      (handleEvent tracer pid event answers).state = tracer := by
  unfold handleEvent
  by_cases forks : isForkEvent event = true
  · rw [if_pos forks]
    cases answered : answers.getevent with
    | error errno =>
        refine .inr (.inr ⟨?_, rfl⟩)
        rintro child ⟨_, _, raw, _, _, found, _⟩
        cases answered.symm.trans found
    | ok raw => exact .inl ⟨_, ⟨signal, event, raw, rfl, forks, answered, rfl⟩, rfl⟩
  · rw [if_neg forks]
    have silent : ∀ child,
        ¬ (⟨.ptraceEvent pid signal event, answers⟩ : Delivery).ForksTo pid child := by
      rintro child ⟨_, other, _, same, found, _⟩
      cases same
      exact forks found
    by_cases execs : event = PTRACE_EVENT_EXEC
    · rw [if_pos execs]
      cases tracked : tracer.tracees.lookup pid with
      | some tracee => exact .inr (.inl ⟨execs, tracee, _, rfl, rfl⟩)
      | none => exact .inr (.inr ⟨silent, rfl⟩)
    · rw [if_neg execs]
      exact .inr (.inr ⟨silent, rfl⟩)

/-- The four things a wait status can do to the tracked set: overwrite the
entry of its own process, insert the child named by a fork event, drop an
exited process, or nothing. -/
theorem handleStatus_state_cases (name : UInt64 → Option String) (tracer : Tracer)
    (delivery : Delivery) :
    (∃ pid tracee, delivery.status.pid? = some pid ∧
      (delivery.status.isOrdinaryStopOf pid = true ∨ delivery.status.isExecOf pid = true ∧
        (tracer.tracees.lookup pid).isSome = true) ∧
      (handleStatus name tracer delivery).state = tracer.set pid tracee) ∨
    (∃ parent child, delivery.ForksTo parent child ∧
      (handleStatus name tracer delivery).state =
        tracer.set child (tracer.entryOrNewChild child)) ∨
    (∃ pid, delivery.status.isExitOf pid = true ∧
      (handleStatus name tracer delivery).state =
        { tracer with tracees := tracer.tracees.erase pid }) ∨
    ((∀ pid, delivery.status.isOrdinaryStopOf pid = false) ∧
      (∀ pid, delivery.status.isExitOf pid = false) ∧
      (∀ parent child, ¬ delivery.ForksTo parent child) ∧
      (handleStatus name tracer delivery).state = tracer) := by
  rcases delivery with ⟨status, answers⟩
  cases status with
  | ptraceSyscall pid =>
      obtain ⟨tracee, same⟩ := handleSyscallStop_state name tracer pid answers
      exact .inl ⟨pid, tracee, rfl, .inl (by simp [WaitStatus.isOrdinaryStopOf]), same⟩
  | stopped pid signal =>
      obtain ⟨tracee, same⟩ := handleSignal_state tracer pid signal answers
      exact .inl ⟨pid, tracee, rfl, .inl (by simp [WaitStatus.isOrdinaryStopOf]), same⟩
  | ptraceEvent pid signal event =>
      rcases handleEvent_state tracer pid signal event answers with
        ⟨child, forks, same⟩ | ⟨execs, before, tracee, tracked, same⟩ | ⟨silent, same⟩
      · exact .inr (.inl ⟨pid, child, forks, same⟩)
      · exact .inl ⟨pid, tracee, rfl,
          .inr ⟨by simp [WaitStatus.isExecOf, execs], by simp [tracked]⟩, same⟩
      · refine .inr (.inr (.inr ⟨fun _ => rfl, fun _ => rfl, ?_, same⟩))
        rintro parent child ⟨other, code, raw, shape, rest⟩
        cases shape
        exact silent child ⟨_, _, raw, rfl, rest⟩
  | exited pid code =>
      exact .inr (.inr (.inl ⟨pid, by simp [WaitStatus.isExitOf], rfl⟩))
  | signaled pid signal dumped =>
      exact .inr (.inr (.inl ⟨pid, by simp [WaitStatus.isExitOf], rfl⟩))
  | continued pid =>
      refine .inr (.inr (.inr ⟨fun _ => rfl, fun _ => rfl, ?_, rfl⟩))
      rintro parent child ⟨_, _, _, shape, _⟩
      cases shape
  | stillAlive =>
      refine .inr (.inr (.inr ⟨fun _ => rfl, fun _ => rfl, ?_, rfl⟩))
      rintro parent child ⟨_, _, _, shape, _⟩
      cases shape

theorem handleStatus_rootPid (name : UInt64 → Option String) (tracer : Tracer)
    (delivery : Delivery) :
    (handleStatus name tracer delivery).state.rootPid = tracer.rootPid := by
  rcases handleStatus_state_cases name tracer delivery with
    ⟨_, _, _, _, same⟩ | ⟨_, _, _, same⟩ | ⟨_, _, same⟩ | ⟨_, _, _, same⟩ <;> rw [same] <;> rfl

theorem handleStatus_followForks (name : UInt64 → Option String) (tracer : Tracer)
    (delivery : Delivery) :
    (handleStatus name tracer delivery).state.followForks = tracer.followForks := by
  rcases handleStatus_state_cases name tracer delivery with
    ⟨_, _, _, _, same⟩ | ⟨_, _, _, same⟩ | ⟨_, _, same⟩ | ⟨_, _, _, same⟩ <;> rw [same] <;> rfl

/-- A handler only ever acts on the process whose status it handles. -/
theorem handleStatus_effects_pid (name : UInt64 → Option String) (tracer : Tracer)
    (delivery : Delivery) :
    ∀ effect ∈ (handleStatus name tracer delivery).outputs,
      delivery.status.pid? = some effect.pid := by
  rcases delivery with ⟨status, answers⟩
  cases status with
  | ptraceSyscall pid =>
      simp only [handleStatus, handleSyscallStop]
      split
      · simp [WaitStatus.pid?, Effect.pid]
      · split
        · split <;> simp [WaitStatus.pid?, Effect.pid]
        · split
          · simp
          · split <;> simp [WaitStatus.pid?, Effect.pid]
  | stopped pid signal =>
      simp only [handleStatus, handleSignal]
      split <;> simp [WaitStatus.pid?, Effect.pid]
  | ptraceEvent pid signal event =>
      simp only [handleStatus, handleEvent]
      split
      · split <;> simp [WaitStatus.pid?, Effect.pid]
      · split
        · split <;> simp [WaitStatus.pid?, Effect.pid]
        · simp [WaitStatus.pid?, Effect.pid]
  | exited | signaled | continued | stillAlive => simp [handleStatus]

end Loi.Core
