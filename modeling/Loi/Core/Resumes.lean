import Loi.Core.Process

/-! Every stop is resumed once, with the right signal. The swallow-once flag of a
process is a function of its history, whichever handler created its entry. -/

set_option autoImplicit false

namespace Loi.Core

open Nix Foundation

def awaitingAfter (awaiting : Bool) : WaitStatus → Bool
  | .exited _ _ | .signaled _ _ _ => true
  | .stopped _ .SIGSTOP => false
  | _ => awaiting

theorem processStatus_awaiting (name : UInt64 → Option String) (pid : Pid) (reported : Bool)
    (tracee : Tracee) (delivery : Delivery) :
    (processStatus name pid reported tracee delivery).state.awaitingInitialSigstop =
      awaitingAfter tracee.awaitingInitialSigstop delivery.status := by
  rcases delivery with ⟨status, answers⟩
  cases status with
  | ptraceSyscall other =>
      simp only [processStatus, awaitingAfter]
      split
      · rfl
      · split
        · rfl
        · split <;> rfl
  | ptraceEvent other signal event =>
      simp only [processStatus, awaitingAfter]
      split
      · split <;> rfl
      · split <;> rfl
  | stopped other signal =>
      by_cases stops : signal = .SIGSTOP
      · subst stops
        cases awaits : tracee.awaitingInitialSigstop <;> simp [processStatus, awaits, awaitingAfter]
      · have kept : awaitingAfter tracee.awaitingInitialSigstop (.stopped other signal) =
            tracee.awaitingInitialSigstop := by
          cases signal <;> first | rfl | exact absurd rfl stops
        simp [processStatus, stops, kept]
  | exited | signaled | continued | stillAlive => rfl

/-- Exec leaves the flag alone, so here an absent entry may stay absent. -/
theorem handleStatus_awaiting (name : UInt64 → Option String) (tracer : Tracer) {pid : Pid}
    {delivery : Delivery} (own : delivery.status.pid? = some pid) :
    ((handleStatus name tracer delivery).state.entryOrNewChild pid).awaitingInitialSigstop =
      awaitingAfter (tracer.entryOrNewChild pid).awaitingInitialSigstop delivery.status := by
  by_cases tracked : delivery.status.isExecOf pid = true →
      (tracer.tracees.lookup pid).isSome = true
  · rw [(handleStatus_actsAs name tracer own tracked).1, processStatus_awaiting]
  · rw [Classical.not_imp] at tracked
    obtain ⟨execs, absent⟩ := tracked
    rcases delivery with ⟨status, answers⟩
    cases status with
    | ptraceEvent other signal event =>
        cases own
        have code : event = PTRACE_EVENT_EXEC := by simpa [WaitStatus.isExecOf] using execs
        have missing : tracer.tracees.lookup pid = none := by simpa using absent
        subst code
        have noFork : isForkEvent PTRACE_EVENT_EXEC = false := by decide
        simp [handleStatus, handleEvent, noFork, missing, awaitingAfter]
    | ptraceSyscall | stopped | exited | signaled | continued | stillAlive =>
        simp [WaitStatus.isExecOf] at execs

/-- The next `SIGSTOP` of `pid` is the one of its auto-attach: `pid` is not the
root in its first life, and has not been stopped by `SIGSTOP` in this life. -/
def OwesInitialSigstop (root pid : Pid) (seen : List Delivery) : Prop :=
  ¬ (pid = root ∧ InFirstLife pid seen) ∧ .stopped pid .SIGSTOP ∉ thisLife pid seen

instance (root pid : Pid) (seen : List Delivery) : Decidable (OwesInitialSigstop root pid seen) :=
  inferInstanceAs (Decidable (_ ∧ _))

theorem owesInitialSigstop_other {root pid : Pid} {seen : List Delivery} {delivery : Delivery}
    (other : delivery.status.pid? ≠ some pid) :
    OwesInitialSigstop root pid (seen ++ [delivery]) ↔ OwesInitialSigstop root pid seen := by
  have stays : delivery.status.isExitOf pid = false := by
    cases exits : delivery.status.isExitOf pid with
    | false => rfl
    | true => exact absurd (WaitStatus.pid?_of_isExitOf exits) other
  rw [OwesInitialSigstop, OwesInitialSigstop, inFirstLife_snoc, thisLife_snoc]
  simp [stays, other]

theorem owesInitialSigstop_own {root pid : Pid} {seen : List Delivery} {delivery : Delivery}
    (own : delivery.status.pid? = some pid) :
    decide (OwesInitialSigstop root pid (seen ++ [delivery])) =
      awaitingAfter (decide (OwesInitialSigstop root pid seen)) delivery.status := by
  rcases delivery with ⟨status, answers⟩
  simp only [OwesInitialSigstop, inFirstLife_snoc, thisLife_snoc]
  cases status with
  | exited | signaled => cases own; simp [WaitStatus.isExitOf, awaitingAfter]
  | stopped other signal =>
      cases own
      cases signal <;> simp [WaitStatus.isExitOf, WaitStatus.pid?, awaitingAfter]
  | ptraceSyscall | ptraceEvent | continued =>
      cases own
      simp [WaitStatus.isExitOf, WaitStatus.pid?, awaitingAfter]
  | stillAlive => cases own

structure FlagsMatch (root : Pid) (seen : List Delivery) (tracer : Tracer) : Prop where
  flag : ∀ pid, (tracer.entryOrNewChild pid).awaitingInitialSigstop =
    decide (OwesInitialSigstop root pid seen)

theorem flagsMatch_postSpawn (root : Pid) (followForks : Bool) :
    FlagsMatch root [] (.postSpawn root followForks) := by
  constructor
  intro pid
  rw [Tracer.entryOrNewChild_postSpawn]
  by_cases same : pid = root <;>
    simp [same, OwesInitialSigstop, InFirstLife, thisLife, Tracee.newRoot, Tracee.newChild]

theorem FlagsMatch.step (name : UInt64 → Option String) {root : Pid} {seen : List Delivery}
    {tracer : Tracer} (delivery : Delivery) (flags : FlagsMatch root seen tracer) :
    FlagsMatch root (seen ++ [delivery]) (handleStatus name tracer delivery).state := by
  constructor
  intro pid
  by_cases own : delivery.status.pid? = some pid
  · rw [handleStatus_awaiting name tracer own, flags.flag pid, owesInitialSigstop_own own]
  · rw [handleStatus_other name tracer own, flags.flag pid]
    exact decide_eq_decide.mpr (owesInitialSigstop_other own).symm

/-- The effects that a handled status may have, given the statuses before it. -/
def ResumedOnce (root : Pid) (seen : List Delivery) (delivery : Delivery)
    (effects : List Effect) : Prop :=
  match delivery.status with
  | .ptraceSyscall pid =>
      ∃ events : List SyscallEvent, (∀ event ∈ events, event.pid = pid) ∧
        effects = events.map .sink ++ [.resume pid none]
  | .ptraceEvent pid _ _ => effects = [.resume pid none]
  | .stopped pid signal =>
      effects = [.resume pid
        (if signal = .SIGSTOP ∧ OwesInitialSigstop root pid seen then none else some signal)]
  | .exited _ _ | .signaled _ _ _ | .continued _ | .stillAlive => effects = []

private theorem syscallStop_resumes (name : UInt64 → Option String) (tracer : Tracer) (pid : Pid)
    (answers : Answers)
    (success : (handleSyscallStop name tracer pid answers).result = .ok ()) :
    ∃ events : List SyscallEvent, (∀ event ∈ events, event.pid = pid) ∧
      (handleSyscallStop name tracer pid answers).outputs =
        events.map .sink ++ [.resume pid none] := by
  unfold handleSyscallStop at success ⊢
  dsimp only at success ⊢
  split
  · exact ⟨[], by simp, rfl⟩
  · rename_i counted
    rw [if_neg counted] at success
    cases phase : (tracer.entryOrNewChild pid).phase with
    | entry =>
        cases read : answers.getregs with
        | error errno => simp [phase, read] at success
        | ok regs => exact ⟨[], by simp, rfl⟩
    | exit nr args startedAt =>
        cases read : answers.getregs with
        | error errno => simp [phase, read] at success
        | ok regs =>
            dsimp only
            split
            · exact ⟨[_], by simp, rfl⟩
            · exact ⟨[], by simp, rfl⟩

private theorem event_resumes (tracer : Tracer) (pid : Pid) (event : Int32) (answers : Answers)
    (success : (handleEvent tracer pid event answers).result = .ok ()) :
    (handleEvent tracer pid event answers).outputs = [.resume pid none] := by
  unfold handleEvent at success ⊢
  split
  · rename_i forks
    rw [if_pos forks] at success
    cases answered : answers.getevent with
    | error errno => simp [answered] at success
    | ok raw => rfl
  · split
    · split <;> rfl
    · rfl

private theorem signal_resumes (tracer : Tracer) (pid : Pid) (signal : Signal)
    (answers : Answers) :
    (handleSignal tracer pid signal answers).outputs =
      [.resume pid (if signal = .SIGSTOP ∧
        (tracer.entryOrNewChild pid).awaitingInitialSigstop = true then none else some signal)] := by
  unfold handleSignal
  by_cases stops : signal = .SIGSTOP <;>
    cases awaits : (tracer.entryOrNewChild pid).awaitingInitialSigstop <;> simp [stops, awaits]

theorem handleStatus_resumedOnce (name : UInt64 → Option String) {root : Pid}
    {seen : List Delivery} {tracer : Tracer} (flags : FlagsMatch root seen tracer)
    (delivery : Delivery) (success : (handleStatus name tracer delivery).result = .ok ()) :
    ResumedOnce root seen delivery (handleStatus name tracer delivery).outputs := by
  rcases delivery with ⟨status, answers⟩
  cases status with
  | ptraceSyscall pid => exact syscallStop_resumes name tracer pid answers success
  | ptraceEvent pid signal event => exact event_resumes tracer pid event answers success
  | stopped pid signal =>
      have resumed := signal_resumes tracer pid signal answers
      rw [flags.flag pid] at resumed
      simpa [ResumedOnce, handleStatus] using resumed
  | exited | signaled | continued | stillAlive => rfl

/-- Every handled `PtraceSyscall`, `PtraceEvent` and `Stopped` status leads to
exactly one resume, of its own process and last of its effects, so a sink call
always precedes it; no other status leads to any. A signal is passed on except
for the auto-attach `SIGSTOP`. -/
theorem handleAll_resumedOnce (name : UInt64 → Option String) (root : Pid) (followForks : Bool)
    (deliveries : List Delivery)
    (success : (handleAll name (.postSpawn root followForks) deliveries).result = .ok ()) :
    (handleAll name (.postSpawn root followForks) deliveries).log.length = deliveries.length ∧
      ∀ seen delivery rest, deliveries = seen ++ delivery :: rest →
        ∃ effects,
          (handleAll name (.postSpawn root followForks) deliveries).log[seen.length]? =
            some effects ∧
          ResumedOnce root seen delivery effects := by
  refine ⟨Machine.run_log_length success, ?_⟩
  intro seen delivery rest split
  subst split
  refine ⟨_, Machine.run_log_at success, ?_⟩
  have before : (handleAll name (.postSpawn root followForks) seen).result = .ok () :=
    Machine.run_initial_ok success
  have flags := Machine.run_preserves (FlagsMatch root) (fun _ _ => True)
    (flagsMatch_postSpawn root followForks) (fun _ delivery _ _ held _ => held.step name delivery)
    (fun _ _ _ _ => trivial) before
  rw [List.append_cons] at success
  exact handleStatus_resumedOnce name flags delivery
    (Machine.run_snoc_ok (Machine.run_initial_ok success)).2

theorem handleAll_resumedOnce_childExecs :
    (handleAll (fun _ => none) (.postSpawn 100 true) childExecs).log.length = 6 ∧
      ∀ seen delivery rest, childExecs = seen ++ delivery :: rest →
        ∃ effects,
          (handleAll (fun _ => none) (.postSpawn 100 true) childExecs).log[seen.length]? =
            some effects ∧
          ResumedOnce 100 seen delivery effects :=
  handleAll_resumedOnce (fun _ => none) 100 true childExecs rfl

end Loi.Core
