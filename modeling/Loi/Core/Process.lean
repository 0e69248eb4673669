import Loi.Foundation.Projection
import Loi.Core.TracerProperties

/-! One traced process seen alone. Its machine keeps a single `Tracee` and reads
only the statuses of its own process; the tracer is shown to run one such
machine for every pid, whatever the other processes do. -/

set_option autoImplicit false

namespace Loi.Core

open Nix Foundation

/-- The statuses of `pid` in its current life, oldest first: everything since
its last exit status, or since the start. -/
def thisLife (pid : Pid) (seen : List Delivery) : List WaitStatus :=
  seen.foldl (fun life delivery =>
    if delivery.status.isExitOf pid then []
    else if delivery.status.pid? = some pid then life ++ [delivery.status]
    else life) []

def InFirstLife (pid : Pid) (seen : List Delivery) : Prop :=
  ∀ delivery ∈ seen, delivery.status.isExitOf pid = false

theorem thisLife_snoc (pid : Pid) (seen : List Delivery) (delivery : Delivery) :
    thisLife pid (seen ++ [delivery]) =
      if delivery.status.isExitOf pid then []
      else if delivery.status.pid? = some pid then thisLife pid seen ++ [delivery.status]
      else thisLife pid seen := by
  simp [thisLife, List.foldl_append]

theorem inFirstLife_snoc {pid : Pid} {seen : List Delivery} {delivery : Delivery} :
    InFirstLife pid (seen ++ [delivery]) ↔
      InFirstLife pid seen ∧ delivery.status.isExitOf pid = false := by
  simp [InFirstLife, or_imp, forall_and]

/-- `pid` must have an entry: it is the root in its first life, or it has had a
syscall-stop or a signal-stop in this life. -/
def MustBeTracked (root pid : Pid) (seen : List Delivery) : Prop :=
  (pid = root ∧ InFirstLife pid seen) ∨
    ∃ status ∈ thisLife pid seen, status.isOrdinaryStopOf pid = true

/-- The kernel reports no `PTRACE_EVENT_EXEC` of `pid` before a syscall-stop or
a signal-stop in the same life, the root's first life excepted. -/
def ExecAfterStop (root pid : Pid) (seen : List Delivery) (delivery : Delivery) : Prop :=
  delivery.status.isExecOf pid = true → MustBeTracked root pid seen

instance (pid : Pid) (seen : List Delivery) : Decidable (InFirstLife pid seen) :=
  inferInstanceAs (Decidable (∀ delivery ∈ seen, _))

instance (root pid : Pid) (seen : List Delivery) : Decidable (MustBeTracked root pid seen) :=
  inferInstanceAs (Decidable (_ ∨ ∃ status ∈ thisLife pid seen, _))

instance (root pid : Pid) (seen : List Delivery) (delivery : Delivery) :
    Decidable (ExecAfterStop root pid seen delivery) :=
  inferInstanceAs (Decidable (_ → _))

theorem MustBeTracked.of_snoc {root pid : Pid} {seen : List Delivery} {delivery : Delivery}
    (tracked : MustBeTracked root pid (seen ++ [delivery])) :
    delivery.status.isExitOf pid = false ∧
      (delivery.status.isOrdinaryStopOf pid = true ∨ MustBeTracked root pid seen) := by
  rcases tracked with ⟨same, first⟩ | ⟨status, member, ordinary⟩
  · obtain ⟨before, stays⟩ := inFirstLife_snoc.mp first
    exact ⟨stays, .inr (.inl ⟨same, before⟩)⟩
  · rw [thisLife_snoc] at member
    split at member
    · simp at member
    · rename_i stays
      refine ⟨by simpa using stays, ?_⟩
      split at member
      · rcases List.mem_append.mp member with old | new
        · exact .inr (.inr ⟨status, old, ordinary⟩)
        · have last : status = delivery.status := by simpa using new
          exact .inl (last ▸ ordinary)
      · exact .inr (.inr ⟨status, member, ordinary⟩)

/-- What the tracer does with a status of one process, given that process's
entry alone. `reported` says whether its events reach the sink. -/
def processStatus (name : UInt64 → Option String) (pid : Pid) (reported : Bool) :
    Machine Tracee Delivery Effect Error :=
  fun tracee delivery =>
    match delivery.status with
    | .ptraceSyscall _ =>
        if tracee.skipNextSyscallStop then
          resumeTracee { tracee with skipNextSyscallStop := false } [] pid none delivery.answers
        else
          match delivery.answers.getregs with
          | .error errno => ptraceFailed tracee errno
          | .ok regs =>
              match tracee.phase with
              | .entry =>
                  let phase := .exit (extractEntry regs).1 (extractEntry regs).2 delivery.answers.now
                  resumeTracee { tracee with phase } [] pid none delivery.answers
              | .exit nr args startedAt =>
                  let event : SyscallEvent :=
                    { pid, syscallNr := nr, syscallName := syscallName name nr, args
                      ret := extractRet regs, duration := delivery.answers.now - startedAt }
                  resumeTracee { tracee with phase := .entry }
                    (if reported then [.sink event] else []) pid none delivery.answers
    | .ptraceEvent _ _ event =>
        if isForkEvent event then
          match delivery.answers.getevent with
          | .error errno => ptraceFailed tracee errno
          | .ok _ => resumeTracee tracee [] pid none delivery.answers
        else if event = PTRACE_EVENT_EXEC then
          resumeTracee { tracee with phase := .entry, skipNextSyscallStop := true }
            [] pid none delivery.answers
        else
          resumeTracee tracee [] pid none delivery.answers
    | .stopped _ signal =>
        if tracee.awaitingInitialSigstop && signal = .SIGSTOP then
          resumeTracee { tracee with awaitingInitialSigstop := false } [] pid none delivery.answers
        else
          resumeTracee tracee [] pid (some signal) delivery.answers
    | .exited _ _ | .signaled _ _ _ => nothingToResume .newChild
    | .continued _ | .stillAlive => nothingToResume tracee

def Tracer.reports (tracer : Tracer) (pid : Pid) : Bool :=
  pid = tracer.rootPid || tracer.followForks

/-- The tracer on the left behaves like the one-process reaction on the right. -/
def ActsAs (pid : Pid) (handled : Handled) (alone : Reaction Tracee Effect Error) : Prop :=
  handled.state.entryOrNewChild pid = alone.state ∧ handled.outputs = alone.outputs ∧
    handled.result = alone.result

theorem actsAs_resume {pid : Pid} {tracer : Tracer} {tracee : Tracee} (effects : List Effect)
    (signal : Option Signal) (answers : Answers)
    (same : tracer.entryOrNewChild pid = tracee) :
    ActsAs pid (resumeTracee tracer effects pid signal answers)
      (resumeTracee tracee effects pid signal answers) :=
  ⟨same, rfl, rfl⟩

private theorem syscallStop_actsAs (name : UInt64 → Option String) (tracer : Tracer) (pid : Pid)
    (answers : Answers) :
    ActsAs pid (handleSyscallStop name tracer pid answers)
      (processStatus name pid (tracer.reports pid) (tracer.entryOrNewChild pid)
        ⟨.ptraceSyscall pid, answers⟩) := by
  unfold handleSyscallStop processStatus
  dsimp only
  split
  · exact actsAs_resume [] none answers (by simp)
  · cases phase : (tracer.entryOrNewChild pid).phase with
    | entry =>
        cases answers.getregs with
        | error errno => exact ⟨by simp, rfl, rfl⟩
        | ok regs => exact actsAs_resume [] none answers (by simp)
    | exit nr args startedAt =>
        cases answers.getregs with
        | error errno => exact ⟨by simp, rfl, rfl⟩
        | ok regs => exact actsAs_resume _ none answers (by simp)

private theorem signal_actsAs (name : UInt64 → Option String) (tracer : Tracer) (pid : Pid)
    (signal : Signal) (answers : Answers) :
    ActsAs pid (handleSignal tracer pid signal answers)
      (processStatus name pid (tracer.reports pid) (tracer.entryOrNewChild pid)
        ⟨.stopped pid signal, answers⟩) := by
  unfold handleSignal processStatus
  dsimp only
  split <;> exact actsAs_resume [] _ answers (by simp)

/-- The exec branch alone tells an absent entry from a fresh one, so here the
entry has to exist. -/
private theorem event_actsAs (name : UInt64 → Option String) (tracer : Tracer) (pid : Pid)
    (signal : Signal) (event : Int32) (answers : Answers)
    (tracked : event = PTRACE_EVENT_EXEC → (tracer.tracees.lookup pid).isSome = true) :
    ActsAs pid (handleEvent tracer pid event answers)
      (processStatus name pid (tracer.reports pid) (tracer.entryOrNewChild pid)
        ⟨.ptraceEvent pid signal event, answers⟩) := by
  unfold handleEvent processStatus
  dsimp only
  split
  · cases answers.getevent with
    | error errno => exact ⟨rfl, rfl, rfl⟩
    | ok raw => exact actsAs_resume [] none answers (by simp)
  · split
    · rename_i execs
      obtain ⟨tracee, found⟩ := Option.isSome_iff_exists.mp (tracked execs)
      have entry : tracer.entryOrNewChild pid = tracee := by
        simp [Tracer.entryOrNewChild, found]
      rw [found, entry]
      exact actsAs_resume [] none answers (by simp)
    · exact actsAs_resume [] none answers rfl

/-- On a status of its own process the tracer does exactly what the process's
machine does, provided an exec event finds an entry. -/
theorem handleStatus_actsAs (name : UInt64 → Option String) (tracer : Tracer) {pid : Pid}
    {delivery : Delivery} (own : delivery.status.pid? = some pid)
    (tracked : delivery.status.isExecOf pid = true →
      (tracer.tracees.lookup pid).isSome = true) :
    ActsAs pid (handleStatus name tracer delivery)
      (processStatus name pid (tracer.reports pid) (tracer.entryOrNewChild pid) delivery) := by
  rcases delivery with ⟨status, answers⟩
  cases status with
  | ptraceSyscall other =>
      cases own
      exact syscallStop_actsAs name tracer pid answers
  | stopped other signal =>
      cases own
      exact signal_actsAs name tracer pid signal answers
  | ptraceEvent other signal event =>
      cases own
      exact event_actsAs name tracer pid signal event answers
        (fun execs => tracked (by simp [WaitStatus.isExecOf, execs]))
  | exited other code =>
      cases own
      exact ⟨by simp [handleStatus, processStatus, Tracer.entryOrNewChild, Finmap.lookup_erase],
        rfl, rfl⟩
  | signaled other signal dumped =>
      cases own
      exact ⟨by simp [handleStatus, processStatus, Tracer.entryOrNewChild, Finmap.lookup_erase],
        rfl, rfl⟩
  | continued other => exact ⟨rfl, rfl, rfl⟩
  | stillAlive => exact ⟨rfl, rfl, rfl⟩

/-- A status of another process never changes what the tracer would find for
`pid`, not even a fork event that names `pid` as the child. -/
theorem handleStatus_other (name : UInt64 → Option String) (tracer : Tracer) {pid : Pid}
    {delivery : Delivery} (other : delivery.status.pid? ≠ some pid) :
    (handleStatus name tracer delivery).state.entryOrNewChild pid =
      tracer.entryOrNewChild pid := by
  rcases handleStatus_state_cases name tracer delivery with
    ⟨owner, tracee, owned, _, same⟩ | ⟨parent, child, _, same⟩ | ⟨owner, exits, same⟩ |
    ⟨_, _, _, same⟩
  · have different : pid ≠ owner := by
      rintro rfl
      exact other owned
    rw [same, tracer.entryOrNewChild_set_ne tracee different]
  · rw [same, tracer.entryOrNewChild_set_entry]
  · have different : pid ≠ owner := by
      rintro rfl
      exact other (WaitStatus.pid?_of_isExitOf exits)
    rw [same]
    simp [Tracer.entryOrNewChild, Finmap.lookup_erase_ne different]
  · rw [same]

structure Follows (root : Pid) (followForks : Bool) (pid : Pid) (seen : List Delivery)
    (tracer : Tracer) : Prop where
  rootPid : tracer.rootPid = root
  followForks : tracer.followForks = followForks
  tracked : MustBeTracked root pid seen → (tracer.tracees.lookup pid).isSome = true

theorem follows_postSpawn (root pid : Pid) (followForks : Bool) :
    Follows root followForks pid [] (.postSpawn root followForks) := by
  refine ⟨rfl, rfl, ?_⟩
  rintro (⟨rfl, _⟩ | ⟨status, member, _⟩)
  · simp [Tracer.postSpawn]
  · simp [thisLife] at member

theorem Follows.step (name : UInt64 → Option String) {root pid : Pid} {followForks : Bool}
    {seen : List Delivery} {tracer : Tracer} (delivery : Delivery)
    (follows : Follows root followForks pid seen tracer) :
    Follows root followForks pid (seen ++ [delivery])
      (handleStatus name tracer delivery).state := by
  refine ⟨by rw [handleStatus_rootPid, follows.rootPid],
    by rw [handleStatus_followForks, follows.followForks], ?_⟩
  intro must
  obtain ⟨stays, reason⟩ := must.of_snoc
  rcases handleStatus_state_cases name tracer delivery with
    ⟨owner, tracee, owned, _, same⟩ | ⟨parent, child, forks, same⟩ | ⟨owner, exits, same⟩ |
    ⟨quiet, _, _, same⟩ <;> rw [same]
  · by_cases mine : pid = owner
    · rw [mine, tracer.lookup_set_self]
      rfl
    · rw [tracer.lookup_set_ne tracee mine]
      refine follows.tracked (reason.resolve_left ?_)
      intro ordinary
      rw [WaitStatus.pid?_of_isOrdinaryStopOf ordinary] at owned
      exact mine (Option.some.inj owned)
  · by_cases mine : pid = child
    · rw [mine, tracer.lookup_set_self]
      rfl
    · rw [tracer.lookup_set_ne _ mine]
      refine follows.tracked (reason.resolve_left ?_)
      obtain ⟨signal, event, raw, shape, _⟩ := forks
      simp [shape, WaitStatus.isOrdinaryStopOf]
  · have different : pid ≠ owner := by
      rintro rfl
      rw [stays] at exits
      cases exits
    rw [Finmap.lookup_erase_ne different]
    refine follows.tracked (reason.resolve_left ?_)
    intro ordinary
    exact different (Option.some.inj
      ((WaitStatus.pid?_of_isOrdinaryStopOf ordinary).symm.trans
        (WaitStatus.pid?_of_isExitOf exits)))
  · refine follows.tracked (reason.resolve_left ?_)
    simp [quiet pid]

def ownDeliveries (pid : Pid) (deliveries : List Delivery) : List Delivery :=
  deliveries.filter (fun delivery => delivery.status.pid? = some pid)

def effectsOf (pid : Pid) (effects : List Effect) : List Effect :=
  effects.filter (fun effect => effect.pid = pid)

/-- The tracer simulates, for every pid, the machine of that process alone. -/
theorem tracer_projects (name : UInt64 → Option String) (root pid : Pid) (followForks : Bool) :
    Machine.Projects (handleStatus name)
      (processStatus name pid (decide (pid = root) || followForks))
      (fun tracer => tracer.entryOrNewChild pid)
      (fun delivery => delivery.status.pid? = some pid) (fun effect => effect.pid = pid)
      (ExecAfterStop root pid) (Follows root followForks pid) where
  keeps := fun _ delivery _ _ follows _ => follows.step name delivery
  ownState := by
    intro seen delivery tracer legal follows own
    have acts := handleStatus_actsAs name tracer (of_decide_eq_true own)
      (fun execs => follows.tracked (legal execs))
    simpa [Tracer.reports, follows.rootPid, follows.followForks] using acts.1
  ownOutputs := by
    intro seen delivery tracer legal follows own
    have acts := handleStatus_actsAs name tracer (of_decide_eq_true own)
      (fun execs => follows.tracked (legal execs))
    have mine : (handleStatus name tracer delivery).outputs.filter
        (fun effect => effect.pid = pid) = (handleStatus name tracer delivery).outputs := by
      apply List.filter_eq_self.mpr
      intro effect member
      have owned := handleStatus_effects_pid name tracer delivery effect member
      rw [of_decide_eq_true own] at owned
      simpa using (Option.some.inj owned).symm
    rw [mine]
    simpa [Tracer.reports, follows.rootPid, follows.followForks] using acts.2.1
  ownResult := by
    intro seen delivery tracer legal follows own
    have acts := handleStatus_actsAs name tracer (of_decide_eq_true own)
      (fun execs => follows.tracked (legal execs))
    simpa [Tracer.reports, follows.rootPid, follows.followForks] using acts.2.2
  otherState := fun _ _ tracer _ _ other =>
    handleStatus_other name tracer (of_decide_eq_false other)
  otherOutputs := by
    intro seen delivery tracer legal follows other
    apply List.filter_eq_nil_iff.mpr
    intro effect member mine
    have owned := handleStatus_effects_pid name tracer delivery effect member
    rw [of_decide_eq_true mine] at owned
    exact of_decide_eq_false other owned

/-- The machine of `pid` run on the statuses of `pid` alone, from its entry
after `spawn`. -/
def processAlone (name : UInt64 → Option String) (root pid : Pid) (followForks : Bool)
    (deliveries : List Delivery) : Run Tracee Effect Error :=
  Machine.run (processStatus name pid (decide (pid = root) || followForks))
    (if pid = root then .newRoot else .newChild) (ownDeliveries pid deliveries)

theorem Tracer.entryOrNewChild_postSpawn (root pid : Pid) (followForks : Bool) :
    (Tracer.postSpawn root followForks).entryOrNewChild pid =
      if pid = root then .newRoot else .newChild := by
  by_cases same : pid = root
  · subst same
    simp [Tracer.entryOrNewChild, Tracer.postSpawn]
  · simp [same, Tracer.entryOrNewChild, Tracer.postSpawn, Finmap.lookup_insert_of_ne _ same]

theorem handleAll_alone (name : UInt64 → Option String) {root pid : Pid} {followForks : Bool}
    {deliveries : List Delivery} (execs : Machine.Conforms (ExecAfterStop root pid) deliveries)
    (success : (handleAll name (.postSpawn root followForks) deliveries).result = .ok ()) :
    (processAlone name root pid followForks deliveries).result = .ok () ∧
      effectsOf pid (handleAll name (.postSpawn root followForks) deliveries).outputs =
        (processAlone name root pid followForks deliveries).outputs := by
  obtain ⟨alone, _, outputs⟩ := (tracer_projects name root pid followForks).run_ok
    (follows_postSpawn root pid followForks) execs success
  rw [Tracer.entryOrNewChild_postSpawn] at alone outputs
  exact ⟨alone, outputs⟩

theorem handleAll_alone_cut (name : UInt64 → Option String) {root pid : Pid}
    (followForks : Bool) {deliveries : List Delivery}
    (execs : Machine.Conforms (ExecAfterStop root pid) deliveries) :
    effectsOf pid (handleAll name (.postSpawn root followForks) deliveries).outputs <+:
      (processAlone name root pid followForks deliveries).outputs := by
  have initial := (tracer_projects name root pid followForks).run_cut
    (follows_postSpawn root pid followForks) execs
  rw [Tracer.entryOrNewChild_postSpawn] at initial
  exact initial

/-- A child 200 that execs and then makes another syscall. -/
def childExecs : List Delivery :=
  [.granted (.stopped 200 .SIGSTOP) 0 0 5 0,
    .granted (.ptraceSyscall 200) 59 0 6 0,
    .granted (.ptraceEvent 200 .SIGTRAP PTRACE_EVENT_EXEC) 59 0 7 0,
    .granted (.ptraceSyscall 200) 59 0 8 0,
    .granted (.ptraceSyscall 200) 3 0 9 0,
    .granted (.ptraceSyscall 200) 3 7 12 0]

/-- The fork event of process 100 that names 200. -/
def forksChild (now : Nat) : Delivery :=
  .granted (.ptraceEvent 100 .SIGTRAP PTRACE_EVENT_FORK) 57 0 now 200

end Loi.Core
