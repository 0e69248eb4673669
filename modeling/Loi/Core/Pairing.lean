import Loi.Core.Timeline

/-! The events of a process are its completed syscalls, each carrying the
registers of its own two stops. The phase and the skip flag of the tracee agree
with the kernel's position at every stop. -/

set_option autoImplicit false

namespace Loi.Core

open Nix Foundation

/-- The event carries the number and the arguments read at the entry stop of
the syscall and the return value read at its exit stop. -/
structure Syscall.Reports (name : UInt64 → Option String) (pid : Pid) (syscall : Syscall)
    (event : SyscallEvent) : Prop where
  entryRead : ∃ regs, syscall.entry.answers.getregs = .ok regs ∧
    event.syscallNr = (extractEntry regs).1 ∧ event.args = (extractEntry regs).2 ∧
    event.syscallName = syscallName name (extractEntry regs).1
  exitRead : ∃ regs, syscall.exit.answers.getregs = .ok regs ∧ event.ret = extractRet regs
  pid : event.pid = pid
  duration : event.duration = syscall.exit.answers.now - syscall.entry.answers.now

def sunk (effects : List Effect) : List SyscallEvent :=
  effects.filterMap fun
    | .sink event => some event
    | .resume _ _ => none

@[simp] theorem sunk_append (left right : List Effect) :
    sunk (left ++ right) = sunk left ++ sunk right :=
  List.filterMap_append

@[simp] theorem sunk_resume (pid : Pid) (signal : Option Signal) :
    sunk [.resume pid signal] = [] := rfl

@[simp] theorem sunk_nil : sunk [] = [] := rfl

def eventsOf (pid : Pid) (run : Run Tracer Effect Error) : List SyscallEvent :=
  sunk (effectsOf pid run.outputs)

/-- The tracee's phase and skip flag, as the kernel's position requires them. -/
def Agrees (tracee : Tracee) : SyscallPosition → Prop
  | .leftover => tracee.phase = .entry ∧ tracee.skipNextSyscallStop = true
  | .outside => tracee.phase = .entry ∧ tracee.skipNextSyscallStop = false
  | .inside _ entry => tracee.skipNextSyscallStop = false ∧
      ∃ regs, entry.answers.getregs = .ok regs ∧
        tracee.phase = .exit (extractEntry regs).1 (extractEntry regs).2 entry.answers.now
  | .execed _ _ => tracee.phase = .entry ∧ tracee.skipNextSyscallStop = true

/-- Only the exit stop of a syscall that did not exec reaches the sink. -/
def observed (syscalls : List Syscall) : List Syscall :=
  syscalls.filter (fun syscall => !syscall.execed)

def reportedCalls (reported : Bool) (syscalls : List Syscall) : List Syscall :=
  if reported then observed syscalls else []

@[simp] theorem reportedCalls_nil (reported : Bool) : reportedCalls reported [] = [] := by
  cases reported <;> rfl

theorem reportedCalls_append (reported : Bool) (left right : List Syscall) :
    reportedCalls reported (left ++ right) =
      reportedCalls reported left ++ reportedCalls reported right := by
  cases reported <;> simp [reportedCalls, observed]

theorem reportedCalls_initial {left right : List Syscall} (reported : Bool)
    (initial : left <+: right) : reportedCalls reported left <+: observed right := by
  cases reported with
  | false => exact List.nil_prefix
  | true => exact initial.filter _

/-- What one stop of a process does, next to what the kernel knows about it. -/
structure StopAgrees (name : UInt64 → Option String) (pid : Pid) (reported : Bool)
    (timeline : Timeline) (delivery : Delivery) (reaction : Reaction Tracee Effect Error) :
    Prop where
  ok : reaction.result = .ok () → Agrees reaction.state (timeline.nextPosition delivery) ∧
    List.Forall₂ (Syscall.Reports name pid) (reportedCalls reported (timeline.finishes delivery))
      (sunk reaction.outputs)
  cut : ∃ syscalls, syscalls <+: reportedCalls reported (timeline.finishes delivery) ∧
    List.Forall₂ (Syscall.Reports name pid) syscalls (sunk reaction.outputs)

private theorem stopAgrees_silent {name : UInt64 → Option String} {pid : Pid} {reported : Bool}
    {timeline : Timeline} {delivery : Delivery} {reaction : Reaction Tracee Effect Error}
    (silent : sunk reaction.outputs = [])
    (observes : reaction.result = .ok () →
      reportedCalls reported (timeline.finishes delivery) = [])
    (agrees : reaction.result = .ok () →
      Agrees reaction.state (timeline.nextPosition delivery)) :
    StopAgrees name pid reported timeline delivery reaction := by
  constructor
  · intro success
    rw [silent, observes success]
    exact ⟨agrees success, .nil⟩
  · rw [silent]
    exact ⟨[], List.nil_prefix, .nil⟩

private theorem syscallStop_agrees (name : UInt64 → Option String) (pid other : Pid)
    (reported : Bool) {tracee : Tracee} {timeline : Timeline} (answers : Answers)
    (agrees : Agrees tracee timeline.position) :
    StopAgrees name pid reported timeline ⟨.ptraceSyscall other, answers⟩
      (processStatus name pid reported tracee ⟨.ptraceSyscall other, answers⟩) := by
  cases position : timeline.position with
  | leftover =>
      rw [position] at agrees
      obtain ⟨phase, skips⟩ := agrees
      apply stopAgrees_silent
      · simp [processStatus, skips]
      · simp [Timeline.finishes, position]
      · simp [processStatus, skips, Timeline.nextPosition, position, Agrees, phase]
  | execed entryAt entry =>
      rw [position] at agrees
      obtain ⟨phase, skips⟩ := agrees
      apply stopAgrees_silent
      · simp [processStatus, skips]
      · cases reported <;> simp [Timeline.finishes, position, reportedCalls, observed]
      · simp [processStatus, skips, Timeline.nextPosition, position, Agrees, phase]
  | outside =>
      rw [position] at agrees
      obtain ⟨phase, counts⟩ := agrees
      cases read : answers.getregs with
      | error errno =>
          apply stopAgrees_silent <;> simp [processStatus, counts, read]
      | ok regs =>
          apply stopAgrees_silent
          · simp [processStatus, counts, read, phase]
          · simp [Timeline.finishes, position]
          · simp [processStatus, counts, read, phase, Timeline.nextPosition, position, Agrees]
  | inside entryAt entry =>
      rw [position] at agrees
      obtain ⟨counts, regs, entryRead, phase⟩ := agrees
      cases read : answers.getregs with
      | error errno =>
          apply stopAgrees_silent <;> simp [processStatus, counts, read]
      | ok exitRegs =>
          have finished : timeline.finishes ⟨.ptraceSyscall other, answers⟩ =
              [⟨entryAt, timeline.length, entry, ⟨.ptraceSyscall other, answers⟩, false⟩] := by
            simp [Timeline.finishes, position]
          have reports : List.Forall₂ (Syscall.Reports name pid)
              (reportedCalls reported (timeline.finishes ⟨.ptraceSyscall other, answers⟩))
              (sunk (processStatus name pid reported tracee
                ⟨.ptraceSyscall other, answers⟩).outputs) := by
            rw [finished]
            cases reported with
            | false => simp [processStatus, counts, read, phase, reportedCalls]
            | true =>
                simp only [processStatus, counts, read, phase, reportedCalls, observed]
                exact .cons ⟨⟨regs, entryRead, rfl, rfl, rfl⟩, ⟨exitRegs, read, rfl⟩, rfl, rfl⟩ .nil
          constructor
          · intro success
            refine ⟨?_, reports⟩
            simp [processStatus, counts, read, phase, Timeline.nextPosition, position, Agrees]
          · exact ⟨_, List.prefix_rfl, reports⟩

private theorem event_agrees (name : UInt64 → Option String) (pid other : Pid) (reported : Bool)
    {tracee : Tracee} {timeline : Timeline} (signal : Signal) (event : Int32) (answers : Answers)
    (legal : event = PTRACE_EVENT_EXEC →
      ∃ entryAt entry, timeline.position = .inside entryAt entry)
    (agrees : Agrees tracee timeline.position) :
    StopAgrees name pid reported timeline ⟨.ptraceEvent other signal event, answers⟩
      (processStatus name pid reported tracee ⟨.ptraceEvent other signal event, answers⟩) := by
  have finished : timeline.finishes ⟨.ptraceEvent other signal event, answers⟩ = [] := by
    simp [Timeline.finishes]
  have keeps : event ≠ PTRACE_EVENT_EXEC →
      timeline.nextPosition ⟨.ptraceEvent other signal event, answers⟩ = timeline.position := by
    intro different
    unfold Timeline.nextPosition
    cases position : timeline.position <;> simp [different]
  by_cases execs : event = PTRACE_EVENT_EXEC
  · obtain ⟨entryAt, entry, position⟩ := legal execs
    subst execs
    have noFork : isForkEvent PTRACE_EVENT_EXEC = false := by decide
    apply stopAgrees_silent
    · simp [processStatus, noFork]
    · simp [finished]
    · intro _
      simp [processStatus, noFork, Timeline.nextPosition, position, Agrees]
  · by_cases forks : isForkEvent event = true
    · cases answered : answers.getevent with
      | error errno =>
          apply stopAgrees_silent <;> simp [processStatus, forks, answered]
      | ok raw =>
          apply stopAgrees_silent
          · simp [processStatus, forks, answered]
          · simp [finished]
          · intro _
            simpa [processStatus, forks, answered, keeps execs] using agrees
    · apply stopAgrees_silent
      · simp [processStatus, forks, execs]
      · simp [finished]
      · intro _
        simpa [processStatus, forks, execs, keeps execs] using agrees

private theorem signal_agrees (name : UInt64 → Option String) (pid other : Pid) (reported : Bool)
    {tracee : Tracee} {timeline : Timeline} (signal : Signal) (answers : Answers)
    (agrees : Agrees tracee timeline.position) :
    StopAgrees name pid reported timeline ⟨.stopped other signal, answers⟩
      (processStatus name pid reported tracee ⟨.stopped other signal, answers⟩) := by
  have keeps : timeline.nextPosition ⟨.stopped other signal, answers⟩ = timeline.position := by
    unfold Timeline.nextPosition
    cases timeline.position <;> rfl
  apply stopAgrees_silent
  · simp only [processStatus]
    split <;> rfl
  · simp [Timeline.finishes]
  · intro _
    rw [keeps]
    simp only [processStatus]
    split
    · cases position : timeline.position <;> rw [position] at agrees <;> exact agrees
    · exact agrees

/-- One stop: the tracee stays in step with the kernel, and the sink sees
exactly the syscall that this stop completes. -/
theorem processStatus_agrees (name : UInt64 → Option String) {root pid : Pid} (reported : Bool)
    {tracee : Tracee} {stops : List Delivery} (delivery : Delivery)
    (own : delivery.status.pid? = some pid) (legal : KernelLegal root pid stops delivery)
    (agrees : Agrees tracee (timeline root pid stops).position) :
    StopAgrees name pid reported (timeline root pid stops) delivery
      (processStatus name pid reported tracee delivery) := by
  rcases delivery with ⟨status, answers⟩
  cases status with
  | ptraceSyscall other => exact syscallStop_agrees name pid other reported answers agrees
  | stopped other signal => exact signal_agrees name pid other reported signal answers agrees
  | ptraceEvent other signal event =>
      cases own
      exact event_agrees name pid pid reported signal event answers
        (fun execs => legal (by simp [WaitStatus.isExecOf, execs])) agrees
  | exited | signaled =>
      apply stopAgrees_silent
      · rfl
      · simp [Timeline.finishes]
      · intro _
        simp [processStatus, Timeline.nextPosition, Agrees, Tracee.newChild]
  | continued other =>
      apply stopAgrees_silent
      · rfl
      · simp [Timeline.finishes]
      · intro _
        unfold Timeline.nextPosition
        cases position : (timeline root pid stops).position <;> rw [position] at agrees <;>
          exact agrees
  | stillAlive => cases own

theorem initial_agrees (root pid : Pid) :
    Agrees (if pid = root then .newRoot else .newChild) (timeline root pid []).position := by
  by_cases same : pid = root <;>
    simp [same, timeline, Agrees, Tracee.newRoot, Tracee.newChild]

theorem processRun_agrees (name : UInt64 → Option String) {root pid : Pid} (reported : Bool)
    {stops : List Delivery} (all : AllOf pid stops)
    (conforms : Machine.Conforms (KernelLegal root pid) stops)
    (success : (Machine.run (processStatus name pid reported)
      (if pid = root then .newRoot else .newChild) stops).result = .ok ()) :
    Agrees (Machine.run (processStatus name pid reported)
        (if pid = root then .newRoot else .newChild) stops).state
        (timeline root pid stops).position ∧
      List.Forall₂ (Syscall.Reports name pid)
        (reportedCalls reported (timeline root pid stops).completed)
        (sunk (Machine.run (processStatus name pid reported)
          (if pid = root then .newRoot else .newChild) stops).outputs) := by
  induction stops using List.reverseRecOn with
  | nil => exact ⟨initial_agrees root pid, by simp [timeline, Run.outputs]⟩
  | append_singleton stops delivery ih =>
      obtain ⟨before, reacted⟩ := Machine.run_snoc_ok success
      obtain ⟨agrees, reports⟩ := ih all.initial conforms.initial before
      obtain ⟨next, last⟩ := (processStatus_agrees name reported delivery all.last
        conforms.last agrees).ok reacted
      rw [Machine.run_snoc before, timeline_snoc]
      refine ⟨next, ?_⟩
      simp only [Timeline.next, reportedCalls_append, Run.outputs, List.flatten_append,
        List.flatten_singleton, sunk_append]
      exact List.rel_append reports last

/-- The same for a stream whose last status may fail: some initial part of its
completed syscalls has been reported. -/
theorem processRun_agrees_cut (name : UInt64 → Option String) {root pid : Pid} (reported : Bool)
    {stops : List Delivery} (all : AllOf pid stops)
    (conforms : Machine.Conforms (KernelLegal root pid) stops) :
    ∃ syscalls, syscalls <+: observed (timeline root pid stops).completed ∧
      List.Forall₂ (Syscall.Reports name pid) syscalls
        (sunk (Machine.run (processStatus name pid reported)
          (if pid = root then .newRoot else .newChild) stops).outputs) := by
  cases finished : (Machine.run (processStatus name pid reported)
      (if pid = root then .newRoot else .newChild) stops).result with
  | ok =>
      exact ⟨_, reportedCalls_initial reported List.prefix_rfl,
        (processRun_agrees name reported all conforms finished).2⟩
  | error error =>
      obtain ⟨seen, delivery, rest, rfl, before, same⟩ := Machine.run_failure finished
      have allSeen : AllOf pid (seen ++ [delivery]) := by
        intro earlier member
        exact all earlier (by rw [List.append_cons]; exact List.mem_append_left _ member)
      have legal : KernelLegal root pid seen delivery := conforms seen delivery rest rfl
      obtain ⟨agrees, reports⟩ :=
        processRun_agrees name reported allSeen.initial conforms.initial before
      obtain ⟨syscalls, initial, last⟩ :=
        (processStatus_agrees name reported delivery allSeen.last legal agrees).cut
      refine ⟨reportedCalls reported (timeline root pid seen).completed ++ syscalls, ?_, ?_⟩
      · have whole : reportedCalls reported (timeline root pid seen).completed ++ syscalls <+:
            reportedCalls reported (timeline root pid (seen ++ [delivery])).completed := by
          rw [timeline_snoc, Timeline.next, reportedCalls_append]
          exact (List.prefix_append_right_inj _).mpr initial
        refine whole.trans (reportedCalls_initial reported ?_)
        rw [List.append_cons seen delivery rest]
        exact timeline_completed_append root pid _ _
      · rw [same, Machine.run_snoc before]
        simp only [Run.outputs, List.flatten_append, List.flatten_singleton, sunk_append]
        exact List.rel_append reports last

theorem thisLife_own (pid : Pid) (seen : List Delivery) :
    thisLife pid (ownDeliveries pid seen) = thisLife pid seen := by
  induction seen using List.reverseRecOn with
  | nil => rfl
  | append_singleton seen delivery ih =>
      rw [thisLife_snoc, ownDeliveries, List.filter_append]
      by_cases own : delivery.status.pid? = some pid
      · have kept : [delivery].filter (fun delivery => delivery.status.pid? = some pid) =
            [delivery] := by
          simp [own]
        rw [kept, thisLife_snoc]
        rw [ownDeliveries] at ih
        rw [ih]
      · have stays : delivery.status.isExitOf pid = false := by
          cases exits : delivery.status.isExitOf pid with
          | false => rfl
          | true => exact absurd (WaitStatus.pid?_of_isExitOf exits) own
        rw [ownDeliveries] at ih
        simpa [own, stays] using ih

/-- While a syscall is open, its entry stop belongs to the current life. -/
theorem ordinaryStop_of_open {root pid : Pid} {stops : List Delivery} (all : AllOf pid stops)
    {entryAt : Nat} {entry : Delivery}
    (opened : (timeline root pid stops).position = .inside entryAt entry ∨
      (timeline root pid stops).position = .execed entryAt entry) :
    ∃ status ∈ thisLife pid stops, status.isOrdinaryStopOf pid = true := by
  induction stops using List.reverseRecOn with
  | nil =>
      simp only [timeline, List.foldl_nil] at opened
      split at opened <;> simp at opened
  | append_singleton stops delivery ih =>
      rw [timeline_snoc] at opened
      have own := all.last
      rw [thisLife_snoc, if_pos own]
      have stays : delivery.status.isExitOf pid = false := by
        cases status : delivery.status with
        | exited | signaled => simp [Timeline.next, Timeline.nextPosition, status] at opened
        | stopped | ptraceEvent | ptraceSyscall | continued | stillAlive => rfl
      rw [stays, if_neg (by simp)]
      rcases (timeline root pid stops).nextPosition_open delivery opened with
        ⟨⟨other, status⟩, _⟩ | ⟨_, before⟩
      · refine ⟨delivery.status, by simp, ?_⟩
        rw [status] at own ⊢
        simpa [WaitStatus.pid?, WaitStatus.isOrdinaryStopOf] using own
      · obtain ⟨status, member, ordinary⟩ := ih all.initial before
        exact ⟨status, List.mem_append_left _ member, ordinary⟩

theorem execAfterStop_of_kernelLegal {root pid : Pid} {deliveries : List Delivery}
    (conforms : Machine.Conforms (KernelLegal root pid) (ownDeliveries pid deliveries)) :
    Machine.Conforms (ExecAfterStop root pid) deliveries := by
  intro seen delivery rest split execs
  have own : delivery.status.pid? = some pid := WaitStatus.pid?_of_isExecOf execs
  have here : ownDeliveries pid deliveries =
      ownDeliveries pid seen ++ delivery :: ownDeliveries pid rest := by
    simp [split, ownDeliveries, List.filter_append, own]
  obtain ⟨entryAt, entry, position⟩ := conforms _ _ _ here execs
  obtain ⟨status, member, ordinary⟩ :=
    ordinaryStop_of_open (allOf_ownDeliveries pid seen) (.inl position)
  exact .inr ⟨status, thisLife_own pid seen ▸ member, ordinary⟩

/-- The syscalls of `pid` whose two stops were both delivered, in order. -/
def completedSyscalls (root pid : Pid) (deliveries : List Delivery) : List Syscall :=
  (timeline root pid (ownDeliveries pid deliveries)).completed

/-- They are the syscalls that occur in the stream of the process. -/
theorem mem_completedSyscalls_iff {root pid : Pid} {deliveries : List Delivery}
    {syscall : Syscall} :
    syscall ∈ completedSyscalls root pid deliveries ↔
      syscall.Occurs root pid (ownDeliveries pid deliveries) :=
  ⟨(timeline_sound root pid _ (allOf_ownDeliveries pid deliveries)).occurs syscall,
    Syscall.Occurs.recorded⟩

/-- Entry/exit pairing never slips. Whatever the other processes do, the events
of a process whose own stream is conformant are completed syscalls of that
stream, in order and each at most once, and every event carries the entry
registers and the exit register of its own syscall. A run that fails half-way
is no exception. -/
theorem handleAll_pairing (name : UInt64 → Option String) (root pid : Pid) (followForks : Bool)
    (deliveries : List Delivery)
    (conforms : Machine.Conforms (KernelLegal root pid) (ownDeliveries pid deliveries)) :
    ∃ syscalls,
      List.Forall₂ (Syscall.Reports name pid) syscalls
        (eventsOf pid (handleAll name (.postSpawn root followForks) deliveries)) ∧
      syscalls.Pairwise (fun first second => first.exitAt < second.entryAt) ∧
      ∀ syscall ∈ syscalls, syscall.Occurs root pid (ownDeliveries pid deliveries) := by
  have all := allOf_ownDeliveries pid deliveries
  have sound := timeline_sound root pid _ all
  obtain ⟨syscalls, initial, reports⟩ := processRun_agrees_cut name
    (decide (pid = root) || followForks) all conforms
  obtain ⟨more, whole⟩ := handleAll_alone_cut name followForks
    (execAfterStop_of_kernelLegal conforms)
  have kept : (syscalls.take (eventsOf pid (handleAll name (.postSpawn root followForks)
      deliveries)).length) <+: observed (completedSyscalls root pid deliveries) :=
    (List.take_prefix _ _).trans initial
  refine ⟨syscalls.take (eventsOf pid (handleAll name (.postSpawn root followForks)
      deliveries)).length, ?_, ?_, ?_⟩
  · have shortened := List.forall₂_take
      (eventsOf pid (handleAll name (.postSpawn root followForks) deliveries)).length reports
    rw [processAlone] at whole
    rw [← whole, sunk_append] at shortened
    simpa [eventsOf] using shortened
  · exact (sound.ordered.sublist List.filter_sublist).sublist kept.sublist
  · intro syscall member
    exact mem_completedSyscalls_iff.mp (List.mem_of_mem_filter (kept.subset member))

theorem handleAll_pairing_childExecs :
    ∃ syscalls,
      List.Forall₂ (Syscall.Reports (fun _ => none) 200) syscalls
        (eventsOf 200 (handleAll (fun _ => none) (.postSpawn 100 true)
          (forksChild 1 :: childExecs))) ∧
      syscalls.Pairwise (fun first second => first.exitAt < second.entryAt) ∧
      ∀ syscall ∈ syscalls,
        syscall.Occurs 100 200 (ownDeliveries 200 (forksChild 1 :: childExecs)) :=
  handleAll_pairing (fun _ => none) 100 200 true (forksChild 1 :: childExecs) (by decide)

/-- The sink calls for the root are exactly its completed syscalls, less the
successful `execve`s: their exit stop is dropped like the leftover one. -/
theorem handleAll_root_events (name : UInt64 → Option String) (root : Pid) (followForks : Bool)
    (deliveries : List Delivery)
    (conforms : Machine.Conforms (KernelLegal root root) (ownDeliveries root deliveries))
    (success : (handleAll name (.postSpawn root followForks) deliveries).result = .ok ()) :
    List.Forall₂ (Syscall.Reports name root) (observed (completedSyscalls root root deliveries))
      (eventsOf root (handleAll name (.postSpawn root followForks) deliveries)) := by
  obtain ⟨alone, outputs⟩ := handleAll_alone name (execAfterStop_of_kernelLegal conforms) success
  have reports := (processRun_agrees name _ (allOf_ownDeliveries root deliveries) conforms alone).2
  rw [eventsOf, outputs, processAlone]
  simpa [reportedCalls, completedSyscalls] using reports

/-- The sink is called exactly once for each completed syscall of the root if
and only if none of them is an `execve` that succeeded. -/
theorem handleAll_complete_iff (name : UInt64 → Option String) (root : Pid) (followForks : Bool)
    (deliveries : List Delivery)
    (conforms : Machine.Conforms (KernelLegal root root) (ownDeliveries root deliveries))
    (success : (handleAll name (.postSpawn root followForks) deliveries).result = .ok ()) :
    List.Forall₂ (Syscall.Reports name root) (completedSyscalls root root deliveries)
        (eventsOf root (handleAll name (.postSpawn root followForks) deliveries)) ↔
      ∀ syscall ∈ completedSyscalls root root deliveries, syscall.execed = false := by
  have reports := handleAll_root_events name root followForks deliveries conforms success
  constructor
  · intro complete
    have lengths : (observed (completedSyscalls root root deliveries)).length =
        (completedSyscalls root root deliveries).length :=
      reports.length_eq.trans complete.length_eq.symm
    intro syscall member
    simpa using List.length_filter_eq_length_iff.mp lengths syscall member
  · intro plain
    have everything : observed (completedSyscalls root root deliveries) =
        completedSyscalls root root deliveries := by
      apply List.filter_eq_self.mpr
      intro syscall member
      simp [plain syscall member]
    rwa [everything] at reports

/-- The end of the root's initial `execve`, then an `execve` of its own. -/
def rootExecs : List Delivery :=
  [.granted (.ptraceSyscall 100) 59 0 1 0,
    .granted (.ptraceSyscall 100) 59 0 2 0,
    .granted (.ptraceEvent 100 .SIGTRAP PTRACE_EVENT_EXEC) 59 0 3 0,
    .granted (.ptraceSyscall 100) 59 0 4 0]

theorem handleAll_complete_iff_rootExecs :
    List.Forall₂ (Syscall.Reports (fun _ => none) 100) (completedSyscalls 100 100 rootExecs)
        (eventsOf 100 (handleAll (fun _ => none) (.postSpawn 100 false) rootExecs)) ↔
      ∀ syscall ∈ completedSyscalls 100 100 rootExecs, syscall.execed = false :=
  handleAll_complete_iff (fun _ => none) 100 false rootExecs (by decide) rfl

theorem rootExecs_unreported :
    Machine.Conforms (KernelLegal 100 100) (ownDeliveries 100 rootExecs) ∧
      (handleAll (fun _ => none) (.postSpawn 100 false) rootExecs).result = .ok () ∧
      ¬ List.Forall₂ (Syscall.Reports (fun _ => none) 100) (completedSyscalls 100 100 rootExecs)
        (eventsOf 100 (handleAll (fun _ => none) (.postSpawn 100 false) rootExecs)) := by
  refine ⟨by decide, rfl, ?_⟩
  intro complete
  have lengths := complete.length_eq
  revert lengths
  decide

end Loi.Core
