import Loi.Core.SpawnProcesses

set_option autoImplicit false

/-! What a failed `spawn` leaves behind, whatever the kernel answers to its parent arm. -/

namespace Loi.Core.Spawn

open Foundation Nix Program

section Fate

def ReportsExit : WaitStatus → Prop
  | .exited _ _ | .signaled _ _ _ => True
  | _ => False

/-- The child has been reaped, or killed and detached. -/
def LeavesNoChild (child : Pid) (events : List (Event Answer)) : Prop :=
  (∃ status, ⟨.waitpid child, .ok status⟩ ∈ events ∧ ReportsExit status) ∨
    ∃ answer, ⟨.detach child .SIGKILL, answer⟩ ∈ events

/-- No `waitpid` has failed. -/
def WaitsSucceed (events : List (Event Answer)) : Prop :=
  ∀ pid errno, ⟨.waitpid pid, .error errno⟩ ∉ events

/-- The statuses at which the first wait of `finish_parent` goes on or finds the child
dead. -/
def ExpectedFirst : WaitStatus → Prop
  | .stopped _ .SIGSTOP | .exited _ _ | .signaled _ _ _ => True
  | _ => False

/-- Those of the second one. -/
def ExpectedSecond : WaitStatus → Prop
  | .ptraceEvent _ _ _ | .stopped _ .SIGTRAP | .exited _ _ | .signaled _ _ _ => True
  | _ => False

def waitAnswer : Event Answer → Option (Except Errno WaitStatus)
  | ⟨.waitpid _, answer⟩ => some answer
  | _ => none

/-- The answers to the waits, in order. -/
def waitAnswers (events : List (Event Answer)) : List (Except Errno WaitStatus) :=
  events.filterMap waitAnswer

/-- The kernel has refused to set the options or to let the child go on. -/
def Refused : Event Answer → Prop
  | ⟨.setoptions _ _, .error _⟩ | ⟨.cont _ _, .error _⟩ => True
  | _ => False

/-- The kernel answers nothing at which `finish_parent` gives up on a child that has not
exited: each wait reports what is expected of it, and nothing is refused. -/
structure Undisturbed (events : List (Event Answer)) : Prop where
  first : ∀ status, (waitAnswers events)[0]? = some (.ok status) → ExpectedFirst status
  granted : ∀ event ∈ events, ¬ Refused event
  second : ∀ status, (waitAnswers events)[1]? = some (.ok status) → ExpectedSecond status

/-- A failed `spawn` whose waits succeeded leaves no child. -/
def Clean (child : Pid) (events : List (Event Answer)) (result : Except SpawnError Tracer) : Prop :=
  (∃ error, result = .error error) → WaitsSucceed events → LeavesNoChild child events

end Fate

section Events

variable {child : Pid} {event : Event Answer} {events : List (Event Answer)}
  {result : Except SpawnError Tracer}

theorem leavesNoChild_cons :
    LeavesNoChild child (event :: events) ↔
      LeavesNoChild child [event] ∨ LeavesNoChild child events := by
  simp only [LeavesNoChild, List.mem_cons, List.not_mem_nil, or_false, or_and_right, exists_or]
  exact or_or_or_comm

theorem waitsSucceed_cons :
    WaitsSucceed (event :: events) ↔ WaitsSucceed [event] ∧ WaitsSucceed events := by
  simp only [WaitsSucceed, List.mem_cons, List.not_mem_nil, or_false, not_or, forall_and]

/-- The calls that neither wait for the child nor detach it. -/
def Silent : Call → Prop
  | .waitpid _ | .detach _ _ => False
  | _ => True

theorem Silent.leaves (silent : Silent event.call) : ¬ LeavesNoChild child [event] := by
  rintro (⟨status, member, _⟩ | ⟨answer, member⟩)
  · rw [← List.mem_singleton.mp member] at silent
    exact silent
  · rw [← List.mem_singleton.mp member] at silent
    exact silent

theorem Silent.waits (silent : Silent event.call) : WaitsSucceed [event] := by
  intro pid errno member
  rw [← List.mem_singleton.mp member] at silent
  exact silent

theorem Silent.waitAnswers (silent : Silent event.call) :
    waitAnswers (event :: events) = waitAnswers events := by
  obtain ⟨call, answer⟩ := event
  cases call with
  | waitpid => exact silent.elim
  | _ => rfl

theorem clean_cons (silent : Silent event.call) :
    Clean child (event :: events) result ↔ Clean child events result := by
  unfold Clean
  rw [leavesNoChild_cons, waitsSucceed_cons]
  simp only [silent.leaves, silent.waits, false_or, true_and]

/-- The events of `read_exec_errno` and of the drop of the read end. -/
def IsRead (event : Event Answer) : Prop :=
  match event.call with
  | .read _ | .close .read => True
  | _ => False

theorem IsRead.silent (read : IsRead event) : Silent event.call := by
  unfold IsRead at read
  split at read
  · rename_i same
    rw [same]
    trivial
  · rename_i same
    rw [same]
    trivial
  · exact read.elim

theorem IsRead.not_refused (read : IsRead event) : ¬ Refused event := by
  obtain ⟨call, answer⟩ := event
  cases call with
  | setoptions | cont => exact read.elim
  | _ => exact id

theorem reads_silent (child : Pid) (reads : ∀ event ∈ events, IsRead event) :
    ¬ LeavesNoChild child events ∧ WaitsSucceed events ∧ ∀ event ∈ events, ¬ Refused event := by
  induction events with
  | nil => simp [LeavesNoChild, WaitsSucceed]
  | cons event events ih =>
      obtain ⟨leaves, waits, granted⟩ := ih fun other member => reads other (.tail _ member)
      have read := reads event List.mem_cons_self
      rw [leavesNoChild_cons, waitsSucceed_cons, List.forall_mem_cons]
      exact ⟨not_or.mpr ⟨read.silent.leaves, leaves⟩, ⟨read.silent.waits, waits⟩,
        read.not_refused, granted⟩

theorem waitAnswers_reads (reads : ∀ event ∈ events, IsRead event) : waitAnswers events = [] := by
  refine List.filterMap_eq_nil_iff.mpr fun event member => ?_
  have read := reads event member
  obtain ⟨call, answer⟩ := event
  cases call with
  | waitpid => exact read.elim
  | _ => rfl

end Events

section Ends

variable {fromRaw : Int32 → Errno} {child : Pid} {events : List (Event Answer)}
  {result : Except SpawnError Tracer}

/-- The places from which the parent only reads. -/
def ParentAt.EndsIn (result : Except SpawnError Tracer) : ParentAt → Prop
  | .reads _ _ => ∃ error, result = .error error
  | .dropsReadEnd other | .returned other => result = other
  | _ => False

section Sights

variable {filled : List UInt8} {room : filled.length < 4} {status : WaitStatus}

theorem sawRead_last (answer : Except Errno (List UInt8)) :
    ∃ other, (ParentAt.sawRead fromRaw filled room answer).EndsIn other := by
  cases answer with
  | error errno =>
      rw [ParentAt.sawRead]
      split
      · exact ⟨.error .traceeGone, _, rfl⟩
      · exact ⟨_, rfl⟩
  | ok bytes =>
      rw [ParentAt.sawRead, ParentAt.reading]
      split
      · exact ⟨_, rfl⟩
      · split
        · exact ⟨.error .traceeGone, _, rfl⟩
        · exact ⟨_, rfl⟩

theorem sawRead_fails {answer : Except Errno (List UInt8)}
    (ends : (ParentAt.sawRead fromRaw filled room answer).EndsIn result) :
    ∃ error, result = .error error := by
  cases answer with
  | error errno =>
      rw [ParentAt.sawRead] at ends
      split at ends
      · exact ends
      · exact ⟨_, ends⟩
  | ok bytes =>
      rw [ParentAt.sawRead, ParentAt.reading] at ends
      split at ends
      · exact ⟨_, ends⟩
      · split at ends
        · exact ends
        · exact ⟨_, ends⟩

theorem sawSecond_last (answer : Except Errno WaitStatus) :
    ∃ other, (ParentAt.sawSecond child answer).EndsIn other := by
  unfold ParentAt.sawSecond
  split
  case h_3 | h_4 => exact ⟨.error .traceeGone, _, rfl⟩
  all_goals exact ⟨_, rfl⟩

/-- The second wait gives up exactly on the statuses that are not expected of it. -/
theorem sawSecond_ends (ends : (ParentAt.sawSecond child (.ok status)).EndsIn result) :
    ((∃ error, result = .error error) → ReportsExit status) ↔ ExpectedSecond status := by
  unfold ParentAt.sawSecond at ends
  split at ends
  case h_1 | h_2 =>
    cases ‹Except.ok status = _›
    have succeeds : result = .ok (Tracer.postSpawn child false) := ends
    simp [succeeds, ExpectedSecond]
  case h_3 | h_4 =>
    cases ‹Except.ok status = _›
    simp [ReportsExit, ExpectedSecond]
  case h_5 other notEvent notTrap notExited notSignaled same =>
    cases same
    have fails : result = .error .traceeGone := ends
    have odd : ¬ ExpectedSecond status := by
      unfold ExpectedSecond
      split <;> simp_all
    have alive : ¬ ReportsExit status := by
      unfold ReportsExit
      split <;> simp_all
    simp [fails, odd, alive]
  case h_6 => cases ‹Except.ok status = _›

/-- The first wait gives up on the statuses that are neither the stop nor an exit. -/
theorem sawFirst_ends (ends : (ParentAt.sawFirst (.ok status)).EndsIn result) :
    (∃ error, result = .error error) ∧ (ReportsExit status ↔ ExpectedFirst status) := by
  unfold ParentAt.sawFirst at ends
  split at ends
  case h_1 => exact ends.elim
  case h_2 | h_3 =>
    cases ‹Except.ok status = _›
    exact ⟨ends, Iff.rfl⟩
  case h_4 other notStop notExited notSignaled same =>
    cases same
    refine ⟨⟨_, ends⟩, ?_⟩
    unfold ReportsExit ExpectedFirst
    split <;> simp_all
  case h_5 => cases ‹Except.ok status = _›

/-- Behind the first wait, the parent goes on or only reads. -/
theorem sawFirst_cases (answer : Except Errno WaitStatus) :
    (∃ pid, answer = .ok (.stopped pid .SIGSTOP)) ∨
      ∃ other, (ParentAt.sawFirst answer).EndsIn other := by
  unfold ParentAt.sawFirst
  split
  case h_1 pid => exact .inl ⟨pid, rfl⟩
  case h_2 | h_3 => exact .inr ⟨.error .traceeGone, _, rfl⟩
  all_goals exact .inr ⟨_, rfl⟩

end Sights

/-- From there on its calls are silent. -/
theorem ends_in {place : ParentAt} (last : ∃ other, place.EndsIn other)
    (returned : place.program fromRaw child events = .returned result []) :
    place.EndsIn result ∧ ∀ event ∈ events, IsRead event := by
  induction events generalizing place with
  | nil =>
      rcases ParentAt.program_returned fromRaw child returned with ⟨rfl, _⟩ | ⟨_, _, _, _, nil, _⟩
      · exact ⟨rfl, by simp⟩
      · cases nil
  | cons event events ih =>
      rcases ParentAt.program_returned fromRaw child returned with
        ⟨_, nil⟩ | ⟨call, answer, more, asks, same, later⟩
      · cases nil
      · cases same
        cases place with
        | reads filled room =>
            cases asks
            obtain ⟨ends, reads⟩ := ih (sawRead_last answer) later
            exact ⟨sawRead_fails ends, List.forall_mem_cons.mpr ⟨trivial, reads⟩⟩
        | dropsReadEnd other =>
            cases asks
            have last : ∃ result, (ParentAt.returned other).EndsIn result := ⟨other, rfl⟩
            obtain ⟨ends, reads⟩ := ih last later
            exact ⟨ends, List.forall_mem_cons.mpr ⟨trivial, reads⟩⟩
        | returned => cases asks
        | _ => exact last.elim fun _ no => no.elim

end Ends

section Parent

variable {fromRaw : Int32 → Errno} {child : Pid} {events : List (Event Answer)}
  {result : Except SpawnError Tracer}

/-- With a wait and reads, the child is left unless the wait has reported its exit. -/
theorem clean_wait {answer : Except Errno WaitStatus} (reads : ∀ event ∈ events, IsRead event) :
    Clean child (⟨.waitpid child, answer⟩ :: events) result ↔
      ((∃ error, result = .error error) → ∀ status, answer = .ok status → ReportsExit status) := by
  obtain ⟨leaves, waits, _⟩ := reads_silent child reads
  unfold Clean
  refine imp_congr_right fun _ => ?_
  rw [leavesNoChild_cons, waitsSucceed_cons]
  simp only [leaves, waits, or_false, and_true]
  cases answer with
  | error errno => simp [WaitsSucceed]
  | ok status => simp [WaitsSucceed, LeavesNoChild]

/-- What is left of `Undisturbed` behind the first wait. -/
def UndisturbedExec (events : List (Event Answer)) : Prop :=
  (∀ event ∈ events, ¬ Refused event) ∧
    ∀ status, (waitAnswers events)[0]? = some (.ok status) → ExpectedSecond status

theorem clean_waitsExec
    (returned : ParentAt.program fromRaw child .waitsExec events = .returned result []) :
    Clean child events result ↔ UndisturbedExec events := by
  obtain ⟨answer, more, rfl, later⟩ := ParentAt.program_asked fromRaw child rfl returned
  obtain ⟨ends, reads⟩ := ends_in (sawSecond_last answer) later
  have granted : ∀ event ∈ (⟨.waitpid child, answer⟩ :: more : List (Event Answer)),
      ¬ Refused event :=
    List.forall_mem_cons.mpr ⟨id, (reads_silent child reads).2.2⟩
  have first : (waitAnswers (⟨.waitpid child, answer⟩ :: more))[0]? = some answer := rfl
  rw [clean_wait reads, UndisturbedExec, first, and_iff_right granted]
  cases answer with
  | error errno => simp
  | ok status => simpa using sawSecond_ends ends

/-- A refused call ends in an error with the child left. -/
theorem clean_of_refused {event : Event Answer} {errno : Errno} (silent : Silent event.call)
    (refused : Refused event)
    (returned : ParentAt.program fromRaw child (.dropsReadEnd (.error (.ptrace errno))) events =
      .returned result []) :
    Clean child (event :: events) result ↔ UndisturbedExec (event :: events) := by
  have last : ∃ other, (ParentAt.dropsReadEnd (.error (.ptrace errno))).EndsIn other := ⟨_, rfl⟩
  obtain ⟨ends, reads⟩ := ends_in last returned
  obtain ⟨leaves, waits, _⟩ := reads_silent child reads
  have left : ¬ Clean child (event :: events) result := by
    rw [clean_cons silent]
    intro clean
    exact leaves (clean ⟨_, ends⟩ waits)
  exact iff_of_false left fun undisturbed => undisturbed.1 event List.mem_cons_self refused

/-- A granted one changes nothing. -/
theorem clean_of_granted {event : Event Answer} (silent : Silent event.call)
    (granted : ¬ Refused event) (behind : Clean child events result ↔ UndisturbedExec events) :
    Clean child (event :: events) result ↔ UndisturbedExec (event :: events) := by
  rw [clean_cons silent, behind, UndisturbedExec, UndisturbedExec, silent.waitAnswers,
    List.forall_mem_cons]
  exact and_congr_left fun _ => (and_iff_right granted).symm

theorem clean_continues
    (returned : ParentAt.program fromRaw child .continues events = .returned result []) :
    Clean child events result ↔ UndisturbedExec events := by
  obtain ⟨answer, more, rfl, later⟩ := ParentAt.program_asked fromRaw child rfl returned
  cases answer with
  | error errno => exact clean_of_refused trivial trivial later
  | ok => exact clean_of_granted trivial id (clean_waitsExec later)

theorem clean_setsOptions
    (returned : ParentAt.program fromRaw child .setsOptions events = .returned result []) :
    Clean child events result ↔ UndisturbedExec events := by
  obtain ⟨answer, more, rfl, later⟩ := ParentAt.program_asked fromRaw child rfl returned
  cases answer with
  | error errno => exact clean_of_refused trivial trivial later
  | ok => exact clean_of_granted trivial id (clean_continues later)

theorem clean_waitsStop
    (returned : ParentAt.program fromRaw child .waitsStop events = .returned result []) :
    Clean child events result ↔ Undisturbed events := by
  obtain ⟨answer, more, rfl, later⟩ := ParentAt.program_asked fromRaw child rfl returned
  rcases sawFirst_cases answer with ⟨pid, rfl⟩ | last
  · have stays : Clean child (⟨.waitpid child, .ok (.stopped pid .SIGSTOP)⟩ :: more) result ↔
        Clean child more result := by
      unfold Clean
      rw [leavesNoChild_cons, waitsSucceed_cons]
      simp [LeavesNoChild, WaitsSucceed, ReportsExit]
    rw [stays, clean_setsOptions later]
    constructor
    · rintro ⟨granted, second⟩
      refine ⟨?_, List.forall_mem_cons.mpr ⟨id, granted⟩, second⟩
      intro status seen
      cases seen
      trivial
    · intro undisturbed
      exact ⟨(List.forall_mem_cons.mp undisturbed.granted).2, undisturbed.second⟩
  · obtain ⟨ends, reads⟩ := ends_in last later
    have answers : waitAnswers (⟨.waitpid child, answer⟩ :: more) = [answer] :=
      congrArg (answer :: ·) (waitAnswers_reads reads)
    have granted : ∀ event ∈ (⟨.waitpid child, answer⟩ :: more : List (Event Answer)),
        ¬ Refused event :=
      List.forall_mem_cons.mpr ⟨id, (reads_silent child reads).2.2⟩
    have undisturbed : Undisturbed (⟨.waitpid child, answer⟩ :: more) ↔
        ∀ status, answer = .ok status → ExpectedFirst status := by
      constructor
      · intro undisturbed status same
        exact undisturbed.first status (by rw [answers, same]; rfl)
      · intro first
        refine ⟨?_, granted, ?_⟩
        · intro status seen
          rw [answers] at seen
          exact first status (Option.some.inj seen)
        · intro status seen
          rw [answers] at seen
          cases seen
    rw [clean_wait reads, undisturbed]
    cases answer with
    | error errno => simp
    | ok status =>
        obtain ⟨fails, exits⟩ := sawFirst_ends ends
        simpa [fails] using exits

theorem clean_dropsWriteEnd
    (returned : ParentAt.program fromRaw child .dropsWriteEnd events = .returned result []) :
    Clean child events result ↔ Undisturbed events := by
  obtain ⟨answer, more, rfl, later⟩ := ParentAt.program_asked fromRaw child rfl returned
  have silent : Silent (.close .write) := trivial
  rw [clean_cons silent, clean_waitsStop later]
  constructor
  · intro undisturbed
    exact ⟨undisturbed.first, List.forall_mem_cons.mpr ⟨id, undisturbed.granted⟩,
      undisturbed.second⟩
  · intro undisturbed
    exact ⟨undisturbed.first, (List.forall_mem_cons.mp undisturbed.granted).2,
      undisturbed.second⟩

/-- Whatever the kernel answers behind the fork, a `spawn` that returns leaves no child
behind its error exactly when the kernel did nothing at which it gives up. -/
theorem spawn_clean_iff {command : List String}
    (returned : spawn fromRaw command (parentStart child ++ events) = .returned result []) :
    Clean child events result ↔ Undisturbed events := by
  have nonempty : command ≠ [] := by
    rintro rfl
    simp [spawn, parentStart] at returned
  cases valid : command.mapM cString with
  | error source => simp [spawn, nonempty, valid, parentStart] at returned
  | ok argv =>
      rw [spawn_parent nonempty valid child events] at returned
      exact clean_dropsWriteEnd returned

end Parent

section Runs

/-- A child that dies at once: its exit is what the first wait reports. -/
theorem spawn_clean_iff_diesAtOnce :
    Clean 7 [⟨.close .write, ()⟩, ⟨.waitpid 7, .ok (.signaled 7 .SIGKILL false)⟩,
      ⟨.read 4, .ok []⟩, ⟨.close .read, ()⟩] (.error .traceeGone) := by
  have returned : spawn Errno.mk ["x"] (parentStart 7 ++
      [⟨.close .write, ()⟩, ⟨.waitpid 7, .ok (.signaled 7 .SIGKILL false)⟩,
        ⟨.read 4, .ok []⟩, ⟨.close .read, ()⟩]) = .returned (.error .traceeGone) [] := rfl
  apply (spawn_clean_iff returned).mpr
  constructor
  case first =>
    intro status seen
    cases seen
    trivial
  case granted => simp [Refused]
  case second =>
    intro status seen
    cases seen

/-- The child is stopped by a signal before its exec. -/
def stoppedBeforeExec : List (Event Answer) :=
  [⟨.close .write, ()⟩, ⟨.waitpid 7, .ok (.stopped 7 .SIGSTOP)⟩,
    ⟨.setoptions 7 PTRACE_OPTIONS, .ok ()⟩, ⟨.cont 7 none, .ok ()⟩,
    ⟨.waitpid 7, .ok (.stopped 7 .SIGTERM)⟩, ⟨.close .read, ()⟩]

theorem stoppedBeforeExec_left :
    spawn Errno.mk ["x"] (parentStart 7 ++ stoppedBeforeExec) =
      .returned (.error .traceeGone) [] ∧
    WaitsSucceed stoppedBeforeExec ∧ ¬ LeavesNoChild 7 stoppedBeforeExec := by
  refine ⟨rfl, ?_, ?_⟩
  · simp [WaitsSucceed, stoppedBeforeExec]
  · simp [LeavesNoChild, stoppedBeforeExec, ReportsExit]

end Runs

end Loi.Core.Spawn
