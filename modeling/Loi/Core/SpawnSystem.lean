import Loi.Core.SpawnProcesses

set_option autoImplicit false

/-! Both processes of `spawn` and the kernel, in every order of their steps, and the
invariant that every step keeps. -/

namespace Loi.Core.Spawn

open Foundation Nix Program

section System

inductive ChildState where
  | running
  | stopped
  | execStop
  | dead
  deriving DecidableEq

/-- What the kernel knows: the child, its status that no wait has reported yet, the bytes
in the pipe, and who holds its write end. -/
structure Kernel where
  child : ChildState
  pending : Option WaitStatus
  execed : Bool
  pipe : List UInt8
  parentWrites : Bool
  childWrites : Bool

def Kernel.forked : Kernel :=
  { child := .running, pending := none, execed := false, pipe := []
    parentWrites := true, childWrites := true }

/-- `PTRACE_CONT`, which does nothing to a child that is not stopped any more. -/
def Kernel.cont (kernel : Kernel) : Kernel :=
  if kernel.child = .stopped then { kernel with child := .running } else kernel

/-- The exec closes the write end of the child and stops it. -/
def Kernel.execs (kernel : Kernel) (child : Pid) : Kernel :=
  { kernel with
    child := .execStop
    pending := some (.ptraceEvent child .SIGTRAP PTRACE_EVENT_EXEC)
    execed := true
    childWrites := false }

def Kernel.dies (kernel : Kernel) (status : WaitStatus) : Kernel :=
  { kernel with child := .dead, pending := some status, childWrites := false }

/-- What becomes of the kernel with this answer to the parent, if it can give it: the
waits, `setoptions` and `cont` succeed, and a read takes any front of the pipe, reports
the end when nobody can write any more, or is interrupted. -/
def Kernel.answerParent (child : Pid) (kernel : Kernel) : Event Answer → Option Kernel
  | ⟨.close .write, _⟩ => some { kernel with parentWrites := false }
  | ⟨.close .read, _⟩ => some kernel
  | ⟨.waitpid pid, .ok status⟩ =>
      if pid = child ∧ kernel.pending = some status then some { kernel with pending := none }
      else none
  | ⟨.setoptions _ _, .ok ()⟩ => some kernel
  | ⟨.cont _ _, .ok ()⟩ => some kernel.cont
  | ⟨.read size, .ok bytes⟩ =>
      if bytes = [] then
        if kernel.pipe = [] ∧ kernel.parentWrites = false ∧ kernel.childWrites = false then
          some kernel
        else none
      else if bytes.length ≤ size ∧ bytes <+: kernel.pipe then
        some { kernel with pipe := kernel.pipe.drop bytes.length }
      else none
  | ⟨.read _, .error errno⟩ => if errno = .EINTR then some kernel else none
  | _ => none

/-- The same for the child: each of its calls can fail, a `raise` that does not stops it,
and a write takes any front of its bytes. -/
def Kernel.answerChild (child : Pid) (kernel : Kernel) : Event Answer → Option Kernel
  | ⟨.close .write, _⟩ => some { kernel with childWrites := false }
  | ⟨.close .read, _⟩ => some kernel
  | ⟨.traceme, _⟩ => some kernel
  | ⟨.raise signal, .ok ()⟩ =>
      some { kernel with child := .stopped, pending := some (.stopped child signal) }
  | ⟨.raise _, .error _⟩ => some kernel
  | ⟨.execvp _ _, _⟩ => some kernel
  | ⟨.write buf, .ok n⟩ =>
      if n ≤ buf.length then some { kernel with pipe := kernel.pipe ++ buf.take n } else none
  | ⟨.write _, .error _⟩ => some kernel
  | _ => none

inductive Move where
  | parent (event : Event Answer)
  | child (event : Event Answer)
  | execs
  | exits
  | killed (signal : Signal) (coreDumped : Bool)
  | killedUnreported (signal : Signal) (coreDumped : Bool)

def Move.interrupted : Move → Bool
  | .parent event | .child event => Spawn.interrupted event
  | _ => false

/-- Both processes by what they have been through, and the kernel. -/
structure System where
  parent : List (Event Answer)
  child : List (Event Answer)
  kernel : Kernel

def System.forked (child : Pid) : System :=
  { parent := parentStart child, child := childStart, kernel := .forked }

variable (fromRaw : Int32 → Errno) (command : List String) (child : Pid)

/-- One step of a process or of the kernel. The child can be killed at any point; in the stop
behind its exec, while no wait has reported that, the report is lost. -/
inductive System.Step : System → Move → System → Prop where
  | parent {system : System} {event : Event Answer} {kernel : Kernel} :
      spawn fromRaw command system.parent = .asks event.call →
      system.kernel.answerParent child event = some kernel →
      Step system (.parent event) { system with parent := system.parent ++ [event], kernel }
  | child {system : System} {event : Event Answer} {kernel : Kernel} :
      system.kernel.child = .running →
      spawn fromRaw command system.child = .asks event.call →
      system.kernel.answerChild child event = some kernel →
      Step system (.child event) { system with child := system.child ++ [event], kernel }
  | execs {system : System} {file : CString} {args : List CString} :
      system.kernel.child = .running →
      spawn fromRaw command system.child = .asks (.execvp file args) →
      Step system .execs { system with kernel := system.kernel.execs child }
  | exits {system : System} {status : Int32} :
      system.kernel.child = .running →
      spawn fromRaw command system.child = .asks (.exit status) →
      Step system .exits { system with kernel := system.kernel.dies (.exited child status) }
  | killed {system : System} {signal : Signal} {coreDumped : Bool} :
      system.kernel.child ≠ .dead →
      (system.kernel.child = .execStop → system.kernel.pending = none) →
      Step system (.killed signal coreDumped)
        { system with kernel := system.kernel.dies (.signaled child signal coreDumped) }
  | killedUnreported {system : System} {signal : Signal} {coreDumped : Bool} :
      system.kernel.child = .execStop →
      system.kernel.pending ≠ none →
      Step system (.killedUnreported signal coreDumped)
        { system with kernel := system.kernel.dies (.signaled child signal coreDumped) }

/-- The runs from the fork. -/
inductive System.Run : List Move → System → Prop where
  | start : Run [] (.forked child)
  | snoc {moves : List Move} {move : Move} {system system' : System} :
      Run moves system → system.Step fromRaw command child move system' →
      Run (moves ++ [move]) system'

end System

section Scenes

variable (fromRaw : Int32 → Errno) (child : Pid)

/-- The parent has not seen the stop. -/
def ParentAt.Early : ParentAt → Prop
  | .dropsWriteEnd | .waitsStop => True
  | _ => False

/-- The parent has not seen how it went on. -/
def ParentAt.Waits : ParentAt → Prop
  | .dropsWriteEnd | .waitsStop | .setsOptions | .continues | .waitsExec => True
  | _ => False

def ParentAt.Succeeded : ParentAt → Prop
  | .dropsReadEnd (.ok _) | .returned (.ok _) => True
  | _ => False

/-- The parent reads, or has made of what was sent what `read_exec_errno` makes of it. -/
def ParentAt.Failed (sent : List UInt8) : ParentAt → Prop
  | .reads _ _ => True
  | .dropsReadEnd (.error error) | .returned (.error error) => error = execErrno fromRaw sent
  | _ => False

def ChildAt.Reports : ChildAt → Prop
  | .writes _ _ | .dropsWriteEnd | .exits => True
  | _ => False

/-- How the places of the processes and the kernel go together, and whether the report of an
exec has been lost. -/
inductive Scene (parent : ParentAt) (place : ChildAt) (kernel : Kernel) (sent : List UInt8) :
    Bool → Prop where
  | starts : kernel.child = .running → kernel.pending = none → kernel.execed = false →
      parent.Early → place ≠ .execs → Scene parent place kernel sent false
  | stops : kernel.child = .stopped → kernel.pending = some (.stopped child .SIGSTOP) →
      kernel.execed = false → parent.Early → place = .execs → Scene parent place kernel sent false
  | stopped : kernel.child = .stopped → kernel.pending = none → kernel.execed = false →
      parent = .setsOptions ∨ parent = .continues → place = .execs →
      Scene parent place kernel sent false
  | resumed : kernel.child = .running → kernel.pending = none → kernel.execed = false →
      parent = .waitsExec → place = .execs ∨ place.Reports → Scene parent place kernel sent false
  | execed : kernel.child = .execStop →
      kernel.pending = some (.ptraceEvent child .SIGTRAP PTRACE_EVENT_EXEC) →
      kernel.execed = true → parent = .waitsExec → place = .execs →
      Scene parent place kernel sent false
  | succeeded : kernel.child = .execStop ∧ kernel.pending = none ∨ kernel.child = .dead →
      kernel.execed = true → parent.Succeeded → place = .execs → Scene parent place kernel sent false
  | died {status : WaitStatus} {lost : Bool} : kernel.child = .dead →
      kernel.pending = some status → status.isExitOf child = true → kernel.execed = lost →
      (lost = true → place = .execs) → kernel.childWrites = false → parent.Waits →
      Scene parent place kernel sent lost
  | reaped {lost : Bool} : kernel.child = .dead → kernel.pending = none → kernel.execed = lost →
      (lost = true → place = .execs) → kernel.childWrites = false →
      parent.Failed fromRaw sent → Scene parent place kernel sent lost

/-- The bytes that the child has sent when it is at a place. -/
def ChildAt.Sent : ChildAt → List UInt8 → Prop
  | .writes byte left, sent => ∃ errno : Errno, sent ++ byte :: left = toNeBytes errno.raw
  | .dropsWriteEnd, sent | .exits, sent => ∃ errno : Errno, sent <+: toNeBytes errno.raw
  | _, sent => sent = []

/-- The bytes that the parent has got when it is at a place. -/
def ParentAt.Got : ParentAt → List UInt8 → Prop
  | .reads filled _, got => filled = got
  | .dropsReadEnd _, _ | .returned _, _ => True
  | _, got => got = []

end Scenes

section Kernels

variable {child : Pid} {kernel kernel' : Kernel}

theorem Kernel.cont_of_ne_stopped (other : kernel.child ≠ .stopped) : kernel.cont = kernel :=
  if_neg other

theorem Kernel.cont_of_stopped (stopped : kernel.child = .stopped) :
    kernel.cont = { kernel with child := .running } :=
  if_pos stopped

theorem answerParent_waitpid {answer : Except Errno WaitStatus}
    (answered : kernel.answerParent child ⟨.waitpid child, answer⟩ = some kernel') :
    ∃ status, answer = .ok status ∧ kernel.pending = some status ∧
      kernel' = { kernel with pending := none } := by
  cases answer with
  | error errno => cases answered
  | ok status =>
      simp only [Kernel.answerParent, true_and, Option.ite_none_right_eq_some,
        Option.some.injEq] at answered
      exact ⟨status, rfl, answered.1, answered.2.symm⟩

theorem answerParent_read {size : Nat} {answer : Except Errno (List UInt8)}
    (answered : kernel.answerParent child ⟨.read size, answer⟩ = some kernel') :
    (answer = .ok [] ∧ kernel.pipe = [] ∧ kernel' = kernel) ∨
    (∃ bytes rest, answer = .ok bytes ∧ bytes ≠ [] ∧ bytes.length ≤ size ∧
      kernel.pipe = bytes ++ rest ∧ kernel' = { kernel with pipe := rest }) ∨
    (answer = .error .EINTR ∧ kernel' = kernel) := by
  cases answer with
  | error errno =>
      simp only [Kernel.answerParent, Option.ite_none_right_eq_some, Option.some.injEq] at answered
      exact .inr (.inr ⟨congrArg Except.error answered.1, answered.2.symm⟩)
  | ok bytes =>
      by_cases none : bytes = []
      · simp only [Kernel.answerParent, none, if_true, Option.ite_none_right_eq_some,
          Option.some.injEq] at answered
        exact .inl ⟨congrArg Except.ok none, answered.1.1, answered.2.symm⟩
      · simp only [Kernel.answerParent, none, if_false, Option.ite_none_right_eq_some,
          Option.some.injEq] at answered
        obtain ⟨⟨fits, rest, front⟩, rfl⟩ := answered
        refine .inr (.inl ⟨bytes, rest, rfl, none, fits, front.symm, ?_⟩)
        rw [← front, List.drop_left]

/-- No byte is lost, repeated or moved between the pipe and the parent, whose write end
stays closed; and the parent only lets a stopped child go on. -/
theorem answerParent_kernel {event : Event Answer}
    (answered : kernel.answerParent child event = some kernel') :
    receivedBy event ++ kernel'.pipe = kernel.pipe ∧
      (kernel.parentWrites = false → kernel'.parentWrites = false) ∧
      (kernel'.child = kernel.child ∨ kernel.child = .stopped ∧ kernel'.child = .running) := by
  obtain ⟨call, answer⟩ := event
  cases call with
  | read size =>
      rcases answerParent_read answered with
        ⟨rfl, _, rfl⟩ | ⟨bytes, rest, rfl, _, _, front, rfl⟩ | ⟨rfl, rfl⟩
      · exact ⟨rfl, id, .inl rfl⟩
      · exact ⟨front.symm, id, .inl rfl⟩
      · exact ⟨rfl, id, .inl rfl⟩
  | close fd =>
      cases fd <;> cases answered
      · exact ⟨rfl, id, .inl rfl⟩
      · exact ⟨rfl, fun _ => rfl, .inl rfl⟩
  | waitpid pid =>
      cases answer with
      | error errno => cases answered
      | ok status =>
          simp only [Kernel.answerParent, Option.ite_none_right_eq_some,
            Option.some.injEq] at answered
          rw [← answered.2]
          exact ⟨rfl, id, .inl rfl⟩
  | cont pid signal =>
      cases answer with
      | error errno => cases answered
      | ok =>
          cases answered
          by_cases stopped : kernel.child = .stopped
          · rw [Kernel.cont_of_stopped stopped]
            exact ⟨rfl, id, .inr ⟨stopped, rfl⟩⟩
          · rw [Kernel.cont_of_ne_stopped stopped]
            exact ⟨rfl, id, .inl rfl⟩
  | setoptions pid options =>
      cases answer <;> cases answered
      exact ⟨rfl, id, .inl rfl⟩
  | _ => cases answered

/-- Nor is one between the child and the pipe; and but for the stop that the child raises,
its calls leave it as it is. -/
theorem answerChild_kernel {event : Event Answer}
    (answered : kernel.answerChild child event = some kernel') :
    kernel.pipe ++ writtenBy event = kernel'.pipe ∧
      kernel'.parentWrites = kernel.parentWrites ∧ kernel'.execed = kernel.execed ∧
      (kernel'.child = kernel.child ∧ kernel'.pending = kernel.pending ∨
        ∃ signal, event = ⟨.raise signal, .ok ()⟩ ∧ kernel'.child = .stopped ∧
          kernel'.pending = some (.stopped child signal)) := by
  have unchanged : ∀ {kernel' : Kernel}, kernel'.pipe = kernel.pipe →
      kernel.pipe ++ ([] : List UInt8) = kernel'.pipe :=
    fun same => (List.append_nil _).trans same.symm
  obtain ⟨call, answer⟩ := event
  cases call with
  | raise signal =>
      cases answer <;> cases answered
      · exact ⟨unchanged rfl, rfl, rfl, .inl ⟨rfl, rfl⟩⟩
      · exact ⟨unchanged rfl, rfl, rfl, .inr ⟨signal, rfl, rfl, rfl⟩⟩
  | close fd =>
      cases fd <;> cases answered <;> exact ⟨unchanged rfl, rfl, rfl, .inl ⟨rfl, rfl⟩⟩
  | traceme =>
      cases answered
      exact ⟨unchanged rfl, rfl, rfl, .inl ⟨rfl, rfl⟩⟩
  | execvp file args =>
      cases answered
      exact ⟨unchanged rfl, rfl, rfl, .inl ⟨rfl, rfl⟩⟩
  | write buf =>
      cases answer with
      | error errno =>
          cases answered
          exact ⟨unchanged rfl, rfl, rfl, .inl ⟨rfl, rfl⟩⟩
      | ok n =>
          simp only [Kernel.answerChild, Option.ite_none_right_eq_some, Option.some.injEq] at answered
          rw [← answered.2]
          exact ⟨rfl, rfl, rfl, .inl ⟨rfl, rfl⟩⟩
  | _ => cases answered

end Kernels

section Child

variable {fromRaw : Int32 → Errno} {child : Pid} {file : CString} {args : List CString}
  {parent : ParentAt} {place : ChildAt} {kernel kernel' : Kernel} {sent : List UInt8}

theorem toNeBytes_length (value : Int32) : (toNeBytes value).length = 4 := rfl

theorem ChildAt.Sent.length_le (is : place.Sent sent) : sent.length ≤ 4 := by
  cases place with
  | writes byte left =>
      obtain ⟨errno, whole⟩ := is
      have length := congrArg List.length whole
      rw [List.length_append, toNeBytes_length] at length
      omega
  | dropsWriteEnd | exits =>
      obtain ⟨errno, front⟩ := is
      exact front.length_le
  | dropsReadEnd | traces | raises | execs =>
      cases is
      decide

theorem ChildAt.writing_sent {left : List UInt8} {errno : Errno}
    (whole : sent ++ left = toNeBytes errno.raw) : (writing left).Sent sent := by
  cases left with
  | nil => exact ⟨errno, by rw [← whole, List.append_nil]⟩
  | cons byte left => exact ⟨errno, whole⟩

theorem ChildAt.writing_errno (errno : Errno) : (writing (toNeBytes errno.raw)).Sent [] :=
  writing_sent (List.nil_append (toNeBytes errno.raw))

theorem ChildAt.next_sent {answer : Answer (place.call file args)} (is : place.Sent sent) :
    (place.next ⟨place.call file args, answer⟩).Sent
      (sent ++ writtenBy ⟨place.call file args, answer⟩) := by
  cases place with
  | dropsReadEnd =>
      cases is
      rfl
  | traces =>
      cases is
      cases answer with
      | ok => rfl
      | error errno => exact writing_errno errno
  | raises =>
      cases is
      cases answer with
      | ok => rfl
      | error errno => exact writing_errno errno
  | execs =>
      cases is
      exact writing_errno answer
  | writes byte left =>
      obtain ⟨errno, whole⟩ := is
      cases answer with
      | error other =>
          simp only [call, next, writtenBy_error, List.append_nil]
          split
          · exact ⟨errno, whole⟩
          · exact ⟨errno, byte :: left, whole⟩
      | ok n =>
          simp only [call, next, writtenBy_ok]
          split
          case isTrue none =>
            exact ⟨errno, byte :: left, by simp [none, whole]⟩
          case isFalse =>
            apply writing_sent
            rw [List.append_assoc, List.take_append_drop, whole]
  | dropsWriteEnd =>
      obtain ⟨errno, front⟩ := is
      exact ⟨errno, by simpa [writtenBy, call] using front⟩
  | exits => exact answer.elim

theorem ChildAt.writing_reports (left : List UInt8) : (writing left).Reports := by
  cases left <;> trivial

theorem ChildAt.execs_next (answer : Errno) (file : CString) (args : List CString) :
    (ChildAt.execs.next ⟨.execvp file args, answer⟩).Reports :=
  writing_reports (toNeBytes answer.raw)

theorem ChildAt.Reports.ne_execs (reports : place.Reports) : place ≠ .execs := by
  rintro rfl
  exact reports

theorem ChildAt.Reports.next {answer : Answer (place.call file args)} (reports : place.Reports) :
    (place.next ⟨place.call file args, answer⟩).Reports := by
  cases place with
  | writes byte left =>
      cases answer with
      | error errno =>
          simp only [call, ChildAt.next]
          split <;> trivial
      | ok n =>
          simp only [call, ChildAt.next]
          split
          · trivial
          · exact writing_reports _
  | dropsWriteEnd => trivial
  | exits => exact answer.elim
  | dropsReadEnd | traces | raises | execs => exact reports.elim

theorem ChildAt.next_ne_execs {answer : Answer (place.call file args)} (before : place ≠ .execs)
    (raised : place = .raises → place.next ⟨place.call file args, answer⟩ ≠ .execs) :
    place.next ⟨place.call file args, answer⟩ ≠ .execs := by
  cases place with
  | dropsReadEnd => nofun
  | traces =>
      cases answer with
      | ok => nofun
      | error errno => exact (writing_reports (toNeBytes errno.raw)).ne_execs
  | raises => exact raised rfl
  | execs => exact absurd rfl before
  | writes byte left =>
      have reports : (ChildAt.writes byte left).Reports := trivial
      exact reports.next.ne_execs
  | dropsWriteEnd => nofun
  | exits => exact answer.elim

theorem Scene.childStep {lost : Bool} (scene : Scene fromRaw child parent place kernel sent lost)
    (running : kernel.child = .running) {answer : Answer (place.call file args)}
    (answered : kernel.answerChild child ⟨place.call file args, answer⟩ = some kernel')
    (sent' : List UInt8) :
    Scene fromRaw child parent (place.next ⟨place.call file args, answer⟩) kernel' sent' lost := by
  obtain ⟨_, _, execed, kept⟩ := answerChild_kernel answered
  cases scene with
  | starts isRunning nothing notYet early before =>
      rcases kept with ⟨sameChild, samePending⟩ | ⟨signal, raised, stopped, reported⟩
      · refine .starts (sameChild.trans isRunning) (samePending.trans nothing)
          (execed.trans notYet) early ?_
        apply ChildAt.next_ne_execs before
        rintro rfl
        rw [isRunning] at sameChild
        cases answer with
        | ok =>
            cases answered
            cases sameChild
        | error errno => exact (ChildAt.writing_reports (toNeBytes errno.raw)).ne_execs
      · cases place with
        | raises =>
            cases raised
            exact .stops stopped reported (execed.trans notYet) early rfl
        | _ => cases raised
  | resumed isRunning nothing notYet waits behind =>
      rcases kept with ⟨sameChild, samePending⟩ | ⟨signal, raised, _⟩
      · refine .resumed (sameChild.trans isRunning) (samePending.trans nothing)
          (execed.trans notYet) waits (.inr ?_)
        rcases behind with rfl | reports
        · exact ChildAt.execs_next answer file (file :: args)
        · exact reports.next
      · cases place with
        | raises => simp [ChildAt.Reports] at behind
        | _ => cases raised
  | stops stopped | stopped stopped =>
      rw [running] at stopped
      cases stopped
  | execed stopped =>
      rw [running] at stopped
      cases stopped
  | succeeded behind =>
      rw [running] at behind
      simp at behind
  | died dead | reaped dead =>
      rw [running] at dead
      cases dead

end Child

section Parent

variable {fromRaw : Int32 → Errno} {child : Pid} {parent : ParentAt} {place : ChildAt}
  {kernel kernel' : Kernel} {sent : List UInt8} {lost : Bool} {call : Call} {answer : Answer call}

theorem sawFirst_exit {status : WaitStatus} (exit : status.isExitOf child = true) :
    ParentAt.sawFirst (.ok status) = .reads [] (by decide) := by
  cases status with
  | exited | signaled => rfl
  | _ => cases exit

theorem sawSecond_exit {status : WaitStatus} (exit : status.isExitOf child = true) :
    ParentAt.sawSecond child (.ok status) = .reads [] (by decide) := by
  cases status with
  | exited | signaled => rfl
  | _ => cases exit

/-- Reading ends with all that was sent: at the end of the pipe, or with four bytes. -/
theorem failed_sawRead {filled : List UInt8} (room : filled.length < 4)
    (whole : filled ++ kernel.pipe = sent) (short : sent.length ≤ 4)
    {answer : Except Errno (List UInt8)}
    (answered : kernel.answerParent child ⟨.read (4 - filled.length), answer⟩ = some kernel') :
    (ParentAt.sawRead fromRaw filled room answer).Failed fromRaw sent := by
  rcases answerParent_read answered with
    ⟨rfl, drained, _⟩ | ⟨bytes, rest, rfl, some, _, front, _⟩ | ⟨rfl, _⟩
  · rw [drained, List.append_nil] at whole
    exact congrArg (execErrno fromRaw) whole
  · rw [ParentAt.sawRead, if_neg some, ParentAt.reading]
    split
    case isTrue => trivial
    case isFalse full =>
      have shape : (filled ++ bytes) ++ rest = sent := by
        rw [List.append_assoc, ← front, whole]
      have nothing : rest = [] := by
        have length := congrArg List.length shape
        rw [List.length_append] at length
        exact List.length_eq_zero_iff.mp (by omega)
      rw [nothing, List.append_nil] at shape
      exact congrArg (execErrno fromRaw) shape
  · trivial

theorem Scene.parentStep (scene : Scene fromRaw child parent place kernel sent lost)
    (asks : parent.call child = some call)
    (answered : kernel.answerParent child ⟨call, answer⟩ = some kernel')
    (whole : ∀ filled room, parent = .reads filled room → filled ++ kernel.pipe = sent)
    (short : sent.length ≤ 4) :
    Scene fromRaw child (parent.next fromRaw child ⟨call, answer⟩) place kernel' sent lost := by
  cases scene with
  | starts running nothing notYet early before =>
      cases parent with
      | dropsWriteEnd =>
          cases asks
          cases answered
          exact .starts running nothing notYet trivial before
      | waitsStop =>
          cases asks
          obtain ⟨status, _, pending, _⟩ := answerParent_waitpid answered
          rw [nothing] at pending
          cases pending
      | _ => exact early.elim
  | stops stops pending notYet early isExecs =>
      cases parent with
      | dropsWriteEnd =>
          cases asks
          cases answered
          exact .stops stops pending notYet trivial isExecs
      | waitsStop =>
          cases asks
          obtain ⟨status, rfl, found, rfl⟩ := answerParent_waitpid answered
          rw [pending] at found
          cases found
          exact .stopped stops rfl notYet (.inl rfl) isExecs
      | _ => exact early.elim
  | stopped stops nothing notYet resumes isExecs =>
      rcases resumes with rfl | rfl
      · cases asks
        cases answer <;> cases answered
        exact .stopped stops nothing notYet (.inr rfl) isExecs
      · cases asks
        cases answer <;> cases answered
        rw [Kernel.cont_of_stopped stops]
        exact .resumed rfl nothing notYet rfl (.inl isExecs)
  | resumed running nothing notYet waits behind =>
      subst waits
      cases asks
      obtain ⟨status, _, pending, _⟩ := answerParent_waitpid answered
      rw [nothing] at pending
      cases pending
  | execed stops pending execed waits isExecs =>
      subst waits
      cases asks
      obtain ⟨status, rfl, found, rfl⟩ := answerParent_waitpid answered
      rw [pending] at found
      cases found
      exact .succeeded (.inl ⟨stops, rfl⟩) execed trivial isExecs
  | succeeded behind execed succeeded isExecs =>
      cases parent with
      | dropsReadEnd result =>
          cases asks
          cases answered
          cases result with
          | ok => exact .succeeded behind execed trivial isExecs
          | error => exact succeeded.elim
      | returned result => cases asks
      | _ => exact succeeded.elim
  | died dead pending exit execed isExecs closed waits =>
      cases parent with
      | dropsWriteEnd =>
          cases asks
          cases answered
          exact .died dead pending exit execed isExecs closed trivial
      | waitsStop =>
          cases asks
          obtain ⟨status, rfl, found, rfl⟩ := answerParent_waitpid answered
          rw [pending] at found
          cases found
          refine .reaped dead rfl execed isExecs closed ?_
          change (ParentAt.sawFirst _).Failed fromRaw sent
          rw [sawFirst_exit exit]
          trivial
      | setsOptions =>
          cases asks
          cases answer <;> cases answered
          exact .died dead pending exit execed isExecs closed trivial
      | continues =>
          cases asks
          cases answer <;> cases answered
          rw [Kernel.cont_of_ne_stopped (by simp [dead])]
          exact .died dead pending exit execed isExecs closed trivial
      | waitsExec =>
          cases asks
          obtain ⟨status, rfl, found, rfl⟩ := answerParent_waitpid answered
          rw [pending] at found
          cases found
          refine .reaped dead rfl execed isExecs closed ?_
          change (ParentAt.sawSecond child _).Failed fromRaw sent
          rw [sawSecond_exit exit]
          trivial
      | _ => exact waits.elim
  | reaped dead nothing execed isExecs closed failed =>
      cases parent with
      | reads filled room =>
          cases asks
          have ends : (ParentAt.sawRead fromRaw filled room answer).Failed fromRaw sent :=
            failed_sawRead room (whole filled room rfl) short answered
          rcases answerParent_read answered with
            ⟨_, _, rfl⟩ | ⟨_, _, _, _, _, _, rfl⟩ | ⟨_, rfl⟩
          all_goals exact .reaped dead nothing execed isExecs closed ends
      | dropsReadEnd result =>
          cases asks
          cases answered
          cases result with
          | ok => exact failed.elim
          | error => exact .reaped dead nothing execed isExecs closed failed
      | returned result => cases asks
      | _ => exact failed.elim

theorem ParentAt.next_got {got : List UInt8} (is : parent.Got got)
    (asks : parent.call child = some call)
    (answered : kernel.answerParent child ⟨call, answer⟩ = some kernel') :
    (parent.next fromRaw child ⟨call, answer⟩).Got (got ++ receivedBy ⟨call, answer⟩) := by
  cases parent with
  | dropsWriteEnd =>
      cases asks
      exact (List.append_nil got).trans is
  | waitsStop =>
      cases asks
      obtain ⟨status, rfl, _⟩ := answerParent_waitpid answered
      cases is
      change (sawFirst _).Got []
      unfold sawFirst
      split <;> trivial
  | setsOptions | continues =>
      cases asks
      cases is
      cases answer <;> trivial
  | waitsExec =>
      cases asks
      obtain ⟨status, rfl, _⟩ := answerParent_waitpid answered
      cases is
      change (sawSecond child _).Got []
      unfold sawSecond
      split <;> trivial
  | reads filled room =>
      cases asks
      have same : filled = got := is
      subst same
      rcases answerParent_read answered with
        ⟨rfl, _, _⟩ | ⟨bytes, _, rfl, some, _⟩ | ⟨rfl, _⟩
      · trivial
      · change (sawRead fromRaw filled room (.ok bytes)).Got (filled ++ bytes)
        rw [sawRead, if_neg some, reading]
        split <;> trivial
      · exact (List.append_nil filled).symm
  | dropsReadEnd => trivial
  | returned => cases asks

end Parent

section Fates

variable {fromRaw : Int32 → Errno} {child : Pid} {parent : ParentAt} {place : ChildAt}
  {kernel : Kernel} {sent : List UInt8} {lost : Bool}

theorem ParentAt.Early.waits (early : parent.Early) : parent.Waits := by
  cases parent with
  | dropsWriteEnd | waitsStop => trivial
  | _ => exact early.elim

theorem Scene.execs (scene : Scene fromRaw child parent .execs kernel sent lost)
    (running : kernel.child = .running) :
    Scene fromRaw child parent .execs (kernel.execs child) sent lost := by
  cases scene with
  | starts _ _ _ _ before => exact absurd rfl before
  | resumed _ _ _ waits _ => exact .execed rfl rfl rfl waits rfl
  | stops other | stopped other | execed other | died other | reaped other =>
      rw [running] at other
      cases other
  | succeeded behind =>
      rw [running] at behind
      simp at behind

theorem Scene.dies (scene : Scene fromRaw child parent place kernel sent lost)
    (alive : kernel.child ≠ .dead) (seen : kernel.child = .execStop → kernel.pending = none)
    {status : WaitStatus} (exit : status.isExitOf child = true) :
    Scene fromRaw child parent place (kernel.dies status) sent lost := by
  cases scene with
  | starts _ _ notYet early _ => exact .died rfl rfl exit notYet nofun rfl early.waits
  | stops _ _ notYet early _ => exact .died rfl rfl exit notYet nofun rfl early.waits
  | stopped _ _ notYet resumes _ =>
      refine .died rfl rfl exit notYet nofun rfl ?_
      rcases resumes with rfl | rfl <;> trivial
  | resumed _ _ notYet waits _ =>
      refine .died rfl rfl exit notYet nofun rfl ?_
      rw [waits]
      trivial
  | execed stops pending =>
      rw [seen stops] at pending
      cases pending
  | succeeded _ execed succeeded isExecs =>
      exact .succeeded (.inr rfl) execed succeeded isExecs
  | died dead | reaped dead => exact absurd dead alive

/-- A child that is killed before a wait has reported its exec looks to the parent like one
that has not got there. -/
theorem Scene.diesUnreported (scene : Scene fromRaw child parent place kernel sent lost)
    (stops : kernel.child = .execStop) (unseen : kernel.pending ≠ none) {status : WaitStatus}
    (exit : status.isExitOf child = true) :
    Scene fromRaw child parent place (kernel.dies status) sent true := by
  cases scene with
  | execed _ _ execed waits isExecs =>
      refine .died rfl rfl exit execed (fun _ => isExecs) rfl ?_
      rw [waits]
      trivial
  | succeeded behind =>
      rcases behind with ⟨_, seen⟩ | dead
      · exact absurd seen unseen
      · rw [stops] at dead
        cases dead
  | starts other | stops other | stopped other | resumed other | died other | reaped other =>
      rw [stops] at other
      cases other

end Fates

section Invariant

variable {fromRaw : Int32 → Errno} {command : List String} {child : Pid} {file : CString}
  {args : List CString}

/-- The processes are at these places of their programs. -/
structure Invariant (fromRaw : Int32 → Errno) (command : List String) (child : Pid)
    (file : CString) (args : List CString) (system : System) (parent : ParentAt)
    (place : ChildAt) (lost : Bool) : Prop where
  parentLeft : Leaves (spawn fromRaw command) system.parent (parent.program fromRaw child)
  childLeft : Leaves (spawn fromRaw command) system.child (place.program file args)
  bytes : received system.parent ++ system.kernel.pipe = written system.child
  sent : place.Sent (written system.child)
  got : parent.Got (received system.parent)
  closed : parent = .dropsWriteEnd ∨ system.kernel.parentWrites = false
  scene : Scene fromRaw child parent place system.kernel (written system.child) lost

theorem invariant_forked (valid : command.mapM cString = .ok (file :: args)) :
    Invariant fromRaw command child file args (.forked child) .dropsWriteEnd .dropsReadEnd
      false where
  parentLeft := spawn_parent (ne_nil_of_mapM valid) valid child
  childLeft := spawn_child (ne_nil_of_mapM valid) valid rfl
  bytes := rfl
  sent := rfl
  got := rfl
  closed := .inl rfl
  scene := .starts rfl rfl rfl trivial nofun

variable {system system' : System} {parent : ParentAt} {place : ChildAt} {lost : Bool}

/-- The event of a parent's move is one of its place. -/
theorem Invariant.parent_asks
    (is : Invariant fromRaw command child file args system parent place lost)
    {call : Call} (asks : spawn fromRaw command system.parent = .asks call) :
    parent.call child = some call := by
  rw [is.parentLeft.now] at asks
  cases next : parent.call child with
  | some found =>
      rw [ParentAt.program_nil fromRaw child next] at asks
      cases asks
      rfl
  | none =>
      cases parent with
      | returned => cases asks
      | _ => cases next

theorem Invariant.child_asks
    (is : Invariant fromRaw command child file args system parent place lost)
    {call : Call} (asks : spawn fromRaw command system.child = .asks call) :
    place.call file args = call := by
  rw [is.childLeft.now, ChildAt.program_nil] at asks
  cases asks
  rfl

theorem Invariant.parentStep
    (is : Invariant fromRaw command child file args system parent place lost)
    {event : Event Answer} {kernel : Kernel}
    (asks : spawn fromRaw command system.parent = .asks event.call)
    (answered : system.kernel.answerParent child event = some kernel) :
    Invariant fromRaw command child file args
      { system with parent := system.parent ++ [event], kernel }
      (parent.next fromRaw child event) place lost := by
  have next := is.parent_asks asks
  obtain ⟨pipe, closed, _⟩ := answerParent_kernel answered
  obtain ⟨call, answer⟩ := event
  refine ⟨?_, is.childLeft, ?_, is.sent, ?_, ?_, ?_⟩
  · exact is.parentLeft.snoc fun more => ParentAt.program_cons fromRaw child more parent next answer
  · simp [← is.bytes, ← pipe]
  · rw [received_append, received_cons, received_nil, List.append_nil]
    exact ParentAt.next_got is.got next answered
  · rcases is.closed with rfl | wasClosed
    · cases next
      cases answered
      exact .inr rfl
    · exact .inr (closed wasClosed)
  · refine is.scene.parentStep next answered ?_ is.sent.length_le
    rintro filled room rfl
    have got : filled = received system.parent := is.got
    rw [got, is.bytes]

theorem Invariant.childStep
    (is : Invariant fromRaw command child file args system parent place lost)
    {event : Event Answer} {kernel : Kernel} (running : system.kernel.child = .running)
    (asks : spawn fromRaw command system.child = .asks event.call)
    (answered : system.kernel.answerChild child event = some kernel) :
    Invariant fromRaw command child file args
      { system with child := system.child ++ [event], kernel } parent (place.next event) lost := by
  have next := is.child_asks asks
  obtain ⟨pipe, sameEnd, _⟩ := answerChild_kernel answered
  obtain ⟨call, answer⟩ := event
  subst next
  have grown : written (system.child ++ [⟨place.call file args, answer⟩]) =
      written system.child ++ writtenBy ⟨place.call file args, answer⟩ := by
    rw [written_append, written_cons, written_nil, List.append_nil]
  refine ⟨is.parentLeft, ?_, ?_, ?_, is.got, ?_, ?_⟩
  · exact is.childLeft.snoc (ChildAt.program_cons file args place answer)
  · rw [grown, ← is.bytes, ← pipe, List.append_assoc]
  · rw [grown]
    exact ChildAt.next_sent is.sent
  · exact is.closed.imp_right sameEnd.trans
  · exact is.scene.childStep running answered _

theorem Invariant.execs (is : Invariant fromRaw command child file args system parent place lost)
    {file' : CString} {args' : List CString} (running : system.kernel.child = .running)
    (asks : spawn fromRaw command system.child = .asks (.execvp file' args')) :
    Invariant fromRaw command child file args
      { system with kernel := system.kernel.execs child } parent place lost := by
  have next := is.child_asks asks
  cases place with
  | execs =>
      exact ⟨is.parentLeft, is.childLeft, is.bytes, is.sent, is.got, is.closed,
        is.scene.execs running⟩
  | _ => cases next

theorem Invariant.dies (is : Invariant fromRaw command child file args system parent place lost)
    (alive : system.kernel.child ≠ .dead)
    (seen : system.kernel.child = .execStop → system.kernel.pending = none)
    {status : WaitStatus} (exit : status.isExitOf child = true) :
    Invariant fromRaw command child file args
      { system with kernel := system.kernel.dies status } parent place lost :=
  ⟨is.parentLeft, is.childLeft, is.bytes, is.sent, is.got, is.closed, is.scene.dies alive seen exit⟩

theorem Invariant.diesUnreported
    (is : Invariant fromRaw command child file args system parent place lost)
    (stops : system.kernel.child = .execStop) (unseen : system.kernel.pending ≠ none)
    {status : WaitStatus} (exit : status.isExitOf child = true) :
    Invariant fromRaw command child file args
      { system with kernel := system.kernel.dies status } parent place true :=
  ⟨is.parentLeft, is.childLeft, is.bytes, is.sent, is.got, is.closed,
    is.scene.diesUnreported stops unseen exit⟩

end Invariant

end Loi.Core.Spawn
