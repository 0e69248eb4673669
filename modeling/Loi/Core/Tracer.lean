import Mathlib.Data.Finmap
import Loi.Foundation.Machine
import Loi.Core.Tracee

set_option autoImplicit false

/-! The wait-status handlers and the run loop of the tracer. -/

namespace Loi.Core

open Nix

inductive Error where
  | ptrace (errno : Errno)
  | traceeGone
  deriving DecidableEq, Repr

/-- The answers of the kernel and of the monotonic clock to the calls that the
handler of one wait status may make. A handler makes each call at most once. -/
structure Answers where
  getregs : Except Errno UserRegs
  now : Nat
  getevent : Except Errno Int64
  resume : Except Errno Unit

/-- One wait status as delivered to `handleStatus`. -/
structure Delivery where
  status : WaitStatus
  answers : Answers

/-- A status whose handler is granted every call: `nr` and `rax` stand in the
registers, and `message` is the event message. -/
def Delivery.granted (status : WaitStatus) (nr rax : UInt64) (now : Nat) (message : Int64) :
    Delivery :=
  { status
    answers :=
      { getregs := .ok (.x86_64 ⟨nr, 1, 2, 3, 4, 5, 6, rax⟩)
        now
        getevent := .ok message
        resume := .ok () } }

/-- What a handler does to the outside: call the sink, or ask the kernel to
resume a tracee up to its next stop. -/
inductive Effect where
  | sink (event : SyscallEvent)
  | resume (pid : Pid) (signal : Option Signal)
  deriving DecidableEq, Repr

def Effect.pid : Effect → Pid
  | .sink event => event.pid
  | .resume pid _ => pid

structure Tracer where
  rootPid : Pid
  tracees : Finmap (fun _ : Pid => Tracee)
  followForks : Bool

abbrev Handled := Foundation.Reaction Tracer Effect Error

namespace Tracer

/-- The tracer that `spawn` returns, with `with_follow_forks` applied. -/
def postSpawn (root : Pid) (followForks : Bool) : Tracer :=
  { rootPid := root
    tracees := (∅ : Finmap (fun _ : Pid => Tracee)).insert root .newRoot
    followForks }

def set (tracer : Tracer) (pid : Pid) (tracee : Tracee) : Tracer :=
  { tracer with tracees := tracer.tracees.insert pid tracee }

/-- `entry(pid).or_insert_with(Tracee::new_child)`, as the value found. -/
def entryOrNewChild (tracer : Tracer) (pid : Pid) : Tracee :=
  (tracer.tracees.lookup pid).getD .newChild

end Tracer

/-- The `ptrace::syscall(pid, signal)?` that ends a handler. -/
def resumeTracee {State : Type} (state : State) (effects : List Effect) (pid : Pid)
    (signal : Option Signal) (answers : Answers) : Foundation.Reaction State Effect Error :=
  { state
    outputs := effects ++ [.resume pid signal]
    result := answers.resume.mapError .ptrace }

/-- A handler that returns early because the kernel refused a call. -/
def ptraceFailed {State : Type} (state : State) (errno : Errno) :
    Foundation.Reaction State Effect Error :=
  { state, outputs := [], result := .error (.ptrace errno) }

def nothingToResume {State : Type} (state : State) : Foundation.Reaction State Effect Error :=
  { state, outputs := [], result := .ok () }

/-- The name from the host table, or a synthetic one. -/
def syscallName (name : UInt64 → Option String) (nr : UInt64) : String :=
  (name nr).getD ("syscall_" ++ toString nr)

/-- The pid in a `PTRACE_EVENT_{FORK,VFORK,CLONE}` message, `raw as i32`. -/
def childPidFromEvent (raw : Int64) : Pid :=
  raw.toInt32

def handleSyscallStop (name : UInt64 → Option String) (tracer : Tracer) (pid : Pid)
    (answers : Answers) : Handled :=
  let tracee := tracer.entryOrNewChild pid
  if tracee.skipNextSyscallStop then
    resumeTracee (tracer.set pid { tracee with skipNextSyscallStop := false }) [] pid none answers
  else
    match tracee.phase with
    | .entry =>
        match answers.getregs with
        | .error errno => ptraceFailed (tracer.set pid tracee) errno
        | .ok regs =>
            let phase := .exit (extractEntry regs).1 (extractEntry regs).2 answers.now
            resumeTracee (tracer.set pid { tracee with phase }) [] pid none answers
    | .exit nr args startedAt =>
        match answers.getregs with
        | .error errno => ptraceFailed (tracer.set pid tracee) errno
        | .ok regs =>
            let event : SyscallEvent :=
              { pid
                syscallNr := nr
                syscallName := syscallName name nr
                args
                ret := extractRet regs
                -- `Instant::elapsed` saturates at zero, as `Nat` subtraction does.
                duration := answers.now - startedAt }
            resumeTracee (tracer.set pid { tracee with phase := .entry })
              (if pid = tracer.rootPid || tracer.followForks then [.sink event] else [])
              pid none answers

def isForkEvent (event : Int32) : Bool :=
  event = PTRACE_EVENT_FORK || event = PTRACE_EVENT_VFORK || event = PTRACE_EVENT_CLONE

def handleEvent (tracer : Tracer) (pid : Pid) (event : Int32) (answers : Answers) : Handled :=
  if isForkEvent event then
    match answers.getevent with
    | .error errno => ptraceFailed tracer errno
    | .ok raw =>
        let child := childPidFromEvent raw
        resumeTracee (tracer.set child (tracer.entryOrNewChild child)) [] pid none answers
  else if event = PTRACE_EVENT_EXEC then
    match tracer.tracees.lookup pid with
    | some tracee =>
        resumeTracee (tracer.set pid { tracee with phase := .entry, skipNextSyscallStop := true })
          [] pid none answers
    | none => resumeTracee tracer [] pid none answers
  else
    resumeTracee tracer [] pid none answers

def handleSignal (tracer : Tracer) (pid : Pid) (signal : Signal) (answers : Answers) : Handled :=
  let tracee := tracer.entryOrNewChild pid
  if tracee.awaitingInitialSigstop && signal = .SIGSTOP then
    resumeTracee (tracer.set pid { tracee with awaitingInitialSigstop := false }) [] pid none answers
  else
    resumeTracee (tracer.set pid tracee) [] pid (some signal) answers

def handleStatus (name : UInt64 → Option String) :
    Foundation.Machine Tracer Delivery Effect Error :=
  fun tracer delivery =>
    match delivery.status with
    | .ptraceSyscall pid => handleSyscallStop name tracer pid delivery.answers
    | .ptraceEvent pid _ event => handleEvent tracer pid event delivery.answers
    | .stopped pid signal => handleSignal tracer pid signal delivery.answers
    | .exited pid _ | .signaled pid _ _ =>
        nothingToResume { tracer with tracees := tracer.tracees.erase pid }
    | .continued _ | .stillAlive => nothingToResume tracer

def handleAll (name : UInt64 → Option String) (tracer : Tracer)
    (deliveries : List Delivery) : Foundation.Run Tracer Effect Error :=
  Foundation.Machine.run (handleStatus name) tracer deliveries

inductive WaitAnswer where
  | status (delivery : Delivery)
  | errno (errno : Errno)

/-- A run of the tracer against finitely many `waitpid` answers. `returned` is
`none` while the loop still waits for another answer; `delivered` lists the
statuses passed to `handleStatus`. -/
structure TracerRun where
  tracer : Tracer
  delivered : List Delivery
  effects : List Effect
  returned : Option (Except Error Unit)

/-- The `while` loop of `run`. -/
def waitLoop (name : UInt64 → Option String) (tracer : Tracer) : List WaitAnswer → TracerRun
  | [] =>
      { tracer, delivered := [], effects := []
        returned := if tracer.tracees = ∅ then some (.ok ()) else none }
  | answer :: rest =>
      if tracer.tracees = ∅ then
        { tracer, delivered := [], effects := [], returned := some (.ok ()) }
      else
        match answer with
        | .errno errno =>
            if errno = Errno.ECHILD then
              { tracer, delivered := [], effects := []
                returned := some
                  (if tracer.rootPid ∈ tracer.tracees then .error .traceeGone else .ok ()) }
            else if errno = Errno.EINTR then
              waitLoop name tracer rest
            else
              { tracer, delivered := [], effects := []
                returned := some (.error (.ptrace errno)) }
        | .status delivery =>
            let handled := handleStatus name tracer delivery
            match handled.result with
            | .error error =>
                { tracer := handled.state, delivered := [delivery], effects := handled.outputs
                  returned := some (.error error) }
            | .ok () =>
                let later := waitLoop name handled.state rest
                { later with
                  delivered := delivery :: later.delivered
                  effects := handled.outputs ++ later.effects }

/-- `Tracer::run`: resume the root, whose answer is `resumed`, then loop. -/
def Tracer.run (name : UInt64 → Option String) (tracer : Tracer)
    (resumed : Except Errno Unit) (answers : List WaitAnswer) : TracerRun :=
  match resumed with
  | .error errno =>
      { tracer, delivered := [], effects := [.resume tracer.rootPid none]
        returned := some (.error (.ptrace errno)) }
  | .ok () =>
      let loop := waitLoop name tracer answers
      { loop with effects := .resume tracer.rootPid none :: loop.effects }

/-- The tracees that `Drop` detaches with `SIGKILL` and waits for. -/
def Tracer.dropTargets (tracer : Tracer) : Finset Pid :=
  tracer.tracees.keys

end Loi.Core
