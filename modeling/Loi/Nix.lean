set_option autoImplicit false

/-! The kernel vocabulary that the tracer takes from `nix` and `libc`. -/

namespace Loi.Nix

/-- A process id, the `pid_t` inside `nix::unistd::Pid`. -/
abbrev Pid := Int32

structure Errno where
  raw : Int32
  deriving DecidableEq, Repr

namespace Errno

def EPERM : Errno := ⟨1⟩
def ENOENT : Errno := ⟨2⟩
def EINTR : Errno := ⟨4⟩
def EIO : Errno := ⟨5⟩
def ECHILD : Errno := ⟨10⟩
def EFAULT : Errno := ⟨14⟩
def EINVAL : Errno := ⟨22⟩
def ENOSYS : Errno := ⟨38⟩

end Errno

/-- The signals a wait status can name. -/
inductive Signal where
  | SIGHUP | SIGINT | SIGQUIT | SIGILL | SIGTRAP | SIGABRT | SIGBUS | SIGFPE
  | SIGKILL | SIGUSR1 | SIGSEGV | SIGUSR2 | SIGPIPE | SIGALRM | SIGTERM | SIGSTKFLT
  | SIGCHLD | SIGCONT | SIGSTOP | SIGTSTP | SIGTTIN | SIGTTOU | SIGURG | SIGXCPU
  | SIGXFSZ | SIGVTALRM | SIGPROF | SIGWINCH | SIGIO | SIGPWR | SIGSYS
  deriving DecidableEq, Repr

/-- `nix::sys::wait::WaitStatus`. -/
inductive WaitStatus where
  | exited (pid : Pid) (code : Int32)
  | signaled (pid : Pid) (signal : Signal) (coreDumped : Bool)
  | stopped (pid : Pid) (signal : Signal)
  | ptraceEvent (pid : Pid) (signal : Signal) (event : Int32)
  | ptraceSyscall (pid : Pid)
  | continued (pid : Pid)
  | stillAlive
  deriving DecidableEq, Repr

def WaitStatus.pid? : WaitStatus → Option Pid
  | .exited pid _ | .signaled pid _ _ | .stopped pid _ | .ptraceEvent pid _ _
  | .ptraceSyscall pid | .continued pid => some pid
  | .stillAlive => none

def PTRACE_EVENT_FORK : Int32 := 1
def PTRACE_EVENT_VFORK : Int32 := 2
def PTRACE_EVENT_CLONE : Int32 := 3
def PTRACE_EVENT_EXEC : Int32 := 4

def PTRACE_O_TRACESYSGOOD : UInt32 := 0x1
def PTRACE_O_TRACEFORK : UInt32 := 0x2
def PTRACE_O_TRACEVFORK : UInt32 := 0x4
def PTRACE_O_TRACECLONE : UInt32 := 0x8
def PTRACE_O_TRACEEXEC : UInt32 := 0x10
def PTRACE_O_EXITKILL : UInt32 := 0x100000

def WaitStatus.isExitOf (pid : Pid) : WaitStatus → Bool
  | .exited other _ | .signaled other _ _ => other = pid
  | _ => false

/-- The status is a syscall-stop or a signal-delivery stop of `pid`. -/
def WaitStatus.isOrdinaryStopOf (pid : Pid) : WaitStatus → Bool
  | .ptraceSyscall other | .stopped other _ => other = pid
  | _ => false

def WaitStatus.isExecOf (pid : Pid) : WaitStatus → Bool
  | .ptraceEvent other _ event => other = pid && event = PTRACE_EVENT_EXEC
  | _ => false

theorem WaitStatus.pid?_of_isExitOf {status : WaitStatus} {pid : Pid}
    (exits : status.isExitOf pid = true) : status.pid? = some pid := by
  cases status <;> simp_all [isExitOf, pid?]

theorem WaitStatus.pid?_of_isOrdinaryStopOf {status : WaitStatus} {pid : Pid}
    (ordinary : status.isOrdinaryStopOf pid = true) : status.pid? = some pid := by
  cases status <;> simp_all [isOrdinaryStopOf, pid?]

theorem WaitStatus.pid?_of_isExecOf {status : WaitStatus} {pid : Pid}
    (execs : status.isExecOf pid = true) : status.pid? = some pid := by
  cases status <;> simp_all [isExecOf, pid?]

end Loi.Nix
