import Loi.Core.FollowForks

/-! Refused calls. The tracer is monotone in what the kernel grants: a run in which more
is granted does what the other one did, and goes on where that one gave up. -/

set_option autoImplicit false

namespace Loi.Core

open Nix Foundation

/-- The same status, on which the kernel grants at least what it grants on the left, with
the same answers. -/
structure GrantsMore (less more : Delivery) : Prop where
  status : less.status = more.status
  now : less.answers.now = more.answers.now
  getregs : ∀ regs, less.answers.getregs = .ok regs → more.answers.getregs = .ok regs
  getevent : ∀ raw, less.answers.getevent = .ok raw → more.answers.getevent = .ok raw
  resume : less.answers.resume = .ok () → more.answers.resume = .ok ()

/-- A reaction that the other one repeats or, where this one failed, goes beyond. -/
structure GoesBeyond (less more : Handled) : Prop where
  same : less.result = .ok () → more = less
  outputs : less.outputs <+: more.outputs

theorem goesBeyond_resume {less more : Answers} (tracer : Tracer) (effects : List Effect)
    (pid : Pid) (signal : Option Signal)
    (resume : less.resume = .ok () → more.resume = .ok ()) :
    GoesBeyond (resumeTracee tracer effects pid signal less)
      (resumeTracee tracer effects pid signal more) := by
  refine ⟨?_, List.prefix_rfl⟩
  intro success
  cases granted : less.resume with
  | error errno =>
      rw [resumeTracee, granted] at success
      cases success
  | ok => rw [resumeTracee, resumeTracee, granted, resume granted]

theorem goesBeyond_failed (tracer : Tracer) (errno : Errno) (more : Handled) :
    GoesBeyond (ptraceFailed tracer errno) more :=
  ⟨nofun, List.nil_prefix⟩

section Handlers

variable {status : WaitStatus} {less more : Answers} (tracer : Tracer) (pid : Pid)
  (grants : GrantsMore ⟨status, less⟩ ⟨status, more⟩)
include grants

theorem syscallStop_goesBeyond (name : UInt64 → Option String) :
    GoesBeyond (handleSyscallStop name tracer pid less)
      (handleSyscallStop name tracer pid more) := by
  have now : less.now = more.now := grants.now
  unfold handleSyscallStop
  dsimp only
  split
  · exact goesBeyond_resume _ [] pid none grants.resume
  · cases read : less.getregs with
    | error errno =>
        split <;> exact goesBeyond_failed _ errno _
    | ok regs =>
        rw [show more.getregs = .ok regs from grants.getregs regs read, now]
        split <;> exact goesBeyond_resume _ _ pid none grants.resume

theorem event_goesBeyond (event : Int32) :
    GoesBeyond (handleEvent tracer pid event less) (handleEvent tracer pid event more) := by
  unfold handleEvent
  split
  · cases told : less.getevent with
    | error errno => exact goesBeyond_failed _ errno _
    | ok raw =>
        rw [show more.getevent = .ok raw from grants.getevent raw told]
        exact goesBeyond_resume _ [] pid none grants.resume
  · split
    · split <;> exact goesBeyond_resume _ [] pid none grants.resume
    · exact goesBeyond_resume _ [] pid none grants.resume

theorem signal_goesBeyond (signal : Signal) :
    GoesBeyond (handleSignal tracer pid signal less) (handleSignal tracer pid signal more) := by
  unfold handleSignal
  dsimp only
  split <;> exact goesBeyond_resume _ [] pid _ grants.resume

end Handlers

theorem handleStatus_goesBeyond (name : UInt64 → Option String) (tracer : Tracer)
    {less more : Delivery} (grants : GrantsMore less more) :
    GoesBeyond (handleStatus name tracer less) (handleStatus name tracer more) := by
  obtain ⟨status, less⟩ := less
  obtain ⟨other, more⟩ := more
  obtain rfl : status = other := grants.status
  cases status with
  | ptraceSyscall pid => exact syscallStop_goesBeyond tracer pid grants name
  | ptraceEvent pid signal event => exact event_goesBeyond tracer pid grants event
  | stopped pid signal => exact signal_goesBeyond tracer pid grants signal
  | exited | signaled | continued | stillAlive => exact ⟨fun _ => rfl, List.prefix_rfl⟩

/-- Two answers of `waitpid` to the same loop. -/
inductive AnswersMore : WaitAnswer → WaitAnswer → Prop where
  | status {less more : Delivery} : GrantsMore less more →
      AnswersMore (.status less) (.status more)
  | errno (errno : Errno) : AnswersMore (.errno errno) (.errno errno)

/-- What a run is next to one that is granted more: the same, or cut short by the refusal
that its last status met. -/
inductive RunsBeyond (name : UInt64 → Option String) (tracer : Tracer) (less more : TracerRun) :
    Prop where
  | same : more.tracer = less.tracer → more.effects = less.effects →
      more.returned = less.returned → RunsBeyond name tracer less more
  | refused (error : Error) :
      (handleAll name tracer less.delivered).result = .error error →
      less.returned = some (.error error) → less.effects <+: more.effects →
      RunsBeyond name tracer less more

theorem waitLoop_runsBeyond (name : UInt64 → Option String) (tracer : Tracer)
    {less more : List WaitAnswer} (grants : List.Forall₂ AnswersMore less more) :
    RunsBeyond name tracer (waitLoop name tracer less) (waitLoop name tracer more) := by
  induction grants generalizing tracer with
  | nil => exact .same rfl rfl rfl
  | @cons answer answer' less more grant rest ih =>
      unfold waitLoop
      split
      · exact .same rfl rfl rfl
      · cases grant with
        | errno errno =>
            dsimp only
            split
            · exact .same rfl rfl rfl
            · split
              · exact ih tracer
              · exact .same rfl rfl rfl
        | @status delivery delivery' grants =>
            have beyond := handleStatus_goesBeyond name tracer grants
            dsimp only
            cases reacted : (handleStatus name tracer delivery).result with
            | error error =>
                have ran : handleAll name tracer [delivery] = _ :=
                  Machine.run_cons_error [] reacted
                refine .refused error (by rw [ran]) rfl ?_
                cases (handleStatus name tracer delivery').result with
                | error other => exact beyond.outputs
                | ok => exact beyond.outputs.trans (List.prefix_append _ _)
            | ok =>
                rw [beyond.same reacted, reacted]
                dsimp only
                rcases ih (handleStatus name tracer delivery).state with
                  ⟨final, effects, returned⟩ | ⟨error, failed, returned, initial⟩
                · exact .same final (by rw [effects]) returned
                · refine .refused error ?_ returned ((List.prefix_append_right_inj _).mpr initial)
                  rw [handleAll, Machine.run_cons_ok _ reacted]
                  exact failed

/-- Granting more never changes what the tracer has done, in any interleaving: the run with
fewer refusals has the same effects, and with them the same events, up to the status on
which the other one was refused; without such a status the two runs end alike. -/
theorem run_monotone (name : UInt64 → Option String) (tracer : Tracer)
    (resumed : Except Errno Unit) (less more : List WaitAnswer)
    (grants : List.Forall₂ AnswersMore less more) :
    RunsBeyond name tracer (tracer.run name resumed less) (tracer.run name resumed more) ∧
      sunk (tracer.run name resumed less).effects <+:
        sunk (tracer.run name resumed more).effects := by
  have beyond : RunsBeyond name tracer (tracer.run name resumed less)
      (tracer.run name resumed more) := by
    cases resumed with
    | error errno => exact .same rfl rfl rfl
    | ok =>
        rcases waitLoop_runsBeyond name tracer grants with
          ⟨final, effects, returned⟩ | ⟨error, failed, returned, initial⟩
        · refine .same final ?_ returned
          simp only [Tracer.run, effects]
        · exact .refused error failed returned ((List.prefix_cons_inj _).mpr initial)
  refine ⟨beyond, ?_⟩
  rcases beyond with ⟨_, effects, _⟩ | ⟨_, _, _, initial⟩
  · rw [effects]
  · exact initial.filterMap _

theorem AnswersMore.refl (answer : WaitAnswer) : AnswersMore answer answer := by
  cases answer with
  | status delivery =>
      exact .status ⟨rfl, rfl, fun _ => id, fun _ => id, id⟩
  | errno errno => exact .errno errno

/-- The exit stop of a syscall whose process is gone before it is resumed. -/
def goneBeforeResume : Delivery :=
  { Delivery.granted (.ptraceSyscall 100) 39 100 9 0 with
    answers :=
      { (Delivery.granted (.ptraceSyscall 100) 39 100 9 0).answers with resume := .error ⟨3⟩ } }

theorem run_monotone_goneBeforeResume :
    sunk ((Tracer.postSpawn 100 false).run (fun _ => none) (.ok ())
        ((rootExecs.take 2).map .status ++ [.status goneBeforeResume, .errno .EINTR])).effects <+:
      sunk ((Tracer.postSpawn 100 false).run (fun _ => none) (.ok ())
        ((rootExecs.take 2).map .status ++
          [.status (.granted (.ptraceSyscall 100) 39 100 9 0), .errno .EINTR])).effects := by
  have last : AnswersMore (.status goneBeforeResume)
      (.status (.granted (.ptraceSyscall 100) 39 100 9 0)) :=
    .status ⟨rfl, rfl, fun _ => id, fun _ => id, fun _ => rfl⟩
  exact (run_monotone (fun _ => none) (.postSpawn 100 false) (.ok ()) _ _
    (.cons (.refl _) (.cons (.refl _) (.cons last (.cons (.refl _) .nil))))).2

end Loi.Core
