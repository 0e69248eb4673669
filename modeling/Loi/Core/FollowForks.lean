import Loi.Core.Pairing
import Loi.Core.RunLoop

/-! `follow_forks` only selects events: a quiet tracer and a loud one, on the same
answers of the kernel, stay in the same state and make the same requests. -/

set_option autoImplicit false

namespace Loi.Core

open Nix Foundation

def Tracer.withFollowForks (on : Bool) (tracer : Tracer) : Tracer :=
  { tracer with followForks := on }

/-- The effects that are left when only the events of the root are emitted. -/
def quieted (root : Pid) (effects : List Effect) : List Effect :=
  effects.filter fun
    | .sink event => event.pid = root
    | .resume _ _ => true

/-- The resume requests among some effects, with the signals they pass. -/
def resumed (effects : List Effect) : List (Pid × Option Signal) :=
  effects.filterMap fun
    | .sink _ => none
    | .resume pid signal => some (pid, signal)

@[simp] theorem quieted_append (root : Pid) (before after : List Effect) :
    quieted root (before ++ after) = quieted root before ++ quieted root after :=
  List.filter_append _ _

@[simp] theorem quieted_resume (root pid : Pid) (signal : Option Signal) :
    quieted root [.resume pid signal] = [.resume pid signal] := rfl

theorem resumed_quieted (root : Pid) (effects : List Effect) :
    resumed (quieted root effects) = resumed effects := by
  unfold resumed quieted
  rw [List.filterMap_filter]
  congr 1
  funext effect
  cases effect with
  | sink event => simp
  | resume pid signal => rfl

theorem sunk_quieted (root : Pid) (effects : List Effect) :
    sunk (quieted root effects) = (sunk effects).filter fun event => event.pid = root := by
  unfold sunk quieted
  rw [List.filterMap_filter, List.filter_filterMap]
  congr 1
  funext effect
  cases effect with
  | sink event => by_cases own : event.pid = root <;> simp [own, Option.filter_some]
  | resume pid signal => rfl

/-- What a reaction of the quiet tracer is, given that of the loud one. -/
structure QuietOf (root : Pid) (loud quiet : Handled) : Prop where
  state : quiet.state = loud.state.withFollowForks false
  outputs : quiet.outputs = quieted root loud.outputs
  result : quiet.result = loud.result

section Handlers

variable (name : UInt64 → Option String) (root : Pid) (tracer : Tracer) (pid : Pid)
  (answers : Answers)

theorem quietOf_resume (effects : List Effect) (signal : Option Signal) :
    QuietOf root (resumeTracee tracer effects pid signal answers)
      (resumeTracee (tracer.withFollowForks false) (quieted root effects) pid signal answers) :=
  ⟨rfl, by simp, rfl⟩

theorem quietOf_failed (errno : Errno) :
    QuietOf root (ptraceFailed tracer errno)
      (ptraceFailed (tracer.withFollowForks false) errno) :=
  ⟨rfl, rfl, rfl⟩

theorem syscallStop_quiet :
    QuietOf tracer.rootPid (handleSyscallStop name tracer pid answers)
      (handleSyscallStop name (tracer.withFollowForks false) pid answers) := by
  have entry : (tracer.withFollowForks false).entryOrNewChild pid = tracer.entryOrNewChild pid := rfl
  have quietSet : ∀ tracee, (tracer.withFollowForks false).set pid tracee =
      (tracer.set pid tracee).withFollowForks false := fun _ => rfl
  unfold handleSyscallStop
  simp only [entry, quietSet]
  split
  · exact quietOf_resume _ _ pid answers [] none
  · split
    · split
      · exact quietOf_failed _ _ _
      · exact quietOf_resume _ _ pid answers [] none
    · split
      · exact quietOf_failed _ _ _
      · next regs _ =>
          refine ⟨rfl, ?_, rfl⟩
          simp only [resumeTracee_outputs, quieted_append, quieted_resume]
          congr 1
          by_cases own : pid = tracer.rootPid <;> cases tracer.followForks <;>
            simp [Tracer.withFollowForks, quieted, own]

theorem event_quiet (event : Int32) :
    QuietOf root (handleEvent tracer pid event answers)
      (handleEvent (tracer.withFollowForks false) pid event answers) := by
  unfold handleEvent
  split
  · split
    · exact quietOf_failed _ _ _
    · exact quietOf_resume _ _ pid answers [] none
  · split
    · have same : (tracer.withFollowForks false).tracees = tracer.tracees := rfl
      rw [same]
      split
      · exact quietOf_resume _ _ pid answers [] none
      · exact quietOf_resume _ _ pid answers [] none
    · exact quietOf_resume _ _ pid answers [] none

theorem signal_quiet (signal : Signal) :
    QuietOf root (handleSignal tracer pid signal answers)
      (handleSignal (tracer.withFollowForks false) pid signal answers) := by
  have entry : (tracer.withFollowForks false).entryOrNewChild pid = tracer.entryOrNewChild pid := rfl
  unfold handleSignal
  simp only [entry]
  split
  · exact quietOf_resume _ _ pid answers [] none
  · exact quietOf_resume _ _ pid answers [] _

end Handlers

/-- Suppression skips an event, and nothing else of its stop. -/
theorem handleStatus_quiet (name : UInt64 → Option String) (tracer : Tracer)
    (delivery : Delivery) :
    QuietOf tracer.rootPid (handleStatus name tracer delivery)
      (handleStatus name (tracer.withFollowForks false) delivery) := by
  rcases delivery with ⟨status, answers⟩
  cases status with
  | ptraceSyscall pid => exact syscallStop_quiet name tracer pid answers
  | ptraceEvent pid signal event => exact event_quiet _ tracer pid answers event
  | stopped pid signal => exact signal_quiet _ tracer pid answers signal
  | exited | signaled | continued | stillAlive => exact ⟨rfl, rfl, rfl⟩

/-- A quiet run follows the loud one in step, by one handled status at a time. -/
theorem handleAll_quiet (name : UInt64 → Option String) (tracer : Tracer)
    (deliveries : List Delivery) :
    (handleAll name (tracer.withFollowForks false) deliveries).state =
        (handleAll name tracer deliveries).state.withFollowForks false ∧
      (handleAll name (tracer.withFollowForks false) deliveries).log =
        (handleAll name tracer deliveries).log.map (quieted tracer.rootPid) ∧
      (handleAll name (tracer.withFollowForks false) deliveries).result =
        (handleAll name tracer deliveries).result := by
  let inStep (loud quiet : Tracer) : Prop :=
    quiet = loud.withFollowForks false ∧ loud.rootPid = tracer.rootPid
  have step : ∀ loud quiet delivery, inStep loud quiet →
      inStep (handleStatus name loud delivery).state (handleStatus name quiet delivery).state ∧
        (handleStatus name quiet delivery).outputs =
          quieted tracer.rootPid (handleStatus name loud delivery).outputs ∧
        (handleStatus name quiet delivery).result = (handleStatus name loud delivery).result := by
    intro loud quiet delivery related
    obtain ⟨rfl, root⟩ := related
    have quiets := handleStatus_quiet name loud delivery
    rw [root] at quiets
    refine ⟨⟨quiets.state, ?_⟩, quiets.outputs, quiets.result⟩
    rw [handleStatus_rootPid, root]
  obtain ⟨related, logs, results⟩ :=
    Machine.run_lockstep inStep (quieted tracer.rootPid) step ⟨rfl, rfl⟩ deliveries
  exact ⟨related.1, logs, results⟩

/-- What a whole run of the quiet tracer is, given that of the loud one. -/
structure QuietRun (root : Pid) (loud quiet : TracerRun) : Prop where
  tracer : quiet.tracer = loud.tracer.withFollowForks false
  delivered : quiet.delivered = loud.delivered
  effects : quiet.effects = quieted root loud.effects
  returned : quiet.returned = loud.returned

theorem waitLoop_quiet (name : UInt64 → Option String) (tracer : Tracer)
    (answers : List WaitAnswer) :
    QuietRun tracer.rootPid (waitLoop name tracer answers)
      (waitLoop name (tracer.withFollowForks false) answers) := by
  induction answers generalizing tracer with
  | nil => exact ⟨rfl, rfl, rfl, rfl⟩
  | cons answer rest ih =>
      have tracees : (tracer.withFollowForks false).tracees = tracer.tracees := rfl
      have root : (tracer.withFollowForks false).rootPid = tracer.rootPid := rfl
      simp only [waitLoop, tracees, root]
      by_cases ended : tracer.tracees = ∅
      · simp only [ended, if_true]
        exact ⟨rfl, rfl, rfl, rfl⟩
      · simp only [ended, if_false]
        cases answer with
        | errno errno =>
            dsimp only
            split
            · exact ⟨rfl, rfl, rfl, rfl⟩
            · split
              · exact ih tracer
              · exact ⟨rfl, rfl, rfl, rfl⟩
        | status delivery =>
            have quiets := handleStatus_quiet name tracer delivery
            dsimp only
            rw [quiets.result]
            cases reacted : (handleStatus name tracer delivery).result with
            | error error => exact ⟨quiets.state, rfl, quiets.outputs, rfl⟩
            | ok =>
                have later := ih (handleStatus name tracer delivery).state
                rw [handleStatus_rootPid] at later
                dsimp only
                rw [quiets.state, quiets.outputs]
                refine ⟨later.tracer, ?_, ?_, later.returned⟩
                · rw [later.delivered]
                · rw [later.effects, quieted_append]

theorem run_quiet (name : UInt64 → Option String) (tracer : Tracer)
    (resumed : Except Errno Unit) (answers : List WaitAnswer) :
    QuietRun tracer.rootPid (tracer.run name resumed answers)
      ((tracer.withFollowForks false).run name resumed answers) := by
  cases resumed with
  | error errno => exact ⟨rfl, rfl, rfl, rfl⟩
  | ok =>
      have loop := waitLoop_quiet name tracer answers
      refine ⟨loop.tracer, loop.delivered, ?_, loop.returned⟩
      have root : (tracer.withFollowForks false).rootPid = tracer.rootPid := rfl
      simp only [Tracer.run, loop.effects, root]
      rfl

/-- `follow_forks = false` emits exactly the events of the root that `true` emits, in
their order and as they are. After every status the tracees are the same, each status
leads to the same resume requests, and both end with the same result. -/
theorem handleAll_followForks (name : UInt64 → Option String) (root : Pid)
    (deliveries : List Delivery) :
    (∀ seen rest, deliveries = seen ++ rest →
      (handleAll name (.postSpawn root false) seen).state.tracees =
        (handleAll name (.postSpawn root true) seen).state.tracees) ∧
    (handleAll name (.postSpawn root false) deliveries).log =
      (handleAll name (.postSpawn root true) deliveries).log.map (quieted root) ∧
    sunk (handleAll name (.postSpawn root false) deliveries).outputs =
      (sunk (handleAll name (.postSpawn root true) deliveries).outputs).filter
        (fun event => event.pid = root) ∧
    resumed (handleAll name (.postSpawn root false) deliveries).outputs =
      resumed (handleAll name (.postSpawn root true) deliveries).outputs ∧
    (handleAll name (.postSpawn root false) deliveries).result =
      (handleAll name (.postSpawn root true) deliveries).result ∧
    ∀ started answers, QuietRun root ((Tracer.postSpawn root true).run name started answers)
      ((Tracer.postSpawn root false).run name started answers) := by
  have quiet : (Tracer.postSpawn root true).withFollowForks false = .postSpawn root false := rfl
  obtain ⟨_, logs, results⟩ := handleAll_quiet name (.postSpawn root true) deliveries
  rw [quiet] at logs results
  have outputs : (handleAll name (.postSpawn root false) deliveries).outputs =
      quieted root (handleAll name (.postSpawn root true) deliveries).outputs := by
    unfold Run.outputs quieted
    rw [logs, List.filter_flatten]
    rfl
  refine ⟨?_, logs, ?_, ?_, results, ?_⟩
  · intro seen rest _
    have states := (handleAll_quiet name (.postSpawn root true) seen).1
    rw [quiet] at states
    rw [states]
    rfl
  · rw [outputs, sunk_quieted]
  · rw [outputs, resumed_quieted]
  · intro started answers
    exact run_quiet name (.postSpawn root true) started answers

end Loi.Core
