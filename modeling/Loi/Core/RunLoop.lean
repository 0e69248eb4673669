import Mathlib.Logic.Relation
import Loi.Core.Process

/-! The wait loop as a whole. Every process the loop has heard of is tracked or
has exited, so the loop cannot end early; whether a tracked process may be dead
depends on the order of fork events and exits. -/

set_option autoImplicit false

namespace Loi.Core

open Nix Foundation

def Exited (pid : Pid) (seen : List Delivery) : Prop :=
  ∃ delivery ∈ seen, delivery.status.isExitOf pid = true

instance (pid : Pid) (seen : List Delivery) : Decidable (Exited pid seen) :=
  inferInstanceAs (Decidable (∃ delivery ∈ seen, _))

theorem Exited.append {pid : Pid} {seen : List Delivery} (exited : Exited pid seen)
    (more : List Delivery) : Exited pid (seen ++ more) := by
  obtain ⟨delivery, member, exits⟩ := exited
  exact ⟨delivery, List.mem_append_left _ member, exits⟩

theorem exited_snoc {pid : Pid} {seen : List Delivery} {delivery : Delivery} :
    Exited pid (seen ++ [delivery]) ↔
      Exited pid seen ∨ delivery.status.isExitOf pid = true := by
  simp [Exited, or_and_right, exists_or]

def Forked (child : Pid) (seen : List Delivery) : Prop :=
  ∃ delivery ∈ seen, ∃ parent, delivery.ForksTo parent child

theorem forked_snoc {child : Pid} {seen : List Delivery} {delivery : Delivery} :
    Forked child (seen ++ [delivery]) ↔
      Forked child seen ∨ ∃ parent, delivery.ForksTo parent child := by
  simp [Forked, or_and_right, exists_or]

/-- The fork event naming a child is delivered before the exit of its creator. -/
def ForksBeforeExit (creates : Pid → Pid → Prop) (seen : List Delivery) (delivery : Delivery) :
    Prop :=
  ∀ parent child, creates parent child → delivery.status.isExitOf parent = true →
    ∃ earlier ∈ seen, earlier.ForksTo parent child

def ExitLast (seen : List Delivery) (delivery : Delivery) : Prop :=
  ∀ pid ∈ delivery.status.pid?, ¬ Exited pid seen

instance (seen : List Delivery) (delivery : Delivery) : Decidable (ExitLast seen delivery) :=
  Option.decidableForallMem _

/-- A fork event never names a process whose exit was delivered before it. -/
def NamesAlive (seen : List Delivery) (delivery : Delivery) : Prop :=
  ∀ parent child, delivery.ForksTo parent child → ¬ Exited child seen

/-- A process that the statuses tell of: the root, one with a status of its own,
or one named by a fork event. -/
def ToldOf (root pid : Pid) (seen : List Delivery) : Prop :=
  pid = root ∨ Forked pid seen ∨ ∃ delivery ∈ seen, delivery.status.pid? = some pid

def statusesOf (answers : List WaitAnswer) : List Delivery :=
  answers.filterMap fun
    | .status delivery => some delivery
    | .errno _ => none

/-- How a loop that returned `Ok` came to its end: it handled its statuses
without error and then found no tracee left, or was told `ECHILD` while the root
was not tracked. -/
structure LoopEnded (name : UInt64 → Option String) (tracer : Tracer)
    (answers : List WaitAnswer) (run : TracerRun) : Prop where
  handled : (handleAll name tracer run.delivered).result = .ok ()
  final : (handleAll name tracer run.delivered).state = run.tracer
  cause : run.tracer.tracees = ∅ ∨ ∃ seen rest, answers = seen ++ .errno .ECHILD :: rest ∧
    run.delivered = statusesOf seen
  delivered : run.delivered <+: statusesOf answers

theorem waitLoop_ended (name : UInt64 → Option String) (tracer : Tracer)
    (answers : List WaitAnswer)
    (success : (waitLoop name tracer answers).returned = some (.ok ())) :
    LoopEnded name tracer answers (waitLoop name tracer answers) := by
  induction answers generalizing tracer with
  | nil =>
      by_cases empty : tracer.tracees = ∅
      · exact ⟨rfl, rfl, .inl empty, List.nil_prefix⟩
      · simp [waitLoop, empty] at success
  | cons answer rest ih =>
      by_cases empty : tracer.tracees = ∅
      · have stops : waitLoop name tracer (answer :: rest) =
            { tracer, delivered := [], effects := [], returned := some (.ok ()) } := by
          simp [waitLoop, empty]
        rw [stops]
        exact ⟨rfl, rfl, .inl empty, List.nil_prefix⟩
      · cases answer with
        | errno errno =>
            by_cases gone : errno = .ECHILD
            · subst gone
              have stops : waitLoop name tracer (.errno .ECHILD :: rest) =
                  { tracer, delivered := [], effects := [], returned := some
                      (if tracer.rootPid ∈ tracer.tracees then .error .traceeGone
                        else .ok ()) } := by
                simp [waitLoop, empty]
              rw [stops]
              exact ⟨rfl, rfl, .inr ⟨[], rest, rfl, rfl⟩, List.nil_prefix⟩
            · by_cases interrupted : errno = .EINTR
              · subst interrupted
                have loops : waitLoop name tracer (.errno .EINTR :: rest) =
                    waitLoop name tracer rest := by
                  simp [waitLoop, empty, gone]
                rw [loops] at success ⊢
                obtain ⟨handled, final, cause, delivered⟩ := ih tracer success
                refine ⟨handled, final, cause.imp id ?_, delivered⟩
                intro ended
                obtain ⟨seen, later, split, same⟩ := ended
                exact ⟨.errno .EINTR :: seen, later, by rw [split]; rfl, same⟩
              · simp [waitLoop, empty, gone, interrupted] at success
        | status delivery =>
            cases reacted : (handleStatus name tracer delivery).result with
            | error error => simp [waitLoop, empty, reacted] at success
            | ok =>
                have loops : waitLoop name tracer (.status delivery :: rest) =
                    { waitLoop name (handleStatus name tracer delivery).state rest with
                      delivered := delivery ::
                        (waitLoop name (handleStatus name tracer delivery).state rest).delivered
                      effects := (handleStatus name tracer delivery).outputs ++
                        (waitLoop name (handleStatus name tracer delivery).state
                          rest).effects } := by
                  simp [waitLoop, empty, reacted]
                rw [loops] at success ⊢
                obtain ⟨handled, final, cause, delivered⟩ := ih _ success
                refine ⟨?_, ?_, cause.imp id ?_, List.prefix_cons_inj _ |>.mpr delivered⟩
                · rw [handleAll, Machine.run_cons_ok _ reacted]
                  exact handled
                · rw [handleAll, Machine.run_cons_ok _ reacted]
                  exact final
                · intro ended
                  obtain ⟨seen, later, split, same⟩ := ended
                  refine ⟨.status delivery :: seen, later, by rw [split]; rfl, ?_⟩
                  simp [statusesOf] at same ⊢
                  exact same

theorem Tracer.run_ended {name : UInt64 → Option String} {tracer : Tracer}
    {resumed : Except Errno Unit} {answers : List WaitAnswer}
    (success : (tracer.run name resumed answers).returned = some (.ok ())) :
    LoopEnded name tracer answers (tracer.run name resumed answers) := by
  cases resumed with
  | error errno => simp [Tracer.run] at success
  | ok =>
      obtain ⟨handled, final, cause, delivered⟩ := waitLoop_ended name tracer answers success
      exact ⟨handled, final, cause, delivered⟩

/-- The loop at any moment, however it ended: it is the machine of the handlers run on
the statuses delivered so far, of which only the last may have failed, with the error
that is returned. -/
structure LoopHandled (name : UInt64 → Option String) (tracer : Tracer)
    (answers : List WaitAnswer) (run : TracerRun) : Prop where
  state : (handleAll name tracer run.delivered).state = run.tracer
  outputs : (handleAll name tracer run.delivered).outputs = run.effects
  failed : ∀ error, (handleAll name tracer run.delivered).result = .error error →
    run.returned = some (.error error)
  earlier : ∀ seen delivery rest, run.delivered = seen ++ delivery :: rest →
    (handleAll name tracer seen).result = .ok ()
  delivered : run.delivered <+: statusesOf answers

theorem LoopHandled.nothing (name : UInt64 → Option String) (tracer : Tracer)
    (answers : List WaitAnswer) (returned : Option (Except Error Unit)) :
    LoopHandled name tracer answers
      { tracer, delivered := [], effects := [], returned } :=
  ⟨rfl, rfl, nofun, by simp, List.nil_prefix⟩

theorem waitLoop_handled (name : UInt64 → Option String) (tracer : Tracer)
    (answers : List WaitAnswer) :
    LoopHandled name tracer answers (waitLoop name tracer answers) := by
  induction answers generalizing tracer with
  | nil => exact .nothing name tracer [] _
  | cons answer rest ih =>
      unfold waitLoop
      split
      · exact .nothing name tracer _ _
      · cases answer with
        | errno errno =>
            dsimp only
            split
            · exact .nothing name tracer _ _
            · split
              · obtain ⟨state, outputs, failed, earlier, delivered⟩ := ih tracer
                exact ⟨state, outputs, failed, earlier, delivered⟩
              · exact .nothing name tracer _ _
        | status delivery =>
            have statuses : statusesOf (.status delivery :: rest) = delivery :: statusesOf rest :=
              rfl
            dsimp only
            cases reacted : (handleStatus name tracer delivery).result with
            | error error =>
                have ran : handleAll name tracer [delivery] = _ :=
                  Machine.run_cons_error [] reacted
                refine ⟨by rw [ran], by rw [ran]; simp [Run.outputs], ?_, ?_, ?_⟩
                · intro found fails
                  rw [ran] at fails
                  cases fails
                  rfl
                · intro seen last more split
                  rcases List.append_eq_singleton_iff.mp split.symm with ⟨first, _⟩ | ⟨_, none⟩
                  · rw [first]
                    rfl
                  · cases none
                · rw [statuses]
                  exact (List.prefix_cons_inj _).mpr List.nil_prefix
            | ok =>
                obtain ⟨state, outputs, failed, earlier, delivered⟩ :=
                  ih (handleStatus name tracer delivery).state
                have ran := fun later => Machine.run_cons_ok later reacted
                refine ⟨?_, ?_, ?_, ?_, ?_⟩
                · rw [handleAll, ran]
                  exact state
                · rw [handleAll, ran, ← outputs]
                  rfl
                · intro error fails
                  rw [handleAll, ran] at fails
                  exact failed error fails
                · intro seen last more split
                  cases seen with
                  | nil => rfl
                  | cons head seen =>
                      obtain ⟨first, later⟩ := List.cons_eq_cons.mp split
                      rw [← first, handleAll, ran]
                      exact earlier seen last more later
                · rw [statuses]
                  exact (List.prefix_cons_inj _).mpr delivered

/-- The same of `run`, whose first effect is the resume of the root. -/
theorem Tracer.run_handled (name : UInt64 → Option String) (tracer : Tracer)
    (resumed : Except Errno Unit) (answers : List WaitAnswer) :
    ∃ loop : TracerRun, LoopHandled name tracer answers loop ∧
      tracer.run name resumed answers =
        { loop with effects := .resume tracer.rootPid none :: loop.effects } := by
  cases resumed with
  | error errno => exact ⟨_, .nothing name tracer answers _, rfl⟩
  | ok => exact ⟨_, waitLoop_handled name tracer answers, rfl⟩

def Delivery.forked? (delivery : Delivery) : Option (Pid × Pid) :=
  match delivery.status, delivery.answers.getevent with
  | .ptraceEvent parent _ event, .ok raw =>
      if isForkEvent event then some (parent, childPidFromEvent raw) else none
  | _, _ => none

theorem Delivery.forked?_eq_some {delivery : Delivery} {parent child : Pid} :
    delivery.forked? = some (parent, child) ↔ delivery.ForksTo parent child := by
  rcases delivery with ⟨status, answers⟩
  cases status <;> cases answered : answers.getevent <;>
    simp [Delivery.forked?, Delivery.ForksTo, answered]
  all_goals tauto

instance (delivery : Delivery) (parent child : Pid) :
    Decidable (delivery.ForksTo parent child) :=
  decidable_of_iff _ Delivery.forked?_eq_some

theorem Delivery.ForksTo.same {delivery : Delivery} {parent parent' child child' : Pid}
    (forks : delivery.ForksTo parent child) (forks' : delivery.ForksTo parent' child') :
    parent = parent' ∧ child = child' := by
  obtain ⟨signal, event, raw, status, _, answered, named⟩ := forks
  obtain ⟨signal', event', raw', status', _, answered', named'⟩ := forks'
  rw [status] at status'
  rw [answered] at answered'
  cases status'
  cases answered'
  exact ⟨rfl, named.symm.trans named'⟩

theorem Delivery.ForksTo.status {delivery : Delivery} {parent child : Pid}
    (forks : delivery.ForksTo parent child) :
    ∃ signal event, delivery.status = .ptraceEvent parent signal event := by
  obtain ⟨signal, event, _, status, _⟩ := forks
  exact ⟨signal, event, status⟩

theorem mem_handleStatus (name : UInt64 → Option String) (tracer : Tracer) (delivery : Delivery)
    (pid : Pid) :
    pid ∈ (handleStatus name tracer delivery).state.tracees ↔
      delivery.status.isExitOf pid = false ∧
        (pid ∈ tracer.tracees ∨ delivery.status.isOrdinaryStopOf pid = true ∨
          ∃ parent, delivery.ForksTo parent pid) := by
  rcases delivery with ⟨status, answers⟩
  have noFork : (∀ other signal event, status ≠ .ptraceEvent other signal event) →
      ∀ parent, ¬ (⟨status, answers⟩ : Delivery).ForksTo parent pid := by
    intro noEvent parent forks
    obtain ⟨signal, event, same⟩ := forks.status
    exact noEvent parent signal event same
  cases status with
  | ptraceSyscall other =>
      obtain ⟨tracee, same⟩ := handleSyscallStop_state name tracer other answers
      simp only [handleStatus, same]
      simp [Tracer.set, WaitStatus.isExitOf, WaitStatus.isOrdinaryStopOf, noFork, or_comm,
        eq_comm]
  | stopped other signal =>
      obtain ⟨tracee, same⟩ := handleSignal_state tracer other signal answers
      simp only [handleStatus, same]
      simp [Tracer.set, WaitStatus.isExitOf, WaitStatus.isOrdinaryStopOf, noFork, or_comm,
        eq_comm]
  | ptraceEvent other signal event =>
      rcases handleEvent_state tracer other signal event answers with
        ⟨child, forks, same⟩ | ⟨execs, before, tracee, tracked, same⟩ | ⟨silent, same⟩
      · have named : (∃ parent, (⟨.ptraceEvent other signal event, answers⟩ : Delivery).ForksTo
            parent pid) ↔ pid = child := by
          constructor
          · intro found
            obtain ⟨parent, forks'⟩ := found
            exact (forks'.same forks).2
          · intro same
            exact ⟨other, same ▸ forks⟩
        simp only [handleStatus, same, named]
        simp [Tracer.set, WaitStatus.isExitOf, WaitStatus.isOrdinaryStopOf, or_comm]
      · have silent : ∀ parent,
            ¬ (⟨.ptraceEvent other signal event, answers⟩ : Delivery).ForksTo parent pid := by
          intro parent forks
          obtain ⟨_, _, _, shape, forkCode, _⟩ := forks
          cases shape
          rw [execs] at forkCode
          exact absurd forkCode (by decide)
        have member : other ∈ tracer.tracees := Finmap.mem_of_lookup_eq_some tracked
        simp only [handleStatus, same]
        simp only [Tracer.set, Finmap.mem_insert, WaitStatus.isExitOf,
          WaitStatus.isOrdinaryStopOf, silent, exists_false, or_false, true_and]
        constructor
        · intro found
          rcases found with rfl | found
          · exact .inl member
          · exact .inl found
        · intro found
          have kept : pid ∈ tracer.tracees := by simpa using found
          exact .inr kept
      · have none : ∀ parent,
            ¬ (⟨.ptraceEvent other signal event, answers⟩ : Delivery).ForksTo parent pid := by
          intro parent forks
          obtain ⟨_, _, shape⟩ := forks.status
          cases shape
          exact silent pid forks
        simp only [handleStatus, same]
        simp [WaitStatus.isExitOf, WaitStatus.isOrdinaryStopOf, none]
  | exited other | signaled other =>
      simp [handleStatus, WaitStatus.isExitOf, WaitStatus.isOrdinaryStopOf, noFork, eq_comm]
  | continued | stillAlive =>
      simp [handleStatus, WaitStatus.isExitOf, WaitStatus.isOrdinaryStopOf, noFork]

/-- Nobody the loop has heard of through a fork event is forgotten before its exit. -/
def RemembersForks (root : Pid) (seen : List Delivery) (tracer : Tracer) : Prop :=
  ∀ pid, pid = root ∨ Forked pid seen → pid ∈ tracer.tracees ∨ Exited pid seen

theorem remembersForks_postSpawn (root : Pid) (followForks : Bool) :
    RemembersForks root [] (.postSpawn root followForks) := by
  intro pid known
  rcases known with same | forked
  · left
    simp [Tracer.postSpawn, same]
  · obtain ⟨_, member, _⟩ := forked
    cases member

theorem RemembersForks.step (name : UInt64 → Option String) {root : Pid} {seen : List Delivery}
    {tracer : Tracer} (delivery : Delivery) (remembers : RemembersForks root seen tracer) :
    RemembersForks root (seen ++ [delivery]) (handleStatus name tracer delivery).state := by
  intro pid known
  rw [exited_snoc, mem_handleStatus]
  cases exits : delivery.status.isExitOf pid with
  | true => exact .inr (.inr rfl)
  | false =>
      rcases known with same | forked
      · rcases remembers pid (.inl same) with tracked | exited
        · exact .inl ⟨rfl, .inl tracked⟩
        · exact .inr (.inl exited)
      · rcases forked_snoc.mp forked with before | now
        · rcases remembers pid (.inr before) with tracked | exited
          · exact .inl ⟨rfl, .inl tracked⟩
          · exact .inr (.inl exited)
        · exact .inl ⟨rfl, .inr (.inr now)⟩

theorem handleAll_remembersForks (name : UInt64 → Option String) (root : Pid)
    (followForks : Bool) {deliveries : List Delivery}
    (success : (handleAll name (.postSpawn root followForks) deliveries).result = .ok ()) :
    RemembersForks root deliveries
      (handleAll name (.postSpawn root followForks) deliveries).state :=
  Machine.run_preserves (RemembersForks root) (fun _ _ => True)
    (remembersForks_postSpawn root followForks)
    (fun _ delivery _ _ held _ => held.step name delivery) (fun _ _ _ _ => trivial) success

/-- `run` never returns `Ok` while a traced process is alive: by then the exit
status of the root and of everything transitively created from it has been
handled, in whatever order the statuses came. -/
theorem run_ok_reaps_tree (name : UInt64 → Option String) (creates : Pid → Pid → Prop)
    (root : Pid) (followForks : Bool) (resumed : Except Errno Unit) (answers : List WaitAnswer)
    (forksFirst : Machine.Conforms (ForksBeforeExit creates) (statusesOf answers))
    (echildLast : ∀ seen rest, answers = seen ++ .errno .ECHILD :: rest →
      ∀ pid, Relation.ReflTransGen creates root pid → Exited pid (statusesOf seen))
    (success : ((Tracer.postSpawn root followForks).run name resumed answers).returned =
      some (.ok ())) :
    ∀ pid, Relation.ReflTransGen creates root pid →
      Exited pid ((Tracer.postSpawn root followForks).run name resumed answers).delivered := by
  obtain ⟨handled, final, cause, delivered⟩ := Tracer.run_ended success
  intro pid descends
  rcases cause with empty | ⟨seen, rest, split, same⟩
  · have remembers := handleAll_remembersForks name root followForks handled
    rw [final] at remembers
    have gone : ∀ other, other = root ∨ Forked other
        ((Tracer.postSpawn root followForks).run name resumed answers).delivered →
        Exited other ((Tracer.postSpawn root followForks).run name resumed answers).delivered := by
      intro other known
      rcases remembers other known with tracked | exited
      · rw [empty] at tracked
        exact absurd tracked Finmap.notMem_empty
      · exact exited
    obtain ⟨undelivered, whole⟩ := delivered
    rw [← whole] at forksFirst
    induction descends with
    | refl => exact gone root (.inl rfl)
    | @tail parent child _ created parentExited =>
        apply gone child
        obtain ⟨exit, member, exits⟩ := parentExited
        obtain ⟨before, after, position⟩ := List.append_of_mem member
        obtain ⟨event, earlier, forks⟩ :=
          forksFirst.initial before exit after position parent child created exits
        refine .inr ⟨event, ?_, parent, forks⟩
        rw [position]
        exact List.mem_append_left _ earlier
  · rw [same]
    exact echildLast seen rest split pid descends

/-- A child that stops before its parent's fork event arrives, and outlives it. -/
def childOutlivesParent : List WaitAnswer :=
  [.status (.granted (.stopped 200 .SIGSTOP) 0 0 1 0), .status (forksChild 2),
    .status (.granted (.exited 100 0) 0 0 3 0), .errno .EINTR,
    .status (.granted (.exited 200 0) 0 0 4 0)]

theorem run_ok_reaps_tree_childOutlivesParent :
    Exited 100 ((Tracer.postSpawn 100 false).run (fun _ => none) (.ok ())
        childOutlivesParent).delivered ∧
      Exited 200 ((Tracer.postSpawn 100 false).run (fun _ => none) (.ok ())
        childOutlivesParent).delivered := by
  have forksFirst : Machine.Conforms
      (ForksBeforeExit fun parent child => parent = 100 ∧ child = 200)
      (statusesOf childOutlivesParent) := by
    have before : Machine.Conforms
        (fun seen delivery => delivery.status.isExitOf 100 = true →
          ∃ earlier ∈ seen, earlier.ForksTo 100 200) (statusesOf childOutlivesParent) := by
      decide
    intro seen delivery rest split parent child created exits
    obtain ⟨rfl, rfl⟩ := created
    exact before seen delivery rest split exits
  have reaped := run_ok_reaps_tree (fun _ => none) (fun parent child => parent = 100 ∧ child = 200)
    100 false (.ok ()) childOutlivesParent forksFirst ?_ rfl
  · exact ⟨reaped 100 .refl, reaped 200 (.single ⟨rfl, rfl⟩)⟩
  · intro seen rest split
    have member : WaitAnswer.errno .ECHILD ∈ childOutlivesParent := by
      rw [split]
      simp
    simp [childOutlivesParent, Errno.ECHILD, Errno.EINTR] at member

def TracksAlive (seen : List Delivery) (tracer : Tracer) : Prop :=
  ∀ pid ∈ tracer.tracees, ¬ Exited pid seen

theorem tracksAlive_postSpawn (root : Pid) (followForks : Bool) :
    TracksAlive [] (.postSpawn root followForks) := by
  intro pid _ exited
  obtain ⟨_, member, _⟩ := exited
  cases member

theorem TracksAlive.step (name : UInt64 → Option String) {seen : List Delivery}
    {tracer : Tracer} {delivery : Delivery} (exitLast : ExitLast seen delivery)
    (namesAlive : NamesAlive seen delivery) (alive : TracksAlive seen tracer) :
    TracksAlive (seen ++ [delivery]) (handleStatus name tracer delivery).state := by
  intro pid tracked
  rw [mem_handleStatus] at tracked
  obtain ⟨stays, cause⟩ := tracked
  rw [exited_snoc, stays]
  intro exited
  have before : Exited pid seen := by simpa using exited
  rcases cause with tracked | ordinary | ⟨parent, forks⟩
  · exact alive pid tracked before
  · exact exitLast pid (WaitStatus.pid?_of_isOrdinaryStopOf ordinary) before
  · exact namesAlive parent pid forks before

theorem handleAll_tracksAlive (name : UInt64 → Option String) (root : Pid) (followForks : Bool)
    {deliveries : List Delivery} (exitLast : Machine.Conforms ExitLast deliveries)
    (namesAlive : Machine.Conforms NamesAlive deliveries)
    (success : (handleAll name (.postSpawn root followForks) deliveries).result = .ok ()) :
    TracksAlive deliveries (handleAll name (.postSpawn root followForks) deliveries).state :=
  Machine.run_preserves TracksAlive
    (fun seen delivery => ExitLast seen delivery ∧ NamesAlive seen delivery)
    (tracksAlive_postSpawn root followForks)
    (fun _ _ _ legal held _ => held.step name legal.1 legal.2)
    (fun seen delivery rest split =>
      ⟨exitLast seen delivery rest split, namesAlive seen delivery rest split⟩) success

def TracksTold (root : Pid) (seen : List Delivery) (tracer : Tracer) : Prop :=
  ∀ pid ∈ tracer.tracees, ToldOf root pid seen

theorem handleAll_tracksTold (name : UInt64 → Option String) (root : Pid) (followForks : Bool)
    {deliveries : List Delivery}
    (success : (handleAll name (.postSpawn root followForks) deliveries).result = .ok ()) :
    TracksTold root deliveries (handleAll name (.postSpawn root followForks) deliveries).state := by
  refine Machine.run_preserves (TracksTold root) (fun _ _ => True) ?_ ?_
    (fun _ _ _ _ => trivial) success
  · intro pid tracked
    left
    simpa [Tracer.postSpawn, Finmap.notMem_empty] using tracked
  · intro seen delivery tracer _ told _ pid tracked
    rw [mem_handleStatus] at tracked
    obtain ⟨_, cause⟩ := tracked
    rcases cause with tracked | ordinary | forks
    · rcases told pid tracked with same | forked | ⟨earlier, member, own⟩
      · exact .inl same
      · exact .inr (.inl (forked_snoc.mpr (.inl forked)))
      · exact .inr (.inr ⟨earlier, List.mem_append_left _ member, own⟩)
    · exact .inr (.inr ⟨delivery, by simp, WaitStatus.pid?_of_isOrdinaryStopOf ordinary⟩)
    · exact .inr (.inl (forked_snoc.mpr (.inr forks)))

theorem handleAll_empty (name : UInt64 → Option String) (root : Pid) (followForks : Bool)
    {deliveries : List Delivery} (exitLast : Machine.Conforms ExitLast deliveries)
    (namesAlive : Machine.Conforms NamesAlive deliveries)
    (success : (handleAll name (.postSpawn root followForks) deliveries).result = .ok ())
    (allExited : ∀ pid, ToldOf root pid deliveries → Exited pid deliveries) :
    (handleAll name (.postSpawn root followForks) deliveries).state.tracees = ∅ := by
  apply Finmap.ext_lookup
  intro pid
  rw [Finmap.lookup_empty, Finmap.lookup_eq_none]
  intro tracked
  exact handleAll_tracksAlive name root followForks exitLast namesAlive success pid tracked
    (allExited pid (handleAll_tracksTold name root followForks success pid tracked))

/-- The tracked set never holds a dead process if and only if no fork event
names a process that has already exited; and then nothing is left to track, nor
for `Drop` to detach, once every process has exited. -/
theorem handleAll_tracksAlive_iff (name : UInt64 → Option String) (root : Pid)
    (followForks : Bool) (deliveries : List Delivery)
    (exitLast : Machine.Conforms ExitLast deliveries)
    (success : (handleAll name (.postSpawn root followForks) deliveries).result = .ok ()) :
    ((∀ seen rest, deliveries = seen ++ rest →
        TracksAlive seen (handleAll name (.postSpawn root followForks) seen).state) ↔
      Machine.Conforms NamesAlive deliveries) ∧
    (Machine.Conforms NamesAlive deliveries →
      ((∀ pid, ToldOf root pid deliveries → Exited pid deliveries) →
        (handleAll name (.postSpawn root followForks) deliveries).state.tracees = ∅) ∧
      ∀ resumed answers,
        ((Tracer.postSpawn root followForks).run name resumed answers).delivered = deliveries →
        ((Tracer.postSpawn root followForks).run name resumed answers).returned = some (.ok ()) →
        (∀ seen rest, answers = seen ++ .errno .ECHILD :: rest →
          ∀ pid, ToldOf root pid (statusesOf seen) → Exited pid (statusesOf seen)) →
        ((Tracer.postSpawn root followForks).run name resumed answers).tracer.dropTargets = ∅) := by
  refine ⟨⟨?_, ?_⟩, ?_⟩
  · intro alive seen delivery rest split parent child forks exited
    have position : deliveries = (seen ++ [delivery]) ++ rest := by simp [split]
    have before : (handleAll name (.postSpawn root followForks) seen).result = .ok () := by
      rw [split] at success
      exact Machine.run_initial_ok success
    have dead := alive (seen ++ [delivery]) rest position child
    rw [handleAll, Machine.run_snoc before] at dead
    refine dead ?_ (exited.append [delivery])
    rw [mem_handleStatus]
    obtain ⟨signal, event, status⟩ := forks.status
    exact ⟨by rw [status]; rfl, .inr (.inr ⟨parent, forks⟩)⟩
  · intro namesAlive seen rest split
    subst split
    exact handleAll_tracksAlive name root followForks exitLast.initial namesAlive.initial
      (Machine.run_initial_ok success)
  · intro namesAlive
    refine ⟨handleAll_empty name root followForks exitLast namesAlive success, ?_⟩
    intro resumed answers delivers returned echildLast
    obtain ⟨_, final, cause, _⟩ := Tracer.run_ended returned
    rw [delivers] at final
    have empty : ((Tracer.postSpawn root followForks).run name resumed answers).tracer.tracees =
        ∅ := by
      rcases cause with empty | ⟨seen, rest, split, same⟩
      · exact empty
      · rw [← final]
        apply handleAll_empty name root followForks exitLast namesAlive success
        rw [← delivers, same]
        exact echildLast seen rest split
    rw [Tracer.dropTargets, empty, Finmap.keys_empty]

theorem handleAll_tracksAlive_iff_childOutlivesParent :
    ((∀ seen rest, statusesOf childOutlivesParent = seen ++ rest →
        TracksAlive seen (handleAll (fun _ => none) (.postSpawn 100 false) seen).state) ↔
      Machine.Conforms NamesAlive (statusesOf childOutlivesParent)) ∧
    (Machine.Conforms NamesAlive (statusesOf childOutlivesParent) →
      ((∀ pid, ToldOf 100 pid (statusesOf childOutlivesParent) →
          Exited pid (statusesOf childOutlivesParent)) →
        (handleAll (fun _ => none) (.postSpawn 100 false)
          (statusesOf childOutlivesParent)).state.tracees = ∅) ∧
      ∀ resumed answers,
        ((Tracer.postSpawn 100 false).run (fun _ => none) resumed answers).delivered =
          statusesOf childOutlivesParent →
        ((Tracer.postSpawn 100 false).run (fun _ => none) resumed answers).returned =
          some (.ok ()) →
        (∀ seen rest, answers = seen ++ .errno .ECHILD :: rest →
          ∀ pid, ToldOf 100 pid (statusesOf seen) → Exited pid (statusesOf seen)) →
        ((Tracer.postSpawn 100 false).run (fun _ => none) resumed answers).tracer.dropTargets =
          ∅) :=
  handleAll_tracksAlive_iff (fun _ => none) 100 false (statusesOf childOutlivesParent)
    (by decide) rfl

/-- A short-lived child whose exit overtakes its parent's fork event. -/
def exitOvertakesFork : List Delivery :=
  [.granted (.stopped 200 .SIGSTOP) 0 0 1 0, .granted (.exited 200 0) 0 0 2 0, forksChild 3,
    .granted (.exited 100 0) 0 0 4 0]

/-- The dead child stays tracked, so `run` returns `Ok` with work left for `Drop`. -/
theorem exitOvertakesFork_tracked :
    Machine.Conforms ExitLast exitOvertakesFork ∧
      (handleAll (fun _ => none) (.postSpawn 100 false) exitOvertakesFork).result = .ok () ∧
      ¬ TracksAlive exitOvertakesFork
        (handleAll (fun _ => none) (.postSpawn 100 false) exitOvertakesFork).state ∧
      ((Tracer.postSpawn 100 false).run (fun _ => none) (.ok ())
        (exitOvertakesFork.map .status ++ [.errno .ECHILD])).returned = some (.ok ()) ∧
      ((Tracer.postSpawn 100 false).run (fun _ => none) (.ok ())
        (exitOvertakesFork.map .status ++ [.errno .ECHILD])).tracer.dropTargets = {200} := by
  refine ⟨by decide, rfl, ?_, rfl, rfl⟩
  intro alive
  exact alive 200 (by decide) (by decide)

end Loi.Core
