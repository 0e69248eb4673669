import Loi.Core.Pairing
import Loi.Core.RunLoop

/-! The events of all processes in one stream. The kernel's history of the whole traced
tree says which syscall every status completes; the tracer, which knows of no history,
emits the same calls in the same order. -/

set_option autoImplicit false

namespace Loi.Core

open Nix Foundation

/-- The syscall that a status completes, with its process, if it is one to report. -/
def completes (root : Pid) (followForks : Bool) (seen : List Delivery) (delivery : Delivery) :
    List (Pid × Syscall) :=
  match delivery.status.pid? with
  | none => []
  | some pid =>
      (reportedCalls (decide (pid = root) || followForks)
        ((timeline root pid (ownDeliveries pid seen)).finishes delivery)).map (Prod.mk pid)

/-- The syscalls of the traced tree in the order of their exit stops. -/
def systemTrace (root : Pid) (followForks : Bool) (deliveries : List Delivery) :
    List (Pid × Syscall) :=
  (deliveries.foldl (fun (seen, trace) delivery =>
    (seen ++ [delivery], trace ++ completes root followForks seen delivery)) ([], [])).2

/-- A status that the kernel may deliver behind the others: an exec event stands between
the two stops of its `execve`, whatever the other processes do in between. -/
def SystemLegal (root : Pid) (seen : List Delivery) (delivery : Delivery) : Prop :=
  ∀ pid ∈ delivery.status.pid?, KernelLegal root pid (ownDeliveries pid seen) delivery

instance (root : Pid) (seen : List Delivery) (delivery : Delivery) :
    Decidable (SystemLegal root seen delivery) :=
  Option.decidableForallMem _

theorem systemTrace_snoc (root : Pid) (followForks : Bool) (seen : List Delivery)
    (delivery : Delivery) :
    systemTrace root followForks (seen ++ [delivery]) =
      systemTrace root followForks seen ++ completes root followForks seen delivery := by
  have history : ∀ deliveries : List Delivery, (deliveries.foldl (fun (seen, trace) delivery =>
      (seen ++ [delivery], trace ++ completes root followForks seen delivery)) ([], [])).1 =
      deliveries := by
    intro deliveries
    induction deliveries using List.reverseRecOn with
    | nil => rfl
    | append_singleton before last ih => simp [List.foldl_append, ih]
  simp [systemTrace, List.foldl_append, history]

theorem ownDeliveries_snoc_self {pid : Pid} {seen : List Delivery} {delivery : Delivery}
    (own : delivery.status.pid? = some pid) :
    ownDeliveries pid (seen ++ [delivery]) = ownDeliveries pid seen ++ [delivery] := by
  simp [ownDeliveries, List.filter_append, own]

theorem ownDeliveries_snoc_other {pid : Pid} {seen : List Delivery} {delivery : Delivery}
    (other : delivery.status.pid? ≠ some pid) :
    ownDeliveries pid (seen ++ [delivery]) = ownDeliveries pid seen := by
  simp [ownDeliveries, List.filter_append, other]

/-- The calls of one process in a trace. -/
def callsOf (pid : Pid) (trace : List (Pid × Syscall)) : List Syscall :=
  trace.filterMap fun call => if call.1 = pid then some call.2 else none

theorem callsOf_cons (pid : Pid) (call : Pid × Syscall) (trace : List (Pid × Syscall)) :
    callsOf pid (call :: trace) =
      (if call.1 = pid then [call.2] else []) ++ callsOf pid trace := by
  by_cases mine : call.1 = pid <;> simp [callsOf, mine]

theorem callsOf_map (pid owner : Pid) (syscalls : List Syscall) :
    callsOf pid (syscalls.map (Prod.mk owner)) = if owner = pid then syscalls else [] := by
  unfold callsOf
  rw [List.filterMap_map]
  by_cases same : owner = pid <;> simp [same]

/-- One trace holds the timelines of all processes, each as the kernel has it. -/
theorem systemTrace_callsOf (root pid : Pid) (followForks : Bool) (deliveries : List Delivery) :
    callsOf pid (systemTrace root followForks deliveries) =
      reportedCalls (decide (pid = root) || followForks)
        (completedSyscalls root pid deliveries) := by
  induction deliveries using List.reverseRecOn with
  | nil => simp [systemTrace, callsOf, completedSyscalls, ownDeliveries, timeline]
  | append_singleton seen delivery ih =>
      rw [systemTrace_snoc]
      have split : ∀ left right, callsOf pid (left ++ right) =
          callsOf pid left ++ callsOf pid right := fun _ _ => List.filterMap_append
      rw [split, ih]
      unfold completedSyscalls
      by_cases own : delivery.status.pid? = some pid
      · rw [ownDeliveries_snoc_self own, timeline_snoc]
        simp only [Timeline.next, reportedCalls_append, completes, own, callsOf_map, if_true]
      · rw [ownDeliveries_snoc_other own]
        have nothing : callsOf pid (completes root followForks seen delivery) = [] := by
          unfold completes
          cases owner : delivery.status.pid? with
          | none => rfl
          | some other =>
              have different : other ≠ pid := by
                rintro rfl
                exact own owner
              simp only [callsOf_map, different, if_false]
        rw [nothing, List.append_nil]

/-- The status that completes a call is its exit stop, the last one of its process. -/
theorem completes_exit {root : Pid} {followForks : Bool} {seen : List Delivery}
    {delivery : Delivery} {call : Pid × Syscall}
    (member : call ∈ completes root followForks seen delivery) :
    delivery.status.pid? = some call.1 ∧ call.2.exit = delivery ∧
      call.2.exitAt = (ownDeliveries call.1 seen).length := by
  unfold completes at member
  split at member
  · cases member
  · next pid owner =>
      obtain ⟨syscall, reported, rfl⟩ := List.mem_map.mp member
      have finished : syscall ∈
          (timeline root pid (ownDeliveries pid seen)).finishes delivery := by
        unfold reportedCalls at reported
        split at reported
        · exact List.mem_of_mem_filter reported
        · cases reported
      rcases (timeline root pid (ownDeliveries pid seen)).finishes_cases delivery with
        none | ⟨_, _, _, _, _, _, one⟩
      · rw [none] at finished
        cases finished
      · rw [one] at finished
        rw [List.mem_singleton.mp finished]
        exact ⟨owner, rfl, timeline_length root pid _⟩

theorem systemTrace_exit_mem {root : Pid} {followForks : Bool} {deliveries : List Delivery}
    {call : Pid × Syscall} (member : call ∈ systemTrace root followForks deliveries) :
    call.2.exit ∈ deliveries := by
  induction deliveries using List.reverseRecOn with
  | nil => cases member
  | append_singleton seen delivery ih =>
      rw [systemTrace_snoc] at member
      rcases List.mem_append.mp member with old | new
      · exact List.mem_append_left _ (ih old)
      · rw [(completes_exit new).2.1]
        exact List.mem_append_right _ (List.mem_singleton_self _)

/-- The tracer against the history: for every process, its entry is what the kernel's
position requires. -/
structure InStep (root : Pid) (followForks : Bool) (seen : List Delivery) (tracer : Tracer) :
    Prop where
  follows : ∀ pid, Follows root followForks pid seen tracer
  agrees : ∀ pid, Agrees (tracer.entryOrNewChild pid)
    (timeline root pid (ownDeliveries pid seen)).position

theorem inStep_postSpawn (root : Pid) (followForks : Bool) :
    InStep root followForks [] (.postSpawn root followForks) := by
  refine ⟨fun pid => follows_postSpawn root pid followForks, fun pid => ?_⟩
  rw [Tracer.entryOrNewChild_postSpawn]
  exact initial_agrees root pid

/-- The event reports the call of the trace. -/
def ReportsCall (name : UInt64 → Option String) (call : Pid × Syscall) (event : SyscallEvent) :
    Prop :=
  call.2.Reports name call.1 event

theorem reportsCall_map {name : UInt64 → Option String} {pid : Pid} {syscalls : List Syscall}
    {events : List SyscallEvent} (reports : List.Forall₂ (Syscall.Reports name pid) syscalls events) :
    List.Forall₂ (ReportsCall name) (syscalls.map (Prod.mk pid)) events :=
  List.forall₂_map_left_iff.mpr reports

/-- What one status does to the whole tracer, next to what the kernel knows of it. -/
structure StatusTraced (name : UInt64 → Option String) (root : Pid) (followForks : Bool)
    (seen : List Delivery) (delivery : Delivery) (handled : Handled) : Prop where
  ok : handled.result = .ok () → InStep root followForks (seen ++ [delivery]) handled.state ∧
    List.Forall₂ (ReportsCall name) (completes root followForks seen delivery)
      (sunk handled.outputs)
  cut : ∃ calls, calls <+: completes root followForks seen delivery ∧
    List.Forall₂ (ReportsCall name) calls (sunk handled.outputs)

/-- A status that the kernel may deliver finds its process in step, and leaves every
process in step. -/
theorem InStep.step (name : UInt64 → Option String) {root : Pid} {followForks : Bool}
    {seen : List Delivery} {tracer : Tracer} {delivery : Delivery}
    (inStep : InStep root followForks seen tracer) (legal : SystemLegal root seen delivery) :
    StatusTraced name root followForks seen delivery (handleStatus name tracer delivery) := by
  have follows := fun pid => (inStep.follows pid).step name delivery
  have others : ∀ pid, delivery.status.pid? ≠ some pid →
      Agrees ((handleStatus name tracer delivery).state.entryOrNewChild pid)
        (timeline root pid (ownDeliveries pid (seen ++ [delivery]))).position := by
    intro pid other
    rw [handleStatus_other name tracer other, ownDeliveries_snoc_other other]
    exact inStep.agrees pid
  cases owner : delivery.status.pid? with
  | none =>
      have silent : sunk (handleStatus name tracer delivery).outputs = [] := by
        have none : (handleStatus name tracer delivery).outputs = [] := by
          apply List.eq_nil_iff_forall_not_mem.mpr
          intro effect member
          rw [handleStatus_effects_pid name tracer delivery effect member] at owner
          cases owner
        rw [none, sunk_nil]
      have nothing : completes root followForks seen delivery = [] := by
        simp [completes, owner]
      refine ⟨fun _ => ⟨⟨follows, fun pid => others pid (by simp [owner])⟩, ?_⟩, [], ?_, ?_⟩
      · rw [nothing, silent]
        exact .nil
      · exact List.nil_prefix
      · rw [silent]
        exact .nil
  | some pid =>
      have kernel := legal pid owner
      have tracked : delivery.status.isExecOf pid = true →
          (tracer.tracees.lookup pid).isSome = true := by
        intro execs
        obtain ⟨entryAt, entry, position⟩ := kernel execs
        obtain ⟨status, member, ordinary⟩ :=
          ordinaryStop_of_open (allOf_ownDeliveries pid seen) (.inl position)
        exact (inStep.follows pid).tracked
          (.inr ⟨status, thisLife_own pid seen ▸ member, ordinary⟩)
      obtain ⟨state, outputs, result⟩ := handleStatus_actsAs name tracer owner tracked
      have reports : tracer.reports pid = (decide (pid = root) || followForks) := by
        simp [Tracer.reports, (inStep.follows pid).rootPid, (inStep.follows pid).followForks]
      rw [reports] at state outputs result
      have stop := processStatus_agrees name (decide (pid = root) || followForks) delivery owner
        kernel (inStep.agrees pid)
      have here : completes root followForks seen delivery =
          (reportedCalls (decide (pid = root) || followForks)
            ((timeline root pid (ownDeliveries pid seen)).finishes delivery)).map (Prod.mk pid) := by
        simp [completes, owner]
      constructor
      · intro success
        rw [result] at success
        obtain ⟨next, sunk⟩ := stop.ok success
        refine ⟨⟨follows, fun other => ?_⟩, ?_⟩
        · by_cases own : delivery.status.pid? = some other
          · obtain rfl : pid = other := Option.some.inj (owner.symm.trans own)
            rw [state, ownDeliveries_snoc_self own, timeline_snoc]
            exact next
          · exact others other own
        · rw [here, outputs]
          exact reportsCall_map sunk
      · obtain ⟨syscalls, initial, sunk⟩ := stop.cut
        refine ⟨syscalls.map (Prod.mk pid), ?_, ?_⟩
        · rw [here]
          exact initial.map _
        · rw [outputs]
          exact reportsCall_map sunk

theorem handleAll_inStep (name : UInt64 → Option String) {root : Pid} {followForks : Bool}
    {deliveries : List Delivery} (legal : Machine.Conforms (SystemLegal root) deliveries)
    (success : (handleAll name (.postSpawn root followForks) deliveries).result = .ok ()) :
    InStep root followForks deliveries
      (handleAll name (.postSpawn root followForks) deliveries).state :=
  Machine.run_preserves (InStep root followForks) (SystemLegal root)
    (inStep_postSpawn root followForks)
    (fun _ _ _ legal inStep reacted => ((inStep.step name legal).ok reacted).1) legal success

theorem completes_length (root : Pid) (followForks : Bool) (seen : List Delivery)
    (delivery : Delivery) : (completes root followForks seen delivery).length ≤ 1 := by
  unfold completes
  split
  · exact Nat.zero_le _
  · next pid _ =>
      rw [List.length_map]
      have single : ((timeline root pid (ownDeliveries pid seen)).finishes delivery).length ≤ 1 := by
        rcases (timeline root pid (ownDeliveries pid seen)).finishes_cases delivery with
          none | ⟨_, _, _, _, _, _, one⟩
        · rw [none]
          exact Nat.zero_le _
        · rw [one]
          exact Nat.le_refl _
      unfold reportedCalls
      split
      · exact (List.length_filter_le _ _).trans single
      · exact Nat.zero_le _

section Tags

variable {Tag : Type}

/-- The events of a log, each with the tag of its status. -/
def observations (tags : List Tag) (log : List (List Effect)) : List (Tag × SyscallEvent) :=
  (tags.zip log).flatMap fun (tag, outputs) => (sunk outputs).map (Prod.mk tag)

@[simp] theorem observations_nil (tags : List Tag) : observations tags [] = [] := by
  simp [observations]

@[simp] theorem observations_cons (tag : Tag) (tags : List Tag) (outputs : List Effect)
    (log : List (List Effect)) :
    observations (tag :: tags) (outputs :: log) =
      (sunk outputs).map (Prod.mk tag) ++ observations tags log := rfl

theorem observations_events {tags : List Tag} {log : List (List Effect)}
    (enough : log.length ≤ tags.length) :
    (observations tags log).map Prod.snd = sunk log.flatten := by
  induction log generalizing tags with
  | nil => simp
  | cons outputs log ih =>
      cases tags with
      | nil => cases enough
      | cons tag tags =>
          rw [observations_cons, List.map_append, ih (Nat.le_of_succ_le_succ enough),
            List.flatten_cons, sunk_append, List.map_map]
          congr 1
          exact List.map_id _

/-- The statuses of a process, each with its tag. -/
def viewsOf (pid : Pid) (tags : List Tag) (delivered : List Delivery) : List (Tag × Delivery) :=
  (tags.zip delivered).filter fun view => view.2.status.pid? = some pid

theorem zip_initial {Item : Type} (tags : List Tag) (items more : List Item) :
    tags.zip items <+: tags.zip (items ++ more) := by
  induction items generalizing tags with
  | nil =>
      rw [List.zip_nil_right]
      exact List.nil_prefix
  | cons item items ih =>
      cases tags with
      | nil => exact List.nil_prefix
      | cons tag tags => exact (List.prefix_cons_inj _).mpr (ih tags)

theorem zip_snoc {Item : Type} {tags : List Tag} {tag : Tag} {items : List Item} (item : Item)
    (found : tags[items.length]? = some tag) :
    tags.zip (items ++ [item]) = tags.zip items ++ [(tag, item)] := by
  induction items generalizing tags with
  | nil =>
      cases tags with
      | nil => cases found
      | cons first tags =>
          obtain rfl : first = tag := by simpa using found
          simp
  | cons first items ih =>
      cases tags with
      | nil => cases found
      | cons other tags =>
          have later : tags[items.length]? = some tag := by simpa using found
          rw [List.cons_append, List.zip_cons_cons, ih later, List.zip_cons_cons, List.cons_append]

theorem viewsOf_length (pid : Pid) {tags : List Tag} {delivered : List Delivery}
    (enough : delivered.length ≤ tags.length) :
    (viewsOf pid tags delivered).length = (ownDeliveries pid delivered).length := by
  have statuses : (viewsOf pid tags delivered).map Prod.snd = ownDeliveries pid delivered := by
    unfold viewsOf ownDeliveries
    rw [← List.map_snd_zip enough, List.filter_map, List.map_snd_zip enough]
    rfl
  rw [← statuses, List.length_map]

/-- The event reports the call, and has the tag of the call's own exit stop. -/
structure Observes (name : UInt64 → Option String) (tags : List Tag) (delivered : List Delivery)
    (call : Pid × Syscall) (observation : Tag × SyscallEvent) : Prop where
  reports : ReportsCall name call observation.2
  atExit : (viewsOf call.1 tags delivered)[call.2.exitAt]? = some (observation.1, call.2.exit)

section Step

variable {name : UInt64 → Option String} {root : Pid} {followForks : Bool} {tags : List Tag}
  {seen : List Delivery} {delivery : Delivery}

theorem Observes.append {call : Pid × Syscall} {observation : Tag × SyscallEvent}
    (observes : Observes name tags seen call observation) (more : List Delivery) :
    Observes name tags (seen ++ more) call observation := by
  refine ⟨observes.reports, ?_⟩
  obtain ⟨bound, found⟩ := List.getElem?_eq_some_iff.mp observes.atExit
  have earlier : viewsOf call.1 tags seen <+: viewsOf call.1 tags (seen ++ more) :=
    (zip_initial tags seen more).filter _
  rw [List.prefix_iff_getElem?.mp earlier _ bound, found]

/-- The calls that a status completes are observed with its tag. -/
theorem completes_observes {tag : Tag} (found : tags[seen.length]? = some tag)
    {call : Pid × Syscall} (member : call ∈ completes root followForks seen delivery)
    {event : SyscallEvent} (reports : ReportsCall name call event) :
    Observes name tags (seen ++ [delivery]) call (tag, event) := by
  obtain ⟨own, exit, exitAt⟩ := completes_exit member
  have enough : seen.length ≤ tags.length :=
    Nat.le_of_lt (List.getElem?_eq_some_iff.mp found).1
  have views : viewsOf call.1 tags (seen ++ [delivery]) =
      viewsOf call.1 tags seen ++ [(tag, delivery)] := by
    unfold viewsOf
    rw [zip_snoc delivery found, List.filter_append]
    simp [own]
  refine ⟨reports, ?_⟩
  rw [views, exit, exitAt, ← viewsOf_length call.1 enough]
  simp

/-- One more status adds to what was observed the calls that it is known to complete. -/
theorem observations_step {log : List (List Effect)} {outputs : List Effect}
    {trace calls : List (Pid × Syscall)} (bound : seen.length < tags.length)
    (handled : log.length = seen.length)
    (observed : List.Forall₂ (Observes name tags seen) trace (observations tags log))
    (initial : calls <+: completes root followForks seen delivery)
    (reports : List.Forall₂ (ReportsCall name) calls (sunk outputs)) :
    List.Forall₂ (Observes name tags (seen ++ [delivery])) (trace ++ calls)
      (observations tags (log ++ [outputs])) := by
  obtain ⟨tag, found⟩ : ∃ tag, tags[seen.length]? = some tag :=
    ⟨_, List.getElem?_eq_getElem bound⟩
  have snoc : observations tags (log ++ [outputs]) =
      observations tags log ++ (sunk outputs).map (Prod.mk tag) := by
    unfold observations
    rw [zip_snoc outputs (handled ▸ found), List.flatMap_append, List.flatMap_singleton]
  rw [snoc]
  refine List.rel_append (observed.imp fun _ _ observes => observes.append [delivery]) ?_
  rw [List.forall₂_map_right_iff]
  exact ((List.forall₂_and_left _ _).mpr ⟨fun call member => initial.subset member, reports⟩).imp
    fun _ _ pair => completes_observes found pair.1 pair.2

end Step

theorem handleAll_traced (name : UInt64 → Option String) {root : Pid} {followForks : Bool}
    {tags : List Tag} {deliveries : List Delivery}
    (legal : Machine.Conforms (SystemLegal root) deliveries)
    (success : (handleAll name (.postSpawn root followForks) deliveries).result = .ok ())
    (enough : deliveries.length ≤ tags.length) :
    List.Forall₂ (Observes name tags deliveries) (systemTrace root followForks deliveries)
      (observations tags (handleAll name (.postSpawn root followForks) deliveries).log) := by
  induction deliveries using List.reverseRecOn with
  | nil =>
      rw [handleAll, Machine.run_nil, observations_nil]
      exact .nil
  | append_singleton seen delivery ih =>
      obtain ⟨before, reacted⟩ := Machine.run_snoc_ok success
      have inStep := handleAll_inStep name legal.initial before
      rw [List.length_append, List.length_singleton] at enough
      rw [handleAll, Machine.run_snoc before, systemTrace_snoc]
      exact observations_step enough (Machine.run_log_length before)
        (ih legal.initial before (Nat.le_of_succ_le enough)) List.prefix_rfl
        ((inStep.step name legal.last).ok reacted).2

/-- A run is cut short by its last status at most: everything before it is reported. -/
theorem handleAll_traced_last (name : UInt64 → Option String) {root : Pid} {followForks : Bool}
    {tags : List Tag} {seen : List Delivery} {delivery : Delivery}
    (legal : Machine.Conforms (SystemLegal root) (seen ++ [delivery]))
    (before : (handleAll name (.postSpawn root followForks) seen).result = .ok ())
    (enough : (seen ++ [delivery]).length ≤ tags.length) :
    ∃ calls, calls <+: completes root followForks seen delivery ∧
      List.Forall₂ (Observes name tags (seen ++ [delivery]))
        (systemTrace root followForks seen ++ calls)
        (observations tags
          (handleAll name (.postSpawn root followForks) (seen ++ [delivery])).log) := by
  obtain ⟨calls, initial, reports⟩ :=
    ((handleAll_inStep name legal.initial before).step name legal.last).cut
  refine ⟨calls, initial, ?_⟩
  rw [List.length_append, List.length_singleton] at enough
  rw [handleAll, Machine.run_snoc before]
  exact observations_step enough (Machine.run_log_length before)
    (handleAll_traced name legal.initial before (Nat.le_of_succ_le enough)) initial reports

/-- A whole run of the loop reports an initial part of the history of what it has been
delivered: all of it, unless its last status failed. -/
theorem Tracer.run_observed (name : UInt64 → Option String) (root : Pid) (followForks : Bool)
    (resumed : Except Errno Unit) (answers : List WaitAnswer)
    (legal : Machine.Conforms (SystemLegal root) (statusesOf answers))
    {run : TracerRun} (ran : (Tracer.postSpawn root followForks).run name resumed answers = run)
    {tags : List Tag} (enough : run.delivered.length ≤ tags.length) :
    ∃ calls, calls <+: systemTrace root followForks run.delivered ∧
      List.Forall₂ (Observes name tags run.delivered) calls (observations tags
        (handleAll name (.postSpawn root followForks) run.delivered).log) ∧
      (systemTrace root followForks run.delivered).length ≤ calls.length + 1 ∧
      ((∀ error, run.returned ≠ some (.error error)) →
        calls = systemTrace root followForks run.delivered) := by
  obtain ⟨loop, handled, same⟩ :=
    Tracer.run_handled name (.postSpawn root followForks) resumed answers
  rw [same] at ran
  subst ran
  dsimp only at enough ⊢
  have legal' : Machine.Conforms (SystemLegal root) loop.delivered := by
    obtain ⟨rest, whole⟩ := handled.delivered
    rw [← whole] at legal
    exact legal.initial
  cases finished : (handleAll name (.postSpawn root followForks) loop.delivered).result with
  | ok =>
      exact ⟨_, List.prefix_rfl, handleAll_traced name legal' finished enough, Nat.le_succ _,
        fun _ => rfl⟩
  | error error =>
      rcases List.eq_nil_or_concat loop.delivered with none | ⟨seen, delivery, split⟩
      · rw [none] at finished
        cases finished
      · rw [List.concat_eq_append] at split
        have before := handled.earlier seen delivery [] split
        rw [split] at legal' enough ⊢
        obtain ⟨calls, initial, reports⟩ := handleAll_traced_last name legal' before enough
        refine ⟨_, ?_, reports, ?_, ?_⟩
        · rw [systemTrace_snoc]
          exact (List.prefix_append_right_inj _).mpr initial
        · rw [systemTrace_snoc, List.length_append, List.length_append]
          have single := completes_length root followForks seen delivery
          omega
        · intro noError
          exact absurd (handled.failed error finished) (noError error)

/-- The sink is called with the events of the run. -/
theorem Tracer.run_observations (name : UInt64 → Option String) (tracer : Tracer)
    (resumed : Except Errno Unit) (answers : List WaitAnswer) {tags : List Tag}
    (enough : (tracer.run name resumed answers).delivered.length ≤ tags.length) :
    (observations tags
        (handleAll name tracer (tracer.run name resumed answers).delivered).log).map Prod.snd =
      sunk (tracer.run name resumed answers).effects := by
  have told : sunk (handleAll name tracer (tracer.run name resumed answers).delivered).outputs =
      sunk (tracer.run name resumed answers).effects := by
    obtain ⟨loop, handled, same⟩ := tracer.run_handled name resumed answers
    rw [same]
    dsimp only
    rw [handled.outputs]
    rfl
  exact (observations_events ((Machine.run_log_length_le _ _ _).trans enough)).trans told

end Tags

theorem Tracer.run_traced (name : UInt64 → Option String) (root : Pid) (followForks : Bool)
    (resumed : Except Errno Unit) (answers : List WaitAnswer)
    (legal : Machine.Conforms (SystemLegal root) (statusesOf answers))
    {run : TracerRun} (ran : (Tracer.postSpawn root followForks).run name resumed answers = run) :
    ∃ calls, calls <+: systemTrace root followForks run.delivered ∧
      List.Forall₂ (ReportsCall name) calls (sunk run.effects) ∧
      (systemTrace root followForks run.delivered).length ≤ calls.length + 1 ∧
      ((∀ error, run.returned ≠ some (.error error)) →
        calls = systemTrace root followForks run.delivered) := by
  obtain ⟨calls, initial, observed, length, whole⟩ :=
    Tracer.run_observed name root followForks resumed answers legal ran (Nat.le_refl _)
  refine ⟨calls, initial, ?_, length, whole⟩
  subst ran
  rw [← Tracer.run_observations name _ resumed answers (Nat.le_refl _)]
  exact List.forall₂_map_right_iff.mpr (observed.imp fun _ _ observes => observes.reports)

/-- The tracer refines the kernel's history of the traced tree. In whatever order the
statuses of the processes come, the sink is called once for each syscall that they
complete, a successful `execve` excepted, in the order of the exit stops of the whole
tree, with the registers and the times of the two stops of that syscall. A run that ends
in an error is missing at most the syscall that its last status completes. -/
theorem run_refines_history (name : UInt64 → Option String) (root : Pid) (followForks : Bool)
    (resumed : Except Errno Unit) (answers : List WaitAnswer)
    (legal : Machine.Conforms (SystemLegal root) (statusesOf answers))
    (run : TracerRun) (ran : (Tracer.postSpawn root followForks).run name resumed answers = run) :
    (∃ calls, calls <+: systemTrace root followForks run.delivered ∧
      List.Forall₂ (ReportsCall name) calls (sunk run.effects) ∧
      (systemTrace root followForks run.delivered).length ≤ calls.length + 1 ∧
      ((∀ error, run.returned ≠ some (.error error)) →
        calls = systemTrace root followForks run.delivered)) ∧
    ∀ pid, callsOf pid (systemTrace root followForks run.delivered) =
      reportedCalls (decide (pid = root) || followForks)
        (completedSyscalls root pid run.delivered) :=
  ⟨Tracer.run_traced name root followForks resumed answers legal ran,
    fun pid => systemTrace_callsOf root pid followForks run.delivered⟩

/-- Two syscalls that overlap: the one of the child begins later and ends first. -/
def overlapping : List WaitAnswer :=
  [.status (.granted (.ptraceSyscall 100) 59 0 1 0), .status (forksChild 2),
    .status (.granted (.stopped 200 .SIGSTOP) 0 0 3 0),
    .status (.granted (.ptraceSyscall 100) 0 0 4 0), .errno .EINTR,
    .status (.granted (.ptraceSyscall 200) 1 0 5 0),
    .status (.granted (.ptraceSyscall 200) 1 9 7 0),
    .status (.granted (.ptraceSyscall 100) 0 3 8 0)]

theorem run_refines_history_overlapping :
    List.Forall₂ (ReportsCall fun _ => none) (systemTrace 100 true (statusesOf overlapping))
        (sunk ((Tracer.postSpawn 100 true).run (fun _ => none) (.ok ()) overlapping).effects) ∧
      (systemTrace 100 true (statusesOf overlapping)).map Prod.fst = [200, 100] := by
  obtain ⟨⟨calls, _, reports, _, whole⟩, _⟩ :=
    run_refines_history (fun _ => none) 100 true (.ok ()) overlapping (by decide) _ rfl
  have running : ((Tracer.postSpawn 100 true).run (fun _ => none) (.ok ()) overlapping).returned =
      none := rfl
  rw [whole (by simp [running])] at reports
  exact ⟨reports, by decide⟩

end Loi.Core
