import Mathlib.Algebra.Ring.Nat
import Loi.Core.Trace

/-! The durations of the events of one process are the lengths of disjoint intervals, so
that together they fit into the time the process was watched for. -/

set_option autoImplicit false

namespace Foundation

/-- Spans that follow one another fit between the bounds that they keep. -/
theorem sum_spans_le {Span : Type} (start stop : Span → Nat) {spans : List Span}
    {low high : Nat} (ordered : spans.Pairwise fun earlier later => stop earlier ≤ start later)
    (between : ∀ span ∈ spans, low ≤ start span ∧ start span ≤ stop span ∧ stop span ≤ high) :
    (spans.map fun span => stop span - start span).sum ≤ high - low := by
  induction spans generalizing low with
  | nil => exact Nat.zero_le _
  | cons span rest ih =>
      obtain ⟨first, later⟩ := List.pairwise_cons.mp ordered
      obtain ⟨above, proper, below⟩ := between span List.mem_cons_self
      have remaining : (rest.map fun span => stop span - start span).sum ≤ high - stop span := by
        apply ih later
        intro other member
        obtain ⟨_, proper, below⟩ := between other (List.mem_cons_of_mem _ member)
        exact ⟨first other member, proper, below⟩
      rw [List.map_cons, List.sum_cons]
      omega

end Foundation

namespace Loi.Core

open Nix Foundation

/-- The clock that the handlers read is monotonic. -/
def ClockRuns (deliveries : List Delivery) : Prop :=
  deliveries.Pairwise fun earlier later => earlier.answers.now ≤ later.answers.now

instance (deliveries : List Delivery) : Decidable (ClockRuns deliveries) :=
  inferInstanceAs (Decidable (List.Pairwise _ _))

theorem ClockRuns.le {stops : List Delivery} (clock : ClockRuns stops) {left right : Nat}
    {earlier later : Delivery} (ordered : left ≤ right) (first : stops[left]? = some earlier)
    (second : stops[right]? = some later) : earlier.answers.now ≤ later.answers.now := by
  obtain ⟨leftBound, rfl⟩ := List.getElem?_eq_some_iff.mp first
  obtain ⟨rightBound, rfl⟩ := List.getElem?_eq_some_iff.mp second
  rcases Nat.eq_or_lt_of_le ordered with rfl | before
  · exact Nat.le_refl _
  · exact List.pairwise_iff_getElem.mp clock left right leftBound rightBound before

/-- The time between the first and the last of some stops. -/
def watchedFor (stops : List Delivery) : Nat :=
  match stops.head?, stops.getLast? with
  | some first, some last => last.answers.now - first.answers.now
  | _, _ => 0

theorem sum_syscalls_le {root pid : Pid} {stops : List Delivery} (clock : ClockRuns stops)
    {syscalls : List Syscall} (occurs : ∀ syscall ∈ syscalls, syscall.Occurs root pid stops)
    (ordered : syscalls.Pairwise fun first second => first.exitAt < second.entryAt) :
    (syscalls.map fun syscall => syscall.exit.answers.now - syscall.entry.answers.now).sum ≤
      watchedFor stops := by
  unfold watchedFor
  cases stops with
  | nil =>
      cases syscalls with
      | nil => exact Nat.zero_le _
      | cons syscall rest => cases (occurs syscall List.mem_cons_self).entry
  | cons first rest =>
      have final : (first :: rest)[(first :: rest).length - 1]? = (first :: rest).getLast? := by
        rw [List.getLast?_eq_getElem?]
      have last := List.getLast?_eq_some_getLast (List.cons_ne_nil first rest)
      rw [last] at final ⊢
      refine sum_spans_le (fun syscall : Syscall => syscall.entry.answers.now)
        (fun syscall => syscall.exit.answers.now) ?_ ?_
      · refine ordered.imp_of_mem ?_
        intro earlier later earlierIn laterIn before
        exact clock.le (Nat.le_of_lt before) (occurs earlier earlierIn).exit
          (occurs later laterIn).entry
      · intro syscall member
        have here := occurs syscall member
        have bound := (List.getElem?_eq_some_iff.mp here.exit).1
        exact ⟨clock.le (Nat.zero_le _) rfl here.entry,
          clock.le (Nat.le_of_lt here.ordered) here.entry here.exit,
          clock.le (by omega) here.exit final⟩

theorem reports_callsOf {name : UInt64 → Option String} (pid : Pid)
    {calls : List (Pid × Syscall)} {events : List SyscallEvent}
    (reports : List.Forall₂ (ReportsCall name) calls events) :
    List.Forall₂ (Syscall.Reports name pid) (callsOf pid calls)
      (events.filter fun event => event.pid = pid) := by
  induction reports with
  | nil => exact .nil
  | @cons call event calls events same rest ih =>
      have owner : event.pid = call.1 := Syscall.Reports.pid same
      by_cases mine : call.1 = pid
      · rw [callsOf_cons, if_pos mine, List.filter_cons_of_pos (by simpa [owner] using mine)]
        exact .cons (mine ▸ same) ih
      · rw [callsOf_cons, if_neg mine, List.filter_cons_of_neg (by simpa [owner] using mine)]
        exact ih

theorem sum_reported {name : UInt64 → Option String} {pid : Pid} {syscalls : List Syscall}
    {events : List SyscallEvent} (reports : List.Forall₂ (Syscall.Reports name pid) syscalls events) :
    (events.map SyscallEvent.duration).sum =
      (syscalls.map fun syscall => syscall.exit.answers.now - syscall.entry.answers.now).sum := by
  induction reports with
  | nil => rfl
  | cons same _ ih =>
      rw [List.map_cons, List.map_cons, List.sum_cons, List.sum_cons, same.duration, ih]

/-- Whatever else runs in between, the durations reported for one process add up to no
more than the time between its first stop and its last. -/
theorem run_durations (name : UInt64 → Option String) (root pid : Pid) (followForks : Bool)
    (resumed : Except Errno Unit) (answers : List WaitAnswer)
    (legal : Machine.Conforms (SystemLegal root) (statusesOf answers))
    (clock : ClockRuns (statusesOf answers))
    (run : TracerRun) (ran : (Tracer.postSpawn root followForks).run name resumed answers = run) :
    (((sunk run.effects).filter fun event => event.pid = pid).map SyscallEvent.duration).sum ≤
      watchedFor (ownDeliveries pid run.delivered) := by
  obtain ⟨calls, initial, reports, _⟩ :=
    Tracer.run_traced name root followForks resumed answers legal ran
  have own : callsOf pid calls <+: observed (completedSyscalls root pid run.delivered) := by
    have kept : callsOf pid calls <+: callsOf pid (systemTrace root followForks run.delivered) :=
      initial.filterMap _
    rw [systemTrace_callsOf] at kept
    exact kept.trans (reportedCalls_initial _ List.prefix_rfl)
  have sound := timeline_sound root pid _ (allOf_ownDeliveries pid run.delivered)
  have delivered : run.delivered <+: statusesOf answers := by
    obtain ⟨loop, handled, same⟩ :=
      Tracer.run_handled name (.postSpawn root followForks) resumed answers
    rw [← ran, same]
    exact handled.delivered
  have ownClock : ClockRuns (ownDeliveries pid run.delivered) :=
    (clock.sublist delivered.sublist).sublist List.filter_sublist
  rw [sum_reported (reports_callsOf pid reports)]
  have occurs : ∀ syscall ∈ callsOf pid calls,
      syscall.Occurs root pid (ownDeliveries pid run.delivered) := fun syscall member =>
    mem_completedSyscalls_iff.mp (List.mem_of_mem_filter (own.subset member))
  exact sum_syscalls_le ownClock occurs
    ((sound.ordered.sublist List.filter_sublist).sublist own.sublist)

theorem run_durations_overlapping :
    (((sunk ((Tracer.postSpawn 100 true).run (fun _ => none) (.ok ()) overlapping).effects).filter
      fun event => event.pid = 200).map SyscallEvent.duration).sum ≤
      watchedFor (ownDeliveries 200 (statusesOf overlapping)) :=
  run_durations (fun _ => none) 100 200 true (.ok ()) overlapping (by decide) (by decide) _ rfl

end Loi.Core
