import Mathlib.Data.List.Induction
import Loi.Output.Failures
import Loi.Output.JsonText
import Loi.Sink
import Loi.Syscalls.Panics

/-! How the sink ends: the latch of its first error against the failures that its
output has answered with. -/

set_option autoImplicit false

namespace Loi

open Nix Foundation Loi.Core Syscalls Output

namespace SinkState

section Steps

variable {Device : Type} {crates : Crates} {w : TextWriter Device WriteFailure} {host : Host}
  {event : SyscallEvent} {sink next : SinkState Device}

def Stopped (sink : SinkState Device) : Prop :=
  sink.closed = true ∨ sink.firstErr.isSome = true

theorem Stopped.handle (stopped : sink.Stopped) :
    sink.handle crates w host event = .ok sink := by
  have none : sink.admitted crates host event = .ok none := by
    unfold admitted
    rw [if_pos (by simpa [Stopped] using stopped)]
  unfold SinkState.handle
  rw [none]
  rfl

theorem Stopped.handleAll (stopped : sink.Stopped) (observed : List (Host × SyscallEvent)) :
    sink.handleAll crates w observed = .ok sink := by
  induction observed with
  | nil => rfl
  | cons observation rest ih =>
      unfold SinkState.handleAll
      rw [List.foldlM_cons, stopped.handle]
      exact ih

/-- What one call does: nothing, or the writes of one event and the record of their
error. -/
theorem handle_cases (handled : sink.handle crates w host event = .ok next) :
    (sink.admitted crates host event = .ok none ∧ next = sink) ∨
    ∃ item, sink.admitted crates host event = .ok (some item) ∧
      (((sink.write crates w host item).2 = .ok () ∧
          next = (sink.write crates w host item).1) ∨
        ∃ error, (sink.write crates w host item).2 = .err error ∧
          next = (sink.write crates w host item).1.record error) := by
  unfold SinkState.handle at handled
  cases admits : sink.admitted crates host event with
  | err error => cases error
  | panicked =>
      rw [admits] at handled
      cases handled
  | ok admitted =>
      rw [admits, Outcome.ok_bind] at handled
      cases admitted with
      | none => exact .inl ⟨rfl, (Outcome.ok.inj handled).symm⟩
      | some item =>
          refine .inr ⟨item, rfl, ?_⟩
          rcases written : sink.write crates w host item with ⟨after, outcome⟩
          simp only [written] at handled
          cases outcome with
          | ok => exact .inl ⟨rfl, (Outcome.ok.inj handled).symm⟩
          | err error => exact .inr ⟨error, rfl, (Outcome.ok.inj handled).symm⟩
          | panicked => cases handled

theorem handleAll_append {before after : List (Host × SyscallEvent)}
    {middle : SinkState Device} (first : sink.handleAll crates w before = .ok middle) :
    sink.handleAll crates w (before ++ after) = middle.handleAll crates w after := by
  unfold SinkState.handleAll at first ⊢
  rw [List.foldlM_append, first]
  rfl

theorem handleAll_snoc {before : List (Host × SyscallEvent)}
    {observation : Host × SyscallEvent}
    (ran : sink.handleAll crates w (before ++ [observation]) = .ok next) :
    ∃ middle, sink.handleAll crates w before = .ok middle ∧
      middle.handle crates w observation.1 observation.2 = .ok next := by
  unfold SinkState.handleAll at ran ⊢
  rw [List.foldlM_append, Outcome.bind_eq_ok_iff] at ran
  obtain ⟨middle, first, second⟩ := ran
  obtain ⟨last, handled, done⟩ := Outcome.bind_eq_ok_iff.mp second
  cases done
  exact ⟨middle, first, handled⟩

/-- Formatting leaves the latch to `record`. -/
theorem write_latch (item : Pretty.Rendered) :
    (sink.write crates w host item).1.closed = sink.closed ∧
      (sink.write crates w host item).1.firstErr = sink.firstErr := by
  unfold SinkState.write
  cases sink.format <;> exact ⟨rfl, rfl⟩

theorem handle_format (handled : sink.handle crates w host event = .ok next) :
    next.format = sink.format := by
  have wrote : ∀ item, (sink.write crates w host item).1.format = sink.format := by
    intro item
    unfold SinkState.write
    split <;> rfl
  have recorded : ∀ (after : SinkState Device) error, (after.record error).format = after.format := by
    intro after error
    unfold SinkState.record
    split_ifs <;> rfl
  rcases handle_cases handled with ⟨_, rfl⟩ | ⟨item, _, ⟨_, rfl⟩ | ⟨error, _, rfl⟩⟩
  · rfl
  · exact wrote item
  · rw [recorded, wrote]

theorem handleAll_format {observed : List (Host × SyscallEvent)}
    (ran : sink.handleAll crates w observed = .ok next) : next.format = sink.format := by
  induction observed using List.reverseRecOn generalizing next with
  | nil =>
      cases ran
      rfl
  | append_singleton before observation ih =>
      obtain ⟨middle, first, handled⟩ := handleAll_snoc ran
      rw [handle_format handled, ih first]

theorem admitted_open {item : Pretty.Rendered}
    (admits : sink.admitted crates host event = .ok (some item)) :
    ¬ sink.Stopped ∧ item.event = event := by
  unfold admitted at admits
  split_ifs at admits with stopped filtered
  · cases admits
  · cases admits
  · refine ⟨by simpa [Stopped] using stopped, ?_⟩
    rw [Outcome.bind_eq_ok_iff] at admits
    obtain ⟨decoded, _, kept⟩ := admits
    split at kept
    split_ifs at kept
    · cases kept
    · injection kept with same
      injection same with same
      rw [← same]

end Steps

section Failures

variable {Device : Type} {crates : Crates} {w : TextWriter Device WriteFailure}

abbrev LoggedSink (Device : Type) := SinkState (Logged Device WriteFailure)

def firstOther (failures : List WriteFailure) : Option WriteFailure :=
  failures.find? fun failure => failure.kind ≠ .brokenPipe

/-- The latch holds what the failures so far call for. -/
structure Latched (sink : LoggedSink Device) : Prop where
  closed : sink.closed = true ↔ ∃ failure ∈ sink.out.failures, failure.kind = .brokenPipe
  firstErr : sink.firstErr = (firstOther sink.out.failures).map .device

def expected (failures : List WriteFailure) : Except IoError Unit :=
  match firstOther failures with
  | some failure => .error (.device failure)
  | none => .ok ()

theorem firstOther_snoc (failures : List WriteFailure) (failure : WriteFailure) :
    firstOther (failures ++ [failure]) =
      (firstOther failures).or (if failure.kind = .brokenPipe then none else some failure) := by
  unfold firstOther
  rw [List.find?_append, List.find?_singleton]
  by_cases pipe : failure.kind = .brokenPipe <;> simp [pipe]

theorem Latched.record {sink after : LoggedSink Device} {failure : WriteFailure}
    (latched : Latched sink)
    (unchanged : after.closed = sink.closed ∧ after.firstErr = sink.firstErr)
    (answered : after.out.failures = sink.out.failures ++ [failure]) :
    Latched (after.record (.device failure)) := by
  have others := firstOther_snoc sink.out.failures failure
  rw [← answered] at others
  unfold SinkState.record
  by_cases pipe : failure.kind = .brokenPipe
  · rw [if_pos (show (IoError.device failure).kind = .brokenPipe from pipe)]
    rw [if_pos pipe, Option.or_none] at others
    constructor
    · simp only [answered, true_iff]
      exact ⟨failure, by simp, pipe⟩
    · rw [others, ← latched.firstErr]
      exact unchanged.2
  · rw [if_neg (show (IoError.device failure).kind ≠ .brokenPipe from pipe)]
    rw [if_neg pipe] at others
    have closed : after.closed = true ↔
        ∃ failure ∈ after.out.failures, failure.kind = .brokenPipe := by
      rw [unchanged.1, latched.closed, answered]
      simp [or_and_right, exists_or, pipe]
    -- `record` keeps an earlier error, as `firstOther` keeps an earlier failure
    cases first : firstOther sink.out.failures with
    | none =>
        have unset : after.firstErr = none := by rw [unchanged.2, latched.firstErr, first]; rfl
        rw [first, Option.none_or] at others
        rw [if_pos (by simp [unset])]
        exact ⟨closed, by rw [others]; rfl⟩
    | some earlier =>
        have set : after.firstErr = some (.device earlier) := by
          rw [unchanged.2, latched.firstErr, first]
          rfl
        rw [first, Option.some_or] at others
        rw [if_neg (by simp [set])]
        exact ⟨closed, by rw [others]; exact set⟩

theorem Latched.same {sink after : LoggedSink Device} (latched : Latched sink)
    (unchanged : after.closed = sink.closed ∧ after.firstErr = sink.firstErr)
    (silent : after.out.failures = sink.out.failures) : Latched after := by
  constructor
  · rw [unchanged.1, silent]
    exact latched.closed
  · rw [unchanged.2, silent]
    exact latched.firstErr

theorem Latched.stopped {sink : LoggedSink Device} (latched : Latched sink)
    (met : sink.out.failures ≠ []) : sink.Stopped := by
  obtain ⟨failure, rest, split⟩ := List.exists_cons_of_ne_nil met
  by_cases pipe : failure.kind = .brokenPipe
  · exact .inl (latched.closed.mpr ⟨failure, by simp [split], pipe⟩)
  · refine .inr ?_
    rw [latched.firstErr, split]
    simp [firstOther, pipe]

/-- `to_writer` meets no failure in what this call formats, and the duration fits. -/
def Undisturbed (crates : Crates) (w : TextWriter Device WriteFailure) (host : Host)
    (event : SyscallEvent) (sink : SinkState Device) : Prop :=
  ∀ item, sink.admitted crates host event = .ok (some item) → sink.format = .json →
    Json.Undisturbed host.profile crates.tables crates.serializer w item.event item.decoded sink.out

theorem write_surfaced {sink : LoggedSink Device} {host : Host} {item : Pretty.Rendered}
    (undisturbed : sink.format = .json → Json.Undisturbed host.profile crates.tables
      crates.serializer w.logged item.event item.decoded sink.out) :
    WriteAction.Surfaced IoError.device sink.out (sink.write crates w.logged host item).1.out
      (sink.write crates w.logged host item).2 := by
  unfold SinkState.write
  cases format : sink.format with
  | pretty =>
      exact Pretty.writeEvent_surfaced host.profile crates.tables crates.palette w item sink.cfg
        sink.prettyState sink.out
  | json =>
      exact Json.writeEvent_surfaced host.profile crates.tables crates.serializer w
        (undisturbed format)
  | raw => trivial

theorem Latched.handle {sink next : LoggedSink Device} {host : Host} {event : SyscallEvent}
    (latched : Latched sink) (undisturbed : Undisturbed crates w.logged host event sink)
    (handled : sink.handle crates w.logged host event = .ok next) : Latched next := by
  rcases handle_cases handled with ⟨_, same⟩ | ⟨item, admits, outcome⟩
  · rw [same]
    exact latched
  · have surfaced : WriteAction.Surfaced IoError.device sink.out
        (sink.write crates w.logged host item).1.out (sink.write crates w.logged host item).2 :=
      write_surfaced (undisturbed item admits)
    have unchanged : (sink.write crates w.logged host item).1.closed = sink.closed ∧
        (sink.write crates w.logged host item).1.firstErr = sink.firstErr := write_latch item
    rcases outcome with ⟨wrote, rfl⟩ | ⟨error, failed, rfl⟩
    · rw [wrote] at surfaced
      exact latched.same unchanged surfaced
    · rw [failed] at surfaced
      obtain ⟨failure, rfl, answered⟩ := surfaced
      exact latched.record unchanged answered

def UndisturbedRun (crates : Crates) (w : TextWriter Device WriteFailure) (sink : SinkState Device)
    (observed : List (Host × SyscallEvent)) : Prop :=
  ∀ before observation after, observed = before ++ observation :: after →
    ∀ middle, sink.handleAll crates w before = .ok middle →
      Undisturbed crates w observation.1 observation.2 middle

/-- The pretty formatter disturbs nothing. -/
theorem undisturbedRun_pretty {sink : SinkState Device} (isPretty : sink.format = .pretty)
    (observed : List (Host × SyscallEvent)) : UndisturbedRun crates w sink observed := by
  intro before observation after _ middle first item _ isJson
  rw [handleAll_format first, isPretty] at isJson
  cases isJson

theorem Latched.handleAll {sink last : LoggedSink Device}
    {observed : List (Host × SyscallEvent)} (latched : Latched sink)
    (undisturbed : UndisturbedRun crates w.logged sink observed)
    (ran : sink.handleAll crates w.logged observed = .ok last) : Latched last := by
  induction observed using List.reverseRecOn generalizing last with
  | nil =>
      cases ran
      exact latched
  | append_singleton before observation ih =>
      obtain ⟨middle, first, handled⟩ := handleAll_snoc ran
      have earlier : Latched middle := by
        refine ih ?_ first
        intro start other rest split
        exact undisturbed start other (rest ++ [observation]) (by simp [split])
      exact earlier.handle (undisturbed before observation [] rfl middle first) handled

theorem Latched.flush {sink : LoggedSink Device} (latched : Latched sink) :
    Latched (sink.flush w.logged) := by
  unfold SinkState.flush
  simp only [TextWriter.logged, Logged.after]
  cases reply : (w.flush sink.out.device).2 with
  | ok => exact latched.same ⟨rfl, rfl⟩ (by simp [failureOf])
  | error failure => exact latched.record ⟨rfl, rfl⟩ (by simp [failureOf])

theorem Latched.finish {sink : LoggedSink Device} (latched : Latched sink) :
    (sink.finish w.logged).2 = expected (sink.finish w.logged).1.failures := by
  have flushed : Latched (sink.flush w.logged) := latched.flush
  unfold SinkState.finish
  have first := flushed.firstErr
  cases found : firstOther (sink.flush w.logged).out.failures with
  | none =>
      rw [found] at first
      simp [first, expected, found]
  | some failure =>
      rw [found] at first
      simp [first, expected, found]

/-- What a disturbed call meets stays the first error, to the end. -/
theorem handle_disturbed {sink next : SinkState Device} {host : Host} {event : SyscallEvent}
    (disturbed : ¬ Undisturbed crates w host event sink)
    (handled : sink.handle crates w host event = .ok next) :
    ∃ error, next.firstErr = some error ∧ ∀ failure, error ≠ .device failure := by
  unfold Undisturbed at disturbed
  simp only [not_forall] at disturbed
  obtain ⟨item, admits, isJson, disturbed⟩ := disturbed
  obtain ⟨error, failed, otherKind, notDevice⟩ :=
    Json.writeEvent_disturbed host.profile crates.tables crates.serializer w disturbed
  have wrote : (sink.write crates w host item).2 = .err error := by
    unfold SinkState.write
    rw [isJson]
    exact failed
  have unset : (sink.write crates w host item).1.firstErr = none := by
    rw [(write_latch item).2]
    have running := (admitted_open admits).1
    simp only [Stopped, not_or, Bool.not_eq_true, Option.isSome_eq_false_iff,
      Option.isNone_iff_eq_none] at running
    exact running.2
  refine ⟨error, ?_, notDevice⟩
  rcases handle_cases handled with ⟨none, _⟩ | ⟨other, admits', outcome⟩
  · rw [admits] at none
    cases none
  · rw [admits] at admits'
    cases admits'
    rcases outcome with ⟨ok, _⟩ | ⟨error', failed', rfl⟩
    · rw [wrote] at ok
      cases ok
    · rw [wrote] at failed'
      cases failed'
      unfold SinkState.record
      rw [if_neg otherKind, if_pos (by simp [unset])]

theorem finish_of_firstErr {sink : SinkState Device} {error : IoError}
    (first : sink.firstErr = some error) : (sink.finish w).2 = .error error := by
  have kept : (sink.flush w).firstErr = some error := by
    unfold SinkState.flush SinkState.record
    split
    · exact first
    · split_ifs with pipe unset
      · exact first
      · rw [first] at unset
        cases unset
      · exact first
  unfold SinkState.finish
  simp [kept]

theorem latched_new (device : Device) (format : OutputFormat) (cfg : Pretty.PrettyConfig)
    (registry : Registry) (filter : Filter) :
    Latched (SinkState.new { device, failures := [] } format cfg registry filter) :=
  ⟨by simp [SinkState.new], rfl⟩

/-- After the first failure nothing is formatted, and `finish` returns what the
failures call for. -/
structure EndsCleanly (crates : Crates) (w : TextWriter Device WriteFailure)
    (sink : LoggedSink Device) (observed : List (Host × SyscallEvent)) (last : LoggedSink Device) :
    Prop where
  stops : ∀ before after middle, observed = before ++ after →
    sink.handleAll crates w.logged before = .ok middle → middle.out.failures ≠ [] → last = middle
  result : (last.finish w.logged).2 = expected (last.finish w.logged).1.failures

theorem handleAll_split {sink last : SinkState Device}
    {before after : List (Host × SyscallEvent)} {observation : Host × SyscallEvent}
    {middle : SinkState Device} (first : sink.handleAll crates w before = .ok middle)
    (ran : sink.handleAll crates w (before ++ observation :: after) = .ok last) :
    ∃ next, middle.handle crates w observation.1 observation.2 = .ok next ∧
      next.handleAll crates w after = .ok last := by
  rw [handleAll_append first] at ran
  exact Outcome.bind_eq_ok_iff.mp ran

theorem EndsCleanly.undisturbed {sink last : LoggedSink Device}
    {observed : List (Host × SyscallEvent)}
    (ran : sink.handleAll crates w.logged observed = .ok last)
    (clean : EndsCleanly crates w sink observed last) :
    UndisturbedRun crates w.logged sink observed := by
  intro before observation after split middle first
  by_contra disturbed
  rw [split] at ran
  obtain ⟨next, handled, rest⟩ := handleAll_split first ran
  -- the disturbed call latches an error that no later call or flush replaces
  obtain ⟨error, met, notDevice⟩ := handle_disturbed disturbed handled
  have stopped : next.Stopped := .inr (by rw [met]; rfl)
  rw [stopped.handleAll] at rest
  cases rest
  have result := clean.result
  rw [finish_of_firstErr met, expected] at result
  split at result
  · next failure _ => exact notDevice failure (Except.error.inj result)
  · cases result

theorem UndisturbedRun.endsCleanly {sink last : LoggedSink Device}
    {observed : List (Host × SyscallEvent)} (latched : Latched sink)
    (ran : sink.handleAll crates w.logged observed = .ok last)
    (undisturbed : UndisturbedRun crates w.logged sink observed) :
    EndsCleanly crates w sink observed last := by
  constructor
  · intro before after middle split first met
    have soFar : Latched middle := by
      refine latched.handleAll ?_ first
      intro start observation rest cut
      exact undisturbed start observation (rest ++ after) (by simp [split, cut])
    rw [split, handleAll_append first, (soFar.stopped met).handleAll] at ran
    exact (Outcome.ok.inj ran).symm
  · exact (latched.handleAll undisturbed ran).finish

/-- A run ends cleanly exactly when `to_writer` has met no failure in it, and no
duration was refused; the pretty formatter disturbs nothing. -/
theorem handleAll_endsCleanly_iff (crates : Crates) (w : TextWriter Device WriteFailure)
    (device : Device) (format : OutputFormat) (cfg : Pretty.PrettyConfig) (registry : Registry)
    (filter : Filter) {observed : List (Host × SyscallEvent)} {last : LoggedSink Device}
    (ran : (SinkState.new { device, failures := [] } format cfg registry filter).handleAll crates
      w.logged observed = .ok last) :
    EndsCleanly crates w (.new { device, failures := [] } format cfg registry filter) observed last ↔
      UndisturbedRun crates w.logged (.new { device, failures := [] } format cfg registry filter)
        observed :=
  ⟨fun clean => clean.undisturbed ran,
    fun undisturbed => undisturbed.endsCleanly (latched_new device format cfg registry filter) ran⟩

end Failures

def brokenPipe : WriteFailure :=
  { kind := .brokenPipe, raw := 32 }

def closedPipe : TextWriter Unit WriteFailure where
  write _ _ := ((), .error brokenPipe)
  flush _ := ((), .error brokenPipe)

def getpidCall : Host × SyscallEvent :=
  (blindHost,
    { pid := 7, syscallNr := 39, syscallName := "getpid", args := Vector.replicate 6 0, ret := 7,
      duration := 5 })

def someCrates : Crates where
  table := x86Table
  tables := someTables
  palette := plainPalette
  serializer := Json.compact

def newSink (format : OutputFormat) : LoggedSink Unit :=
  .new { device := (), failures := [] } format (.new false) .new .empty

theorem handleAll_endsCleanly_iff_pretty :
    ∃ last, (newSink .pretty).handleAll someCrates closedPipe.logged [getpidCall, getpidCall] =
        .ok last ∧
      EndsCleanly someCrates closedPipe (newSink .pretty) [getpidCall, getpidCall] last ∧
      (last.finish closedPipe.logged).2 = .ok () := by
  refine ⟨_, rfl, ?_, rfl⟩
  exact (handleAll_endsCleanly_iff someCrates closedPipe () .pretty (.new false) .new .empty rfl).mpr
    (undisturbedRun_pretty rfl _)

/-- The same reader, in the JSON format: the run ends with an error that is not of
the kind of a closed pipe. -/
theorem closedPipe_json_fails :
    ∃ last, (newSink .json).handleAll someCrates closedPipe.logged [getpidCall] = .ok last ∧
      (last.finish closedPipe.logged).1.failures = [brokenPipe, brokenPipe] ∧
      (last.finish closedPipe.logged).2 = .error (.serde brokenPipe) ∧
      ¬ EndsCleanly someCrates closedPipe (newSink .json) [getpidCall] last := by
  refine ⟨_, rfl, rfl, rfl, ?_⟩
  intro clean
  have result : (.error (.serde brokenPipe) : Except IoError Unit) = .ok () := clean.result
  cases result

end SinkState

end Loi
