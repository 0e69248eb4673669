import Loi.Foundation.BufWriter
import Loi.Main
import Loi.Output.Scripts

/-! The sink on a device that fails, next to the sink on one that accepts everything: what
is left behind is where the other was at some moment, and no more. -/

set_option autoImplicit false

namespace Loi

open Nix Foundation Loi.Core Syscalls Output SinkState

namespace SinkState

section Steps

variable {Device : Type} {crates : Crates} {w : TextWriter Device WriteFailure} {host : Host}
  {event : SyscallEvent} {taken reached : Device → List UInt8}

/-- The sink on another device. -/
def onto {Other : Type} (out : Other) (sink : SinkState Device) : SinkState Other where
  out := out
  format := sink.format
  cfg := sink.cfg
  prettyState := sink.prettyState
  registry := sink.registry
  filter := sink.filter
  firstErr := sink.firstErr
  closed := sink.closed

/-- The device that may fail has met no failure, or has stopped the sink at its first. -/
inductive Follows (taken : Device → List UInt8) (sink : LoggedSink Device)
    (whole : SinkState String) : Prop where
  | inStep (same : sink = whole.onto sink.out)
      (all : taken sink.out.device = utf8Bytes whole.out) (silent : sink.out.failures = [])
      (unclosed : whole.closed = false) : Follows taken sink whole
  | cut (stopped : sink.Stopped) (part : taken sink.out.device <+: utf8Bytes whole.out)
      (met : sink.out.failures ≠ [])
      (pipe : sink.closed = true → ∃ failure ∈ sink.out.failures, failure.kind = .brokenPipe) :
      Follows taken sink whole

theorem handleAll_cons {sink last : SinkState Device} {observation : Host × SyscallEvent}
    {rest : List (Host × SyscallEvent)}
    (ran : sink.handleAll crates w (observation :: rest) = .ok last) :
    ∃ middle, sink.handle crates w observation.1 observation.2 = .ok middle ∧
      middle.handleAll crates w rest = .ok last := by
  unfold SinkState.handleAll at ran
  rw [List.foldlM_cons] at ran
  exact Outcome.bind_eq_ok_iff.mp ran

theorem handle_silent {sink : SinkState Device}
    (admits : sink.admitted crates host event = .ok none) :
    sink.handle crates w host event = .ok sink := by
  unfold SinkState.handle
  rw [admits]
  rfl

theorem handle_wrote {sink next : SinkState Device} {item : Pretty.Rendered}
    (admits : sink.admitted crates host event = .ok (some item))
    (wrote : sink.write crates w host item = (next, .ok ())) :
    sink.handle crates w host event = .ok next := by
  unfold SinkState.handle
  rw [admits, Outcome.ok_bind]
  simp only [wrote, Outcome.pure_eq_ok]

theorem handle_failed {sink next : SinkState Device} {item : Pretty.Rendered} {error : IoError}
    (admits : sink.admitted crates host event = .ok (some item))
    (failed : sink.write crates w host item = (next, .err error)) :
    sink.handle crates w host event = .ok (next.record error) := by
  unfold SinkState.handle
  rw [admits, Outcome.ok_bind]
  simp only [failed, Outcome.pure_eq_ok]

theorem write_pretty_eq {sink : SinkState Device} (pretty : sink.format = .pretty)
    {item : Pretty.Rendered} {left : Pretty.PrettyState × Device × Outcome IoError Unit}
    (wrote : Pretty.writeEvent host.profile crates.tables crates.palette w item sink.cfg
      sink.prettyState sink.out = left) :
    sink.write crates w host item =
      ({ sink with out := left.2.1, prettyState := left.1 }, left.2.2) := by
  unfold write
  rw [pretty, ← wrote]

theorem write_json_eq {sink : SinkState Device} (json : sink.format = .json)
    {item : Pretty.Rendered} {left : Device × Outcome IoError Unit}
    (wrote : Json.writeEvent host.profile crates.tables crates.serializer w item.event
      item.decoded sink.out = left) :
    sink.write crates w host item = ({ sink with out := left.1 }, left.2) := by
  unfold write
  rw [json, ← wrote]

/-- What one write has left of `text` on the device that may fail, next to the same write on
the one that accepts everything. -/
structure Wrote (taken : Device → List UInt8) (sink after : LoggedSink Device)
    (outcome : Outcome IoError Unit) (wrote : SinkState String) (text : String) : Prop where
  left : WriteAction.Left (fun logged => taken logged.device) text sink.out after.out outcome
  raised : Raised sink.out after.out outcome
  same : outcome = .ok () → after = wrote.onto after.out

section Writes

variable {sink : LoggedSink Device} {whole : SinkState String} {item : Pretty.Rendered}
  {errno : Option (String × String)}

theorem wrote_pretty (carries : w.Carries taken reached) (same : sink = whole.onto sink.out)
    (pretty : whole.format = .pretty)
    (fits : Pretty.Fits whole.cfg whole.prettyState item.event)
    (resolved : errnoOfRet host.profile crates.tables item.event.ret =
      (.ok errno : Outcome IoError _)) :
    ∃ wrote text, whole.write crates (.collector WriteFailure) host item = (wrote, .ok ()) ∧
      wrote.out = whole.out ++ text ∧
      Wrote taken sink (sink.write crates w.logged host item).1
        (sink.write crates w.logged host item).2 wrote text := by
  have formats : sink.format = .pretty := (congrArg SinkState.format same).trans pretty
  have cfgs : sink.cfg = whole.cfg := congrArg SinkState.cfg same
  have states : sink.prettyState = whole.prettyState := congrArg SinkState.prettyState same
  refine ⟨_, _, write_pretty_eq pretty (Pretty.writeEvent_collector resolved _ fits _), rfl, ?_⟩
  rw [write_pretty_eq formats rfl]
  rw [← cfgs, ← states] at fits ⊢
  refine ⟨Pretty.writeEvent_left carries.logged resolved fits sink.out,
    raised_of_surfaced (Pretty.writeEvent_surfaced host.profile crates.tables crates.palette w item
      sink.cfg sink.prettyState sink.out), fun wrote => ?_⟩
  rw [Pretty.writeEvent_state wrote]
  rw [same]
  rfl

theorem wrote_json (carries : w.Carries taken reached) (same : sink = whole.onto sink.out)
    (json : whole.format = .json) (fits : item.event.duration < 2 ^ 64)
    (resolved : errnoOfRet host.profile crates.tables item.event.ret =
      (.ok errno : Outcome IoError _)) :
    ∃ wrote text, whole.write crates (.collector WriteFailure) host item = (wrote, .ok ()) ∧
      wrote.out = whole.out ++ text ∧
      Wrote taken sink (sink.write crates w.logged host item).1
        (sink.write crates w.logged host item).2 wrote text := by
  have formats : sink.format = .json := (congrArg SinkState.format same).trans json
  refine ⟨_, _, write_json_eq json
    (Json.writeEvent_emits crates.serializer resolved item.decoded fits whole.out), rfl, ?_⟩
  rw [write_json_eq formats rfl]
  refine ⟨Json.writeEvent_leaves carries.logged crates.serializer fits resolved item.decoded
      sink.out,
    Json.writeEvent_raised crates.serializer w fits resolved item.decoded sink.out, fun _ => ?_⟩
  rw [same]
  rfl

/-- A write that returns on the device that accepts everything is one of its line, or is
refused on either device for a duration that is too long. -/
theorem write_cases (carries : w.Carries taken reached) (same : sink = whole.onto sink.out)
    (fits : Pretty.Fits whole.cfg whole.prettyState item.event)
    (returns : (whole.write crates (.collector WriteFailure) host item).2 ≠ .panicked) :
    (∃ wrote text, whole.write crates (.collector WriteFailure) host item = (wrote, .ok ()) ∧
      wrote.out = whole.out ++ text ∧
      Wrote taken sink (sink.write crates w.logged host item).1
        (sink.write crates w.logged host item).2 wrote text) ∨
    (whole.write crates (.collector WriteFailure) host item = (whole, .err .duration) ∧
      sink.write crates w.logged host item = (sink, .err .duration)) := by
  have formats : sink.format = whole.format := congrArg SinkState.format same
  have resolves : Negates host.profile item.event.ret → ∃ errno,
      errnoOfRet host.profile crates.tables item.event.ret = (.ok errno : Outcome IoError _) :=
    fun negates => errnoOfRet_ok negates crates.tables
  cases format : whole.format with
  | pretty =>
      by_cases negates : Negates host.profile item.event.ret
      · obtain ⟨errno, resolved⟩ := resolves negates
        exact .inl (wrote_pretty carries same format fits resolved)
      · refine absurd ?_ returns
        rw [write_pretty_eq format rfl]
        exact Pretty.writeEvent_panics _ _ negates fits _
  | json =>
      by_cases fits : item.event.duration < 2 ^ 64
      · by_cases negates : Negates host.profile item.event.ret
        · obtain ⟨errno, resolved⟩ := resolves negates
          exact .inl (wrote_json carries same format fits resolved)
        · refine absurd ?_ returns
          rw [write_json_eq format rfl]
          unfold Json.writeEvent
          rw [if_neg (Nat.not_le_of_gt fits), errnoOfRet_panics negates]
          rfl
      · have exceeds : 2 ^ 64 ≤ item.event.duration := Nat.le_of_not_lt fits
        exact .inr ⟨write_json_eq format (Json.writeEvent_duration _ _ _ _ _ exceeds _),
          write_json_eq (formats.trans format) (Json.writeEvent_duration _ _ _ _ _ exceeds _)⟩
  | raw =>
      unfold write at returns
      rw [format] at returns
      exact absurd rfl returns

theorem record_out (error : IoError) (sink : SinkState Device) :
    (sink.record error).out = sink.out := by
  unfold record
  split_ifs <;> rfl

theorem record_onto {Other : Type} (out : Other) (error : IoError) (sink : SinkState Device) :
    (sink.onto out).record error = (sink.record error).onto out := by
  unfold record onto
  dsimp only
  split_ifs <;> rfl

theorem record_stopped (error : IoError) (sink : SinkState Device) :
    (sink.record error).Stopped := by
  unfold record
  split_ifs with pipe first
  · exact .inl rfl
  · exact .inr rfl
  · refine .inr ?_
    cases set : sink.firstErr with
    | none => exact absurd (by rw [set]; rfl) first
    | some earlier => rfl

theorem closed_of_record {error : IoError} {sink : SinkState Device}
    (closed : (sink.record error).closed = true) :
    sink.closed = true ∨ error.kind = .brokenPipe := by
  unfold record at closed
  split_ifs at closed with pipe
  · exact .inr pipe
  · exact .inl closed
  · exact .inl closed

theorem wrote_returns {Device : Type} {left : SinkState Device × Outcome IoError Unit}
    {after : SinkState Device}
    (outcome : (left.2 = .ok () ∧ after = left.1) ∨
      ∃ error, left.2 = .err error ∧ after = left.1.record error) : left.2 ≠ .panicked := by
  rcases outcome with ⟨wrote, _⟩ | ⟨error, failed, _⟩
  · rw [wrote]
    exact nofun
  · rw [failed]
    exact nofun

/-- On the device that accepts everything the output only grows. -/
theorem handle_grows (narrow : whole.prettyState.Narrow) (named : Pretty.NarrowName event)
    {after : SinkState String}
    (handled : whole.handle crates (.collector WriteFailure) host event = .ok after) :
    ∃ text, after.out = whole.out ++ text := by
  rcases handle_cases handled with ⟨_, rfl⟩ | ⟨item, given, outcome⟩
  · exact ⟨"", String.append_empty.symm⟩
  · have same : whole.onto (Logged.mk whole.out []) =
        whole.onto (whole.onto (Logged.mk whole.out ([] : List WriteFailure))).out := rfl
    have fits : Pretty.Fits whole.cfg whole.prettyState item.event :=
      narrow.fits whole.cfg ((admitted_open given).2 ▸ named)
    rcases write_cases (TextWriter.collector_carries WriteFailure) same fits
      (wrote_returns outcome) with ⟨wrote, text, done, grown, _⟩ | ⟨refused, _⟩
    · rw [done] at outcome
      rcases outcome with ⟨_, rfl⟩ | ⟨error, failed, _⟩
      · exact ⟨text, grown⟩
      · cases failed
    · rw [refused] at outcome
      rcases outcome with ⟨failed, _⟩ | ⟨error, _, rfl⟩
      · cases failed
      · exact ⟨"", by rw [record_out, String.append_empty]⟩

theorem Wrote.follows {wrote : SinkState String} {text : String}
    (both : Wrote taken sink (sink.write crates w.logged host item).1
      (sink.write crates w.logged host item).2 wrote text)
    (admits : sink.admitted crates host event = .ok (some item))
    (all : taken sink.out.device = utf8Bytes whole.out) (silent : sink.out.failures = [])
    (unclosed : sink.closed = false) (unclosed' : wrote.closed = false)
    (grown : wrote.out = whole.out ++ text) :
    ∃ next, sink.handle crates w.logged host event = .ok next ∧ Follows taken next wrote := by
  obtain ⟨left, raised, same⟩ := both
  have latch : (sink.write crates w.logged host item).1.closed = sink.closed :=
    (write_latch item).1
  rcases done : sink.write crates w.logged host item with ⟨next, outcome⟩
  rw [done] at left raised same latch
  cases outcome with
  | ok =>
      refine ⟨next, handle_wrote admits done, .inStep (same rfl) ?_ ?_ unclosed'⟩
      · rw [grown, utf8Bytes_append, ← all]
        exact left
      · exact raised.trans silent
  | err error =>
      obtain ⟨part, initial, held⟩ := left
      obtain ⟨failure, about, answered⟩ := raised
      rw [silent, List.nil_append] at answered
      dsimp only at answered held latch
      refine ⟨_, handle_failed admits done, .cut (record_stopped _ _) ?_ ?_ ?_⟩
      · rw [record_out, held, all, grown, utf8Bytes_append, List.prefix_append_right_inj]
        exact initial
      · rw [record_out, answered]
        exact List.cons_ne_nil _ _
      · intro closed
        rw [record_out, answered]
        refine ⟨failure, List.mem_singleton.mpr rfl, ?_⟩
        rcases closed_of_record closed with before | pipe
        · rw [latch, unclosed] at before
          cases before
        · exact about.pipe pipe
  | panicked => exact left.elim

/-- What one event makes of the two sinks. -/
theorem Follows.handle (carries : w.Carries taken reached) (follows : Follows taken sink whole)
    (narrow : whole.prettyState.Narrow) (named : Pretty.NarrowName event)
    {after : SinkState String}
    (handled : whole.handle crates (.collector WriteFailure) host event = .ok after) :
    ∃ next, sink.handle crates w.logged host event = .ok next ∧ Follows taken next after := by
  cases follows with
  | cut stopped part met pipe =>
      obtain ⟨text, grown⟩ := handle_grows narrow named handled
      refine ⟨sink, stopped.handle, .cut stopped ?_ met pipe⟩
      rw [grown, utf8Bytes_append]
      exact part.trans (List.prefix_append _ _)
  | inStep same all silent unclosed =>
      have admits : sink.admitted crates host event = whole.admitted crates host event := by
        rw [same]
        rfl
      rcases handle_cases handled with ⟨nothing, rfl⟩ | ⟨item, given, outcome⟩
      · exact ⟨sink, handle_silent (admits.trans nothing), .inStep same all silent unclosed⟩
      · have fits : Pretty.Fits whole.cfg whole.prettyState item.event :=
          narrow.fits whole.cfg ((admitted_open given).2 ▸ named)
        rcases write_cases carries same fits (wrote_returns outcome) with
          ⟨wrote, text, done, grown, both⟩ | ⟨refused, late⟩
        · rw [done] at outcome
          rcases outcome with ⟨_, ended⟩ | ⟨error, failed, _⟩
          · have kept : (whole.write crates (.collector WriteFailure) host item).1.closed =
                whole.closed := (write_latch item).1
            rw [done] at kept
            rw [show after = wrote from ended]
            have open' : sink.closed = false := (congrArg SinkState.closed same).trans unclosed
            exact both.follows (admits.trans given) all silent open' (kept.trans unclosed) grown
          · cases failed
        · rw [refused] at outcome
          rcases outcome with ⟨failed, _⟩ | ⟨error, late', ended⟩
          · cases failed
          · cases late'
            rw [show after = whole.record .duration from ended]
            refine ⟨_, handle_failed (admits.trans given) late, .inStep ?_ ?_ ?_ ?_⟩
            · rw [record_out, same]
              exact record_onto _ _ _
            · rw [record_out, record_out, all]
            · rw [record_out, silent]
            · cases closed : (whole.record .duration).closed with
              | false => rfl
              | true =>
                  rcases closed_of_record closed with before | pipe
                  · rw [unclosed] at before
                    cases before
                  · cases pipe

theorem Follows.handleAll (carries : w.Carries taken reached)
    {observed : List (Host × SyscallEvent)} {last : SinkState String}
    (follows : Follows taken sink whole) (narrow : whole.prettyState.Narrow)
    (named : ∀ observation ∈ observed, Pretty.NarrowName observation.2)
    (ran : whole.handleAll crates (.collector WriteFailure) observed = .ok last) :
    ∃ next, sink.handleAll crates w.logged observed = .ok next ∧ Follows taken next last := by
  induction observed generalizing sink whole with
  | nil =>
      cases ran
      exact ⟨sink, rfl, follows⟩
  | cons observation rest ih =>
      obtain ⟨middle, first, later⟩ := handleAll_cons ran
      have narrowName := named observation List.mem_cons_self
      obtain ⟨next, handled, follows⟩ := follows.handle carries narrow narrowName first
      obtain ⟨final, ran, follows⟩ := ih follows (handle_narrow narrow narrowName first)
        (fun other member => named other (.tail _ member)) later
      refine ⟨final, ?_, follows⟩
      unfold SinkState.handleAll at ran ⊢
      rw [List.foldlM_cons, handled]
      exact ran

end Writes

end Steps

end SinkState

section Endings

variable {Device : Type} {crates : Crates} {w : TextWriter Device WriteFailure} {globset : Globset}
  {taken reached : Device → List UInt8}

/-- How a session ends on a device that may fail, next to how it ends on the one that accepts
everything. -/
structure Truncates (taken reached : Device → List UInt8)
    (real : Logged Device WriteFailure × Option (Outcome (MainError globset) Unit))
    (whole : String × Option (Outcome (MainError globset) Unit)) : Prop where
  part : taken real.1.device <+: utf8Bytes whole.1
  silent : real.1.failures = [] → taken real.1.device = utf8Bytes whole.1 ∧ real.2 = whole.2
  done : real.2 = some (.ok ()) → reached real.1.device = utf8Bytes whole.1 ∨
    ∃ failure ∈ real.1.failures, failure.kind = .brokenPipe

theorem SinkState.Follows.part {sink : LoggedSink Device} {whole : SinkState String}
    (follows : Follows taken sink whole) : taken sink.out.device <+: utf8Bytes whole.out := by
  cases follows with
  | inStep _ all _ _ => rw [all]
  | cut _ part _ _ => exact part

/-- A device that has met no failure has everything. -/
theorem SinkState.Follows.all {sink : LoggedSink Device} {whole : SinkState String}
    (follows : Follows taken sink whole) (silent : sink.out.failures = []) :
    sink = whole.onto sink.out ∧ taken sink.out.device = utf8Bytes whole.out := by
  cases follows with
  | inStep same all _ _ => exact ⟨same, all⟩
  | cut _ _ met _ => exact absurd silent met

section Finish

variable {Other : Type} {v : TextWriter Other WriteFailure} {other : SinkState Other}

theorem flush_out (v : TextWriter Other WriteFailure) (other : SinkState Other) :
    (other.flush v).out = (v.flush other.out).1 := by
  unfold SinkState.flush
  rcases v.flush other.out with ⟨after, answer⟩
  cases answer with
  | ok => rfl
  | error failure => exact record_out _ _

theorem finish_out (v : TextWriter Other WriteFailure) (other : SinkState Other) :
    (other.finish v).1 = (v.flush other.out).1 := by
  rw [← flush_out]
  unfold SinkState.finish
  dsimp only
  split <;> rfl

theorem firstErr_of_finish (ended : (other.finish v).2 = .ok ()) :
    (other.flush v).firstErr = none := by
  unfold SinkState.finish at ended
  dsimp only at ended
  split at ended
  · cases ended
  · assumption

theorem finish_congr {sink : SinkState Device}
    (same : (sink.flush w).firstErr = (other.flush v).firstErr) :
    (sink.finish w).2 = (other.finish v).2 := by
  unfold SinkState.finish
  dsimp only
  rw [same]
  split <;> rfl

theorem pipe_of_record {error : IoError} (unset : (other.record error).firstErr = none) :
    error.kind = .brokenPipe := by
  by_contra apart
  unfold record at unset
  rw [if_neg apart] at unset
  split_ifs at unset with first
  rw [unset] at first
  exact first rfl

end Finish

/-- What the last flush makes of the two sinks. -/
theorem SinkState.Follows.finish (carries : w.Carries taken reached) {sink : LoggedSink Device}
    {whole : SinkState String} (follows : Follows taken sink whole) :
    ((sink.finish w.logged).1.failures = [] →
      (sink.finish w.logged).2 = (whole.finish (.collector WriteFailure)).2) ∧
    ((sink.finish w.logged).2 = .ok () →
      reached (sink.finish w.logged).1.device = utf8Bytes whole.out ∨
        ∃ failure ∈ (sink.finish w.logged).1.failures, failure.kind = .brokenPipe) := by
  have held := carries.held sink.out.device
  rw [finish_out]
  rcases reply : w.flush sink.out.device with ⟨after, answer⟩
  rw [reply] at held
  have flushed : w.logged.flush sink.out =
      ({ device := after, failures := sink.out.failures ++ failureOf answer }, answer) := by
    simp only [TextWriter.logged, Logged.after, reply]
  rw [flushed]
  cases answer with
  | ok =>
      have first : (sink.flush w.logged).firstErr = sink.firstErr := by
        unfold SinkState.flush
        rw [flushed]
      simp only [failureOf, List.append_nil]
      constructor
      · intro silent
        refine finish_congr (first.trans ?_)
        rw [(follows.all silent).1]
        rfl
      · intro ended
        cases follows with
        | inStep _ all _ _ => exact .inl ((carries.flushed reply).trans (held.trans all))
        | cut stopped _ _ pipe =>
            rcases stopped with closed | set
            · exact .inr (pipe closed)
            · rw [← first, firstErr_of_finish ended] at set
              cases set
  | error failure =>
      have first : sink.flush w.logged = record (.device failure)
          { sink with
            out := { device := after, failures := sink.out.failures ++ [failure] } } := by
        unfold SinkState.flush
        rw [flushed]
        rfl
      constructor
      · intro silent
        simp [failureOf] at silent
      · intro ended
        have unset := firstErr_of_finish ended
        rw [first] at unset
        exact .inr ⟨failure, by simp [failureOf], pipe_of_record unset⟩

/-- The end of `main` behind a trace that has ended well. -/
def finishedWith (globset : Globset) : Except IoError Unit → Outcome (MainError globset) Unit
  | .ok () => .ok ()
  | .error source => .err (.write source)

theorem finishedWith_ok {result : Except IoError Unit}
    (ended : finishedWith globset result = .ok ()) : result = .ok () := by
  cases result with
  | ok => rfl
  | error source => cases ended

theorem conclude_ok {Other : Type} {v : TextWriter Other WriteFailure} (unwinds : Bool)
    (tracer : Tracer) (sink : SinkState Other) (effects : List Effect) :
    conclude v unwinds globset { tracer, sink, effects, returned := some (.ok ()) } =
      ((sink.finish v).1, some (finishedWith globset (sink.finish v).2)) := by
  unfold conclude
  dsimp only
  rcases sink.finish v with ⟨out, result⟩
  cases result <;> rfl

theorem conclude_truncates (carries : w.Carries taken reached) (unwinds : Bool)
    {sink : LoggedSink Device} {whole : SinkState String} (follows : Follows taken sink whole)
    (tracer : Tracer) (effects : List Effect) (returned : Option (Except Core.Error Unit)) :
    Truncates taken reached
      (conclude w.logged unwinds globset
        { tracer, sink, effects, returned := returned.map .ofExcept })
      (conclude (.collector WriteFailure) unwinds globset
        { tracer, sink := whole, effects, returned := returned.map .ofExcept }) := by
  have held : taken (w.logged.flush sink.out).1.device = taken sink.out.device :=
    carries.held sink.out.device
  have kept : sink.out.failures <+: (w.logged.flush sink.out).1.failures :=
    List.prefix_append _ _
  have same : ∀ {out : Logged Device WriteFailure}, out = (w.logged.flush sink.out).1 →
      out.failures = [] → taken out.device = utf8Bytes whole.out := by
    rintro out rfl silent
    rw [silent, List.prefix_nil] at kept
    rw [held]
    exact (follows.all kept).2
  cases returned with
  | none =>
      refine ⟨follows.part, fun silent => ⟨(follows.all silent).2, rfl⟩, ?_⟩
      rintro ⟨⟩
  | some result =>
      cases result with
      | error source =>
          refine ⟨held ▸ follows.part, fun silent => ⟨same rfl silent, rfl⟩, ?_⟩
          rintro ⟨⟩
      | ok =>
          obtain ⟨silently, wholly⟩ := follows.finish carries
          have out := finish_out w.logged sink
          have whole' : (whole.finish (.collector WriteFailure)).1 = whole.out := finish_out _ _
          rw [show Option.map Outcome.ofExcept (some (Except.ok ())) =
            some (Outcome.ok () : Outcome Core.Error Unit) from rfl, conclude_ok, conclude_ok]
          refine ⟨?_, fun silent => ⟨?_, ?_⟩, fun ended => ?_⟩
          · rw [out, held, whole']
            exact follows.part
          · rw [whole']
            exact same out silent
          · rw [silently silent]
          · rw [whole']
            exact wholly (finishedWith_ok (Option.some.inj ended))

/-- A session on a device that may fail, next to the same session on the one that accepts
everything. -/
theorem session_truncates {Device : Type} (crates : Crates) (w : TextWriter Device WriteFailure)
    {taken reached : Device → List UInt8} (carries : w.Carries taken reached) (unwinds : Bool)
    (globset : Globset) (cli : Cli) (isTerminal : Bool) (started : SetUp)
    (resumed : Except Errno Unit) (answers : List (Host × WaitAnswer)) (out : Device)
    (fresh : taken out = [])
    (returns : (session crates (.collector WriteFailure) unwinds globset cli isTerminal started ""
      resumed answers).2 ≠ some .panicked) :
    Truncates taken reached
      (session crates w.logged unwinds globset cli isTerminal started
        { device := out, failures := [] } resumed answers)
      (session crates (.collector WriteFailure) unwinds globset cli isTerminal started "" resumed
        answers) := by
  have start : Follows taken
      (SinkState.new { device := out, failures := [] } cli.output (cli.prettyConfig isTerminal)
        started.registry started.filter)
      (.new "" cli.output (cli.prettyConfig isTerminal) started.registry started.filter) :=
    .inStep rfl fresh rfl rfl
  have factors := fun {Other : Type} (v : TextWriter Other WriteFailure) sink =>
    @traceRun_factors Other crates v started.tracer sink resumed answers
  unfold session at returns ⊢
  cases ran : (SinkState.new "" cli.output (cli.prettyConfig isTerminal) started.registry
      started.filter).handleAll crates (.collector WriteFailure)
      (observedBy crates started.tracer resumed answers) with
  | err error => cases error
  | panicked =>
      refine absurd ?_ returns
      obtain ⟨returned, _⟩ := (factors _ _).panicked ran
      unfold conclude
      rw [returned]
  | ok last =>
      obtain ⟨next, handled, follows⟩ := start.handleAll carries Pretty.PrettyState.narrow_new
        (fun observation member => (observedBy_namedBy _ _ _ observation member).narrow) ran
      rw [(factors _ _).ok last ran, (factors _ _).ok next handled]
      exact conclude_truncates carries unwinds follows _ _ _

end Endings

end Loi
