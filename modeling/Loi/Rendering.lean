import Loi.Output.Bursts
import Loi.Selection

/-! What the gates reject leaves no trace in the sink, in no format and on no device; so
the pretty output is a run of the formatter over the selected events alone. -/

set_option autoImplicit false

namespace Loi

open Nix Foundation Loi.Core Syscalls Output

namespace SinkState

section Gates

variable {Device : Type} {crates : Crates} {w : TextWriter Device WriteFailure}
  {sink next : SinkState Device} {observation : Host × SyscallEvent}

theorem handle_rejected
    (rejected : ¬ Selected crates sink.registry sink.filter observation) :
    sink.handle crates w observation.1 observation.2 = .ok sink := by
  by_cases stopped : sink.Stopped
  · exact stopped.handle
  · unfold handle
    rw [admitted_of_not_selected stopped rejected]
    rfl

theorem record_gates (error : IoError) :
    (sink.record error).registry = sink.registry ∧ (sink.record error).filter = sink.filter := by
  unfold record
  split_ifs <;> exact ⟨rfl, rfl⟩

theorem write_gates (host : Host) (item : Pretty.Rendered) :
    (sink.write crates w host item).1.registry = sink.registry ∧
      (sink.write crates w host item).1.filter = sink.filter := by
  unfold write
  split <;> exact ⟨rfl, rfl⟩

theorem handle_gates {host : Host} {event : SyscallEvent}
    (handled : sink.handle crates w host event = .ok next) :
    next.registry = sink.registry ∧ next.filter = sink.filter := by
  rcases handle_cases handled with ⟨_, rfl⟩ | ⟨item, _, ⟨_, rfl⟩ | ⟨error, _, rfl⟩⟩
  · exact ⟨rfl, rfl⟩
  · exact write_gates host item
  · rw [(record_gates error).1, (record_gates error).2]
    exact write_gates host item

theorem handle_narrow {host : Host} {event : SyscallEvent} (narrow : sink.prettyState.Narrow)
    (named : Pretty.NarrowName event)
    (handled : sink.handle crates w host event = .ok next) : next.prettyState.Narrow := by
  have wrote : ∀ item, sink.admitted crates host event = .ok (some item) →
      (sink.write crates w host item).1.prettyState.Narrow := by
    intro item admits
    rw [← (admitted_open admits).2] at named
    unfold write
    split
    · exact narrow.writeEvent _ _ _ w named _ _
    · exact narrow
    · exact narrow
  have recorded : ∀ (after : SinkState Device) error,
      (after.record error).prettyState = after.prettyState := by
    intro after error
    unfold record
    split_ifs <;> rfl
  rcases handle_cases handled with ⟨_, rfl⟩ | ⟨item, admits, ⟨_, rfl⟩ | ⟨error, _, rfl⟩⟩
  · exact narrow
  · exact wrote item admits
  · rw [recorded]
    exact wrote item admits

/-- The run over all events is the run over those that are selected. -/
theorem handleAll_rejects (observed : List (Host × SyscallEvent)) :
    sink.handleAll crates w observed =
      sink.handleAll crates w
        (observed.filter fun observation =>
          Selected crates sink.registry sink.filter observation) := by
  induction observed generalizing sink with
  | nil => rfl
  | cons observation rest ih =>
      by_cases selected : Selected crates sink.registry sink.filter observation
      · rw [List.filter_cons_of_pos (by simpa using selected)]
        unfold handleAll
        rw [List.foldlM_cons, List.foldlM_cons]
        cases handled : sink.handle crates w observation.1 observation.2 with
        | ok next =>
            obtain ⟨registry, filter⟩ := handle_gates handled
            have later := @ih next
            rw [registry, filter] at later
            exact later
        | err error => cases error
        | panicked => rfl
      · rw [List.filter_cons_of_neg (by simpa using selected)]
        unfold handleAll
        rw [List.foldlM_cons, handle_rejected selected]
        exact ih

end Gates

/-- What `write_event` is called with for an event. -/
def render (crates : Crates) (registry : Registry) (observation : Host × SyscallEvent) :
    Outcome Empty Pretty.Rendered := do
  let (decoded, category) ← decodeEvent crates registry observation
  return { event := observation.2, decoded, category }

theorem render_event {crates : Crates} {registry : Registry} {observation : Host × SyscallEvent}
    {item : Pretty.Rendered} (rendered : render crates registry observation = .ok item) :
    item.event = observation.2 := by
  obtain ⟨call, _, same⟩ := Outcome.bind_eq_ok_iff.mp rendered
  cases same
  rfl

def renderAll (crates : Crates) (registry : Registry)
    (observed : List (Host × SyscallEvent)) : Outcome Empty (List Pretty.Rendered) :=
  observed.mapM (render crates registry)

/-- The state that the formatter is left in by events it has written. -/
def stateAfter (cfg : Pretty.PrettyConfig) (state : Pretty.PrettyState)
    (items : List Pretty.Rendered) : Pretty.PrettyState :=
  items.foldl (fun state item => (state.widen cfg item.event).remember item) state

section Pretty

variable {crates : Crates} {profile : Profile} {sink : SinkState String}
  {observation : Host × SyscallEvent}

/-- One call of `write_event` behind what is written. -/
theorem write_pretty (pretty : sink.format = .pretty)
    (built : observation.1.profile = profile) {item : Pretty.Rendered}
    (fits : Pretty.Fits sink.cfg sink.prettyState item.event) :
    Negates profile item.event.ret →
      sink.write crates (.collector WriteFailure) observation.1 item =
        ({ sink with
            out := sink.out ++
              (Pretty.call profile crates.tables crates.palette sink.cfg sink.prettyState item).text
            prettyState := (sink.prettyState.widen sink.cfg item.event).remember item }, .ok ()) := by
  intro negates
  obtain ⟨errno, resolved⟩ :
      ∃ errno, errnoOfRet profile crates.tables item.event.ret = (.ok errno : Outcome IoError _) :=
    errnoOfRet_ok negates crates.tables
  unfold write
  rw [pretty, built]
  simp only [Pretty.writeEvent_collector resolved crates.palette fits,
    Pretty.call_of_resolved crates.tables crates.palette sink.cfg resolved fits]

theorem write_pretty_panics (pretty : sink.format = .pretty)
    (built : observation.1.profile = profile) {item : Pretty.Rendered}
    (fits : Pretty.Fits sink.cfg sink.prettyState item.event)
    (panics : ¬ Negates profile item.event.ret) :
    (sink.write crates (.collector WriteFailure) observation.1 item).2 = .panicked := by
  unfold write
  rw [pretty, built]
  exact Pretty.writeEvent_panics crates.tables crates.palette panics fits sink.out

theorem handle_pretty (running : ¬ sink.Stopped) (pretty : sink.format = .pretty)
    (built : observation.1.profile = profile)
    (fits : Pretty.Fits sink.cfg sink.prettyState observation.2)
    (selected : Selected crates sink.registry sink.filter observation) :
    sink.handle crates (.collector WriteFailure) observation.1 observation.2 =
      (render crates sink.registry observation >>= fun item =>
        if Negates profile item.event.ret then .ok
          { sink with
            out := sink.out ++
              (Pretty.call profile crates.tables crates.palette sink.cfg sink.prettyState item).text
            prettyState := (sink.prettyState.widen sink.cfg item.event).remember item }
        else .panicked) := by
  unfold handle render
  rw [admitted_of_selected running selected]
  cases decodeEvent crates sink.registry observation with
  | err error => cases error
  | panicked => rfl
  | ok call =>
      obtain ⟨decoded, category⟩ := call
      simp only [Outcome.ok_bind, Outcome.pure_eq_ok]
      split_ifs with negates
      · rw [@write_pretty crates profile sink observation pretty built
          { event := observation.2, decoded, category } fits negates]
      · have panicked := @write_pretty_panics crates profile sink observation pretty built
          { event := observation.2, decoded, category } fits negates
        rcases written : sink.write crates (.collector WriteFailure) observation.1
            { event := observation.2, decoded, category } with ⟨after, outcome⟩
        rw [written] at panicked
        dsimp only at panicked
        rw [panicked]

/-- What the sink has become behind the lines of some events. -/
def rendered (crates : Crates) (profile : Profile) (sink : SinkState String)
    (items : List Pretty.Rendered) : SinkState String :=
  { sink with
    out := sink.out ++ Pretty.textOf
      (Pretty.calls profile crates.tables crates.palette sink.cfg sink.prettyState items)
    prettyState := stateAfter sink.cfg sink.prettyState items }

theorem rendered_cons {item : Pretty.Rendered} (negates : Negates profile item.event.ret)
    (fits : Pretty.Fits sink.cfg sink.prettyState item.event) (rest : List Pretty.Rendered) :
    rendered crates profile sink (item :: rest) =
      rendered crates profile
        { sink with
          out := sink.out ++
            (Pretty.call profile crates.tables crates.palette sink.cfg sink.prettyState item).text
          prettyState := (sink.prettyState.widen sink.cfg item.event).remember item } rest := by
  unfold rendered
  rw [Pretty.calls_cons_of_negates crates.tables crates.palette sink.cfg negates fits]
  simp [Pretty.textOf, stateAfter, String.append_assoc]

theorem handleAll_pretty (running : ¬ sink.Stopped) (pretty : sink.format = .pretty)
    (narrow : sink.prettyState.Narrow) {observed : List (Host × SyscallEvent)}
    (named : ∀ observation ∈ observed, Pretty.NarrowName observation.2)
    (built : ∀ observation ∈ observed, observation.1.profile = profile)
    (selected : ∀ observation ∈ observed, Selected crates sink.registry sink.filter observation) :
    sink.handleAll crates (.collector WriteFailure) observed =
      (renderAll crates sink.registry observed >>= fun items =>
        if ∀ item ∈ items, Negates profile item.event.ret then
          .ok (rendered crates profile sink items)
        else .panicked) := by
  induction observed generalizing sink with
  | nil =>
      have start : rendered crates profile sink [] = sink := by
        simp [rendered, Pretty.textOf, Pretty.calls, stateAfter]
      have nothing : renderAll crates sink.registry [] = .ok [] := rfl
      rw [nothing, Outcome.ok_bind, if_pos (by simp), start]
      rfl
  | cons observation rest ih =>
      have first := named observation List.mem_cons_self
      have fits := narrow.fits sink.cfg first
      have step := handle_pretty running pretty (built observation List.mem_cons_self) fits
        (selected observation List.mem_cons_self)
      unfold handleAll renderAll
      rw [List.foldlM_cons, List.mapM_cons, step]
      cases rendering : render crates sink.registry observation with
      | err error => cases error
      | panicked => rfl
      | ok item =>
          have same : item.event = observation.2 := render_event rendering
          rw [← same] at first fits
          rw [Outcome.ok_bind, Outcome.ok_bind, bind_assoc]
          split_ifs with negates
          · have later := @ih { sink with
                out := sink.out ++ (Pretty.call profile crates.tables crates.palette sink.cfg
                  sink.prettyState item).text
                prettyState := (sink.prettyState.widen sink.cfg item.event).remember item }
              running pretty ((narrow.widen sink.cfg first).remember item)
              (fun other member => named other (.tail _ member))
              (fun other member => built other (.tail _ member))
              (fun other member => selected other (.tail _ member))
            rw [Outcome.ok_bind]
            refine Eq.trans later (congrArg _ (funext fun items => ?_))
            rw [Outcome.pure_eq_ok, Outcome.ok_bind, ← rendered_cons negates fits]
            simp [negates]
          · have stops : ∀ items : List Pretty.Rendered,
                ¬ ∀ other ∈ item :: items, Negates profile other.event.ret :=
              fun items all => negates (all item List.mem_cons_self)
            rw [Outcome.panicked_bind]
            cases rest.mapM (render crates sink.registry) with
            | err error => cases error
            | panicked => rfl
            | ok items => exact (if_neg (stops items)).symm

end Pretty

/-- The gates decide alone what the sink is about: on every device and in both formats the
run over the observed events is the run over the selected ones, so a rejected event moves
no column, opens no burst and ends none. The pretty output is then what successive calls of
the formatter write about the selected events, with nothing in between, as long as their names
are no wider than `std` takes. -/
theorem handleAll_selected {Device : Type} (crates : Crates)
    (w : TextWriter Device WriteFailure) (profile : Profile)
    (observed : List (Host × SyscallEvent))
    (built : ∀ observation ∈ observed, observation.1.profile = profile) :
    (∀ sink : SinkState Device, sink.handleAll crates w observed =
      sink.handleAll crates w
        (observed.filter fun observation =>
          Selected crates sink.registry sink.filter observation)) ∧
    ∀ cfg registry filter,
      (∀ observation ∈ observed, Pretty.NarrowName observation.2) →
      (new "" .pretty cfg registry filter).handleAll crates (.collector WriteFailure) observed =
        (renderAll crates registry
            (observed.filter fun observation => Selected crates registry filter observation) >>=
          fun items =>
            if ∀ item ∈ items, Negates profile item.event.ret then
              .ok (rendered crates profile (new "" .pretty cfg registry filter) items)
            else .panicked) := by
  refine ⟨fun sink => handleAll_rejects observed, ?_⟩
  intro cfg registry filter named
  rw [handleAll_rejects]
  have running : ¬ (new "" .pretty cfg registry filter).Stopped := by simp [Stopped, new]
  refine handleAll_pretty running rfl Pretty.PrettyState.narrow_new
    (fun observation member => named observation (List.mem_of_mem_filter member)) ?_ ?_
  · intro observation member
    exact built observation (List.mem_of_mem_filter member)
  · intro observation member
    exact of_decide_eq_true (List.mem_filter.mp member).2

/-- The two `getpid`s do not fail, and leave the column of the one line as narrow as it is. -/
theorem handleAll_selected_failing :
    ∃ next, (new "" .pretty (.new false) .new failing).handleAll someCrates
        (.collector WriteFailure) [getpidCall, deniedOpen, getpidCall] = .ok next ∧
      next.out =
        "[7] openat(4294967196, 4096, 0, 0, 0, 0) = -13 EACCES (Permission denied) <5ns>\n" := by
  have built : ∀ observation ∈ [getpidCall, deniedOpen, getpidCall],
      observation.1.profile = .dev := by decide
  have run := (handleAll_selected someCrates (.collector WriteFailure) .dev _ built).2
    (.new false) .new failing (by decide)
  exact ⟨_, run, by decide +kernel⟩

end SinkState

end Loi
