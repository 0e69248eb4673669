import Loi.Shortfall
import Loi.ReadBack

/-! What can be read off an output that was cut short: the lines that are complete. -/

set_option autoImplicit false

namespace Loi

open Nix Foundation Loi.Core Syscalls Output

namespace Output.Pretty

open Segment

section Lines

variable {profile : Profile} {tables : Tables} {palette : Palette}

/-- What the styling adds is on the line that it styles. -/
theorem newline_written (onlySgr : palette.OnlySgr) {color : Bool} {segments : List Segment}
    (own : OwnSequences palette color segments) (single : '\n' ∉ (tokens segments).toList) :
    '\n' ∉ (written segments).toList := by
  induction segments with
  | nil => exact single
  | cons segment rest ih =>
      have ownRest : OwnSequences palette color rest :=
        fun sequence member => own sequence (.tail _ member)
      rw [tokens_cons, String.toList_append, List.mem_append, not_or] at single
      rw [written_cons, String.toList_append, List.mem_append, not_or]
      refine ⟨?_, ih ownRest single.2⟩
      cases segment with
      | plain text => exact single.1
      | sgr sequence =>
          obtain ⟨_, styling, either⟩ := own sequence List.mem_cons_self
          rcases either with rfl | rfl
          · exact (onlySgr styling).1.newline
          · exact (onlySgr styling).2.newline

theorem lineSegments_body (onlySgr : palette.OnlySgr) (documented : tables.Documented)
    {item : Rendered} (legible : item.Legible) {errno : Option (String × String)}
    (resolved : errnoOfRet profile tables item.event.ret = (.ok errno : Outcome IoError _))
    (cfg : PrettyConfig) (state : PrettyState) :
    ∃ body, written (lineSegments tables palette item cfg state errno) = body ++ "\n" ∧
      '\n' ∉ body.toList := by
  obtain ⟨segments, split⟩ : ∃ segments,
      lineSegments tables palette item cfg state errno = segments ++ [.plain "\n"] := ⟨_, rfl⟩
  have own : OwnSequences palette cfg.color (lineSegments tables palette item cfg state errno) :=
    ownSequences_lineSegments tables item cfg state errno
  have shown := tokens_lineSegments tables palette item cfg state errno
  rw [split] at own shown ⊢
  rw [tokens_append] at shown
  have body : tokens segments = lineBody tables item cfg state errno :=
    (String.append_left_inj _).mp shown
  refine ⟨written segments, written_append _ _, ?_⟩
  refine newline_written onlySgr (ownSequences_append.mp own).1 ?_
  rw [body]
  exact Reading.newline_lineBody documented legible resolved cfg state

/-- The text of a run is that of its lines, each of them on its own. -/
theorem textOf_lines (onlySgr : palette.OnlySgr) (documented : tables.Documented)
    {items : List Rendered} (legible : ∀ item ∈ items, item.Legible)
    (negates : ∀ item ∈ items, Negates profile item.event.ret) (cfg : PrettyConfig)
    {state : PrettyState} (narrow : state.Narrow) :
    ∃ bodies : List String, (∀ body ∈ bodies, '\n' ∉ body.toList) ∧
      ∀ count, textOf (calls profile tables palette cfg state (items.take count)) =
        linesOf (bodies.take count) := by
  induction items generalizing state with
  | nil =>
      refine ⟨[], fun body member => absurd member List.not_mem_nil, fun count => ?_⟩
      rw [List.take_nil, List.take_nil]
      rfl
  | cons item rest ih =>
      have negated := negates item List.mem_cons_self
      have named : NarrowName item.event := (legible item List.mem_cons_self).narrow
      have fits := narrow.fits cfg named
      obtain ⟨errno, resolved⟩ :
          ∃ errno, errnoOfRet profile tables item.event.ret = (.ok errno : Outcome IoError _) :=
        errnoOfRet_ok negated tables
      obtain ⟨body, text, single⟩ := lineSegments_body onlySgr documented
        (legible item List.mem_cons_self) resolved cfg state
      obtain ⟨bodies, singles, same⟩ :=
        ih (fun other member => legible other (.tail _ member))
          (fun other member => negates other (.tail _ member))
          ((narrow.widen cfg named).remember item)
      refine ⟨body :: bodies, List.forall_mem_cons.mpr ⟨single, singles⟩, ?_⟩
      intro count
      cases count with
      | zero => rfl
      | succ count =>
          rw [List.take_succ_cons, List.take_succ_cons, linesOf_cons, ← same,
            calls_cons_of_negates tables palette cfg negated fits,
            call_of_resolved tables palette cfg resolved fits, ← text]
          rfl

end Lines

end Output.Pretty

namespace SinkState

section Records

variable {crates : Crates} {registry : Registry}

theorem lineOf_body (escapes : Json.EscapesControls crates.serializer)
    {observation : Host × SyscallEvent} {line : String}
    (recorded : lineOf crates registry observation = .ok line) :
    ∃ body, line = body ++ "\n" ∧ '\n' ∉ body.toList := by
  obtain ⟨⟨decoded, _⟩, _, made⟩ := Outcome.bind_eq_ok_iff.mp recorded
  obtain ⟨errno, _, same⟩ := Outcome.bind_eq_ok_iff.mp made
  cases same
  refine ⟨_, rfl, fun member => ?_⟩
  have above := allChars_foldr (escapes _) '\n' member
  revert above
  decide

/-- The records of some events are their lines, each of them on its own. -/
theorem linesFrom_lines (escapes : Json.EscapesControls crates.serializer)
    {observed : List (Host × SyscallEvent)} {written text : String}
    (recorded : linesFrom crates registry written observed = .ok text) :
    ∃ bodies : List String, (∀ body ∈ bodies, '\n' ∉ body.toList) ∧
      text = written ++ linesOf bodies ∧
      (∀ count, linesFrom crates registry written (observed.take count) =
        .ok (written ++ linesOf (bodies.take count))) ∧
      List.Forall₂ (fun observation body =>
        lineOf crates registry observation = .ok (body ++ "\n")) observed bodies := by
  induction observed generalizing written with
  | nil =>
      cases recorded
      refine ⟨[], fun body member => absurd member List.not_mem_nil, by simp, fun count => ?_, .nil⟩
      rw [List.take_nil, List.take_nil, linesOf_nil, String.append_empty]
      rfl
  | cons observation rest ih =>
      have step : ∀ later, linesFrom crates registry written (observation :: later) =
          (lineOf crates registry observation >>= fun line =>
            linesFrom crates registry (written ++ line) later) := by
        intro later
        unfold linesFrom
        rw [List.foldlM_cons, bind_assoc]
        rfl
      rw [step] at recorded
      obtain ⟨line, first, recorded⟩ := Outcome.bind_eq_ok_iff.mp recorded
      obtain ⟨body, rfl, single⟩ := lineOf_body escapes first
      obtain ⟨bodies, singles, whole, same, each⟩ := ih recorded
      refine ⟨body :: bodies, List.forall_mem_cons.mpr ⟨single, singles⟩, ?_, ?_, .cons first each⟩
      · rw [whole, linesOf_cons, String.append_assoc]
      · intro count
        cases count with
        | zero => rw [List.take_zero, List.take_zero, linesOf_nil, String.append_empty]; rfl
        | succ count =>
            rw [List.take_succ_cons, List.take_succ_cons, step, first, Outcome.ok_bind, same,
              linesOf_cons, String.append_assoc]

end Records

end SinkState

open Spawn Output.Pretty

section Sessions

theorem endOf_ne_panicked {globset : Globset} (returned : Option (Except Core.Error Unit)) :
    returned.map (endOf globset) ≠ some .panicked := by
  cases returned with
  | none => exact nofun
  | some result => cases result <;> exact nofun

theorem session_json_panics {globset : Globset} {crates : Crates} {cli : Cli} {started : SetUp}
    (unwinds isTerminal : Bool) (json : cli.output = .json) {resumed : Except Errno Unit}
    {answers : List (Host × WaitAnswer)}
    (fits : ∀ observation ∈ observedBy crates started.tracer resumed answers,
      observation.2.duration < 2 ^ 64)
    (panicked : SinkState.linesFrom crates started.registry ""
      (selectedBy crates started resumed answers) = .panicked) :
    (session crates (.collector WriteFailure) unwinds globset cli isTerminal started "" resumed
      answers).2 = some .panicked := by
  have ran : (SinkState.new "" .json (cli.prettyConfig isTerminal) started.registry
      started.filter).handleAll crates (.collector WriteFailure)
        (observedBy crates started.tracer resumed answers) = .panicked := by
    have selects := @SinkState.handleAll_selects crates _ (new_running "" .json
      (cli.prettyConfig isTerminal) started.registry started.filter) rfl _ fits
    refine selects.trans ?_
    change (SinkState.linesFrom crates started.registry ""
      (selectedBy crates started resumed answers) >>= _) = _
    rw [panicked]
    rfl
  obtain ⟨returned, _⟩ := (traceRun_factors _ _ _ _).panicked ran
  unfold session conclude
  rw [json, returned]

/-- The output only ever lacks its end. Whatever the format, the filter and the device, and
wherever this fails, what it has taken is an initial part of what a device would have that
accepts everything: no event is left out in front of one that is shown, and none is shown
twice or out of order. Where there was no failure nothing is missing and `main` ends the same;
and it only ends well if all of it has reached the other side, or the pipe was closed there.
In the JSON format the complete lines of what has been seen are the records of the first of
the selected events. -/
theorem session_delivers {Device : Type} (crates : Crates) (w : TextWriter Device WriteFailure)
    (taken reached : Device → List UInt8) (carries : w.Carries taken reached) (unwinds : Bool)
    (globset : Globset) (cli : Cli) (isTerminal : Bool) (started : SetUp)
    (resumed : Except Errno Unit) (answers : List (Host × WaitAnswer)) (out : Device)
    (fresh : taken out = [])
    (returns : (session crates (.collector WriteFailure) unwinds globset cli isTerminal started ""
      resumed answers).2 ≠ some .panicked) :
    Truncates taken reached
      (session crates w.logged unwinds globset cli isTerminal started
        { device := out, failures := [] } resumed answers)
      (session crates (.collector WriteFailure) unwinds globset cli isTerminal started "" resumed
        answers) ∧
    (cli.output = .json → Json.EscapesControls crates.serializer →
      (∀ observation ∈ observedBy crates started.tracer resumed answers,
        observation.2.duration < 2 ^ 64) →
      ∀ seen, seen <+: taken (session crates w.logged unwinds globset cli isTerminal started
          { device := out, failures := [] } resumed answers).1.device →
        ∃ count text, CompleteLines seen text ∧
          SinkState.linesFrom crates started.registry ""
            ((selectedBy crates started resumed answers).take count) = .ok text) := by
  have truncates := session_truncates crates w carries unwinds globset cli isTerminal started
    resumed answers out fresh returns
  refine ⟨truncates, ?_⟩
  intro json escapes fits seen initial
  cases recorded : SinkState.linesFrom crates started.registry ""
      (selectedBy crates started resumed answers) with
  | err error => cases error
  | panicked => exact absurd (session_json_panics unwinds isTerminal json fits recorded) returns
  | ok text =>
      obtain ⟨bodies, single, whole, same, _⟩ := SinkState.linesFrom_lines escapes recorded
      have cut := initial.trans truncates.part
      rw [session_json unwinds isTerminal json fits recorded] at cut
      dsimp only at cut
      rw [whole, String.empty_append] at cut
      obtain ⟨count, complete⟩ := completeLines_of_prefix single cut
      refine ⟨count, _, complete, ?_⟩
      rw [same, String.empty_append]

instance {globset : Globset} (ended : Option (Outcome (MainError globset) Unit)) :
    Decidable (ended = some .panicked) :=
  match ended with
  | some .panicked => .isTrue rfl
  | none => .isFalse nofun
  | some (.ok _) => .isFalse nofun
  | some (.err _) => .isFalse nofun

/-- A disk with room for so many bytes. -/
def fullDisk (room : Nat) : ByteWriter (List UInt8) WriteFailure where
  writeAll written bytes :=
    if written.length + bytes.length ≤ room then (written ++ bytes, .ok ())
    else (written ++ bytes.take (room - written.length),
      .error (room - written.length, { kind := .os 28, raw := 28 }))
  flush written := (written, .ok ())

theorem fullDisk_carries (room : Nat) : (fullDisk room).Carries id id where
  accepted := by
    intro inner bytes after answer
    unfold fullDisk at answer
    dsimp only at answer
    split_ifs at answer
    · cases answer
      rfl
    · cases answer
  refused := by
    intro inner bytes after count failure answer
    unfold fullDisk at answer
    dsimp only at answer
    split_ifs at answer
    · cases answer
    · cases answer
      rfl
  held _ := rfl
  flushed := by
    intro inner after answer
    cases answer
    rfl
  behind _ := List.prefix_rfl

/-- The same, behind a buffer of eight bytes. -/
def bufferedDisk (room : Nat) : TextWriter (Buffered (List UInt8) 8) WriteFailure :=
  Buffered.writer (fullDisk room)

/-- Of two records the second is cut off, and the first has come through. -/
theorem session_delivers_bufferedDisk :
    ∃ started, SetUpFrom literalGlobs blindHost x86Table jsonCalls started ∧
      (session SinkState.someCrates (bufferedDisk 115).logged false literalGlobs jsonCalls true
          started { device := .new [], failures := [] } (.ok ())
          (closedTwice blindHost)).1.device.inner =
        utf8Bytes closedLine ++ utf8Bytes "\x7b\"args\":[\x7b\"na" ∧
      ∃ count, SinkState.linesFrom SinkState.someCrates started.registry ""
        ((selectedBy SinkState.someCrates started (.ok ()) (closedTwice blindHost)).take count) =
          .ok closedLine := by
  obtain ⟨history, started, returned⟩ :=
    setUp_execedParent blindHost SinkState.someCrates jsonCalls (by decide) rfl rfl rfl
  obtain ⟨parts, _⟩ := setUp_started history returned
  have inner : (session SinkState.someCrates (bufferedDisk 115).logged false literalGlobs jsonCalls
      true started { device := .new [], failures := [] } (.ok ())
      (closedTwice blindHost)).1.device.inner =
        utf8Bytes closedLine ++ utf8Bytes "\x7b\"args\":[\x7b\"na" := by
    cases returned
    decide +kernel
  refine ⟨started, parts, inner, ?_⟩
  obtain ⟨_, complete⟩ := session_delivers SinkState.someCrates (bufferedDisk 115) _ _
    (Buffered.writer_carries (fullDisk_carries 115)) false literalGlobs jsonCalls true started
    (.ok ()) (closedTwice blindHost) (.new []) rfl (by cases returned; decide +kernel)
  obtain ⟨count, text, lines, recorded⟩ := complete rfl Json.compact_escapes
    (by cases returned; decide) _ (List.prefix_append _ _)
  rw [inner] at lines
  have first : CompleteLines (utf8Bytes closedLine ++ utf8Bytes "\x7b\"args\":[\x7b\"na")
      closedLine :=
    ⟨⟨_, rfl, by decide⟩, .inr ⟨_, rfl⟩⟩
  exact ⟨count, lines.unique first ▸ recorded⟩

/-- Of lines that a device may have cut off, the first are complete; and all have reached the
other side where `main` has ended well on a pipe that was not closed. -/
theorem Truncates.lines {globset : Globset} {Device : Type} {taken reached : Device → List UInt8}
    {real : Logged Device WriteFailure × Option (Outcome (MainError globset) Unit)}
    {ended : Option (Outcome (MainError globset) Unit)} {bodies : List String}
    (truncates : Truncates taken reached real (linesOf bodies, ended))
    (single : ∀ body ∈ bodies, '\n' ∉ body.toList) :
    (∀ seen, seen <+: taken real.1.device →
      ∃ count, CompleteLines seen (linesOf (bodies.take count))) ∧
    (real.2 = some (.ok ()) → (∀ failure ∈ real.1.failures, failure.kind ≠ .brokenPipe) →
      reached real.1.device = utf8Bytes (linesOf bodies)) := by
  constructor
  · intro seen initial
    exact completeLines_of_prefix single (initial.trans truncates.part)
  · intro well unbroken
    rcases truncates.done well with all | ⟨failure, member, pipe⟩
    · exact all
    · exact absurd pipe (unbroken failure member)

/-- What is read off the text are these calls. -/
def ReadOff (crates : Crates) (registry : Registry) (hosts : List Host)
    (delivered : List Delivery) (text : String) (calls : List (Pid × Syscall)) : Prop :=
  ∃ readings, Reading.ofRun text = some readings ∧
    List.Forall₂ (Tells crates registry hosts delivered) calls readings

/-- Off whatever part of the output has been seen, the complete lines are read as the first of
the calls; and where `main` has ended well on a pipe that was not closed, all of them are there. -/
structure Salvaged {globset : Globset} {Device : Type} (crates : Crates) (registry : Registry)
    (hosts : List Host) (delivered : List Delivery) (taken reached : Device → List UInt8)
    (real : Logged Device WriteFailure × Option (Outcome (MainError globset) Unit))
    (calls : List (Pid × Syscall)) : Prop where
  part : ∀ seen, seen <+: taken real.1.device → ∃ count text, CompleteLines seen text ∧
    ReadOff crates registry hosts delivered text (calls.take count)
  all : real.2 = some (.ok ()) → (∀ failure ∈ real.1.failures, failure.kind ≠ .brokenPipe) →
    ∃ text, reached real.1.device = utf8Bytes text ∧
      ReadOff crates registry hosts delivered text calls

/-- A session is salvaged from a device that may fail if it can be read where none does. -/
theorem Truncates.salvaged {globset : Globset} {Device : Type} {crates : Crates}
    {registry : Registry} {hosts : List Host} {delivered : List Delivery}
    {taken reached : Device → List UInt8}
    {real : Logged Device WriteFailure × Option (Outcome (MainError globset) Unit)}
    {ended : Option (Outcome (MainError globset) Unit)} {profile : Profile} {cfg : PrettyConfig}
    {items : List Rendered} {calls : List (Pid × Syscall)}
    (truncates : Truncates taken reached real
      (textOf (Pretty.calls profile crates.tables crates.palette cfg .new items), ended))
    (onlySgr : crates.palette.OnlySgr) (texts : crates.tables.Documented)
    (decimal : WritesDecimals crates.tables) (legible : ∀ item ∈ items, item.Legible)
    (negates : ∀ item ∈ items, Negates profile item.event.ret)
    (tells : List.Forall₂ (Tells crates registry hosts delivered) calls
      (items.map (Reading.ofEvent crates.tables))) :
    Salvaged crates registry hosts delivered taken reached real calls := by
  have reads : ∀ count, ReadOff crates registry hosts delivered
      (textOf (Pretty.calls profile crates.tables crates.palette cfg .new (items.take count)))
      (calls.take count) := by
    intro count
    refine ⟨(items.take count).map (Reading.ofEvent crates.tables), ?_, ?_⟩
    · exact Reading.ofRun_calls profile crates.tables crates.palette onlySgr texts decimal
        (fun item member => legible item (List.mem_of_mem_take member))
        fun item member => negates item (List.mem_of_mem_take member)
    · rw [List.map_take]
      exact List.forall₂_take count tells
  obtain ⟨bodies, single, same⟩ := textOf_lines onlySgr texts legible negates cfg
    PrettyState.narrow_new
  have whole := same items.length
  rw [List.take_length] at whole
  rw [whole] at truncates
  obtain ⟨part, all⟩ :=
    truncates.lines fun body member => single body (List.mem_of_mem_take member)
  constructor
  · intro seen initial
    obtain ⟨count, complete⟩ := part seen initial
    rw [List.take_take, ← same] at complete
    exact ⟨_, _, complete, reads _⟩
  · intro well unbroken
    have every : calls.take items.length = calls :=
      List.take_of_length_le (by rw [tells.length_eq, List.length_map])
    have last := reads items.length
    rw [List.take_length, whole, every] at last
    exact ⟨_, all well unbroken, last⟩

/-- From the kernel to a reader behind a device that fails. As long as the set-up of `main`
succeeded, and in whatever order the kernel then reports the stops of the tree, in one build on
the architecture of the set-up in which no event can panic, whatever part of the output has come
through is read, up to its last newline, as the first calls of the tree that were completed and
satisfy the filter; and all of them are there if `main` ends well on a pipe that was not
closed. -/
theorem main_salvaged (unwinds : Bool) (globset : Globset) (fromRaw : Int32 → Errno)
    (host : Host) (crates : Crates) (cli : Cli) (isTerminal : Bool) (started : SetUp)
    (events unread : List (Event Answer))
    (history : Program.History (setUp globset fromRaw host crates.table cli) events)
    (returned : setUp globset fromRaw host crates.table cli events =
      .returned (.ok started) unread)
    (pretty : cli.output = .pretty) (table : crates.table.Documented host.arch)
    (onlySgr : crates.palette.OnlySgr) (texts : crates.tables.Documented)
    (decimal : WritesDecimals crates.tables) :
    ∃ root, started.tracer = .postSpawn root cli.followForks ∧
      ∀ profile resumed answers,
        Machine.Conforms (SystemLegal root) (statusesOf (answers.map Prod.snd)) →
        (∀ host' ∈ hostsOf answers, host'.profile = profile ∧ host'.arch = host.arch) →
        (∀ observation ∈ observedBy crates started.tracer resumed answers,
          SinkState.Harmless crates observation) →
        ∀ run, started.tracer.run crates.syscallNames resumed (answers.map Prod.snd) = run →
          ∃ calls, calls <+: systemTrace root cli.followForks run.delivered ∧
            ((∀ error, run.returned ≠ some (.error error)) →
              calls = systemTrace root cli.followForks run.delivered) ∧
            ∀ (Device : Type) (w : TextWriter Device WriteFailure)
              (taken reached : Device → List UInt8), w.Carries taken reached →
              ∀ out, taken out = [] →
                Salvaged crates started.registry (hostsOf answers) run.delivered taken reached
                  (session crates w.logged unwinds globset cli isTerminal started
                    { device := out, failures := [] } resumed answers)
                  (selectedCalls crates started calls
                    (observedBy crates started.tracer resumed answers)) := by
  obtain ⟨parts, root, tracer⟩ := setUp_started history returned
  refine ⟨root, tracer, ?_⟩
  intro profile resumed answers legal hosts harmless run ran
  obtain ⟨calls, initial, observed, whole⟩ := observedBy_traced tracer resumed answers legal ran
  obtain ⟨items, rendered, legible, negates, ends⟩ :=
    session_items unwinds isTerminal parts pretty table hosts harmless
  have tells := tells_of_rendered (selectedCalls_related observed) rendered
  refine ⟨calls, initial, whole, ?_⟩
  intro Device w taken reached carries out fresh
  have truncates := session_truncates crates w carries unwinds globset cli isTerminal started
    resumed answers out fresh (by
      rw [ends]
      exact endOf_ne_panicked _)
  rw [ends] at truncates
  exact truncates.salvaged onlySgr texts decimal legible negates tells

end Sessions

/-- `loi x` on a terminal. -/
def prettyCalls : Cli :=
  { jsonCalls with output := .pretty }

def closedShown : String :=
  "\x1b[2m[7]\x1b[0m \x1b[36;1mclose\x1b[0m(1) = \x1b[1m0\x1b[0m \x1b[2m<1ns>\x1b[0m" ++ "\n"

/-- The disk is full inside an escape sequence of the second line. The first one is read. -/
theorem main_salvaged_bufferedDisk :
    ∃ started, SetUpFrom literalGlobs releaseHost x86Table prettyCalls started ∧
      (session colorCrates (bufferedDisk 74).logged false literalGlobs prettyCalls true started
          { device := .new [], failures := [] } (.ok ()) (closedTwice releaseHost)).1.device.inner =
        utf8Bytes closedShown ++ utf8Bytes "\x1b[2m[7]\x1b[0m \x1b[36" ∧
      ∃ calls count readings, Reading.ofRun closedShown = some readings ∧
        readings.map Reading.ret = ["0"] ∧
        List.Forall₂ (Tells colorCrates started.registry (hostsOf (closedTwice releaseHost))
          (statusesOf ((closedTwice releaseHost).map Prod.snd)))
          ((selectedCalls colorCrates started calls
            (observedBy colorCrates started.tracer (.ok ()) (closedTwice releaseHost))).take count)
          readings := by
  obtain ⟨history, started, returned⟩ :=
    setUp_execedParent releaseHost colorCrates prettyCalls (by decide) rfl rfl rfl
  obtain ⟨parts, _⟩ := setUp_started history returned
  obtain ⟨root, made, salvaged⟩ := main_salvaged false literalGlobs Errno.mk releaseHost colorCrates
    prettyCalls true started execedParent [] history returned rfl x86Table_documented
    ansiPalette_onlySgr someTables_documented Reading.someTables_writesDecimals
  have inner : (session colorCrates (bufferedDisk 74).logged false literalGlobs prettyCalls true
      started { device := .new [], failures := [] } (.ok ())
      (closedTwice releaseHost)).1.device.inner =
        utf8Bytes closedShown ++ utf8Bytes "\x1b[2m[7]\x1b[0m \x1b[36" := by
    cases returned
    decide +kernel
  refine ⟨started, parts, inner, ?_⟩
  cases returned
  cases made
  obtain ⟨calls, _, _, devices⟩ := salvaged releaseHost.profile (.ok ()) (closedTwice releaseHost)
    (by decide) (fun host member => by rw [host_of_closedTwice member]; exact ⟨rfl, rfl⟩)
    (fun observation member => .inl
      (by rw [host_of_closedTwice (observations_host_mem member)]; rfl)) _ rfl
  obtain ⟨part, _⟩ := devices _ (bufferedDisk 74) _ _
    (Buffered.writer_carries (fullDisk_carries 74)) (.new []) rfl
  obtain ⟨count, text, lines, readings, read, tells⟩ := part _ (List.prefix_append _ _)
  have first : CompleteLines
      (utf8Bytes closedShown ++ utf8Bytes "\x1b[2m[7]\x1b[0m \x1b[36") closedShown :=
    ⟨⟨_, rfl, by decide⟩, .inr ⟨_, rfl⟩⟩
  rw [inner] at lines
  obtain rfl := lines.unique first
  refine ⟨calls, count, readings, read, ?_, tells⟩
  have values := congrArg (Option.map (List.map Reading.ret)) read
  exact Option.some.inj (values.symm.trans (by decide +kernel))

end Loi
