import Loi.Output.JsonReading
import Loi.Salvage

/-! From the kernel to a reader of the JSON format, whose lines may be cut off. -/

set_option autoImplicit false

namespace Loi

open Nix Foundation Loi.Core Syscalls Output Spawn

/-- The length of a buffer comes from a register. -/
theorem default_buffers {arch : Libc.Arch} {decoder : Decoder} {host : Host} {ctx : DecodeCtx}
    {decoded : DecodedCall}
    (default : decoder ∈ (Registry.defaultDecoders arch).map Prod.snd)
    (decodes : decoder.decode host ctx = .ok decoded) :
    ∀ arg ∈ decoded.args, Json.BufferFits arg := by
  have register : ∀ inline, Json.BufferFits ("buf", .bytes inline (ctx.args.get 2).toNat) := by
    rintro inline bytes total same
    cases same
    exact UInt64.toNat_lt _
  rcases defaultDecoder_rows default with
    rfl | rfl | rfl | rfl | rfl | rfl | rfl | rfl | rfl | rfl | rfl | rfl
  · obtain ⟨pathname, rfl⟩ := openAt_call decodes
    simp [Json.BufferFits]
  · obtain ⟨inline, _, rfl⟩ := read_call decodes
    simpa [Json.BufferFits] using register inline
  · obtain ⟨inline, _, rfl⟩ := write_call decodes
    simpa [Json.BufferFits] using register inline
  · rw [close_call decodes]
    simp [Json.BufferFits]
  · rw [fstat_call decodes]
    simp [Json.BufferFits]
  · obtain ⟨pathname, rfl⟩ := statx_call decodes
    simp [Json.BufferFits]
  · rw [mmap_call decodes]
    simp [Json.BufferFits]
  · cases decodes
    simp [Json.BufferFits]
  · obtain ⟨pathname, argv, rfl⟩ := execve_call decodes
    simp [Json.BufferFits]
  · cases decodes
    simp [Json.BufferFits]
  · obtain ⟨wstatus, shape, rfl⟩ := wait4_call decodes
    rcases shape with ⟨word, rfl⟩ | rfl <;> simp [Json.BufferFits]
  · obtain ⟨pathname, rfl⟩ := stat_call decodes
    simp [Json.BufferFits]

section Events

variable {crates : Crates} {host : Host} {registry : Registry}

theorem decodeEvent_buffers (built : Registry.withDefaultDecoders host crates.table = .ok registry)
    {observation : Host × SyscallEvent} {decoded : DecodedCall} {category : Option Category}
    (decodes : SinkState.decodeEvent crates registry observation = .ok (decoded, category)) :
    ∀ arg ∈ decoded.args, Json.BufferFits arg := by
  obtain ⟨host', event⟩ := observation
  rcases SinkState.decodeEvent_cases decodes with rfl | ⟨sysno, decoder, _, found, answered⟩
  · simp [fallbackDecoded, Json.BufferFits]
  · exact default_buffers (Registry.withDefaultDecoders_default built found) answered

/-- The record has the event in it, with what a decoder made of the memory that it found. -/
def RecordOf (crates : Crates) (registry : Registry) (observation : Host × SyscallEvent)
    (record : Json.Record) : Prop :=
  ∃ decoded category errno,
    SinkState.decodeEvent crates registry observation = .ok (decoded, category) ∧
    errnoOfRet observation.1.profile crates.tables observation.2.ret =
      (.ok errno : Outcome Empty _) ∧
    record = Json.Record.ofEvent observation.2 decoded errno

def readRecord (parse : String → Option Value) (line : List Char) : Option Json.Record :=
  parse (.ofList line) >>= Json.Record.ofValue

/-- The records of a text, one for each line. -/
def readRecords (parse : String → Option Value) : String → Option (List Json.Record) :=
  readLines (readRecord parse)

variable {parse : String → Option Value}

theorem lineOf_record (built : Registry.withDefaultDecoders host crates.table = .ok registry)
    (parses : Json.Parses crates.serializer parse) {observation : Host × SyscallEvent}
    (fits : observation.2.duration < 2 ^ 64) {body : String}
    (recorded : SinkState.lineOf crates registry observation = .ok (body ++ "\n")) :
    ∃ record, RecordOf crates registry observation record ∧
      readRecord parse body.toList = some record := by
  obtain ⟨⟨decoded, category⟩, decodes, made⟩ := Outcome.bind_eq_ok_iff.mp recorded
  obtain ⟨errno, resolved, same⟩ := Outcome.bind_eq_ok_iff.mp made
  have text := (String.append_left_inj _).mp (Outcome.ok.inj same)
  refine ⟨_, ⟨decoded, category, errno, decodes, resolved, rfl⟩, ?_⟩
  obtain ⟨value, read, alike⟩ := parses _
    (Json.representable_eventObject fits (decodeEvent_buffers built decodes) errno)
  rw [text] at read
  unfold readRecord
  rw [String.ofList_toList, read]
  exact (Json.Record.ofValue_respects alike).trans
    (Json.Record.ofValue_eventObject observation.2 decoded errno)

/-- The lines of some events are read as records of these. -/
theorem lines_records (built : Registry.withDefaultDecoders host crates.table = .ok registry)
    (parses : Json.Parses crates.serializer parse) {observed : List (Host × SyscallEvent)}
    (fits : ∀ observation ∈ observed, observation.2.duration < 2 ^ 64) {bodies : List String}
    (each : List.Forall₂ (fun observation body =>
      SinkState.lineOf crates registry observation = .ok (body ++ "\n")) observed bodies) :
    ∃ records, List.Forall₂ (RecordOf crates registry) observed records ∧
      List.Forall₂ (fun body record => readRecord parse body.toList = some record) bodies
        records := by
  induction each with
  | nil => exact ⟨[], .nil, .nil⟩
  | cons first _ ih =>
      obtain ⟨record, here, read⟩ :=
        lineOf_record built parses (fits _ List.mem_cons_self) first
      obtain ⟨records, later, reads⟩ := ih fun observation member => fits _ (.tail _ member)
      exact ⟨record :: records, .cons here later, .cons read reads⟩

end Events

section Sessions

/-- The record says of the call what its two stops had in their registers, with the arguments
as they were decoded on the host that was found at its exit stop. -/
def RecordsCall (crates : Crates) (registry : Registry) (hosts : List Host)
    (delivered : List Delivery) (call : Pid × Syscall) (record : Json.Record) : Prop :=
  ∃ observation, Observes crates.syscallNames hosts delivered call observation ∧
    RecordOf crates registry observation record

/-- What is read off the text are records of these calls. -/
def RecordedOff (crates : Crates) (registry : Registry) (hosts : List Host)
    (delivered : List Delivery) (parse : String → Option Value) (text : String)
    (calls : List (Pid × Syscall)) : Prop :=
  ∃ records, readRecords parse text = some records ∧
    List.Forall₂ (RecordsCall crates registry hosts delivered) calls records

/-- Off whatever part of the output has been seen, the complete lines are read as records of
the first of the calls; and where `main` has ended well on a pipe that was not closed, all of
them are there. -/
structure Recorded {globset : Globset} {Device : Type} (crates : Crates) (registry : Registry)
    (hosts : List Host) (delivered : List Delivery) (parse : String → Option Value)
    (taken reached : Device → List UInt8)
    (real : Logged Device WriteFailure × Option (Outcome (MainError globset) Unit))
    (calls : List (Pid × Syscall)) : Prop where
  part : ∀ seen, seen <+: taken real.1.device → ∃ count text, CompleteLines seen text ∧
    RecordedOff crates registry hosts delivered parse text (calls.take count)
  all : real.2 = some (.ok ()) → (∀ failure ∈ real.1.failures, failure.kind ≠ .brokenPipe) →
    ∃ text, reached real.1.device = utf8Bytes text ∧
      RecordedOff crates registry hosts delivered parse text calls

theorem Truncates.recorded {globset : Globset} {Device : Type} {crates : Crates}
    {registry : Registry} {hosts : List Host} {delivered : List Delivery}
    {parse : String → Option Value} {taken reached : Device → List UInt8}
    {real : Logged Device WriteFailure × Option (Outcome (MainError globset) Unit)}
    {ended : Option (Outcome (MainError globset) Unit)} {bodies : List String}
    {records : List Json.Record} {calls : List (Pid × Syscall)}
    (truncates : Truncates taken reached real (linesOf bodies, ended))
    (single : ∀ body ∈ bodies, '\n' ∉ body.toList)
    (reads : List.Forall₂ (fun body record => readRecord parse body.toList = some record) bodies
      records)
    (tells : List.Forall₂ (RecordsCall crates registry hosts delivered) calls records) :
    Recorded crates registry hosts delivered parse taken reached real calls := by
  obtain ⟨part, all⟩ := truncates.lines single
  constructor
  · intro seen initial
    obtain ⟨count, complete⟩ := part seen initial
    refine ⟨count, _, complete, records.take count, ?_, List.forall₂_take count tells⟩
    exact readLines_linesOf (fun body member => single body (List.mem_of_mem_take member))
      (List.forall₂_take count reads)
  · intro well unbroken
    exact ⟨_, all well unbroken, records, readLines_linesOf single reads, tells⟩

variable {globset : Globset} {host : Host} {crates : Crates} {cli : Cli} {started : SetUp}
  {parse : String → Option Value}

/-- A session whose events are harmless writes a line for each selected event, with a record
of it, and comes to its end. -/
theorem session_records (unwinds isTerminal : Bool)
    (parts : SetUpFrom globset host crates.table cli started) (json : cli.output = .json)
    (escapes : Json.EscapesControls crates.serializer)
    (parses : Json.Parses crates.serializer parse) {resumed : Except Errno Unit}
    {answers : List (Host × WaitAnswer)}
    (fits : ∀ observation ∈ observedBy crates started.tracer resumed answers,
      observation.2.duration < 2 ^ 64)
    (returns : (session crates (.collector WriteFailure) unwinds globset cli isTerminal started ""
      resumed answers).2 ≠ some .panicked) :
    ∃ bodies records, (∀ body ∈ bodies, '\n' ∉ body.toList) ∧
      (session crates (.collector WriteFailure) unwinds globset cli isTerminal started "" resumed
        answers).1 = linesOf bodies ∧
      List.Forall₂ (fun body record => readRecord parse body.toList = some record) bodies
        records ∧
      List.Forall₂ (RecordOf crates started.registry) (selectedBy crates started resumed answers)
        records := by
  cases recorded : SinkState.linesFrom crates started.registry ""
      (selectedBy crates started resumed answers) with
  | err error => cases error
  | panicked => exact absurd (session_json_panics unwinds isTerminal json fits recorded) returns
  | ok text =>
      obtain ⟨bodies, single, whole, _, each⟩ := SinkState.linesFrom_lines escapes recorded
      obtain ⟨records, held, reads⟩ := lines_records parts.registry parses
        (fun observation member => fits observation (List.mem_of_mem_filter member)) each
      refine ⟨bodies, records, single, ?_, reads, held⟩
      rw [session_json unwinds isTerminal json fits recorded, whole, String.empty_append]

/-- From the kernel to a reader of the JSON format. As long as the set-up of `main` succeeded,
and in whatever order the kernel then reports the stops of the tree, on a clock that fits 64
bits, on the architecture of the set-up and with no event that can panic, whatever part of the
output has come through is read, up to its last newline and with any parser that gives back
what was written but for the order of fields, as one record for each of the first calls of the
tree that were completed and satisfy the filter: process, number, name, arguments, value,
errno and nanoseconds of each. All of them are there if `main` ends well on a pipe that was not
closed. -/
theorem main_recorded (unwinds : Bool) (globset : Globset) (fromRaw : Int32 → Errno)
    (host : Host) (crates : Crates) (cli : Cli) (isTerminal : Bool) (started : SetUp)
    (events unread : List (Event Answer))
    (history : Program.History (setUp globset fromRaw host crates.table cli) events)
    (returned : setUp globset fromRaw host crates.table cli events =
      .returned (.ok started) unread)
    (json : cli.output = .json) (escapes : Json.EscapesControls crates.serializer)
    (parse : String → Option Value) (parses : Json.Parses crates.serializer parse) :
    ∃ root, started.tracer = .postSpawn root cli.followForks ∧
      ∀ resumed answers,
        Machine.Conforms (SystemLegal root) (statusesOf (answers.map Prod.snd)) →
        (∀ delivery ∈ statusesOf (answers.map Prod.snd), delivery.answers.now < 2 ^ 64) →
        (∀ host' ∈ hostsOf answers, host'.arch = host.arch) →
        (∀ observation ∈ observedBy crates started.tracer resumed answers,
          SinkState.Harmless crates observation) →
        ∀ run, started.tracer.run crates.syscallNames resumed (answers.map Prod.snd) = run →
          ∃ calls, calls <+: systemTrace root cli.followForks run.delivered ∧
            ((∀ error, run.returned ≠ some (.error error)) →
              calls = systemTrace root cli.followForks run.delivered) ∧
            ∀ (Device : Type) (w : TextWriter Device WriteFailure)
              (taken reached : Device → List UInt8), w.Carries taken reached →
              ∀ out, taken out = [] →
                Recorded crates started.registry (hostsOf answers) run.delivered parse taken reached
                  (session crates w.logged unwinds globset cli isTerminal started
                    { device := out, failures := [] } resumed answers)
                  (selectedCalls crates started calls
                    (observedBy crates started.tracer resumed answers)) := by
  obtain ⟨parts, root, tracer⟩ := setUp_started history returned
  refine ⟨root, tracer, ?_⟩
  intro resumed answers legal clock arch harmless run ran
  obtain ⟨calls, initial, observed, whole⟩ := observedBy_traced tracer resumed answers legal ran
  have returns : (session crates (.collector WriteFailure) unwinds globset cli isTerminal started ""
      resumed answers).2 ≠ some .panicked :=
    session_returns parts unwinds isTerminal "" arch harmless
  obtain ⟨bodies, records, single, text, reads, held⟩ := session_records unwinds isTerminal parts
    json escapes parses (observedBy_fits ran clock initial observed) returns
  have tells : List.Forall₂ (RecordsCall crates started.registry (hostsOf answers) run.delivered)
      (selectedCalls crates started calls (observedBy crates started.tracer resumed answers))
      records := related_through (selectedCalls_related observed) held
  refine ⟨calls, initial, whole, ?_⟩
  intro Device w taken reached carries out fresh
  have truncates := session_truncates crates w carries unwinds globset cli isTerminal started
    resumed answers out fresh returns
  have ends : session crates (.collector WriteFailure) unwinds globset cli isTerminal started ""
      resumed answers = (linesOf bodies, (session crates (.collector WriteFailure) unwinds globset
        cli isTerminal started "" resumed answers).2) := Prod.ext text rfl
  rw [ends] at truncates
  exact truncates.recorded single reads tells

end Sessions

/-- Two calls are completed, of which the disk has room for the record of the first. -/
theorem main_recorded_bufferedDisk :
    ∃ started, SetUpFrom literalGlobs releaseHost x86Table jsonCalls started ∧
      ∃ calls, calls.map Prod.fst = [7, 7] ∧
        Recorded SinkState.someCrates started.registry (hostsOf released)
          (statusesOf (released.map Prod.snd)) Json.readText
        (Buffered.held id) (fun buffered => buffered.inner)
        (session SinkState.someCrates (bufferedDisk 300).logged false literalGlobs jsonCalls true
          started { device := .new [], failures := [] } (.ok ()) released)
        (selectedCalls SinkState.someCrates started calls
          (observedBy SinkState.someCrates started.tracer (.ok ()) released)) := by
  obtain ⟨history, started, returned⟩ :=
    setUp_execedParent releaseHost SinkState.someCrates jsonCalls (by decide) rfl rfl rfl
  obtain ⟨parts, _⟩ := setUp_started history returned
  obtain ⟨root, made, recorded⟩ := main_recorded false literalGlobs Errno.mk releaseHost
    SinkState.someCrates jsonCalls true started execedParent [] history returned rfl
    Json.compact_escapes Json.readText Json.compact_parses
  refine ⟨started, parts, ?_⟩
  cases returned
  cases made
  obtain ⟨calls, _, whole, devices⟩ := recorded (.ok ()) released (by decide) (by decide)
    (fun host member => by rw [host_of_released member])
    (fun observation member => .inl (by rw [host_of_released (observations_host_mem member)]; rfl))
    _ rfl
  refine ⟨calls, ?_, devices _ (bufferedDisk 300) _ _
    (Buffered.writer_carries (fullDisk_carries 300)) (.new []) rfl⟩
  have complete := whole (by
    intro error failed
    cases failed)
  rw [complete]
  rfl

end Loi
