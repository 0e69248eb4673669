import Loi.Main
import Loi.Output.ReturnValues
import Loi.Syscalls.Footprints

/-! What a traced process can bring the sink to: how much of whose memory it reads, and
whether it panics. -/

set_option autoImplicit false

namespace Loi

open Nix Foundation Loi.Core Syscalls Output Memory Spawn

namespace SinkState

/-- The same event on a host of the same build, which answers `reads` alike. -/
structure SeenAlike (reads : List VmRead) (observation other : Host × SyscallEvent) : Prop where
  event : other.2 = observation.2
  profile : other.1.profile = observation.1.profile
  arch : other.1.arch = observation.1.arch
  agree : AgreeOn reads observation.1.answers other.1.answers

/-- Reads of the process that an event is about, within the bounds of one event. -/
structure OwnReads (observation : Host × SyscallEvent) (reads : List VmRead) : Prop where
  count : reads.length ≤ MOST_READS
  bytes : (reads.map VmRead.len).sum ≤ MOST_BYTES
  own : ∀ read ∈ reads, read.pid = observation.2.pid

section Reads

variable {crates : Crates} {host : Host} {registry : Registry}

/-- What `decode` makes of the answer of a decoder. -/
def received (event : SyscallEvent) (category : Category) :
    Outcome DecodeError DecodedCall → Outcome Empty (DecodedCall × Option Category)
  | .ok decoded => .ok (decoded, some category)
  | .err _ => .ok (fallbackDecoded event, none)
  | .panicked => .panicked

theorem decodeEvent_known {event : SyscallEvent} {decoder : Decoder}
    (known : registry.decoder crates.table event.syscallNr = some decoder) (host : Host) :
    decodeEvent crates registry (host, event) =
      received event decoder.category
        (decoder.decode host { pid := event.pid, args := event.args, ret := event.ret }) := by
  unfold decodeEvent decode
  simp only [new, known]
  generalize decoder.decode host { pid := event.pid, args := event.args, ret := event.ret } =
    answer
  rcases answer with decoded | error | _
  all_goals rfl

/-- What is written of an event is what a decoder made of it, or its registers. -/
theorem decodeEvent_cases {host' : Host} {event : SyscallEvent} {decoded : DecodedCall}
    {category : Option Category}
    (decodes : decodeEvent crates registry (host', event) = .ok (decoded, category)) :
    decoded = fallbackDecoded event ∨
      ∃ sysno decoder, crates.table.fromNr event.syscallNr = some sysno ∧
        registry.decoders sysno = some decoder ∧
        decoder.decode host' { pid := event.pid, args := event.args, ret := event.ret } =
          .ok decoded := by
  cases known : registry.decoder crates.table event.syscallNr with
  | none =>
      simp only [decodeEvent, decode, new, known] at decodes
      cases decodes
      exact .inl rfl
  | some decoder =>
      obtain ⟨sysno, row, found⟩ := Option.bind_eq_some_iff.mp known
      rw [decodeEvent_known known] at decodes
      cases answered : decoder.decode host'
          { pid := event.pid, args := event.args, ret := event.ret } with
      | panicked =>
          rw [answered] at decodes
          cases decodes
      | err error =>
          rw [answered] at decodes
          cases decodes
          exact .inl rfl
      | ok call =>
          rw [answered] at decodes
          cases decodes
          exact .inr ⟨sysno, decoder, row, found, answered⟩

theorem decodeEvent_readsOf (built : Registry.withDefaultDecoders host crates.table = .ok registry)
    (observation : Host × SyscallEvent) :
    ReadsOf observation.2.pid observation.1 MOST_READS MOST_BYTES fun host =>
      decodeEvent crates registry (host, observation.2) := by
  obtain ⟨host', event⟩ := observation
  cases known : registry.decoder crates.table event.syscallNr with
  | none =>
      have fallback : ∀ host, decodeEvent crates registry (host, event) =
          .ok (fallbackDecoded event, none) := by
        intro host
        simp only [decodeEvent, decode, new, known]
      exact (ReadsOf.silent fun _ => (fallback _).trans (fallback _).symm).weaken
        (Nat.zero_le _) (Nat.zero_le _)
  | some decoder =>
      obtain ⟨sysno, _, found⟩ := Option.bind_eq_some_iff.mp known
      have default := Registry.withDefaultDecoders_default built found
      refine ((defaultDecoder_reads default host'
        { pid := event.pid, args := event.args, ret := event.ret }).map
          (received event decoder.category)).congr ?_
      exact fun answers => decodeEvent_known known (host'.answering answers)

theorem decodeEvent_reads (built : Registry.withDefaultDecoders host crates.table = .ok registry)
    (observation : Host × SyscallEvent) :
    ∃ reads, OwnReads observation reads ∧ ∀ other, SeenAlike reads observation other →
      decodeEvent crates registry other = decodeEvent crates registry observation := by
  obtain ⟨reads, footprint⟩ := decodeEvent_readsOf built observation
  refine ⟨reads, ⟨footprint.count, footprint.total, footprint.permitted⟩, ?_⟩
  rintro ⟨host', event⟩ ⟨sameEvent, profile, arch, agree⟩
  have same : observation.1.answering host'.answers = host' := by
    unfold Host.answering
    rw [← profile, ← arch]
    rfl
  have rests := footprint.rests host'.answers agree
  rw [same] at rests
  dsimp only at sameEvent
  rw [sameEvent]
  exact rests

variable {Device : Type} {w : TextWriter Device WriteFailure} {sink : SinkState Device}

theorem write_profile {host other : Host} (same : other.profile = host.profile)
    (item : Pretty.Rendered) : sink.write crates w other item = sink.write crates w host item := by
  unfold write
  rw [same]

theorem handle_alike {observation other : Host × SyscallEvent} (event : other.2 = observation.2)
    (profile : other.1.profile = observation.1.profile)
    (decodes : decodeEvent crates sink.registry other =
      decodeEvent crates sink.registry observation) :
    sink.handle crates w other.1 other.2 = sink.handle crates w observation.1 observation.2 := by
  have admits : sink.admitted crates other.1 other.2 =
      sink.admitted crates observation.1 observation.2 := by
    unfold admitted
    rw [decode_eq_decodeEvent, decode_eq_decodeEvent, decodes, event]
  unfold handle
  rw [admits]
  simp only [write_profile profile]

/-- What the sink does is decided by at most `MOST_READS` reads for each event, of at most
`MOST_BYTES` bytes and all of the process that made the syscall. On hosts that answer these
alike, the runs are the same, over every device and whatever else is in any memory. -/
theorem handleAll_reads (crates : Crates) (host : Host) (registry : Registry)
    (built : Registry.withDefaultDecoders host crates.table = .ok registry) :
    ∃ reads : Host × SyscallEvent → List VmRead,
      (∀ observation, OwnReads observation (reads observation)) ∧
      ∀ observed others, List.Forall₂ (fun observation other =>
          SeenAlike (reads observation) observation other) observed others →
        ∀ (Device : Type) (w : TextWriter Device WriteFailure) (sink : SinkState Device),
          sink.registry = registry →
          sink.handleAll crates w others = sink.handleAll crates w observed := by
  choose reads own rests using @decodeEvent_reads crates host registry built
  refine ⟨reads, own, ?_⟩
  intro observed others alike Device w sink filled
  induction alike generalizing sink with
  | nil => rfl
  | @cons observation other observed others seen _ ih =>
      have decodes : decodeEvent crates sink.registry other =
          decodeEvent crates sink.registry observation := by
        rw [filled]
        exact rests observation other seen
      unfold handleAll
      rw [List.foldlM_cons, List.foldlM_cons, handle_alike seen.event seen.profile decodes]
      cases handled : sink.handle crates w observation.1 observation.2 with
      | err error => cases error
      | panicked => rfl
      | ok next => exact ih next ((handle_gates handled).1.trans filled)

/-- A host on which all memory is readable but that of process 7. -/
def readableNeighbours : Host :=
  { blindHost with
    processVmReadv := fun pid _ len =>
      if pid = 7 then .error .EFAULT else .ok (List.replicate len 65) }

theorem handleAll_reads_readableNeighbours :
    ∃ registry, Registry.withDefaultDecoders blindHost x86Table = .ok registry ∧
      (new "" .pretty (.new false) registry .empty).handleAll someCrates (.collector WriteFailure)
          [(readableNeighbours, deniedOpen.2)] =
        (new "" .pretty (.new false) registry .empty).handleAll someCrates
          (.collector WriteFailure) [deniedOpen] := by
  obtain ⟨registry, built⟩ :
      ∃ registry, Registry.withDefaultDecoders blindHost x86Table = .ok registry := ⟨_, rfl⟩
  obtain ⟨reads, own, same⟩ := handleAll_reads someCrates blindHost registry built
  refine ⟨registry, built, same [deniedOpen]
    [(readableNeighbours, deniedOpen.2)] (.cons ⟨rfl, rfl, rfl, ?_⟩ .nil) _ _ _ rfl⟩
  intro read member
  have seven : read.pid = 7 := (own deniedOpen).own read member
  simp [Host.answers, readableNeighbours, seven, deniedOpen, blindHost]

end Reads

end SinkState

namespace Syscalls

section Unchecked

variable {host : Host} (unchecked : host.profile.overflowChecks = false) (pid : Pid)

include unchecked

/-- Where nothing checks, the page arithmetic of a string goes round. -/
theorem readCstrLoop_unchecked (max fuel : Nat) (cursor : UInt64) (remaining : Nat)
    (out : List UInt8) : ¬ (readCstrLoop host pid max fuel cursor remaining out).Panics := by
  induction fuel generalizing cursor remaining out with
  | zero => exact Outcome.panics_err _
  | succ fuel ih =>
      by_cases done : remaining = 0
      · subst done
        exact Outcome.panics_err _
      · rw [readCstrLoop_round (.inl unchecked) pid max fuel out done, Outcome.bind_panics_iff_left]
        · exact readBytes_panics host pid cursor _
        · intro bytes
          cases bytes.findIdx? (· = 0) with
          | some index => exact Outcome.panics_ok _
          | none => exact ih _ _ _

theorem decodePath_unchecked (addr : UInt64) : ¬ (decodePath host pid addr).Panics := by
  rw [decodePath, Outcome.bind_panics_iff_left (fun _ => Outcome.panics_pure _),
    Outcome.mapErr_panics]
  exact readCstrLoop_unchecked unchecked pid _ _ _ _ _

theorem decodeArgvEntry_unchecked (addr : UInt64) : ¬ (decodeArgvEntry host pid addr).Panics := by
  rw [decodeArgvEntry, Outcome.bind_panics_iff_left (fun _ => Outcome.panics_pure _),
    Outcome.mapErr_panics]
  exact readCstrLoop_unchecked unchecked pid _ _ _ _ _

omit unchecked in
theorem readPtrSlot_panics (host : Host) (addr : UInt64) :
    ¬ (readPtrSlot host pid addr).Panics := by
  rw [readPtrSlot, Outcome.bind_panics_iff, Outcome.mapErr_panics]
  rintro (first | ⟨bytes, read, later⟩)
  · exact readBytes_panics host pid addr _ first
  · cases answered : readBytes host pid addr PTR_BYTES with
    | ok found =>
        rw [answered] at read
        cases read
        rw [if_pos (readBytes_length answered)] at later
        exact Outcome.panics_pure _ later
    | err error =>
        rw [answered] at read
        cases read
    | panicked =>
        rw [answered] at read
        cases read

theorem walkArgvLoop_unchecked (rounds : Nat) (cursor : UInt64) (entries : List String) :
    ¬ (walkArgvLoop host pid rounds cursor entries).Panics := by
  induction rounds generalizing cursor entries with
  | zero => exact Outcome.panics_ok _
  | succ rounds ih =>
      rw [walkArgvLoop, Outcome.bind_panics_iff_left]
      · rw [Outcome.attempt_panics]
        exact readPtrSlot_panics pid host cursor
      · rintro (error | ptr)
        · dsimp only
          split
          · exact Outcome.panics_err _
          · exact Outcome.panics_ok _
        · dsimp only
          split
          · exact Outcome.panics_ok _
          · rw [Outcome.bind_panics_iff_left]
            · rw [Outcome.attempt_panics]
              exact decodeArgvEntry_unchecked unchecked pid ptr
            · rintro (error | entry)
              · exact Outcome.panics_ok _
              · exact ih _ _

theorem execve_unchecked (ctx : DecodeCtx) : ¬ (Execve.decode host ctx).Panics := by
  simp only [Execve]
  rw [Outcome.bind_panics_iff_left]
  · exact decodePath_unchecked unchecked ctx.pid _
  · intro pathname
    rw [Outcome.bind_panics_iff_left (fun _ => Outcome.panics_pure _), walkArgv,
      Outcome.bind_panics_iff_left (fun _ => Outcome.panics_pure _)]
    exact walkArgvLoop_unchecked unchecked ctx.pid _ _ _

omit pid in
/-- No default decoder panics in a build that does not check for overflow. -/
theorem defaultDecoder_unchecked {arch : Libc.Arch} {decoder : Decoder}
    (default : decoder ∈ (Registry.defaultDecoders arch).map Prod.snd) (ctx : DecodeCtx) :
    ¬ (decoder.decode host ctx).Panics := by
  have path : ∀ {addr : UInt64} {next : String → Outcome DecodeError DecodedCall},
      (∀ path, ¬ (next path).Panics) → ¬ (decodePath host ctx.pid addr >>= next).Panics := by
    intro addr next safe
    rw [Outcome.bind_panics_iff_left safe]
    exact decodePath_unchecked unchecked ctx.pid addr
  rcases defaultDecoder_rows default with
    rfl | rfl | rfl | rfl | rfl | rfl | rfl | rfl | rfl | rfl | rfl | rfl
  · exact path fun _ => fdCall_safe host _ _
  · exact read_safe host ctx
  · exact write_safe host ctx
  · exact fdCall_safe host _ _
  · exact fdCall_safe host _ _
  · exact path fun _ => fdCall_safe host _ _
  · exact fdCall_safe host _ _
  · exact Outcome.panics_pure _
  · exact execve_unchecked unchecked ctx
  · exact Outcome.panics_pure _
  · exact wait4_safe host ctx
  · exact path fun _ => Outcome.panics_pure _

end Unchecked

end Syscalls

namespace SinkState

section Returns

variable {Device : Type} {crates : Crates} {w : TextWriter Device WriteFailure} {host : Host}
  {sink : SinkState Device}

/-- An event on which the build that decodes it panics nowhere: every event where nothing
checks for overflow. Else its value is not the least one, and no string that its decoder
reads leads to the last page of the address space. -/
def Harmless (crates : Crates) (observation : Host × SyscallEvent) : Prop :=
  observation.1.profile.overflowChecks = false ∨
    observation.2.ret ≠ Int64.minValue ∧
      (∀ row ∈ Registry.defaultDecoders observation.1.arch, crates.table.Covers row.1) ∧
      ∃ memory, Serves observation.1 observation.2.pid memory ∧
        ∀ sysno, crates.table.fromNr observation.2.syscallNr = some sysno →
          ¬ StringRunsOffTop memory
            { pid := observation.2.pid, args := observation.2.args, ret := observation.2.ret } sysno

theorem Harmless.negates {observation : Host × SyscallEvent}
    (harmless : Harmless crates observation) :
    Negates observation.1.profile observation.2.ret :=
  harmless.imp_right And.left

theorem Harmless.decode {observation : Host × SyscallEvent}
    (harmless : Harmless crates observation)
    (built : Registry.withDefaultDecoders host crates.table = .ok sink.registry)
    (arch : observation.1.arch = host.arch) :
    ∃ call, sink.decode crates observation.1 observation.2 = .ok call := by
  obtain ⟨host', event⟩ := observation
  unfold SinkState.decode
  cases known : sink.registry.decoder crates.table event.syscallNr with
  | none => exact ⟨_, rfl⟩
  | some decoder =>
      obtain ⟨sysno, row, found⟩ := Option.bind_eq_some_iff.mp known
      have returns : ¬ (decoder.decode host'
          { pid := event.pid, args := event.args, ret := event.ret }).Panics := by
        by_cases checked : host'.profile.overflowChecks = true
        · rcases harmless with unchecked | ⟨_, covers, memory, serves, low⟩
          · cases checked.symm.trans unchecked
          · have rows : (sysno, decoder) ∈ Registry.defaultDecoders host'.arch := by
              obtain ⟨filled, fills, held⟩ :=
                Registry.withDefaultDecoders_ok host (arch ▸ covers)
              rw [built] at fills
              cases fills
              exact arch.symm ▸ held sysno decoder found
            rw [defaultDecoder_panics_iff checked serves rows]
            exact low sysno row
        · exact defaultDecoder_unchecked (by simpa using checked)
            (Registry.withDefaultDecoders_default built found) _
      dsimp only
      cases decodes : decoder.decode host'
          { pid := event.pid, args := event.args, ret := event.ret } with
      | ok decoded => exact ⟨_, rfl⟩
      | err error => exact ⟨_, rfl⟩
      | panicked => exact absurd decodes returns

theorem Harmless.handle {observation : Host × SyscallEvent}
    (harmless : Harmless crates observation)
    (built : Registry.withDefaultDecoders host crates.table = .ok sink.registry)
    (arch : observation.1.arch = host.arch) (format : sink.format ≠ .raw)
    (narrow : sink.prettyState.Narrow) (named : Pretty.NarrowName observation.2) :
    ∃ next, sink.handle crates w observation.1 observation.2 = .ok next := by
  obtain ⟨call, decodes⟩ := harmless.decode built arch
  obtain ⟨admits, admitted, only⟩ : ∃ admits, sink.admitted crates observation.1 observation.2 =
      .ok admits ∧ ∀ item, admits = some item → item.event = observation.2 := by
    unfold SinkState.admitted
    rw [decodes]
    split_ifs
    · exact ⟨none, rfl, nofun⟩
    · exact ⟨none, rfl, nofun⟩
    · rw [Outcome.ok_bind]
      dsimp only
      split_ifs
      · exact ⟨none, rfl, nofun⟩
      · refine ⟨_, rfl, ?_⟩
        intro item same
        cases same
        rfl
  unfold SinkState.handle
  rw [admitted, Outcome.ok_bind]
  cases admits with
  | none => exact ⟨sink, rfl⟩
  | some item =>
      obtain ⟨errno, resolved⟩ : ∃ errno, errnoOfRet observation.1.profile crates.tables
          item.event.ret = (.ok errno : Outcome IoError _) := by
        rw [only item rfl]
        exact errnoOfRet_ok harmless.negates crates.tables
      have fits : Pretty.Fits sink.cfg sink.prettyState item.event :=
        narrow.fits sink.cfg (only item rfl ▸ named)
      have returns : (sink.write crates w observation.1 item).2 ≠ .panicked := by
        unfold SinkState.write
        cases written : sink.format with
        | pretty => exact Pretty.writeEvent_neverPanics resolved crates.palette w fits _
        | json => exact Json.writeEvent_neverPanics resolved crates.serializer w _ _
        | raw => exact absurd written format
      dsimp only
      rcases wrote : sink.write crates w observation.1 item with ⟨after, outcome⟩
      rw [wrote] at returns
      cases outcome with
      | ok => exact ⟨after, rfl⟩
      | err error => exact ⟨after.record error, rfl⟩
      | panicked => exact absurd rfl returns

theorem handleAll_returns {observed : List (Host × SyscallEvent)}
    (harmless : ∀ observation ∈ observed, Harmless crates observation)
    (arch : ∀ observation ∈ observed, observation.1.arch = host.arch)
    (built : Registry.withDefaultDecoders host crates.table = .ok sink.registry)
    (format : sink.format ≠ .raw) (narrow : sink.prettyState.Narrow)
    (named : ∀ observation ∈ observed, Pretty.NarrowName observation.2) :
    ∃ final, sink.handleAll crates w observed = .ok final := by
  induction observed generalizing sink with
  | nil => exact ⟨sink, rfl⟩
  | cons observation rest ih =>
      have first := named observation List.mem_cons_self
      obtain ⟨next, handled⟩ := (harmless observation List.mem_cons_self).handle built
        (arch observation List.mem_cons_self) format narrow first
      unfold handleAll
      rw [List.foldlM_cons, handled]
      refine ih (fun other member => harmless other (.tail _ member))
        (fun other member => arch other (.tail _ member)) ?_ ?_
        (handle_narrow narrow first handled)
        (fun other member => named other (.tail _ member))
      · rw [(handle_gates handled).1]
        exact built
      · rw [handle_format handled]
        exact format

end Returns

end SinkState

section Main

open SinkState

variable {globset : Globset} {fromRaw : Int32 → Errno} {host : Host} {crates : Crates} {cli : Cli}

/-- The registration asserts that the table knows every default row, in a build that does. -/
def Registers (host : Host) (table : SysnoTable) : Prop :=
  host.profile.debugAssertions = false ∨
    ∀ row ∈ Registry.defaultDecoders host.arch, table.Covers row.1

theorem register_unasserted {table : SysnoTable}
    (unasserted : host.profile.debugAssertions = false) (nr : UInt64) (decoder : Decoder)
    (registry : Registry) : ∃ filled, registry.register host table nr decoder = .ok filled := by
  unfold Registry.register
  split
  · exact ⟨_, rfl⟩
  · refine ⟨registry, ?_⟩
    simp [Profile.debugAssert, unasserted]

theorem withDefaultDecoders_returns {table : SysnoTable} (registers : Registers host table) :
    Registry.withDefaultDecoders host table ≠ .panicked := by
  rcases registers with unasserted | covers
  · have all : ∀ (rows : List (Sysno × Decoder)) (registry : Registry), ∃ filled, rows.foldlM
        (fun registry row => registry.register host table (table.id row.1) row.2) registry =
          .ok filled := by
      intro rows
      induction rows with
      | nil => exact fun registry => ⟨registry, rfl⟩
      | cons row rows ih =>
          intro registry
          obtain ⟨next, registered⟩ := register_unasserted unasserted (table.id row.1) row.2 registry
          rw [List.foldlM_cons, registered]
          exact ih next
    obtain ⟨filled, built⟩ := all (Registry.defaultDecoders host.arch) .new
    unfold Registry.withDefaultDecoders
    rw [built]
    nofun
  · obtain ⟨filled, built, _⟩ := Registry.withDefaultDecoders_ok host covers
    rw [built]
    nofun

theorem traceRun_returns {Device : Type} {w : TextWriter Device WriteFailure} {tracer : Tracer}
    {sink final : SinkState Device} {resumed : Except Errno Unit}
    {answers : List (Host × WaitAnswer)}
    (ran : sink.handleAll crates w (observedBy crates tracer resumed answers) = .ok final) :
    (traceRun crates w tracer sink resumed answers).returned ≠ some .panicked := by
  rw [(traceRun_factors tracer sink resumed answers).ok final ran]
  intro panicked
  obtain ⟨result, _, same⟩ := Option.map_eq_some_iff.mp panicked
  cases result <;> cases same

theorem conclude_returns {Device : Type} {w : TextWriter Device WriteFailure} {unwinds : Bool}
    {run : LoopRun Device} (returned : run.returned ≠ some .panicked) :
    (conclude w unwinds globset run).2 ≠ some .panicked := by
  unfold conclude
  split
  · nofun
  · split <;> nofun
  · nofun
  · next panicked => exact absurd panicked returned

theorem session_returns {Device : Type} {w : TextWriter Device WriteFailure}
    {started : SetUp} (parts : SetUpFrom globset host crates.table cli started)
    (unwinds isTerminal : Bool) (out : Device) {resumed : Except Errno Unit}
    {answers : List (Host × WaitAnswer)}
    (arch : ∀ host' ∈ hostsOf answers, host'.arch = host.arch)
    (harmless : ∀ observation ∈ observedBy crates started.tracer resumed answers,
      Harmless crates observation) :
    (session crates w unwinds globset cli isTerminal started out resumed answers).2 ≠
      some .panicked := by
  obtain ⟨final, ran⟩ := @handleAll_returns Device crates w host
    (.new out cli.output (cli.prettyConfig isTerminal) started.registry started.filter)
    (observedBy crates started.tracer resumed answers) harmless
    (fun observation member => arch _ (observations_host_mem member)) parts.registry parts.output
    Pretty.PrettyState.narrow_new
    (fun observation member => (observedBy_namedBy _ _ _ observation member).narrow)
  exact conclude_returns (traceRun_returns ran)

/-- `main` never panics in a release build, whatever the command line, the kernel, the traced
processes and the output device do. In a build that checks for overflow it panics only behind
an event that is not harmless. -/
theorem main_never_panics (globset : Globset) (fromRaw : Int32 → Errno) (host : Host)
    (crates : Crates) (cli : Cli) (registers : Registers host crates.table)
    (events : List (Event Answer))
    (history : Program.History (setUp globset fromRaw host crates.table cli) events) :
    (∀ unread, setUp globset fromRaw host crates.table cli events ≠
      .returned .panicked unread) ∧
    ∀ started unread,
      setUp globset fromRaw host crates.table cli events = .returned (.ok started) unread →
      ∀ (Device : Type) (w : TextWriter Device WriteFailure) (unwinds isTerminal : Bool)
        (out : Device) (resumed : Except Errno Unit) (answers : List (Host × WaitAnswer)),
        (∀ host' ∈ hostsOf answers, host'.arch = host.arch) →
        (∀ observation ∈ observedBy crates started.tracer resumed answers,
          Harmless crates observation) →
        (session crates w unwinds globset cli isTerminal started out resumed answers).2 ≠
          some .panicked := by
  constructor
  · intro unread returned
    obtain ⟨_, _, ends⟩ := setUp_keeps.history history
    obtain ⟨_, _, _, asserted, _⟩ := ends .panicked unread returned
    exact withDefaultDecoders_returns registers (asserted rfl)
  · intro started unread returned Device w unwinds isTerminal out resumed answers arch harmless
    obtain ⟨parts, _⟩ := setUp_started history returned
    exact session_returns parts unwinds isTerminal out arch harmless

def releaseHost : Host :=
  { blindHost with profile := { overflowChecks := false, debugAssertions := false } }

theorem host_of_released {host : Host}
    (member : host ∈ hostsOf (failedOpen.map fun answer => (releaseHost, answer.2))) :
    host = releaseHost := by
  simpa [hostsOf, failedOpen] using member

/-- The same session in a release build, over a pipe without a reader. -/
theorem main_never_panics_closedPipe :
    ∃ started, SetUpFrom literalGlobs releaseHost x86Table jsonFailures started ∧
      (session someCrates closedPipe false literalGlobs jsonFailures true started () (.ok ())
        (failedOpen.map fun answer => (releaseHost, answer.2))).2 ≠ some .panicked := by
  obtain ⟨history, started, returned⟩ :=
    setUp_execedParent releaseHost someCrates jsonFailures (by decide) rfl rfl rfl
  obtain ⟨parts, _⟩ := setUp_started history returned
  refine ⟨started, parts, (main_never_panics literalGlobs Errno.mk releaseHost someCrates
    jsonFailures (.inl rfl) execedParent history).2 started [] returned Unit closedPipe false true ()
    (.ok ()) _ ?_ ?_⟩
  · intro host member
    rw [host_of_released member]
  · intro observation member
    left
    rw [host_of_released (observations_host_mem member)]
    rfl

end Main

end Loi
