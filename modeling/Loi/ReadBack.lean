import Loi.Exposure
import Loi.Output.Reading

/-! The output of a whole session can be read back: the tracer names its events, and the
decoders their flags and targets, so that no line is ambiguous. -/

set_option autoImplicit false

namespace Loi

open Nix Foundation Loi.Core Syscalls Output Spawn Pretty

section Names

/-- A digit, a letter or an underscore. -/
def InIdentifier (c : Char) : Prop :=
  c.isDigit = true ∨ (65 ≤ c.toNat ∧ c.toNat ≤ 90) ∨ c = '_' ∨ (97 ≤ c.toNat ∧ c.toNat ≤ 122)

instance (c : Char) : Decidable (InIdentifier c) :=
  inferInstanceAs (Decidable (_ ∨ _ ∨ _ ∨ _))

def IsIdentifier (name : String) : Prop :=
  name ≠ "" ∧ AllChars InIdentifier name

instance (name : String) : Decidable (IsIdentifier name) :=
  inferInstanceAs (Decidable (_ ∧ _))

theorem InIdentifier.apart {c other : Char} (inside : InIdentifier c)
    (outside : ¬ InIdentifier other) : c ≠ other := by
  rintro rfl
  exact outside inside

theorem InIdentifier.bare {c : Char} (inside : InIdentifier c) : Bare c :=
  ⟨inside.apart (by decide), inside.apart (by decide), inside.apart (by decide),
    inside.apart (by decide)⟩

theorem InIdentifier.not_control {c : Char} (inside : InIdentifier c) : ¬ IsControl c := by
  rcases inside with digit | letter
  · exact (Printable.of_isDigit digit).not_control
  · have codes : (65 ≤ c.toNat ∧ c.toNat ≤ 90) ∨ c.toNat = 95 ∨
        (97 ≤ c.toNat ∧ c.toNat ≤ 122) := by
      rcases letter with upper | rfl | lower
      · exact .inl upper
      · decide
      · exact .inr (.inr lower)
    unfold IsControl
    omega

/-- The name of a number that the table does not have. -/
theorem synthetic_identifier (nr : UInt64) : IsIdentifier ("syscall_" ++ toString nr) := by
  refine ⟨?_, allChars_append.mpr ⟨by decide, ?_⟩⟩
  · intro empty
    exact absurd (String.append_eq_empty_iff.mp empty).1 (by decide)
  · exact allChars_natToString (fun c digit => .inl digit) nr.toNat

theorem decodeFlags_identifiers {table : FlagTable} (each : ∀ entry ∈ table, IsIdentifier entry.2)
    (raw : UInt64) : ∀ name ∈ decodeFlags raw table, IsIdentifier name := by
  intro name member
  unfold decodeFlags at member
  split at member
  · cases member
  · obtain ⟨entry, listed, rfl⟩ := List.mem_map.mp member
    exact each entry (List.mem_of_mem_filter listed)

theorem decodeProt_identifiers (raw : UInt64) : ∀ name ∈ decodeProt raw, IsIdentifier name := by
  unfold decodeProt
  split
  · decide
  · exact decodeFlags_identifiers (by decide) raw

theorem decodeOpenFlags_identifiers (arch : Libc.Arch) (raw : UInt64) :
    ∀ name ∈ decodeOpenFlags arch raw, IsIdentifier name := by
  have table : ∀ entry ∈ OPEN_FLAGS_TABLE arch, IsIdentifier entry.2 := by
    cases arch <;> decide
  intro name member
  rcases List.mem_append.mp member with mode | flag
  · unfold accessModeName at mode
    split_ifs at mode
    all_goals simp only [Option.toList_some, Option.toList_none, List.mem_singleton,
      List.not_mem_nil] at mode
    all_goals subst mode; decide
  · obtain ⟨entry, listed, rfl⟩ := List.mem_map.mp flag
    exact table entry (List.mem_of_mem_filter listed)

end Names

section Decoded

/-- A flag argument has identifiers for the names of its flags. -/
def FlagsNamed (arg : String × DecodedArg) : Prop :=
  ∀ names, arg.2 = .flags names → ∀ name ∈ names, IsIdentifier name

def QuotedTarget (arg : String × DecodedArg) : Prop :=
  isQuoted arg.2 = true → arg.1 = "pathname" ∧ arg.2.asPath.isSome = true

/-- What the default decoders return. Buffers are quoted too, but of no path lookup. -/
theorem default_call {arch : Libc.Arch} {sysno : Sysno} {decoder : Decoder} {host : Host}
    {ctx : DecodeCtx} {decoded : DecodedCall}
    (row : (sysno, decoder) ∈ Registry.defaultDecoders arch)
    (decodes : decoder.decode host ctx = .ok decoded) :
    (∀ arg ∈ decoded.args, FlagsNamed arg) ∧
      ((∀ arg ∈ decoded.args, QuotedTarget arg) ∨ sysno = .read ∨ sysno = .write) := by
  have rows : Registry.defaultDecoders arch ⊆
      [(.openat, OpenAt), (.read, Read), (.write, Write), (.close, Close), (.fstat, Fstat),
        (.statx, Statx), (.mmap, Mmap), (.mprotect, Mprotect), (.execve, Execve),
        (.clone, Clone), (.wait4, Wait4), (.stat, Stat)] := by
    cases arch <;> simp [Registry.defaultDecoders]
  have named : ∀ (table : FlagTable), (∀ entry ∈ table, IsIdentifier entry.2) →
      ∀ raw, ∀ name ∈ decodeFlags raw table, IsIdentifier name :=
    fun table each raw => decodeFlags_identifiers each raw
  have listed := rows row
  simp only [List.mem_cons, Prod.mk.injEq, List.not_mem_nil, or_false] at listed
  rcases listed with ⟨_, rfl⟩ | ⟨rfl, rfl⟩ | ⟨rfl, rfl⟩ | ⟨_, rfl⟩ | ⟨_, rfl⟩ | ⟨_, rfl⟩ |
    ⟨_, rfl⟩ | ⟨_, rfl⟩ | ⟨_, rfl⟩ | ⟨_, rfl⟩ | ⟨_, rfl⟩ | ⟨_, rfl⟩
  · obtain ⟨pathname, rfl⟩ := openAt_call decodes
    refine ⟨?_, .inl (by simp [QuotedTarget, isQuoted, DecodedArg.asPath])⟩
    simpa [FlagsNamed] using decodeOpenFlags_identifiers host.arch (ctx.args.get 2)
  · obtain ⟨inline, _, rfl⟩ := read_call decodes
    exact ⟨by simp [FlagsNamed], .inr (.inl rfl)⟩
  · obtain ⟨inline, _, rfl⟩ := write_call decodes
    exact ⟨by simp [FlagsNamed], .inr (.inr rfl)⟩
  · rw [close_call decodes]
    exact ⟨by simp [FlagsNamed], .inl (by simp [QuotedTarget, isQuoted])⟩
  · rw [fstat_call decodes]
    exact ⟨by simp [FlagsNamed], .inl (by simp [QuotedTarget, isQuoted])⟩
  · obtain ⟨pathname, rfl⟩ := statx_call decodes
    refine ⟨?_, .inl (by simp [QuotedTarget, isQuoted, DecodedArg.asPath])⟩
    simpa [FlagsNamed] using And.intro (named STATX_FLAGS_TABLE (by decide) (ctx.args.get 2))
      (named STATX_MASK_TABLE (by decide) (ctx.args.get 3))
  · rw [mmap_call decodes]
    refine ⟨?_, .inl (by simp [QuotedTarget, isQuoted])⟩
    simpa [FlagsNamed] using And.intro (decodeProt_identifiers (ctx.args.get 2))
      (named MAP_TABLE (by decide) (ctx.args.get 3))
  · cases decodes
    refine ⟨?_, .inl (by simp [QuotedTarget, isQuoted])⟩
    simpa [FlagsNamed] using decodeProt_identifiers ctx.args[2]
  · obtain ⟨pathname, argv, rfl⟩ := execve_call decodes
    exact ⟨by simp [FlagsNamed], .inl (by simp [QuotedTarget, isQuoted, DecodedArg.asPath])⟩
  · cases decodes
    refine ⟨?_, .inl (by simp [QuotedTarget, isQuoted])⟩
    simpa [FlagsNamed] using named CLONE_TABLE (by decide) ctx.args[0]
  · obtain ⟨wstatus, shape, rfl⟩ := wait4_call decodes
    have options := named OPTIONS_TABLE (by decide) (ctx.args.get 2)
    rcases shape with ⟨word, rfl⟩ | rfl
    all_goals exact ⟨by simpa [FlagsNamed] using options, .inl (by simp [QuotedTarget, isQuoted])⟩
  · obtain ⟨pathname, rfl⟩ := stat_call decodes
    exact ⟨by simp [FlagsNamed], .inl (by simp [QuotedTarget, isQuoted, DecodedArg.asPath])⟩

end Decoded

/-- What the `syscalls` crate documents of its table. -/
structure Syscalls.SysnoTable.Documented (arch : Libc.Arch) (table : SysnoTable) : Prop where
  covers : ∀ row ∈ Registry.defaultDecoders arch, table.Covers row.1
  identifier : ∀ sysno, IsIdentifier (table.name sysno)
  read : table.name .read = "read"
  write : table.name .write = "write"

section Events

variable {crates : Crates} {host : Host} {registry : Registry}
  {observation : Host × SyscallEvent} {item : Rendered}

theorem syscallName_identifier {arch : Libc.Arch} (table : crates.table.Documented arch)
    (nr : UInt64) : IsIdentifier (syscallName crates.syscallNames nr) := by
  unfold syscallName Crates.syscallNames Registry.name
  cases crates.table.fromNr nr with
  | some sysno => exact table.identifier sysno
  | none => exact synthetic_identifier nr

/-- A lookup is never decoded by the decoders of the two calls that have a buffer. -/
theorem decodeEvent_shaped {event : SyscallEvent} {host' : Host} {decoded : DecodedCall}
    {category : Option Category} (table : crates.table.Documented host.arch)
    (built : Registry.withDefaultDecoders host crates.table = .ok registry)
    (named : NamedBy crates.syscallNames event)
    (decodes : SinkState.decodeEvent crates registry (host', event) = .ok (decoded, category)) :
    (∀ arg ∈ decoded.args, FlagsNamed arg) ∧
      (isPathLookup event.syscallName = true → ∀ arg ∈ decoded.args, QuotedTarget arg) := by
  rcases SinkState.decodeEvent_cases decodes with
    rfl | ⟨sysno, decoder, row, found, answered⟩
  · simp [fallbackDecoded, FlagsNamed, QuotedTarget, isQuoted]
  · obtain ⟨filled, fills, held⟩ := Registry.withDefaultDecoders_ok host table.covers
    rw [built] at fills
    cases fills
    obtain ⟨flags, target⟩ := default_call (held sysno decoder found) answered
    refine ⟨flags, fun lookup => ?_⟩
    have name : event.syscallName = crates.table.name sysno := by
      rw [named, syscallName, Crates.syscallNames, Registry.name, row]
      rfl
    rcases target with target | rfl | rfl
    · exact target
    · rw [name, table.read] at lookup
      cases lookup
    · rw [name, table.write] at lookup
      cases lookup

theorem render_legible (table : crates.table.Documented host.arch)
    (built : Registry.withDefaultDecoders host crates.table = .ok registry)
    (named : NamedBy crates.syscallNames observation.2)
    (rendered : SinkState.render crates registry observation = .ok item) :
    item.event = observation.2 ∧ item.Legible := by
  obtain ⟨⟨decoded, category⟩, decodes, same⟩ := Outcome.bind_eq_ok_iff.mp rendered
  cases same
  refine ⟨rfl, ?_⟩
  obtain ⟨host', event⟩ := observation
  have identifier : IsIdentifier event.syscallName :=
    named ▸ syscallName_identifier table event.syscallNr
  obtain ⟨flags, target⟩ : (∀ arg ∈ decoded.args, FlagsNamed arg) ∧
      (isPathLookup event.syscallName = true → ∀ arg ∈ decoded.args, QuotedTarget arg) :=
    decodeEvent_shaped table built named decodes
  constructor
  · intro name member c among
    have inside : AllChars InIdentifier name := by
      rcases List.mem_cons.mp member with rfl | printed
      · exact identifier.2
      · obtain ⟨⟨label, arg⟩, held, listed⟩ := List.mem_flatMap.mp printed
        cases arg with
        | flags names => exact (flags _ held names rfl name listed).2
        | _ => cases listed
    exact (inside c among).not_control
  · exact named.narrow
  · exact identifier.1
  · exact identifier.2.imp fun c inside => ⟨inside.apart (by decide), inside.apart (by decide)⟩
  · intro label names member name among
    have found := flags _ member names rfl name among
    exact ⟨found.1, found.2.imp fun c => InIdentifier.bare⟩
  · exact fun lookup arg member => target lookup arg member

end Events

section Sessions

variable {globset : Globset} {fromRaw : Int32 → Errno} {host : Host} {crates : Crates} {cli : Cli}
  {started : SetUp}

theorem renderAll_ok {registry : Registry} {observed : List (Host × SyscallEvent)}
    (returns : ∀ observation ∈ observed, ∃ item,
      SinkState.render crates registry observation = .ok item) :
    ∃ items, SinkState.renderAll crates registry observed = .ok items ∧
      List.Forall₂ (fun observation item =>
        SinkState.render crates registry observation = .ok item) observed items := by
  induction observed with
  | nil => exact ⟨[], rfl, .nil⟩
  | cons observation rest ih =>
      obtain ⟨item, first⟩ := returns observation List.mem_cons_self
      obtain ⟨items, later, each⟩ := ih fun other member => returns other (.tail _ member)
      refine ⟨item :: items, ?_, .cons first each⟩
      unfold SinkState.renderAll at later ⊢
      rw [List.mapM_cons, first, later]
      rfl

/-- Under `Harmless` events and behind any set-up, a pretty session writes legible lines about
the selected events, and comes to its end. -/
theorem session_items (unwinds isTerminal : Bool) {profile : Profile}
    (parts : SetUpFrom globset host crates.table cli started) (pretty : cli.output = .pretty)
    (table : crates.table.Documented host.arch)
    {resumed : Except Errno Unit} {answers : List (Host × WaitAnswer)}
    (hosts : ∀ host' ∈ hostsOf answers, host'.profile = profile ∧ host'.arch = host.arch)
    (harmless : ∀ observation ∈ observedBy crates started.tracer resumed answers,
      SinkState.Harmless crates observation) :
    ∃ items, List.Forall₂ (fun observation item =>
        SinkState.render crates started.registry observation = .ok item)
        (selectedBy crates started resumed answers) items ∧
      (∀ item ∈ items, item.Legible) ∧ (∀ item ∈ items, Negates profile item.event.ret) ∧
      session crates (.collector WriteFailure) unwinds globset cli isTerminal started "" resumed
          answers =
        (Pretty.textOf (Pretty.calls profile crates.tables crates.palette
          (cli.prettyConfig isTerminal) .new items),
          (started.tracer.run crates.syscallNames resumed (answers.map Prod.snd)).returned.map
            (endOf globset)) := by
  have built : ∀ observation ∈ selectedBy crates started resumed answers,
      observation.1.profile = profile ∧ observation.1.arch = host.arch ∧
        SinkState.Harmless crates observation ∧ NamedBy crates.syscallNames observation.2 := by
    intro observation member
    have observed := List.mem_of_mem_filter member
    obtain ⟨built, arch⟩ := hosts _ (observations_host_mem observed)
    exact ⟨built, arch, harmless observation observed, observedBy_namedBy _ _ _ _ observed⟩
  obtain ⟨items, made, each⟩ := @renderAll_ok crates started.registry
    (selectedBy crates started resumed answers) (by
      intro observation member
      obtain ⟨_, arch, unharmed, _⟩ := built observation member
      have decodes : ∃ call, SinkState.decodeEvent crates started.registry observation = .ok call :=
        unharmed.decode parts.registry arch
      obtain ⟨call, decodes⟩ := decodes
      unfold SinkState.render
      rw [decodes]
      exact ⟨_, rfl⟩)
  have shown : ∀ item ∈ items, item.Legible ∧ Negates profile item.event.ret := by
    intro item member
    obtain ⟨observation, selected, rendered⟩ := related_of_mem_right each member
    obtain ⟨profile', _, unharmed, named⟩ := built observation selected
    obtain ⟨event, legible⟩ := render_legible table parts.registry named rendered
    refine ⟨legible, ?_⟩
    rw [event, ← profile']
    exact unharmed.negates
  have negates := fun item member => (shown item member).2
  exact ⟨items, each, fun item member => (shown item member).1, negates,
    session_pretty unwinds isTerminal pretty (fun host' member => (hosts host' member).1) made
      negates⟩

/-- The text of such a session is read as what its formatter was given. -/
theorem session_read_back (unwinds isTerminal : Bool) {profile : Profile}
    (parts : SetUpFrom globset host crates.table cli started) (pretty : cli.output = .pretty)
    (table : crates.table.Documented host.arch) (onlySgr : crates.palette.OnlySgr)
    (texts : crates.tables.Documented) (decimal : WritesDecimals crates.tables)
    {resumed : Except Errno Unit} {answers : List (Host × WaitAnswer)}
    (hosts : ∀ host' ∈ hostsOf answers, host'.profile = profile ∧ host'.arch = host.arch)
    (harmless : ∀ observation ∈ observedBy crates started.tracer resumed answers,
      SinkState.Harmless crates observation) :
    ∃ items, List.Forall₂ (fun observation item =>
        SinkState.render crates started.registry observation = .ok item)
        (selectedBy crates started resumed answers) items ∧
      Reading.ofRun (session crates (.collector WriteFailure) unwinds globset cli isTerminal started
        "" resumed answers).1 = some (items.map (Reading.ofEvent crates.tables)) := by
  obtain ⟨items, each, legible, negates, ends⟩ :=
    session_items unwinds isTerminal parts pretty table hosts harmless
  refine ⟨items, each, ?_⟩
  rw [ends]
  exact Reading.ofRun_calls profile crates.tables crates.palette onlySgr texts decimal legible
    negates

/-- The reading says of the call what its two stops had in their registers, with the arguments
as they are decoded on the host that was found at its exit stop. -/
def Tells (crates : Crates) (registry : Registry) (hosts : List Host) (delivered : List Delivery)
    (call : Pid × Syscall) (reading : Reading) : Prop :=
  ∃ observation item, Observes crates.syscallNames hosts delivered call observation ∧
    SinkState.render crates registry observation = .ok item ∧
    reading = Reading.ofEvent crates.tables item

/-- The calls whose events satisfy every active gate. -/
def selectedCalls (crates : Crates) (started : SetUp) (calls : List (Pid × Syscall))
    (observed : List (Host × SyscallEvent)) : List (Pid × Syscall) :=
  ((calls.zip observed).filter fun pair =>
    SinkState.Selected crates started.registry started.filter pair.2).map Prod.fst

theorem selectedCalls_related {related : Pid × Syscall → Host × SyscallEvent → Prop}
    {calls : List (Pid × Syscall)} {observed : List (Host × SyscallEvent)}
    (pairs : List.Forall₂ related calls observed) :
    List.Forall₂ related (selectedCalls crates started calls observed)
      (observed.filter fun observation =>
        SinkState.Selected crates started.registry started.filter observation) := by
  induction pairs with
  | nil => exact .nil
  | @cons call observation calls observed first _ ih =>
      unfold selectedCalls
      rw [List.zip_cons_cons, List.filter_cons, List.filter_cons]
      dsimp only
      split
      · exact .cons first ih
      · exact ih

theorem tells_of_rendered {hosts : List Host} {delivered : List Delivery}
    {calls : List (Pid × Syscall)} {observed : List (Host × SyscallEvent)} {items : List Rendered}
    (observes : List.Forall₂ (Observes crates.syscallNames hosts delivered) calls observed)
    (rendered : List.Forall₂ (fun observation item =>
      SinkState.render crates started.registry observation = .ok item) observed items) :
    List.Forall₂ (Tells crates started.registry hosts delivered) calls
      (items.map (Reading.ofEvent crates.tables)) := by
  refine List.forall₂_map_right_iff.mpr ((related_through observes rendered).imp ?_)
  rintro call item ⟨observation, here, made⟩
  exact ⟨observation, item, here, made, rfl⟩

/-- From the kernel to the reader. Behind a set-up of `main` that succeeded, and in whatever
order the kernel then reports the stops of the tree, in one build on the architecture of the
set-up and as long as no event can panic in it, what the pretty format leaves in any of its
configurations is enough to read off the history of the tree: for each syscall that was
completed and satisfies the filter, in the order of the exit stops, the process, the name, the
arguments as decoded at its exit stop, the value and the duration. -/
theorem main_read_back (unwinds : Bool) (globset : Globset) (fromRaw : Int32 → Errno)
    (host : Host) (crates : Crates) (cli : Cli) (isTerminal : Bool) (started : SetUp)
    (events unread : List (Event Answer))
    (history : Program.History (setUp globset fromRaw host crates.table cli) events)
    (returned : setUp globset fromRaw host crates.table cli events =
      .returned (.ok started) unread)
    (pretty : cli.output = .pretty) (table : crates.table.Documented host.arch)
    (onlySgr : crates.palette.OnlySgr) (texts : crates.tables.Documented)
    (decimal : WritesDecimals crates.tables) :
    ∃ root, started.tracer = .postSpawn root cli.followForks ∧
      ∀ profile resumed answers,
        Machine.Conforms (SystemLegal root) (statusesOf (answers.map Prod.snd)) →
        (∀ host' ∈ hostsOf answers, host'.profile = profile ∧ host'.arch = host.arch) →
        (∀ observation ∈ observedBy crates started.tracer resumed answers,
          SinkState.Harmless crates observation) →
        ∀ run, started.tracer.run crates.syscallNames resumed (answers.map Prod.snd) = run →
          ∃ calls readings,
            calls <+: systemTrace root cli.followForks run.delivered ∧
            ((∀ error, run.returned ≠ some (.error error)) →
              calls = systemTrace root cli.followForks run.delivered) ∧
            Reading.ofRun (session crates (.collector WriteFailure) unwinds globset cli isTerminal
              started "" resumed answers).1 = some readings ∧
            List.Forall₂ (Tells crates started.registry (hostsOf answers) run.delivered)
              (selectedCalls crates started calls (observedBy crates started.tracer resumed answers))
              readings := by
  obtain ⟨parts, root, tracer⟩ := setUp_started history returned
  refine ⟨root, tracer, ?_⟩
  intro profile resumed answers legal hosts harmless run ran
  obtain ⟨calls, initial, observed, whole⟩ := observedBy_traced tracer resumed answers legal ran
  obtain ⟨items, rendered, read⟩ := session_read_back unwinds isTerminal parts pretty table onlySgr
    texts decimal hosts harmless
  exact ⟨calls, _, initial, whole, read,
    tells_of_rendered (selectedCalls_related observed) rendered⟩

end Sessions

theorem x86Table_documented : x86Table.Documented .x86_64 := by
  refine ⟨by decide, ?_, rfl, rfl⟩
  intro sysno
  cases sysno with
  | other nr => exact synthetic_identifier nr
  | _ => decide

/-- `loi --fail x` on a terminal. -/
def prettyFailures : Cli :=
  { jsonFailures with output := .pretty }

def colorCrates : Crates :=
  { SinkState.someCrates with palette := ansiPalette }

/-- The same run under a release build. -/
def released : List (Host × WaitAnswer) :=
  failedOpen.map fun answer => (releaseHost, answer.2)

theorem released_harmless {observation : Host × SyscallEvent}
    (member : observation.1 ∈ hostsOf released) : SinkState.Harmless colorCrates observation := by
  left
  rw [host_of_released member]
  rfl

/-- The one call that fails is read off the terminal. -/
theorem main_read_back_failedOpen :
    ∃ started, SetUpFrom literalGlobs releaseHost x86Table prettyFailures started ∧
      ∃ calls readings,
        Reading.ofRun (session colorCrates (.collector WriteFailure) false literalGlobs
          prettyFailures true started "" (.ok ()) released).1 = some readings ∧
        readings.map Reading.ret = ["-13"] ∧
        List.Forall₂ (Tells colorCrates started.registry (hostsOf released)
          (statusesOf (released.map Prod.snd)))
          (selectedCalls colorCrates started calls
            (observedBy colorCrates started.tracer (.ok ()) released)) readings := by
  obtain ⟨history, started, returned⟩ :=
    setUp_execedParent releaseHost colorCrates prettyFailures (by decide) rfl rfl rfl
  obtain ⟨parts, _⟩ := setUp_started history returned
  obtain ⟨root, made, read⟩ := main_read_back false literalGlobs Errno.mk releaseHost colorCrates
    prettyFailures true started execedParent [] history returned rfl x86Table_documented
    ansiPalette_onlySgr someTables_documented Reading.someTables_writesDecimals
  refine ⟨started, parts, ?_⟩
  cases returned
  cases made
  obtain ⟨calls, readings, _, _, text, tells⟩ := read releaseHost.profile (.ok ())
    released (by decide)
    (fun host member => by rw [host_of_released member]; exact ⟨rfl, rfl⟩)
    (fun observation member => released_harmless (observations_host_mem member)) _ rfl
  refine ⟨calls, readings, text, ?_, tells⟩
  have values := congrArg (Option.map (List.map Reading.ret)) text
  exact Option.some.inj (values.symm.trans (by decide +kernel))

end Loi
