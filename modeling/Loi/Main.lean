import Loi.Core.FollowForks
import Loi.Core.SpawnProtocol
import Loi.Core.Trace
import Loi.FilterStrings
import Loi.Rendering

/-! The binary as a whole: its set-up, and the run loop with the sink called from inside
the handlers. -/

set_option autoImplicit false

namespace Loi

open Nix Foundation Loi.Core Syscalls Output Spawn SinkState

/-- The command line, as `clap` has parsed it. -/
structure Cli where
  command : List String
  output : OutputFormat
  syscall : Option String
  fail : Bool
  path : Option String
  followForks : Bool
  noCategoryColors : Bool
  noDimLookups : Bool
  noGroupLookups : Bool

inductive MainError (globset : Globset) where
  | rawOutput
  | filter (source : FilterError globset)
  | spawn (source : SpawnError)
  | trace (source : Core.Error)
  | write (source : IoError)

/-- The context that each error is given on its way out. -/
def MainError.message {globset : Globset} : MainError globset → String
  | .rawOutput => "--output raw is not implemented in 0.1; use pretty or json"
  | .filter _ => "invalid filter pattern"
  | .spawn _ => "spawn failed"
  | .trace _ => "trace failed"
  | .write _ => "write failed"

def Cli.prettyConfig (isTerminal : Bool) (cli : Cli) : Pretty.PrettyConfig :=
  { Pretty.PrettyConfig.new (cli.output = .pretty && isTerminal) with
    categoryColors := !cli.noCategoryColors
    dimLookups := !cli.noDimLookups
    groupLookups := !cli.noGroupLookups }

structure SetUp where
  filter : Filter
  registry : Registry
  tracer : Tracer

/-- `main` up to `with_follow_forks`. -/
def setUp (globset : Globset) (fromRaw : Int32 → Errno) (host : Host) (table : SysnoTable)
    (cli : Cli) : Process (Outcome (MainError globset) SetUp) :=
  if cli.output = .raw then return .err .rawOutput
  else
    match Filter.parse globset cli.syscall cli.fail cli.path with
    | .error source => return .err (.filter source)
    | .ok filter =>
        match Registry.withDefaultDecoders host table with
        | .err error => nomatch error
        | .panicked => return .panicked
        | .ok registry => do
            match ← spawn fromRaw cli.command with
            | .error source => return .err (.spawn source)
            | .ok tracer =>
                return .ok
                  { filter, registry, tracer := tracer.withFollowForks cli.followForks }

/-- A run of the tracer with the sink as its callback. -/
structure LoopRun (Device : Type) where
  tracer : Tracer
  sink : SinkState Device
  effects : List Effect
  returned : Option (Outcome Core.Error Unit)

section Loop

variable {Device : Type} (crates : Crates) (w : TextWriter Device WriteFailure)

/-- `loi_syscalls::name`, from which the tracer has the names of its events. -/
abbrev Crates.syscallNames : UInt64 → Option String :=
  Registry.name crates.table

/-- The `while` loop of `run`, the sink called by each handler. The sink reads the memory
of the tracee that is stopped, so each answer comes with the host that it finds. A panic of
the sink unwinds out of the handler before the tracee is resumed. -/
def traceLoop (tracer : Tracer) (sink : SinkState Device) :
    List (Host × WaitAnswer) → LoopRun Device
  | [] =>
      { tracer, sink, effects := []
        returned := if tracer.tracees = ∅ then some (.ok ()) else none }
  | (host, answer) :: rest =>
      if tracer.tracees = ∅ then { tracer, sink, effects := [], returned := some (.ok ()) }
      else
        match answer with
        | .errno errno =>
            if errno = Errno.ECHILD then
              { tracer, sink, effects := []
                returned := some
                  (if tracer.rootPid ∈ tracer.tracees then .err .traceeGone else .ok ()) }
            else if errno = Errno.EINTR then traceLoop tracer sink rest
            else { tracer, sink, effects := [], returned := some (.err (.ptrace errno)) }
        | .status delivery =>
            let handled := handleStatus crates.syscallNames tracer delivery
            let events := sunk handled.outputs
            match sink.handleAll crates w (events.map (Prod.mk host)) with
            | .err error => nomatch error
            | .panicked =>
                { tracer := handled.state, sink, effects := events.map .sink
                  returned := some .panicked }
            | .ok sink =>
                match handled.result with
                | .error error =>
                    { tracer := handled.state, sink, effects := handled.outputs
                      returned := some (.err error) }
                | .ok () =>
                    let later := traceLoop handled.state sink rest
                    { later with effects := handled.outputs ++ later.effects }

/-- `tracer.run(|ev| state.handle(ev))`. -/
def traceRun (tracer : Tracer) (sink : SinkState Device) (resumed : Except Errno Unit)
    (answers : List (Host × WaitAnswer)) : LoopRun Device :=
  match resumed with
  | .error errno =>
      { tracer, sink, effects := [.resume tracer.rootPid none]
        returned := some (.err (.ptrace errno)) }
  | .ok () =>
      let loop := traceLoop crates w tracer sink answers
      { loop with effects := .resume tracer.rootPid none :: loop.effects }

/-- The end of `main`, behind a run. Without `finish` the writer is flushed as it is
dropped, and no error of that is seen. A build that does not unwind, as the release profile
has it, drops nothing on a panic. -/
def conclude (unwinds : Bool) (globset : Globset) (run : LoopRun Device) :
    Device × Option (Outcome (MainError globset) Unit) :=
  match run.returned with
  | none => (run.sink.out, none)
  | some (.ok ()) =>
      match run.sink.finish w with
      | (out, .ok ()) => (out, some (.ok ()))
      | (out, .error source) => (out, some (.err (.write source)))
  | some (.err source) => ((w.flush run.sink.out).1, some (.err (.trace source)))
  | some .panicked =>
      (if unwinds then (w.flush run.sink.out).1 else run.sink.out, some .panicked)

/-- `main` behind its set-up: what it leaves on the device, and how it ends, if it does. -/
def session (unwinds : Bool) (globset : Globset) (cli : Cli) (isTerminal : Bool) (setUp : SetUp)
    (out : Device) (resumed : Except Errno Unit) (answers : List (Host × WaitAnswer)) :
    Device × Option (Outcome (MainError globset) Unit) :=
  conclude w unwinds globset (traceRun crates w setUp.tracer
    (.new out cli.output (cli.prettyConfig isTerminal) setUp.registry setUp.filter) resumed answers)

end Loop

/-- The hosts that the sink may find, one for each status. -/
def hostsOf (answers : List (Host × WaitAnswer)) : List Host :=
  answers.filterMap fun
    | (host, .status _) => some host
    | (_, .errno _) => none

section Fusion

variable {Device : Type} {crates : Crates} {w : TextWriter Device WriteFailure}

/-- A run with its sink inside, next to the run of the tracer alone and the events that
this hands on. -/
structure Factors (crates : Crates) (w : TextWriter Device WriteFailure) (run : TracerRun)
    (observed : List (Host × SyscallEvent)) (sink : SinkState Device) (fused : LoopRun Device) :
    Prop where
  ok : ∀ final, sink.handleAll crates w observed = .ok final →
    fused = { tracer := run.tracer, sink := final, effects := run.effects
              returned := run.returned.map .ofExcept }
  panicked : sink.handleAll crates w observed = .panicked →
    fused.returned = some .panicked ∧ fused.effects <+: run.effects

theorem Factors.silent (tracer : Tracer) (sink : SinkState Device)
    (returned : Option (Except Core.Error Unit)) :
    Factors crates w { tracer, delivered := [], effects := [], returned } [] sink
      { tracer, sink, effects := [], returned := returned.map .ofExcept } := by
  constructor
  · intro final ran
    cases ran
    rfl
  · intro ran
    cases ran

theorem sinksFirst_resume {State : Type} (state : State) (pid : Pid) (signal : Option Signal)
    (answers : Answers) (events : List SyscallEvent) :
    (sunk (resumeTracee state (events.map .sink) pid signal answers).outputs).map Effect.sink <+:
      (resumeTracee state (events.map .sink) pid signal answers).outputs := by
  have told : sunk (events.map Effect.sink) = events := by
    simp [sunk, List.filterMap_map]
  rw [resumeTracee_outputs, sunk_append, told, sunk_resume, List.append_nil]
  exact List.prefix_append _ _

/-- A handler calls the sink before it asks for anything else. -/
theorem handleStatus_sinksFirst (name : UInt64 → Option String) (tracer : Tracer)
    (delivery : Delivery) :
    (sunk (handleStatus name tracer delivery).outputs).map Effect.sink <+:
      (handleStatus name tracer delivery).outputs := by
  have nothing : ([] : List Effect) <+: [] := List.prefix_rfl
  have quiet := fun state pid signal answers =>
    sinksFirst_resume (state : Tracer) pid signal answers []
  rcases delivery with ⟨status, answers⟩
  cases status with
  | ptraceSyscall pid =>
      simp only [handleStatus, handleSyscallStop]
      split
      · exact quiet _ pid none answers
      · split
        · split
          · exact nothing
          · exact quiet _ pid none answers
        · split
          · exact nothing
          · split
            · exact sinksFirst_resume _ pid none answers [_]
            · exact quiet _ pid none answers
  | ptraceEvent pid signal event =>
      simp only [handleStatus, handleEvent]
      split
      · split
        · exact nothing
        · exact quiet _ pid none answers
      · split
        · split <;> exact quiet _ pid none answers
        · exact quiet _ pid none answers
  | stopped pid signal =>
      simp only [handleStatus, handleSignal]
      split <;> exact quiet _ pid _ answers
  | exited | signaled | continued | stillAlive => exact nothing

theorem handleAll_append_panicked {sink : SinkState Device}
    {before after : List (Host × SyscallEvent)}
    (panicked : sink.handleAll crates w before = .panicked) :
    sink.handleAll crates w (before ++ after) = .panicked := by
  unfold SinkState.handleAll at panicked ⊢
  rw [List.foldlM_append, panicked]
  rfl

theorem traceLoop_factors (tracer : Tracer) (sink : SinkState Device)
    (answers : List (Host × WaitAnswer)) :
    Factors crates w (waitLoop crates.syscallNames tracer (answers.map Prod.snd))
      (observations (hostsOf answers) (Core.handleAll crates.syscallNames tracer
        (waitLoop crates.syscallNames tracer (answers.map Prod.snd)).delivered).log)
      sink (traceLoop crates w tracer sink answers) := by
  induction answers generalizing tracer sink with
  | nil =>
      by_cases ended : tracer.tracees = ∅
      · simp only [List.map_nil, waitLoop, traceLoop, ended, if_true]
        exact .silent tracer sink _
      · simp only [List.map_nil, waitLoop, traceLoop, ended, if_false]
        exact .silent tracer sink none
  | cons answer rest ih =>
      obtain ⟨host, answer⟩ := answer
      have silent : ∀ returned, Factors crates w
          { tracer, delivered := [], effects := [], returned }
          (observations (hostsOf ((host, answer) :: rest))
            (Core.handleAll crates.syscallNames tracer []).log) sink
          { tracer, sink, effects := [], returned := returned.map .ofExcept } := by
        intro returned
        have none : observations (hostsOf ((host, answer) :: rest))
            (Core.handleAll crates.syscallNames tracer []).log = [] := by
          simp [Core.handleAll]
        rw [none]
        exact .silent tracer sink returned
      by_cases ended : tracer.tracees = ∅
      · simp only [List.map_cons, waitLoop, traceLoop, ended, if_true]
        exact silent (some (.ok ()))
      · simp only [List.map_cons, waitLoop, traceLoop, ended, if_false]
        cases answer with
        | errno errno =>
            dsimp only
            split
            · split
              · exact silent (some (.error .traceeGone))
              · exact silent (some (.ok ()))
            · split
              · exact ih tracer sink
              · exact silent (some (.error (.ptrace errno)))
        | status delivery =>
            have sinks := handleStatus_sinksFirst crates.syscallNames tracer delivery
            have hosts : hostsOf ((host, .status delivery) :: rest) = host :: hostsOf rest := rfl
            dsimp only
            rw [hosts]
            cases reacted : (handleStatus crates.syscallNames tracer delivery).result with
            | error error =>
                have ran : Core.handleAll crates.syscallNames tracer [delivery] = _ :=
                  Machine.run_cons_error [] reacted
                dsimp only
                rw [ran, observations_cons, observations_nil, List.append_nil]
                constructor
                · intro final handled
                  rw [handled]
                  rfl
                · intro panicked
                  rw [panicked]
                  exact ⟨rfl, sinks⟩
            | ok =>
                dsimp only
                have ran : ∀ later, Core.handleAll crates.syscallNames tracer (delivery :: later) =
                    _ := fun later => Machine.run_cons_ok later reacted
                rw [ran, observations_cons]
                cases handled : sink.handleAll crates w
                    ((sunk (handleStatus crates.syscallNames tracer delivery).outputs).map
                      (Prod.mk host)) with
                | err error => cases error
                | panicked =>
                    constructor
                    · intro final later
                      rw [handleAll_append_panicked handled] at later
                      cases later
                    · intro _
                      exact ⟨rfl, sinks.trans (List.prefix_append _ _)⟩
                | ok next =>
                    have later := ih (handleStatus crates.syscallNames tracer delivery).state next
                    constructor
                    · intro final whole
                      rw [SinkState.handleAll_append handled] at whole
                      have same := later.ok final whole
                      dsimp only
                      rw [same]
                    · intro whole
                      rw [SinkState.handleAll_append handled] at whole
                      obtain ⟨returned, effects⟩ := later.panicked whole
                      exact ⟨returned, (List.prefix_append_right_inj _).mpr effects⟩

/-- The events that the sink is called with in a run, each with the host at its status. -/
def observedBy (crates : Crates) (tracer : Tracer) (resumed : Except Errno Unit)
    (answers : List (Host × WaitAnswer)) : List (Host × SyscallEvent) :=
  observations (hostsOf answers) (Core.handleAll crates.syscallNames tracer
    (tracer.run crates.syscallNames resumed (answers.map Prod.snd)).delivered).log

theorem traceRun_factors (tracer : Tracer) (sink : SinkState Device)
    (resumed : Except Errno Unit) (answers : List (Host × WaitAnswer)) :
    Factors crates w (tracer.run crates.syscallNames resumed (answers.map Prod.snd))
      (observedBy crates tracer resumed answers) sink
      (traceRun crates w tracer sink resumed answers) := by
  cases resumed with
  | error errno =>
      have none : observedBy crates tracer (.error errno) answers = [] := by
        simp [observedBy, Tracer.run, Core.handleAll]
      rw [none]
      constructor
      · intro final ran
        cases ran
        rfl
      · intro ran
        cases ran
  | ok =>
      obtain ⟨ok, panicked⟩ := @traceLoop_factors Device crates w tracer sink answers
      constructor
      · intro final ran
        have same := ok final ran
        simp only [traceRun, Tracer.run, same]
      · intro ran
        obtain ⟨returned, effects⟩ := panicked ran
        exact ⟨returned, (List.prefix_cons_inj _).mpr effects⟩

/-- The sink cannot disturb the trace. Whatever the format, the filter and the device, and
however this fails, the tracer makes the requests that it makes alone, in their order, and
ends as it ends alone; only a panic of the sink cuts them short. -/
theorem traceRun_undisturbed {Device : Type} (crates : Crates)
    (w : TextWriter Device WriteFailure) (tracer : Tracer) (sink : SinkState Device)
    (resumed : Except Errno Unit) (answers : List (Host × WaitAnswer)) :
    (traceRun crates w tracer sink resumed answers).effects <+:
        (tracer.run crates.syscallNames resumed (answers.map Prod.snd)).effects ∧
      ((traceRun crates w tracer sink resumed answers).returned = some .panicked ∨
        (traceRun crates w tracer sink resumed answers).effects =
            (tracer.run crates.syscallNames resumed (answers.map Prod.snd)).effects ∧
          (traceRun crates w tracer sink resumed answers).tracer =
            (tracer.run crates.syscallNames resumed (answers.map Prod.snd)).tracer ∧
          (traceRun crates w tracer sink resumed answers).returned =
            (tracer.run crates.syscallNames resumed (answers.map Prod.snd)).returned.map
              .ofExcept) := by
  obtain ⟨ok, panicked⟩ := @traceRun_factors Device crates w tracer sink resumed answers
  cases ran : sink.handleAll crates w (observedBy crates tracer resumed answers) with
  | err error => cases error
  | panicked =>
      obtain ⟨returned, effects⟩ := panicked ran
      exact ⟨effects, .inl returned⟩
  | ok final =>
      rw [ok final ran]
      exact ⟨List.prefix_rfl, .inr ⟨rfl, rfl, rfl⟩⟩

theorem statuses_hosts (answers : List (Host × WaitAnswer)) :
    (hostsOf answers).length = (statusesOf (answers.map Prod.snd)).length := by
  induction answers with
  | nil => rfl
  | cons answer rest ih =>
      obtain ⟨host, answer⟩ := answer
      cases answer with
      | errno errno => exact ih
      | status delivery => exact congrArg (· + 1) ih

theorem delivered_hosts (name : UInt64 → Option String) (tracer : Tracer)
    (resumed : Except Errno Unit) (answers : List (Host × WaitAnswer)) :
    (tracer.run name resumed (answers.map Prod.snd)).delivered <+:
        statusesOf (answers.map Prod.snd) ∧
      (tracer.run name resumed (answers.map Prod.snd)).delivered.length ≤
        (hostsOf answers).length := by
  obtain ⟨loop, handled, same⟩ := tracer.run_handled name resumed (answers.map Prod.snd)
  rw [same, statuses_hosts]
  exact ⟨handled.delivered, handled.delivered.length_le⟩

/-- The sink is called for the calls of the tree, each with the host at its exit stop. -/
theorem observedBy_traced {tracer : Tracer} {root : Pid} {followForks : Bool}
    (made : tracer = .postSpawn root followForks) (resumed : Except Errno Unit)
    (answers : List (Host × WaitAnswer))
    (legal : Machine.Conforms (SystemLegal root) (statusesOf (answers.map Prod.snd)))
    {run : TracerRun} (ran : tracer.run crates.syscallNames resumed (answers.map Prod.snd) = run) :
    ∃ calls, calls <+: systemTrace root followForks run.delivered ∧
      List.Forall₂ (Observes crates.syscallNames (hostsOf answers) run.delivered) calls
        (observedBy crates tracer resumed answers) ∧
      ((∀ error, run.returned ≠ some (.error error)) →
        calls = systemTrace root followForks run.delivered) := by
  subst made
  subst ran
  obtain ⟨calls, initial, observed, _, whole⟩ := Tracer.run_observed crates.syscallNames root
    followForks resumed (answers.map Prod.snd) legal rfl (delivered_hosts _ _ resumed answers).2
  exact ⟨calls, initial, observed, whole⟩

/-- The event has the name of its number. -/
def NamedBy (name : UInt64 → Option String) (event : SyscallEvent) : Prop :=
  event.syscallName = syscallName name event.syscallNr

theorem handleStatus_namedBy (name : UInt64 → Option String) (tracer : Tracer)
    (delivery : Delivery) :
    ∀ effect ∈ (handleStatus name tracer delivery).outputs, ∀ event, effect = .sink event →
      NamedBy name event := by
  have quiet : ∀ (state : Tracer) pid signal answers,
      ∀ effect ∈ (resumeTracee state [] pid signal answers).outputs, ∀ event,
        effect = .sink event → NamedBy name event := by
    rintro state pid signal answers effect member event rfl
    simp at member
  rcases delivery with ⟨status, answers⟩
  cases status with
  | ptraceSyscall pid =>
      simp only [handleStatus, handleSyscallStop]
      split
      · exact quiet _ _ _ _
      · split
        · split
          · simp
          · exact quiet _ _ _ _
        · split
          · simp
          · split
            · rintro effect member event rfl
              simp only [resumeTracee_outputs, List.mem_append, List.mem_singleton,
                Effect.sink.injEq, reduceCtorEq, or_false] at member
              rw [member]
              rfl
            · exact quiet _ _ _ _
  | ptraceEvent pid signal event =>
      simp only [handleStatus, handleEvent]
      split
      · split
        · simp
        · exact quiet _ _ _ _
      · split
        · split <;> exact quiet _ _ _ _
        · exact quiet _ _ _ _
  | stopped pid signal =>
      simp only [handleStatus, handleSignal]
      split <;> exact quiet _ _ _ _
  | exited | signaled | continued | stillAlive => simp [handleStatus]

theorem observedBy_namedBy (tracer : Tracer) (resumed : Except Errno Unit)
    (answers : List (Host × WaitAnswer)) :
    ∀ observation ∈ observedBy crates tracer resumed answers,
      NamedBy crates.syscallNames observation.2 := by
  intro observation member
  obtain ⟨⟨host, outputs⟩, pair, among⟩ := List.mem_flatMap.mp member
  obtain ⟨event, told, rfl⟩ := List.mem_map.mp among
  obtain ⟨effect, held, shape⟩ := List.mem_filterMap.mp told
  have sunk : effect = .sink event := by
    cases effect with
    | sink other => exact congrArg Effect.sink (Option.some.inj shape)
    | resume pid signal => cases shape
  exact Machine.run_log_forall (handleStatus_namedBy crates.syscallNames) tracer _ outputs
    (List.of_mem_zip pair).2 effect held event sunk

/-- So it has a name that the formatter can pad. -/
theorem NamedBy.narrow {table : SysnoTable} {event : SyscallEvent}
    (named : NamedBy (Registry.name table) event) : Pretty.NarrowName event := by
  unfold Pretty.NarrowName
  rw [named, syscallName, Registry.name]
  cases table.fromNr event.syscallNr with
  | none => exact synthetic_narrow event.syscallNr
  | some sysno => exact table.narrow sysno

end Fusion

section EndToEnd

variable {globset : Globset} {fromRaw : Int32 → Errno} {host : Host} {crates : Crates} {cli : Cli}
  {started : SetUp}

/-- What `main` traces with, once it is set up. -/
structure SetUpFrom (globset : Globset) (host : Host) (table : SysnoTable) (cli : Cli)
    (started : SetUp) : Prop where
  output : cli.output ≠ .raw
  filter : Filter.parse globset cli.syscall cli.fail cli.path = .ok started.filter
  registry : Registry.withDefaultDecoders host table = .ok started.registry

/-- The set-up keeps the discipline of `spawn`. It comes to a tracer only of a child that it
has seen exec, and only behind filters that parse; what can panic in it is the registration. -/
theorem setUp_keeps :
    (discipline (argvOf cli.command)).Keeps .start (setUp globset fromRaw host crates.table cli)
      fun result standing => standing.readOpen = false ∧ standing.writeOpen = false ∧
        (result = .panicked → Registry.withDefaultDecoders host crates.table = .panicked) ∧
        ∀ started, result = .ok started → SetUpFrom globset host crates.table cli started ∧
          ∃ child, standing.role = .parent child .execed ∧
            started.tracer = .postSpawn child cli.followForks := by
  unfold setUp
  split
  · exact .pure ⟨rfl, rfl, nofun, nofun⟩
  · next output =>
      cases parsed : Filter.parse globset cli.syscall cli.fail cli.path with
      | error source => exact .pure ⟨rfl, rfl, nofun, nofun⟩
      | ok filter =>
          dsimp only
          cases built : Registry.withDefaultDecoders host crates.table with
          | err error => cases error
          | panicked => exact .pure ⟨rfl, rfl, fun _ => rfl, nofun⟩
          | ok registry =>
              refine (spawn_keeps fromRaw cli.command).bind ?_
              rintro result standing ⟨readShut, writeShut, spawned⟩
              cases result with
              | error source => exact .pure ⟨readShut, writeShut, nofun, nofun⟩
              | ok tracer =>
                  refine .pure ⟨readShut, writeShut, nofun, ?_⟩
                  intro started same
                  obtain ⟨child, role, made⟩ := spawned tracer rfl
                  cases same
                  exact ⟨⟨output, parsed, built⟩, child, role, by rw [made]; rfl⟩

theorem setUp_started {events unread : List (Event Answer)}
    (history : Program.History (setUp globset fromRaw host crates.table cli) events)
    (returned : setUp globset fromRaw host crates.table cli events =
      .returned (.ok started) unread) :
    SetUpFrom globset host crates.table cli started ∧
      ∃ root, started.tracer = .postSpawn root cli.followForks := by
  obtain ⟨_, _, ends⟩ := setUp_keeps.history history
  obtain ⟨_, _, _, _, made⟩ := ends (.ok started) unread returned
  obtain ⟨parts, root, _, tracer⟩ := made started rfl
  exact ⟨parts, root, tracer⟩

/-- How `main` ends behind a run whose output raised no error. -/
def endOf (globset : Globset) : Except Core.Error Unit → Outcome (MainError globset) Unit
  | .ok () => .ok ()
  | .error source => .err (.trace source)

theorem conclude_collected {unwinds : Bool} {sink : SinkState String} (running : ¬ sink.Stopped)
    (tracer : Tracer) (effects : List Effect) (returned : Option (Except Core.Error Unit)) :
    conclude (.collector WriteFailure) unwinds globset
        { tracer, sink, effects, returned := returned.map .ofExcept } =
      (sink.out, returned.map (endOf globset)) := by
  have unset : sink.firstErr = none := by
    cases set : sink.firstErr with
    | none => rfl
    | some error => exact absurd (.inr (by rw [set]; rfl)) running
  cases returned with
  | none => rfl
  | some result =>
      cases result with
      | error source => rfl
      | ok => simp [conclude, Outcome.ofExcept, endOf, SinkState.finish, SinkState.flush,
          TextWriter.collector, unset]

/-- The events of a run that satisfy every active gate. -/
def selectedBy (crates : Crates) (started : SetUp) (resumed : Except Errno Unit)
    (answers : List (Host × WaitAnswer)) : List (Host × SyscallEvent) :=
  (observedBy crates started.tracer resumed answers).filter fun observation =>
    SinkState.Selected crates started.registry started.filter observation

/-- What the user of a session gets to see, in terms of the kernel's history of the tree. -/
structure Reported (unwinds : Bool) (globset : Globset) (crates : Crates) (cli : Cli)
    (isTerminal : Bool) (started : SetUp) (root : Pid) (resumed : Except Errno Unit)
    (answers : List (Host × WaitAnswer)) (run : TracerRun) : Prop where
  trace : ∃ calls, calls <+: systemTrace root cli.followForks run.delivered ∧
    List.Forall₂ (Observes crates.syscallNames (hostsOf answers) run.delivered) calls
      (observedBy crates started.tracer resumed answers) ∧
    ((∀ error, run.returned ≠ some (.error error)) →
      calls = systemTrace root cli.followForks run.delivered)
  json : cli.output = .json → ∀ text,
    SinkState.linesFrom crates started.registry "" (selectedBy crates started resumed answers) =
      .ok text →
    session crates (.collector WriteFailure) unwinds globset cli isTerminal started "" resumed
        answers =
      (text, run.returned.map (endOf globset))
  pretty : cli.output = .pretty → ∀ profile items,
    (∀ host ∈ hostsOf answers, host.profile = profile) →
    SinkState.renderAll crates started.registry (selectedBy crates started resumed answers) =
      .ok items →
    (∀ item ∈ items, Negates profile item.event.ret) →
    session crates (.collector WriteFailure) unwinds globset cli isTerminal started "" resumed
        answers =
      (Pretty.textOf (Pretty.calls profile crates.tables crates.palette
        (cli.prettyConfig isTerminal) .new items), run.returned.map (endOf globset))

theorem observations_host_mem {hosts : List Host} {log : List (List Effect)}
    {observation : Host × SyscallEvent} (member : observation ∈ observations hosts log) :
    observation.1 ∈ hosts := by
  obtain ⟨⟨host, outputs⟩, pair, among⟩ := List.mem_flatMap.mp member
  obtain ⟨event, _, rfl⟩ := List.mem_map.mp among
  exact (List.of_mem_zip pair).1

theorem related_of_mem_right {Left Right : Type} {related : Left → Right → Prop}
    {left : List Left} {right : List Right} (pairs : List.Forall₂ related left right)
    {value : Right} (member : value ∈ right) : ∃ other ∈ left, related other value := by
  induction pairs with
  | nil => cases member
  | cons first _ ih =>
      rcases List.mem_cons.mp member with rfl | later
      · exact ⟨_, List.mem_cons_self, first⟩
      · obtain ⟨other, among, here⟩ := ih later
        exact ⟨other, .tail _ among, here⟩

/-- Lists that are related to one in between are related through its items. -/
theorem related_through {Left Middle Right : Type} {before : Left → Middle → Prop}
    {behind : Middle → Right → Prop} {left : List Left} {middle : List Middle}
    {right : List Right} (first : List.Forall₂ before left middle)
    (second : List.Forall₂ behind middle right) :
    List.Forall₂ (fun value other => ∃ item, before value item ∧ behind item other) left
      right := by
  induction first generalizing right with
  | nil =>
      cases second
      exact .nil
  | cons here _ ih =>
      cases second with
      | cons next later => exact .cons ⟨_, here, next⟩ (ih later)

/-- Neither format writes an error to a device that accepts everything, as long as the
clock fits the 64 bits of a duration. -/
theorem observedBy_fits {tracer : Tracer} {resumed : Except Errno Unit}
    {answers : List (Host × WaitAnswer)} {root : Pid} {followForks : Bool}
    {calls : List (Pid × Syscall)} {run : TracerRun}
    (ran : tracer.run crates.syscallNames resumed (answers.map Prod.snd) = run)
    (clock : ∀ delivery ∈ statusesOf (answers.map Prod.snd), delivery.answers.now < 2 ^ 64)
    (initial : calls <+: systemTrace root followForks run.delivered)
    (observed : List.Forall₂ (Observes crates.syscallNames (hostsOf answers) run.delivered) calls
      (observedBy crates tracer resumed answers)) :
    ∀ observation ∈ observedBy crates tracer resumed answers,
      observation.2.duration < 2 ^ 64 := by
  intro observation member
  obtain ⟨call, among, here⟩ := related_of_mem_right observed member
  have delivered := (delivered_hosts crates.syscallNames tracer resumed answers).1
  rw [ran] at delivered
  have exit : call.2.exit.answers.now < 2 ^ 64 :=
    clock _ (delivered.subset (systemTrace_exit_mem (initial.subset among)))
  rw [Syscall.Reports.duration here.reports]
  exact (Nat.sub_le _ _).trans_lt exit

theorem new_running {Device : Type} (out : Device) (format : OutputFormat)
    (cfg : Pretty.PrettyConfig) (registry : Registry) (filter : Filter) :
    ¬ (SinkState.new out format cfg registry filter).Stopped := by
  simp [SinkState.Stopped, SinkState.new]

section Sinks

variable {cfg : Pretty.PrettyConfig} {registry : Registry} {filter : Filter}
  {observed : List (Host × SyscallEvent)}

theorem handleAll_json_new {text : String}
    (fits : ∀ observation ∈ observed, observation.2.duration < 2 ^ 64)
    (lines : SinkState.linesFrom crates registry ""
      (observed.filter fun observation => SinkState.Selected crates registry filter observation) =
        .ok text) :
    (SinkState.new "" .json cfg registry filter).handleAll crates (.collector WriteFailure)
      observed = .ok (.new text .json cfg registry filter) := by
  have ran := @SinkState.handleAll_selects crates _ (new_running "" .json cfg registry filter) rfl
    observed fits
  refine ran.trans ?_
  change (SinkState.linesFrom crates registry "" (observed.filter fun observation =>
    SinkState.Selected crates registry filter observation) >>= _) = _
  rw [lines]
  rfl

theorem handleAll_pretty_new {profile : Profile} {items : List Pretty.Rendered}
    (named : ∀ observation ∈ observed, Pretty.NarrowName observation.2)
    (built : ∀ observation ∈ observed, observation.1.profile = profile)
    (made : SinkState.renderAll crates registry
      (observed.filter fun observation => SinkState.Selected crates registry filter observation) =
        .ok items)
    (negates : ∀ item ∈ items, Negates profile item.event.ret) :
    (SinkState.new "" .pretty cfg registry filter).handleAll crates (.collector WriteFailure)
      observed =
        .ok (SinkState.rendered crates profile (.new "" .pretty cfg registry filter) items) := by
  rw [SinkState.handleAll_rejects]
  refine (SinkState.handleAll_pretty (new_running "" .pretty cfg registry filter) rfl
    Pretty.PrettyState.narrow_new
    (fun observation member => named observation (List.mem_of_mem_filter member))
    (fun observation member => built observation (List.mem_of_mem_filter member))
    (fun observation member => of_decide_eq_true (List.mem_filter.mp member).2)).trans ?_
  change (SinkState.renderAll crates registry (observed.filter fun observation =>
    SinkState.Selected crates registry filter observation) >>= _) = _
  rw [made, Outcome.ok_bind, if_pos negates]

end Sinks

theorem session_json (unwinds isTerminal : Bool) (json : cli.output = .json)
    {resumed : Except Errno Unit} {answers : List (Host × WaitAnswer)} {text : String}
    (fits : ∀ observation ∈ observedBy crates started.tracer resumed answers,
      observation.2.duration < 2 ^ 64)
    (lines : SinkState.linesFrom crates started.registry ""
      (selectedBy crates started resumed answers) = .ok text) :
    session crates (.collector WriteFailure) unwinds globset cli isTerminal started "" resumed
        answers =
      (text, (started.tracer.run crates.syscallNames resumed (answers.map Prod.snd)).returned.map
        (endOf globset)) := by
  unfold session
  rw [json, (traceRun_factors _ _ _ _).ok _ (handleAll_json_new fits lines)]
  exact conclude_collected (new_running text .json _ _ _) _ _ _

theorem session_pretty (unwinds isTerminal : Bool) (pretty : cli.output = .pretty)
    {resumed : Except Errno Unit} {answers : List (Host × WaitAnswer)} {profile : Profile}
    {items : List Pretty.Rendered}
    (built : ∀ host ∈ hostsOf answers, host.profile = profile)
    (made : SinkState.renderAll crates started.registry
      (selectedBy crates started resumed answers) = .ok items)
    (negates : ∀ item ∈ items, Negates profile item.event.ret) :
    session crates (.collector WriteFailure) unwinds globset cli isTerminal started "" resumed
        answers =
      (Pretty.textOf (Pretty.calls profile crates.tables crates.palette
        (cli.prettyConfig isTerminal) .new items),
        (started.tracer.run crates.syscallNames resumed (answers.map Prod.snd)).returned.map
          (endOf globset)) := by
  have profiles : ∀ observation ∈ observedBy crates started.tracer resumed answers,
      observation.1.profile = profile :=
    fun observation member => built _ (observations_host_mem member)
  have named : ∀ observation ∈ observedBy crates started.tracer resumed answers,
      Pretty.NarrowName observation.2 :=
    fun observation member => (observedBy_namedBy _ _ _ observation member).narrow
  unfold session
  rw [pretty, (traceRun_factors _ _ _ _).ok _
    (handleAll_pretty_new named profiles made negates)]
  have running : ¬ (SinkState.rendered crates profile (.new "" .pretty
      (cli.prettyConfig isTerminal) started.registry started.filter) items).Stopped := by
    simp [SinkState.Stopped, SinkState.rendered, SinkState.new]
  refine (conclude_collected running _ _ _).trans ?_
  simp [SinkState.rendered, SinkState.new]

/-- From the command line to the text. Behind a set-up that succeeded, and in whatever order
the kernel then reports the stops of the tree, on a clock that fits 64 bits, the sink is called
for the syscalls of the tree in the order of their exit stops, each with the host that is found
at that stop. As long as none of these events panics, the JSON format writes one record for each
of them that satisfies the filter, the pretty format, in one build, what its formatter writes
about these alone, and `main` ends as the trace does. -/
theorem main_reports (unwinds : Bool) (globset : Globset) (fromRaw : Int32 → Errno)
    (host : Host) (crates : Crates) (cli : Cli) (isTerminal : Bool) (started : SetUp)
    (events unread : List (Event Answer))
    (history : Program.History (setUp globset fromRaw host crates.table cli) events)
    (returned : setUp globset fromRaw host crates.table cli events =
      .returned (.ok started) unread) :
    SetUpFrom globset host crates.table cli started ∧
    ∃ root, started.tracer = .postSpawn root cli.followForks ∧
      ∀ resumed answers,
        Machine.Conforms (SystemLegal root) (statusesOf (answers.map Prod.snd)) →
        (∀ delivery ∈ statusesOf (answers.map Prod.snd), delivery.answers.now < 2 ^ 64) →
        Reported unwinds globset crates cli isTerminal started root resumed answers
          (started.tracer.run crates.syscallNames resumed (answers.map Prod.snd)) := by
  obtain ⟨parts, root, tracer⟩ := setUp_started history returned
  refine ⟨parts, root, tracer, ?_⟩
  intro resumed answers legal clock
  obtain ⟨calls, initial, observed, whole⟩ := observedBy_traced tracer resumed answers legal rfl
  have fits : ∀ observation ∈ observedBy crates started.tracer resumed answers,
      observation.2.duration < 2 ^ 64 := observedBy_fits rfl clock initial observed
  exact ⟨⟨calls, initial, observed, whole⟩,
    fun json text lines => session_json unwinds isTerminal json fits lines,
    fun pretty _ _ => session_pretty unwinds isTerminal pretty⟩

end EndToEnd

/-- `loi --fail --output json x`. -/
def jsonFailures : Cli :=
  { command := ["x"], output := .json, syscall := none, fail := true, path := none
    followForks := false, noCategoryColors := false, noDimLookups := false
    noGroupLookups := false }

/-- `loi --output json x`. -/
def jsonCalls : Cli :=
  { jsonFailures with fail := false }

/-- Behind its exec, the child calls `getpid`, then tries to open a file and exits. -/
def failedOpen : List (Host × WaitAnswer) :=
  [(blindHost, .status (.granted (.ptraceSyscall 7) 59 0 0 0)),
    (blindHost, .status (.granted (.ptraceSyscall 7) 39 0 1 0)),
    (blindHost, .status (.granted (.ptraceSyscall 7) 39 7 2 0)),
    (blindHost, .status (.granted (.ptraceSyscall 7) 257 0 3 0)),
    (blindHost, .errno .EINTR),
    (blindHost, .status (.granted (.ptraceSyscall 7) 257 0xFFFFFFFFFFFFFFF3 5 0)),
    (blindHost, .status (.granted (.exited 7 0) 0 0 6 0))]

/-- Behind its exec, the child closes its standard output, then again, and exits. -/
def closedTwice (host : Host) : List (Host × WaitAnswer) :=
  [(host, .status (.granted (.ptraceSyscall 7) 59 0 0 0)),
    (host, .status (.granted (.ptraceSyscall 7) 3 0 1 0)),
    (host, .status (.granted (.ptraceSyscall 7) 3 0 2 0)),
    (host, .status (.granted (.ptraceSyscall 7) 3 0 3 0)),
    (host, .status (.granted (.ptraceSyscall 7) 3 0xFFFFFFFFFFFFFFF7 5 0)),
    (host, .status (.granted (.exited 7 0) 0 0 6 0))]

theorem host_of_closedTwice {host host' : Host} (member : host' ∈ hostsOf (closedTwice host)) :
    host' = host := by
  simpa [hostsOf, closedTwice] using member

def closedLine : String :=
  "\x7b\"args\":[\x7b\"name\":\"fd\",\"value\":1\x7d],\"duration\":1,\"pid\":7,\"ret\":0," ++
    "\"syscall_name\":\"close\",\"syscall_nr\":3\x7d" ++ "\n"

def closedAgainLine : String :=
  "\x7b\"args\":[\x7b\"name\":\"fd\",\"value\":1\x7d],\"duration\":2," ++
    "\"errno_name\":\"EBADF\",\"pid\":7,\"ret\":-9,\"syscall_name\":\"close\"," ++
    "\"syscall_nr\":3\x7d\n"

/-- Behind a `spawn` that succeeds, the set-up comes to a tracer. -/
theorem setUp_execedParent (host : Host) (crates : Crates) (cli : Cli) {filter : Filter}
    {registry : Registry} (output : cli.output ≠ .raw) (command : cli.command = ["x"])
    (parsed : Filter.parse literalGlobs cli.syscall cli.fail cli.path = .ok filter)
    (built : Registry.withDefaultDecoders host crates.table = .ok registry) :
    Program.History (setUp literalGlobs Errno.mk host crates.table cli) execedParent ∧
      ∃ started, setUp literalGlobs Errno.mk host crates.table cli execedParent =
        .returned (.ok started) [] := by
  unfold setUp
  rw [if_neg output, parsed, built, command]
  refine ⟨?_, _, rfl⟩
  simp only [execedParent, Protocol.history_cons_iff]
  exact ⟨rfl, rfl, rfl, rfl, rfl, rfl, rfl, rfl, .nil⟩

/-- Of the two calls the one that fails is recorded. -/
theorem main_reports_closedTwice :
    ∃ started, SetUpFrom literalGlobs blindHost x86Table jsonFailures started ∧
      session someCrates (.collector WriteFailure) false literalGlobs jsonFailures true started ""
          (.ok ()) (closedTwice blindHost) =
        (closedAgainLine, some (.ok ())) := by
  obtain ⟨history, started, returned⟩ :=
    setUp_execedParent blindHost someCrates jsonFailures (by decide) rfl rfl rfl
  obtain ⟨parts, root, made, reported⟩ := main_reports false literalGlobs Errno.mk blindHost
    someCrates jsonFailures true started execedParent [] history returned
  refine ⟨started, parts, ?_⟩
  cases returned
  cases made
  obtain ⟨_, json, _⟩ := reported (.ok ()) (closedTwice blindHost) (by decide) (by decide)
  exact json rfl closedAgainLine (by decide +kernel)

end Loi
