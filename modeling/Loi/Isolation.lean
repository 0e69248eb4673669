import Loi.Core.Independence
import Loi.Foundation.Tagged
import Loi.ReadBack

/-! What is reported about one process rests on its own stops and its own memory, whatever
the other processes of the tree do in between. -/

set_option autoImplicit false

namespace Loi

open Nix Foundation Loi.Core Syscalls Output Spawn Output.Pretty

/-- The hosts differ in nothing that a reader of the memory of `pid` could tell. -/
structure HostAlike (pid : Pid) (host other : Host) : Prop where
  profile : other.profile = host.profile
  arch : other.arch = host.arch
  memory : other.processVmReadv pid = host.processVmReadv pid

/-- The same is said, on hosts that are alike. -/
structure SaidAlike {Said : Type} (pid : Pid) (left right : Host × Said) : Prop where
  host : HostAlike pid left.1 right.1
  said : right.2 = left.2

section Observations

variable {name : UInt64 → Option String} {pid : Pid}

/-- What the sink is called with for an effect. -/
def told (output : Host × Effect) : Option (Host × SyscallEvent) :=
  match output.2 with
  | .sink event => some (output.1, event)
  | .resume _ _ => none

end Observations

section Rendered

variable {crates : Crates} {host : Host} {registry : Registry} {filter : Filter} {pid : Pid}

/-- All reads of the sink for an event are of the process that it is about. -/
theorem decodeEvent_alike (built : Registry.withDefaultDecoders host crates.table = .ok registry)
    {observation other : Host × SyscallEvent} (own : observation.2.pid = pid)
    (alike : SaidAlike pid observation other) :
    SinkState.decodeEvent crates registry other =
      SinkState.decodeEvent crates registry observation := by
  obtain ⟨reads, within, rests⟩ := SinkState.decodeEvent_reads built observation
  refine rests other ⟨alike.said, alike.host.profile, alike.host.arch, ?_⟩
  intro read member
  have mine : read.pid = pid := (within.own read member).trans own
  unfold Host.answers
  rw [mine, alike.host.memory]

/-- What a user sees of an event, in either format. -/
structure ShownAlike (crates : Crates) (registry : Registry) (filter : Filter)
    (observation other : Host × SyscallEvent) : Prop where
  selected : SinkState.Selected crates registry filter other ↔
    SinkState.Selected crates registry filter observation
  line : SinkState.lineOf crates registry other = SinkState.lineOf crates registry observation
  item : SinkState.render crates registry other = SinkState.render crates registry observation

theorem SaidAlike.shown (built : Registry.withDefaultDecoders host crates.table = .ok registry)
    {observation other : Host × SyscallEvent} (own : observation.2.pid = pid)
    (alike : SaidAlike pid observation other) (filter : Filter) :
    ShownAlike crates registry filter observation other := by
  have decodes := decodeEvent_alike built own alike
  constructor
  · unfold SinkState.Selected
    rw [decodes, alike.said]
  · unfold SinkState.lineOf
    rw [decodes, alike.said, alike.host.profile]
  · unfold SinkState.render
    rw [decodes, alike.said]

end Rendered

section Sessions

variable {globset : Globset} {fromRaw : Int32 → Errno} {host : Host} {crates : Crates} {cli : Cli}
  {started : SetUp} {root pid : Pid}

/-- No error of the tracer ends the run, and the kernel reports no exec of the process ahead
of its first stop. -/
structure Uncut (root pid : Pid) (run : TracerRun) : Prop where
  running : ∀ error, run.returned ≠ some (.error error)
  execs : Machine.Conforms (ExecAfterStop root pid) run.delivered

theorem Uncut.handled {name : UInt64 → Option String} {tracer : Tracer}
    {resumed : Except Errno Unit} {answers : List (Host × WaitAnswer)}
    (uncut : Uncut root pid (tracer.run name resumed (answers.map Prod.snd))) :
    (handleAll name tracer (tracer.run name resumed (answers.map Prod.snd)).delivered).result =
        .ok () ∧
      (tracer.run name resumed (answers.map Prod.snd)).delivered.length ≤
        (hostsOf answers).length := by
  refine ⟨?_, (delivered_hosts name tracer resumed answers).2⟩
  obtain ⟨loop, handled, same⟩ := tracer.run_handled name resumed (answers.map Prod.snd)
  rw [same] at uncut ⊢
  cases ended : (handleAll name tracer loop.delivered).result with
  | ok => rfl
  | error error => exact absurd (handled.failed error ended) (uncut.running error)

end Sessions

end Loi
