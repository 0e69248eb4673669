import Loi.SinkProperties

/-! The JSON output under a filter, against the output without one: the gates select
events, and change nothing of what is written about those that they let through. -/

set_option autoImplicit false

namespace Loi

open Nix Foundation Loi.Core Syscalls Output

/-- The `Path` arguments of a call. -/
def Syscalls.DecodedCall.paths (decoded : DecodedCall) : List String :=
  decoded.args.filterMap fun arg => arg.2.asPath

namespace Filter

/-- The gates of `--fail` and of the syscall globs. -/
def PassesEvent (filter : Filter) (event : SyscallEvent) : Prop :=
  (filter.onlyFail = true → event.ret < 0) ∧
    ∀ set ∈ filter.syscalls, set.isMatch event.syscallName = true

/-- The gate of the path globs: some `Path` argument is matched. -/
def PassesPaths (filter : Filter) (decoded : DecodedCall) : Prop :=
  ∀ set ∈ filter.paths, ∃ path ∈ decoded.paths, set.isMatch path = true

instance (filter : Filter) (event : SyscallEvent) : Decidable (filter.PassesEvent event) :=
  @instDecidableAnd _ _ inferInstance (Option.decidableForallMem _)

instance (filter : Filter) (decoded : DecodedCall) : Decidable (filter.PassesPaths decoded) :=
  @Option.decidableForallMem _ _ (fun _ => List.decidableBEx _ _) _

theorem matchesEvent_iff (filter : Filter) (event : SyscallEvent) :
    filter.matchesEvent event = true ↔ filter.PassesEvent event := by
  unfold matchesEvent PassesEvent
  by_cases failed : event.ret < 0
  · have negative : ¬ 0 ≤ event.ret := Int64.not_le.mpr failed
    cases filter.syscalls <;> simp [failed, negative]
  · have nonnegative : 0 ≤ event.ret := Int64.not_lt.mp failed
    cases filter.syscalls <;> simp [failed, nonnegative]

theorem matchesDecoded_iff (filter : Filter) (decoded : DecodedCall) :
    filter.matchesDecoded decoded = true ↔ filter.PassesPaths decoded := by
  unfold matchesDecoded PassesPaths
  cases filter.paths with
  | none => simp
  | some set =>
      change (decoded.paths.any set.isMatch) = true ↔ _
      simp

end Filter

theorem Filter.needsDecode_of_not_passesPaths {filter : Filter} {decoded : DecodedCall}
    (gate : ¬ filter.PassesPaths decoded) : filter.needsDecode = true := by
  unfold needsDecode
  cases paths : filter.paths with
  | none => simp [PassesPaths, paths] at gate
  | some set => rfl

/-- Both gates at once, where an absent one lets everything through. -/
def GlobSet.both : Option GlobSet → Option GlobSet → Option GlobSet
  | none, set => set
  | some set, none => some set
  | some left, some right => some { isMatch := fun text => left.isMatch text && right.isMatch text }

namespace Filter

/-- The conjunction of two filters. -/
def both (left right : Filter) : Filter where
  syscalls := GlobSet.both left.syscalls right.syscalls
  onlyFail := left.onlyFail || right.onlyFail
  paths := GlobSet.both left.paths right.paths

theorem passesEvent_both {left right : Filter} {event : SyscallEvent} :
    (left.both right).PassesEvent event ↔ left.PassesEvent event ∧ right.PassesEvent event := by
  have failed : (left.onlyFail || right.onlyFail) = true → event.ret < 0 ↔
      (left.onlyFail = true → event.ret < 0) ∧ (right.onlyFail = true → event.ret < 0) := by
    rw [Bool.or_eq_true, or_imp]
  have named : (∀ set ∈ GlobSet.both left.syscalls right.syscalls,
        set.isMatch event.syscallName = true) ↔
      (∀ set ∈ left.syscalls, set.isMatch event.syscallName = true) ∧
        ∀ set ∈ right.syscalls, set.isMatch event.syscallName = true := by
    cases left.syscalls <;> cases right.syscalls <;> simp [GlobSet.both]
  unfold PassesEvent both
  rw [failed, named, and_and_and_comm]

/-- The path gates of two filters may be met by different arguments, so this needs
a call of at most one path. -/
theorem passesPaths_both {left right : Filter} {decoded : DecodedCall}
    (single : decoded.paths.length ≤ 1) :
    (left.both right).PassesPaths decoded ↔
      left.PassesPaths decoded ∧ right.PassesPaths decoded := by
  unfold PassesPaths both
  cases left.paths with
  | none => simp [GlobSet.both]
  | some _ =>
      cases right.paths with
      | none => simp [GlobSet.both]
      | some _ =>
          cases held : decoded.paths with
          | nil => simp [GlobSet.both]
          | cons path rest =>
            rw [held] at single
            have alone : rest = [] := List.length_eq_zero_iff.mp (by simpa using single)
            simp [GlobSet.both, alone]

end Filter

/-- The text of one record: the pieces of the JSON object, and a newline. -/
def Output.Json.lineText (profile : Profile) (tables : Tables) (serializer : Json.Serializer)
    (event : SyscallEvent) (decoded : DecodedCall) : Outcome Empty String := do
  let errno ← errnoOfRet profile tables event.ret
  return (serializer (Json.eventObject event decoded errno)).foldr (· ++ ·) "" ++ "\n"

theorem Output.errnoOfRet_otherError {Error Error' : Type} {profile : Profile} {tables : Tables}
    {ret : Int64} {errno : Option (String × String)}
    (resolved : errnoOfRet profile tables ret = (.ok errno : Outcome Error _)) :
    errnoOfRet profile tables ret = (.ok errno : Outcome Error' _) := by
  unfold errnoOfRet at resolved ⊢
  split_ifs at resolved ⊢ <;> injection resolved with same <;> rw [same]

theorem Output.Json.writeEvent_collector (profile : Profile) (tables : Tables)
    (serializer : Json.Serializer) {event : SyscallEvent} (decoded : DecodedCall)
    (fits : event.duration < 2 ^ 64) (written : String) :
    Json.writeEvent profile tables serializer (.collector WriteFailure) event decoded written =
      match Json.lineText profile tables serializer event decoded with
      | .ok line => (written ++ line, .ok ())
      | .err error => nomatch error
      | .panicked => (written, .panicked) := by
  by_cases negates : Negates profile event.ret
  · obtain ⟨errno, resolved⟩ :
        ∃ errno, errnoOfRet profile tables event.ret = (.ok errno : Outcome IoError _) :=
      errnoOfRet_ok negates tables
    rw [Json.writeEvent_emits serializer resolved decoded fits written]
    unfold Json.lineText
    rw [errnoOfRet_otherError resolved]
    rfl
  · unfold Json.writeEvent Json.lineText
    rw [if_neg (Nat.not_le_of_gt fits), errnoOfRet_panics negates, errnoOfRet_panics negates]
    rfl

namespace SinkState

/-- What `handle` makes of an event before it is written, with the memory it finds. -/
def decodeEvent (crates : Crates) (registry : Registry) (observation : Host × SyscallEvent) :
    Outcome Empty (DecodedCall × Option Category) :=
  (new "" .json (.new false) registry .empty).decode crates observation.1 observation.2

/-- The path gate, about what an event decodes to: about nothing when its decoder
panics. -/
def PassesCall (filter : Filter) : Outcome Empty (DecodedCall × Option Category) → Prop
  | .ok (decoded, _) => filter.PassesPaths decoded
  | .err _ | .panicked => True

instance (filter : Filter) :
    (call : Outcome Empty (DecodedCall × Option Category)) → Decidable (PassesCall filter call)
  | .ok (decoded, _) => inferInstanceAs (Decidable (filter.PassesPaths decoded))
  | .err _ | .panicked => .isTrue trivial

/-- The event satisfies every active gate. -/
def Selected (crates : Crates) (registry : Registry) (filter : Filter)
    (observation : Host × SyscallEvent) : Prop :=
  filter.PassesEvent observation.2 ∧ PassesCall filter (decodeEvent crates registry observation)

instance (crates : Crates) (registry : Registry) (filter : Filter)
    (observation : Host × SyscallEvent) :
    Decidable (Selected crates registry filter observation) :=
  inferInstanceAs (Decidable (_ ∧ _))

/-- The record of one event. -/
def lineOf (crates : Crates) (registry : Registry) (observation : Host × SyscallEvent) :
    Outcome Empty String := do
  let (decoded, _) ← decodeEvent crates registry observation
  Json.lineText observation.1.profile crates.tables crates.serializer observation.2 decoded

/-- The records of some events, one after the other, behind what is written. -/
def linesFrom (crates : Crates) (registry : Registry) (written : String)
    (observed : List (Host × SyscallEvent)) : Outcome Empty String :=
  observed.foldlM (fun written observation => do
    let line ← lineOf crates registry observation
    return written ++ line) written

section Steps

variable {Device : Type} {crates : Crates} {sink : SinkState Device}
  {observation : Host × SyscallEvent}

theorem decode_eq_decodeEvent :
    sink.decode crates observation.1 observation.2 =
      decodeEvent crates sink.registry observation := rfl

theorem admitted_eq (running : ¬ sink.Stopped) :
    sink.admitted crates observation.1 observation.2 =
      if sink.filter.PassesEvent observation.2 then do
        let (decoded, category) ← decodeEvent crates sink.registry observation
        return if sink.filter.PassesPaths decoded then
          some { event := observation.2, decoded, category } else none
      else .ok none := by
  unfold admitted
  rw [if_neg (by simpa [Stopped] using running), decode_eq_decodeEvent]
  by_cases passes : sink.filter.PassesEvent observation.2
  · have matched := (sink.filter.matchesEvent_iff observation.2).mpr passes
    rw [if_pos passes, matched, Bool.not_true, if_neg Bool.false_ne_true]
    congr 1
    funext call
    by_cases gate : sink.filter.PassesPaths call.1
    · have open' := (sink.filter.matchesDecoded_iff call.1).mpr gate
      simp [gate, open']
    · have shut : sink.filter.matchesDecoded call.1 = false := by
        rw [← Bool.not_eq_true, Filter.matchesDecoded_iff]
        exact gate
      simp [gate, shut, Filter.needsDecode_of_not_passesPaths gate]
  · have unmatched : sink.filter.matchesEvent observation.2 = false := by
      rw [← Bool.not_eq_true, Filter.matchesEvent_iff]
      exact passes
    rw [if_neg passes, unmatched, Bool.not_false, if_pos rfl]

theorem admitted_of_selected (running : ¬ sink.Stopped)
    (selected : Selected crates sink.registry sink.filter observation) :
    sink.admitted crates observation.1 observation.2 = do
      let (decoded, category) ← decodeEvent crates sink.registry observation
      return some { event := observation.2, decoded, category } := by
  obtain ⟨passes, gate⟩ := selected
  rw [admitted_eq running, if_pos passes]
  cases decodes : decodeEvent crates sink.registry observation with
  | err error => cases error
  | panicked => rfl
  | ok call =>
      rw [decodes] at gate
      simp [show sink.filter.PassesPaths call.1 from gate]

theorem admitted_of_not_selected (running : ¬ sink.Stopped)
    (dropped : ¬ Selected crates sink.registry sink.filter observation) :
    sink.admitted crates observation.1 observation.2 = .ok none := by
  rw [admitted_eq running]
  split_ifs with passes
  · cases decodes : decodeEvent crates sink.registry observation with
    | err error => cases error
    | panicked =>
        have admits : PassesCall sink.filter (decodeEvent crates sink.registry observation) := by
          rw [decodes]
          trivial
        exact absurd ⟨passes, admits⟩ dropped
    | ok call =>
        have gate : ¬ sink.filter.PassesPaths call.1 := by
          intro held
          refine dropped ⟨passes, ?_⟩
          rw [decodes]
          exact held
        simp [gate]
  · rfl

end Steps

section Records

variable {crates : Crates} {sink : SinkState String} {observation : Host × SyscallEvent}

/-- One call appends the record of a selected event, and does nothing on any other. -/
theorem handle_selects (running : ¬ sink.Stopped) (json : sink.format = .json)
    (fits : observation.2.duration < 2 ^ 64) :
    sink.handle crates (.collector WriteFailure) observation.1 observation.2 =
      if Selected crates sink.registry sink.filter observation then do
        let line ← lineOf crates sink.registry observation
        return { sink with out := sink.out ++ line }
      else .ok sink := by
  unfold handle
  split_ifs with selected
  · unfold lineOf
    rw [admitted_of_selected running selected]
    cases decodeEvent crates sink.registry observation with
    | err error => cases error
    | panicked => rfl
    | ok call =>
        have writes := Json.writeEvent_collector observation.1.profile crates.tables
          crates.serializer call.1 fits sink.out
        simp only [Outcome.ok_bind, Outcome.pure_eq_ok, write, json, writes]
        cases Json.lineText observation.1.profile crates.tables crates.serializer observation.2
            call.1 with
        | ok line => rfl
        | err error => cases error
        | panicked => rfl
  · rw [admitted_of_not_selected running selected]
    rfl

/-- The run: the records of the selected events, by induction on the events. -/
theorem handleAll_selects (running : ¬ sink.Stopped) (json : sink.format = .json)
    {observed : List (Host × SyscallEvent)}
    (fits : ∀ observation ∈ observed, observation.2.duration < 2 ^ 64) :
    sink.handleAll crates (.collector WriteFailure) observed = do
      let out ← linesFrom crates sink.registry sink.out
        (observed.filter fun observation => Selected crates sink.registry sink.filter observation)
      return { sink with out } := by
  induction observed generalizing sink with
  | nil => rfl
  | cons observation rest ih =>
      have step : sink.handle crates (.collector WriteFailure) observation.1 observation.2 = _ :=
        handle_selects running json (fits observation List.mem_cons_self)
      have later : ∀ {next : SinkState String}, ¬ next.Stopped → next.format = .json → _ :=
        fun running json => ih running json fun other member => fits other (.tail _ member)
      unfold handleAll
      rw [List.foldlM_cons, step]
      by_cases selected : Selected crates sink.registry sink.filter observation
      · rw [if_pos selected, List.filter_cons_of_pos (by simpa using selected)]
        unfold linesFrom
        rw [List.foldlM_cons]
        cases lineOf crates sink.registry observation with
        | err error => cases error
        | panicked => rfl
        | ok line => exact later running json
      · rw [if_neg selected, List.filter_cons_of_neg (by simpa using selected)]
        exact later running json

end Records

section Calls

variable {host : Host} {ctx : DecodeCtx} {call : DecodedCall}

/-- No call of a default decoder has a second path. -/
theorem defaultDecoder_paths {arch : Libc.Arch} {decoder : Decoder}
    (default : decoder ∈ (Registry.defaultDecoders arch).map Prod.snd)
    (decodes : decoder.decode host ctx = .ok call) : call.paths.length ≤ 1 := by
  simp only [Registry.defaultDecoders, List.map_append, List.mem_append, List.map_cons,
    List.map_nil, List.mem_cons, List.not_mem_nil, or_false] at default
  rcases default with
    (rfl | rfl | rfl | rfl | rfl | rfl | rfl | rfl | rfl | rfl | rfl) | default
  · obtain ⟨pathname, rfl⟩ := openAt_call decodes
    exact Nat.le_refl _
  · obtain ⟨inline, _, rfl⟩ := read_call decodes
    exact Nat.zero_le _
  · obtain ⟨inline, _, rfl⟩ := write_call decodes
    exact Nat.zero_le _
  · rw [close_call decodes]
    exact Nat.zero_le _
  · rw [fstat_call decodes]
    exact Nat.zero_le _
  · obtain ⟨pathname, rfl⟩ := statx_call decodes
    exact Nat.le_refl _
  · rw [mmap_call decodes]
    exact Nat.zero_le _
  · cases decodes
    exact Nat.zero_le _
  · obtain ⟨pathname, argv, rfl⟩ := execve_call decodes
    exact Nat.le_refl _
  · cases decodes
    exact Nat.zero_le _
  · obtain ⟨wstatus, ⟨word, rfl⟩ | rfl, rfl⟩ := wait4_call decodes
    · exact Nat.zero_le _
    · exact Nat.zero_le _
  · cases arch with
    | aarch64 => simp at default
    | x86_64 =>
        obtain rfl : decoder = Stat := by simpa using default
        obtain ⟨pathname, rfl⟩ := stat_call decodes
        exact Nat.le_refl _

theorem passesCall_both {crates : Crates} {builder : Host} {registry : Registry}
    (built : Registry.withDefaultDecoders builder crates.table = .ok registry)
    {left right : Filter} {observation : Host × SyscallEvent} :
    PassesCall (left.both right) (decodeEvent crates registry observation) ↔
      PassesCall left (decodeEvent crates registry observation) ∧
        PassesCall right (decodeEvent crates registry observation) := by
  cases decodes : decodeEvent crates registry observation with
  | err error => cases error
  | panicked => exact (and_self_iff).symm
  | ok answer =>
      refine Filter.passesPaths_both ?_
      have fallback : (fallbackDecoded observation.2).paths.length ≤ 1 := Nat.zero_le _
      unfold decodeEvent decode at decodes
      split at decodes
      · next decoder known =>
          obtain ⟨sysno, _, found⟩ := Option.bind_eq_some_iff.mp known
          have default := Registry.withDefaultDecoders_default built found
          split at decodes
          · next call called =>
              cases decodes
              exact defaultDecoder_paths default called
          · cases decodes
            exact fallback
          · cases decodes
      · cases decodes
        exact fallback

end Calls

/-- The JSON output of the sink of a run. -/
def output (crates : Crates) (cfg : Pretty.PrettyConfig) (registry : Registry) (filter : Filter)
    (observed : List (Host × SyscallEvent)) : Outcome Empty String := do
  let sink ← (new "" .json cfg registry filter).handleAll crates (.collector WriteFailure) observed
  return sink.out

theorem output_eq (crates : Crates) (cfg : Pretty.PrettyConfig) (registry : Registry)
    (filter : Filter) {observed : List (Host × SyscallEvent)}
    (fits : ∀ observation ∈ observed, observation.2.duration < 2 ^ 64) :
    output crates cfg registry filter observed =
      linesFrom crates registry ""
        (observed.filter fun observation => Selected crates registry filter observation) := by
  have running : ¬ (new "" .json cfg registry filter).Stopped := by simp [Stopped, new]
  unfold output
  rw [handleAll_selects running rfl fits, bind_assoc]
  exact bind_pure _

theorem selected_empty (crates : Crates) (registry : Registry)
    (observation : Host × SyscallEvent) : Selected crates registry .empty observation := by
  refine ⟨⟨nofun, nofun⟩, ?_⟩
  cases decodeEvent crates registry observation with
  | ok call => nofun
  | err error => cases error
  | panicked => trivial

/-- What the sink calls a decoder with. -/
def ctxOf (event : SyscallEvent) : DecodeCtx :=
  { pid := event.pid, args := event.args, ret := event.ret }

/-- No decoder has made a call of the event. -/
def Undecoded (crates : Crates) (registry : Registry) (observation : Host × SyscallEvent) : Prop :=
  ∀ decoder, registry.decoder crates.table observation.2.syscallNr = some decoder →
    ∃ error, decoder.decode observation.1 (ctxOf observation.2) = .err error

theorem decodeEvent_of_ok {crates : Crates} {registry : Registry}
    {observation : Host × SyscallEvent} {decoder : Decoder} {call : DecodedCall}
    (known : registry.decoder crates.table observation.2.syscallNr = some decoder)
    (decodes : decoder.decode observation.1 (ctxOf observation.2) = .ok call) :
    decodeEvent crates registry observation = .ok (call, some decoder.category) := by
  unfold decodeEvent decode
  rw [show (new "" .json (.new false) registry .empty).registry = registry from rfl, known]
  rw [ctxOf] at decodes
  simp only [decodes]

theorem decodeEvent_of_undecoded {crates : Crates} {registry : Registry}
    {observation : Host × SyscallEvent} (undecoded : Undecoded crates registry observation) :
    decodeEvent crates registry observation = .ok (fallbackDecoded observation.2, none) := by
  unfold decodeEvent decode
  rw [show (new "" .json (.new false) registry .empty).registry = registry from rfl]
  cases known : registry.decoder crates.table observation.2.syscallNr with
  | none => rfl
  | some decoder =>
      obtain ⟨error, fails⟩ := undecoded decoder known
      rw [ctxOf] at fails
      simp only [fails]

/-- An event that decodes to a call is gated on that call, and that call is recorded. -/
theorem selected_of_decodes {crates : Crates} {registry : Registry}
    {observation : Host × SyscallEvent} {call : DecodedCall} {category : Option Category}
    (decodes : decodeEvent crates registry observation = .ok (call, category)) :
    lineOf crates registry observation =
        Json.lineText observation.1.profile crates.tables crates.serializer observation.2 call ∧
      ∀ filter, Selected crates registry filter observation ↔
        filter.PassesEvent observation.2 ∧ filter.PassesPaths call := by
  refine ⟨by rw [lineOf, decodes]; rfl, fun filter => ?_⟩
  unfold Selected
  rw [decodes]
  rfl

/-- The output under a filter is the output without one, restricted to the events
that satisfy every active gate: each of these has its record there, as it is and in
order, and no other has. Two filters at once leave what both leave. An event whose decoder
makes a call of it is gated on that call and has its record; one whose decoder fails, or that
has none, has the record of its six registers, and any path gate drops it. -/
theorem output_selects (crates : Crates) (cfg : Pretty.PrettyConfig) (registry : Registry)
    {observed : List (Host × SyscallEvent)}
    (fits : ∀ observation ∈ observed, observation.2.duration < 2 ^ 64) :
    output crates cfg registry .empty observed = linesFrom crates registry "" observed ∧
    (∀ filter, output crates cfg registry filter observed =
      linesFrom crates registry ""
        (observed.filter fun observation => Selected crates registry filter observation)) ∧
    (∀ builder, Registry.withDefaultDecoders builder crates.table = .ok registry →
      ∀ left right, output crates cfg registry (left.both right) observed =
        linesFrom crates registry ""
          (observed.filter fun observation => Selected crates registry left observation ∧
            Selected crates registry right observation)) ∧
    (∀ observation decoder call,
      registry.decoder crates.table observation.2.syscallNr = some decoder →
      decoder.decode observation.1 (ctxOf observation.2) = .ok call →
      lineOf crates registry observation =
          Json.lineText observation.1.profile crates.tables crates.serializer observation.2
            call ∧
        ∀ filter, Selected crates registry filter observation ↔
          filter.PassesEvent observation.2 ∧ filter.PassesPaths call) ∧
    ∀ observation, Undecoded crates registry observation →
      lineOf crates registry observation =
          Json.lineText observation.1.profile crates.tables crates.serializer observation.2
            { args :=
                [("arg0", .uint (observation.2.args.get 0)),
                  ("arg1", .uint (observation.2.args.get 1)),
                  ("arg2", .uint (observation.2.args.get 2)),
                  ("arg3", .uint (observation.2.args.get 3)),
                  ("arg4", .uint (observation.2.args.get 4)),
                  ("arg5", .uint (observation.2.args.get 5))]
              ret := observation.2.ret } ∧
        ∀ filter, Selected crates registry filter observation ↔
          filter.PassesEvent observation.2 ∧ filter.paths = none := by
  refine ⟨?_, fun filter => output_eq crates cfg registry filter fits, ?_, ?_, ?_⟩
  · rw [output_eq crates cfg registry .empty fits, List.filter_eq_self.mpr]
    intro observation _
    exact decide_eq_true (selected_empty crates registry observation)
  · intro builder built left right
    rw [output_eq crates cfg registry (left.both right) fits]
    congr 1
    apply List.filter_congr
    intro observation _
    apply decide_eq_decide.mpr
    unfold Selected
    rw [Filter.passesEvent_both, passesCall_both built, and_and_and_comm]
  · intro observation decoder call known decodes
    exact selected_of_decodes (decodeEvent_of_ok known decodes)
  · intro observation undecoded
    obtain ⟨line, gated⟩ := selected_of_decodes (decodeEvent_of_undecoded undecoded)
    refine ⟨line, fun filter => (gated filter).trans (and_congr_right fun _ => ?_)⟩
    have noPath : (fallbackDecoded observation.2).paths = [] := rfl
    unfold Filter.PassesPaths
    rw [noPath]
    cases filter.paths <;> simp

/-- A mapping that is not permitted. -/
def deniedMap : Host × SyscallEvent :=
  (blindHost,
    { pid := 7, syscallNr := 9, syscallName := "mmap", args := #v[0, 0x1000, 2, 1, 3, 0],
      ret := -13, duration := 5 })

/-- An `openat` whose pathname cannot be read. -/
def deniedOpen : Host × SyscallEvent :=
  (blindHost,
    { pid := 7, syscallNr := 257, syscallName := "openat",
      args := #v[0xFFFFFF9C, 0x1000, 0, 0, 0, 0], ret := -13, duration := 5 })

def deniedMapLine : String :=
  "\x7b\"args\":[\x7b\"name\":\"addr\",\"value\":\"0x0\"\x7d," ++
    "\x7b\"name\":\"length\",\"value\":4096\x7d," ++
    "\x7b\"name\":\"prot\",\"value\":[\"PROT_WRITE\"]\x7d," ++
    "\x7b\"name\":\"flags\",\"value\":[\"MAP_SHARED\"]\x7d," ++
    "\x7b\"name\":\"fd\",\"value\":3\x7d,\x7b\"name\":\"offset\",\"value\":\"0x0\"\x7d]," ++
    "\"duration\":5,\"errno_name\":\"EACCES\",\"pid\":7,\"ret\":-13," ++
    "\"syscall_name\":\"mmap\",\"syscall_nr\":9\x7d\n"

def deniedOpenLine : String :=
  "\x7b\"args\":[\x7b\"name\":\"arg0\",\"value\":4294967196\x7d," ++
    "\x7b\"name\":\"arg1\",\"value\":4096\x7d,\x7b\"name\":\"arg2\",\"value\":0\x7d," ++
    "\x7b\"name\":\"arg3\",\"value\":0\x7d,\x7b\"name\":\"arg4\",\"value\":0\x7d," ++
    "\x7b\"name\":\"arg5\",\"value\":0\x7d],\"duration\":5,\"errno_name\":\"EACCES\"," ++
    "\"pid\":7,\"ret\":-13,\"syscall_name\":\"openat\",\"syscall_nr\":257\x7d\n"

def failing : Filter :=
  { syscalls := none, onlyFail := true, paths := none }

/-- The mapping is recorded as it was decoded, the `openat` with its registers. -/
theorem output_selects_failing :
    ∃ registry, Registry.withDefaultDecoders blindHost x86Table = .ok registry ∧
      output someCrates (.new false) registry failing [deniedMap, getpidCall, deniedOpen] =
        .ok (deniedMapLine ++ deniedOpenLine) ∧
      lineOf someCrates registry deniedOpen =
        Json.lineText .dev someTables Json.compact deniedOpen.2 (fallbackDecoded deniedOpen.2) := by
  have fits : ∀ observation ∈ [deniedMap, getpidCall, deniedOpen],
      observation.2.duration < 2 ^ 64 := by decide
  obtain ⟨registry, built⟩ :
      ∃ registry, Registry.withDefaultDecoders blindHost x86Table = .ok registry := ⟨_, rfl⟩
  have known : registry.decoder x86Table 257 = some Syscalls.OpenAt := by
    cases built
    rfl
  obtain ⟨_, selects, _, _, falls⟩ := output_selects someCrates (.new false) registry fits
  have undecoded : Undecoded someCrates registry deniedOpen := by
    intro decoder found
    cases known.symm.trans found
    exact ⟨_, rfl⟩
  refine ⟨registry, built, ?_, (falls deniedOpen undecoded).1⟩
  rw [selects failing]
  cases built
  decide +kernel

end SinkState

end Loi
