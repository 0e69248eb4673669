import Loi.Core.SpawnProcesses
import Loi.Foundation.Typestate

set_option autoImplicit false

/-! The discipline that both arms of `spawn` keep: who holds which end of the pipe, and in
what order the ptrace protocol with the child goes. -/

namespace Loi.Core.Spawn

open Foundation Nix Program

/-- What the parent knows of its child. -/
inductive Sight where
  | unknown
  | stopped
  | configured
  | released
  | execed
  | gone
  | lost
  deriving DecidableEq

/-- How far the child has come on its way to the exec. -/
inductive Way where
  | fresh
  | traced
  | stopped
  | failed
  deriving DecidableEq

inductive Role where
  | alone
  | parent (child : Pid) (sight : Sight)
  | child (way : Way)
  deriving DecidableEq

/-- A process of `spawn` and the ends of the pipe that it holds. -/
structure Standing where
  piped : Bool
  readOpen : Bool
  writeOpen : Bool
  role : Role
  deriving DecidableEq

def Standing.start : Standing :=
  { piped := false, readOpen := false, writeOpen := false, role := .alone }

/-- What the first wait tells of the child. -/
def Sight.first : Except Errno WaitStatus → Sight
  | .ok (.stopped _ .SIGSTOP) => .stopped
  | .ok (.exited _ _) | .ok (.signaled _ _ _) => .gone
  | _ => .lost

/-- What the second wait tells of it. -/
def Sight.second : Except Errno WaitStatus → Sight
  | .ok (.ptraceEvent _ _ _) | .ok (.stopped _ .SIGTRAP) => .execed
  | .ok (.exited _ _) | .ok (.signaled _ _ _) => .gone
  | _ => .lost

/-- The calls that a process may make where it stands. The child execs only when it is
traced and has stopped itself, is let go on only when it is stopped with its options set,
and the pipe is read only when no process is left that could write to it. -/
def Standing.Allows (argv : List CString) (standing : Standing) : Call → Prop
  | .pipe2 => standing.piped = false ∧ standing.role = .alone
  | .fork => standing.readOpen = true ∧ standing.writeOpen = true ∧ standing.role = .alone
  | .close .read => standing.readOpen = true
  | .close .write => standing.writeOpen = true
  | .traceme => standing.readOpen = false ∧ standing.role = .child .fresh
  | .raise signal => signal = .SIGSTOP ∧ standing.role = .child .traced
  | .execvp file args => args = argv ∧ argv.head? = some file ∧ standing.role = .child .stopped
  | .write buf => buf ≠ [] ∧ standing.writeOpen = true ∧ standing.role = .child .failed
  | .exit status => status = EXEC_FAILURE_EXIT ∧ standing.readOpen = false ∧
      standing.writeOpen = false ∧ standing.role = .child .failed
  | .waitpid pid => standing.role = .parent pid .unknown ∨ standing.role = .parent pid .released
  | .setoptions pid options => options = PTRACE_OPTIONS ∧ standing.role = .parent pid .stopped
  | .cont pid signal => signal = none ∧ standing.role = .parent pid .configured
  | .read _ => standing.readOpen = true ∧ standing.writeOpen = false ∧
      ∃ child, standing.role = .parent child .gone
  | .detach _ _ => False

def Standing.after (standing : Standing) : (call : Call) → Answer call → Standing
  | .pipe2, .ok _ => { standing with piped := true, readOpen := true, writeOpen := true }
  | .fork, .ok (.parent child) => { standing with role := .parent child .unknown }
  | .fork, .ok .child => { standing with role := .child .fresh }
  | .close .read, _ => { standing with readOpen := false }
  | .close .write, _ => { standing with writeOpen := false }
  | .traceme, .ok _ => { standing with role := .child .traced }
  | .raise _, .ok _ => { standing with role := .child .stopped }
  | .traceme, .error _ | .raise _, .error _ | .execvp _ _, _ =>
      { standing with role := .child .failed }
  | .waitpid pid, answer =>
      { standing with
        role := .parent pid (if standing.role = .parent pid .released then .second answer
          else .first answer) }
  | .setoptions pid _, .ok _ => { standing with role := .parent pid .configured }
  | .cont pid _, .ok _ => { standing with role := .parent pid .released }
  | .setoptions pid _, .error _ | .cont pid _, .error _ =>
      { standing with role := .parent pid .lost }
  | _, _ => standing

/-- The discipline of the processes that are to exec `argv`. -/
def discipline (argv : List CString) : Protocol Answer Standing where
  allows := Standing.Allows argv
  after := Standing.after

/-- The child, with the write end as its only one. -/
def childAt (way : Way) : Standing :=
  { piped := true, readOpen := false, writeOpen := true, role := .child way }

/-- The parent, with the read end as its only one. -/
def parentAt (child : Pid) (sight : Sight) : Standing :=
  { piped := true, readOpen := true, writeOpen := false, role := .parent child sight }

section Child

variable {Value : Type} {argv : List CString} {post : Value → Standing → Prop}

theorem writeAll_keeps (buf : List UInt8) :
    (discipline argv).Keeps (childAt .failed) (writeAll buf)
      fun _ standing => standing = childAt .failed := by
  refine .loop (fun standing program => standing = childAt .failed ∧
    ((∃ left, program = writeAll left) ∨ ∃ result, program = pure result)) ?_
    ⟨rfl, .inl ⟨buf, rfl⟩⟩
  rintro standing program ⟨rfl, ⟨left, rfl⟩ | ⟨result, rfl⟩⟩
  · by_cases empty : left = []
    · refine .inl ⟨.ok (), ?_, rfl⟩
      rw [empty]
      exact funext writeAll_empty
    · refine .inr ⟨.write left, writeAll_nil empty, ⟨empty, rfl, rfl⟩, fun answer => ⟨rfl, ?_⟩⟩
      cases answer with
      | ok n =>
          have turn := writeAll_ok empty n
          by_cases none : n = 0
          · exact .inr ⟨.error Errno.EIO, funext fun more => by
              rw [Protocol.behind, turn, if_pos none]
              rfl⟩
          · exact .inl ⟨left.drop n, funext fun more => by
              rw [Protocol.behind, turn, if_neg none]⟩
      | error errno =>
          have turn := writeAll_error empty errno
          by_cases interrupts : errno = .EINTR
          · exact .inl ⟨left, funext fun more => by
              rw [Protocol.behind, turn, if_pos interrupts]⟩
          · exact .inr ⟨.error errno, funext fun more => by
              rw [Protocol.behind, turn, if_neg interrupts]
              rfl⟩
  · exact .inl ⟨result, rfl, rfl⟩

theorem reportErrno_keeps (errno : Errno) :
    (discipline argv).Keeps (childAt .failed) (reportErrno (.error errno) : Process Value) post := by
  refine (writeAll_keeps _).bind fun _ standing same => ?_
  subst same
  refine .perform_bind rfl fun _ => ?_
  exact .perform_bind ⟨rfl, rfl, rfl, rfl⟩ nofun

theorem tryChild_keeps (nonempty : argv ≠ []) :
    (discipline argv).Keeps (childAt .fresh) (tryChild argv).run
      fun _ standing => standing = childAt .failed := by
  have traces : (discipline argv).Keeps (childAt .fresh) (ExceptT.mk traceme).run
      fun answer standing => standing = (discipline argv).after (childAt .fresh) .traceme answer :=
    .perform ⟨rfl, rfl⟩ fun _ => rfl
  refine traces.run_bind (fun _ _ same => same) fun _ standing same => ?_
  have stops : (discipline argv).Keeps standing (ExceptT.mk (raise .SIGSTOP)).run
      fun answer reached => reached =
        (discipline argv).after (childAt .traced) (.raise .SIGSTOP) answer := by
    rw [same]
    exact .perform ⟨rfl, rfl⟩ fun _ => rfl
  refine stops.run_bind (fun _ _ same => same) fun _ standing same => ?_
  subst same
  obtain ⟨argv0, rest, rfl⟩ := List.exists_cons_of_ne_nil nonempty
  have execs : (discipline (argv0 :: rest)).Keeps (childAt .stopped)
      (ExceptT.lift (execvp argv0 (argv0 :: rest)) : ExceptT Errno Process Errno).run
      fun _ standing => standing = childAt .failed :=
    .run_lift (.perform ⟨rfl, rfl, rfl⟩ fun _ => rfl)
  exact execs.run_bind (fun _ _ same => same) fun _ _ same => .pure same

theorem runChild_keeps (nonempty : argv ≠ []) :
    (discipline argv).Keeps (childAt .fresh) (runChild argv : Process Value) post := by
  refine (tryChild_keeps nonempty).bind fun result standing same => ?_
  subst same
  cases result with
  | ok never => nomatch never
  | error errno => exact reportErrno_keeps errno

end Child

section Parent

variable {fromRaw : Int32 → Errno} {child : Pid} {argv : List CString}

theorem readFull_keeps (capacity : Nat) (filled : List UInt8) :
    (discipline argv).Keeps (parentAt child .gone) (readFull capacity filled)
      fun _ standing => standing = parentAt child .gone := by
  refine .loop (fun standing program => standing = parentAt child .gone ∧
    ((∃ filled, program = readFull capacity filled) ∨ ∃ result, program = pure result)) ?_
    ⟨rfl, .inl ⟨filled, rfl⟩⟩
  rintro standing program ⟨rfl, ⟨filled, rfl⟩ | ⟨result, rfl⟩⟩
  · by_cases room : filled.length < capacity
    · refine .inr ⟨.read (capacity - filled.length), readFull_nil room,
        ⟨rfl, rfl, child, rfl⟩, fun answer => ⟨rfl, ?_⟩⟩
      cases answer with
      | ok bytes =>
          by_cases none : bytes = []
          · subst none
            exact .inr ⟨.ok filled, funext fun more => readFull_end room more⟩
          · exact .inl ⟨filled ++ bytes, funext fun more => readFull_ok room none more⟩
      | error errno =>
          have turn := readFull_error room errno
          by_cases interrupts : errno = .EINTR
          · exact .inl ⟨filled, funext fun more => by
              rw [Protocol.behind, turn, if_pos interrupts]⟩
          · exact .inr ⟨.error errno, funext fun more => by
              rw [Protocol.behind, turn, if_neg interrupts]
              rfl⟩
    · exact .inl ⟨.ok filled, funext fun events => readFull_full (Nat.le_of_not_lt room) events, rfl⟩
  · exact .inl ⟨result, rfl, rfl⟩

/-- The parent goes on with what it has seen, or has given up. -/
def GoesOn {Error : Type} (child : Pid) (sight : Sight) (result : Except Error Unit)
    (standing : Standing) : Prop :=
  match result with
  | .ok () => standing = parentAt child sight
  | .error _ => ∃ other, standing = parentAt child other

theorem GoesOn.andThen {Value : Type} {standing : Standing} {sight : Sight}
    {process : ExceptT SpawnError Process Unit} {next : Unit → ExceptT SpawnError Process Value}
    {post : Except SpawnError Value → Standing → Prop}
    (keeps : (discipline argv).Keeps standing process.run (GoesOn child sight))
    (gaveUp : ∀ error other, post (.error error) (parentAt child other))
    (later : (discipline argv).Keeps (parentAt child sight) (next ()).run post) :
    (discipline argv).Keeps standing (process >>= next).run post := by
  refine keeps.run_bind ?_ ?_
  · rintro error reached ⟨other, same⟩
    rw [same]
    exact gaveUp error other
  · intro value reached same
    rw [show reached = parentAt child sight from same]
    exact later

theorem orPtrace_keeps {Value : Type} {standing : Standing} {call : Process (Except Errno Value)}
    {post : Except Errno Value → Standing → Prop}
    (keeps : (discipline argv).Keeps standing call post) :
    (discipline argv).Keeps standing (orPtrace call).run
      fun result reached => ∃ answer, result = answer.mapError .ptrace ∧ post answer reached :=
  keeps.bind fun answer _ held => .pure ⟨answer, rfl, held⟩

theorem orPtrace_goesOn {standing : Standing} {sight : Sight} {call : Process (Except Errno Unit)}
    (keeps : (discipline argv).Keeps standing call (GoesOn child sight)) :
    (discipline argv).Keeps standing (orPtrace call).run (GoesOn child sight) := by
  refine (orPtrace_keeps keeps).weaken ?_
  rintro result reached ⟨answer, rfl, held⟩
  cases answer <;> exact held

theorem failsWith_keeps {error : SpawnError} {sight : Sight} (other : Sight) :
    (discipline argv).Keeps (parentAt child other) (throw error : ExceptT SpawnError Process Unit).run
      (GoesOn child sight) :=
  .pure ⟨other, rfl⟩

theorem readExecErrno_keeps {sight : Sight} :
    (discipline argv).Keeps (parentAt child .gone)
      (do throw (← ExceptT.lift (readExecErrno fromRaw)) : ExceptT SpawnError Process Unit).run
      (GoesOn child sight) := by
  have reads : (discipline argv).Keeps (parentAt child .gone)
      (ExceptT.lift (readExecErrno fromRaw) : ExceptT SpawnError Process SpawnError).run
      fun _ standing => standing = parentAt child .gone :=
    .run_lift ((readFull_keeps 4 []).bind fun _ _ same => .pure same)
  exact reads.run_bind (fun _ _ same => ⟨_, same⟩) fun _ _ same => .pure ⟨_, same⟩

/-- A wait of the parent, and what it does with the status. -/
theorem waitpid_keeps {before sight : Sight} {seen : Except Errno WaitStatus → Sight}
    {next : WaitStatus → ExceptT SpawnError Process Unit}
    (waits : (discipline argv).Keeps (parentAt child before) (waitpid child)
      fun answer standing => standing = parentAt child (seen answer))
    (goesOn : ∀ status, (discipline argv).Keeps (parentAt child (seen (.ok status)))
      (next status).run (GoesOn child sight)) :
    (discipline argv).Keeps (parentAt child before) (orPtrace (waitpid child) >>= next).run
      (GoesOn child sight) := by
  refine (orPtrace_keeps waits).run_bind ?_ ?_
  · rintro error standing ⟨_, _, same⟩
    exact ⟨_, same⟩
  · rintro status standing ⟨answer, told, same⟩
    cases answer with
    | error errno => cases told
    | ok seen =>
        cases told
        subst same
        exact goesOn status

theorem awaitStop_keeps :
    (discipline argv).Keeps (parentAt child .unknown) (awaitStop fromRaw child).run
      (GoesOn child .stopped) := by
  have waits : (discipline argv).Keeps (parentAt child .unknown) (waitpid child)
      fun answer standing => standing = parentAt child (.first answer) := by
    refine .perform (.inl rfl) fun answer => ?_
    change Standing.after (parentAt child .unknown) (.waitpid child) answer = _
    simp [Standing.after, parentAt]
  refine waitpid_keeps waits fun status => ?_
  split
  · exact .pure rfl
  · exact readExecErrno_keeps
  · exact readExecErrno_keeps
  · exact failsWith_keeps _

theorem awaitExec_keeps :
    (discipline argv).Keeps (parentAt child .released) (awaitExec fromRaw child).run
      (GoesOn child .execed) := by
  have waits : (discipline argv).Keeps (parentAt child .released) (waitpid child)
      fun answer standing => standing = parentAt child (.second answer) := by
    refine .perform (.inr rfl) fun answer => ?_
    change Standing.after (parentAt child .released) (.waitpid child) answer = _
    simp [Standing.after, parentAt]
  refine waitpid_keeps waits fun status => ?_
  split
  · exact .pure rfl
  · exact .pure rfl
  · exact readExecErrno_keeps
  · exact readExecErrno_keeps
  · exact failsWith_keeps _

/-- A process that holds no end of the pipe, and has a tracer only of a child that it has
seen exec. -/
def Done (result : Except SpawnError Tracer) (standing : Standing) : Prop :=
  standing.readOpen = false ∧ standing.writeOpen = false ∧
    ∀ tracer, result = .ok tracer →
      ∃ child, standing.role = .parent child .execed ∧ tracer = .postSpawn child false

theorem finishParent_keeps :
    (discipline argv).Keeps (parentAt child .unknown) (finishParent fromRaw child) Done := by
  let Finished (result : Except SpawnError Tracer) (standing : Standing) : Prop :=
    ∃ sight, standing = parentAt child sight ∧
      ∀ tracer, result = .ok tracer → sight = .execed ∧ tracer = .postSpawn child false
  have gaveUp : ∀ error other, Finished (.error error) (parentAt child other) :=
    fun _ other => ⟨other, rfl, nofun⟩
  have optioned : (discipline argv).Keeps (parentAt child .stopped)
      (setoptions child PTRACE_OPTIONS) (GoesOn child .configured) := by
    refine .perform ⟨rfl, rfl⟩ fun answer => ?_
    cases answer with
    | ok => exact rfl
    | error errno => exact ⟨.lost, rfl⟩
  have continued : (discipline argv).Keeps (parentAt child .configured) (cont child none)
      (GoesOn child .released) := by
    refine .perform ⟨rfl, rfl⟩ fun answer => ?_
    cases answer with
    | ok => exact rfl
    | error errno => exact ⟨.lost, rfl⟩
  have finishes : (discipline argv).Keeps (parentAt child .unknown)
      (do
        awaitStop fromRaw child
        orPtrace (setoptions child PTRACE_OPTIONS)
        orPtrace (cont child none)
        awaitExec fromRaw child
        return Tracer.postSpawn child false : ExceptT SpawnError Process Tracer).run Finished := by
    refine GoesOn.andThen awaitStop_keeps gaveUp ?_
    refine GoesOn.andThen (orPtrace_goesOn optioned) gaveUp ?_
    refine GoesOn.andThen (orPtrace_goesOn continued) gaveUp ?_
    refine GoesOn.andThen awaitExec_keeps gaveUp ?_
    exact .pure ⟨.execed, rfl, fun _ same => ⟨rfl, (Except.ok.inj same).symm⟩⟩
  refine finishes.bind ?_
  rintro result standing ⟨sight, rfl, last⟩
  refine .perform_bind rfl fun _ => .pure ⟨rfl, rfl, ?_⟩
  intro tracer same
  obtain ⟨rfl, made⟩ := last tracer same
  exact ⟨child, rfl, made⟩

end Parent

theorem mapM_cString_bytes {command : List String} {argv : List CString}
    (made : command.mapM cString = .ok argv) : argv.map CString.bytes = command.map utf8Bytes := by
  induction command generalizing argv with
  | nil =>
      cases made
      rfl
  | cons text rest ih =>
      rw [List.mapM_cons] at made
      cases first : cString text with
      | error source =>
          rw [first] at made
          cases made
      | ok argument =>
          cases later : rest.mapM cString with
          | error source =>
              rw [first, later] at made
              cases made
          | ok arguments =>
              rw [first, later] at made
              cases made
              have bytes : argument.bytes = utf8Bytes text := by
                unfold cString at first
                dsimp only at first
                split at first
                · cases first
                  rfl
                · cases first
              rw [List.map_cons, List.map_cons, bytes, ih later]

/-- The argument vector of a command that `spawn` accepts. -/
def argvOf (command : List String) : List CString :=
  (command.mapM cString).toOption.getD []

theorem spawn_keeps (fromRaw : Int32 → Errno) (command : List String) :
    (discipline (argvOf command)).Keeps .start (spawn fromRaw command) Done := by
  unfold spawn
  split
  · exact .pure ⟨rfl, rfl, nofun⟩
  · next nonempty =>
      cases made : command.mapM cString with
      | error source => exact .pure ⟨rfl, rfl, nofun⟩
      | ok argv =>
          have same : argvOf command = argv := by rw [argvOf, made]; rfl
          have some : argv ≠ [] := by
            rintro rfl
            have lengths := congrArg List.length (mapM_cString_bytes made)
            simp only [List.map_nil, List.length_nil, List.length_map] at lengths
            exact nonempty (List.length_eq_zero_iff.mp lengths.symm)
          rw [same]
          refine .perform_bind ⟨rfl, rfl⟩ fun answer => ?_
          cases answer with
          | error errno => exact .pure ⟨rfl, rfl, nofun⟩
          | ok =>
              refine .perform_bind ⟨rfl, rfl, rfl⟩ fun answer => ?_
              cases answer with
              | error errno =>
                  refine .perform_bind rfl fun _ => .perform_bind rfl fun _ => ?_
                  exact .pure ⟨rfl, rfl, nofun⟩
              | ok forked =>
                  cases forked with
                  | child =>
                      exact .perform_bind rfl fun _ => runChild_keeps some
                  | parent child => exact .perform_bind rfl fun _ => finishParent_keeps

section Ends

def Standing.holds (standing : Standing) : PipeEnd → Bool
  | .read => standing.readOpen
  | .write => standing.writeOpen

/-- The pipe has been made. -/
def makesPipe : Event Answer → Bool
  | ⟨.pipe2, .ok _⟩ => true
  | _ => false

def closes (fd : PipeEnd) (event : Event Answer) : Bool :=
  event.call = .close fd

/-- What one allowed call does to the count of an end. -/
structure Counted (fd : PipeEnd) (standing next : Standing) (event : Event Answer) : Prop where
  held : (closes fd event).toNat + (next.holds fd).toNat =
    (standing.holds fd).toNat + (makesPipe event).toNat
  made : (makesPipe event).toNat + standing.piped.toNat = next.piped.toNat
  fresh : next.piped = false → next.holds fd = false

/-- A call other than those that make the pipe or close its ends leaves them alone. -/
theorem Counted.unchanged {fd : PipeEnd} {standing next : Standing} {event : Event Answer}
    (fresh : standing.piped = false → standing.holds fd = false)
    (same : next.piped = standing.piped ∧ next.holds fd = standing.holds fd)
    (none : closes fd event = false ∧ makesPipe event = false) :
    Counted fd standing next event := by
  obtain ⟨piped, holds⟩ := same
  refine ⟨by simp [none, holds], by simp [none, piped], ?_⟩
  rw [piped, holds]
  exact fresh

theorem allowed_counted {argv : List CString} (fd : PipeEnd) {standing : Standing}
    {event : Event Answer} (allowed : standing.Allows argv event.call)
    (fresh : standing.piped = false → standing.holds fd = false) :
    Counted fd standing (standing.after event.call event.answer) event := by
  obtain ⟨call, answer⟩ := event
  cases call with
  | pipe2 =>
      obtain ⟨unpiped, _⟩ := allowed
      cases answer with
      | error errno => exact .unchanged fresh ⟨rfl, by cases fd <;> rfl⟩ ⟨by simp [closes], rfl⟩
      | ok =>
          have opened : (standing.after .pipe2 (.ok ())).holds fd = true := by cases fd <;> rfl
          exact ⟨by simp [fresh unpiped, opened, closes, makesPipe],
            by simp [unpiped, makesPipe, Standing.after], nofun⟩
  | close closed =>
      have open' : standing.holds closed = true := by
        cases closed <;> exact allowed
      by_cases same : closed = fd
      · subst same
        have shut : (standing.after (.close closed) answer).holds closed = false := by
          cases closed <;> rfl
        have kept : (standing.after (.close closed) answer).piped = standing.piped := by
          cases closed <;> rfl
        exact ⟨by simp [closes, makesPipe, shut, open'], by simp [makesPipe, kept], fun _ => shut⟩
      · have kept : (standing.after (.close closed) answer).piped = standing.piped := by
          cases closed <;> rfl
        have other : (standing.after (.close closed) answer).holds fd = standing.holds fd := by
          cases closed <;> cases fd <;> first | rfl | exact absurd rfl same
        exact .unchanged fresh ⟨kept, other⟩ ⟨by simp [closes, same], rfl⟩
  | fork =>
      refine .unchanged fresh ?_ ⟨by simp [closes], rfl⟩
      cases fd <;> rcases answer with _ | (_ | _) <;> exact ⟨rfl, rfl⟩
  | traceme | raise | setoptions | cont =>
      refine .unchanged fresh ?_ ⟨by simp [closes], rfl⟩
      cases fd <;> cases answer <;> exact ⟨rfl, rfl⟩
  | execvp | waitpid | write | read | detach =>
      refine .unchanged fresh ?_ ⟨by simp [closes], rfl⟩
      cases fd <;> exact ⟨rfl, rfl⟩
  | exit => nomatch answer

/-- An end is held between the one call that makes the pipe and the one that closes it. -/
theorem obeyed_counts {argv : List CString} (fd : PipeEnd) {standing : Standing}
    {events : List (Event Answer)} (obeyed : (discipline argv).Obeyed standing events)
    (fresh : standing.piped = false → standing.holds fd = false) :
    events.countP (closes fd) + (((discipline argv).afterAll standing events).holds fd).toNat =
        (standing.holds fd).toNat + events.countP makesPipe ∧
      events.countP makesPipe + standing.piped.toNat ≤ 1 := by
  induction events generalizing standing with
  | nil =>
      refine ⟨by simp [Protocol.afterAll], ?_⟩
      cases standing.piped <;> simp
  | cons event more ih =>
      obtain ⟨allowed, later⟩ := obeyed
      have counted := allowed_counted fd allowed fresh
      obtain ⟨held, made⟩ := ih later counted.fresh
      have step : (discipline argv).afterAll standing (event :: more) = (discipline argv).afterAll
          ((discipline argv).after standing event.call event.answer) more := rfl
      have heldNow := counted.held
      have madeNow := counted.made
      rw [step, List.countP_cons, List.countP_cons]
      have closing : (if closes fd event = true then 1 else 0) = (closes fd event).toNat := by
        cases closes fd event <;> rfl
      have making : (if makesPipe event = true then 1 else 0) = (makesPipe event).toNat := by
        cases makesPipe event <;> rfl
      rw [closing, making]
      change _ = (standing.after event.call event.answer).piped.toNat at madeNow
      change _ + ((standing.after event.call event.answer).holds fd).toNat = _ at heldNow
      change _ = ((standing.after event.call event.answer).holds fd).toNat + _ at held
      change _ + (standing.after event.call event.answer).piped.toNat ≤ 1 at made
      omega

end Ends

/-- The discipline of `spawn`, in every history of calls and answers and on both sides of
its fork. The parent sets the options of a child that it has seen stopped, lets it go on
only then, reads the pipe only when the child is dead and its own write end is closed, and
has a tracer only of a child that it has seen exec. The child stops itself under ptrace
before it execs the bytes of the command. Where `spawn` returns, each end of the pipe has
been closed once for each pipe made, and at most one was; on a command that is empty or
holds a NUL it makes no call. -/
theorem spawn_disciplined (fromRaw : Int32 → Errno) (command : List String)
    (events : List (Event Answer)) (history : History (spawn fromRaw command) events) :
    (discipline (argvOf command)).Obeyed .start events ∧
    (∀ call, spawn fromRaw command events = .asks call →
      ((discipline (argvOf command)).afterAll .start events).Allows (argvOf command) call) ∧
    (∀ result unread, spawn fromRaw command events = .returned result unread →
      unread = [] ∧ Done result ((discipline (argvOf command)).afterAll .start events) ∧
      events.countP makesPipe ≤ 1 ∧
      ∀ fd, events.countP (closes fd) = events.countP makesPipe) ∧
    (events ≠ [] → command ≠ [] ∧ (∀ text ∈ command, 0 ∉ utf8Bytes text) ∧
      (argvOf command).map CString.bytes = command.map utf8Bytes) := by
  obtain ⟨obeyed, next, returned⟩ := (spawn_keeps fromRaw command).history history
  refine ⟨obeyed, next, ?_, ?_⟩
  · intro result unread ends
    obtain ⟨nothing, done⟩ := returned result unread ends
    have counts := fun fd => obeyed_counts fd obeyed (by cases fd <;> exact fun _ => rfl)
    refine ⟨nothing, done, (counts .read).2, fun fd => ?_⟩
    obtain ⟨readShut, writeShut, _⟩ := done
    have shut : ((discipline (argvOf command)).afterAll .start events).holds fd = false := by
      cases fd
      · exact readShut
      · exact writeShut
    have count := (counts fd).1
    have fresh : Standing.start.holds fd = false := by cases fd <;> rfl
    rw [shut, fresh] at count
    simpa using count
  · intro some
    obtain ⟨event, more, rfl⟩ := List.exists_cons_of_ne_nil some
    have begins := (Protocol.history_cons_iff.mp history).1
    unfold spawn at begins
    split at begins
    · cases begins
    · next nonempty =>
        cases made : command.mapM cString with
        | error source =>
            rw [made] at begins
            cases begins
        | ok argv =>
            have bytes := mapM_cString_bytes made
            have same : argvOf command = argv := by rw [argvOf, made]; rfl
            refine ⟨nonempty, ?_, by rw [same, bytes]⟩
            intro text member
            have among : utf8Bytes text ∈ argv.map CString.bytes := by
              rw [bytes]
              exact List.mem_map_of_mem member
            obtain ⟨argument, _, same⟩ := List.mem_map.mp among
            rw [← same]
            exact argument.noNul

/-- The parent arm of a `spawn` that succeeds. -/
def execedParent : List (Event Answer) :=
  [⟨.pipe2, .ok ()⟩, ⟨.fork, .ok (.parent 7)⟩, ⟨.close .write, ()⟩,
    ⟨.waitpid 7, .ok (.stopped 7 .SIGSTOP)⟩, ⟨.setoptions 7 PTRACE_OPTIONS, .ok ()⟩,
    ⟨.cont 7 none, .ok ()⟩, ⟨.waitpid 7, .ok (.ptraceEvent 7 .SIGTRAP PTRACE_EVENT_EXEC)⟩,
    ⟨.close .read, ()⟩]

theorem spawn_disciplined_execedParent :
    (discipline (argvOf ["x"])).Obeyed .start execedParent ∧
      execedParent.countP (closes .read) = execedParent.countP makesPipe := by
  have history : History (spawn Errno.mk ["x"]) execedParent := by
    simp only [execedParent, Protocol.history_cons_iff]
    exact ⟨rfl, rfl, rfl, rfl, rfl, rfl, rfl, rfl, .nil⟩
  obtain ⟨obeyed, _, returned, _⟩ := spawn_disciplined Errno.mk ["x"] execedParent history
  exact ⟨obeyed, (returned (.ok (.postSpawn 7 false)) [] rfl).2.2.2 .read⟩

end Loi.Core.Spawn
