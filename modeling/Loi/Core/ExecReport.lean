import Loi.Core.SpawnSystem

set_option autoImplicit false

/-! The exec of the child and its report over the pipe: what the parent returns, and that
it does. -/

namespace Loi.Core.Spawn

open Foundation Nix Program

section Progress

variable {fromRaw : Int32 → Errno} {command : List String} {child : Pid} {file : CString}
  {args : List CString} {system system' : System} {parent : ParentAt} {place : ChildAt}
  {lost : Bool}

/-- The ranks of the places: each move but an interruption makes one of them less. -/
def ParentAt.rank : ParentAt → Nat
  | .dropsWriteEnd => 10
  | .waitsStop => 9
  | .setsOptions => 8
  | .continues => 7
  | .waitsExec => 6
  | .reads filled _ => 5 - filled.length
  | .dropsReadEnd _ => 1
  | .returned _ => 0

def ChildAt.rank : ChildAt → Nat
  | .dropsReadEnd => 11
  | .traces => 10
  | .raises => 9
  | .execs => 8
  | .writes _ left => 4 + left.length
  | .dropsWriteEnd => 3
  | .exits => 2

def Kernel.childRank (kernel : Kernel) (place : ChildAt) : Nat :=
  match kernel.child with
  | .running | .stopped => place.rank
  | .execStop => 1
  | .dead => 0

theorem ParentAt.sawFirst_rank (answer : Except Errno WaitStatus) :
    (sawFirst answer).rank ≤ 8 := by
  unfold sawFirst
  split <;> simp [rank]

theorem ParentAt.sawSecond_rank (answer : Except Errno WaitStatus) :
    (sawSecond child answer).rank ≤ 5 := by
  unfold sawSecond
  split <;> simp [rank]

theorem ParentAt.next_rank {call : Call} {answer : Answer call} {kernel kernel' : Kernel}
    (asks : parent.call child = some call)
    (answered : kernel.answerParent child ⟨call, answer⟩ = some kernel')
    (quiet : interrupted ⟨call, answer⟩ = false) :
    (parent.next fromRaw child ⟨call, answer⟩).rank < parent.rank := by
  cases parent with
  | dropsWriteEnd | dropsReadEnd =>
      cases asks
      exact Nat.lt_succ_self _
  | waitsStop =>
      cases asks
      exact Nat.lt_succ_of_le (sawFirst_rank answer)
  | waitsExec =>
      cases asks
      exact Nat.lt_succ_of_le (sawSecond_rank answer)
  | setsOptions | continues =>
      cases asks
      cases answer <;> cases answered
      exact Nat.lt_succ_self _
  | reads filled room =>
      cases asks
      rcases answerParent_read answered with
        ⟨rfl, _, _⟩ | ⟨bytes, _, rfl, some, _⟩ | ⟨rfl, _⟩
      · change 1 < 5 - filled.length
        omega
      · have more : 0 < bytes.length := List.length_pos_iff.mpr some
        change (sawRead fromRaw filled room (.ok bytes)).rank < 5 - filled.length
        rw [sawRead, if_neg some, reading]
        split
        · simp only [rank, List.length_append]
          omega
        · simp only [rank]
          omega
      · cases quiet
  | returned => cases asks

theorem ChildAt.writing_rank (left : List UInt8) : (writing left).rank ≤ 3 + left.length := by
  cases left with
  | nil => exact Nat.le_refl _
  | cons byte left =>
      simp only [writing, rank, List.length_cons]
      omega

theorem ChildAt.next_rank {answer : Answer (place.call file args)}
    (quiet : interrupted ⟨place.call file args, answer⟩ = false)
    (goesOn : place ≠ .exits) :
    (place.next ⟨place.call file args, answer⟩).rank < place.rank := by
  cases place with
  | dropsReadEnd | dropsWriteEnd => exact Nat.lt_succ_self _
  | traces | raises =>
      cases answer with
      | ok => exact Nat.lt_succ_self _
      | error errno =>
          refine Nat.lt_of_le_of_lt (writing_rank (toNeBytes errno.raw)) ?_
          simp only [toNeBytes_length, rank]
          decide
  | execs =>
      refine Nat.lt_of_le_of_lt (writing_rank (toNeBytes (Errno.raw answer))) ?_
      simp only [toNeBytes_length, rank]
      decide
  | writes byte left =>
      cases answer with
      | error errno =>
          have goes : ¬ errno = .EINTR := by simpa [call] using quiet
          simp only [call, next, if_neg goes, rank]
          omega
      | ok n =>
          simp only [call, next]
          split
          · simp only [rank]
            omega
          · have less := writing_rank ((byte :: left).drop n)
            rw [List.length_drop, List.length_cons] at less
            change _ < 4 + left.length
            omega
  | exits => exact absurd rfl goesOn

theorem ParentAt.next_interrupted {call : Call} {answer : Answer call}
    (asks : parent.call child = some call) (interrupts : interrupted ⟨call, answer⟩ = true) :
    parent.next fromRaw child ⟨call, answer⟩ = parent := by
  cases parent with
  | reads filled room =>
      cases asks
      cases answer with
      | ok bytes => cases interrupts
      | error errno => exact if_pos (of_decide_eq_true interrupts)
  | _ => cases asks <;> cases interrupts

theorem ChildAt.next_interrupted {answer : Answer (place.call file args)}
    (interrupts : interrupted ⟨place.call file args, answer⟩ = true) :
    place.next ⟨place.call file args, answer⟩ = place := by
  cases place with
  | writes byte left =>
      cases answer with
      | ok n => cases interrupts
      | error errno => exact if_pos (of_decide_eq_true interrupts)
  | _ => cases interrupts

theorem Kernel.childRank_congr {kernel kernel' : Kernel} (place : ChildAt)
    (kept : kernel'.child = kernel.child ∨ kernel.child = .stopped ∧ kernel'.child = .running) :
    kernel'.childRank place = kernel.childRank place := by
  rcases kept with same | ⟨stopped, running⟩
  · rw [childRank, childRank, same]
  · rw [childRank, childRank, stopped, running]

theorem Kernel.childRank_running {kernel : Kernel} (running : kernel.child = .running)
    (place : ChildAt) : kernel.childRank place = place.rank := by
  rw [childRank, running]

theorem ChildAt.rank_pos (place : ChildAt) : 1 < place.rank := by
  cases place <;> simp [rank]
  omega

/-- What is left to do: each move but an interruption makes it less. -/
def System.rank (system : System) (parent : ParentAt) (place : ChildAt) : Nat :=
  parent.rank + system.kernel.childRank place

theorem exited_isExitOf (child : Pid) (status : Int32) :
    (WaitStatus.exited child status).isExitOf child = true :=
  decide_eq_true rfl

theorem signaled_isExitOf (child : Pid) (signal : Signal) (coreDumped : Bool) :
    (WaitStatus.signaled child signal coreDumped).isExitOf child = true :=
  decide_eq_true rfl

def Move.losesReport : Move → Bool
  | .killedUnreported _ _ => true
  | _ => false

/-- Each move keeps the invariant. -/
theorem Invariant.step (is : Invariant fromRaw command child file args system parent place lost)
    {move : Move} (step : system.Step fromRaw command child move system') :
    ∃ parent' place',
      Invariant fromRaw command child file args system' parent' place' (lost || move.losesReport) ∧
      system'.rank parent' place' + 1 ≤
        system.rank parent place + if move.interrupted then 1 else 0 := by
  unfold System.rank
  cases step with
  | @parent event kernel asks answered =>
      refine ⟨_, place, (Bool.or_false lost).symm ▸ is.parentStep asks answered, ?_⟩
      have next := is.parent_asks asks
      rw [Kernel.childRank_congr place (answerParent_kernel answered).2.2]
      obtain ⟨call, answer⟩ := event
      cases interrupts : interrupted ⟨call, answer⟩ with
      | true =>
          rw [ParentAt.next_interrupted next interrupts]
          simp [Move.interrupted, interrupts]
      | false =>
          have less : (parent.next fromRaw child ⟨call, answer⟩).rank < parent.rank :=
            ParentAt.next_rank next answered interrupts
          simp only [Move.interrupted, interrupts]
          omega
  | @child event kernel running asks answered =>
      refine ⟨parent, _, (Bool.or_false lost).symm ▸ is.childStep running asks answered, ?_⟩
      have next := is.child_asks asks
      obtain ⟨call, answer⟩ := event
      subst next
      have rankOf : ∀ place, kernel.childRank place = place.rank := by
        intro place
        obtain ⟨_, _, _, ⟨same, _⟩ | ⟨_, _, stopped, _⟩⟩ := answerChild_kernel answered
        · exact Kernel.childRank_running (same.trans running) place
        · rw [Kernel.childRank, stopped]
      rw [rankOf, Kernel.childRank_running running]
      cases interrupts : interrupted ⟨place.call file args, answer⟩ with
      | true =>
          rw [ChildAt.next_interrupted interrupts]
          simp [Move.interrupted, interrupts]
      | false =>
          have less : (place.next ⟨place.call file args, answer⟩).rank < place.rank := by
            apply ChildAt.next_rank interrupts
            rintro rfl
            exact answer.elim
          simp only [Move.interrupted, interrupts]
          omega
  | execs running asks =>
      refine ⟨parent, place, (Bool.or_false lost).symm ▸ is.execs running asks, ?_⟩
      have more := place.rank_pos
      rw [Kernel.childRank_running running]
      simp only [Kernel.childRank, Kernel.execs, Move.interrupted]
      omega
  | @exits status running asks =>
      have dies := is.dies (by simp [running]) (by simp [running]) (exited_isExitOf child status)
      refine ⟨parent, place, (Bool.or_false lost).symm ▸ dies, ?_⟩
      have more := place.rank_pos
      rw [Kernel.childRank_running running]
      simp only [Kernel.childRank, Kernel.dies, Move.interrupted]
      omega
  | @killed signal coreDumped alive seen =>
      have dies := is.dies alive seen (signaled_isExitOf child signal coreDumped)
      refine ⟨parent, place, (Bool.or_false lost).symm ▸ dies, ?_⟩
      have more := place.rank_pos
      simp only [Kernel.childRank, Kernel.dies, Move.interrupted]
      cases state : system.kernel.child with
      | dead => exact absurd state alive
      | _ =>
        simp only
        omega
  | @killedUnreported signal coreDumped stops unseen =>
      have dies := is.diesUnreported stops unseen (signaled_isExitOf child signal coreDumped)
      refine ⟨parent, place, (Bool.or_true lost).symm ▸ dies, ?_⟩
      simp only [Kernel.childRank, Kernel.dies, Move.interrupted, stops]
      omega

/-- The run lemma: the invariant holds all along, and the moves are bounded. -/
theorem invariant_of_run (valid : command.mapM cString = .ok (file :: args)) {moves : List Move}
    (run : System.Run fromRaw command child moves system) :
    ∃ parent place,
      Invariant fromRaw command child file args system parent place (moves.any Move.losesReport) ∧
      moves.length + system.rank parent place ≤ 21 + moves.countP Move.interrupted := by
  induction run with
  | start => exact ⟨_, _, invariant_forked valid, Nat.le_refl 21⟩
  | @snoc moves move system system' _ step ih =>
      obtain ⟨parent, place, is, bound⟩ := ih
      obtain ⟨parent', place', is', less⟩ := is.step step
      refine ⟨parent', place', ?_, ?_⟩
      · rw [List.any_append, List.any_cons, List.any_nil, Bool.or_false]
        exact is'
      · rw [List.length_append, List.length_singleton, List.countP_append, List.countP_singleton]
        omega

theorem Invariant.parentMoves
    (is : Invariant fromRaw command child file args system parent place lost)
    {call : Call} {answer : Answer call} {kernel : Kernel} (next : parent.call child = some call)
    (answered : system.kernel.answerParent child ⟨call, answer⟩ = some kernel)
    (quiet : interrupted ⟨call, answer⟩ = false) :
    ∃ move system', system.Step fromRaw command child move system' ∧ move.interrupted = false := by
  refine ⟨.parent ⟨call, answer⟩, _, .parent ?_ answered, quiet⟩
  rw [is.parentLeft.now, ParentAt.program_nil fromRaw child next]

/-- A child that runs has a next move. -/
theorem Invariant.childMoves
    (is : Invariant fromRaw command child file args system parent place lost)
    (running : system.kernel.child = .running) :
    ∃ move system', system.Step fromRaw command child move system' ∧ move.interrupted = false := by
  have asks : spawn fromRaw command system.child = .asks (place.call file args) := by
    rw [is.childLeft.now, ChildAt.program_nil]
  cases place with
  | dropsReadEnd => exact ⟨.child ⟨.close .read, ()⟩, _, .child running asks rfl, rfl⟩
  | traces => exact ⟨.child ⟨.traceme, .ok ()⟩, _, .child running asks rfl, rfl⟩
  | raises => exact ⟨.child ⟨.raise .SIGSTOP, .ok ()⟩, _, .child running asks rfl, rfl⟩
  | execs => exact ⟨.execs, _, .execs running asks, rfl⟩
  | writes byte left =>
      have answered : system.kernel.answerChild child ⟨.write (byte :: left), .ok 1⟩ =
          some { system.kernel with pipe := system.kernel.pipe ++ [byte] } := by
        simp [Kernel.answerChild]
      exact ⟨.child ⟨.write (byte :: left), .ok 1⟩, _, .child running asks answered, rfl⟩
  | dropsWriteEnd => exact ⟨.child ⟨.close .write, ()⟩, _, .child running asks rfl, rfl⟩
  | exits => exact ⟨.exits, _, .exits running asks, rfl⟩

/-- A wait of the parent ends, or the child runs. -/
theorem Scene.waits {kernel : Kernel} {sent : List UInt8}
    (scene : Scene fromRaw child parent place kernel sent lost)
    (waits : parent = .waitsStop ∨ parent = .waitsExec) :
    (∃ status, kernel.pending = some status) ∨ kernel.child = .running := by
  cases scene with
  | starts running | resumed running => exact .inr running
  | stops _ pending | execed _ pending | died _ pending => exact .inl ⟨_, pending⟩
  | stopped _ _ _ resumes =>
      rcases waits with rfl | rfl <;> simp at resumes
  | succeeded _ _ succeeded => rcases waits with rfl | rfl <;> exact succeeded.elim
  | reaped _ _ _ _ _ failed => rcases waits with rfl | rfl <;> exact failed.elim

/-- Nobody can write to the pipe any more when the parent reads. -/
theorem Scene.reads {kernel : Kernel} {sent filled : List UInt8} {room : filled.length < 4}
    (scene : Scene fromRaw child (.reads filled room) place kernel sent lost) :
    kernel.childWrites = false := by
  cases scene with
  | reaped _ _ _ _ closed => exact closed
  | starts _ _ _ early | stops _ _ _ early => exact early.elim
  | stopped _ _ _ resumes => simp at resumes
  | resumed _ _ _ waits | execed _ _ _ waits => cases waits
  | succeeded _ _ succeeded => exact succeeded.elim
  | died _ _ _ _ _ _ waits => exact waits.elim

/-- No deadlock: until the parent has returned, there is a move that is no interruption. -/
theorem Invariant.progress
    (is : Invariant fromRaw command child file args system parent place lost) :
    (∃ result, parent = .returned result) ∨
      ∃ move system', system.Step fromRaw command child move system' ∧
        move.interrupted = false := by
  have waits : parent = .waitsStop ∨ parent = .waitsExec →
      ∃ move system', system.Step fromRaw command child move system' ∧
        move.interrupted = false := by
    intro waits
    rcases is.scene.waits waits with ⟨status, pending⟩ | running
    · have answered : system.kernel.answerParent child ⟨.waitpid child, .ok status⟩ =
          some { system.kernel with pending := none } :=
        if_pos ⟨rfl, pending⟩
      rcases waits with rfl | rfl <;> exact is.parentMoves rfl answered rfl
    · exact is.childMoves running
  cases parent with
  | dropsWriteEnd =>
      have answered : system.kernel.answerParent child ⟨.close .write, ()⟩ =
          some { system.kernel with parentWrites := false } := rfl
      exact .inr (is.parentMoves rfl answered rfl)
  | dropsReadEnd =>
      have answered : system.kernel.answerParent child ⟨.close .read, ()⟩ =
          some system.kernel := rfl
      exact .inr (is.parentMoves rfl answered rfl)
  | setsOptions =>
      have answered : system.kernel.answerParent child
          ⟨.setoptions child PTRACE_OPTIONS, .ok ()⟩ = some system.kernel := rfl
      exact .inr (is.parentMoves rfl answered rfl)
  | continues =>
      have answered : system.kernel.answerParent child ⟨.cont child none, .ok ()⟩ =
          some system.kernel.cont := rfl
      exact .inr (is.parentMoves rfl answered rfl)
  | waitsStop => exact .inr (waits (.inl rfl))
  | waitsExec => exact .inr (waits (.inr rfl))
  | reads filled room =>
      right
      have noWriter : system.kernel.parentWrites = false ∧ system.kernel.childWrites = false :=
        ⟨is.closed.resolve_left nofun, is.scene.reads⟩
      cases pipe : system.kernel.pipe with
      | nil =>
          have answered : system.kernel.answerParent child ⟨.read (4 - filled.length), .ok []⟩ =
              some system.kernel := by
            simp [Kernel.answerParent, pipe, noWriter]
          exact is.parentMoves rfl answered rfl
      | cons byte rest =>
          have front : [byte] <+: system.kernel.pipe := ⟨rest, by rw [pipe]; rfl⟩
          have fits : [byte].length ≤ 4 - filled.length := by
            rw [List.length_singleton]
            omega
          have answered : system.kernel.answerParent child
              ⟨.read (4 - filled.length), .ok [byte]⟩ =
                some { system.kernel with pipe := system.kernel.pipe.drop 1 } := by
            rw [Kernel.answerParent, if_neg (List.cons_ne_nil byte []), if_pos ⟨fits, front⟩]
            rfl
          exact is.parentMoves rfl answered rfl
  | returned result => exact .inl ⟨result, rfl⟩

end Progress

section Report

theorem fromNeBytes_toNeBytes (value : Int32) : fromNeBytes (toNeBytes value) = value := by
  have small : value.toUInt32.toNat < 2 ^ 32 := value.toUInt32.toNat_lt
  have digits : Nat.ofDigits 256 ((toNeBytes value).map UInt8.toNat) = value.toUInt32.toNat := by
    simp only [toNeBytes, List.range, List.range.loop, List.map_cons, List.map_nil,
      Nat.ofDigits_cons, Nat.ofDigits_nil, UInt8.toNat_ofNat']
    omega
  rw [fromNeBytes, digits]
  have same : UInt32.ofNat value.toUInt32.toNat = value.toUInt32 := UInt32.ofNat_toNat
  exact congrArg Int32.ofUInt32 same

theorem losesReport_iff {moves : List Move} :
    moves.any Move.losesReport = true ↔
      ∃ signal coreDumped, .killedUnreported signal coreDumped ∈ moves := by
  rw [List.any_eq_true]
  constructor
  · rintro ⟨move, member, loses⟩
    cases move with
    | killedUnreported signal coreDumped => exact ⟨signal, coreDumped, member⟩
    | _ => cases loses
  · rintro ⟨signal, coreDumped, member⟩
    exact ⟨_, member, rfl⟩

theorem not_losesReport {moves : List Move} (kept : moves.any Move.losesReport = false) :
    ∀ signal coreDumped, .killedUnreported signal coreDumped ∉ moves := by
  intro signal coreDumped member
  rw [losesReport_iff.mpr ⟨signal, coreDumped, member⟩] at kept
  cases kept

/-- `try_child` has failed with the error, and the write of its four bytes is complete. -/
def Reported (argv : List CString) (events : List (Event Answer)) (errno : Errno) : Prop :=
  ∃ behind unread last, events = childStart ++ ⟨.close .read, ()⟩ :: behind ∧
    (tryChild argv).run behind = .returned (.error errno) unread ∧
    writeAll (toNeBytes errno.raw) unread = .returned (.ok ()) last

theorem written_of_reported {argv : List CString} {events : List (Event Answer)} {errno : Errno}
    (reported : Reported argv events errno) (short : (written events).length ≤ 4) :
    written events = toNeBytes errno.raw := by
  obtain ⟨behind, unread, last, rfl, failed, complete⟩ := reported
  obtain ⟨tried, rfl⟩ := tryChild_readsFront argv failed
  obtain ⟨consumed, rfl, sent⟩ := written_of_writeAll complete
  have whole : (written (childStart ++ ⟨.close .read, ()⟩ :: (tried ++ (consumed ++ last)))) =
      written tried ++ toNeBytes errno.raw ++ written last := by
    simp [childStart, writtenBy, sent]
  rw [whole, List.length_append, List.length_append, toNeBytes_length] at short
  have before : written tried = [] := List.length_eq_zero_iff.mp (by omega)
  have after : written last = [] := List.length_eq_zero_iff.mp (by omega)
  rw [whole, before, after, List.nil_append, List.append_nil]

variable {fromRaw : Int32 → Errno} {command : List String} {child : Pid} {file : CString}
  {args : List CString} {system : System} {parent : ParentAt} {place : ChildAt} {lost : Bool}

/-- What the parent has returned tells how it went for the child. -/
theorem Invariant.returned {result : Except SpawnError Tracer}
    (is : Invariant fromRaw command child file args system (.returned result) place lost) :
    ((∃ tracer, result = .ok tracer) ∧ system.kernel.execed = true ∧ lost = false ∧
        written system.child = []) ∨
      (result = .error (execErrno fromRaw (written system.child)) ∧
        system.kernel.execed = lost ∧ (lost = true → written system.child = [])) := by
  have silent : place = .execs → written system.child = [] := by
    rintro rfl
    exact is.sent
  cases is.scene with
  | succeeded _ execed succeeded isExecs =>
      cases result with
      | ok tracer => exact .inl ⟨⟨tracer, rfl⟩, execed, rfl, silent isExecs⟩
      | error => exact succeeded.elim
  | reaped _ _ execed isExecs _ failed =>
      cases result with
      | ok => exact failed.elim
      | error error =>
          exact .inr ⟨congrArg Except.error failed, execed, fun lost => silent (isExecs lost)⟩
  | starts _ _ _ early | stops _ _ _ early => exact early.elim
  | stopped _ _ _ resumes => simp at resumes
  | resumed _ _ _ waits | execed _ _ _ waits => cases waits
  | died _ _ _ _ _ _ waits => exact waits.elim

/-- In every run from the fork, what `spawn` returns in the parent is what happened to the
child, but that a child which is killed before a wait has reported its exec is taken for one
that has not got there; it returns after boundedly many moves that are no interruptions, and
until then there is another one; and the bytes arrive as they were sent, as the loops at
either end keep them for any buffer. -/
theorem spawn_reports_exec (valid : command.mapM cString = .ok (file :: args))
    {moves : List Move} (run : System.Run fromRaw command child moves system) :
    (∀ result unread, spawn fromRaw command system.parent = .returned result unread →
      ((∃ tracer, result = .ok tracer) ↔
        system.kernel.execed = true ∧
          ∀ signal coreDumped, .killedUnreported signal coreDumped ∉ moves) ∧
      (∀ errno, fromRaw errno.raw = errno → Reported (file :: args) system.child errno →
        result = .error (.exec errno)) ∧
      (system.kernel.child = .dead → system.kernel.execed = false →
        (written system.child).length < 4 → result = .error .traceeGone) ∧
      ∀ signal coreDumped, .killedUnreported signal coreDumped ∈ moves →
        result = .error .traceeGone) ∧
    moves.length ≤ 21 + moves.countP Move.interrupted ∧
    ((∃ result unread, spawn fromRaw command system.parent = .returned result unread) ∨
      ∃ move system', system.Step fromRaw command child move system' ∧
        move.interrupted = false) ∧
    received system.parent ++ system.kernel.pipe = written system.child ∧
    (∀ buf events, History (writeAll buf) events → WriteAt buf events) ∧
    ∀ capacity events, History (readFull capacity []) events → ReadAt capacity events := by
  obtain ⟨parent, place, is, bound⟩ := invariant_of_run valid run
  refine ⟨?_, by omega, ?_, is.bytes, fun _ _ => writeAt_of_history,
    fun _ _ => readAt_of_history⟩
  · intro result unread returned
    rw [is.parentLeft.now] at returned
    have ended : parent = .returned result := by
      rcases ParentAt.program_returned fromRaw child returned with
        ⟨ended, _⟩ | ⟨_, _, _, _, nil, _⟩
      · exact ended
      · cases nil
    subst ended
    rcases is.returned with ⟨⟨tracer, rfl⟩, execed, kept, nothing⟩ | ⟨rfl, execed, nothing⟩
    · have reported := not_losesReport kept
      refine ⟨iff_of_true ⟨tracer, rfl⟩ ⟨execed, reported⟩, ?_, ?_, ?_⟩
      · intro errno _ reported
        have sent := written_of_reported reported is.sent.length_le
        rw [nothing] at sent
        cases sent
      · intro _ notYet
        rw [execed] at notYet
        cases notYet
      · intro signal coreDumped lost
        exact absurd lost (reported signal coreDumped)
    · refine ⟨iff_of_false ?_ ?_, ?_, ?_, ?_⟩
      · rintro ⟨tracer, same⟩
        cases same
      · rintro ⟨done, reported⟩
        obtain ⟨signal, coreDumped, lost⟩ := losesReport_iff.mp (execed.symm.trans done)
        exact reported signal coreDumped lost
      · intro errno known reported
        rw [written_of_reported reported is.sent.length_le, execErrno, if_pos (toNeBytes_length _),
          fromNeBytes_toNeBytes, known]
      · intro _ _ short
        rw [execErrno, if_neg (Nat.ne_of_lt short)]
      · intro signal coreDumped lost
        rw [nothing (losesReport_iff.mpr ⟨signal, coreDumped, lost⟩)]
        rfl
  · refine is.progress.imp_left ?_
    rintro ⟨result, rfl⟩
    exact ⟨result, [], is.parentLeft.now⟩

theorem System.Run.byParent {moves : List Move} (run : System.Run fromRaw command child moves system)
    (event : Event Answer) {kernel : Kernel}
    (asks : spawn fromRaw command system.parent = .asks event.call)
    (answered : system.kernel.answerParent child event = some kernel) :
    System.Run fromRaw command child (moves ++ [.parent event])
      { system with parent := system.parent ++ [event], kernel } :=
  run.snoc (.parent asks answered)

theorem System.Run.byChild {moves : List Move} (run : System.Run fromRaw command child moves system)
    (event : Event Answer) {kernel : Kernel} (running : system.kernel.child = .running)
    (asks : spawn fromRaw command system.child = .asks event.call)
    (answered : system.kernel.answerChild child event = some kernel) :
    System.Run fromRaw command child (moves ++ [.child event])
      { system with child := system.child ++ [event], kernel } :=
  run.snoc (.child running asks answered)

def missingProgram : CString where
  bytes := [120]
  noNul := by decide

/-- The child is told that there is no such program. Its write goes in two pieces and is
interrupted in between. -/
def missingProgramChild : List (Event Answer) :=
  childStart ++ ⟨.close .read, ()⟩ ::
    [⟨.traceme, .ok ()⟩, ⟨.raise .SIGSTOP, .ok ()⟩,
      ⟨.execvp missingProgram [missingProgram], .ENOENT⟩, ⟨.write [2, 0, 0, 0], .ok 3⟩,
      ⟨.write [0], .error .EINTR⟩, ⟨.write [0], .ok 1⟩, ⟨.close .write, ()⟩]

/-- The parent reads it in two other pieces. -/
def missingProgramParent : List (Event Answer) :=
  parentStart 7 ++
    [⟨.close .write, ()⟩, ⟨.waitpid 7, .ok (.stopped 7 .SIGSTOP)⟩,
      ⟨.setoptions 7 PTRACE_OPTIONS, .ok ()⟩, ⟨.cont 7 none, .ok ()⟩,
      ⟨.waitpid 7, .ok (.exited 7 127)⟩, ⟨.read 4, .ok [2]⟩, ⟨.read 3, .ok [0, 0, 0]⟩,
      ⟨.close .read, ()⟩]

theorem missingProgram_run :
    ∃ moves system, System.Run Errno.mk ["x"] 7 moves system ∧
      system.parent = missingProgramParent ∧ system.child = missingProgramChild := by
  have run := (System.Run.start : System.Run Errno.mk ["x"] 7 _ _)
    |>.byChild ⟨.close .read, ()⟩ rfl rfl rfl
    |>.byChild ⟨.traceme, .ok ()⟩ rfl rfl rfl
    |>.byChild ⟨.raise .SIGSTOP, .ok ()⟩ rfl rfl rfl
    |>.byParent ⟨.close .write, ()⟩ rfl rfl
    |>.byParent ⟨.waitpid 7, .ok (.stopped 7 .SIGSTOP)⟩ rfl rfl
    |>.byParent ⟨.setoptions 7 PTRACE_OPTIONS, .ok ()⟩ rfl rfl
    |>.byParent ⟨.cont 7 none, .ok ()⟩ rfl rfl
    |>.byChild ⟨.execvp missingProgram [missingProgram], .ENOENT⟩ rfl rfl rfl
    |>.byChild ⟨.write [2, 0, 0, 0], .ok 3⟩ rfl rfl rfl
    |>.byChild ⟨.write [0], .error .EINTR⟩ rfl rfl rfl
    |>.byChild ⟨.write [0], .ok 1⟩ rfl rfl rfl
    |>.byChild ⟨.close .write, ()⟩ rfl rfl rfl
    |>.snoc (.exits rfl rfl)
    |>.byParent ⟨.waitpid 7, .ok (.exited 7 127)⟩ rfl rfl
    |>.byParent ⟨.read 4, .ok [2]⟩ rfl rfl
    |>.byParent ⟨.read 3, .ok [0, 0, 0]⟩ rfl rfl
    |>.byParent ⟨.close .read, ()⟩ rfl rfl
  exact ⟨_, _, run, rfl, rfl⟩

theorem spawn_reports_exec_missingProgram :
    ∃ moves system, System.Run Errno.mk ["x"] 7 moves system ∧
      spawn Errno.mk ["x"] system.parent = .returned (.error (.exec .ENOENT)) [] := by
  obtain ⟨moves, system, run, parent, child⟩ := missingProgram_run
  have valid : ["x"].mapM cString = .ok [missingProgram] := rfl
  obtain ⟨result, returned⟩ : ∃ result,
      spawn Errno.mk ["x"] missingProgramParent = .returned result [] := ⟨_, rfl⟩
  have reported : Reported [missingProgram] missingProgramChild .ENOENT :=
    ⟨_, _, _, rfl, rfl, rfl⟩
  rw [← parent] at returned
  rw [← child] at reported
  obtain ⟨outcome, _⟩ := spawn_reports_exec valid run
  obtain ⟨_, exec, _⟩ := outcome result [] returned
  rw [exec .ENOENT rfl reported] at returned
  exact ⟨moves, system, run, returned⟩

/-- The exec goes through, and the child is killed in the stop behind it before the parent
waits. -/
theorem killedInExecStop_run :
    ∃ moves system, System.Run Errno.mk ["x"] 7 moves system ∧
      system.kernel.execed = true ∧
      spawn Errno.mk ["x"] system.parent = .returned (.error .traceeGone) [] := by
  have run := (System.Run.start : System.Run Errno.mk ["x"] 7 _ _)
    |>.byParent ⟨.close .write, ()⟩ rfl rfl
    |>.byChild ⟨.close .read, ()⟩ rfl rfl rfl
    |>.byChild ⟨.traceme, .ok ()⟩ rfl rfl rfl
    |>.byChild ⟨.raise .SIGSTOP, .ok ()⟩ rfl rfl rfl
    |>.byParent ⟨.waitpid 7, .ok (.stopped 7 .SIGSTOP)⟩ rfl rfl
    |>.byParent ⟨.setoptions 7 PTRACE_OPTIONS, .ok ()⟩ rfl rfl
    |>.byParent ⟨.cont 7 none, .ok ()⟩ rfl rfl
    |>.snoc (.execs rfl rfl)
    |>.snoc (@System.Step.killedUnreported _ _ _ _ .SIGKILL false rfl nofun)
    |>.byParent ⟨.waitpid 7, .ok (.signaled 7 .SIGKILL false)⟩ rfl rfl
    |>.byParent ⟨.read 4, .ok []⟩ rfl rfl
    |>.byParent ⟨.close .read, ()⟩ rfl rfl
  exact ⟨_, _, run, rfl, rfl⟩

end Report

end Loi.Core.Spawn
