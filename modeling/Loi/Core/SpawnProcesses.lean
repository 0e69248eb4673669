import Loi.Core.Spawn

set_option autoImplicit false

/-! The two processes behind the fork of `spawn`, by the places that they can be at, and
the transfers of their loops. -/

namespace Loi.Core.Spawn

open Foundation Nix Program

section Transfers

def writtenBy : Event Answer → List UInt8
  | ⟨.write buf, .ok n⟩ => buf.take n
  | _ => []

def receivedBy : Event Answer → List UInt8
  | ⟨.read _, .ok bytes⟩ => bytes
  | _ => []

/-- The bytes that the writes among the events put into the pipe. -/
def written (events : List (Event Answer)) : List UInt8 :=
  events.flatMap writtenBy

/-- The bytes that the reads among the events took out of the pipe. -/
def received (events : List (Event Answer)) : List UInt8 :=
  events.flatMap receivedBy

/-- The transfer was interrupted by a signal and is tried again. -/
def interrupted : Event Answer → Bool
  | ⟨.write _, .error errno⟩ => errno = .EINTR
  | ⟨.read _, .error errno⟩ => errno = .EINTR
  | _ => false

@[simp] theorem writtenBy_ok (buf : List UInt8) (n : Nat) :
    writtenBy ⟨.write buf, .ok n⟩ = buf.take n := rfl

@[simp] theorem writtenBy_error (buf : List UInt8) (errno : Errno) :
    writtenBy ⟨.write buf, .error errno⟩ = [] := rfl

@[simp] theorem receivedBy_ok (size : Nat) (bytes : List UInt8) :
    receivedBy ⟨.read size, .ok bytes⟩ = bytes := rfl

@[simp] theorem receivedBy_error (size : Nat) (errno : Errno) :
    receivedBy ⟨.read size, .error errno⟩ = [] := rfl

@[simp] theorem interrupted_write_ok (buf : List UInt8) (n : Nat) :
    interrupted ⟨.write buf, .ok n⟩ = false := rfl

@[simp] theorem interrupted_write_error (buf : List UInt8) (errno : Errno) :
    interrupted ⟨.write buf, .error errno⟩ = decide (errno = .EINTR) := rfl

@[simp] theorem interrupted_read_ok (size : Nat) (bytes : List UInt8) :
    interrupted ⟨.read size, .ok bytes⟩ = false := rfl

@[simp] theorem interrupted_read_error (size : Nat) (errno : Errno) :
    interrupted ⟨.read size, .error errno⟩ = decide (errno = .EINTR) := rfl

@[simp] theorem written_nil : written [] = [] := rfl

@[simp] theorem written_append (events more : List (Event Answer)) :
    written (events ++ more) = written events ++ written more :=
  List.flatMap_append

@[simp] theorem written_cons (event : Event Answer) (more : List (Event Answer)) :
    written (event :: more) = writtenBy event ++ written more :=
  List.flatMap_cons

@[simp] theorem received_nil : received [] = [] := rfl

@[simp] theorem received_append (events more : List (Event Answer)) :
    received (events ++ more) = received events ++ received more :=
  List.flatMap_append

@[simp] theorem received_cons (event : Event Answer) (more : List (Event Answer)) :
    received (event :: more) = receivedBy event ++ received more :=
  List.flatMap_cons

end Transfers

section Loops

@[simp] theorem writeAll_empty (events : List (Event Answer)) :
    writeAll [] events = .returned (.ok ()) events := by
  cases events <;> rfl

theorem writeAll_nil {buf : List UInt8} (nonempty : buf ≠ []) :
    writeAll buf [] = .asks (.write buf) := by
  cases buf with
  | nil => exact absurd rfl nonempty
  | cons byte bytes => rfl

theorem writeAll_ok {buf : List UInt8} (nonempty : buf ≠ []) (n : Nat)
    (more : List (Event Answer)) :
    writeAll buf (⟨.write buf, .ok n⟩ :: more) =
      if n = 0 then .returned (.error Errno.EIO) more else writeAll (buf.drop n) more := by
  cases buf with
  | nil => exact absurd rfl nonempty
  | cons byte bytes => simp [writeAll]

theorem writeAll_error {buf : List UInt8} (nonempty : buf ≠ []) (errno : Errno)
    (more : List (Event Answer)) :
    writeAll buf (⟨.write buf, .error errno⟩ :: more) =
      if errno = .EINTR then writeAll buf more else .returned (.error errno) more := by
  cases buf with
  | nil => exact absurd rfl nonempty
  | cons byte bytes => simp [writeAll]

variable {capacity : Nat} {filled : List UInt8}

theorem readFull_full (full : capacity ≤ filled.length) (events : List (Event Answer)) :
    readFull capacity filled events = .returned (.ok filled) events := by
  cases events <;> simp [readFull, full]

theorem readFull_nil (room : filled.length < capacity) :
    readFull capacity filled [] = .asks (.read (capacity - filled.length)) := by
  simp [readFull, room]

theorem readFull_other (room : filled.length < capacity) {event : Event Answer}
    (other : event.call ≠ .read (capacity - filled.length)) (more : List (Event Answer)) :
    readFull capacity filled (event :: more) = .asks (.read (capacity - filled.length)) := by
  simp [readFull, room, Event.answerTo, other]

theorem readFull_end (room : filled.length < capacity) (more : List (Event Answer)) :
    readFull capacity filled (⟨.read (capacity - filled.length), .ok []⟩ :: more) =
      .returned (.ok filled) more := by
  simp [readFull, room]

theorem readFull_ok (room : filled.length < capacity) {bytes : List UInt8} (some : bytes ≠ [])
    (more : List (Event Answer)) :
    readFull capacity filled (⟨.read (capacity - filled.length), .ok bytes⟩ :: more) =
      readFull capacity (filled ++ bytes) more := by
  cases bytes with
  | nil => exact absurd rfl some
  | cons byte bytes => simp [readFull, room]

theorem readFull_error (room : filled.length < capacity) (errno : Errno)
    (more : List (Event Answer)) :
    readFull capacity filled (⟨.read (capacity - filled.length), .error errno⟩ :: more) =
      if errno = .EINTR then readFull capacity filled more else .returned (.error errno) more := by
  simp [readFull, room]

end Loops

section Writes

/-- What a history of `write_all` has sent is the front of the buffer, once and in order.
With `left` still to send it goes on, and each answer but an interruption has made that
less. -/
inductive WriteAt (buf : List UInt8) (events : List (Event Answer)) : Prop where
  | going {left : List UInt8} : left ≠ [] → written events ++ left = buf →
      events.length + left.length ≤ buf.length + events.countP interrupted →
      Leaves (writeAll buf) events (writeAll left) → WriteAt buf events
  | ended (result : Except Errno Unit) : written events <+: buf →
      (result = .ok () ↔ written events = buf) →
      events.length ≤ buf.length + events.countP interrupted →
      Leaves (writeAll buf) events (pure result) → WriteAt buf events

theorem WriteAt.start (buf : List UInt8) : WriteAt buf [] := by
  cases buf with
  | nil => exact .ended (.ok ()) List.nil_prefix (by simp) (by simp) writeAll_empty
  | cons byte bytes => exact .going (List.cons_ne_nil byte bytes) rfl (by simp) (.refl _)

theorem WriteAt.step {buf left : List UInt8} {events : List (Event Answer)}
    (nonempty : left ≠ []) (sent : written events ++ left = buf)
    (bound : events.length + left.length ≤ buf.length + events.countP interrupted)
    (leaves : Leaves (writeAll buf) events (writeAll left)) (answer : Except Errno Nat) :
    WriteAt buf (events ++ [⟨.write left, answer⟩]) := by
  have more : 0 < left.length := List.length_pos_iff.mpr nonempty
  have unfinished : written events ≠ buf := by
    intro finished
    rw [finished] at sent
    exact nonempty (List.append_right_eq_self.mp sent)
  cases answer with
  | error errno =>
      have kept : written (events ++ [⟨.write left, .error errno⟩]) = written events := by
        simp
      by_cases interrupts : errno = .EINTR
      · refine .going nonempty (by rw [kept, sent]) ?_ (leaves.snoc fun more => ?_)
        · simp [interrupts]
          omega
        · rw [writeAll_error nonempty, if_pos interrupts]
      · refine .ended (.error errno) (by rw [kept]; exact ⟨left, sent⟩)
          (by simp [kept, unfinished]) ?_ (leaves.snoc fun more => ?_)
        · simp [interrupts]
          omega
        · rw [writeAll_error nonempty, if_neg interrupts]
          rfl
  | ok n =>
      have grown : written (events ++ [⟨.write left, .ok n⟩]) = written events ++ left.take n := by
        simp
      have quiet : (events ++ [⟨.write left, .ok n⟩] : List (Event Answer)).countP interrupted =
          events.countP interrupted := by
        simp
      by_cases none : n = 0
      · refine .ended (.error Errno.EIO) (by simp [none, ← sent]) (by simp [none, unfinished])
          ?_ (leaves.snoc fun more => ?_)
        · rw [quiet, List.length_append, List.length_singleton]
          omega
        · rw [writeAll_ok nonempty, if_pos none]
          rfl
      · have goesOn : ∀ more, writeAll left (⟨.write left, .ok n⟩ :: more) =
            writeAll (left.drop n) more := by
          intro more
          rw [writeAll_ok nonempty, if_neg none]
        by_cases last : left.drop n = []
        · have whole : left.take n = left := by
            rw [List.drop_eq_nil_iff] at last
            exact List.take_of_length_le last
          refine .ended (.ok ()) (by rw [grown, whole, sent]) (by simp [grown, whole, sent])
            ?_ (leaves.snoc fun more => ?_)
          · rw [quiet, List.length_append, List.length_singleton]
            omega
          · rw [goesOn, last, writeAll_empty]
            rfl
        · refine .going last ?_ ?_ (leaves.snoc goesOn)
          · rw [grown, List.append_assoc, List.take_append_drop, sent]
          · rw [quiet, List.length_append, List.length_singleton, List.length_drop]
            omega

theorem writeAt_of_history {buf : List UInt8} {events : List (Event Answer)}
    (history : History (writeAll buf) events) : WriteAt buf events := by
  induction history with
  | nil => exact .start buf
  | @snoc events event history asks ih =>
      obtain ⟨call, answer⟩ := event
      cases ih with
      | @going left nonempty sent bound leaves =>
          rw [leaves.now, writeAll_nil nonempty] at asks
          cases asks
          exact WriteAt.step nonempty sent bound leaves answer
      | ended _ _ _ _ leaves =>
          rw [leaves.now] at asks
          cases asks

/-- A `write_all` that returns without an error has sent its buffer. -/
theorem written_of_writeAll {buf : List UInt8} {events unread : List (Event Answer)}
    (returned : writeAll buf events = .returned (.ok ()) unread) :
    ∃ consumed, events = consumed ++ unread ∧ written consumed = buf := by
  induction events generalizing buf with
  | nil =>
      cases buf with
      | nil =>
          cases returned
          exact ⟨[], rfl, rfl⟩
      | cons byte bytes => cases returned
  | cons event more ih =>
      cases buf with
      | nil =>
          cases returned
          exact ⟨[], rfl, rfl⟩
      | cons byte bytes =>
          have nonempty := List.cons_ne_nil byte bytes
          cases answer : event.answerTo (.write (byte :: bytes)) with
          | none => simp [writeAll, answer] at returned
          | some given =>
              rw [Event.answerTo_eq_some] at answer
              subst answer
              cases given with
              | error errno =>
                  rw [writeAll_error nonempty] at returned
                  split at returned
                  · obtain ⟨consumed, rfl, sent⟩ := ih returned
                    exact ⟨_ :: consumed, rfl, by simp [sent]⟩
                  · cases returned
              | ok n =>
                  rw [writeAll_ok nonempty] at returned
                  split at returned
                  · cases returned
                  · obtain ⟨consumed, rfl, sent⟩ := ih returned
                    refine ⟨_ :: consumed, rfl, ?_⟩
                    rw [written_cons, writtenBy_ok, sent, List.take_append_drop]

end Writes

section Reads

/-- What a history of `read_full` has received fills its buffer, once and in order. It
goes on while there is room, and each answer but an interruption has made that less. -/
inductive ReadAt (capacity : Nat) (events : List (Event Answer)) : Prop where
  | going : (received events).length < capacity →
      events.length ≤ (received events).length + events.countP interrupted →
      Leaves (readFull capacity []) events (readFull capacity (received events)) →
      ReadAt capacity events
  | ended (result : Except Errno (List UInt8)) :
      (∀ filled, result = .ok filled → filled = received events ∧
        (filled.length < capacity → ∃ size, ⟨.read size, .ok []⟩ ∈ events)) →
      events.length ≤ capacity + events.countP interrupted →
      Leaves (readFull capacity []) events (pure result) → ReadAt capacity events

theorem ReadAt.start (capacity : Nat) : ReadAt capacity [] := by
  cases capacity with
  | zero => exact .ended (.ok []) (by simp) (by simp) (readFull_full (by simp))
  | succ capacity => exact .going (by simp) (by simp) (.refl _)

theorem ReadAt.step {capacity : Nat} {events : List (Event Answer)}
    (room : (received events).length < capacity)
    (bound : events.length ≤ (received events).length + events.countP interrupted)
    (leaves : Leaves (readFull capacity []) events (readFull capacity (received events)))
    (answer : Except Errno (List UInt8)) :
    ReadAt capacity
      (events ++ [⟨.read (capacity - (received events).length), answer⟩]) := by
  cases answer with
  | error errno =>
      by_cases interrupts : errno = .EINTR
      · refine .going (by simpa using room) ?_ (leaves.snoc fun more => ?_)
        · simp [interrupts]
          omega
        · rw [readFull_error room, if_pos interrupts]
          simp
      · refine .ended (.error errno) (by simp) ?_ (leaves.snoc fun more => ?_)
        · simp [interrupts]
          omega
        · rw [readFull_error room, if_neg interrupts]
          rfl
  | ok bytes =>
      have grown : received (events ++ [⟨.read (capacity - (received events).length), .ok bytes⟩]) =
          received events ++ bytes := by
        simp
      have quiet : (events ++ [⟨.read (capacity - (received events).length), .ok bytes⟩] :
          List (Event Answer)).countP interrupted = events.countP interrupted := by
        simp
      by_cases none : bytes = []
      · subst none
        refine .ended (.ok (received events)) ?_ ?_
          (leaves.snoc fun more => readFull_end room more)
        · intro filled same
          cases same
          exact ⟨by simp, fun _ => ⟨_, List.mem_append_right _ (List.mem_singleton.mpr rfl)⟩⟩
        · rw [quiet, List.length_append, List.length_singleton]
          omega
      · have some : 0 < bytes.length := List.length_pos_iff.mpr none
        have fills : ∀ more, readFull capacity (received events)
            (⟨.read (capacity - (received events).length), .ok bytes⟩ :: more) =
              readFull capacity (received events ++ bytes) more :=
          fun more => readFull_ok room none more
        by_cases full : capacity ≤ (received events ++ bytes).length
        · refine .ended (.ok (received events ++ bytes)) ?_ ?_
            (leaves.snoc fun more => ?_)
          · intro filled same
            cases same
            exact ⟨by simp, fun less => absurd full (Nat.not_le.mpr less)⟩
          · rw [quiet, List.length_append, List.length_singleton]
            omega
          · rw [fills, readFull_full full]
            rfl
        · refine .going (by rw [grown]; omega) ?_ (leaves.snoc fun more => ?_)
          · rw [grown, quiet, List.length_append, List.length_append, List.length_singleton]
            omega
          · rw [fills, grown]

theorem readAt_of_history {capacity : Nat} {events : List (Event Answer)}
    (history : History (readFull capacity []) events) : ReadAt capacity events := by
  induction history with
  | nil => exact .start capacity
  | @snoc events event history asks ih =>
      obtain ⟨call, answer⟩ := event
      cases ih with
      | going room bound leaves =>
          rw [leaves.now, readFull_nil room] at asks
          cases asks
          exact ReadAt.step room bound leaves answer
      | ended _ _ _ leaves =>
          rw [leaves.now] at asks
          cases asks

end Reads

section Child

/-- The places of the child, by the call that it makes next. -/
inductive ChildAt where
  | dropsReadEnd
  | traces
  | raises
  | execs
  | writes (byte : UInt8) (left : List UInt8)
  | dropsWriteEnd
  | exits

/-- `write_all` with these bytes left, or what follows it. -/
def ChildAt.writing : List UInt8 → ChildAt
  | [] => .dropsWriteEnd
  | byte :: left => .writes byte left

def ChildAt.next : ChildAt → Event Answer → ChildAt
  | .dropsReadEnd, _ => .traces
  | .traces, ⟨.traceme, .ok ()⟩ => .raises
  | .traces, ⟨.traceme, .error errno⟩ => writing (toNeBytes errno.raw)
  | .raises, ⟨.raise _, .ok ()⟩ => .execs
  | .raises, ⟨.raise _, .error errno⟩ => writing (toNeBytes errno.raw)
  | .execs, ⟨.execvp _ _, errno⟩ => writing (toNeBytes errno.raw)
  | .writes byte left, ⟨.write _, .ok n⟩ =>
      if n = 0 then .dropsWriteEnd else writing ((byte :: left).drop n)
  | .writes byte left, ⟨.write _, .error errno⟩ =>
      if errno = .EINTR then .writes byte left else .dropsWriteEnd
  | .dropsWriteEnd, _ => .exits
  | place, _ => place

variable {Value : Type} (file : CString) (args : List CString)

def ChildAt.call : ChildAt → Call
  | .dropsReadEnd => .close .read
  | .traces => .traceme
  | .raises => .raise .SIGSTOP
  | .execs => .execvp file (file :: args)
  | .writes byte left => .write (byte :: left)
  | .dropsWriteEnd => .close .write
  | .exits => .exit EXEC_FAILURE_EXIT

/-- What is left of the child at its places. -/
def ChildAt.program : ChildAt → Process Value
  | .dropsReadEnd => do
      close .read
      runChild (file :: args)
  | .traces => runChild (file :: args)
  | .raises => do
      reportErrno (← ExceptT.run do ExceptT.mk (raise .SIGSTOP); execChild (file :: args))
  | .execs => do reportErrno (← (execChild (file :: args)).run)
  | .writes byte left => do
      let _ ← writeAll (byte :: left)
      close .write
      exitChild
  | .dropsWriteEnd => do
      close .write
      exitChild
  | .exits => exitChild

theorem ChildAt.program_writing (left : List UInt8) (more : List (Event Answer)) :
    ((writing left).program file args : Process Value) more =
      (do let _ ← writeAll left; close .write; exitChild : Process Value) more := by
  cases left with
  | nil => simp [writing, program, bind_apply]
  | cons byte left => rfl

theorem tryChild_readsFront (argv : List CString) : ReadsFront (tryChild argv).run := by
  have execs : ReadsFront (execChild argv).run := by
    unfold execChild
    split
    · exact ReadsFront.pure _
    · exact .run_bind ((ReadsFront.perform _).bind fun _ => .pure _) fun _ => .pure _
  exact .run_bind (.perform Call.traceme) fun _ => .run_bind (.perform (Call.raise _)) fun _ => execs

theorem reportErrno_error (errno : Errno) (more : List (Event Answer)) :
    (reportErrno (.error errno) : Process Value) more =
      (ChildAt.writing (toNeBytes errno.raw)).program file args more := by
  rw [ChildAt.program_writing]
  rfl

theorem ChildAt.program_nil (place : ChildAt) :
    (place.program file args : Process Value) [] = .asks (place.call file args) := by
  cases place with
  | writes byte left => exact bind_asks (writeAll_nil (List.cons_ne_nil byte left)) _
  | _ =>
      simp [program, call, runChild, tryChild, execChild, exitChild, ExceptT.run_bind,
        map_apply, bind_apply]

theorem ChildAt.program_cons (place : ChildAt) (answer : Answer (place.call file args))
    (more : List (Event Answer)) :
    (place.program file args : Process Value) (⟨place.call file args, answer⟩ :: more) =
      (place.next ⟨place.call file args, answer⟩).program file args more := by
  cases place with
  | dropsReadEnd =>
      cases answer
      simp [program, call, next, bind_apply]
  | traces =>
      cases answer with
      | ok =>
          simp [program, call, next, runChild, tryChild, ExceptT.run_bind, bind_apply]
      | error errno =>
          change _ = (writing (toNeBytes errno.raw)).program file args more
          rw [← reportErrno_error]
          simp [program, call, runChild, tryChild, ExceptT.run_bind, bind_apply]
  | raises =>
      cases answer with
      | ok => simp [program, call, next, ExceptT.run_bind, bind_apply]
      | error errno =>
          change _ = (writing (toNeBytes errno.raw)).program file args more
          rw [← reportErrno_error]
          simp [program, call, ExceptT.run_bind, bind_apply]
  | execs =>
      change Errno at answer
      change _ = (writing (toNeBytes answer.raw)).program file args more
      rw [← reportErrno_error]
      simp [program, call, execChild, ExceptT.run_bind, map_apply, bind_apply]
  | writes byte left =>
      have nonempty := List.cons_ne_nil byte left
      cases answer with
      | ok n =>
          by_cases none : n = 0
          · simp [program, call, next, bind_apply, writeAll_ok nonempty, none]
          · have goesOn : (writes byte left).next ⟨.write (byte :: left), .ok n⟩ =
                writing ((byte :: left).drop n) := if_neg none
            change _ = ((writes byte left).next ⟨.write (byte :: left), .ok n⟩).program file args more
            rw [goesOn, program_writing]
            simp only [program, call, bind_apply, writeAll_ok nonempty, if_neg none]
      | error errno =>
          by_cases interrupts : errno = .EINTR
          · simp [program, call, next, bind_apply, writeAll_error nonempty, interrupts]
          · simp [program, call, next, bind_apply, writeAll_error nonempty, interrupts]
  | dropsWriteEnd =>
      cases answer
      simp [program, call, next, bind_apply]
  | exits => exact answer.elim

end Child

section Parent

/-- The places of the parent, by the call that it makes next. -/
inductive ParentAt where
  | dropsWriteEnd
  | waitsStop
  | setsOptions
  | continues
  | waitsExec
  | reads (filled : List UInt8) (room : filled.length < 4)
  | dropsReadEnd (result : Except SpawnError Tracer)
  | returned (result : Except SpawnError Tracer)

variable (fromRaw : Int32 → Errno)

namespace ParentAt

/-- `read_exec_errno` with these bytes read, or what follows it. -/
def reading (filled : List UInt8) : ParentAt :=
  if room : filled.length < 4 then .reads filled room
  else .dropsReadEnd (.error (execErrno fromRaw filled))

/-- Behind the first wait. -/
def sawFirst : Except Errno WaitStatus → ParentAt
  | .ok (.stopped _ .SIGSTOP) => .setsOptions
  | .ok (.exited _ _) | .ok (.signaled _ _ _) => .reads [] (by decide)
  | .ok _ => .dropsReadEnd (.error .traceeGone)
  | .error errno => .dropsReadEnd (.error (.ptrace errno))

/-- Behind the second wait. -/
def sawSecond (child : Pid) : Except Errno WaitStatus → ParentAt
  | .ok (.ptraceEvent _ _ _) | .ok (.stopped _ .SIGTRAP) =>
      .dropsReadEnd (.ok (Tracer.postSpawn child false))
  | .ok (.exited _ _) | .ok (.signaled _ _ _) => .reads [] (by decide)
  | .ok _ => .dropsReadEnd (.error .traceeGone)
  | .error errno => .dropsReadEnd (.error (.ptrace errno))

/-- Behind a read. -/
def sawRead (filled : List UInt8) (room : filled.length < 4) :
    Except Errno (List UInt8) → ParentAt
  | .ok bytes =>
      if bytes = [] then .dropsReadEnd (.error (execErrno fromRaw filled))
      else reading fromRaw (filled ++ bytes)
  | .error errno =>
      if errno = .EINTR then .reads filled room
      else .dropsReadEnd (.error (execErrno fromRaw []))

variable (child : Pid)

def next : ParentAt → Event Answer → ParentAt
  | .dropsWriteEnd, _ => .waitsStop
  | .waitsStop, ⟨.waitpid _, answer⟩ => sawFirst answer
  | .setsOptions, ⟨.setoptions _ _, .ok ()⟩ => .continues
  | .setsOptions, ⟨.setoptions _ _, .error errno⟩ => .dropsReadEnd (.error (.ptrace errno))
  | .continues, ⟨.cont _ _, .ok ()⟩ => .waitsExec
  | .continues, ⟨.cont _ _, .error errno⟩ => .dropsReadEnd (.error (.ptrace errno))
  | .waitsExec, ⟨.waitpid _, answer⟩ => sawSecond child answer
  | .reads filled room, ⟨.read _, answer⟩ => sawRead fromRaw filled room answer
  | .dropsReadEnd result, _ => .returned result
  | place, _ => place

def call : ParentAt → Option Call
  | .dropsWriteEnd => some (.close .write)
  | .waitsStop | .waitsExec => some (.waitpid child)
  | .setsOptions => some (.setoptions child PTRACE_OPTIONS)
  | .continues => some (.cont child none)
  | .reads filled _ => some (.read (4 - filled.length))
  | .dropsReadEnd _ => some (.close .read)
  | .returned _ => none

/-- What is left of the parent at its places. -/
def program : ParentAt → Process (Except SpawnError Tracer)
  | .dropsWriteEnd => do
      close .write
      finishParent fromRaw child
  | .waitsStop => finishParent fromRaw child
  | .setsOptions => droppingReadEnd do
      orPtrace (setoptions child PTRACE_OPTIONS)
      orPtrace (cont child none)
      awaitExec fromRaw child
      return Tracer.postSpawn child false
  | .continues => droppingReadEnd do
      orPtrace (cont child none)
      awaitExec fromRaw child
      return Tracer.postSpawn child false
  | .waitsExec => droppingReadEnd do
      awaitExec fromRaw child
      return Tracer.postSpawn child false
  | .reads filled _ => do
      let result ← readFull 4 filled
      close .read
      return .error (execErrno fromRaw (result.toOption.getD []))
  | .dropsReadEnd result => do
      close .read
      return result
  | .returned result => return result

theorem program_nil {place : ParentAt} {call : Call} (next : place.call child = some call) :
    place.program fromRaw child [] = .asks call := by
  cases place with
  | reads filled room =>
      cases next
      exact bind_asks (readFull_nil room) _
  | returned => cases next
  | _ =>
      cases next
      simp [program, finishParent, droppingReadEnd, awaitStop, awaitExec, orPtrace,
        ExceptT.run_bind, bind_apply]

end ParentAt

section Pieces

variable (child : Pid) {events unread : List (Event Answer)}

theorem droppingReadEnd_returned {process : ExceptT SpawnError Process Tracer}
    {result : Except SpawnError Tracer} (returned : process.run events = .returned result unread) :
    droppingReadEnd process events =
      (ParentAt.dropsReadEnd result).program fromRaw child unread :=
  bind_returned returned _

section Calls

variable {Value : Type} {call : Process (Except Errno Value)}
  {after : Value → ExceptT SpawnError Process Tracer}

theorem droppingReadEnd_ok {value : Value}
    (returned : call events = .returned (.ok value) unread) :
    droppingReadEnd (orPtrace call >>= after) events = droppingReadEnd (after value) unread := by
  have granted : (orPtrace call).run events = .returned (.ok value) unread :=
    bind_returned returned _
  unfold droppingReadEnd
  rw [bind_apply, run_bind_ok granted, bind_apply]

theorem droppingReadEnd_error {errno : Errno}
    (returned : call events = .returned (.error errno) unread) :
    droppingReadEnd (orPtrace call >>= after) events =
      (ParentAt.dropsReadEnd (.error (.ptrace errno))).program fromRaw child unread := by
  have refused : (orPtrace call).run events = .returned (.error (.ptrace errno)) unread :=
    bind_returned returned _
  exact droppingReadEnd_returned fromRaw child (run_bind_error refused after)

end Calls

/-- A wait that finds the child dead ends in the read. -/
theorem droppingReadEnd_reads (next : Unit → ExceptT SpawnError Process Tracer)
    (more : List (Event Answer)) :
    droppingReadEnd ((do throw (← ExceptT.lift (readExecErrno fromRaw))) >>= next) more =
      (ParentAt.reads [] (by decide)).program fromRaw child more := by
  rw [ParentAt.program, bind_apply]
  cases read : readFull 4 [] more with
  | asks call =>
      have waits : readExecErrno fromRaw more = .asks call := bind_asks read _
      exact bind_asks (run_bind_asks (run_bind_asks (bind_asks waits _) _) _) _
  | returned result unread =>
      have reads : readExecErrno fromRaw more =
          .returned (execErrno fromRaw (result.toOption.getD [])) unread :=
        bind_returned read _
      exact droppingReadEnd_returned fromRaw child
        (run_bind_error (run_bind_ok (run_lift reads) _) next)

end Pieces

namespace ParentAt

variable (child : Pid) (more : List (Event Answer))

theorem program_sawFirst (answer : Except Errno WaitStatus) :
    program fromRaw child .waitsStop (⟨.waitpid child, answer⟩ :: more) =
      (sawFirst answer).program fromRaw child more := by
  rw [program, finishParent, awaitStop, bind_assoc]
  cases answer with
  | error errno => exact droppingReadEnd_error fromRaw child (perform_cons _ _ more)
  | ok status =>
      rw [droppingReadEnd_ok (perform_cons _ _ more)]
      split
      · rfl
      · exact droppingReadEnd_reads fromRaw child _ more
      · exact droppingReadEnd_reads fromRaw child _ more
      · rename_i notStop notExited notSignaled
        have gone : sawFirst (.ok status) = .dropsReadEnd (.error .traceeGone) := by
          unfold sawFirst
          split <;> simp_all
        rw [gone]
        exact droppingReadEnd_returned fromRaw child rfl

theorem program_sawSecond (answer : Except Errno WaitStatus) :
    program fromRaw child .waitsExec (⟨.waitpid child, answer⟩ :: more) =
      (sawSecond child answer).program fromRaw child more := by
  rw [program, awaitExec, bind_assoc]
  cases answer with
  | error errno => exact droppingReadEnd_error fromRaw child (perform_cons _ _ more)
  | ok status =>
      rw [droppingReadEnd_ok (perform_cons _ _ more)]
      split
      · exact droppingReadEnd_returned fromRaw child rfl
      · exact droppingReadEnd_returned fromRaw child rfl
      · exact droppingReadEnd_reads fromRaw child _ more
      · exact droppingReadEnd_reads fromRaw child _ more
      · rename_i notEvent notTrap notExited notSignaled
        have gone : sawSecond child (.ok status) = .dropsReadEnd (.error .traceeGone) := by
          unfold sawSecond
          split <;> simp_all
        rw [gone]
        exact droppingReadEnd_returned fromRaw child rfl

theorem program_reading (filled : List UInt8) :
    (reading fromRaw filled).program fromRaw child more =
      (do
        let result ← readFull 4 filled
        close .read
        return .error (execErrno fromRaw (result.toOption.getD [])) :
          Process (Except SpawnError Tracer)) more := by
  unfold reading
  split
  case isTrue room => rfl
  case isFalse full =>
    rw [bind_returned (readFull_full (Nat.not_lt.mp full) more)]
    rfl

theorem program_sawRead {filled : List UInt8} (room : filled.length < 4)
    (answer : Except Errno (List UInt8)) :
    program fromRaw child (.reads filled room) (⟨.read (4 - filled.length), answer⟩ :: more) =
      (sawRead fromRaw filled room answer).program fromRaw child more := by
  cases answer with
  | error errno =>
      have read := readFull_error room errno more
      rw [sawRead]
      by_cases interrupts : errno = .EINTR
      · rw [if_pos interrupts] at read ⊢
        rw [program, bind_apply, read, bind_apply]
      · rw [if_neg interrupts] at read ⊢
        exact bind_returned read _
  | ok bytes =>
      rw [sawRead]
      by_cases none : bytes = []
      · subst none
        exact bind_returned (readFull_end room more) _
      · rw [if_neg none, program_reading, program, bind_apply, readFull_ok room none, bind_apply]

theorem program_cons (place : ParentAt) {call : Call} (asks : place.call child = some call)
    (answer : Answer call) :
    place.program fromRaw child (⟨call, answer⟩ :: more) =
      (place.next fromRaw child ⟨call, answer⟩).program fromRaw child more := by
  cases place with
  | dropsWriteEnd =>
      cases asks
      cases answer
      exact bind_returned (perform_cons _ _ more) _
  | waitsStop =>
      cases asks
      exact program_sawFirst fromRaw child more answer
  | setsOptions =>
      cases asks
      cases answer with
      | ok => exact droppingReadEnd_ok (perform_cons _ _ more)
      | error errno => exact droppingReadEnd_error fromRaw child (perform_cons _ _ more)
  | continues =>
      cases asks
      cases answer with
      | ok => exact droppingReadEnd_ok (perform_cons _ _ more)
      | error errno => exact droppingReadEnd_error fromRaw child (perform_cons _ _ more)
  | waitsExec =>
      cases asks
      exact program_sawSecond fromRaw child more answer
  | reads filled room =>
      cases asks
      exact program_sawRead fromRaw child more room answer
  | dropsReadEnd result =>
      cases asks
      cases answer
      exact bind_returned (perform_cons _ _ more) _
  | returned result => cases asks

theorem program_other {place : ParentAt} {call : Call} (next : place.call child = some call)
    {event : Event Answer} (other : event.call ≠ call) :
    place.program fromRaw child (event :: more) = .asks call := by
  cases place with
  | reads filled room =>
      cases next
      exact bind_asks (readFull_other room other more) _
  | returned => cases next
  | _ =>
      cases next
      simp [program, finishParent, droppingReadEnd, awaitStop, awaitExec, orPtrace,
        ExceptT.run_bind, bind_apply, perform_other other]

/-- A place that has a call to make returns behind the answer to it. -/
theorem program_asked {place : ParentAt} {events unread : List (Event Answer)}
    {result : Except SpawnError Tracer} {call : Call} (asks : place.call child = some call)
    (ends : place.program fromRaw child events = .returned result unread) :
    ∃ answer more, events = ⟨call, answer⟩ :: more ∧
      (place.next fromRaw child ⟨call, answer⟩).program fromRaw child more =
        .returned result unread := by
  cases events with
  | nil =>
      rw [program_nil fromRaw child asks] at ends
      cases ends
  | cons event more =>
      obtain ⟨found, answer⟩ := event
      by_cases same : found = call
      · subst same
        rw [program_cons fromRaw child more place asks] at ends
        exact ⟨answer, more, rfl, ends⟩
      · rw [program_other fromRaw child more asks same] at ends
        cases ends

/-- The other places are the last ones. -/
theorem program_returned {place : ParentAt} {events unread : List (Event Answer)}
    {result : Except SpawnError Tracer}
    (ends : place.program fromRaw child events = .returned result unread) :
    (place = .returned result ∧ events = unread) ∨
      ∃ call answer more, place.call child = some call ∧ events = ⟨call, answer⟩ :: more ∧
        (place.next fromRaw child ⟨call, answer⟩).program fromRaw child more =
          .returned result unread := by
  cases asks : place.call child with
  | none =>
      cases place with
      | returned other =>
          cases ends
          exact .inl ⟨rfl, rfl⟩
      | _ => cases asks
  | some call =>
      obtain ⟨answer, more, same, later⟩ := program_asked fromRaw child asks ends
      exact .inr ⟨call, answer, more, rfl, same, later⟩

end ParentAt

end Parent

section Starts

variable {fromRaw : Int32 → Errno} {command : List String} {argv : List CString}

/-- The parent behind the fork. -/
def parentStart (child : Pid) : List (Event Answer) :=
  [⟨.pipe2, .ok ()⟩, ⟨.fork, .ok (.parent child)⟩]

/-- The child behind the fork. -/
def childStart : List (Event Answer) :=
  [⟨.pipe2, .ok ()⟩, ⟨.fork, .ok .child⟩]

theorem ne_nil_of_mapM {file : CString} (valid : command.mapM cString = .ok (file :: argv)) :
    command ≠ [] := by
  rintro rfl
  cases valid

variable (nonempty : command ≠ []) (valid : command.mapM cString = .ok argv)

include nonempty valid

theorem spawn_parent (child : Pid) :
    Leaves (spawn fromRaw command) (parentStart child)
      (ParentAt.dropsWriteEnd.program fromRaw child) := by
  intro more
  simp [spawn, nonempty, valid, bind_apply, parentStart, ParentAt.program]

theorem spawn_child {file : CString} {args : List CString} (whole : argv = file :: args) :
    Leaves (spawn fromRaw command) childStart (ChildAt.dropsReadEnd.program file args) := by
  intro more
  simp [spawn, nonempty, valid, whole, bind_apply, childStart, ChildAt.program]

end Starts

end Loi.Core.Spawn
