import Loi.Core.Process

/-! The kernel's side of the syscall protocol. A timeline reads the stops of one
process knowing which of them are entries and which are exits, a fact that the
wait statuses themselves do not carry. -/

set_option autoImplicit false

namespace Loi.Core

open Nix Foundation

/-- Where a process is between two of its stops. `inside` and `execed` carry the
position and the delivery of the entry stop that opened the current syscall. -/
inductive SyscallPosition where
  | leftover
  | outside
  | inside (entryAt : Nat) (entry : Delivery)
  | execed (entryAt : Nat) (entry : Delivery)

def SyscallPosition.isInside : SyscallPosition → Bool
  | .inside _ _ => true
  | _ => false

theorem SyscallPosition.isInside_iff (position : SyscallPosition) :
    position.isInside = true ↔ ∃ entryAt entry, position = .inside entryAt entry := by
  cases position <;> simp [SyscallPosition.isInside]

/-- A syscall whose entry stop and exit stop were both delivered; `execed` says
that a `PTRACE_EVENT_EXEC` lies between them. -/
structure Syscall where
  entryAt : Nat
  exitAt : Nat
  entry : Delivery
  exit : Delivery
  execed : Bool

structure Timeline where
  length : Nat
  position : SyscallPosition
  completed : List Syscall

def Timeline.finishes (timeline : Timeline) (delivery : Delivery) : List Syscall :=
  match delivery.status, timeline.position with
  | .ptraceSyscall _, .inside entryAt entry => [⟨entryAt, timeline.length, entry, delivery, false⟩]
  | .ptraceSyscall _, .execed entryAt entry => [⟨entryAt, timeline.length, entry, delivery, true⟩]
  | _, _ => []

def Timeline.nextPosition (timeline : Timeline) (delivery : Delivery) : SyscallPosition :=
  match delivery.status, timeline.position with
  | .ptraceSyscall _, .outside => .inside timeline.length delivery
  | .ptraceSyscall _, _ => .outside
  | .ptraceEvent _ _ event, .inside entryAt entry =>
      if event = PTRACE_EVENT_EXEC then .execed entryAt entry else .inside entryAt entry
  | .exited _ _, _ | .signaled _ _ _, _ => .outside
  | _, position => position

def Timeline.next (timeline : Timeline) (delivery : Delivery) : Timeline :=
  { length := timeline.length + 1
    position := timeline.nextPosition delivery
    completed := timeline.completed ++ timeline.finishes delivery }

/-- The timeline of the stops of one process. The root starts with the exit stop
of its initial `execve` still to come; any other process starts outside. -/
def timeline (root pid : Pid) (stops : List Delivery) : Timeline :=
  stops.foldl Timeline.next
    { length := 0, position := if pid = root then .leftover else .outside, completed := [] }

theorem timeline_snoc (root pid : Pid) (stops : List Delivery) (delivery : Delivery) :
    timeline root pid (stops ++ [delivery]) = (timeline root pid stops).next delivery := by
  simp [timeline, List.foldl_append]

/-- A kernel-conformant stop: a successful `execve` is reported only between the
entry stop and the exit stop of that `execve`. Signal stops, fork events and
exits are allowed anywhere. -/
def KernelLegal (root pid : Pid) (stops : List Delivery) (delivery : Delivery) : Prop :=
  delivery.status.isExecOf pid = true →
    ∃ entryAt entry, (timeline root pid stops).position = .inside entryAt entry

instance (root pid : Pid) (stops : List Delivery) (delivery : Delivery) :
    Decidable (KernelLegal root pid stops delivery) :=
  decidable_of_iff
    (delivery.status.isExecOf pid = true → (timeline root pid stops).position.isInside = true)
    (by rw [SyscallPosition.isInside_iff, KernelLegal])

def AllOf (pid : Pid) (stops : List Delivery) : Prop :=
  ∀ delivery ∈ stops, delivery.status.pid? = some pid

theorem allOf_ownDeliveries (pid : Pid) (deliveries : List Delivery) :
    AllOf pid (ownDeliveries pid deliveries) := by
  intro delivery member
  simpa using (List.mem_filter.mp member).2

theorem AllOf.initial {pid : Pid} {stops : List Delivery} {delivery : Delivery}
    (all : AllOf pid (stops ++ [delivery])) : AllOf pid stops :=
  fun earlier member => all earlier (List.mem_append_left _ member)

theorem AllOf.last {pid : Pid} {stops : List Delivery} {delivery : Delivery}
    (all : AllOf pid (stops ++ [delivery])) : delivery.status.pid? = some pid :=
  all delivery (by simp)

theorem timeline_length (root pid : Pid) (stops : List Delivery) :
    (timeline root pid stops).length = stops.length := by
  induction stops using List.reverseRecOn with
  | nil => rfl
  | append_singleton stops delivery ih => simp [timeline_snoc, Timeline.next, ih]

theorem timeline_completed_append (root pid : Pid) (stops more : List Delivery) :
    (timeline root pid stops).completed <+: (timeline root pid (stops ++ more)).completed := by
  induction more using List.reverseRecOn with
  | nil => simp
  | append_singleton more delivery ih =>
      rw [← List.append_assoc, timeline_snoc]
      exact ih.trans (List.prefix_append _ _)

/-- What it means for a record to describe a syscall of the stream: its two
stops stand at the recorded positions, the first is an entry stop, the second is
the exit stop of that same syscall, and no syscall-stop lies between. -/
structure Syscall.Occurs (root pid : Pid) (stops : List Delivery) (syscall : Syscall) : Prop where
  entry : stops[syscall.entryAt]? = some syscall.entry
  exit : stops[syscall.exitAt]? = some syscall.exit
  entryStop : syscall.entry.status = .ptraceSyscall pid
  exitStop : syscall.exit.status = .ptraceSyscall pid
  opens : (timeline root pid (stops.take syscall.entryAt)).position = .outside
  closes : (timeline root pid (stops.take syscall.exitAt)).position =
    if syscall.execed then .execed syscall.entryAt syscall.entry
    else .inside syscall.entryAt syscall.entry
  ordered : syscall.entryAt < syscall.exitAt
  adjacent : ∀ index delivery, syscall.entryAt < index → index < syscall.exitAt →
    stops[index]? = some delivery → delivery.status ≠ .ptraceSyscall pid

theorem Syscall.Occurs.append {root pid : Pid} {stops : List Delivery} {syscall : Syscall}
    (occurs : syscall.Occurs root pid stops) (more : List Delivery) :
    syscall.Occurs root pid (stops ++ more) := by
  have exitBound : syscall.exitAt < stops.length :=
    (List.getElem?_eq_some_iff.mp occurs.exit).1
  have entryBound : syscall.entryAt < stops.length := Nat.lt_trans occurs.ordered exitBound
  constructor
  · rw [List.getElem?_append_left entryBound]
    exact occurs.entry
  · rw [List.getElem?_append_left exitBound]
    exact occurs.exit
  · exact occurs.entryStop
  · exact occurs.exitStop
  · rw [List.take_append_of_le_length (Nat.le_of_lt entryBound)]
    exact occurs.opens
  · rw [List.take_append_of_le_length (Nat.le_of_lt exitBound)]
    exact occurs.closes
  · exact occurs.ordered
  · intro index delivery after before found
    rw [List.getElem?_append_left (Nat.lt_trans before exitBound)] at found
    exact occurs.adjacent index delivery after before found

structure OpenAt (root pid : Pid) (stops : List Delivery) (completed : List Syscall)
    (entryAt : Nat) (entry : Delivery) : Prop where
  stands : stops[entryAt]? = some entry
  entryStop : entry.status = .ptraceSyscall pid
  opens : (timeline root pid (stops.take entryAt)).position = .outside
  adjacent : ∀ index delivery, entryAt < index → stops[index]? = some delivery →
    delivery.status ≠ .ptraceSyscall pid
  after : ∀ syscall ∈ completed, syscall.exitAt < entryAt

theorem OpenAt.snoc {root pid : Pid} {stops : List Delivery} {completed : List Syscall}
    {entryAt : Nat} {entry : Delivery} (opened : OpenAt root pid stops completed entryAt entry)
    {delivery : Delivery} (other : delivery.status ≠ .ptraceSyscall pid) :
    OpenAt root pid (stops ++ [delivery]) completed entryAt entry := by
  have bound : entryAt < stops.length := (List.getElem?_eq_some_iff.mp opened.stands).1
  constructor
  · rw [List.getElem?_append_left bound]
    exact opened.stands
  · exact opened.entryStop
  · rw [List.take_append_of_le_length (Nat.le_of_lt bound)]
    exact opened.opens
  · intro index found after read
    rcases Nat.lt_or_ge index stops.length with earlier | last
    · rw [List.getElem?_append_left earlier] at read
      exact opened.adjacent index found after read
    · rw [List.getElem?_append_right last] at read
      have same : found = delivery := by
        simpa using (List.mem_of_getElem? read)
      rw [same]
      exact other
  · exact opened.after

structure Timeline.Sound (root pid : Pid) (stops : List Delivery) (timeline : Timeline) : Prop where
  occurs : ∀ syscall ∈ timeline.completed, syscall.Occurs root pid stops
  ordered : timeline.completed.Pairwise (fun first second => first.exitAt < second.entryAt)
  opened : ∀ entryAt entry, timeline.position = .inside entryAt entry ∨
    timeline.position = .execed entryAt entry →
    OpenAt root pid stops timeline.completed entryAt entry

theorem Timeline.finishes_cases (timeline : Timeline) (delivery : Delivery) :
    timeline.finishes delivery = [] ∨
      ∃ other entryAt entry execed, delivery.status = .ptraceSyscall other ∧
        timeline.position =
          (if execed then .execed entryAt entry else .inside entryAt entry) ∧
        timeline.finishes delivery = [⟨entryAt, timeline.length, entry, delivery, execed⟩] := by
  unfold Timeline.finishes
  split
  · rename_i other entryAt entry status position
    exact .inr ⟨other, entryAt, entry, false, status, position, rfl⟩
  · rename_i other entryAt entry status position
    exact .inr ⟨other, entryAt, entry, true, status, position, rfl⟩
  · exact .inl rfl

/-- A syscall is open after a stop either because that stop opened it or
because it was open before and the stop is no syscall-stop. -/
theorem Timeline.nextPosition_open (timeline : Timeline) (delivery : Delivery)
    {entryAt : Nat} {entry : Delivery}
    (opened : timeline.nextPosition delivery = .inside entryAt entry ∨
      timeline.nextPosition delivery = .execed entryAt entry) :
    ((∃ other, delivery.status = .ptraceSyscall other) ∧ timeline.position = .outside ∧
        entryAt = timeline.length ∧ entry = delivery) ∨
      ((∀ other, delivery.status ≠ .ptraceSyscall other) ∧
        (timeline.position = .inside entryAt entry ∨
          timeline.position = .execed entryAt entry)) := by
  unfold Timeline.nextPosition at opened
  split at opened
  · rename_i other status position
    simp only [SyscallPosition.inside.injEq, reduceCtorEq, or_false] at opened
    exact .inl ⟨⟨other, status⟩, position, opened.1.symm, opened.2.symm⟩
  · simp at opened
  · rename_i other signal event openAt stop status position
    refine .inr ⟨by simp [status], ?_⟩
    rw [position]
    split at opened <;> simpa [or_comm] using opened
  · simp at opened
  · simp at opened
  · rename_i noSyscall _ _ _ _
    exact .inr ⟨noSyscall, opened⟩

theorem timeline_sound (root pid : Pid) (stops : List Delivery) (all : AllOf pid stops) :
    (timeline root pid stops).Sound root pid stops := by
  induction stops using List.reverseRecOn with
  | nil =>
      refine ⟨by simp [timeline], by simp [timeline], ?_⟩
      intro entryAt entry opened
      simp only [timeline, List.foldl_nil] at opened
      split at opened <;> simp at opened
  | append_singleton stops delivery ih =>
      have sound := ih all.initial
      have mine : ∀ other, delivery.status = .ptraceSyscall other →
          delivery.status = .ptraceSyscall pid := by
        intro other status
        have same := all.last
        rw [status] at same ⊢
        cases same
        rfl
      have length := timeline_length root pid stops
      rw [timeline_snoc]
      have kept : ∀ syscall ∈ (timeline root pid stops).completed,
          syscall.Occurs root pid (stops ++ [delivery]) :=
        fun syscall member => (sound.occurs syscall member).append _
      have bounded : ∀ syscall ∈ (timeline root pid stops).completed,
          syscall.exitAt < stops.length := fun syscall member =>
        (List.getElem?_eq_some_iff.mp (sound.occurs syscall member).exit).1
      rcases (timeline root pid stops).finishes_cases delivery with
        nothing | ⟨other, entryAt, entry, execed, status, position, finished⟩
      · refine ⟨by simpa [Timeline.next, nothing] using kept,
          by simpa [Timeline.next, nothing] using sound.ordered, ?_⟩
        intro entryAt entry opened
        simp only [Timeline.next, nothing, List.append_nil] at opened ⊢
        rcases (timeline root pid stops).nextPosition_open delivery opened with
          ⟨⟨other, status⟩, position, rfl, rfl⟩ | ⟨other, before⟩
        · constructor
          · simp [length]
          · exact mine other status
          · simpa [length] using position
          · intro index found after read
            rw [List.getElem?_eq_none (by simp; omega)] at read
            cases read
          · rw [length]
            exact bounded
        · exact (sound.opened entryAt entry before).snoc (other pid)
      · have opened : OpenAt root pid stops (timeline root pid stops).completed entryAt entry := by
          apply sound.opened
          cases execed <;> simp [position]
        have entryBound : entryAt < stops.length :=
          (List.getElem?_eq_some_iff.mp opened.stands).1
        have occurs : Syscall.Occurs root pid (stops ++ [delivery])
            ⟨entryAt, (timeline root pid stops).length, entry, delivery, execed⟩ := by
          constructor
          · rw [List.getElem?_append_left entryBound]
            exact opened.stands
          · simp [length]
          · exact opened.entryStop
          · exact mine other status
          · rw [List.take_append_of_le_length (Nat.le_of_lt entryBound)]
            exact opened.opens
          · simpa [length] using position
          · simpa [length] using entryBound
          · intro index found after before read
            simp only [length] at before
            rw [List.getElem?_append_left before] at read
            exact opened.adjacent index found after read
        refine ⟨?_, ?_, ?_⟩
        · intro syscall member
          simp only [Timeline.next, finished, List.mem_append, List.mem_singleton] at member
          rcases member with old | rfl
          · exact kept syscall old
          · exact occurs
        · simp only [Timeline.next, finished, List.pairwise_append, List.pairwise_singleton,
            List.mem_singleton, forall_eq, true_and]
          exact ⟨sound.ordered, opened.after⟩
        · intro laterAt later reopened
          simp only [Timeline.next] at reopened
          rcases (timeline root pid stops).nextPosition_open delivery reopened with
            ⟨_, outside, _⟩ | ⟨no, _⟩
          · rw [outside] at position
            cases execed <;> simp at position
          · exact absurd status (no other)

/-- The timeline misses no syscall of the stream. -/
theorem Syscall.Occurs.recorded {root pid : Pid} {stops : List Delivery} {syscall : Syscall}
    (occurs : syscall.Occurs root pid stops) : syscall ∈ (timeline root pid stops).completed := by
  obtain ⟨bound, found⟩ := List.getElem?_eq_some_iff.mp occurs.exit
  have split : stops = stops.take syscall.exitAt ++ [syscall.exit] ++
      stops.drop (syscall.exitAt + 1) := by
    rw [← found, List.take_append_getElem, List.take_append_drop]
  have length : (timeline root pid (stops.take syscall.exitAt)).length = syscall.exitAt := by
    rw [timeline_length, List.length_take]
    omega
  have finished : (timeline root pid (stops.take syscall.exitAt)).finishes syscall.exit =
      [syscall] := by
    rcases syscall with ⟨entryAt, exitAt, entry, exit, execed⟩
    have exitStop : exit.status = .ptraceSyscall pid := occurs.exitStop
    have closes := occurs.closes
    simp only at closes length
    unfold Timeline.finishes
    cases execed <;> simp [exitStop, closes, length]
  rw [split]
  apply (timeline_completed_append root pid _ _).subset
  rw [timeline_snoc, Timeline.next, finished]
  exact List.mem_append_right _ (List.mem_singleton_self _)

end Loi.Core
