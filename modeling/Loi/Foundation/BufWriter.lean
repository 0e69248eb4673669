import Loi.Foundation.Shortfall

/-! `std::io::BufWriter`, over any device of bytes that may fail in the middle of what it
is given. -/

set_option autoImplicit false

namespace Foundation

/-- `write_all` and `flush` of a device of bytes. Where it fails, it has taken as many bytes
as it says. -/
structure ByteWriter (Inner Failure : Type) where
  writeAll : Inner → List UInt8 → Inner × Except (Nat × Failure) Unit
  flush : Inner → Inner × Except Failure Unit

structure ByteWriter.Carries {Inner Failure : Type} (writer : ByteWriter Inner Failure)
    (taken reached : Inner → List UInt8) : Prop where
  accepted : ∀ {inner bytes after}, writer.writeAll inner bytes = (after, .ok ()) →
    taken after = taken inner ++ bytes
  refused : ∀ {inner bytes after count failure},
    writer.writeAll inner bytes = (after, .error (count, failure)) →
      taken after = taken inner ++ bytes.take count
  held : ∀ inner, taken (writer.flush inner).1 = taken inner
  flushed : ∀ {inner after}, writer.flush inner = (after, .ok ()) → reached after = taken after
  behind : ∀ inner, reached inner <+: taken inner

structure Buffered (Inner : Type) (capacity : Nat) where
  inner : Inner
  buffer : List UInt8
  fits : buffer.length ≤ capacity

namespace Buffered

variable {Inner Failure : Type} {capacity : Nat} (w : ByteWriter Inner Failure)

def new (inner : Inner) : Buffered Inner capacity :=
  { inner, buffer := [], fits := Nat.zero_le _ }

def push (buffered : Buffered Inner capacity) (bytes : List UInt8)
    (room : buffered.buffer.length + bytes.length ≤ capacity) : Buffered Inner capacity where
  inner := buffered.inner
  buffer := buffered.buffer ++ bytes
  fits := by simpa using room

/-- `flush_buf`: what the inner device has not taken stays in the buffer. -/
def flushBuf (buffered : Buffered Inner capacity) : Buffered Inner capacity × Except Failure Unit :=
  match w.writeAll buffered.inner buffered.buffer with
  | (inner, .ok ()) => (new inner, .ok ())
  | (inner, .error (count, failure)) =>
      ({ inner
         buffer := buffered.buffer.drop count
         fits := by
           rw [List.length_drop]
           exact (Nat.sub_le _ _).trans buffered.fits }, .error failure)

theorem flushBuf_empty {buffered after : Buffered Inner capacity}
    (flushed : buffered.flushBuf w = (after, .ok ())) : after.buffer = [] := by
  unfold flushBuf at flushed
  split at flushed
  · cases flushed
    rfl
  · cases flushed

/-- What is as long as the whole buffer goes past it. -/
def store (buffered : Buffered Inner capacity) (bytes : List UInt8)
    (room : buffered.buffer.length + bytes.length ≤ capacity ∨ buffered.buffer = []) :
    Buffered Inner capacity × Except Failure Unit :=
  if small : bytes.length < capacity then
    (buffered.push bytes (by
      rcases room with room | empty
      · exact room
      · simpa [empty] using small.le), .ok ())
  else
    match w.writeAll buffered.inner bytes with
    | (inner, .ok ()) => ({ buffered with inner }, .ok ())
    | (inner, .error (_, failure)) => ({ buffered with inner }, .error failure)

/-- `write_all`, with its cold path. -/
def writeAll (buffered : Buffered Inner capacity) (bytes : List UInt8) :
    Buffered Inner capacity × Except Failure Unit :=
  if room : bytes.length < capacity - buffered.buffer.length then
    (buffered.push bytes (by omega), .ok ())
  else if room : bytes.length ≤ capacity - buffered.buffer.length then
    buffered.store w bytes (.inl (by have := buffered.fits; omega))
  else
    match flushed : buffered.flushBuf w with
    | (buffered, .ok ()) => buffered.store w bytes (.inr (flushBuf_empty w flushed))
    | (buffered, .error failure) => (buffered, .error failure)

def writer : TextWriter (Buffered Inner capacity) Failure where
  write buffered text := buffered.writeAll w (utf8Bytes text)
  flush buffered :=
    match buffered.flushBuf w with
    | (buffered, .ok ()) =>
        let (inner, answer) := w.flush buffered.inner
        ({ buffered with inner }, answer)
    | (buffered, .error failure) => (buffered, .error failure)

section Carries

variable {w} {taken reached : Inner → List UInt8} {buffered : Buffered Inner capacity}

/-- What the buffer holds counts as taken. -/
def held (taken : Inner → List UInt8) (buffered : Buffered Inner capacity) : List UInt8 :=
  taken buffered.inner ++ buffered.buffer

theorem held_flushBuf (carries : w.Carries taken reached) :
    held taken (buffered.flushBuf w).1 = held taken buffered := by
  unfold flushBuf held
  split
  · next inner answer =>
      simp only [new, List.append_nil]
      exact carries.accepted answer
  · next inner count failure answer =>
      dsimp only
      rw [carries.refused answer, List.append_assoc, List.take_append_drop]

theorem store_carried (carries : w.Carries taken reached) {bytes : List UInt8}
    (room : buffered.buffer.length + bytes.length ≤ capacity ∨ buffered.buffer = []) :
    ((buffered.store w bytes room).2 = .ok () ∧
        held taken (buffered.store w bytes room).1 = held taken buffered ++ bytes) ∨
      ∃ failure count, (buffered.store w bytes room).2 = .error failure ∧
        held taken (buffered.store w bytes room).1 = held taken buffered ++ bytes.take count := by
  unfold store
  split
  · exact .inl ⟨rfl, (List.append_assoc _ _ _).symm⟩
  · next large =>
      -- so large a text is only stored behind an empty buffer
      have empty : buffered.buffer = [] := by
        rcases room with room | empty
        · exact List.length_eq_zero_iff.mp (by omega)
        · exact empty
      split
      · next inner answer =>
          refine .inl ⟨rfl, ?_⟩
          simp only [held, empty, List.append_nil]
          exact carries.accepted answer
      · next inner count failure answer =>
          refine .inr ⟨failure, count, rfl, ?_⟩
          simp only [held, empty, List.append_nil]
          exact carries.refused answer

theorem writeAll_carried (carries : w.Carries taken reached) (buffered : Buffered Inner capacity)
    (bytes : List UInt8) :
    ((buffered.writeAll w bytes).2 = .ok () ∧
        held taken (buffered.writeAll w bytes).1 = held taken buffered ++ bytes) ∨
      ∃ failure count, (buffered.writeAll w bytes).2 = .error failure ∧
        held taken (buffered.writeAll w bytes).1 = held taken buffered ++ bytes.take count := by
  have kept : held taken (buffered.flushBuf w).1 = held taken buffered := held_flushBuf carries
  unfold writeAll
  split
  · exact .inl ⟨rfl, (List.append_assoc _ _ _).symm⟩
  · split
    · exact store_carried carries _
    · split
      · next flushed =>
          rw [flushed] at kept
          rw [← kept]
          exact store_carried carries _
      · next failure flushed =>
          rw [flushed] at kept
          exact .inr ⟨failure, 0, rfl, by simpa using kept⟩

/-- A buffer between the two takes nothing from what is known of the device. -/
theorem writer_carries (carries : w.Carries taken reached) :
    (writer w : TextWriter (Buffered Inner capacity) Failure).Carries (held taken)
      (fun buffered => reached buffered.inner) where
  accepted := by
    intro buffered text after answer
    have carried := writeAll_carried carries buffered (utf8Bytes text)
    rw [show buffered.writeAll w (utf8Bytes text) = _ from answer] at carried
    rcases carried with ⟨_, all⟩ | ⟨_, _, failed, _⟩
    · exact all
    · cases failed
  refused := by
    intro buffered text after failure answer
    have carried := writeAll_carried carries buffered (utf8Bytes text)
    rw [show buffered.writeAll w (utf8Bytes text) = _ from answer] at carried
    rcases carried with ⟨wrote, _⟩ | ⟨_, count, _, part⟩
    · cases wrote
    · exact ⟨(utf8Bytes text).take count, List.take_prefix _ _, part⟩
  held buffered := by
    have kept : held taken (buffered.flushBuf w).1 = held taken buffered := held_flushBuf carries
    rcases flushed : buffered.flushBuf w with ⟨after, answer⟩
    rw [flushed] at kept
    rw [← kept]
    cases answer with
    | ok =>
        simp only [writer, flushed]
        exact congrArg (· ++ after.buffer) (carries.held after.inner)
    | error failure => simp only [writer, flushed]
  flushed := by
    intro buffered after answer
    simp only [writer] at answer
    split at answer
    · next emptied flushed =>
        obtain ⟨rfl, reply⟩ := Prod.mk.inj answer
        have reached := carries.flushed (Prod.ext rfl reply)
        simp only [held, flushBuf_empty w flushed, List.append_nil]
        exact reached
    · cases answer
  behind buffered := (carries.behind buffered.inner).trans (List.prefix_append _ _)

end Carries

end Buffered

end Foundation
