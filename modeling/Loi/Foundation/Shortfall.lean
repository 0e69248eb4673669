import Mathlib.Data.List.Infix
import Loi.Foundation.Device
import Loi.Foundation.Lines

/-! What a device has of the texts it was given, byte for byte, where it may fail in the
middle of any of them. -/

set_option autoImplicit false

namespace Foundation

variable {Device Failure Error : Type}

/-- What is known of a device that may fail: all that it has `taken` so far, and what of
this has `reached` the other side. A text that is refused may be taken in part. -/
structure TextWriter.Carries (writer : TextWriter Device Failure)
    (taken reached : Device → List UInt8) : Prop where
  accepted : ∀ {device text after}, writer.write device text = (after, .ok ()) →
    taken after = taken device ++ utf8Bytes text
  refused : ∀ {device text after failure}, writer.write device text = (after, .error failure) →
    ∃ part, part <+: utf8Bytes text ∧ taken after = taken device ++ part
  held : ∀ device, taken (writer.flush device).1 = taken device
  flushed : ∀ {device after}, writer.flush device = (after, .ok ()) → reached after = taken after
  behind : ∀ device, reached device <+: taken device

theorem TextWriter.Carries.logged {writer : TextWriter Device Failure}
    {taken reached : Device → List UInt8} (carries : writer.Carries taken reached) :
    writer.logged.Carries (fun logged => taken logged.device)
      (fun logged => reached logged.device) where
  accepted := by
    intro logged text after answer
    obtain ⟨rfl, reply⟩ := Prod.mk.inj answer
    exact carries.accepted (Prod.ext rfl reply)
  refused := by
    intro logged text after failure answer
    obtain ⟨rfl, reply⟩ := Prod.mk.inj answer
    exact carries.refused (Prod.ext rfl reply)
  held logged := carries.held logged.device
  flushed := by
    intro logged after answer
    obtain ⟨rfl, reply⟩ := Prod.mk.inj answer
    exact carries.flushed (Prod.ext rfl reply)
  behind logged := carries.behind logged.device

theorem TextWriter.collector_carries (Failure : Type) :
    (TextWriter.collector Failure).Carries utf8Bytes utf8Bytes where
  accepted := by
    intro written text after answer
    cases answer
    exact utf8Bytes_append written text
  refused := by
    intro written text after failure answer
    cases answer
  held _ := rfl
  flushed := by
    intro written after answer
    cases answer
    rfl
  behind _ := List.prefix_rfl

namespace WriteAction

variable {taken : Device → List UInt8}

theorem bind_assoc {Value Next Last : Type} (action : WriteAction Device Error Value)
    (next : Value → WriteAction Device Error Next) (last : Next → WriteAction Device Error Last) :
    action >>= next >>= last = action >>= fun value => next value >>= last := by
  funext device
  change WriteAction.bind (WriteAction.bind action next) last device =
    WriteAction.bind action (fun value => WriteAction.bind (next value) last) device
  unfold WriteAction.bind
  rcases action device with ⟨after, outcome⟩
  cases outcome <;> rfl

theorem bind_unit (action : WriteAction Device Error Unit) :
    (action >>= fun _ => pure ()) = action := by
  funext device
  change WriteAction.bind action _ device = _
  unfold WriteAction.bind
  rcases action device with ⟨after, outcome⟩
  cases outcome <;> rfl

theorem putAll_append (writer : TextWriter Device Failure) (wrap : Failure → Error)
    (before after : List String) :
    putAll writer wrap (before ++ after) =
      (putAll writer wrap before >>= fun _ => putAll writer wrap after) := by
  induction before with
  | nil => rfl
  | cons text rest ih =>
      rw [List.cons_append, putAll, putAll, ih, bind_assoc]

/-- What an action has left that was to write `text`: all of it, or its error and a part. -/
def Left (taken : Device → List UInt8) (text : String) (before after : Device) :
    Outcome Error Unit → Prop
  | .ok () => taken after = taken before ++ utf8Bytes text
  | .err _ => ∃ part, part <+: utf8Bytes text ∧ taken after = taken before ++ part
  | .panicked => False

def Leaves (taken : Device → List UInt8) (action : WriteAction Device Error Unit)
    (text : String) : Prop :=
  ∀ device, Left taken text device (action device).1 (action device).2

theorem leaves_pure : Leaves taken (pure () : WriteAction Device Error Unit) "" := by
  intro device
  exact (List.append_nil _).symm

theorem leaves_put {writer : TextWriter Device Failure} {reached : Device → List UInt8}
    (carries : writer.Carries taken reached) (wrap : Failure → Error) (text : String) :
    Leaves taken (put writer wrap text) text := by
  intro device
  unfold put
  rcases answer : writer.write device text with ⟨after, reply⟩
  cases reply with
  | ok => exact carries.accepted answer
  | error failure => exact carries.refused answer

theorem Leaves.bind {first : WriteAction Device Error Unit}
    {second : Unit → WriteAction Device Error Unit} {before after : String}
    (leavesFirst : Leaves taken first before) (leavesSecond : Leaves taken (second ()) after) :
    Leaves taken (first >>= second) (before ++ after) := by
  intro device
  have found := leavesFirst device
  change Left taken _ device (WriteAction.bind first second device).1
    (WriteAction.bind first second device).2
  unfold WriteAction.bind
  rcases reached : first device with ⟨middle, outcome⟩
  rw [reached] at found
  cases outcome with
  | ok =>
      have later := leavesSecond middle
      have start : taken middle = taken device ++ utf8Bytes before := found
      dsimp only
      cases ends : (second () middle).2 with
      | ok =>
          rw [ends] at later
          change _ = _
          rw [show taken _ = _ from later, start, utf8Bytes_append, List.append_assoc]
      | err error =>
          rw [ends] at later
          obtain ⟨part, initial, held⟩ := later
          refine ⟨utf8Bytes before ++ part, ?_, ?_⟩
          · rw [utf8Bytes_append, List.prefix_append_right_inj]
            exact initial
          · rw [held, start, List.append_assoc]
      | panicked =>
          rw [ends] at later
          exact later
  | err error =>
      obtain ⟨part, initial, held⟩ := found
      refine ⟨part, ?_, held⟩
      rw [utf8Bytes_append]
      exact initial.trans (List.prefix_append _ _)
  | panicked => exact found

theorem leaves_putAll {writer : TextWriter Device Failure} {reached : Device → List UInt8}
    (carries : writer.Carries taken reached) (wrap : Failure → Error) (texts : List String) :
    Leaves taken (putAll writer wrap texts) (texts.foldr (· ++ ·) "") := by
  induction texts with
  | nil => exact leaves_pure
  | cons text rest ih => exact (leaves_put carries wrap text).bind ih

/-- The action puts the same texts on every device, one after the other. -/
def Scripted (wrap : Failure → Error)
    (action : (Device : Type) → TextWriter Device Failure → WriteAction Device Error Unit) : Prop :=
  ∃ texts, ∀ Device (writer : TextWriter Device Failure),
    action Device writer = putAll writer wrap texts

section Scripts

variable {wrap : Failure → Error}
  {first second : (Device : Type) → TextWriter Device Failure → WriteAction Device Error Unit}

theorem scripted_pure : Scripted wrap fun Device (_ : TextWriter Device Failure) =>
    (pure () : WriteAction Device Error Unit) :=
  ⟨[], fun _ _ => rfl⟩

theorem scripted_putAll (texts : List String) :
    Scripted wrap fun _ (writer : TextWriter _ Failure) => putAll writer wrap texts :=
  ⟨texts, fun _ _ => rfl⟩

theorem scripted_put (text : String) :
    Scripted wrap fun _ (writer : TextWriter _ Failure) => put writer wrap text :=
  ⟨[text], fun _ writer => (bind_unit (put writer wrap text)).symm⟩

theorem Scripted.andThen (scriptFirst : Scripted wrap first) (scriptSecond : Scripted wrap second) :
    Scripted wrap fun Device writer => first Device writer >>= fun _ => second Device writer := by
  obtain ⟨before, same⟩ := scriptFirst
  obtain ⟨after, same'⟩ := scriptSecond
  refine ⟨before ++ after, fun Device writer => ?_⟩
  rw [putAll_append, ← same, ← same']

/-- What is written where everything is accepted is what is left, in part, where it is not. -/
theorem Scripted.leaves (script : Scripted wrap first) {text : String}
    (emits : Emits (first String (.collector Failure)) text) {writer : TextWriter Device Failure}
    {reached : Device → List UInt8} (carries : writer.Carries taken reached) :
    Leaves taken (first Device writer) text := by
  obtain ⟨texts, same⟩ := script
  have whole : texts.foldr (· ++ ·) "" = text := by
    have written := (emits_putAll wrap texts "").symm.trans (same _ _ ▸ emits "")
    simpa using written
  rw [same, ← whole]
  exact leaves_putAll carries wrap texts

end Scripts

end WriteAction

end Foundation
