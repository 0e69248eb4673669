import Mathlib.Data.String.Basic
import Loi.Foundation.Outcome

/-! Writing to a device that may fail at any write. An action threads the device
and stops at its first error, keeping what was written before it. -/

set_option autoImplicit false

namespace Foundation

structure TextWriter (Device Failure : Type) where
  write : Device → String → Device × Except Failure Unit
  flush : Device → Device × Except Failure Unit

def TextWriter.collector (Failure : Type) : TextWriter String Failure where
  write written text := (written ++ text, .ok ())
  flush written := (written, .ok ())

/-- A device together with the failures it has answered with, oldest first. -/
structure Logged (Device Failure : Type) where
  device : Device
  failures : List Failure

def failureOf {Failure : Type} : Except Failure Unit → List Failure
  | .ok () => []
  | .error failure => [failure]

def Logged.after {Device Failure : Type} (logged : Logged Device Failure)
    (answer : Device × Except Failure Unit) : Logged Device Failure × Except Failure Unit :=
  ({ device := answer.1, failures := logged.failures ++ failureOf answer.2 }, answer.2)

def TextWriter.logged {Device Failure : Type} (writer : TextWriter Device Failure) :
    TextWriter (Logged Device Failure) Failure where
  write logged text := logged.after (writer.write logged.device text)
  flush logged := logged.after (writer.flush logged.device)

def WriteAction (Device Error Value : Type) : Type :=
  Device → Device × Outcome Error Value

namespace WriteAction

variable {Device Failure Error Value Next : Type}

protected def bind (action : WriteAction Device Error Value)
    (next : Value → WriteAction Device Error Next) : WriteAction Device Error Next :=
  fun device =>
    match action device with
    | (device, .ok value) => next value device
    | (device, .err error) => (device, .err error)
    | (device, .panicked) => (device, .panicked)

instance : Monad (WriteAction Device Error) where
  pure value := fun device => (device, .ok value)
  bind := WriteAction.bind

def lift (outcome : Outcome Error Value) : WriteAction Device Error Value :=
  fun device => (device, outcome)

/-- `write_all(text)?`. -/
def put (writer : TextWriter Device Failure) (wrap : Failure → Error) (text : String) :
    WriteAction Device Error Unit :=
  fun device =>
    match writer.write device text with
    | (device, .ok ()) => (device, .ok ())
    | (device, .error failure) => (device, .err (wrap failure))

def putAll (writer : TextWriter Device Failure) (wrap : Failure → Error) :
    List String → WriteAction Device Error Unit
  | [] => pure ()
  | text :: rest => do
      put writer wrap text
      putAll writer wrap rest

/-- On the device that accepts everything the action writes `text`. -/
def Emits (action : WriteAction String Error Unit) (text : String) : Prop :=
  ∀ written, action written = (written ++ text, .ok ())

theorem emits_pure : Emits (pure () : WriteAction String Error Unit) "" := by
  intro written
  rw [String.append_empty]
  rfl

theorem emits_put (wrap : Failure → Error) (text : String) :
    Emits (put (TextWriter.collector Failure) wrap text) text :=
  fun _ => rfl

theorem Emits.bind {first : WriteAction String Error Unit}
    {second : Unit → WriteAction String Error Unit}
    {before after : String} (emitsFirst : Emits first before)
    (emitsSecond : Emits (second ()) after) : Emits (first >>= second) (before ++ after) := by
  intro written
  have unfolded : (first >>= second) written = second () (written ++ before) := by
    change WriteAction.bind first second written = _
    rw [WriteAction.bind, emitsFirst written]
  rw [unfolded, emitsSecond, String.append_assoc]

theorem emits_putAll (wrap : Failure → Error) (texts : List String) :
    Emits (putAll (TextWriter.collector Failure) wrap texts) (texts.foldr (· ++ ·) "") := by
  induction texts with
  | nil => exact emits_pure
  | cons text rest ih => exact (emits_put wrap text).bind ih

/-- What holds of every single write and passes through sequencing. -/
structure Composes (writer : TextWriter Device Failure) (wrap : Failure → Error)
    (property : ∀ {Value : Type}, WriteAction Device Error Value → Prop) : Prop where
  pure : ∀ {Value : Type} (value : Value), property (pure value : WriteAction Device Error Value)
  put : ∀ text, property (put writer wrap text)
  bind : ∀ {Value Next : Type} {first : WriteAction Device Error Value}
    {second : Value → WriteAction Device Error Next},
    property first → (∀ value, property (second value)) → property (first >>= second)

theorem Composes.putAll {writer : TextWriter Device Failure} {wrap : Failure → Error}
    {property : ∀ {Value : Type}, WriteAction Device Error Value → Prop}
    (composes : Composes writer wrap property) (texts : List String) :
    property (putAll writer wrap texts) := by
  induction texts with
  | nil => exact composes.pure ()
  | cons text rest ih => exact composes.bind (composes.put text) fun _ => ih

def NeverPanics (action : WriteAction Device Error Value) : Prop :=
  ∀ device, (action device).2 ≠ .panicked

theorem neverPanics_composes (writer : TextWriter Device Failure) (wrap : Failure → Error) :
    Composes writer wrap NeverPanics where
  pure value device := nofun
  put text device := by
    unfold put
    rcases writer.write device text with ⟨after, answer⟩
    cases answer <;> exact nofun
  bind := by
    intro Value Next first second never later device
    change (WriteAction.bind first second device).2 ≠ _
    have returns := never device
    unfold WriteAction.bind
    rcases reached : first device with ⟨after, outcome⟩
    rw [reached] at returns
    cases outcome with
    | ok value => exact later value after
    | err error => exact nofun
    | panicked => exact absurd rfl returns

theorem neverPanics_lift_ok (value : Value) :
    NeverPanics (lift (.ok value) : WriteAction Device Error Value) :=
  fun _ => nofun

def AlwaysPanics {Device : Type} (action : WriteAction Device Error Value) : Prop :=
  ∀ device, (action device).2 = .panicked

/-- On the device that accepts everything the action writes `text`, and panics. -/
def PanicsAfter (action : WriteAction String Error Value) (text : String) : Prop :=
  ∀ written, action written = (written ++ text, .panicked)

theorem PanicsAfter.congr {action : WriteAction String Error Value} {text other : String}
    (panics : PanicsAfter action text) (same : text = other) : PanicsAfter action other := by
  rw [← same]
  exact panics

theorem PanicsAfter.alwaysPanics {action : WriteAction String Error Value} {text : String}
    (panics : PanicsAfter action text) : AlwaysPanics action := by
  intro written
  rw [panics written]

theorem panicsAfter_lift (next : Value → WriteAction String Error Next) :
    PanicsAfter (lift .panicked >>= next) "" := by
  intro written
  rw [String.append_empty]
  rfl

theorem Emits.bind_panicsAfter {first : WriteAction String Error Unit}
    {second : Unit → WriteAction String Error Value} {before after : String}
    (emits : Emits first before) (panics : PanicsAfter (second ()) after) :
    PanicsAfter (first >>= second) (before ++ after) := by
  intro written
  have unfolded : (first >>= second) written = second () (written ++ before) := by
    change WriteAction.bind first second written = _
    rw [WriteAction.bind, emits written]
  rw [unfolded, panics, String.append_assoc]

theorem PanicsAfter.bind {action : WriteAction String Error Value} {text : String}
    (panics : PanicsAfter action text) (next : Value → WriteAction String Error Next) :
    PanicsAfter (action >>= next) text := by
  intro written
  change WriteAction.bind action next written = _
  rw [WriteAction.bind, panics written]

/-- Between the two states of the device: an error is the one failure answered, and
without an error there was none. -/
def Surfaced (wrap : Failure → Error) (before after : Logged Device Failure)
    (outcome : Outcome Error Value) : Prop :=
  match outcome with
  | .ok _ => after.failures = before.failures
  | .err error =>
      ∃ failure, error = wrap failure ∧ after.failures = before.failures ++ [failure]
  | .panicked => True

/-- The errors of the action are the failures of the device. -/
def Surfaces (wrap : Failure → Error) (action : WriteAction (Logged Device Failure) Error Value) :
    Prop :=
  ∀ logged, Surfaced wrap logged (action logged).1 (action logged).2

variable {wrap : Failure → Error}

theorem surfaces_put (writer : TextWriter Device Failure) (text : String) :
    Surfaces wrap (put writer.logged wrap text) := by
  intro logged
  unfold put
  simp only [TextWriter.logged, Logged.after]
  cases answer : (writer.write logged.device text).2 with
  | ok => simp [Surfaced, failureOf]
  | error failure => simp [Surfaced, failureOf]

theorem surfaces_lift {outcome : Outcome Error Value} (noError : ∀ error, outcome ≠ .err error) :
    Surfaces wrap (lift outcome : WriteAction (Logged Device Failure) Error Value) := by
  intro logged
  cases found : outcome with
  | ok value => rfl
  | err error => exact absurd found (noError error)
  | panicked => trivial

theorem Surfaces.bind {first : WriteAction (Logged Device Failure) Error Value}
    {second : Value → WriteAction (Logged Device Failure) Error Next}
    (surfacesFirst : Surfaces wrap first) (surfacesSecond : ∀ value, Surfaces wrap (second value)) :
    Surfaces wrap (first >>= second) := by
  intro logged
  have found := surfacesFirst logged
  change Surfaced wrap logged (WriteAction.bind first second logged).1
    (WriteAction.bind first second logged).2
  unfold WriteAction.bind
  rcases reached : first logged with ⟨after, outcome⟩
  rw [reached] at found
  cases outcome with
  | ok value =>
      have later := surfacesSecond value after
      unfold Surfaced at later ⊢
      rw [show after.failures = logged.failures from found] at later
      exact later
  | err error => exact found
  | panicked => trivial

theorem surfaces_composes (writer : TextWriter Device Failure) :
    Composes writer.logged wrap (Surfaces wrap) where
  pure _ _ := rfl
  put := surfaces_put writer
  bind first later := first.bind later

end WriteAction

def TextWriter.Accepts {Device Failure : Type} (writer : TextWriter Device Failure) :
    Device → List String → Prop
  | _, [] => True
  | device, text :: rest =>
      match writer.write device text with
      | (device, .ok ()) => writer.Accepts device rest
      | (_, .error _) => False

namespace WriteAction

variable {Device Failure Error : Type} {writer : TextWriter Device Failure}

theorem putAll_accepted (wrap : Failure → Error) {texts : List String} {device : Device}
    (accepts : writer.Accepts device texts) : (putAll writer wrap texts device).2 = .ok () := by
  induction texts generalizing device with
  | nil => rfl
  | cons text rest ih =>
      change (WriteAction.bind (put writer wrap text) (fun _ => putAll writer wrap rest) device).2 = _
      unfold WriteAction.bind put
      unfold TextWriter.Accepts at accepts
      rcases answer : writer.write device text with ⟨next, reply⟩
      rw [answer] at accepts
      cases reply with
      | ok => exact ih accepts
      | error failure => cases accepts

/-- Texts that are taken whole leave no failure behind. -/
theorem putAll_silent (wrap : Failure → Error) {texts : List String}
    {logged : Logged Device Failure} (accepts : writer.logged.Accepts logged texts) :
    ∃ after, putAll writer.logged wrap texts logged = (after, .ok ()) ∧
      after.failures = logged.failures := by
  have surfaces : Surfaces wrap (putAll writer.logged wrap texts) :=
    (surfaces_composes writer).putAll texts
  have surfaced := surfaces logged
  have taken := putAll_accepted wrap accepts
  rcases written : putAll writer.logged wrap texts logged with ⟨after, outcome⟩
  rw [written] at surfaced taken
  cases taken
  exact ⟨after, rfl, surfaced⟩

theorem putAll_refused (wrap : Failure → Error) {texts : List String} {device : Device}
    (refuses : ¬ writer.Accepts device texts) :
    ∃ failure, (putAll writer wrap texts device).2 = .err (wrap failure) := by
  induction texts generalizing device with
  | nil => exact absurd trivial refuses
  | cons text rest ih =>
      change ∃ failure,
        (WriteAction.bind (put writer wrap text) (fun _ => putAll writer wrap rest) device).2 = _
      unfold WriteAction.bind put
      unfold TextWriter.Accepts at refuses
      rcases answer : writer.write device text with ⟨next, reply⟩
      rw [answer] at refuses
      cases reply with
      | ok => exact ih refuses
      | error failure => exact ⟨failure, rfl⟩

end WriteAction

end Foundation
