import Loi.Foundation.Shortfall
import Loi.Output.Failures
import Loi.Output.Safety

/-! What the two formatters leave on a device that may fail: the line that they would have
written, or an error and a part of it. -/

set_option autoImplicit false

namespace Loi.Output

open Nix Foundation Loi.Core Syscalls

namespace Pretty

open WriteAction Segment

/-- The writes do not depend on the device. -/
abbrev Writes (action : (Device : Type) → TextWriter Device WriteFailure →
    WriteAction Device IoError Unit) : Prop :=
  Scripted IoError.device action

section Writes

variable (profile : Profile) (tables : Tables) (palette : Palette)

theorem writeText_writes (text : String) : Writes fun _ w => writeText w text :=
  scripted_put text

theorem writePieces_writes (pieces : List String) : Writes fun _ w => writePieces w pieces :=
  scripted_putAll pieces

theorem writeStyled_writes (styling : Styling) (text : String) :
    Writes fun _ w => writeStyled palette w styling text :=
  (writeText_writes _).andThen ((writeText_writes _).andThen (writeText_writes _))

theorem writeSpaces_writes {n : Nat} (fits : n ≤ FORMAT_WIDTH_MAX) :
    Writes fun _ w => writeSpaces w n := by
  unfold writeSpaces
  split
  · exact scripted_pure
  · simp only [formatWidth_bind fits]
    exact writeText_writes _

theorem writePidColumnColor_writes {pid : String} {pidPad : Nat}
    (fits : pid.utf8ByteSize + pidPad ≤ FORMAT_WIDTH_MAX) (isContinuation : Bool) :
    Writes fun _ w => writePidColumnColor palette w pid pidPad isContinuation := by
  unfold writePidColumnColor
  split
  · exact (writeSpaces_writes ((Nat.sub_le _ _).trans fits)).andThen
      (writeStyled_writes palette _ _)
  · exact (writeStyled_writes palette _ _).andThen
      (writeSpaces_writes ((Nat.le_add_left _ _).trans fits))

theorem writePidColumnPlain_writes {pid : String} {pidPad : Nat}
    (fits : pid.utf8ByteSize + pidPad ≤ FORMAT_WIDTH_MAX) (isContinuation : Bool) :
    Writes fun _ w => writePidColumnPlain w pid pidPad isContinuation := by
  unfold writePidColumnPlain
  split
  · exact (writeSpaces_writes ((Nat.sub_le _ _).trans fits)).andThen (writeText_writes _)
  · simp only [formatWidth_bind fits]
    exact writeText_writes _

theorem writeRet_writes {ret : Int64} {errno : Option (String × String)}
    (resolved : errnoOfRet profile tables ret = (.ok errno : Outcome IoError _))
    (color dim : Bool) : Writes fun _ w => writeRet profile tables palette w ret color dim := by
  have styled : ∀ styling text, Writes fun _ w => writeStyled palette w styling text :=
    writeStyled_writes palette
  have plain : ∀ text, Writes fun _ w => writeText w text := writeText_writes
  unfold writeRet
  rw [resolved]
  cases errno with
  | none =>
      cases dim <;> cases color
      · exact plain _
      · exact styled _ _
      · exact styled _ _
      · exact styled _ _
  | some pair =>
      have dimmed := (styled .dimmed (toString ret.toInt)).andThen ((plain " ").andThen
        ((styled .dimmed pair.1).andThen ((plain " (").andThen
          ((styled .dimmed pair.2).andThen (plain ")")))))
      cases dim <;> cases color
      · exact writePieces_writes _
      · exact (styled _ _).andThen ((plain _).andThen ((styled _ _).andThen
          (writePieces_writes _)))
      · exact dimmed
      · exact dimmed

theorem writeLine_writes {item : Rendered} {errno : Option (String × String)}
    (resolved : errnoOfRet profile tables item.event.ret = (.ok errno : Outcome IoError _))
    {cfg : PrettyConfig} {state : PrettyState} (fits : Fits cfg state item.event) :
    Writes fun _ w => writeLine profile tables palette w item cfg state := by
  have styled : ∀ styling text, Writes fun _ w => writeStyled palette w styling text :=
    writeStyled_writes palette
  have ret : ∀ color dim,
      Writes fun _ w => writeRet profile tables palette w item.event.ret color dim :=
    writeRet_writes profile tables palette resolved
  unfold writeLine
  cases color : cfg.color with
  | true =>
      exact (writePidColumnColor_writes palette fits.pid _).andThen ((writeText_writes _).andThen
        ((styled _ _).andThen ((writeSpaces_writes fits.pad).andThen
          ((writePieces_writes _).andThen ((ret _ _).andThen ((writeText_writes _).andThen
            ((styled _ _).andThen (writeText_writes _))))))))
  | false =>
      simp only [Bool.false_eq_true, if_false, formatWidth_bind (fits.plain color)]
      exact (writePidColumnPlain_writes fits.pid _).andThen ((writePieces_writes _).andThen
        ((ret _ _).andThen (writePieces_writes _)))

end Writes

theorem writeEvent_left {Device : Type} {w : TextWriter Device WriteFailure}
    {taken reached : Device → List UInt8} (carries : w.Carries taken reached) {profile : Profile}
    {tables : Tables} {palette : Palette} {item : Rendered} {errno : Option (String × String)}
    (resolved : errnoOfRet profile tables item.event.ret = (.ok errno : Outcome IoError _))
    {cfg : PrettyConfig} {state : PrettyState} (fits : Fits cfg state item.event)
    (device : Device) :
    Left taken (written (lineSegments tables palette item cfg state errno)) device
      (writeEvent profile tables palette w item cfg state device).2.1
      (writeEvent profile tables palette w item cfg state device).2.2 := by
  have left := (writeLine_writes profile tables palette resolved fits).leaves
    (writeLine_emits profile tables palette resolved fits) carries device
  unfold writeEvent
  rcases written : writeLine profile tables palette w item cfg state device with ⟨after, outcome⟩
  rw [written] at left
  cases outcome <;> exact left

theorem writeEvent_state {Device : Type} {w : TextWriter Device WriteFailure} {profile : Profile}
    {tables : Tables} {palette : Palette} {item : Rendered} {cfg : PrettyConfig}
    {state : PrettyState} {device : Device}
    (wrote : (writeEvent profile tables palette w item cfg state device).2.2 = .ok ()) :
    (writeEvent profile tables palette w item cfg state device).1 =
      (state.widen cfg item.event).remember item := by
  unfold writeEvent at wrote ⊢
  dsimp only at wrote ⊢
  split at wrote
  · rfl
  · cases wrote
  · cases wrote

end Pretty

/-- The error is about the failure, as it is or inside one of `serde_json`. -/
def IoError.About (error : IoError) (failure : WriteFailure) : Prop :=
  error = .device failure ∨ error = .serde failure

theorem IoError.About.pipe {error : IoError} {failure : WriteFailure}
    (about : error.About failure) (pipe : error.kind = .brokenPipe) :
    failure.kind = .brokenPipe := by
  rcases about with rfl | rfl
  · exact pipe
  · cases pipe

/-- Between the two states of the device: an error is about the one failure answered, and
without an error there was none. -/
def Raised {Device : Type} (before after : Logged Device WriteFailure) :
    Outcome IoError Unit → Prop
  | .ok () => after.failures = before.failures
  | .err error => ∃ failure, error.About failure ∧ after.failures = before.failures ++ [failure]
  | .panicked => True

theorem raised_of_surfaced {Device : Type} {before after : Logged Device WriteFailure}
    {outcome : Outcome IoError Unit}
    (surfaced : WriteAction.Surfaced IoError.device before after outcome) :
    Raised before after outcome := by
  cases outcome with
  | ok => exact surfaced
  | err error =>
      obtain ⟨failure, about, answered⟩ := surfaced
      exact ⟨failure, .inl about, answered⟩
  | panicked => trivial

namespace Json

variable {Device : Type} {profile : Profile} {tables : Tables} {event : SyscallEvent}
  {errno : Option (String × String)}

theorem writeEvent_leaves {w : TextWriter Device WriteFailure} {taken reached : Device → List UInt8}
    (carries : w.Carries taken reached) (serializer : Serializer)
    (fits : event.duration < 2 ^ 64)
    (resolved : errnoOfRet profile tables event.ret = (.ok errno : Outcome IoError _))
    (decoded : DecodedCall) :
    WriteAction.Leaves taken (writeEvent profile tables serializer w event decoded)
      ((serializer (eventObject event decoded errno)).foldr (· ++ ·) "" ++ "\n") := by
  have newline : WriteAction.Leaves taken (WriteAction.put w IoError.device "\n") "\n" :=
    WriteAction.leaves_put carries IoError.device "\n"
  have both : WriteAction.Leaves taken (WriteAction.putAll w IoError.serde
      (serializer (eventObject event decoded errno)) >>= fun _ => WriteAction.put w .device "\n") _ :=
    (WriteAction.leaves_putAll carries IoError.serde _).bind newline
  intro device
  rw [writeEvent_of_resolved profile tables serializer w fits resolved]
  exact both device

/-- Where the duration fits, every error is about the failure that the device answered. -/
theorem writeEvent_raised (serializer : Serializer) (w : TextWriter Device WriteFailure)
    (fits : event.duration < 2 ^ 64)
    (resolved : errnoOfRet profile tables event.ret = (.ok errno : Outcome IoError _))
    (decoded : DecodedCall) (logged : Logged Device WriteFailure) :
    Raised logged (writeEvent profile tables serializer w.logged event decoded logged).1
      (writeEvent profile tables serializer w.logged event decoded logged).2 := by
  have record : WriteAction.Surfaces IoError.serde (WriteAction.putAll w.logged IoError.serde
      (serializer (eventObject event decoded errno))) :=
    (WriteAction.surfaces_composes w).putAll _
  have first := record logged
  rw [writeEvent_of_resolved profile tables serializer w.logged fits resolved]
  unfold WriteAction.bind
  rcases written : WriteAction.putAll w.logged IoError.serde
    (serializer (eventObject event decoded errno)) logged with ⟨middle, outcome⟩
  rw [written] at first
  cases outcome with
  | ok =>
      have newline : Raised middle _ _ :=
        raised_of_surfaced (WriteAction.surfaces_put w "\n" middle)
      unfold Raised at newline ⊢
      rw [show middle.failures = logged.failures from first] at newline
      exact newline
  | err error =>
      obtain ⟨failure, about, answered⟩ := first
      exact ⟨failure, .inr about, answered⟩
  | panicked => trivial

end Json

end Loi.Output
