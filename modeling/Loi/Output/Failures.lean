import Loi.Output.Json
import Loi.Output.Pretty

/-! Which failures of the writer the two formatters hand on as they are. -/

set_option autoImplicit false

namespace Loi.Output

open Nix Foundation Loi.Core Syscalls

theorem errnoOfRet_no_error {Error : Type} (profile : Profile) (tables : Tables) (ret : Int64)
    (error : Error) : errnoOfRet profile tables ret ≠ .err error := by
  unfold errnoOfRet
  split_ifs <;> simp

variable {Device : Type} (profile : Profile) (tables : Tables)

namespace Pretty

section Composes

variable {palette : Palette} {w : TextWriter Device WriteFailure}
  {property : ∀ {Value : Type}, WriteAction Device IoError Value → Prop}
  (composes : WriteAction.Composes w .device property)

include composes

theorem writeStyled_composes (styling : Styling) (text : String) :
    property (writeStyled palette w styling text) :=
  composes.bind (composes.put _) fun _ => composes.bind (composes.put _) fun _ => composes.put _

theorem writeSpaces_composes {n : Nat} (width : property (formatWidth n)) :
    property (writeSpaces w n) := by
  unfold writeSpaces
  split
  · exact composes.pure ()
  · exact composes.bind width fun _ => composes.put _

theorem writePidColumnColor_composes {pid : String} {pidPad : Nat}
    (widths : ∀ width ≤ pid.utf8ByteSize + pidPad, property (formatWidth width))
    (isContinuation : Bool) :
    property (writePidColumnColor palette w pid pidPad isContinuation) := by
  unfold writePidColumnColor
  split
  · exact composes.bind (writeSpaces_composes composes (widths _ (Nat.sub_le _ _))) fun _ =>
      writeStyled_composes composes _ _
  · exact composes.bind (writeStyled_composes composes _ _) fun _ =>
      writeSpaces_composes composes (widths _ (Nat.le_add_left _ _))

theorem writePidColumnPlain_composes {pid : String} {pidPad : Nat}
    (widths : ∀ width ≤ pid.utf8ByteSize + pidPad, property (formatWidth width))
    (isContinuation : Bool) :
    property (writePidColumnPlain w pid pidPad isContinuation) := by
  unfold writePidColumnPlain
  split
  · exact composes.bind (writeSpaces_composes composes (widths _ (Nat.sub_le _ _))) fun _ =>
      composes.put _
  · exact composes.bind (widths _ (Nat.le_refl _)) fun _ => composes.put _

variable {profile tables}

theorem writeRet_composes {ret : Int64}
    (lifted : property (WriteAction.lift (errnoOfRet profile tables ret)))
    (color dim : Bool) : property (writeRet profile tables palette w ret color dim) := by
  have styled : ∀ styling text, property (writeStyled palette w styling text) :=
    writeStyled_composes composes
  have plain : ∀ text, property (writeText w text) := fun text => composes.put text
  have pieces : ∀ texts, property (writePieces w texts) := fun texts => composes.putAll texts
  unfold writeRet
  refine composes.bind lifted ?_
  intro errno
  cases errno with
  | none =>
      cases dim <;> cases color
      · exact plain _
      · exact styled _ _
      · exact styled _ _
      · exact styled _ _
  | some pair =>
      have dimmed := composes.bind (styled .dimmed (toString ret.toInt)) fun _ =>
        composes.bind (plain " ") fun _ => composes.bind (styled .dimmed pair.1) fun _ =>
        composes.bind (plain " (") fun _ => composes.bind (styled .dimmed pair.2) fun _ => plain ")"
      cases dim <;> cases color
      · exact pieces _
      · exact composes.bind (styled _ _) fun _ => composes.bind (plain _) fun _ =>
          composes.bind (styled _ _) fun _ => pieces _
      · exact dimmed
      · exact dimmed

/-- A line is made of single writes, of what the return value resolves to, and of the widths
of its columns. -/
theorem writeLine_composes {item : Rendered} {cfg : PrettyConfig} {state : PrettyState}
    (lifted : property (WriteAction.lift (errnoOfRet profile tables item.event.ret)))
    (pidWidths : ∀ width ≤ (pidText item.event).utf8ByteSize + pidPad cfg item.event state,
      property (formatWidth width))
    (blanks : property (formatWidth (namePad cfg item.event state)))
    (name : cfg.color = false →
      property (formatWidth (item.event.syscallName.utf8ByteSize + namePad cfg item.event state))) :
    property (writeLine profile tables palette w item cfg state) := by
  have styled : ∀ styling text, property (writeStyled palette w styling text) :=
    writeStyled_composes composes
  have plain : ∀ text, property (writeText w text) := fun text => composes.put text
  have pieces : ∀ texts, property (writePieces w texts) := fun texts => composes.putAll texts
  have ret : ∀ color dim, property (writeRet profile tables palette w item.event.ret color dim) :=
    writeRet_composes composes lifted
  unfold writeLine
  cases mode : cfg.color with
  | true =>
      exact composes.bind (writePidColumnColor_composes composes pidWidths _) fun _ =>
        composes.bind (plain _) fun _ => composes.bind (styled _ _) fun _ =>
        composes.bind (writeSpaces_composes composes blanks) fun _ =>
        composes.bind (pieces _) fun _ => composes.bind (ret _ _) fun _ =>
        composes.bind (plain _) fun _ => composes.bind (styled _ _) fun _ => plain _
  | false =>
      exact composes.bind (writePidColumnPlain_composes composes pidWidths _) fun _ =>
        composes.bind (name mode) fun _ => composes.bind (pieces _) fun _ =>
        composes.bind (ret _ _) fun _ => pieces _

end Composes

variable (palette : Palette) (w : TextWriter Device WriteFailure)

theorem formatWidth_surfaces (width : Nat) :
    WriteAction.Surfaces .device
      (formatWidth width : WriteAction (Logged Device WriteFailure) IoError Unit) := by
  refine WriteAction.surfaces_lift fun error => ?_
  split <;> nofun

/-- The pretty formatter hands on every failure as it is. -/
theorem writeLine_surfaces (item : Rendered) (cfg : PrettyConfig) (state : PrettyState) :
    WriteAction.Surfaces .device
      (writeLine profile tables palette w.logged item cfg state) :=
  writeLine_composes (WriteAction.surfaces_composes w)
    (WriteAction.surfaces_lift (errnoOfRet_no_error profile tables item.event.ret))
    (fun width _ => formatWidth_surfaces width) (formatWidth_surfaces _)
    fun _ => formatWidth_surfaces _

theorem writeEvent_surfaced (item : Rendered) (cfg : PrettyConfig) (state : PrettyState)
    (logged : Logged Device WriteFailure) :
    WriteAction.Surfaced .device logged
      (writeEvent profile tables palette w.logged item cfg state logged).2.1
      (writeEvent profile tables palette w.logged item cfg state logged).2.2 := by
  have surfaced := writeLine_surfaces profile tables palette w item cfg state logged
  unfold writeEvent
  rcases written : writeLine profile tables palette w.logged item cfg state logged with
    ⟨after, outcome⟩
  rw [written] at surfaced
  cases outcome <;> exact surfaced

end Pretty

namespace Json

variable (serializer : Serializer) (w : TextWriter Device WriteFailure)

/-- What `to_writer` is given to write is taken whole, and the duration fits. -/
def Undisturbed (event : SyscallEvent) (decoded : DecodedCall) (device : Device) : Prop :=
  event.duration < 2 ^ 64 ∧
    ∀ errno, errnoOfRet profile tables event.ret = (.ok errno : Outcome IoError _) →
      w.Accepts device (serializer (eventObject event decoded errno))

theorem writeEvent_of_resolved {event : SyscallEvent} {errno : Option (String × String)}
    (fits : event.duration < 2 ^ 64)
    (resolved : errnoOfRet profile tables event.ret = (.ok errno : Outcome IoError _))
    (decoded : DecodedCall) (device : Device) :
    writeEvent profile tables serializer w event decoded device =
      WriteAction.bind (WriteAction.putAll w .serde (serializer (eventObject event decoded errno)))
        (fun _ => WriteAction.put w .device "\n") device := by
  unfold writeEvent
  rw [if_neg (Nat.not_le_of_gt fits), resolved]
  rfl

/-- Undisturbed, the JSON formatter hands on the one failure it can meet as it is. -/
theorem writeEvent_surfaced {event : SyscallEvent} {decoded : DecodedCall}
    {logged : Logged Device WriteFailure}
    (undisturbed : Undisturbed profile tables serializer w.logged event decoded logged) :
    WriteAction.Surfaced .device logged
      (writeEvent profile tables serializer w.logged event decoded logged).1
      (writeEvent profile tables serializer w.logged event decoded logged).2 := by
  obtain ⟨fits, accepts⟩ := undisturbed
  cases resolved : (errnoOfRet profile tables event.ret : Outcome IoError _) with
  | ok errno =>
      obtain ⟨after, taken, silent⟩ :=
        WriteAction.putAll_silent IoError.serde (accepts errno resolved)
      rw [writeEvent_of_resolved profile tables serializer w.logged fits resolved,
        WriteAction.bind, taken]
      have newline : WriteAction.Surfaced IoError.device after _ _ :=
        WriteAction.surfaces_put w "\n" after
      unfold WriteAction.Surfaced at newline ⊢
      rw [silent] at newline
      exact newline
  | err error => exact absurd resolved (errnoOfRet_no_error profile tables event.ret error)
  | panicked =>
      unfold writeEvent
      rw [if_neg (Nat.not_le_of_gt fits), resolved]
      trivial

/-- Disturbed, it turns what it meets into an error that is no failure of the writer
and is not of the kind of a closed pipe. -/
theorem writeEvent_disturbed {event : SyscallEvent} {decoded : DecodedCall} {device : Device}
    (disturbed : ¬ Undisturbed profile tables serializer w event decoded device) :
    ∃ error, (writeEvent profile tables serializer w event decoded device).2 = .err error ∧
      error.kind ≠ .brokenPipe ∧ ∀ failure, error ≠ .device failure := by
  unfold Undisturbed at disturbed
  by_cases fits : event.duration < 2 ^ 64
  · simp only [fits, true_and, not_forall] at disturbed
    obtain ⟨errno, resolved, refuses⟩ := disturbed
    obtain ⟨failure, refused⟩ := WriteAction.putAll_refused IoError.serde refuses
    rw [writeEvent_of_resolved profile tables serializer w fits resolved]
    unfold WriteAction.bind
    rcases written : WriteAction.putAll w IoError.serde
      (serializer (eventObject event decoded errno)) device with ⟨after, outcome⟩
    rw [written] at refused
    cases refused
    exact ⟨.serde failure, rfl, by simp [IoError.kind], by simp⟩
  · unfold writeEvent
    rw [if_pos (Nat.le_of_not_lt fits)]
    exact ⟨.duration, rfl, by simp [IoError.kind], by simp⟩

end Json

end Loi.Output
