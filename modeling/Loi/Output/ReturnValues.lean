import Loi.Filter
import Loi.Output.Failures
import Loi.Output.Runs

/-! Return values of any size: what the two formatters and the `--fail` gate make of
them. -/

set_option autoImplicit false

namespace Loi.Output

open Nix Foundation Loi.Core Syscalls

section Resolve

variable {profile : Profile} {tables : Tables} {ret : Int64}

end Resolve

theorem Json.writeEvent_neverPanics {Device : Type} {profile : Profile} {tables : Tables}
    {event : SyscallEvent} {errno : Option (String × String)}
    (resolved : errnoOfRet profile tables event.ret = (.ok errno : Outcome IoError _))
    (serializer : Json.Serializer) (w : TextWriter Device WriteFailure) (decoded : DecodedCall) :
    WriteAction.NeverPanics (Json.writeEvent profile tables serializer w event decoded) := by
  unfold Json.writeEvent
  rw [resolved]
  split
  · exact fun _ => nofun
  · have composes := WriteAction.neverPanics_composes w IoError.serde
    refine composes.bind (WriteAction.neverPanics_lift_ok errno) fun errno => ?_
    exact composes.bind (composes.putAll _) fun _ =>
      (WriteAction.neverPanics_composes w IoError.device).put "\n"

theorem Pretty.writeEvent_neverPanics {Device : Type} {profile : Profile} {tables : Tables}
    {item : Pretty.Rendered} {errno : Option (String × String)}
    (resolved : errnoOfRet profile tables item.event.ret = (.ok errno : Outcome IoError _))
    (palette : Pretty.Palette) (w : TextWriter Device WriteFailure) {cfg : Pretty.PrettyConfig}
    {state : Pretty.PrettyState} (fits : Pretty.Fits cfg state item.event) (device : Device) :
    (Pretty.writeEvent profile tables palette w item cfg state device).2.2 ≠ .panicked := by
  have lifted : WriteAction.NeverPanics
      (WriteAction.lift (errnoOfRet profile tables item.event.ret) :
        WriteAction Device IoError _) := by
    rw [resolved]
    exact WriteAction.neverPanics_lift_ok errno
  have widths : ∀ {width : Nat}, width ≤ FORMAT_WIDTH_MAX →
      WriteAction.NeverPanics (Pretty.formatWidth width : WriteAction Device IoError Unit) := by
    intro width within
    rw [Pretty.formatWidth, if_pos within]
    exact WriteAction.neverPanics_lift_ok ()
  have returns : (Pretty.writeLine profile tables palette w item cfg state device).2 ≠
      .panicked :=
    Pretty.writeLine_composes (WriteAction.neverPanics_composes w IoError.device) lifted
      (fun _ within => widths (within.trans fits.pid)) (widths fits.pad)
      (fun plain => widths (fits.plain plain)) device
  unfold Pretty.writeEvent
  rcases written : Pretty.writeLine profile tables palette w item cfg state device with
    ⟨after, outcome⟩
  rw [written] at returns
  cases outcome with
  | ok value =>
      intro panicked
      cases panicked
  | err error =>
      intro panicked
      cases panicked
  | panicked => exact absurd rfl returns

end Loi.Output
