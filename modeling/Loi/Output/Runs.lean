import Loi.Output.Safety

/-! Successive calls of `pretty::write_event` with one state: what each call writes
and what state it leaves, also when it panics half-way. -/

set_option autoImplicit false

namespace Loi.Output.Pretty

open Nix Foundation Loi.Core Syscalls Segment

section Head

variable (profile : Profile) (tables : Tables) (palette : Palette)

/-- A line up to its return value. -/
def headSegments (item : Rendered) (cfg : PrettyConfig) (state : PrettyState) : List Segment :=
  pidSegments palette cfg.color (pidText item.event) (pidPad cfg item.event state)
      (isContinuation cfg item state) ++
    [.plain " "] ++
    nameSegments palette cfg (nameStyle cfg item.category (dimLine cfg item.event))
      item.event.syscallName (namePad cfg item.event state) ++
    [.plain ("(" ++ argsJoined item.decoded ++ ") = ")]

/-- A line from its return value on. -/
def tailSegments (item : Rendered) (cfg : PrettyConfig) (errno : Option (String × String)) :
    List Segment :=
  retSegments palette errno item.event.ret cfg.color (dimLine cfg item.event) ++
    [.plain " "] ++
    token palette cfg.color (.style { dimmed := true, bold := false, color := none })
      (durationText tables item.event) ++
    [.plain "\n"]

theorem lineSegments_eq (item : Rendered) (cfg : PrettyConfig) (state : PrettyState)
    (errno : Option (String × String)) :
    lineSegments tables palette item cfg state errno =
      headSegments palette item cfg state ++ tailSegments tables palette item cfg errno := by
  simp [lineSegments, headSegments, tailSegments]

def headBody (item : Rendered) (cfg : PrettyConfig) (state : PrettyState) : String :=
  pidColumn cfg.color (pidText item.event) (pidPad cfg item.event state)
      (isContinuation cfg item state) ++ " " ++
    nameColumn cfg.color item.event.syscallName (namePad cfg item.event state) ++
    "(" ++ argsJoined item.decoded ++ ") = "

theorem tokens_headSegments (item : Rendered) (cfg : PrettyConfig) (state : PrettyState) :
    tokens (headSegments palette item cfg state) = headBody item cfg state := by
  simp [headSegments, headBody, tokens_pidSegments, tokens_nameSegments, Segment.plainText,
    String.append_assoc]

theorem ownSequences_headSegments (item : Rendered) (cfg : PrettyConfig)
    (state : PrettyState) :
    OwnSequences palette cfg.color (headSegments palette item cfg state) := by
  have own : OwnSequences palette cfg.color (lineSegments someTables palette item cfg state none) :=
    ownSequences_lineSegments someTables item cfg state none
  rw [lineSegments_eq] at own
  exact (ownSequences_append.mp own).1

theorem written_headSegments (item : Rendered) {cfg : PrettyConfig} (plain : cfg.color = false)
    (state : PrettyState) :
    written (headSegments palette item cfg state) = headBody item cfg state := by
  have own : OwnSequences palette cfg.color (headSegments palette item cfg state) :=
    ownSequences_headSegments palette item cfg state
  rw [plain] at own
  rw [own.written_eq_tokens, tokens_headSegments]

variable {profile}

theorem writeRet_panicsAfter {ret : Int64} (panics : ¬ Negates profile ret) (color dim : Bool) :
    WriteAction.PanicsAfter
      (writeRet profile tables palette (.collector WriteFailure) ret color dim) (written []) := by
  unfold writeRet
  rw [errnoOfRet_panics panics tables]
  exact WriteAction.panicsAfter_lift _

/-- A return value that cannot be negated is found out in the middle of the line. -/
theorem writeLine_panicsAfter {item : Rendered} (panics : ¬ Negates profile item.event.ret)
    {cfg : PrettyConfig} {state : PrettyState} (fits : Fits cfg state item.event) :
    WriteAction.PanicsAfter
      (writeLine profile tables palette (.collector WriteFailure) item cfg state)
      (written (headSegments palette item cfg state)) := by
  have ret := writeRet_panicsAfter tables palette panics
  unfold writeLine headSegments
  cases color : cfg.color with
  | true =>
      have stops := (writePidColumnColor_emits palette fits.pid
        (isContinuation cfg item state)).thenPanics
        ((writeText_emits " ").thenPanics ((writeStyled_emits palette
          (.style (nameStyle cfg item.category (dimLine cfg item.event)))
          item.event.syscallName).thenPanics
        ((writeSpaces_emits fits.pad).thenPanics
        ((writePieces_emits ["(", argsJoined item.decoded, ") = "]).thenPanics
          ((ret true (dimLine cfg item.event)).bind fun _ => do
            writeText (.collector WriteFailure) " "
            writeStyled palette (.collector WriteFailure)
              (.style { dimmed := true, bold := false, color := none })
              (durationText tables item.event)
            writeText (.collector WriteFailure) "\n")))))
      refine stops.congr ?_
      simp [nameSegments, color, Segment.text, String.append_assoc]
  | false =>
      have stops := (writePidColumnPlain_emits palette fits.pid
        (isContinuation cfg item state)).thenPanics
        ((writePieces_emits [" ", padRight item.event.syscallName
          (item.event.syscallName.utf8ByteSize + namePad cfg item.event state), "(",
          argsJoined item.decoded, ") = "]).thenPanics
          ((ret false false).bind fun _ =>
            writePieces (.collector WriteFailure) [" ", durationText tables item.event, "\n"]))
      simp only [Bool.false_eq_true, if_false, formatWidth_bind (fits.plain color)]
      refine stops.congr ?_
      simp [nameSegments, color, Segment.text, String.append_assoc]

end Head

/-- What one call of `write_event` leaves: its state, the text it wrote and its result. -/
structure Call where
  state : PrettyState
  text : String
  outcome : Outcome IoError Unit
  deriving DecidableEq, Repr

section Calls

variable (profile : Profile) (tables : Tables) (palette : Palette) (cfg : PrettyConfig)

def call (state : PrettyState) (item : Rendered) : Call :=
  let left := writeEvent profile tables palette (.collector WriteFailure) item cfg state ""
  { state := left.1, text := left.2.1, outcome := left.2.2 }

/-- The calls of a run, up to the first that does not return. -/
def calls : PrettyState → List Rendered → List Call
  | _, [] => []
  | state, item :: rest =>
      let first := call profile tables palette cfg state item
      match first.outcome with
      | .ok () => first :: calls first.state rest
      | .err _ | .panicked => [first]

/-- The texts of some calls, one after the other. -/
def textOf (calls : List Call) : String :=
  (calls.map Call.text).foldr (· ++ ·) ""

variable {profile}

theorem call_of_resolved {item : Rendered} {errno : Option (String × String)}
    (resolved : errnoOfRet profile tables item.event.ret = (.ok errno : Outcome IoError _))
    {state : PrettyState} (fits : Fits cfg state item.event) :
    call profile tables palette cfg state item =
      { state := (state.widen cfg item.event).remember item
        text := written (lineSegments tables palette item cfg state errno)
        outcome := .ok () } := by
  unfold call
  rw [writeEvent_collector resolved palette fits, String.empty_append]

theorem call_of_panics {item : Rendered} (panics : ¬ Negates profile item.event.ret)
    {state : PrettyState} (fits : Fits cfg state item.event) :
    call profile tables palette cfg state item =
      { state := state.widen cfg item.event
        text := written (headSegments palette item cfg state)
        outcome := .panicked } := by
  unfold call writeEvent
  rw [writeLine_panicsAfter tables palette panics fits "", String.empty_append]

theorem calls_head (state : PrettyState) (item : Rendered) (rest : List Rendered) :
    (calls profile tables palette cfg state (item :: rest))[0]? =
      some (call profile tables palette cfg state item) := by
  rw [calls]
  split <;> rfl

theorem call_of_wide {state : PrettyState} (column : state.pidWidth ≤ FORMAT_WIDTH_MAX)
    {item : Rendered} (wide : ¬ nameFormatWidth cfg item.event state ≤ FORMAT_WIDTH_MAX) :
    (call profile tables palette cfg state item).outcome = .panicked := by
  have panicked := writeLine_panics_wide profile tables palette column wide ""
  unfold call writeEvent
  simp only [panicked]

theorem calls_cons_of_wide {state : PrettyState} (column : state.pidWidth ≤ FORMAT_WIDTH_MAX)
    {item : Rendered} (wide : ¬ nameFormatWidth cfg item.event state ≤ FORMAT_WIDTH_MAX)
    (rest : List Rendered) :
    calls profile tables palette cfg state (item :: rest) =
      [call profile tables palette cfg state item] := by
  rw [calls, call_of_wide tables palette cfg column wide]

theorem calls_cons_of_negates {item : Rendered} (negates : Negates profile item.event.ret)
    {state : PrettyState} (fits : Fits cfg state item.event) (rest : List Rendered) :
    calls profile tables palette cfg state (item :: rest) =
      call profile tables palette cfg state item ::
        calls profile tables palette cfg ((state.widen cfg item.event).remember item) rest := by
  obtain ⟨errno, resolved⟩ :
      ∃ errno, errnoOfRet profile tables item.event.ret = (.ok errno : Outcome IoError _) :=
    errnoOfRet_ok negates tables
  rw [calls, call_of_resolved tables palette cfg resolved fits]

theorem calls_cons_of_panics {item : Rendered} (panics : ¬ Negates profile item.event.ret)
    {state : PrettyState} (fits : Fits cfg state item.event) (rest : List Rendered) :
    calls profile tables palette cfg state (item :: rest) =
      [call profile tables palette cfg state item] := by
  rw [calls, call_of_panics tables palette cfg panics fits]

end Calls

def Color.code : Color → String
  | .yellow => "33"
  | .blue => "34"
  | .magenta => "35"
  | .cyan => "36"

def Style.codes (style : Style) : List String :=
  (style.color.map Color.code).toList ++ (if style.bold then ["1"] else []) ++
    if style.dimmed then ["2"] else []

/-- A combinator wraps what it is called on, a `Style` has one sequence for all of it. -/
def ansiPalette : Palette := fun styling =>
  match styling with
  | .dimmed => ("\x1b[2m", "\x1b[0m")
  | .bold => ("\x1b[1m", "\x1b[0m")
  | .boldRed => ("\x1b[31m\x1b[1m", "\x1b[0m\x1b[39m")
  | .style style =>
      if style.codes = [] then ("", "") else ("\x1b[" ++ join ";" style.codes ++ "m", "\x1b[0m")

/-- A lookup that fails, and its continuation. -/
def probingCalls : List Rendered :=
  [{ event :=
      { pid := 7, syscallNr := 257, syscallName := "openat", args := Vector.replicate 6 0,
        ret := -2, duration := 5 }
     decoded :=
      { args := [("pathname", .path "/lib/a"), ("flags", .flags ["O_RDONLY"])], ret := -2 }
     category := some .file },
   { event :=
      { pid := 7, syscallNr := 257, syscallName := "openat", args := Vector.replicate 6 0,
        ret := 3, duration := 5 }
     decoded :=
      { args := [("pathname", .path "/usr/lib/a"), ("flags", .flags ["O_RDONLY"])], ret := 3 }
     category := some .file }]

end Loi.Output.Pretty
