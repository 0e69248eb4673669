import Loi.Output.Pretty

/-! The line that `pretty::write_event` writes, as a value: its tokens, and apart
from them the sequences that style them. -/

set_option autoImplicit false

namespace Loi.Output.Pretty

open Nix Foundation Loi.Core Syscalls

/-- A token of a line, or what the palette writes around one. -/
inductive Segment where
  | plain (text : String)
  | sgr (text : String)
  deriving DecidableEq, Repr

namespace Segment

def text : Segment → String
  | .plain text => text
  | .sgr text => text

def plainText : Segment → String
  | .plain text => text
  | .sgr _ => ""

def written (segments : List Segment) : String :=
  (segments.map text).foldr (· ++ ·) ""

def tokens (segments : List Segment) : String :=
  (segments.map plainText).foldr (· ++ ·) ""

@[simp] theorem written_nil : written [] = "" := rfl

@[simp] theorem written_cons (segment : Segment) (rest : List Segment) :
    written (segment :: rest) = segment.text ++ written rest := rfl

@[simp] theorem written_append (left right : List Segment) :
    written (left ++ right) = written left ++ written right := by
  induction left with
  | nil => simp
  | cons segment rest ih => simp [ih, String.append_assoc]

@[simp] theorem tokens_nil : tokens [] = "" := rfl

@[simp] theorem tokens_cons (segment : Segment) (rest : List Segment) :
    tokens (segment :: rest) = segment.plainText ++ tokens rest := rfl

@[simp] theorem tokens_append (left right : List Segment) :
    tokens (left ++ right) = tokens left ++ tokens right := by
  induction left with
  | nil => simp
  | cons segment rest ih => simp [ih, String.append_assoc]

end Segment

open Segment

section Widths

/-- The name has a width that `std` takes, as the name of every syscall has. -/
def NarrowName (event : SyscallEvent) : Prop :=
  event.syscallName.utf8ByteSize ≤ FORMAT_WIDTH_MAX

instance (event : SyscallEvent) : Decidable (NarrowName event) :=
  inferInstanceAs (Decidable (_ ≤ _))

/-- The columns so far have widths that `std` takes. -/
structure PrettyState.Narrow (state : PrettyState) : Prop where
  pid : state.pidWidth ≤ FORMAT_WIDTH_MAX
  name : state.nameWidth ≤ FORMAT_WIDTH_MAX

theorem PrettyState.narrow_new : PrettyState.new.Narrow :=
  ⟨Nat.zero_le _, Nat.zero_le _⟩

/-- What `std` is given to pad with: the plain mode formats the name into its column, the
color mode the blanks behind it. -/
def nameFormatWidth (cfg : PrettyConfig) (event : SyscallEvent) (state : PrettyState) : Nat :=
  if cfg.color then namePad cfg event state
  else event.syscallName.utf8ByteSize + namePad cfg event state

/-- Both columns of the line have a width that `std` takes. -/
structure Fits (cfg : PrettyConfig) (state : PrettyState) (event : SyscallEvent) : Prop where
  pid : (pidText event).utf8ByteSize + pidPad cfg event state ≤ FORMAT_WIDTH_MAX
  name : nameFormatWidth cfg event state ≤ FORMAT_WIDTH_MAX

theorem pidText_size (event : SyscallEvent) : (pidText event).utf8ByteSize ≤ FORMAT_WIDTH_MAX := by
  have bound : event.pid.toInt.natAbs < 10 ^ 10 := by
    have least := Int32.le_toInt event.pid
    have most := Int32.toInt_lt event.pid
    omega
  have digits := intToString_size (by decide) bound
  have left : "[".utf8ByteSize = 1 := rfl
  have right : "]".utf8ByteSize = 1 := rfl
  unfold pidText FORMAT_WIDTH_MAX
  rw [String.utf8ByteSize_append, String.utf8ByteSize_append, left, right]
  omega

@[simp] theorem remember_pidWidth (item : Rendered) (state : PrettyState) :
    (state.remember item).pidWidth = state.pidWidth := by
  unfold PrettyState.remember
  split <;> rfl

@[simp] theorem remember_nameWidth (item : Rendered) (state : PrettyState) :
    (state.remember item).nameWidth = state.nameWidth := by
  unfold PrettyState.remember
  split <;> rfl

variable {state : PrettyState}

theorem widen_pid (column : state.pidWidth ≤ FORMAT_WIDTH_MAX) (cfg : PrettyConfig)
    (event : SyscallEvent) : (state.widen cfg event).pidWidth ≤ FORMAT_WIDTH_MAX := by
  unfold PrettyState.widen
  split
  · exact Nat.max_le.mpr ⟨column, pidText_size event⟩
  · exact column

theorem PrettyState.Narrow.widen (narrow : state.Narrow) (cfg : PrettyConfig)
    {event : SyscallEvent} (named : NarrowName event) : (state.widen cfg event).Narrow := by
  refine ⟨widen_pid narrow.pid cfg event, ?_⟩
  unfold PrettyState.widen
  split
  · exact Nat.max_le.mpr ⟨narrow.name, named⟩
  · exact narrow.name

theorem PrettyState.Narrow.remember (narrow : state.Narrow) (item : Rendered) :
    (state.remember item).Narrow := by
  constructor
  · rw [remember_pidWidth]
    exact narrow.pid
  · rw [remember_nameWidth]
    exact narrow.name

/-- The columns stay so, whether or not the line comes out. -/
theorem PrettyState.Narrow.writeEvent {Device : Type} (narrow : state.Narrow) (profile : Profile)
    (tables : Tables) (palette : Palette) (w : TextWriter Device WriteFailure) {item : Rendered}
    (named : NarrowName item.event) (cfg : PrettyConfig) (device : Device) :
    (writeEvent profile tables palette w item cfg state device).1.Narrow := by
  have widened := narrow.widen cfg named
  unfold Pretty.writeEvent
  dsimp only
  split
  · exact widened.remember item
  · exact widened
  · exact widened

theorem fits_pid (column : state.pidWidth ≤ FORMAT_WIDTH_MAX) (cfg : PrettyConfig)
    (event : SyscallEvent) :
    (pidText event).utf8ByteSize + pidPad cfg event state ≤ FORMAT_WIDTH_MAX := by
  have own := pidText_size event
  unfold pidPad PrettyState.widen
  split
  · dsimp only
    omega
  · exact own

theorem PrettyState.Narrow.fits (narrow : state.Narrow) (cfg : PrettyConfig)
    {event : SyscallEvent} (named : NarrowName event) : Fits cfg state event := by
  constructor
  · exact fits_pid narrow.pid cfg event
  · have widened := (narrow.widen cfg named).name
    unfold NarrowName at named
    unfold nameFormatWidth namePad
    split <;> split <;> omega

theorem wide_of_not_narrowName {event : SyscallEvent} (wide : ¬ NarrowName event)
    {cfg : PrettyConfig} (plain : cfg.color = false) :
    ¬ nameFormatWidth cfg event state ≤ FORMAT_WIDTH_MAX := by
  rw [nameFormatWidth, plain, if_neg Bool.false_ne_true]
  exact fun fits => wide ((Nat.le_add_right _ _).trans fits)

theorem Fits.pad {cfg : PrettyConfig} {event : SyscallEvent} (fits : Fits cfg state event) :
    namePad cfg event state ≤ FORMAT_WIDTH_MAX := by
  have name := fits.name
  unfold nameFormatWidth at name
  split at name <;> omega

theorem Fits.plain {cfg : PrettyConfig} {event : SyscallEvent} (fits : Fits cfg state event)
    (plain : cfg.color = false) :
    event.syscallName.utf8ByteSize + namePad cfg event state ≤ FORMAT_WIDTH_MAX := by
  have name := fits.name
  rwa [nameFormatWidth, plain, if_neg Bool.false_ne_true] at name

end Widths

section Line

variable (profile : Profile) (tables : Tables) (palette : Palette)

def styled (styling : Styling) (text : String) : List Segment :=
  [.sgr (palette styling).1, .plain text, .sgr (palette styling).2]

/-- A token in the styling of the color mode, or as it is. -/
def token (color : Bool) (styling : Styling) (text : String) : List Segment :=
  if color then styled palette styling text else [.plain text]

def padding (n : Nat) : List Segment :=
  if n = 0 then [] else [.plain (spaces n)]

def pidSegments (color : Bool) (pid : String) (pidPad : Nat) (isContinuation : Bool) :
    List Segment :=
  if isContinuation then
    padding (pid.utf8ByteSize + pidPad - BURST_PREFIX.length) ++
      token palette color .dimmed BURST_PREFIX
  else if color then styled palette .dimmed pid ++ padding pidPad
  else [.plain (padRight pid (pid.utf8ByteSize + pidPad))]

def nameSegments (cfg : PrettyConfig) (style : Style) (name : String) (namePad : Nat) :
    List Segment :=
  if cfg.color then styled palette (.style style) name ++ padding namePad
  else [.plain (padRight name (name.utf8ByteSize + namePad))]

def retSegments (errno : Option (String × String)) (ret : Int64) (color dim : Bool) :
    List Segment :=
  match errno with
  | some (sym, desc) =>
      let styling := if dim then Styling.dimmed else .boldRed
      token palette (dim || color) styling (toString ret.toInt) ++ [.plain " "] ++
        token palette (dim || color) styling sym ++ [.plain " ("] ++
        token palette dim .dimmed desc ++ [.plain ")"]
  | none => token palette (dim || color) (if dim then .dimmed else .bold) (toString ret.toInt)

def lineSegments (item : Rendered) (cfg : PrettyConfig) (state : PrettyState)
    (errno : Option (String × String)) : List Segment :=
  pidSegments palette cfg.color (pidText item.event) (pidPad cfg item.event state)
      (isContinuation cfg item state) ++
    [.plain " "] ++
    nameSegments palette cfg (nameStyle cfg item.category (dimLine cfg item.event))
      item.event.syscallName (namePad cfg item.event state) ++
    [.plain ("(" ++ argsJoined item.decoded ++ ") = ")] ++
    retSegments palette errno item.event.ret cfg.color (dimLine cfg item.event) ++
    [.plain " "] ++
    token palette cfg.color (.style { dimmed := true, bold := false, color := none })
      (durationText tables item.event) ++
    [.plain "\n"]

/-- The pid column without its styling. -/
def pidColumn (color : Bool) (pid : String) (pidPad : Nat) (isContinuation : Bool) : String :=
  if isContinuation then
    spaces (pid.utf8ByteSize + pidPad - BURST_PREFIX.length) ++ BURST_PREFIX
  else if color then pid ++ spaces pidPad
  else padRight pid (pid.utf8ByteSize + pidPad)

def nameColumn (color : Bool) (name : String) (namePad : Nat) : String :=
  if color then name ++ spaces namePad else padRight name (name.utf8ByteSize + namePad)

def retText (errno : Option (String × String)) (ret : Int64) : String :=
  match errno with
  | some (sym, desc) => toString ret.toInt ++ " " ++ sym ++ " (" ++ desc ++ ")"
  | none => toString ret.toInt

/-- A line without its styling and its newline. -/
def lineBody (item : Rendered) (cfg : PrettyConfig) (state : PrettyState)
    (errno : Option (String × String)) : String :=
  pidColumn cfg.color (pidText item.event) (pidPad cfg item.event state)
      (isContinuation cfg item state) ++ " " ++
    nameColumn cfg.color item.event.syscallName (namePad cfg item.event state) ++
    "(" ++ argsJoined item.decoded ++ ") = " ++ retText errno item.event.ret ++ " " ++
    durationText tables item.event

@[simp] theorem tokens_styled (styling : Styling) (text : String) :
    tokens (styled palette styling text) = text := by
  simp [styled, Segment.plainText]

@[simp] theorem tokens_token (color : Bool) (styling : Styling) (text : String) :
    tokens (token palette color styling text) = text := by
  cases color <;> simp [token, Segment.plainText]

@[simp] theorem tokens_padding (n : Nat) : tokens (padding n) = spaces n := by
  unfold padding
  split
  · subst n
    rfl
  · simp [Segment.plainText]

theorem tokens_pidSegments (color : Bool) (pid : String) (pidPad : Nat) (isContinuation : Bool) :
    tokens (pidSegments palette color pid pidPad isContinuation) =
      pidColumn color pid pidPad isContinuation := by
  unfold pidSegments pidColumn
  split
  · simp
  · cases color <;> simp [Segment.plainText]

theorem tokens_nameSegments (cfg : PrettyConfig) (style : Style) (name : String) (namePad : Nat) :
    tokens (nameSegments palette cfg style name namePad) = nameColumn cfg.color name namePad := by
  unfold nameSegments nameColumn
  cases cfg.color <;> simp [Segment.plainText]

theorem tokens_retSegments (errno : Option (String × String)) (ret : Int64) (color dim : Bool) :
    tokens (retSegments palette errno ret color dim) = retText errno ret := by
  unfold retSegments retText
  cases errno with
  | none => simp
  | some pair =>
      obtain ⟨sym, desc⟩ := pair
      simp [Segment.plainText, String.append_assoc]

theorem tokens_lineSegments (item : Rendered) (cfg : PrettyConfig) (state : PrettyState)
    (errno : Option (String × String)) :
    tokens (lineSegments tables palette item cfg state errno) =
      lineBody tables item cfg state errno ++ "\n" := by
  simp [lineSegments, lineBody, tokens_pidSegments, tokens_nameSegments, tokens_retSegments,
    Segment.plainText, String.append_assoc]

def EmitsSegments (action : WriteAction String IoError Unit) (segments : List Segment) : Prop :=
  WriteAction.Emits action (written segments)

theorem EmitsSegments.andThen {first second : WriteAction String IoError Unit}
    {before after : List Segment} (emitsFirst : EmitsSegments first before)
    (emitsSecond : EmitsSegments second after) :
    EmitsSegments (first >>= fun _ => second) (before ++ after) := by
  rw [EmitsSegments, written_append]
  exact WriteAction.Emits.bind emitsFirst emitsSecond

theorem EmitsSegments.congr {action : WriteAction String IoError Unit}
    {segments other : List Segment}
    (emits : EmitsSegments action segments) (same : written segments = written other) :
    EmitsSegments action other := by
  rw [EmitsSegments, ← same]
  exact emits

theorem writeText_emits (text : String) :
    EmitsSegments (writeText (.collector WriteFailure) text) [.plain text] := by
  rw [EmitsSegments, written_cons, written_nil, String.append_empty]
  exact WriteAction.emits_put _ text

theorem writePieces_emits (pieces : List String) :
    EmitsSegments (writePieces (.collector WriteFailure) pieces)
      [.plain (pieces.foldr (· ++ ·) "")] := by
  rw [EmitsSegments, written_cons, written_nil, String.append_empty]
  exact WriteAction.emits_putAll _ pieces

theorem writeStyled_emits (styling : Styling) (text : String) :
    EmitsSegments (writeStyled palette (.collector WriteFailure) styling text)
      (styled palette styling text) :=
  ((writeText_emits _).andThen ((writeText_emits _).andThen (writeText_emits _))).congr rfl

theorem lift_bind {Device Value Next : Type} (value : Value)
    (next : Value → WriteAction Device IoError Next) :
    (WriteAction.lift (.ok value) >>= next) = next value := rfl

theorem formatWidth_bind {Device Next : Type} {width : Nat} (fits : width ≤ FORMAT_WIDTH_MAX)
    (next : Unit → WriteAction Device IoError Next) :
    (formatWidth width >>= next) = next () := by
  rw [formatWidth, if_pos fits, lift_bind]

theorem formatWidth_panicsAfter {Next : Type} {width : Nat} (wide : ¬ width ≤ FORMAT_WIDTH_MAX)
    (next : Unit → WriteAction String IoError Next) :
    WriteAction.PanicsAfter (formatWidth width >>= next) (written []) := by
  rw [formatWidth, if_neg wide]
  exact WriteAction.panicsAfter_lift next

theorem writeSpaces_emits {n : Nat} (fits : n ≤ FORMAT_WIDTH_MAX) :
    EmitsSegments (writeSpaces (.collector WriteFailure) n) (padding n) := by
  unfold writeSpaces padding
  split
  · exact WriteAction.emits_pure
  · rw [formatWidth_bind fits]
    exact writeText_emits _

theorem writePidColumnColor_emits {pid : String} {pidPad : Nat}
    (fits : pid.utf8ByteSize + pidPad ≤ FORMAT_WIDTH_MAX) (isContinuation : Bool) :
    EmitsSegments (writePidColumnColor palette (.collector WriteFailure) pid pidPad isContinuation)
      (pidSegments palette true pid pidPad isContinuation) := by
  unfold writePidColumnColor pidSegments
  split
  · exact (writeSpaces_emits ((Nat.sub_le _ _).trans fits)).andThen (writeStyled_emits palette _ _)
  · exact (writeStyled_emits palette _ _).andThen
      (writeSpaces_emits ((Nat.le_add_left _ _).trans fits))

theorem writePidColumnPlain_emits {pid : String} {pidPad : Nat}
    (fits : pid.utf8ByteSize + pidPad ≤ FORMAT_WIDTH_MAX) (isContinuation : Bool) :
    EmitsSegments (writePidColumnPlain (.collector WriteFailure) pid pidPad isContinuation)
      (pidSegments palette false pid pidPad isContinuation) := by
  unfold writePidColumnPlain pidSegments
  split
  · exact (writeSpaces_emits ((Nat.sub_le _ _).trans fits)).andThen (writeText_emits _)
  · rw [formatWidth_bind fits]
    exact writeText_emits _

theorem writeRet_emits {ret : Int64} {errno : Option (String × String)}
    (resolved : errnoOfRet profile tables ret = (.ok errno : Outcome IoError _))
    (color dim : Bool) :
    EmitsSegments (writeRet profile tables palette (.collector WriteFailure) ret color dim)
      (retSegments palette errno ret color dim) := by
  unfold writeRet retSegments
  rw [resolved, lift_bind]
  cases errno with
  | none =>
      cases dim <;> cases color
      · exact writeText_emits _
      · exact writeStyled_emits palette _ _
      · exact writeStyled_emits palette _ _
      · exact writeStyled_emits palette _ _
  | some pair =>
      rcases pair with ⟨sym, desc⟩
      have dimmed : EmitsSegments (do
          writeStyled palette (.collector WriteFailure) .dimmed (toString ret.toInt)
          writeText (.collector WriteFailure) " "
          writeStyled palette (.collector WriteFailure) .dimmed sym
          writeText (.collector WriteFailure) " ("
          writeStyled palette (.collector WriteFailure) .dimmed desc
          writeText (.collector WriteFailure) ")")
          (styled palette .dimmed (toString ret.toInt) ++ ([.plain " "] ++
            (styled palette .dimmed sym ++ ([.plain " ("] ++
              (styled palette .dimmed desc ++ [.plain ")"]))))) :=
        (writeStyled_emits palette _ _).andThen ((writeText_emits _).andThen
          ((writeStyled_emits palette _ _).andThen ((writeText_emits _).andThen
            ((writeStyled_emits palette _ _).andThen (writeText_emits _)))))
      cases dim <;> cases color
      · exact (writePieces_emits _).congr (by simp [token, Segment.text])
      · exact ((writeStyled_emits palette _ _).andThen ((writeText_emits _).andThen
          ((writeStyled_emits palette _ _).andThen (writePieces_emits _)))).congr
            (by simp [token, Segment.text])
      · exact dimmed.congr (by simp [token])
      · exact dimmed.congr (by simp [token])

/-- On a device that accepts everything a line is written as its segments. -/
theorem writeLine_emits {item : Rendered} {errno : Option (String × String)}
    (resolved : errnoOfRet profile tables item.event.ret = (.ok errno : Outcome IoError _))
    {cfg : PrettyConfig} {state : PrettyState} (fits : Fits cfg state item.event) :
    EmitsSegments (writeLine profile tables palette (.collector WriteFailure) item cfg state)
      (lineSegments tables palette item cfg state errno) := by
  unfold writeLine lineSegments
  cases color : cfg.color with
  | true =>
      have emits := (writePidColumnColor_emits palette fits.pid
        (isContinuation cfg item state)).andThen
        ((writeText_emits " ").andThen ((writeStyled_emits palette
          (.style (nameStyle cfg item.category (dimLine cfg item.event)))
          item.event.syscallName).andThen
          ((writeSpaces_emits fits.pad).andThen
          ((writePieces_emits ["(", argsJoined item.decoded, ") = "]).andThen
          ((writeRet_emits profile tables palette resolved true (dimLine cfg item.event)).andThen
          ((writeText_emits " ").andThen ((writeStyled_emits palette
            (.style { dimmed := true, bold := false, color := none })
            (durationText tables item.event)).andThen (writeText_emits "\n"))))))))
      exact emits.congr (by
        simp [nameSegments, token, color, Segment.text, String.append_assoc])
  | false =>
      have bright : dimLine cfg item.event = false := by
        simp [dimLine, color]
      have emits := (writePidColumnPlain_emits palette fits.pid
        (isContinuation cfg item state)).andThen
        ((writePieces_emits [" ", padRight item.event.syscallName
          (item.event.syscallName.utf8ByteSize + namePad cfg item.event state), "(",
          argsJoined item.decoded, ") = "]).andThen
        ((writeRet_emits profile tables palette resolved false false).andThen
          (writePieces_emits [" ", durationText tables item.event, "\n"])))
      simp only [Bool.false_eq_true, if_false, formatWidth_bind (fits.plain color)]
      exact emits.congr (by
        simp [nameSegments, token, color, bright, Segment.text, String.append_assoc])

theorem EmitsSegments.thenPanics {first second : WriteAction String IoError Unit}
    {before after : List Segment} (emits : EmitsSegments first before)
    (panics : WriteAction.PanicsAfter second (written after)) :
    WriteAction.PanicsAfter (first >>= fun _ => second) (written (before ++ after)) := by
  rw [written_append]
  exact WriteAction.Emits.bind_panicsAfter emits panics

theorem writeSpaces_panicsAfter {n : Nat} (wide : ¬ n ≤ FORMAT_WIDTH_MAX) :
    WriteAction.PanicsAfter (writeSpaces (.collector WriteFailure) n) (written []) := by
  unfold writeSpaces
  rw [if_neg (by omega)]
  exact formatWidth_panicsAfter wide _

/-- A name that is given too wide a column is found out behind the pid. -/
theorem writeLine_panics_wide {cfg : PrettyConfig} {state : PrettyState}
    (column : state.pidWidth ≤ FORMAT_WIDTH_MAX) {item : Rendered}
    (wide : ¬ nameFormatWidth cfg item.event state ≤ FORMAT_WIDTH_MAX) :
    WriteAction.AlwaysPanics
      (writeLine profile tables palette (.collector WriteFailure) item cfg state) := by
  have pid := fits_pid column cfg item.event
  unfold nameFormatWidth at wide
  unfold writeLine
  cases color : cfg.color with
  | true =>
      rw [if_pos color] at wide
      have stops := (writePidColumnColor_emits palette pid
        (isContinuation cfg item state)).thenPanics
        ((writeText_emits " ").thenPanics ((writeStyled_emits palette
          (.style (nameStyle cfg item.category (dimLine cfg item.event)))
          item.event.syscallName).thenPanics
        ((writeSpaces_panicsAfter wide).bind fun _ => do
          writePieces (.collector WriteFailure) ["(", argsJoined item.decoded, ") = "]
          writeRet profile tables palette (.collector WriteFailure) item.event.ret true
            (dimLine cfg item.event)
          writeText (.collector WriteFailure) " "
          writeStyled palette (.collector WriteFailure)
            (.style { dimmed := true, bold := false, color := none })
            (durationText tables item.event)
          writeText (.collector WriteFailure) "\n")))
      exact stops.alwaysPanics
  | false =>
      rw [color, if_neg Bool.false_ne_true] at wide
      have stops := (writePidColumnPlain_emits palette pid
        (isContinuation cfg item state)).thenPanics (formatWidth_panicsAfter wide fun _ => do
          writePieces (.collector WriteFailure) [" ", padRight item.event.syscallName
            (item.event.syscallName.utf8ByteSize + namePad cfg item.event state), "(",
            argsJoined item.decoded, ") = "]
          writeRet profile tables palette (.collector WriteFailure) item.event.ret false false
          writePieces (.collector WriteFailure) [" ", durationText tables item.event, "\n"])
      exact stops.alwaysPanics

theorem writeEvent_panics_wide {cfg : PrettyConfig} {state : PrettyState}
    (column : state.pidWidth ≤ FORMAT_WIDTH_MAX) {item : Rendered}
    (wide : ¬ nameFormatWidth cfg item.event state ≤ FORMAT_WIDTH_MAX) (written : String) :
    (writeEvent profile tables palette (.collector WriteFailure) item cfg state written).2.2 =
      .panicked := by
  have panicked := writeLine_panics_wide profile tables palette column wide written
  simp only [writeEvent, panicked]

end Line

end Loi.Output.Pretty
