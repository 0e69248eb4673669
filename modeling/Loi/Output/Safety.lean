import Loi.Output.Json
import Loi.Output.Line

/-! Tracee data forges neither lines nor terminal control sequences: what it puts
on a line of either format. -/

set_option autoImplicit false

namespace Loi.Output

open Nix Foundation Loi.Core Syscalls

/-- What `nix` and `std` document of the texts they render. -/
structure Tables.Documented (tables : Tables) : Prop where
  errno : ∀ code sym desc, tables.errno code = some (sym, desc) →
    AllChars Printable sym ∧ AllChars Printable desc
  fixed1 : ∀ nanos unit, AllChars Printable (tables.fixed1 nanos unit)

/-- The compact writer of `serde_json` escapes what is below the blank. -/
def Json.EscapesControls (serializer : Json.Serializer) : Prop :=
  ∀ value, ∀ piece ∈ serializer value, AllChars (fun c => 0x20 ≤ c.toNat) piece

/-- One newline, as the last character, after characters of the given kind. -/
def IsLine (character : Char → Prop) (text : String) : Prop :=
  ∃ body, text = body ++ "\n" ∧ '\n' ∉ body.toList ∧ AllChars character body

theorem IsLine.imp {character other : Char → Prop} {text : String} (line : IsLine character text)
    (weaker : ∀ c, character c → other c) : IsLine other text := by
  obtain ⟨body, ends, noNewline, all⟩ := line
  exact ⟨body, ends, noNewline, all.imp weaker⟩

theorem isLine_of_allChars {character : Char → Prop} {body : String}
    (notNewline : ∀ c, character c → c ≠ '\n') (all : AllChars character body) :
    IsLine character (body ++ "\n") := by
  refine ⟨body, rfl, ?_, all⟩
  intro member
  exact notNewline '\n' (all '\n' member) rfl

section Text

variable {character : Char → Prop} (printable : ∀ c, Printable c → character c)

include printable

theorem allChars_quoted (text : String) : AllChars character (quoted text) := by
  have quotes : AllChars Printable (quoted text) := by
    rw [quoted, allChars_append, allChars_append]
    exact ⟨⟨by decide, printable_escapeDefault text⟩, by decide⟩
  exact quotes.imp printable

/-- Every variant is rendered from escapes, numerals and constants, but for the
names of flags. -/
theorem allChars_renderArgText {arg : DecodedArg}
    (flags : ∀ names, arg = .flags names → ∀ name ∈ names, AllChars character name) :
    AllChars character (renderArgText arg) := by
  have constant : ∀ {text : String}, AllChars Printable text → AllChars character text :=
    fun all => all.imp printable
  cases arg with
  | path text => exact allChars_quoted printable text
  | fd fd =>
      cases fd with
      | atFdCwd => exact constant (by decide)
      | invalid => exact constant (by decide)
      | num n => exact constant (printable_intToString _)
  | flags names =>
      rw [renderArgText]
      split
      · exact constant (by decide)
      · exact allChars_join (constant (by decide)) (flags names rfl)
  | mode m =>
      exact allChars_append.mpr ⟨constant (by decide), constant (printable_numeral 8 _)⟩
  | int i => exact constant (printable_intToString _)
  | uint u => exact constant (printable_natToString _)
  | bytes inline total =>
      refine allChars_append.mpr ⟨allChars_quoted printable _, ?_⟩
      split
      · exact constant (by decide)
      · exact allChars_empty
  | hex n =>
      exact allChars_append.mpr ⟨constant (by decide), constant (printable_numeral 16 _)⟩
  | ptr n =>
      rw [renderArgText]
      split
      · exact constant (by decide)
      · exact allChars_append.mpr ⟨constant (by decide), constant (printable_numeral 16 _)⟩
  | argv entries =>
      have joined : AllChars character (join ", " (entries.map quoted)) := by
        refine allChars_join (constant (by decide)) ?_
        intro item member
        obtain ⟨entry, _, rfl⟩ := List.mem_map.mp member
        exact allChars_quoted printable entry
      exact allChars_append.mpr
        ⟨allChars_append.mpr ⟨constant (by decide), joined⟩, constant (by decide)⟩

end Text

theorem printable_fmtDuration {tables : Tables} (documented : tables.Documented) (nanos : Nat) :
    AllChars Printable (fmtDuration tables nanos) := by
  unfold fmtDuration
  split_ifs
  · exact allChars_append.mpr ⟨printable_natToString _, by decide⟩
  · exact allChars_append.mpr ⟨printable_natToString _, by decide⟩
  · exact allChars_append.mpr ⟨documented.fixed1 _ _, by decide⟩
  · exact allChars_append.mpr ⟨documented.fixed1 _ _, by decide⟩

theorem errnoOfRet_documented {Error : Type} {profile : Profile} {tables : Tables}
    (documented : tables.Documented) {ret : Int64} {sym desc : String}
    (resolved : errnoOfRet profile tables ret = (.ok (some (sym, desc)) : Outcome Error _)) :
    AllChars Printable sym ∧ AllChars Printable desc := by
  unfold errnoOfRet at resolved
  split_ifs at resolved
  · injection resolved with known
    cases known
  · injection resolved with known
    cases known
  · injection resolved with known
    exact documented.errno _ sym desc known

/-- The only value whose negation a checking build does not take. -/
def Negates (profile : Profile) (ret : Int64) : Prop :=
  profile.overflowChecks = false ∨ ret ≠ Int64.minValue

theorem errnoOfRet_ok {Error : Type} {profile : Profile} {ret : Int64}
    (negates : Negates profile ret) (tables : Tables) :
    ∃ errno, errnoOfRet profile tables ret = (.ok errno : Outcome Error _) := by
  unfold errnoOfRet
  split_ifs with nonnegative overflows
  · exact ⟨none, rfl⟩
  · rcases negates with unchecked | other
    · rw [unchecked] at overflows
      exact absurd overflows.1 Bool.false_ne_true
    · exact absurd overflows.2 other
  · exact ⟨none, rfl⟩
  · exact ⟨tables.errno (-ret).toInt32, rfl⟩

theorem errnoOfRet_panics {Error : Type} {profile : Profile} {ret : Int64}
    (panics : ¬ Negates profile ret) (tables : Tables) :
    errnoOfRet profile tables ret = (.panicked : Outcome Error _) := by
  unfold Negates at panics
  rw [not_or, Bool.not_eq_false, not_not] at panics
  obtain ⟨checked, least⟩ := panics
  subst least
  unfold errnoOfRet
  rw [if_neg (by decide), if_pos ⟨checked, rfl⟩]

namespace Pretty

def Rendered.printedNames (item : Rendered) : List String :=
  item.event.syscallName ::
    item.decoded.args.flatMap fun arg =>
      match arg.2 with
      | .flags names => names
      | _ => []

def Rendered.ControlFree (item : Rendered) : Prop :=
  ∀ name ∈ item.printedNames, AllChars (fun c => ¬ IsControl c) name

/-- A character that a line of this event may have: printable, the glyph, or one
of the static names. -/
def LineCharacter (item : Rendered) (c : Char) : Prop :=
  Printable c ∨ c = '↳' ∨ ∃ name ∈ item.printedNames, c ∈ name.toList

theorem lineCharacter_of_printable (item : Rendered) {c : Char} (printable : Printable c) :
    LineCharacter item c :=
  .inl printable

/-- With control-free names a line has no control character, so no newline of its
own and no `ESC`. -/
theorem LineCharacter.not_control {item : Rendered} (clean : item.ControlFree) {c : Char}
    (character : LineCharacter item c) : ¬ IsControl c := by
  rcases character with printable | glyph | ⟨name, member, named⟩
  · exact printable.not_control
  · subst glyph
    decide
  · exact clean name member c named

theorem LineCharacter.of_printable_names {item : Rendered}
    (names : ∀ name ∈ item.printedNames, AllChars Printable name) {c : Char}
    (character : LineCharacter item c) : Printable c ∨ c = '↳' := by
  rcases character with printable | glyph | ⟨name, member, named⟩
  · exact .inl printable
  · exact .inr glyph
  · exact .inl (names name member c named)

theorem allChars_argsJoined (item : Rendered) :
    AllChars (LineCharacter item) (argsJoined item.decoded) := by
  have comma : AllChars Printable ", " := by decide
  unfold argsJoined
  refine allChars_join (comma.imp fun c => lineCharacter_of_printable item) ?_
  · intro text member
    obtain ⟨arg, held, rfl⟩ := List.mem_map.mp member
    refine allChars_renderArgText (fun c => lineCharacter_of_printable item) ?_
    intro names isFlags name listed c named
    refine .inr (.inr ⟨name, .tail _ (List.mem_flatMap.mpr ⟨arg, held, ?_⟩), named⟩)
    rw [isFlags]
    exact listed

theorem printable_pidText (event : SyscallEvent) : AllChars Printable (pidText event) :=
  allChars_append.mpr ⟨allChars_append.mpr ⟨by decide, printable_intToString _⟩, by decide⟩

theorem allChars_pidColumn (item : Rendered) (color : Bool) (pidPad : Nat) (isContinuation : Bool) :
    AllChars (LineCharacter item)
      (pidColumn color (pidText item.event) pidPad isContinuation) := by
  have blank : LineCharacter item ' ' := .inl (by decide)
  have pid : AllChars (LineCharacter item) (pidText item.event) :=
    (printable_pidText item.event).imp fun c => lineCharacter_of_printable item
  unfold pidColumn
  split_ifs
  · refine allChars_append.mpr ⟨allChars_spaces blank _, ?_⟩
    intro c member
    have glyphOrBlank : AllChars (fun c => Printable c ∨ c = '↳') BURST_PREFIX := by decide
    rcases glyphOrBlank c member with printable | glyph
    · exact .inl printable
    · exact .inr (.inl glyph)
  · exact allChars_append.mpr ⟨pid, allChars_spaces blank _⟩
  · exact allChars_padRight blank pid _

theorem allChars_nameColumn (item : Rendered) (color : Bool) (namePad : Nat) :
    AllChars (LineCharacter item) (nameColumn color item.event.syscallName namePad) := by
  have blank : LineCharacter item ' ' := .inl (by decide)
  have name : AllChars (LineCharacter item) item.event.syscallName :=
    fun c named => .inr (.inr ⟨_, List.mem_cons_self, named⟩)
  unfold nameColumn
  split
  · exact allChars_append.mpr ⟨name, allChars_spaces blank _⟩
  · exact allChars_padRight blank name _

theorem printable_retText {profile : Profile} {tables : Tables} (documented : tables.Documented)
    {errno : Option (String × String)} {ret : Int64}
    (resolved : errnoOfRet profile tables ret = (.ok errno : Outcome IoError _)) :
    AllChars Printable (retText errno ret) := by
  cases errno with
  | none => exact printable_intToString _
  | some pair =>
      obtain ⟨sym, desc⟩ := pair
      obtain ⟨symbol, description⟩ := errnoOfRet_documented documented resolved
      simp only [retText, allChars_append]
      exact ⟨⟨⟨⟨⟨printable_intToString _, by decide⟩, symbol⟩, by decide⟩, description⟩, by decide⟩

theorem allChars_lineBody {profile : Profile} {tables : Tables} (documented : tables.Documented)
    {item : Rendered} {errno : Option (String × String)}
    (resolved : errnoOfRet profile tables item.event.ret = (.ok errno : Outcome IoError _))
    (cfg : PrettyConfig) (state : PrettyState) :
    AllChars (LineCharacter item) (lineBody tables item cfg state errno) := by
  have constant : ∀ {text : String}, AllChars Printable text → AllChars (LineCharacter item) text :=
    fun all => all.imp fun c => lineCharacter_of_printable item
  have duration : AllChars Printable (durationText tables item.event) :=
    allChars_append.mpr
      ⟨allChars_append.mpr ⟨by decide, printable_fmtDuration documented _⟩, by decide⟩
  simp only [lineBody, allChars_append]
  exact ⟨⟨⟨⟨⟨⟨⟨⟨allChars_pidColumn item _ _ _, constant (by decide)⟩,
    allChars_nameColumn item _ _⟩, constant (by decide)⟩, allChars_argsJoined item⟩,
    constant (by decide)⟩, constant (printable_retText documented resolved)⟩,
    constant (by decide)⟩, constant duration⟩

theorem pidColumn_color (event : SyscallEvent) (color : Bool) (pad : Nat)
    (isContinuation : Bool) :
    pidColumn color (pidText event) pad isContinuation =
      pidColumn false (pidText event) pad isContinuation := by
  have ascii : AllChars (fun c => c.toNat < 128) (pidText event) :=
    (printable_pidText event).imp fun c => Printable.ascii
  cases color <;> simp [pidColumn, padRight_of_ascii ascii]

theorem nameColumn_color {name : String} (ascii : AllChars (fun c => c.toNat < 128) name)
    (color : Bool) (pad : Nat) : nameColumn color name pad = nameColumn false name pad := by
  cases color <;> simp [nameColumn, padRight_of_ascii ascii]

theorem lineBody_color (tables : Tables) {item : Rendered}
    (ascii : AllChars (fun c => c.toNat < 128) item.event.syscallName) (cfg : PrettyConfig)
    (state : PrettyState) (errno : Option (String × String)) :
    lineBody tables item { cfg with color := false } state errno =
      lineBody tables item cfg state errno := by
  unfold lineBody
  rw [pidColumn_color item.event cfg.color, nameColumn_color ascii cfg.color]
  rfl

/-- Only the color mode adds anything to the tokens, and only what the palette has. -/
def OwnSequences (palette : Palette) (color : Bool) (segments : List Segment) : Prop :=
  ∀ sequence, .sgr sequence ∈ segments →
    color = true ∧ ∃ styling, sequence = (palette styling).1 ∨ sequence = (palette styling).2

section OwnSequences

variable {palette : Palette} {color : Bool}

@[simp] theorem ownSequences_append {left right : List Segment} :
    OwnSequences palette color (left ++ right) ↔
      OwnSequences palette color left ∧ OwnSequences palette color right := by
  constructor
  · intro own
    exact ⟨fun sequence member => own sequence (List.mem_append_left _ member),
      fun sequence member => own sequence (List.mem_append_right _ member)⟩
  · intro own sequence member
    exact (List.mem_append.mp member).elim (own.1 sequence) (own.2 sequence)

@[simp] theorem ownSequences_plain (text : String) :
    OwnSequences palette color [.plain text] := by
  intro sequence member
  simp at member

@[simp] theorem ownSequences_padding (n : Nat) : OwnSequences palette color (padding n) := by
  intro sequence member
  unfold padding at member
  split at member
  · cases member
  · simp at member

theorem ownSequences_styled (shown : color = true) (styling : Styling) (text : String) :
    OwnSequences palette color (styled palette styling text) := by
  intro sequence member
  exact ⟨shown, styling, by simpa [styled] using member⟩

theorem ownSequences_token {shown : Bool} (onlyColor : shown = true → color = true)
    (styling : Styling) (text : String) :
    OwnSequences palette color (token palette shown styling text) := by
  cases shown with
  | false => exact ownSequences_plain text
  | true => exact ownSequences_styled (onlyColor rfl) styling text

theorem ownSequences_lineSegments (tables : Tables) (item : Rendered) (cfg : PrettyConfig)
    (state : PrettyState) (errno : Option (String × String)) :
    OwnSequences palette cfg.color (lineSegments tables palette item cfg state errno) := by
  have dimmed : dimLine cfg item.event = true → cfg.color = true := by
    simp only [dimLine, Bool.and_eq_true]
    intro dim
    exact dim.1.1.2
  have pid : OwnSequences palette cfg.color (pidSegments palette cfg.color (pidText item.event)
      (pidPad cfg item.event state) (isContinuation cfg item state)) := by
    unfold pidSegments
    split_ifs with continued color
    · exact ownSequences_append.mpr ⟨ownSequences_padding _, ownSequences_token id _ _⟩
    · exact ownSequences_append.mpr ⟨ownSequences_styled color _ _, ownSequences_padding _⟩
    · exact ownSequences_plain _
  have name : OwnSequences palette cfg.color (nameSegments palette cfg
      (nameStyle cfg item.category (dimLine cfg item.event)) item.event.syscallName
      (namePad cfg item.event state)) := by
    unfold nameSegments
    split_ifs with color
    · exact ownSequences_append.mpr ⟨ownSequences_styled color _ _, ownSequences_padding _⟩
    · exact ownSequences_plain _
  have ret : OwnSequences palette cfg.color (retSegments palette errno item.event.ret cfg.color
      (dimLine cfg item.event)) := by
    have either : (dimLine cfg item.event || cfg.color) = true → cfg.color = true := by
      intro shown
      exact (Bool.or_eq_true_iff.mp shown).elim dimmed id
    unfold retSegments
    cases errno with
    | none => exact ownSequences_token either _ _
    | some pair =>
        simp only [ownSequences_append, ownSequences_plain, and_true]
        exact ⟨⟨ownSequences_token either _ _, ownSequences_token either _ _⟩,
          ownSequences_token dimmed _ _⟩
  simp only [lineSegments, ownSequences_append, ownSequences_plain, and_true]
  exact ⟨⟨⟨pid, name⟩, ret⟩, ownSequences_token id _ _⟩

theorem OwnSequences.written_eq_tokens {segments : List Segment}
    (own : OwnSequences palette false segments) :
    Segment.written segments = Segment.tokens segments := by
  induction segments with
  | nil => rfl
  | cons segment rest ih =>
      have later := ih fun sequence member => own sequence (.tail _ member)
      cases segment with
      | plain text => simp [Segment.text, Segment.plainText, later]
      | sgr sequence =>
          exact absurd (own sequence List.mem_cons_self).1 Bool.false_ne_true

end OwnSequences

/-- A plain line has nothing around its tokens. -/
theorem written_lineSegments (tables : Tables) (palette : Palette) (item : Rendered)
    {cfg : PrettyConfig} (plain : cfg.color = false) (state : PrettyState)
    (errno : Option (String × String)) :
    Segment.written (lineSegments tables palette item cfg state errno) =
      lineBody tables item cfg state errno ++ "\n" := by
  have own : OwnSequences palette cfg.color (lineSegments tables palette item cfg state errno) :=
    ownSequences_lineSegments tables item cfg state errno
  rw [plain] at own
  rw [own.written_eq_tokens, tokens_lineSegments]

theorem writeEvent_collector {profile : Profile} {tables : Tables} {item : Rendered}
    {errno : Option (String × String)}
    (resolved : errnoOfRet profile tables item.event.ret = (.ok errno : Outcome IoError _))
    (palette : Palette) {cfg : PrettyConfig} {state : PrettyState}
    (fits : Fits cfg state item.event) (written : String) :
    writeEvent profile tables palette (.collector WriteFailure) item cfg state written =
      ((state.widen cfg item.event).remember item,
        written ++ Segment.written (lineSegments tables palette item cfg state errno), .ok ()) := by
  unfold writeEvent
  rw [writeLine_emits profile tables palette resolved fits written]

theorem isLine_tokens {profile : Profile} {tables : Tables} (documented : tables.Documented)
    {item : Rendered} (clean : item.ControlFree) {errno : Option (String × String)}
    (resolved : errnoOfRet profile tables item.event.ret = (.ok errno : Outcome IoError _))
    (palette : Palette) (cfg : PrettyConfig) (state : PrettyState) :
    IsLine (fun c => LineCharacter item c ∧ ¬ IsControl c)
      (Segment.tokens (lineSegments tables palette item cfg state errno)) := by
  rw [tokens_lineSegments]
  apply isLine_of_allChars
  · intro c character newline
    subst newline
    exact character.2 (by decide)
  · intro c member
    have character := allChars_lineBody documented resolved cfg state c member
    exact ⟨character, character.not_control clean⟩

end Pretty

theorem Json.writeEvent_emits {profile : Profile} {tables : Tables} (serializer : Json.Serializer)
    {event : SyscallEvent} {errno : Option (String × String)}
    (resolved : errnoOfRet profile tables event.ret = (.ok errno : Outcome IoError _))
    (decoded : DecodedCall) (fits : event.duration < 2 ^ 64) (written : String) :
    Json.writeEvent profile tables serializer (.collector WriteFailure) event decoded written =
      (written ++ ((serializer (Json.eventObject event decoded errno)).foldr (· ++ ·) "" ++ "\n"),
        .ok ()) := by
  have emits : WriteAction.Emits
      (WriteAction.putAll (.collector WriteFailure) IoError.serde
          (serializer (Json.eventObject event decoded errno)) >>=
        fun _ => WriteAction.put (.collector WriteFailure) IoError.device "\n")
      ((serializer (Json.eventObject event decoded errno)).foldr (· ++ ·) "" ++ "\n") :=
    (WriteAction.emits_putAll _ _).bind (WriteAction.emits_put _ "\n")
  unfold Json.writeEvent
  rw [if_neg (Nat.not_le_of_gt fits), resolved]
  exact emits written

theorem Json.writeEvent_line {profile : Profile} (tables : Tables) {serializer : Json.Serializer}
    (escapes : Json.EscapesControls serializer) {event : SyscallEvent}
    (negates : Negates profile event.ret) (decoded : DecodedCall)
    (fits : event.duration < 2 ^ 64) (written : String) :
    ∃ line, Json.writeEvent profile tables serializer (.collector WriteFailure) event decoded
        written = (written ++ line, .ok ()) ∧
      IsLine (fun c => 0x20 ≤ c.toNat) line := by
  obtain ⟨errno, resolved⟩ :
      ∃ errno, errnoOfRet profile tables event.ret = (.ok errno : Outcome IoError _) :=
    errnoOfRet_ok negates tables
  refine ⟨_, Json.writeEvent_emits serializer resolved decoded fits written,
    isLine_of_allChars ?_ ?_⟩
  · intro c above newline
    subst newline
    revert above
    decide
  · exact allChars_foldr (escapes _)

/-- A duration beyond 64 bits of nanoseconds is refused before anything is written. -/
theorem Json.writeEvent_duration {Device : Type} (profile : Profile) (tables : Tables)
    (serializer : Json.Serializer) (w : TextWriter Device WriteFailure) {event : SyscallEvent}
    (decoded : DecodedCall) (exceeds : 2 ^ 64 ≤ event.duration) (device : Device) :
    Json.writeEvent profile tables serializer w event decoded device =
      (device, .err .duration) := by
  unfold Json.writeEvent
  rw [if_pos exceeds]
  rfl

open Pretty in
/-- Whatever the tracee's paths, arguments and buffers hold. A pretty line whose columns
`std` can pad has one newline, at its end, and no other control character; what is not
printable there is the glyph or comes from the names; the color mode adds the palette's
sequences and nothing else. A JSON line has one newline, at its end, unless the duration
is refused and nothing is written. -/
theorem writeEvent_safe {profile : Profile} {tables : Tables} {serializer : Json.Serializer}
    (documented : tables.Documented) (escapes : Json.EscapesControls serializer)
    {item : Rendered} (clean : item.ControlFree) (negates : Negates profile item.event.ret) :
    (∀ (palette : Palette) (cfg : PrettyConfig) (state : PrettyState) (written : String),
      NarrowName item.event → state.Narrow → ∃ segments,
        (Pretty.writeEvent profile tables palette (.collector WriteFailure) item cfg state
          written).2 = (written ++ Segment.written segments, .ok ()) ∧
        OwnSequences palette cfg.color segments ∧
        (cfg.color = false → Segment.written segments = Segment.tokens segments) ∧
        IsLine (fun c => LineCharacter item c ∧ ¬ IsControl c) (Segment.tokens segments) ∧
        ((∀ name ∈ item.printedNames, AllChars Printable name) →
          IsLine (fun c => Printable c ∨ c = '↳') (Segment.tokens segments) ∧
          (Pretty.writeEvent profile tables palette (.collector WriteFailure) item
            { cfg with color := false } state written).2 =
              (written ++ Segment.tokens segments, .ok ()))) ∧
    ∀ written,
      (item.event.duration < 2 ^ 64 →
        ∃ line, Json.writeEvent profile tables serializer (.collector WriteFailure) item.event
            item.decoded written = (written ++ line, .ok ()) ∧
          IsLine (fun c => 0x20 ≤ c.toNat) line) ∧
      (2 ^ 64 ≤ item.event.duration →
        Json.writeEvent profile tables serializer (.collector WriteFailure) item.event
          item.decoded written = (written, .err .duration)) := by
  obtain ⟨errno, resolved⟩ :
      ∃ errno, errnoOfRet profile tables item.event.ret = (.ok errno : Outcome IoError _) :=
    errnoOfRet_ok negates tables
  constructor
  · intro palette cfg state written named narrow
    have fits := fun cfg => narrow.fits cfg named
    have own : OwnSequences palette cfg.color (lineSegments tables palette item cfg state errno) :=
      ownSequences_lineSegments tables item cfg state errno
    have line := isLine_tokens documented clean resolved palette cfg state
    refine ⟨lineSegments tables palette item cfg state errno, ?_, own, ?_, line, ?_⟩
    · rw [writeEvent_collector resolved palette (fits cfg)]
    · intro plain
      rw [plain] at own
      exact own.written_eq_tokens
    · intro ascii
      constructor
      · exact line.imp fun c character => character.1.of_printable_names ascii
      · rw [writeEvent_collector resolved palette (fits _),
          written_lineSegments tables palette item rfl,
          tokens_lineSegments,
          lineBody_color tables ((ascii _ List.mem_cons_self).imp fun c => Printable.ascii)]
  · intro written
    exact ⟨fun fits => Json.writeEvent_line tables escapes negates item.decoded fits written,
      fun exceeds => Json.writeEvent_duration profile tables serializer _ item.decoded exceeds _⟩

def someTables : Tables where
  errno code :=
    if code = 2 then some ("ENOENT", "No such file or directory")
    else if code = 9 then some ("EBADF", "Bad file descriptor")
    else if code = 13 then some ("EACCES", "Permission denied")
    else none
  fixed1 nanos unit := toString (nanos / unit) ++ "." ++ toString (nanos % unit * 10 / unit)

def plainPalette : Pretty.Palette := fun _ => ("", "")

/-- A path that imitates the end of its line, another line, and a clear screen. -/
def forgingCall : Pretty.Rendered where
  event :=
    { pid := 7, syscallNr := 59, syscallName := "execve", args := Vector.replicate 6 0, ret := -2,
      duration := 5 }
  decoded :=
    { args := [("pathname", .path "x\") = 0 <5ns>\n[8] \x1b[2J"), ("argv", .argv ["\r", "\\"])],
      ret := -2 }
  category := some .process

def forgingRecord : Json.Serializer := fun _ =>
  ["\x7b\"args\":[\x7b\"name\":\"pathname\",\"value\":\"x\\\") = 0 <5ns>\\n[8] \\u001b[2J\"\x7d,",
    "\x7b\"name\":\"argv\",\"value\":[\"\\r\",\"\\\\\"]\x7d],\"duration\":5,",
    "\"errno_name\":\"ENOENT\",\"pid\":7,\"ret\":-2,\"syscall_name\":\"execve\",",
    "\"syscall_nr\":59\x7d"]

theorem someTables_documented : someTables.Documented := by
  constructor
  · intro code sym desc known
    unfold someTables at known
    dsimp only at known
    split_ifs at known <;> cases known <;> decide
  · intro nanos unit
    exact allChars_append.mpr
      ⟨allChars_append.mpr ⟨printable_natToString _, by decide⟩, printable_natToString _⟩

theorem forgingRecord_escapes : Json.EscapesControls forgingRecord := by
  intro value
  unfold forgingRecord
  decide +kernel

theorem forgingCall_controlFree : forgingCall.ControlFree := by
  intro name member
  revert name
  decide

example :
    (Pretty.writeEvent .dev someTables plainPalette (.collector WriteFailure) forgingCall
      (.new false) .new "").2.1 =
      "[7] execve(\"x\\\") = 0 <5ns>\\n[8] \\u\x7b1b\x7d[2J\", [\"\\r\", \"\\\\\"]) = -2 ENOENT " ++
      "(No such file or directory) <5ns>\n" := by
  decide +kernel

theorem writeEvent_safe_forgingCall :
    (∃ segments,
      (Pretty.writeEvent .dev someTables plainPalette (.collector WriteFailure) forgingCall
        (.new false) .new "").2 = ("" ++ Pretty.Segment.written segments, .ok ()) ∧
      IsLine (fun c => Printable c ∨ c = '↳') (Pretty.Segment.tokens segments)) ∧
    ∃ line, Json.writeEvent .dev someTables forgingRecord (.collector WriteFailure)
        forgingCall.event forgingCall.decoded "" = ("" ++ line, .ok ()) ∧
      IsLine (fun c => 0x20 ≤ c.toNat) line := by
  obtain ⟨pretty, json⟩ := writeEvent_safe someTables_documented forgingRecord_escapes
    forgingCall_controlFree (.inr (by decide) : Negates .dev forgingCall.event.ret)
  constructor
  · obtain ⟨segments, written, _, _, _, ascii⟩ :=
      pretty plainPalette (.new false) .new "" (by decide) Pretty.PrettyState.narrow_new
    exact ⟨segments, written, (ascii (by decide)).1⟩
  · exact (json "").1 (by decide)

def longCall : Pretty.Rendered where
  event :=
    { pid := 7, syscallNr := 39, syscallName := "getpid", args := Vector.replicate 6 0, ret := 7,
      duration := 2 ^ 64 }
  decoded := { args := [], ret := 7 }
  category := none

/-- A call whose name is free of control characters, but not ASCII. -/
def accentedCall : Pretty.Rendered where
  event := { longCall.event with syscallName := "é", duration := 5 }
  decoded := longCall.decoded
  category := none

/-- A call whose name is wider than `std` pads. -/
def wideCall : Pretty.Rendered where
  event :=
    { longCall.event with syscallName := String.ofList (List.replicate 65536 'a'), duration := 5 }
  decoded := longCall.decoded
  category := none

theorem wideCall_name {predicate : Char → Prop} (letter : predicate 'a') :
    AllChars predicate wideCall.event.syscallName :=
  allChars_ofList.mpr fun _ member => List.eq_of_mem_replicate member ▸ letter

theorem wideCall_wide : ¬ Pretty.NarrowName wideCall.event := by
  have length : wideCall.event.syscallName.length = 65536 :=
    String.length_ofList.trans List.length_replicate
  unfold Pretty.NarrowName FORMAT_WIDTH_MAX
  rw [utf8ByteSize_of_ascii (wideCall_name (by decide)), length]
  decide

/-- The record of a duration that does not fit is not written, and a name is
written as it is, if `std` can pad it. -/
theorem writeEvent_unsafe :
    (longCall.ControlFree ∧
      Json.writeEvent .dev someTables forgingRecord (.collector WriteFailure) longCall.event
        longCall.decoded "" = ("", .err .duration) ∧
      ¬ IsLine (fun _ => True) "") ∧
    (accentedCall.ControlFree ∧
      (Pretty.writeEvent .dev someTables plainPalette (.collector WriteFailure) accentedCall
        (.new false) .new "").2 = ("[7] é () = 7 <5ns>\n", .ok ()) ∧
      ¬ IsLine (fun c => Printable c ∨ c = '↳') "[7] é () = 7 <5ns>\n") ∧
    wideCall.ControlFree ∧
      (Pretty.writeEvent .dev someTables plainPalette (.collector WriteFailure) wideCall
        (.new false) .new "").2.2 = .panicked := by
  have long : longCall.ControlFree := by
    intro name member
    revert name
    decide
  have accented : accentedCall.ControlFree := by
    intro name member
    revert name
    decide
  have wide : wideCall.ControlFree := by
    have names : wideCall.printedNames = [wideCall.event.syscallName] := rfl
    unfold Pretty.Rendered.ControlFree
    rw [names, List.forall_mem_singleton]
    exact wideCall_name (by decide)
  have panics := Pretty.writeEvent_panics_wide .dev someTables plainPalette
    Pretty.PrettyState.narrow_new.pid
    (Pretty.wide_of_not_narrowName wideCall_wide (rfl : (Pretty.PrettyConfig.new false).color = _))
    ""
  refine ⟨⟨long, ?_, ?_⟩, ⟨accented, by decide +kernel, ?_⟩, wide, panics⟩
  · exact Json.writeEvent_duration _ _ _ _ _ (Nat.le_refl _) _
  · intro line
    obtain ⟨body, ends, _⟩ := line
    have newline : '\n' ∈ (body ++ "\n").toList := by simp
    rw [← ends] at newline
    simp at newline
  · intro line
    obtain ⟨body, ends, _, all⟩ := line
    have accent : 'é' ∈ body.toList := by
      have everywhere : 'é' ∈ (body ++ "\n").toList := by
        rw [← ends]
        decide
      simpa using everywhere
    have printable := all 'é' accent
    revert printable
    decide

end Loi.Output
