import Loi.Foundation.Sgr
import Loi.Output.Runs

/-! The colored and the plain mode of the pretty formatter: what is left of a colored
line when its styling is deleted. -/

set_option autoImplicit false

namespace Loi.Output.Pretty

open Nix Foundation Loi.Core Syscalls Segment

/-- What `owo_colors` documents: styling adds sequences around a text. -/
def Palette.OnlySgr (palette : Palette) : Prop :=
  ∀ styling, SgrOnly (palette styling).1 ∧ SgrOnly (palette styling).2

def EscFree (text : String) : Prop :=
  AllChars (· ≠ ESC) text

instance (text : String) : Decidable (EscFree text) :=
  inferInstanceAs (Decidable (AllChars (· ≠ ESC) text))

/-- The names that are written as they are. -/
def Rendered.EscFreeNames (item : Rendered) : Prop :=
  ∀ name ∈ item.printedNames, EscFree name

instance (item : Rendered) : Decidable item.EscFreeNames :=
  List.decidableBAll _ _

theorem EscFree.not_mem {text : String} (free : EscFree text) : ESC ∉ text.toList :=
  fun member => free ESC member rfl

section Strip

variable {palette : Palette} {color : Bool}

/-- Deleting the sequences of a line leaves its tokens, if these have none. -/
theorem stripSgr_written (onlySgr : palette.OnlySgr) {segments : List Segment}
    (own : OwnSequences palette color segments) (free : EscFree (tokens segments)) :
    stripSgr (written segments) = tokens segments := by
  induction segments with
  | nil => rfl
  | cons segment rest ih =>
      have ownRest : OwnSequences palette color rest :=
        fun sequence member => own sequence (.tail _ member)
      obtain ⟨freeFirst, freeRest⟩ := allChars_append.mp (tokens_cons segment rest ▸ free)
      rw [written_cons, tokens_cons, ← ih ownRest freeRest]
      cases segment with
      | plain text => exact stripSgr_append_plain (EscFree.not_mem freeFirst) _
      | sgr sequence =>
          obtain ⟨_, styling, either⟩ := own sequence List.mem_cons_self
          have only : SgrOnly sequence := by
            rcases either with rfl | rfl
            · exact (onlySgr styling).1
            · exact (onlySgr styling).2
          rw [Segment.plainText, String.empty_append]
          exact stripSgr_append_sgr only _

end Strip

theorem LineCharacter.not_esc {item : Rendered} (names : item.EscFreeNames) {c : Char}
    (character : LineCharacter item c) : c ≠ ESC := by
  rcases character with printable | glyph | ⟨name, member, named⟩
  · intro esc
    subst esc
    revert printable
    decide
  · subst glyph
    decide
  · exact names name member c named

section Escape

variable {profile : Profile} {tables : Tables} {item : Rendered}

theorem escFree_headBody (names : item.EscFreeNames) (cfg : PrettyConfig) (state : PrettyState) :
    EscFree (headBody item cfg state) := by
  have head : AllChars (LineCharacter item) (headBody item cfg state) := by
    have blank : LineCharacter item ' ' := .inl (by decide)
    have constant : ∀ {text : String}, AllChars Printable text →
        AllChars (LineCharacter item) text :=
      fun all => all.imp fun c => lineCharacter_of_printable item
    simp only [headBody, allChars_append]
    exact ⟨⟨⟨⟨⟨allChars_pidColumn item _ _ _, constant (by decide)⟩,
      allChars_nameColumn item _ _⟩, constant (by decide)⟩, allChars_argsJoined item⟩,
      constant (by decide)⟩
  exact head.imp fun c => LineCharacter.not_esc names

theorem escFree_line (documented : tables.Documented) (names : item.EscFreeNames)
    {errno : Option (String × String)}
    (resolved : errnoOfRet profile tables item.event.ret = (.ok errno : Outcome IoError _))
    (cfg : PrettyConfig) (state : PrettyState) :
    EscFree (lineBody tables item cfg state errno ++ "\n") := by
  have body := allChars_lineBody documented resolved cfg state
  exact allChars_append.mpr ⟨body.imp fun c => LineCharacter.not_esc names, by decide⟩

theorem headBody_color (ascii : AllChars (fun c => c.toNat < 128) item.event.syscallName)
    (cfg : PrettyConfig) (state : PrettyState) :
    headBody item { cfg with color := false } state = headBody item cfg state := by
  unfold headBody
  rw [pidColumn_color item.event cfg.color, nameColumn_color ascii cfg.color]
  rfl

/-- What is left of a whole line. -/
theorem stripSgr_lineSegments {palette : Palette} (onlySgr : palette.OnlySgr)
    (documented : tables.Documented) (names : item.EscFreeNames)
    {errno : Option (String × String)}
    (resolved : errnoOfRet profile tables item.event.ret = (.ok errno : Outcome IoError _))
    (cfg : PrettyConfig) (state : PrettyState) :
    stripSgr (written (lineSegments tables palette item cfg state errno)) =
      lineBody tables item cfg state errno ++ "\n" := by
  have own : OwnSequences palette cfg.color (lineSegments tables palette item cfg state errno) :=
    ownSequences_lineSegments tables item cfg state errno
  have free := escFree_line documented names resolved cfg state
  rw [← tokens_lineSegments tables palette] at free ⊢
  exact stripSgr_written onlySgr own free

/-- What is left of a line that a panic cut off. -/
theorem stripSgr_headSegments {palette : Palette} (onlySgr : palette.OnlySgr)
    (names : item.EscFreeNames) (cfg : PrettyConfig) (state : PrettyState) :
    stripSgr (written (headSegments palette item cfg state)) = headBody item cfg state := by
  have own : OwnSequences palette cfg.color (headSegments palette item cfg state) :=
    ownSequences_headSegments palette item cfg state
  have free := escFree_headBody names cfg state
  rw [← tokens_headSegments palette] at free ⊢
  exact stripSgr_written onlySgr own free

end Escape

/-- A call with the styling of its text deleted. -/
def Call.stripped (call : Call) : Call :=
  { call with text := stripSgr call.text }

section Agree

variable {tables : Tables} {palette : Palette}

/-- One call leaves the same in both modes, but for the styling. -/
theorem call_stripped (profile : Profile) (documented : tables.Documented)
    (onlySgr : palette.OnlySgr) {item : Rendered}
    (ascii : AllChars (fun c => c.toNat < 128) item.event.syscallName)
    (names : item.EscFreeNames) (named : NarrowName item.event) (cfg : PrettyConfig)
    {state : PrettyState} (narrow : state.Narrow) :
    (call profile tables palette { cfg with color := true } state item).stripped =
      call profile tables palette { cfg with color := false } state item := by
  have plain : ({ cfg with color := false } : PrettyConfig).color = false := rfl
  by_cases negates : Negates profile item.event.ret
  · obtain ⟨errno, resolved⟩ :
        ∃ errno, errnoOfRet profile tables item.event.ret = (.ok errno : Outcome IoError _) :=
      errnoOfRet_ok negates tables
    rw [call_of_resolved tables palette _ resolved (narrow.fits _ named),
      call_of_resolved tables palette _ resolved (narrow.fits _ named), Call.stripped,
      stripSgr_lineSegments onlySgr documented names resolved,
      written_lineSegments tables palette item plain,
      ← lineBody_color tables ascii { cfg with color := true } state errno]
    rfl
  · rw [call_of_panics tables palette _ negates (narrow.fits _ named),
      call_of_panics tables palette _ negates (narrow.fits _ named), Call.stripped,
      stripSgr_headSegments onlySgr names, written_headSegments palette item plain,
      ← headBody_color ascii { cfg with color := true } state]
    rfl

/-- Deleting the styling of every line of a colored run gives the plain run: the same
states, lines and results, to the call that panics if one does. The names, and the columns of
the state that the run starts with, are no wider than `std` takes. -/
theorem calls_modes_agree (profile : Profile) (documented : tables.Documented)
    (onlySgr : palette.OnlySgr) {items : List Rendered}
    (ascii : ∀ item ∈ items, AllChars (fun c => c.toNat < 128) item.event.syscallName)
    (names : ∀ item ∈ items, item.EscFreeNames) (named : ∀ item ∈ items, NarrowName item.event)
    (cfg : PrettyConfig) (state : PrettyState) (narrow : state.Narrow) :
    (calls profile tables palette { cfg with color := true } state items).map Call.stripped =
      calls profile tables palette { cfg with color := false } state items := by
  induction items generalizing state with
  | nil => rfl
  | cons item rest ih =>
      have fits := fun cfg => narrow.fits cfg (named item List.mem_cons_self)
      have first := call_stripped profile documented onlySgr (ascii item List.mem_cons_self)
        (names item List.mem_cons_self) (named item List.mem_cons_self) cfg narrow
      have later := ih (fun other member => ascii other (.tail _ member))
        (fun other member => names other (.tail _ member))
        (fun other member => named other (.tail _ member)) _
        ((narrow.widen { cfg with color := true } (named item List.mem_cons_self)).remember item)
      by_cases negates : Negates profile item.event.ret
      · rw [calls_cons_of_negates _ _ _ negates (fits _),
          calls_cons_of_negates _ _ _ negates (fits _), List.map_cons, first, later]
        rfl
      · rw [calls_cons_of_panics _ _ _ negates (fits _),
          calls_cons_of_panics _ _ _ negates (fits _), List.map_cons, first, List.map_nil]

end Agree

theorem codes_parameters (style : Style) :
    (join ";" style.codes).toList.all isParameter = true := by
  obtain ⟨dimmed, bold, color⟩ := style
  cases dimmed <;> cases bold <;> rcases color with _ | color
  all_goals first | decide | cases color <;> decide

theorem ansiPalette_onlySgr : ansiPalette.OnlySgr := by
  intro styling
  have reset : IsSgr "\x1b[0m" := isSgr_of_parameters ['0'] (by decide) (by decide)
  have dimmed : IsSgr "\x1b[2m" := isSgr_of_parameters ['2'] (by decide) (by decide)
  have bold : IsSgr "\x1b[1m" := isSgr_of_parameters ['1'] (by decide) (by decide)
  have red : IsSgr "\x1b[31m" := isSgr_of_parameters ['3', '1'] (by decide) (by decide)
  have foreground : IsSgr "\x1b[39m" := isSgr_of_parameters ['3', '9'] (by decide) (by decide)
  cases styling with
  | dimmed => exact ⟨dimmed.sgrOnly, reset.sgrOnly⟩
  | bold => exact ⟨bold.sgrOnly, reset.sgrOnly⟩
  | boldRed => exact ⟨red.sgrOnly_append bold, reset.sgrOnly_append foreground⟩
  | style style =>
      unfold ansiPalette
      dsimp only
      split_ifs
      · exact ⟨⟨[], nofun, rfl⟩, ⟨[], nofun, rfl⟩⟩
      · have codes : IsSgr ("\x1b[" ++ join ";" style.codes ++ "m") := by
          refine isSgr_of_parameters (join ";" style.codes).toList (codes_parameters style) ?_
          rw [String.toList_append, String.toList_append]
          rfl
        exact ⟨codes.sgrOnly, reset.sgrOnly⟩

theorem calls_modes_agree_probing :
    (calls .dev someTables ansiPalette { PrettyConfig.new false with color := true } .new
        probingCalls).map Call.stripped =
      calls .dev someTables ansiPalette { PrettyConfig.new false with color := false } .new
        probingCalls :=
  calls_modes_agree .dev someTables_documented ansiPalette_onlySgr (by decide) (by decide)
    (by decide) (.new false) .new PrettyState.narrow_new

/-- A flag whose name is itself a sequence. -/
def stylingFlag : Rendered where
  event := { longCall.event with duration := 5 }
  decoded := { args := [("flags", .flags ["\x1b[31m"])], ret := 7 }
  category := none

/-- The first line of a run wants no blanks behind its name. -/
theorem fits_new {cfg : PrettyConfig} (colored : cfg.color = true) (event : SyscallEvent) :
    Fits cfg .new event := by
  refine ⟨fits_pid PrettyState.narrow_new.pid cfg event, ?_⟩
  rw [nameFormatWidth, if_pos colored, namePad]
  split
  · next aligned =>
      have widened : (PrettyState.new.widen cfg event).nameWidth =
          max 0 event.syscallName.utf8ByteSize := by
        rw [PrettyState.widen, if_pos aligned]
        rfl
      rw [widened, Nat.zero_max, Nat.sub_self]
      exact Nat.zero_le _
  · exact Nat.zero_le _

theorem wideCall_outcomes :
    (call .dev someTables ansiPalette (.new true) .new wideCall).outcome = .ok () ∧
      (call .dev someTables ansiPalette (.new false) .new wideCall).outcome = .panicked := by
  have negates : Negates .dev wideCall.event.ret := .inr (by decide)
  obtain ⟨errno, resolved⟩ : ∃ errno, errnoOfRet .dev someTables wideCall.event.ret =
      (.ok errno : Outcome IoError _) := errnoOfRet_ok negates someTables
  have colored : (PrettyConfig.new true).color = true := rfl
  have plain : (PrettyConfig.new false).color = false := rfl
  constructor
  · rw [call_of_resolved someTables ansiPalette _ resolved (fits_new colored _)]
  · exact call_of_wide someTables ansiPalette _ PrettyState.narrow_new.pid
      (wide_of_not_narrowName wideCall_wide plain)

/-- The plain mode pads a name to its length in bytes, and panics where that is more than
`std` takes, and the color mode does neither; and a flag's name is written as it is in
both. -/
theorem calls_modes_differ :
    ansiPalette.OnlySgr ∧
    EscFree accentedCall.event.syscallName ∧ EscFree stylingFlag.event.syscallName ∧
    (calls .dev someTables ansiPalette (.new true) .new [accentedCall]).map Call.stripped ≠
      calls .dev someTables ansiPalette (.new false) .new [accentedCall] ∧
    (calls .dev someTables ansiPalette (.new true) .new [stylingFlag]).map Call.stripped ≠
      calls .dev someTables ansiPalette (.new false) .new [stylingFlag] ∧
    EscFree wideCall.event.syscallName ∧
    (calls .dev someTables ansiPalette (.new true) .new [wideCall]).map Call.stripped ≠
      calls .dev someTables ansiPalette (.new false) .new [wideCall] := by
  refine ⟨ansiPalette_onlySgr, by decide, by decide, ?_, ?_, wideCall_name (by decide), ?_⟩
  · decide +kernel
  · decide +kernel
  · intro agree
    obtain ⟨colored, plain⟩ := wideCall_outcomes
    have first : ((calls .dev someTables ansiPalette (.new true) .new
        [wideCall]).map Call.stripped)[0]? = _ := congrArg (·[0]?) agree
    rw [List.getElem?_map, calls_head, calls_head, Option.map_some] at first
    have outcomes := congrArg Call.outcome (Option.some.inj first)
    rw [show ∀ call : Call, call.stripped.outcome = call.outcome from fun _ => rfl, colored,
      plain] at outcomes
    cases outcomes

end Loi.Output.Pretty
