import Mathlib.Data.List.Induction
import Loi.Output.Runs

/-! Bursts of lookups: which process a line with the burst prefix belongs to, by the
lines themselves. -/

set_option autoImplicit false

namespace Loi.Output.Pretty

open Nix Foundation Loi.Core Syscalls

section Columns

variable (palette : Palette) (color : Bool)

/-- `text.dimmed()` in the color mode, and else the text. -/
def dimmed (text : String) : String :=
  Segment.written (token palette color .dimmed text)

def CarriesBurst (line : String) : Prop :=
  ∃ lead rest, line = spaces lead ++ dimmed palette color BURST_PREFIX ++ rest

def CarriesBracket (pid : Pid) (line : String) : Prop :=
  ∃ rest, line = dimmed palette color ("[" ++ toString pid.toInt ++ "]") ++ rest

variable {palette color}

private theorem dimmed_around :
    ∃ before after, ∀ text, dimmed palette color text = before ++ text ++ after := by
  cases color with
  | false => exact ⟨"", "", fun text => by simp [dimmed, token, Segment.text]⟩
  | true =>
      exact ⟨(palette .dimmed).1, (palette .dimmed).2,
        fun text => by simp [dimmed, token, styled, Segment.text, String.append_assoc]⟩

theorem CarriesBurst.not_bracket {line : String} (burst : CarriesBurst palette color line)
    (pid : Pid) : ¬ CarriesBracket palette color pid line := by
  intro bracket
  obtain ⟨lead, rest, shown⟩ := burst
  obtain ⟨rest', shown'⟩ := bracket
  obtain ⟨before, after, around⟩ :
      ∃ before after, ∀ text, dimmed palette color text = before ++ text ++ after := dimmed_around
  rw [shown, around, around] at shown'
  have characters := congrArg String.toList shown'
  simp only [spaces, BURST_PREFIX, String.toList_append, String.toList_ofList,
    List.append_assoc] at characters
  exact shifted_ne (by decide) (by decide) lead characters

private theorem bracket_not_mem (pid : Pid) : ']' ∉ (toString pid.toInt).toList := by
  have other : AllChars (· ≠ ']') (toString pid.toInt) := by
    refine allChars_intToString ?_ (by decide) _
    intro c digit bracket
    subst bracket
    revert digit
    decide
  intro member
  exact other ']' member rfl

theorem CarriesBracket.unique {line : String} {pid other : Pid}
    (bracket : CarriesBracket palette color pid line)
    (bracket' : CarriesBracket palette color other line) : pid = other := by
  obtain ⟨rest, shown⟩ := bracket
  obtain ⟨rest', shown'⟩ := bracket'
  obtain ⟨before, after, around⟩ :
      ∃ before after, ∀ text, dimmed palette color text = before ++ text ++ after := dimmed_around
  rw [shown, around, around] at shown'
  have characters := congrArg String.toList shown'
  simp only [String.toList_append, List.append_assoc, List.append_cancel_left_eq] at characters
  have numbers := until_unique (bracket_not_mem pid) (bracket_not_mem other) characters
  exact Int32.toInt_inj.mp (intToString_injective (String.toList_inj.mp numbers))

end Columns

section Lines

variable (profile : Profile) (tables : Tables) (palette : Palette)

theorem written_padding (n : Nat) : Segment.written (padding n) = spaces n := by
  unfold padding
  split
  · subst n
    rfl
  · simp [Segment.text]

theorem written_pidSegments (color : Bool) (pid : String) (pad : Nat) :
    ∃ rest, Segment.written (pidSegments palette color pid pad false) =
      dimmed palette color pid ++ rest := by
  rw [pidSegments, if_neg Bool.false_ne_true]
  cases color with
  | true =>
      rw [if_pos rfl, Segment.written_append]
      exact ⟨_, rfl⟩
  | false =>
      refine ⟨spaces (pid.utf8ByteSize + pad - pid.length), ?_⟩
      simp [dimmed, token, padRight, Segment.text]

/-- A line starts with the burst prefix or with the bracket of its own event. -/
theorem lineSegments_carries (item : Rendered) (cfg : PrettyConfig) (state : PrettyState)
    (errno : Option (String × String)) :
    if isContinuation cfg item state then
      CarriesBurst palette cfg.color
        (Segment.written (lineSegments tables palette item cfg state errno))
    else
      CarriesBracket palette cfg.color item.event.pid
        (Segment.written (lineSegments tables palette item cfg state errno)) := by
  simp only [lineSegments, Segment.written_append, String.append_assoc]
  split_ifs with continued
  · rw [continued, pidSegments, if_pos rfl, Segment.written_append, written_padding,
      String.append_assoc]
    exact ⟨_, _, by rw [dimmed, String.append_assoc]⟩
  · rw [Bool.not_eq_true] at continued
    obtain ⟨rest, shown⟩ := written_pidSegments palette cfg.color (pidText item.event)
      (pidPad cfg item.event state)
    rw [continued, shown, String.append_assoc]
    exact ⟨_, rfl⟩

variable {profile} in
theorem writeEvent_panics {item : Rendered} (panics : ¬ Negates profile item.event.ret)
    {cfg : PrettyConfig} {state : PrettyState} (fits : Fits cfg state item.event)
    (written : String) :
    (writeEvent profile tables palette (.collector WriteFailure) item cfg state written).2.2 =
      .panicked := by
  have panicked := (writeLine_panicsAfter tables palette panics fits).alwaysPanics written
  simp only [writeEvent, panicked]

structure Line where
  item : Rendered
  text : String

/-- The lines that successive calls of `write_event` write; a call that does not
return ends the run. -/
def writeEvents (cfg : PrettyConfig) : PrettyState → List Rendered → List Line
  | _, [] => []
  | state, item :: rest =>
      match writeEvent profile tables palette (.collector WriteFailure) item cfg state "" with
      | (state, text, .ok ()) => { item, text } :: writeEvents cfg state rest
      | _ => []

variable {profile tables palette} in
theorem writeEvents_cons_of_panics {cfg : PrettyConfig} {state : PrettyState} {item : Rendered}
    (panicked : (writeEvent profile tables palette (.collector WriteFailure) item cfg state
      "").2.2 = .panicked) (rest : List Rendered) :
    writeEvents profile tables palette cfg state (item :: rest) = [] := by
  rw [writeEvents]
  split
  · next found =>
      rw [found] at panicked
      cases panicked
  · rfl

end Lines

/-- The latest event before that has a lookup basename: the basename and the pid. -/
def latestLookup (history : List Rendered) : Option (String × Pid) :=
  history.reverse.findSome? fun item =>
    (lookupBasename item.event.syscallName item.decoded).map fun basename =>
      (basename, item.event.pid)

/-- The event looks up what the latest lookup before it did, for the same process. -/
def Continues (history : List Rendered) (item : Rendered) : Prop :=
  ∃ basename, lookupBasename item.event.syscallName item.decoded = some basename ∧
    latestLookup history = some (basename, item.event.pid)

instance (profile : Profile) (ret : Int64) : Decidable (Negates profile ret) :=
  inferInstanceAs (Decidable (_ ∨ _))

def nameSize (item : Rendered) : Nat :=
  item.event.syscallName.utf8ByteSize

/-- The width of the name's column in the line that comes behind these events. -/
def columnBehind (cfg : PrettyConfig) (history : List Rendered) (item : Rendered) : Nat :=
  if cfg.aligned then widest nameSize 0 (history ++ [item]) else nameSize item

/-- The value can be negated, and `std` pads the name to its column: the plain mode formats it
with the whole width, the color mode the blanks behind it. -/
def Formats (profile : Profile) (cfg : PrettyConfig) (history : List Rendered)
    (item : Rendered) : Prop :=
  Negates profile item.event.ret ∧
    (if cfg.color then columnBehind cfg history item - nameSize item
      else columnBehind cfg history item) ≤ FORMAT_WIDTH_MAX

instance (profile : Profile) (cfg : PrettyConfig) (history : List Rendered) (item : Rendered) :
    Decidable (Formats profile cfg history item) :=
  inferInstanceAs (Decidable (_ ∧ _))

def reachedBehind (profile : Profile) (cfg : PrettyConfig) :
    List Rendered → List Rendered → List Rendered
  | _, [] => []
  | history, item :: rest =>
      if Formats profile cfg history item then
        item :: reachedBehind profile cfg (history ++ [item]) rest
      else []

/-- The events up to the first whose formatting panics. -/
def reached (profile : Profile) (cfg : PrettyConfig) (items : List Rendered) : List Rendered :=
  reachedBehind profile cfg [] items

/-- What the state has measured: the pid has a column that `std` pads, and the name that of
the events before. -/
structure Measures (cfg : PrettyConfig) (state : PrettyState) (history : List Rendered) :
    Prop where
  pid : state.pidWidth ≤ FORMAT_WIDTH_MAX
  name : cfg.aligned = true → state.nameWidth = widest nameSize 0 history

theorem measures_new (cfg : PrettyConfig) : Measures cfg .new [] :=
  ⟨Nat.zero_le _, fun _ => rfl⟩

theorem Measures.step {cfg : PrettyConfig} {state : PrettyState} {history : List Rendered}
    (measures : Measures cfg state history) (item : Rendered) :
    Measures cfg ((state.widen cfg item.event).remember item) (history ++ [item]) := by
  constructor
  · rw [remember_pidWidth]
    exact widen_pid measures.pid cfg item.event
  · intro aligned
    rw [remember_nameWidth, PrettyState.widen, if_pos aligned, widest_snoc, measures.name aligned]
    rfl

theorem Measures.formats_iff {cfg : PrettyConfig} {state : PrettyState} {history : List Rendered}
    (measures : Measures cfg state history) (profile : Profile) (item : Rendered) :
    Formats profile cfg history item ↔
      Negates profile item.event.ret ∧ nameFormatWidth cfg item.event state ≤ FORMAT_WIDTH_MAX := by
  have own : item.event.syscallName.utf8ByteSize = nameSize item := rfl
  unfold Formats columnBehind nameFormatWidth namePad PrettyState.widen
  rw [own]
  by_cases aligned : cfg.aligned = true
  · simp only [if_pos aligned, measures.name aligned, widest_snoc]
    rw [Nat.add_sub_cancel' (Nat.le_max_right _ _)]
  · simp only [if_neg aligned, Nat.sub_self, Nat.add_zero]

/-- Every line with the burst prefix is about the process of the nearest line above
that has a bracket. -/
def Attributable (palette : Palette) (color : Bool) (lines : List Line) : Prop :=
  ∀ above line below, lines = above ++ line :: below → CarriesBurst palette color line.text →
    ∃ earlier bracket between, above = earlier ++ bracket :: between ∧
      CarriesBracket palette color line.item.event.pid bracket.text ∧
      ∀ other ∈ between, ∀ pid, ¬ CarriesBracket palette color pid other.text

def Remembers (state : PrettyState) (history : List Rendered) : Prop :=
  state.lastBasename = (latestLookup history).map Prod.fst ∧
    state.lastPid = (latestLookup history).map Prod.snd

theorem latestLookup_snoc (history : List Rendered) (item : Rendered) :
    latestLookup (history ++ [item]) =
      match lookupBasename item.event.syscallName item.decoded with
      | some basename => some (basename, item.event.pid)
      | none => latestLookup history := by
  unfold latestLookup
  rw [List.reverse_append, List.reverse_singleton, List.singleton_append, List.findSome?_cons]
  cases lookupBasename item.event.syscallName item.decoded <;> rfl

theorem remembers_new : Remembers .new [] :=
  ⟨rfl, rfl⟩

theorem Remembers.step {state : PrettyState} {history : List Rendered}
    (remembers : Remembers state history) (cfg : PrettyConfig) (item : Rendered) :
    Remembers ((state.widen cfg item.event).remember item) (history ++ [item]) := by
  have widened : Remembers (state.widen cfg item.event) history := by
    unfold PrettyState.widen
    split <;> exact remembers
  unfold Remembers PrettyState.remember
  rw [latestLookup_snoc]
  cases lookupBasename item.event.syscallName item.decoded with
  | none => exact widened
  | some basename => exact ⟨rfl, rfl⟩

theorem Remembers.isContinuation_iff {state : PrettyState} {history : List Rendered}
    (remembers : Remembers state history) {cfg : PrettyConfig} (grouped : cfg.groupLookups = true)
    (item : Rendered) : isContinuation cfg item state = true ↔ Continues history item := by
  unfold isContinuation Continues
  rw [remembers.1, remembers.2, grouped]
  cases lookupBasename item.event.syscallName item.decoded with
  | none => simp
  | some basename =>
      cases latest : latestLookup history with
      | none => simp
      | some pair =>
          obtain ⟨earlier, pid⟩ := pair
          simp only [Option.isSome_some, Bool.and_self, Bool.true_and, Option.map_some,
            Bool.and_eq_true, decide_eq_true_eq, Option.some.injEq, Prod.mk.injEq,
            exists_eq_left', and_congr_left_iff]
          intro _
          exact eq_comm

section Runs

variable {profile : Profile} {tables : Tables} {palette : Palette} {cfg : PrettyConfig}

/-- The lines of a run are about the events it reaches, and the events before one
tell what it starts with. -/
theorem writeEvents_shape (grouped : cfg.groupLookups = true) {state : PrettyState}
    {history : List Rendered} (measures : Measures cfg state history)
    (remembers : Remembers state history) (items : List Rendered) :
    (writeEvents profile tables palette cfg state items).map Line.item =
        reachedBehind profile cfg history items ∧
    ∀ above line below,
      writeEvents profile tables palette cfg state items = above ++ line :: below →
        (Continues (history ++ above.map Line.item) line.item →
          CarriesBurst palette cfg.color line.text) ∧
        (¬ Continues (history ++ above.map Line.item) line.item →
          CarriesBracket palette cfg.color line.item.event.pid line.text) := by
  -- the history grows by each event written, and carries what the state remembers
  induction items generalizing state history with
  | nil => simp [writeEvents, reachedBehind]
  | cons item rest ih =>
      have formats := measures.formats_iff profile item
      by_cases shows : Formats profile cfg history item
      · obtain ⟨negates, name⟩ := formats.mp shows
        have fits : Fits cfg state item.event := ⟨fits_pid measures.pid cfg item.event, name⟩
        obtain ⟨errno, resolved⟩ :
            ∃ errno, errnoOfRet profile tables item.event.ret = (.ok errno : Outcome IoError _) :=
          errnoOfRet_ok negates tables
        obtain ⟨reaches, shapes⟩ := ih (measures.step item) (remembers.step cfg item)
        have carries := lineSegments_carries tables palette item cfg state errno
        rw [writeEvents, writeEvent_collector resolved palette fits]
        constructor
        · rw [List.map_cons, reaches, reachedBehind, if_pos shows]
        · intro above line below split
          cases above with
          | nil =>
              rw [List.nil_append, List.cons.injEq] at split
              obtain ⟨rfl, rfl⟩ := split
              simp only [List.map_nil, List.append_nil, String.empty_append]
              rw [← remembers.isContinuation_iff grouped]
              split_ifs at carries with continued
              · exact ⟨fun _ => carries, fun fresh => absurd continued fresh⟩
              · exact ⟨fun continues => absurd continues continued, fun _ => carries⟩
          | cons first above =>
              rw [List.cons_append, List.cons.injEq] at split
              obtain ⟨rfl, split⟩ := split
              have shape := shapes above line below split
              rw [List.append_assoc] at shape
              exact shape
      · -- the formatter panics half-way, and the run ends without a line
        have panicked : (writeEvent profile tables palette (.collector WriteFailure) item cfg
            state "").2.2 = .panicked := by
          by_cases name : nameFormatWidth cfg item.event state ≤ FORMAT_WIDTH_MAX
          · have overflows : ¬ Negates profile item.event.ret :=
              fun negates => shows (formats.mpr ⟨negates, name⟩)
            have fits : Fits cfg state item.event := ⟨fits_pid measures.pid cfg item.event, name⟩
            exact writeEvent_panics tables palette overflows fits ""
          · exact writeEvent_panics_wide profile tables palette measures.pid name ""
        rw [writeEvents_cons_of_panics panicked]
        constructor
        · rw [reachedBehind, if_neg shows]
          rfl
        · intro above line below split
          simp at split

/-- Between the lookup that a burst goes on from and the lookup that goes on, the
event just before the latter is of the same process. -/
def Uninterrupted (items : List Rendered) : Prop :=
  ∀ before previous item after, items = before ++ previous :: item :: after →
    Continues (before ++ [previous]) item → previous.event.pid = item.event.pid

private theorem not_continues_nil (item : Rendered) : ¬ Continues [] item := by
  intro continues
  obtain ⟨_, _, latest⟩ := continues
  cases latest

private theorem Continues.pid_of_continues {before : List Rendered} {previous item : Rendered}
    (continues : Continues (before ++ [previous]) item) (earlier : Continues before previous) :
    previous.event.pid = item.event.pid := by
  obtain ⟨basename, found, _⟩ := earlier
  obtain ⟨_, _, latest⟩ := continues
  rw [latestLookup_snoc, found] at latest
  exact congrArg Prod.snd (Option.some.inj latest)

structure Shaped (palette : Palette) (color : Bool) (lines : List Line) : Prop where
  burst : ∀ above line below, lines = above ++ line :: below →
    Continues (above.map Line.item) line.item → CarriesBurst palette color line.text
  bracket : ∀ above line below, lines = above ++ line :: below →
    ¬ Continues (above.map Line.item) line.item →
    CarriesBracket palette color line.item.event.pid line.text

theorem writeEvents_shaped (grouped : cfg.groupLookups = true) (items : List Rendered) :
    Shaped palette cfg.color (writeEvents profile tables palette cfg .new items) := by
  obtain ⟨_, shapes⟩ := @writeEvents_shape profile tables palette cfg grouped _ _
    (measures_new cfg) remembers_new items
  exact ⟨fun above line below split => (shapes above line below split).1,
    fun above line below split => (shapes above line below split).2⟩

theorem writeEvents_items (grouped : cfg.groupLookups = true) (items : List Rendered) :
    (writeEvents profile tables palette cfg .new items).map Line.item =
      reached profile cfg items :=
  (writeEvents_shape grouped (measures_new cfg) remembers_new items).1

/-- What shaped lines tell, those of a run tell of the events that it reaches. -/
theorem writeEvents_iff (grouped : cfg.groupLookups = true) (items : List Rendered)
    {shown : List Line → Prop} {held : List Rendered → Prop}
    (tells : ∀ lines, Shaped palette cfg.color lines → (shown lines ↔ held (lines.map Line.item))) :
    shown (writeEvents profile tables palette cfg .new items) ↔
      held (reached profile cfg items) := by
  rw [← @writeEvents_items profile tables palette cfg grouped items]
  exact tells _ (writeEvents_shaped grouped items)

variable {color : Bool} {lines : List Line}

theorem Attributable.uninterrupted (attributable : Attributable palette color lines)
    (shaped : Shaped palette color lines) : Uninterrupted (lines.map Line.item) := by
  intro before previous item after events continues
  obtain ⟨above, tail, cut, rfl, tailEvents⟩ := List.map_eq_append_iff.mp events
  obtain ⟨last, rest, rfl, rfl, restEvents⟩ := List.map_eq_cons_iff.mp tailEvents
  obtain ⟨line, below, rfl, rfl, _⟩ := List.map_eq_cons_iff.mp restEvents
  by_cases earlier : Continues (above.map Line.item) last.item
  · exact continues.pid_of_continues earlier
  · have own := shaped.bracket above last (line :: below) cut earlier
    have nested : lines = (above ++ [last]) ++ line :: below := by simp [cut]
    have burst := shaped.burst (above ++ [last]) line below nested (by simpa using continues)
    obtain ⟨earlierLines, bracket, between, split, carries, none⟩ :=
      attributable (above ++ [last]) line below nested burst
    -- the line above has its own bracket, so it is the nearest line that has one
    rcases List.eq_nil_or_concat between with empty | ⟨inner, other, ends⟩
    · subst empty
      obtain ⟨_, same⟩ := List.append_inj' split rfl
      cases same
      exact own.unique carries
    · subst ends
      have whole : above ++ [last] = (earlierLines ++ bracket :: inner) ++ [other] := by
        simpa using split
      have same : last = other := by
        simpa using (List.append_inj' whole rfl).2
      subst same
      exact absurd own (none last (by simp) _)

theorem Uninterrupted.attributable (uninterrupted : Uninterrupted (lines.map Line.item))
    (shaped : Shaped palette color lines) : Attributable palette color lines := by
  intro above
  -- the nearest bracket is found from the line just above, on the lines above it
  induction above using List.reverseRecOn with
  | nil =>
      intro line below split burst
      have own := shaped.bracket [] line below split (not_continues_nil _)
      exact absurd own (burst.not_bracket _)
  | append_singleton above last ih =>
      intro line below split burst
      have nested : lines = above ++ last :: line :: below := by simp [split]
      have continues : Continues (above.map Line.item ++ [last.item]) line.item := by
        by_contra other
        have own := shaped.bracket (above ++ [last]) line below split (by simpa using other)
        exact absurd own (burst.not_bracket _)
      have same : last.item.event.pid = line.item.event.pid := by
        refine uninterrupted (above.map Line.item) last.item line.item (below.map Line.item) ?_
          continues
        simp [nested]
      by_cases earlier : Continues (above.map Line.item) last.item
      · -- the line above is a burst line itself, about the same process
        have carries := shaped.burst above last (line :: below) nested earlier
        obtain ⟨earlierLines, bracket, between, found, carriesBracket, none⟩ :=
          ih last (line :: below) nested carries
        refine ⟨earlierLines, bracket, between ++ [last], by simp [found], ?_, ?_⟩
        · rw [← same]
          exact carriesBracket
        · intro other member pid
          rcases List.mem_append.mp member with inner | isLast
          · exact none other inner pid
          · rw [List.mem_singleton.mp isLast]
            exact carries.not_bracket pid
      · have own := shaped.bracket above last (line :: below) nested earlier
        rw [same] at own
        exact ⟨above, last, [], rfl, own, by simp⟩

/-- With grouping on, the lines above a burst line tell whose it is exactly when no
other process gets a line in right before one. -/
theorem writeEvents_attributable_iff (profile : Profile) (tables : Tables) (palette : Palette)
    {cfg : PrettyConfig} (grouped : cfg.groupLookups = true) (items : List Rendered) :
    Attributable palette cfg.color (writeEvents profile tables palette cfg .new items) ↔
      Uninterrupted (reached profile cfg items) := by
  refine writeEvents_iff grouped items fun lines shaped => ?_
  exact ⟨fun attributable => attributable.uninterrupted shaped,
    fun uninterrupted => uninterrupted.attributable shaped⟩

end Runs

def opens (pid : Pid) (path : String) : Rendered where
  event :=
    { pid, syscallNr := 257, syscallName := "openat", args := Vector.replicate 6 0, ret := 3,
      duration := 5 }
  decoded := { args := [("pathname", .path path)], ret := 3 }
  category := some .file

def reads (pid : Pid) : Rendered where
  event :=
    { pid, syscallNr := 0, syscallName := "read", args := Vector.replicate 6 0, ret := 0,
      duration := 5 }
  decoded := { args := [], ret := 0 }
  category := some .file

theorem writeEvents_attributable_iff_burst :
    Attributable plainPalette false (writeEvents .dev someTables plainPalette (.new false) .new
      [opens 1 "/a/x", opens 1 "/b/x"]) := by
  have grouped : (PrettyConfig.new false).groupLookups = true := rfl
  refine (writeEvents_attributable_iff .dev someTables plainPalette grouped
    [opens 1 "/a/x", opens 1 "/b/x"]).mpr ?_
  intro before previous item after split _
  have onlyOne : ∀ item ∈ reached .dev (.new false) [opens 1 "/a/x", opens 1 "/b/x"],
      item.event.pid = 1 := by
    decide
  rw [onlyOne previous (by simp [split]), onlyOne item (by simp [split])]

/-- Two lookups of one process, and a line of another process between them. -/
def interruptedBurst : List Rendered :=
  [opens 1 "/a/x", reads 2, opens 1 "/b/x"]

/-- The lookup of process 1 is shown under the bracket of process 2. -/
theorem interruptedBurst_misattributed :
    (writeEvents .dev someTables plainPalette (.new false) .new interruptedBurst).map Line.text =
      ["[1] openat(\"/a/x\") = 3 <5ns>\n", "[2] read  () = 0 <5ns>\n",
        " ↳  openat(\"/b/x\") = 3 <5ns>\n"] ∧
    ¬ Attributable plainPalette false
      (writeEvents .dev someTables plainPalette (.new false) .new interruptedBurst) := by
  constructor
  · decide +kernel
  · intro attributable
    have grouped : (PrettyConfig.new false).groupLookups = true := rfl
    have uninterrupted := attributable.uninterrupted (writeEvents_shaped grouped interruptedBurst)
    rw [writeEvents_items grouped interruptedBurst] at uninterrupted
    have same := uninterrupted [opens 1 "/a/x"] (reads 2) (opens 1 "/b/x") [] (by decide)
      ⟨"x", by decide, by decide⟩
    revert same
    decide

end Loi.Output.Pretty
