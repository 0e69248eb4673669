import Loi.Output.Runs

/-! The columns of the plain aligned mode: over a run each line has its name and its
parenthesis where the widest pid and the widest name so far put them. -/

set_option autoImplicit false

namespace Loi.Output.Pretty

open Nix Foundation Loi.Core Syscalls Segment

def pidWidth (item : Rendered) : Nat :=
  (pidText item.event).length

def nameWidth (item : Rendered) : Nat :=
  item.event.syscallName.length

/-- The column of the names in a line, after these items. -/
def nameColumnOf (items : List Rendered) : Nat :=
  widest pidWidth 0 items + 1

/-- The column of the parenthesis in a line, after these items. -/
def parenColumnOf (items : List Rendered) : Nat :=
  nameColumnOf items + widest nameWidth 0 items

/-- The name starts at one column of the line, and only blanks are between it and the
parenthesis at the other. -/
def HasColumns (line name : String) (nameColumn parenColumn : Nat) : Prop :=
  ∃ before blanks after, line = before ++ name ++ spaces blanks ++ "(" ++ after ∧
    before.length = nameColumn ∧ nameColumn + name.length + blanks = parenColumn

section Line

variable {cfg : PrettyConfig} (aligned : cfg.aligned = true)

theorem utf8ByteSize_pidText (item : Rendered) :
    (pidText item.event).utf8ByteSize = pidWidth item :=
  utf8ByteSize_of_ascii ((printable_pidText item.event).imp fun _ => Printable.ascii)

/-- The bracket is never narrower than the glyph that replaces it. -/
theorem two_le_pidWidth (item : Rendered) : 2 ≤ pidWidth item := by
  simp only [pidWidth, pidText, String.length_append]
  have brackets : "[".length = 1 ∧ "]".length = 1 := by decide
  omega

@[simp] theorem length_spaces (count : Nat) : (spaces count).length = count := by
  simp [spaces]

include aligned in
theorem widen_pidWidth (item : Rendered) (state : PrettyState) :
    (state.widen cfg item.event).pidWidth = max state.pidWidth (pidWidth item) := by
  rw [PrettyState.widen, if_pos aligned, utf8ByteSize_pidText]

include aligned in
theorem widen_nameWidth {item : Rendered}
    (ascii : AllChars (fun c => c.toNat < 128) item.event.syscallName) (state : PrettyState) :
    (state.widen cfg item.event).nameWidth = max state.nameWidth (nameWidth item) := by
  rw [PrettyState.widen, if_pos aligned, utf8ByteSize_of_ascii ascii]
  rfl

include aligned in
/-- Bracket or glyph, the pid column is as wide as the widest pid. -/
theorem length_pidColumn (item : Rendered) (state : PrettyState) (continued : Bool) :
    (pidColumn false (pidText item.event) (pidPad cfg item.event state) continued).length =
      max state.pidWidth (pidWidth item) := by
  have width : (pidText item.event).utf8ByteSize + pidPad cfg item.event state =
      max state.pidWidth (pidWidth item) := by
    rw [pidPad, if_pos aligned, widen_pidWidth aligned, utf8ByteSize_pidText]
    omega
  have narrow := two_le_pidWidth item
  have glyph : BURST_PREFIX.length = 2 := by decide
  cases continued with
  | true =>
      simp only [pidColumn, if_true, width, String.length_append, length_spaces, glyph]
      omega
  | false =>
      have text : (pidText item.event).length = pidWidth item := rfl
      simp only [pidColumn, Bool.false_eq_true, if_false, padRight, width, String.length_append,
        length_spaces, text]
      omega

include aligned in
theorem headBody_hasColumns (plain : cfg.color = false) {item : Rendered}
    (ascii : AllChars (fun c => c.toNat < 128) item.event.syscallName) (state : PrettyState)
    (rest : String) :
    HasColumns (headBody item cfg state ++ rest) item.event.syscallName
      (max state.pidWidth (pidWidth item) + 1)
      (max state.pidWidth (pidWidth item) + 1 + max state.nameWidth (nameWidth item)) := by
  have column := length_pidColumn aligned item state (isContinuation cfg item state)
  have pad : nameWidth item + namePad cfg item.event state =
      max state.nameWidth (nameWidth item) := by
    rw [namePad, if_pos aligned, widen_nameWidth aligned ascii, utf8ByteSize_of_ascii ascii]
    simp only [nameWidth]
    omega
  refine ⟨pidColumn false (pidText item.event) (pidPad cfg item.event state)
      (isContinuation cfg item state) ++ " ", namePad cfg item.event state,
    argsJoined item.decoded ++ ") = " ++ rest, ?_, ?_, ?_⟩
  · rw [headBody, plain, ← nameColumn_color ascii true]
    simp [nameColumn, String.append_assoc]
  · rw [String.length_append, column]
    rfl
  · rw [← pad, nameWidth]
    omega

end Line

section Run

variable (profile : Profile) (tables : Tables) (palette : Palette) {cfg : PrettyConfig}

/-- Whether the call returns or panics, a plain line was written at least up to its
return value. -/
theorem call_text (plain : cfg.color = false) {state : PrettyState} {item : Rendered}
    (fits : Fits cfg state item.event) :
    ∃ rest, (call profile tables palette cfg state item).text =
      headBody item cfg state ++ rest := by
  by_cases negates : Negates profile item.event.ret
  · obtain ⟨errno, resolved⟩ :
        ∃ errno, errnoOfRet profile tables item.event.ret = (.ok errno : Outcome IoError _) :=
      errnoOfRet_ok negates tables
    refine ⟨retText errno item.event.ret ++ " " ++ durationText tables item.event ++ "\n", ?_⟩
    rw [call_of_resolved tables palette cfg resolved fits,
      written_lineSegments tables palette item plain]
    simp only [lineBody, headBody, String.append_assoc]
  · refine ⟨"", ?_⟩
    rw [call_of_panics tables palette cfg negates fits, written_headSegments palette item plain,
      String.append_empty]

theorem calls_reached {items : List Rendered} {n : Nat} (inside : n < items.length)
    (returns : ∀ item ∈ items.take n, Negates profile item.event.ret ∧ NarrowName item.event)
    {state : PrettyState} (narrow : state.Narrow) :
    ∃ line, (calls profile tables palette cfg state items)[n]? = some line := by
  induction items generalizing n state with
  | nil => exact absurd inside (Nat.not_lt_zero n)
  | cons item rest ih =>
      cases n with
      | zero => exact ⟨_, calls_head tables palette cfg state item rest⟩
      | succ n =>
          obtain ⟨negates, named⟩ := returns item List.mem_cons_self
          rw [calls_cons_of_negates tables palette cfg negates (narrow.fits cfg named)]
          exact ih (Nat.lt_of_succ_lt_succ inside)
            (fun other member => returns other (.tail _ member))
            ((narrow.widen cfg named).remember item)

/-- A line is written in a state whose columns are those of the events before it. -/
theorem calls_at (aligned : cfg.aligned = true) (plain : cfg.color = false)
    {items : List Rendered}
    (ascii : ∀ item ∈ items, AllChars (fun c => c.toNat < 128) item.event.syscallName)
    {state : PrettyState} (narrow : state.Narrow) {n : Nat} {item : Rendered} {line : Call}
    (written : items[n]? = some item)
    (left : (calls profile tables palette cfg state items)[n]? = some line) :
    ∃ before : PrettyState, before.Narrow ∧
      before.pidWidth = widest pidWidth state.pidWidth (items.take n) ∧
      before.nameWidth = widest nameWidth state.nameWidth (items.take n) ∧
      line = call profile tables palette cfg before item := by
  induction items generalizing n state with
  | nil => cases written
  | cons first rest ih =>
      have asciiFirst := ascii first List.mem_cons_self
      cases n with
      | zero =>
          rw [calls_head] at left
          cases written
          cases left
          exact ⟨state, narrow, rfl, rfl, rfl⟩
      | succ n =>
          by_cases named : NarrowName first.event
          · have fits := narrow.fits cfg named
            by_cases negates : Negates profile first.event.ret
            · rw [calls_cons_of_negates tables palette cfg negates fits] at left
              have later := ih (fun other member => ascii other (.tail _ member))
                ((narrow.widen cfg named).remember first) written left
              rw [remember_pidWidth, remember_nameWidth, widen_pidWidth aligned,
                widen_nameWidth aligned asciiFirst] at later
              exact later
            · rw [calls_cons_of_panics tables palette cfg negates fits] at left
              cases left
          · have wide := @wide_of_not_narrowName state first.event named cfg plain
            rw [calls_cons_of_wide tables palette cfg narrow.pid wide] at left
            cases left

/-- Every line of a run has its columns where the widest pid and name up to it put
them, and a name that is too wide for `std` to pad panics; every event up to the first
panic has its line; the columns only move to the right, and not between two lines unless
something wider comes in between. -/
theorem calls_aligned (aligned : cfg.aligned = true) (plain : cfg.color = false)
    {items : List Rendered}
    (ascii : ∀ item ∈ items, AllChars (fun c => c.toNat < 128) item.event.syscallName) :
    (∀ n item line, items[n]? = some item →
      (calls profile tables palette cfg .new items)[n]? = some line →
      (NarrowName item.event →
        HasColumns line.text item.event.syscallName (nameColumnOf (items.take (n + 1)))
          (parenColumnOf (items.take (n + 1)))) ∧
      (¬ NarrowName item.event → line.outcome = .panicked)) ∧
    (∀ n < items.length,
      (∀ item ∈ items.take n, Negates profile item.event.ret ∧ NarrowName item.event) →
      ∃ line, (calls profile tables palette cfg .new items)[n]? = some line) ∧
    ∀ earlier later, earlier ≤ later →
      nameColumnOf (items.take (earlier + 1)) ≤ nameColumnOf (items.take (later + 1)) ∧
      parenColumnOf (items.take (earlier + 1)) ≤ parenColumnOf (items.take (later + 1)) ∧
      ((∀ item ∈ (items.take (later + 1)).drop (earlier + 1),
          pidWidth item ≤ widest pidWidth 0 (items.take (earlier + 1)) ∧
          nameWidth item ≤ widest nameWidth 0 (items.take (earlier + 1))) →
        nameColumnOf (items.take (later + 1)) = nameColumnOf (items.take (earlier + 1)) ∧
        parenColumnOf (items.take (later + 1)) = parenColumnOf (items.take (earlier + 1))) := by
  refine ⟨?_, ?_, ?_⟩
  · intro n item line written left
    obtain ⟨before, narrow, pids, names, rfl⟩ := calls_at profile tables palette aligned plain
      ascii PrettyState.narrow_new written left
    refine ⟨fun named => ?_, fun wide =>
      call_of_wide tables palette cfg narrow.pid (wide_of_not_narrowName wide plain)⟩
    obtain ⟨rest, text⟩ := call_text profile tables palette plain (narrow.fits cfg named)
    have columns := headBody_hasColumns aligned plain
      (ascii item (List.mem_of_getElem? written)) before rest
    rw [pids, names, ← widest_take_succ pidWidth written, ← widest_take_succ nameWidth written]
      at columns
    rw [text]
    exact columns
  · intro n inside returns
    exact calls_reached profile tables palette inside returns PrettyState.narrow_new
  · intro earlier later order
    have split : items.take (later + 1) =
        items.take (earlier + 1) ++ (items.take (later + 1)).drop (earlier + 1) := by
      have prior : items.take (earlier + 1) = (items.take (later + 1)).take (earlier + 1) := by
        rw [List.take_take, Nat.min_eq_left (Nat.succ_le_succ order)]
      rw [prior, List.take_append_drop]
    have subset : items.take (earlier + 1) ⊆ items.take (later + 1) := by
      rw [split]
      exact List.subset_append_left _ _
    have pids : widest pidWidth 0 _ ≤ widest pidWidth 0 _ := widest_mono pidWidth subset
    have names : widest nameWidth 0 _ ≤ widest nameWidth 0 _ := widest_mono nameWidth subset
    refine ⟨Nat.succ_le_succ pids, Nat.add_le_add (Nat.succ_le_succ pids) names, ?_⟩
    intro narrow
    have samePids : widest pidWidth 0 (items.take (later + 1)) =
        widest pidWidth 0 (items.take (earlier + 1)) := by
      rw [split]
      exact widest_append_of_le pidWidth fun item member => (narrow item member).1
    have sameNames : widest nameWidth 0 (items.take (later + 1)) =
        widest nameWidth 0 (items.take (earlier + 1)) := by
      rw [split]
      exact widest_append_of_le nameWidth fun item member => (narrow item member).2
    simp only [parenColumnOf, nameColumnOf, samePids, sameNames, and_self]

end Run

/-- A lookup, its continuation, and a call of a process with a wider pid and a shorter
name. -/
def alternatingCalls : List Rendered :=
  probingCalls ++
    [{ event :=
        { pid := 4321, syscallNr := 0, syscallName := "read", args := Vector.replicate 6 0,
          ret := 0, duration := 5 }
       decoded := { args := [], ret := 0 }
       category := some .file }]

theorem calls_aligned_alternating :
    (∀ n item line, alternatingCalls[n]? = some item →
      (calls .dev someTables ansiPalette (.new false) .new alternatingCalls)[n]? = some line →
      HasColumns line.text item.event.syscallName (nameColumnOf (alternatingCalls.take (n + 1)))
        (parenColumnOf (alternatingCalls.take (n + 1)))) ∧
    nameColumnOf (alternatingCalls.take 2) = 4 ∧ parenColumnOf (alternatingCalls.take 2) = 10 ∧
    nameColumnOf (alternatingCalls.take 3) = 7 ∧ parenColumnOf (alternatingCalls.take 3) = 13 := by
  have ascii : ∀ item ∈ alternatingCalls,
      AllChars (fun c => c.toNat < 128) item.event.syscallName := by
    decide
  have isAligned : (PrettyConfig.new false).aligned = true := rfl
  have isPlain : (PrettyConfig.new false).color = false := rfl
  have lines := (calls_aligned .dev someTables ansiPalette isAligned isPlain ascii).1
  have named : ∀ item ∈ alternatingCalls, NarrowName item.event := by decide
  refine ⟨?_, by decide, by decide, by decide, by decide⟩
  intro n item line written left
  exact (lines n item line written left).1 (named item (List.mem_of_getElem? written))

end Loi.Output.Pretty
