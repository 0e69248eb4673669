import Mathlib.Data.List.Forall2
import Loi.Foundation.Fields
import Loi.Foundation.Lines
import Loi.Output.ColorModes
import Loi.Output.Quoting

/-! A reader of the pretty format. It knows nothing of the run but its text, and gets from
every line what the formatter was given. -/

set_option autoImplicit false

namespace Loi.Output.Pretty

open Nix Foundation Loi.Core Syscalls

/-- What a line says about its syscall. A follow-up of a burst says no pid. -/
structure Reading where
  pid : Option String
  name : String
  args : List String
  ret : String
  duration : String
  deriving DecidableEq, Repr

namespace Reading

def pidOf : List Char → Option (Option String × List Char)
  | '↳' :: rest => some (none, rest)
  | '[' :: rest =>
      some (some (.ofList (rest.takeWhile (· ≠ ']'))), (rest.dropWhile (· ≠ ']')).drop 1)
  | _ => none

def inName (c : Char) : Bool :=
  c ≠ ' ' && c ≠ '('

def argsOf : List Char → Option (List String × List Char)
  | '(' :: ')' :: rest => some ([], rest)
  | '(' :: rest => do
      let (fields, behind) ← readFields rest.length rest
      return (fields.map .ofList, behind)
  | _ => none

def ofLine (line : List Char) : Option Reading := do
  let (pid, line) ← pidOf (line.dropWhile (· = ' '))
  let line := line.dropWhile (· = ' ')
  let (args, line') ← argsOf ((line.dropWhile inName).dropWhile (· = ' '))
  -- Behind the arguments stand ` = `, the value, and the duration in the last angle brackets.
  let line' := line'.drop 3
  return {
    pid
    name := .ofList (line.takeWhile inName)
    args
    ret := .ofList (line'.takeWhile (· ≠ ' '))
    duration := .ofList ((line'.reverse.drop 1).takeWhile (· ≠ '<')).reverse }

/-- The readings of all lines, each of which a newline ends. -/
def ofText (text : String) : Option (List Reading) :=
  (text.toList.splitOn '\n').dropLast.mapM ofLine

def quotes (text : String) : Bool :=
  text.toList.head? = some '"'

/-- The line of a lookup whose target was decoded: a path is the one argument of such a call
that stands in quotation marks. -/
def looksUp (reading : Reading) : Bool :=
  isPathLookup reading.name && reading.args.any quotes

/-- A follow-up is of the process of the latest lookup above it. -/
def fillIn : Option String → List Reading → List Reading
  | _, [] => []
  | latest, reading :: rest =>
      let pid := reading.pid.or latest
      { reading with pid } :: fillIn (if reading.looksUp then pid else latest) rest

/-- What a run has written, read from its start and without the styling. -/
def ofRun (text : String) : Option (List Reading) :=
  (ofText (stripSgr text)).map (fillIn none)

/-- What is to be read of an event. -/
def ofEvent (tables : Tables) (item : Rendered) : Reading where
  pid := some (toString item.event.pid.toInt)
  name := item.event.syscallName
  args := item.decoded.args.map fun arg => renderArgText arg.2
  ret := toString item.event.ret.toInt
  duration := fmtDuration tables item.event.duration

/-- What the line of an event says, which need not be all. -/
def ofItem (tables : Tables) (cfg : PrettyConfig) (state : PrettyState) (item : Rendered) :
    Reading :=
  { ofEvent tables item with
    pid := if isContinuation cfg item state then none else some (toString item.event.pid.toInt) }

def ofItems (tables : Tables) (cfg : PrettyConfig) : PrettyState → List Rendered → List Reading
  | _, [] => []
  | state, item :: rest =>
      ofItem tables cfg state item ::
        ofItems tables cfg ((state.widen cfg item.event).remember item) rest

end Reading

/-- The argument is rendered in quotation marks. -/
def isQuoted : DecodedArg → Bool
  | .path _ | .bytes _ _ => true
  | _ => false

/-- The static names of an event have no control character, none of the characters that the
format separates with, and are not empty, and its own name is no wider than `std` takes. A
lookup has no quoted argument but its target. -/
structure Rendered.Legible (item : Rendered) : Prop where
  clean : item.ControlFree
  narrow : NarrowName item.event
  named : item.event.syscallName ≠ ""
  name : AllChars (fun c => c ≠ ' ' ∧ c ≠ '(') item.event.syscallName
  flags : ∀ label names, (label, DecodedArg.flags names) ∈ item.decoded.args →
    ∀ name ∈ names, name ≠ "" ∧ AllChars Bare name
  target : isPathLookup item.event.syscallName = true → ∀ arg ∈ item.decoded.args,
    isQuoted arg.2 = true → arg.1 = "pathname" ∧ arg.2.asPath.isSome = true

/-- `{:.1}` of a float writes digits and a point. -/
def WritesDecimals (tables : Tables) : Prop :=
  ∀ nanos unit, AllChars (fun c => c.isDigit = true ∨ c = '.') (tables.fixed1 nanos unit)

section Arguments

theorem bare_of_isDigit {c : Char} (digit : c.isDigit = true) : Bare c := by
  refine ⟨?_, ?_, ?_, ?_⟩ <;> rintro rfl <;> revert digit <;> decide

theorem bare_numeral (base : Nat) (bounded : base ≤ 16) (positive : 1 < base) (value : Nat) :
    AllChars Bare (numeral base value) := by
  have digits : ∀ digit < 16, Bare (Nat.digitChar digit) := by decide
  rw [numeral, allChars_ofList]
  induction value using Nat.strongRecOn with
  | ind value ih =>
      rw [Nat.toDigits_eq_if positive]
      split
      · rename_i small
        intro c member
        rw [List.mem_singleton.mp member]
        exact digits value (by omega)
      · rename_i large
        intro c member
        rcases List.mem_append.mp member with early | last
        · exact ih _ (Nat.div_lt_self (by omega) positive) c early
        · rw [List.mem_singleton.mp last]
          exact digits _ ((Nat.mod_lt _ (by omega)).trans_le bounded)

theorem join_eq_empty_iff {separator : String} {items : List String}
    (each : ∀ item ∈ items, item ≠ "") : join separator items = "" ↔ items = [] := by
  cases items with
  | nil => simp [join]
  | cons item rest =>
      have first := each item List.mem_cons_self
      cases rest <;> simp [join, first]

theorem natToString_ne_empty (value : Nat) : toString value ≠ "" := by
  rw [Nat.toString_eq_ofList_toDigits]
  intro empty
  have digits : 0 < (Nat.toDigits 10 value).length := Nat.length_toDigits_pos
  rw [← String.toList_ofList (l := Nat.toDigits 10 value), empty] at digits
  cases digits

theorem intToString_ne_empty (value : Int) : toString value ≠ "" := by
  cases value with
  | ofNat value => exact natToString_ne_empty value
  | negSucc value =>
      have shape : toString (Int.negSucc value) = "-" ++ toString (value + 1) := rfl
      rw [shape]
      intro empty
      exact absurd (String.append_eq_empty_iff.mp empty).1 (by decide)

/-- Paths, buffers and argument vectors delimit themselves; other texts have none of the
characters that do. -/
theorem bare_renderArgText {arg : DecodedArg} (unquoted : isQuoted arg = false)
    (single : ∀ entries, arg ≠ .argv entries)
    (flags : ∀ names, arg = .flags names → ∀ name ∈ names, name ≠ "" ∧ AllChars Bare name) :
    AllChars Bare (renderArgText arg) ∧ renderArgText arg ≠ "" := by
  have number : ∀ value : Int, AllChars Bare (toString value) :=
    allChars_intToString (fun _ => bare_of_isDigit) (by decide)
  have prefixed : ∀ (lead : String) {text : String}, lead ≠ "" → AllChars Bare lead →
      AllChars Bare text → AllChars Bare (lead ++ text) ∧ lead ++ text ≠ "" := by
    intro lead text nonempty leads all
    refine ⟨allChars_append.mpr ⟨leads, all⟩, ?_⟩
    intro empty
    exact nonempty (String.append_eq_empty_iff.mp empty).1
  cases arg with
  | path text => cases unquoted
  | bytes inline total => cases unquoted
  | argv entries => exact absurd rfl (single entries)
  | fd fd =>
      cases fd with
      | atFdCwd => exact ⟨by decide, by decide⟩
      | invalid => exact ⟨by decide, by decide⟩
      | num n => exact ⟨number _, intToString_ne_empty _⟩
  | flags names =>
      rw [renderArgText]
      split
      · exact ⟨by decide, by decide⟩
      · next some =>
          have each := flags names rfl
          refine ⟨allChars_join (by decide) fun name member => (each name member).2, ?_⟩
          rw [Ne, join_eq_empty_iff fun name member => (each name member).1]
          exact some
  | mode m =>
      rw [renderArgText]
      exact prefixed "0o" (by decide) (by decide)
        (bare_numeral 8 (by decide) (by decide) m.toNat)
  | int i => exact ⟨number _, intToString_ne_empty _⟩
  | uint u =>
      exact ⟨allChars_natToString (fun _ => bare_of_isDigit) _, natToString_ne_empty _⟩
  | hex n =>
      rw [renderArgText]
      exact prefixed "0x" (by decide) (by decide)
        (bare_numeral 16 (by decide) (by decide) n.toNat)
  | ptr n =>
      rw [renderArgText]
      split
      · exact ⟨by decide, by decide⟩
      · exact prefixed "0x" (by decide) (by decide)
          (bare_numeral 16 (by decide) (by decide) n.toNat)

/-- What is written for an argument is one field to the reader. -/
theorem passes_renderArgText {arg : DecodedArg}
    (flags : ∀ names, arg = .flags names → ∀ name ∈ names, name ≠ "" ∧ AllChars Bare name) :
    Passes .bare (renderArgText arg).toList .bare ∧ (renderArgText arg).toList ≠ [] := by
  have bare : ∀ arg : DecodedArg, AllChars Bare (renderArgText arg) ∧ renderArgText arg ≠ "" →
      Passes .bare (renderArgText arg).toList .bare ∧ (renderArgText arg).toList ≠ [] := by
    rintro arg ⟨all, nonempty⟩
    exact ⟨passes_bare all, fun empty => nonempty (String.toList_eq_nil_iff.mp empty)⟩
  cases arg with
  | path text =>
      rw [renderArgText, quoted_eq_quotedChars]
      exact ⟨passes_quotedChars text, by simp [quotedChars]⟩
  | bytes inline total =>
      rw [renderBytes_toList]
      refine ⟨(passes_quotedChars _).append (passes_bare ?_), by simp [quotedChars]⟩
      split
      · exact (by decide : AllChars Bare "...")
      · simp
  | argv entries =>
      rw [renderArgv_toList]
      exact ⟨passes_list entries, by simp⟩
  | fd fd => exact bare _ (bare_renderArgText rfl (by simp) flags)
  | flags names => exact bare _ (bare_renderArgText rfl (by simp) flags)
  | mode m => exact bare _ (bare_renderArgText rfl (by simp) flags)
  | int i => exact bare _ (bare_renderArgText rfl (by simp) flags)
  | uint u => exact bare _ (bare_renderArgText rfl (by simp) flags)
  | hex n => exact bare _ (bare_renderArgText rfl (by simp) flags)
  | ptr n => exact bare _ (bare_renderArgText rfl (by simp) flags)

theorem quotes_renderArgText {arg : DecodedArg}
    (flags : ∀ names, arg = .flags names → ∀ name ∈ names, name ≠ "" ∧ AllChars Bare name) :
    Reading.quotes (renderArgText arg) = isQuoted arg := by
  cases quoted : isQuoted arg with
  | true =>
      cases arg with
      | path text => simp [Reading.quotes, renderArgText, quoted_eq_quotedChars, quotedChars]
      | bytes inline total => simp [Reading.quotes, renderBytes_toList, quotedChars]
      | _ => cases quoted
  | false =>
      by_cases single : ∀ entries, arg ≠ .argv entries
      · obtain ⟨bare, _⟩ := bare_renderArgText quoted single flags
        rw [Reading.quotes, decide_eq_false_iff_not]
        intro first
        exact (bare '"' (List.mem_of_head? first)).2.2.1 rfl
      · rw [not_forall] at single
        obtain ⟨entries, same⟩ := single
        rw [not_not.mp same]
        simp [Reading.quotes, renderArgv_toList]

end Arguments

namespace Reading

section Line

variable {tables : Tables} {cfg : PrettyConfig} {item : Rendered}

theorem toList_spaces (count : Nat) : (spaces count).toList = List.replicate count ' ' :=
  String.toList_ofList

/-- The first column is read as the pid, or as that of a follow-up. -/
theorem pidOf_column (event : SyscallEvent) (pad : Nat) (continued : Bool) (rest : List Char) :
    ∃ blanks, pidOf (((pidColumn false (pidText event) pad continued).toList ++ ' ' :: rest).dropWhile
        (· = ' ')) =
      some (if continued then none else some (toString event.pid.toInt),
        List.replicate blanks ' ' ++ rest) := by
  cases continued with
  | true =>
      refine ⟨2, ?_⟩
      have column : (pidColumn false (pidText event) pad true).toList ++ ' ' :: rest =
          List.replicate ((pidText event).utf8ByteSize + pad - BURST_PREFIX.length) ' ' ++
            '↳' :: ' ' :: ' ' :: rest := by
        rw [pidColumn, if_pos rfl, String.toList_append, toList_spaces, List.append_assoc]
        rfl
      rw [column, dropWhile_spaces _ (by decide)]
      rfl
  | false =>
      refine ⟨(pidText event).utf8ByteSize + pad - (pidText event).length + 1, ?_⟩
      have digits : AllChars (· ≠ ']') (toString event.pid.toInt) := by
        refine allChars_intToString ?_ (by decide) _
        intro c digit bracket
        subst bracket
        revert digit
        decide
      have column : (pidColumn false (pidText event) pad false).toList ++ ' ' :: rest =
          '[' :: ((toString event.pid.toInt).toList ++ ']' :: (List.replicate
            ((pidText event).utf8ByteSize + pad - (pidText event).length + 1) ' ' ++ rest)) := by
        rw [List.replicate_succ', pidColumn, if_neg Bool.false_ne_true,
          if_neg Bool.false_ne_true, padRight, String.toList_append, toList_spaces, pidText,
          String.toList_append, String.toList_append]
        simp
      have inside : ∀ c ∈ (toString event.pid.toInt).toList, decide (c ≠ ']') = true :=
        fun c member => decide_eq_true (digits c member)
      rw [column, List.dropWhile_cons_of_neg (by decide), pidOf,
        List.takeWhile_append_of_pos inside, List.dropWhile_append_of_pos inside]
      simp

theorem length_le_intercalate {separator : List Char} (nonempty : separator ≠ [])
    (fields : List (List Char)) :
    fields.length ≤ (List.intercalate separator fields).length + 1 := by
  have positive : 0 < separator.length := List.length_pos_iff.mpr nonempty
  induction fields with
  | nil => simp
  | cons field rest ih =>
      cases rest with
      | nil => simp
      | cons next rest =>
          rw [List.intercalate_cons_cons, List.length_append, List.length_append,
            List.length_cons]
          omega

/-- Between the parentheses every argument is read as it was rendered. -/
theorem argsOf_argsJoined {decoded : DecodedCall}
    (flags : ∀ label names, (label, DecodedArg.flags names) ∈ decoded.args →
      ∀ name ∈ names, name ≠ "" ∧ AllChars Bare name) (behind : List Char) :
    argsOf ('(' :: ((argsJoined decoded).toList ++ ')' :: behind)) =
      some (decoded.args.map fun arg => renderArgText arg.2, behind) := by
  have fields : ∀ field ∈ (decoded.args.map fun arg => renderArgText arg.2).map String.toList,
      Passes .bare field .bare ∧ field ≠ [] := by
    intro field member
    obtain ⟨text, among, rfl⟩ := List.mem_map.mp member
    obtain ⟨⟨label, arg⟩, held, rfl⟩ := List.mem_map.mp among
    refine passes_renderArgText ?_
    rintro names rfl
    exact flags label names held
  unfold argsJoined
  rw [toList_join]
  generalize decoded.args.map (fun arg => renderArgText arg.2) = args at fields ⊢
  cases args with
  | nil => rfl
  | cons first rest =>
      have read := fun fuel enough => @readFields_intercalate ((first :: rest).map String.toList)
        (by simp) (fun field member => (fields field member).1) fuel enough behind
      have starts : ∃ c more, List.intercalate [',', ' '] ((first :: rest).map String.toList) ++
          ')' :: behind = c :: more ∧ c ≠ ')' := by
        obtain ⟨passes, nonempty⟩ := fields first.toList (by simp)
        obtain ⟨c, more, split⟩ := List.exists_cons_of_ne_nil nonempty
        rw [split] at passes
        have inside : c ≠ ')' := by
          rintro rfl
          exact absurd passes.1 (by decide)
        cases rest with
        | nil => exact ⟨c, more ++ ')' :: behind, by simp [split], inside⟩
        | cons next rest =>
            refine ⟨c, more ++ ([',', ' '] ++ List.intercalate [',', ' ']
              ((next :: rest).map String.toList)) ++ ')' :: behind, ?_, inside⟩
            rw [List.map_cons, List.map_cons, List.intercalate_cons_cons, split]
            simp
      have enough : ((first :: rest).map String.toList).length ≤
          (List.intercalate [',', ' '] ((first :: rest).map String.toList) ++
            ')' :: behind).length := by
        have most := length_le_intercalate (List.cons_ne_nil ',' [' '])
          ((first :: rest).map String.toList)
        rw [List.length_append, List.length_cons]
        exact most.trans (Nat.add_le_add_left (Nat.le_add_left 1 _) _)
      have parsed := read _ enough
      obtain ⟨c, more, split, inside⟩ := starts
      have separator : (", " : String).toList = [',', ' '] := rfl
      rw [split] at parsed
      rw [separator, split, argsOf, parsed]
      · simp
      · rintro more' same
        exact inside (List.cons.inj same).1

theorem free_angle_fmtDuration (decimal : WritesDecimals tables) (nanos : Nat) :
    AllChars (· ≠ '<') (fmtDuration tables nanos) := by
  have digit : ∀ c : Char, c.isDigit = true → c ≠ '<' := by
    intro c digit angle
    subst angle
    revert digit
    decide
  have fixed : ∀ unit, AllChars (· ≠ '<') (tables.fixed1 nanos unit) := by
    intro unit
    refine (decimal nanos unit).imp fun c shape => ?_
    rcases shape with number | rfl
    · exact digit c number
    · decide
  unfold fmtDuration
  split_ifs
  · exact allChars_append.mpr ⟨allChars_natToString digit _, by decide⟩
  · exact allChars_append.mpr ⟨allChars_natToString digit _, by decide⟩
  · exact allChars_append.mpr ⟨fixed _, by decide⟩
  · exact allChars_append.mpr ⟨fixed _, by decide⟩

section Tail

variable (errno : Option (String × String)) (event : SyscallEvent)

theorem ret_of_tail : String.ofList (((retText errno event.ret).toList ++
    ' ' :: (durationText tables event).toList).takeWhile (· ≠ ' ')) = toString event.ret.toInt := by
  have digits : ∀ c ∈ (toString event.ret.toInt).toList, decide (c ≠ ' ') = true := by
    have all : AllChars (· ≠ ' ') (toString event.ret.toInt) := by
      refine allChars_intToString ?_ (by decide) _
      intro c digit blank
      subst blank
      revert digit
      decide
    exact fun c member => decide_eq_true (all c member)
  obtain ⟨more, split⟩ : ∃ more, (retText errno event.ret).toList ++
      ' ' :: (durationText tables event).toList =
        (toString event.ret.toInt).toList ++ ' ' :: more := by
    cases errno with
    | none => exact ⟨_, rfl⟩
    | some pair =>
        obtain ⟨sym, desc⟩ := pair
        refine ⟨sym.toList ++ (" (".toList ++ (desc.toList ++ (")".toList ++
          ' ' :: (durationText tables event).toList))), ?_⟩
        simp only [retText, String.toList_append, List.append_assoc]
        rfl
  rw [split, List.takeWhile_append_of_pos digits, List.takeWhile_cons_of_neg (by decide),
    List.append_nil, String.ofList_toList]

/-- Whatever the description of the errno says, the last angle brackets are those of the
duration. -/
theorem duration_of_tail (decimal : WritesDecimals tables) :
    String.ofList ((((retText errno event.ret).toList ++
      ' ' :: (durationText tables event).toList).reverse.drop 1).takeWhile (· ≠ '<')).reverse =
        fmtDuration tables event.duration := by
  have free : ∀ c ∈ (fmtDuration tables event.duration).toList.reverse, decide (c ≠ '<') = true :=
    fun c member =>
      decide_eq_true (free_angle_fmtDuration decimal event.duration c (List.mem_reverse.mp member))
  have backwards : ((retText errno event.ret).toList ++
      ' ' :: (durationText tables event).toList).reverse =
        '>' :: ((fmtDuration tables event.duration).toList.reverse ++
          '<' :: ' ' :: (retText errno event.ret).toList.reverse) := by
    have text : (durationText tables event).toList =
        '<' :: ((fmtDuration tables event.duration).toList ++ ['>']) := by
      rw [durationText, String.toList_append, String.toList_append]
      rfl
    rw [text]
    simp
  rw [backwards, List.drop_one, List.tail_cons, List.takeWhile_append_of_pos free,
    List.takeWhile_cons_of_neg (by decide), List.append_nil, List.reverse_reverse,
    String.ofList_toList]

end Tail

/-- A line is read as what the formatter was given for it, less the pid of a follow-up. -/
theorem ofLine_lineBody (legible : item.Legible)
    (decimal : WritesDecimals tables) (state : PrettyState) (errno : Option (String × String)) :
    ofLine (lineBody tables item cfg state errno).toList =
      some (ofItem tables cfg state item) := by
  -- The line, cut where the reader cuts it.
  let tail := (retText errno item.event.ret).toList ++ ' ' :: (durationText tables item.event).toList
  let args := '(' :: ((argsJoined item.decoded).toList ++ ')' :: ' ' :: '=' :: ' ' :: tail)
  obtain ⟨pad, body⟩ : ∃ pad, (lineBody tables item cfg state errno).toList =
      (pidColumn false (pidText item.event) (pidPad cfg item.event state)
        (isContinuation cfg item state)).toList ++ ' ' ::
          (item.event.syscallName.toList ++ (List.replicate pad ' ' ++ args)) := by
    obtain ⟨pad, name⟩ : ∃ pad, (nameColumn cfg.color item.event.syscallName
        (namePad cfg item.event state)).toList =
          item.event.syscallName.toList ++ List.replicate pad ' ' := by
      unfold nameColumn
      split
      · exact ⟨_, by rw [String.toList_append, toList_spaces]⟩
      · exact ⟨_, by rw [padRight, String.toList_append, toList_spaces]⟩
    refine ⟨pad, ?_⟩
    simp only [lineBody, pidColumn_color, String.toList_append, name, List.append_assoc]
    rfl
  obtain ⟨initial, letters, name⟩ := List.exists_cons_of_ne_nil
    (fun empty => legible.named (String.toList_eq_nil_iff.mp empty))
  obtain ⟨stop, more, split, stops⟩ : ∃ stop more,
      List.replicate pad ' ' ++ args = stop :: more ∧ inName stop = false := by
    cases pad with
    | zero => exact ⟨'(', _, rfl, by decide⟩
    | succ pad => exact ⟨' ', _, rfl, by decide⟩
  have named : ∀ c ∈ item.event.syscallName.toList, inName c = true := by
    intro c member
    simpa [inName] using legible.name c member
  have initialNamed : initial ≠ ' ' := (legible.name initial (by rw [name]; simp)).1
  obtain ⟨blanks, pid⟩ := pidOf_column item.event (pidPad cfg item.event state)
    (isContinuation cfg item state)
    (item.event.syscallName.toList ++ (List.replicate pad ' ' ++ args))
  have start : (List.replicate blanks ' ' ++ (item.event.syscallName.toList ++
      (List.replicate pad ' ' ++ args))).dropWhile (· = ' ') =
        item.event.syscallName.toList ++ (List.replicate pad ' ' ++ args) := by
    rw [name]
    exact dropWhile_spaces blanks initialNamed _
  have taken : (item.event.syscallName.toList ++ (List.replicate pad ' ' ++ args)).takeWhile
      inName = item.event.syscallName.toList := by
    rw [split, List.takeWhile_append_of_pos named, List.takeWhile_cons_of_neg (by simp [stops]),
      List.append_nil]
  have dropped : ((item.event.syscallName.toList ++ (List.replicate pad ' ' ++ args)).dropWhile
      inName).dropWhile (· = ' ') = args := by
    rw [List.dropWhile_append_of_pos named, split, List.dropWhile_cons_of_neg (by simp [stops]),
      ← split]
    exact dropWhile_spaces pad (by decide) _
  have read := argsOf_argsJoined legible.flags (' ' :: '=' :: ' ' :: tail)
  unfold ofLine
  rw [body, pid]
  simp only [Option.bind_eq_bind, Option.bind_some]
  rw [start, taken, dropped, read]
  simp only [Option.bind_some]
  have behind : (' ' :: '=' :: ' ' :: tail).drop 3 = tail := rfl
  rw [behind, ret_of_tail, duration_of_tail errno item.event decimal, String.ofList_toList]
  rfl

end Line

section FillIn

variable {tables : Tables} {item : Rendered}

theorem asPath_isQuoted {arg : DecodedArg} (path : arg.asPath.isSome = true) :
    isQuoted arg = true := by
  cases arg <;> first | rfl | cases path

/-- The reader sees in the text of a line whether the formatter looks back at it. -/
theorem looksUp_ofEvent (legible : item.Legible) :
    (ofEvent tables item).looksUp =
      (lookupBasename item.event.syscallName item.decoded).isSome := by
  have quotes : ∀ arg ∈ item.decoded.args, quotes (renderArgText arg.2) = isQuoted arg.2 := by
    rintro ⟨label, arg⟩ member
    refine quotes_renderArgText ?_
    rintro names rfl
    exact legible.flags label names member
  unfold looksUp lookupBasename
  rw [ofEvent]
  cases lookup : isPathLookup item.event.syscallName with
  | false => rfl
  | true =>
      rw [Bool.true_and, if_pos rfl, Option.isSome_map, pathnameOf, Bool.eq_iff_iff,
        List.any_map, List.any_eq_true, List.findSome?_isSome_iff]
      constructor
      · rintro ⟨arg, member, quoted⟩
        obtain ⟨label, path⟩ :=
          legible.target lookup arg member (by rw [← quotes arg member]; exact quoted)
        exact ⟨arg, member, by rw [if_pos label]; exact path⟩
      · rintro ⟨arg, member, found⟩
        split_ifs at found
        · exact ⟨arg, member, (quotes arg member).trans (asPath_isQuoted found)⟩
        · cases found

/-- The pid that `fillIn` carries along is the one that the formatter remembers. -/
theorem fillIn_ofItems (cfg : PrettyConfig) {items : List Rendered}
    (legible : ∀ item ∈ items, item.Legible) (state : PrettyState) :
    fillIn (state.lastPid.map fun pid => toString pid.toInt) (ofItems tables cfg state items) =
      items.map (ofEvent tables) := by
  induction items generalizing state with
  | nil => rfl
  | cons item rest ih =>
      have later := ih (fun other member => legible other (.tail _ member))
        ((state.widen cfg item.event).remember item)
      have pid : (ofItem tables cfg state item).pid.or
          (state.lastPid.map fun pid => toString pid.toInt) = (ofEvent tables item).pid := by
        cases continued : isContinuation cfg item state with
        | false => simp [ofItem, ofEvent, continued]
        | true =>
            have same : state.lastPid = some item.event.pid := by
              simp only [isContinuation, Bool.and_eq_true, decide_eq_true_eq] at continued
              exact continued.2
            simp [ofItem, ofEvent, continued, same]
      have latest : (((state.widen cfg item.event).remember item).lastPid.map
          fun pid => toString pid.toInt) =
            if (ofItem tables cfg state item).looksUp then (ofEvent tables item).pid
            else state.lastPid.map fun pid => toString pid.toInt := by
        have looks : (ofItem tables cfg state item).looksUp =
            (lookupBasename item.event.syscallName item.decoded).isSome :=
          @looksUp_ofEvent tables item (legible item List.mem_cons_self)
        have widened : (state.widen cfg item.event).lastPid = state.lastPid := by
          unfold PrettyState.widen
          split <;> rfl
        rw [looks, PrettyState.remember]
        cases lookupBasename item.event.syscallName item.decoded with
        | some basename => rfl
        | none =>
            rw [widened]
            rfl
      rw [ofItems, fillIn, List.map_cons, pid, ← latest, later]
      rfl

end FillIn

section Runs

variable (profile : Profile) (tables : Tables) (palette : Palette) {cfg : PrettyConfig}

theorem ofText_line {body : String} (single : '\n' ∉ body.toList) (rest : String) :
    ofText (body ++ "\n" ++ rest) = do
      let reading ← ofLine body.toList
      let readings ← ofText rest
      return reading :: readings :=
  readLines_line single ofLine rest

theorem legible_escFree {item : Rendered} (legible : item.Legible) : item.EscFreeNames := by
  intro name member c character escape
  subst escape
  exact legible.clean name member ESC character (by decide)

theorem newline_lineBody {profile : Profile} {tables : Tables} (documented : tables.Documented)
    {item : Rendered} (legible : item.Legible) {errno : Option (String × String)}
    (resolved : errnoOfRet profile tables item.event.ret = (.ok errno : Outcome IoError _))
    (cfg : PrettyConfig) (state : PrettyState) :
    '\n' ∉ (lineBody tables item cfg state errno).toList := by
  intro member
  have character := allChars_lineBody documented resolved cfg state '\n' member
  exact character.not_control legible.clean (by decide)

/-- The lines of a run, without their styling, are read as what the formatter was given. -/
theorem ofText_calls (documented : tables.Documented) (decimal : WritesDecimals tables)
    {items : List Rendered} (legible : ∀ item ∈ items, item.Legible)
    (negates : ∀ item ∈ items, Negates profile item.event.ret) {state : PrettyState}
    (narrow : state.Narrow) :
    ∃ segments, textOf (calls profile tables palette cfg state items) = Segment.written segments ∧
      OwnSequences palette cfg.color segments ∧ EscFree (Segment.tokens segments) ∧
      ofText (Segment.tokens segments) = some (ofItems tables cfg state items) := by
  induction items generalizing state with
  | nil =>
      refine ⟨[], rfl, ?_, by decide, rfl⟩
      intro sequence member
      cases member
  | cons item rest ih =>
      have first := legible item List.mem_cons_self
      have fits := narrow.fits cfg first.narrow
      have negated := negates item List.mem_cons_self
      obtain ⟨errno, resolved⟩ :
          ∃ errno, errnoOfRet profile tables item.event.ret = (.ok errno : Outcome IoError _) :=
        errnoOfRet_ok negated tables
      obtain ⟨segments, text, own, free, read⟩ :=
        ih (fun other member => legible other (.tail _ member))
          (fun other member => negates other (.tail _ member))
          ((narrow.widen cfg first.narrow).remember item)
      have single : '\n' ∉ (lineBody tables item cfg state errno).toList :=
        newline_lineBody documented first resolved cfg state
      have tokens : Segment.tokens (lineSegments tables palette item cfg state errno ++ segments) =
          lineBody tables item cfg state errno ++ "\n" ++ Segment.tokens segments := by
        rw [Segment.tokens_append, tokens_lineSegments]
      refine ⟨lineSegments tables palette item cfg state errno ++ segments, ?_, ?_, ?_, ?_⟩
      · rw [calls_cons_of_negates tables palette cfg negated fits,
          call_of_resolved tables palette cfg resolved fits, Segment.written_append, ← text]
        rfl
      · exact ownSequences_append.mpr ⟨ownSequences_lineSegments tables item cfg state errno, own⟩
      · rw [tokens]
        exact allChars_append.mpr
          ⟨escFree_line documented (legible_escFree first) resolved cfg state, free⟩
      · rw [tokens, ofText_line single, ofLine_lineBody first decimal, read]
        rfl

/-- In every configuration the events of a run are read back from its text alone. -/
theorem ofRun_calls (onlySgr : palette.OnlySgr) (documented : tables.Documented)
    (decimal : WritesDecimals tables) {items : List Rendered}
    (legible : ∀ item ∈ items, item.Legible)
    (negates : ∀ item ∈ items, Negates profile item.event.ret) :
    ofRun (textOf (calls profile tables palette cfg .new items)) =
      some (items.map (ofEvent tables)) := by
  obtain ⟨segments, text, own, free, read⟩ :=
    @ofText_calls profile tables palette cfg documented decimal items legible negates .new
      PrettyState.narrow_new
  unfold ofRun
  rw [text, stripSgr_written onlySgr own free, read]
  exact congrArg some (fillIn_ofItems cfg legible .new)

/-- What two events have in common of which the same is to be read. -/
structure SaysSame (tables : Tables) (item other : Rendered) : Prop where
  pid : other.event.pid = item.event.pid
  name : other.event.syscallName = item.event.syscallName
  ret : other.event.ret = item.event.ret
  args : other.decoded.args.map (fun arg => renderArgText arg.2) =
    item.decoded.args.map fun arg => renderArgText arg.2
  duration : fmtDuration tables other.event.duration = fmtDuration tables item.event.duration

theorem ofEvent_same {item other : Rendered} (same : ofEvent tables other = ofEvent tables item) :
    SaysSame tables item other := by
  simp only [ofEvent, Reading.mk.injEq, Option.some.injEq] at same
  obtain ⟨pid, name, args, ret, duration⟩ := same
  exact ⟨Int32.toInt_inj.mp (intToString_injective pid), name,
    Int64.toInt_inj.mp (intToString_injective ret), args, duration⟩

/-- The styling and the grouping lose nothing. In every configuration the pid, the name, the
rendered arguments, the value and the duration of every event of a run are read back from the
text alone, the pid also where the line has the glyph in its place, as long as the names in the
events are legible and no value panics; so runs that leave the same text were of the same
events, even if one was configured differently from the other. -/
theorem calls_read_back (profile : Profile) (tables : Tables) (palette : Palette)
    (onlySgr : palette.OnlySgr) (documented : tables.Documented)
    (decimal : WritesDecimals tables) (cfg : PrettyConfig) (items : List Rendered)
    (legible : ∀ item ∈ items, item.Legible)
    (negates : ∀ item ∈ items, Negates profile item.event.ret) :
    ofRun (textOf (calls profile tables palette cfg .new items)) =
      some (items.map (ofEvent tables)) ∧
    ∀ cfg' others, (∀ other ∈ others, other.Legible) →
      (∀ other ∈ others, Negates profile other.event.ret) →
      textOf (calls profile tables palette cfg' .new others) =
        textOf (calls profile tables palette cfg .new items) →
      List.Forall₂ (SaysSame tables) items others := by
  have read := @ofRun_calls profile tables palette cfg onlySgr documented decimal items legible
    negates
  refine ⟨read, ?_⟩
  intro cfg' others legible' negates' same
  rw [← same, ofRun_calls profile tables palette onlySgr documented decimal legible' negates',
    Option.some.injEq] at read
  have pairs : List.Forall₂ (· = ·) (items.map (ofEvent tables)) (others.map (ofEvent tables)) := by
    rw [List.forall₂_eq_eq_eq]
    exact read.symm
  refine (List.forall₂_map_right_iff.mp (List.forall₂_map_left_iff.mp pairs)).imp ?_
  exact fun item other same => ofEvent_same tables same.symm

end Runs

theorem someTables_writesDecimals : WritesDecimals someTables := by
  intro nanos unit
  exact allChars_append.mpr
    ⟨allChars_append.mpr ⟨allChars_natToString (fun _ digit => .inl digit) _, by decide⟩,
      allChars_natToString (fun _ digit => .inl digit) _⟩

theorem probingCalls_legible : ∀ item ∈ probingCalls, item.Legible := by
  intro item member
  have shape : item.event.syscallName = "openat" ∧ ∃ path,
      item.decoded.args = [("pathname", .path path), ("flags", .flags ["O_RDONLY"])] := by
    simp only [probingCalls, List.mem_cons, List.not_mem_nil, or_false] at member
    rcases member with rfl | rfl
    · exact ⟨rfl, _, rfl⟩
    · exact ⟨rfl, _, rfl⟩
  obtain ⟨name, path, args⟩ := shape
  constructor
  · have printed : item.printedNames = ["openat", "O_RDONLY"] := by
      unfold Rendered.printedNames
      rw [name, args]
      rfl
    unfold Rendered.ControlFree
    rw [printed]
    decide
  · unfold NarrowName
    rw [name]
    decide
  · rw [name]
    decide
  · rw [name]
    decide
  · intro label names among
    rw [args] at among
    simp only [List.mem_cons, Prod.mk.injEq, reduceCtorEq, and_false, DecodedArg.flags.injEq,
      List.not_mem_nil, or_false, false_or] at among
    rw [among.2]
    decide
  · intro _ arg among quoted
    rw [args] at among
    simp only [List.mem_cons, List.not_mem_nil, or_false] at among
    rcases among with rfl | rfl
    · exact ⟨rfl, rfl⟩
    · cases quoted

/-- The second line has the glyph for its pid, and color. -/
theorem calls_read_back_probing :
    ofRun (textOf (calls .dev someTables ansiPalette (.new true) .new probingCalls)) =
      some [{ pid := some "7", name := "openat", args := ["\"/lib/a\"", "O_RDONLY"], ret := "-2"
              duration := "5ns" },
            { pid := some "7", name := "openat", args := ["\"/usr/lib/a\"", "O_RDONLY"]
              ret := "3", duration := "5ns" }] := by
  have negates : ∀ item ∈ probingCalls, item.event.ret ≠ Int64.minValue := by decide
  rw [(calls_read_back .dev someTables ansiPalette ansiPalette_onlySgr someTables_documented
    someTables_writesDecimals (.new true) probingCalls probingCalls_legible
    fun item member => .inr (negates item member)).1]
  decide +kernel

end Reading

end Loi.Output.Pretty
