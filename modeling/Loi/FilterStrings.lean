import Mathlib.Data.List.Forall2
import Loi.Foundation.Text
import Loi.Selection

/-! What the strings of a filter mean: the sets of their segments. -/

set_option autoImplicit false

namespace Loi

open Foundation Loi.Core Syscalls

/-- The comma segments of an argument, trimmed, without the empty ones. -/
def segments : Option String → List String
  | none => []
  | some raw => ((splitAt ',' raw).map trim).filter (· ≠ "")

/-- Texts without commas and outer blanks are the segments of their join, but for the
empty ones. -/
theorem segments_join {patterns : List String} (nonempty : patterns ≠ [])
    (trimmed : ∀ pattern ∈ patterns, trim pattern = pattern)
    (commaFree : ∀ pattern ∈ patterns, ',' ∉ pattern.toList) :
    segments (some (join "," patterns)) = patterns.filter (· ≠ "") := by
  have pieces : splitAt ',' (join "," patterns) = patterns := splitAt_join nonempty commaFree
  have same : patterns.map trim = patterns := by
    rw [List.map_congr_left trimmed, List.map_id']
  rw [segments, pieces, same]

/-- What `globset` documents: a pattern is valid or not, and a set of valid globs is
built, and matches what one of them matches. -/
structure Globset.Documented (globset : Globset) (valid : String → Prop)
    (matched : String → String → Prop) : Prop where
  new : ∀ pattern, (∃ glob, globset.new pattern = .ok glob) ↔ valid pattern
  build : ∀ patterns globs,
    List.Forall₂ (fun pattern glob => globset.new pattern = .ok glob) patterns globs →
      ∃ set, globset.build globs = .ok set ∧
        ∀ text, set.isMatch text = true ↔ ∃ pattern ∈ patterns, matched pattern text

/-- The error names the first of the patterns that is not valid. -/
def NamesFirstInvalid (globset : Globset) (valid : String → Prop) (patterns : List String)
    (error : FilterError globset) : Prop :=
  ∃ before pattern after source, patterns = before ++ pattern :: after ∧
    (∀ earlier ∈ before, valid earlier) ∧ ¬ valid pattern ∧
    globset.new pattern = .error source ∧ error = .invalidGlob pattern source

/-- A gate for the patterns: no gate when there are none, and else their disjunction. -/
inductive IsGate (matched : String → String → Prop) : List String → Option GlobSet → Prop where
  | absent : IsGate matched [] none
  | present {patterns : List String} {set : GlobSet} : patterns ≠ [] →
      (∀ text, set.isMatch text = true ↔ ∃ pattern ∈ patterns, matched pattern text) →
      IsGate matched patterns (some set)

section Compile

variable {globset : Globset} {valid : String → Prop} {matched : String → String → Prop}

theorem NamesFirstInvalid.behind {patterns : List String} {error : FilterError globset}
    (names : NamesFirstInvalid globset valid patterns error) {first : String}
    (isValid : valid first) : NamesFirstInvalid globset valid (first :: patterns) error := by
  obtain ⟨before, pattern, after, source, rfl, earlier, rest⟩ := names
  refine ⟨first :: before, pattern, after, source, rfl, ?_, rest⟩
  intro other member
  rcases List.mem_cons.mp member with rfl | inner
  · exact isValid
  · exact earlier other inner

variable (documented : globset.Documented valid matched)

include documented

theorem valid_of_new {pattern : String} {glob : globset.Glob}
    (accepted : globset.new pattern = .ok glob) : valid pattern :=
  (documented.new pattern).mp ⟨glob, accepted⟩

theorem valid_of_accepted {patterns : List String} {globs : List globset.Glob}
    (accepted : List.Forall₂ (fun pattern glob => globset.new pattern = .ok glob) patterns globs) :
    ∀ pattern ∈ patterns, valid pattern := by
  induction accepted with
  | nil => simp
  | cons isNew _ ih =>
      intro pattern member
      rcases List.mem_cons.mp member with rfl | later
      · exact valid_of_new documented isNew
      · exact ih pattern later

theorem not_valid_of_error {pattern : String} {source : globset.Error}
    (refused : globset.new pattern = .error source) : ¬ valid pattern := by
  intro isValid
  obtain ⟨glob, accepted⟩ := (documented.new pattern).mpr isValid
  rw [refused] at accepted
  cases accepted

/-- The loop adds a glob for each pattern and sets the flag if there is one, or stops at
the first pattern that is not valid. -/
theorem compileLoop_spec (segs : List String) (builder : List globset.Glob) (any : Bool) :
    (∃ globs, List.Forall₂ (fun pattern glob => globset.new pattern = .ok glob)
        ((segs.map trim).filter (· ≠ "")) globs ∧
      compileLoop globset segs builder any =
        .ok (builder ++ globs, any || decide ((segs.map trim).filter (· ≠ "") ≠ []))) ∨
    ∃ error, compileLoop globset segs builder any = .error error ∧
      NamesFirstInvalid globset valid ((segs.map trim).filter (· ≠ "")) error := by
  induction segs generalizing builder any with
  | nil => exact .inl ⟨[], .nil, by simp [compileLoop]⟩
  | cons seg rest ih =>
      rw [compileLoop, List.map_cons]
      by_cases empty : trim seg = ""
      · rw [if_pos empty, List.filter_cons_of_neg (by simpa using empty)]
        exact ih builder any
      · rw [if_neg empty, List.filter_cons_of_pos (by simpa using empty)]
        cases answer : globset.new (trim seg) with
        | error source =>
            exact .inr ⟨_, rfl, [], trim seg, _, source, rfl, by simp,
              not_valid_of_error documented answer, answer, rfl⟩
        | ok glob =>
            dsimp only
            rcases ih (builder ++ [glob]) true with ⟨globs, accepted, ends⟩ | ⟨error, ends, names⟩
            · refine .inl ⟨glob :: globs, .cons answer accepted, ?_⟩
              rw [ends]
              simp
            · exact .inr ⟨error, ends, names.behind (valid_of_new documented answer)⟩

theorem compileGlobs_spec (raw : Option String) :
    ((∀ pattern ∈ segments raw, valid pattern) ∧
      ∃ gate, compileGlobs globset raw = .ok gate ∧ IsGate matched (segments raw) gate) ∨
    ∃ error, compileGlobs globset raw = .error error ∧
      NamesFirstInvalid globset valid (segments raw) error := by
  cases raw with
  | none => exact .inl ⟨by simp [segments], none, rfl, .absent⟩
  | some raw =>
      unfold compileGlobs segments
      dsimp only
      rcases compileLoop_spec documented (splitAt ',' raw) [] false with
        ⟨globs, accepted, ends⟩ | ⟨error, ends, names⟩
      · refine .inl ⟨?_, ?_⟩
        · exact valid_of_accepted documented accepted
        · rw [ends]
          cases patterns : ((splitAt ',' raw).map trim).filter (· ≠ "") with
          | nil => exact ⟨none, by simp, .absent⟩
          | cons first rest =>
              rw [patterns] at accepted
              obtain ⟨set, built, means⟩ := documented.build _ _ accepted
              refine ⟨some set, ?_, .present (List.cons_ne_nil first rest) means⟩
              simp [built]
      · rw [ends]
        exact .inr ⟨error, rfl, names⟩

/-- Both arguments are compiled, the syscall globs first. -/
theorem parse_spec (syscalls : Option String) (onlyFail : Bool) (paths : Option String) :
    ((∀ pattern ∈ segments syscalls ++ segments paths, valid pattern) ∧
      ∃ filter, Filter.parse globset syscalls onlyFail paths = .ok filter ∧
        IsGate matched (segments syscalls) filter.syscalls ∧ filter.onlyFail = onlyFail ∧
        IsGate matched (segments paths) filter.paths) ∨
    ∃ error, Filter.parse globset syscalls onlyFail paths = .error error ∧
      NamesFirstInvalid globset valid (segments syscalls ++ segments paths) error := by
  unfold Filter.parse
  rcases compileGlobs_spec documented syscalls with
    ⟨allValid, gate, compiled, isGate⟩ | ⟨error, failed, names⟩
  · rw [compiled]
    dsimp only
    rcases compileGlobs_spec documented paths with
      ⟨allValid', gate', compiled', isGate'⟩ | ⟨error, failed, names⟩
    · rw [compiled']
      refine .inl ⟨?_, _, rfl, isGate, rfl, isGate'⟩
      intro pattern member
      exact (List.mem_append.mp member).elim (allValid pattern) (allValid' pattern)
    · rw [failed]
      obtain ⟨before, pattern, after, source, split, earlier, rest⟩ := names
      refine .inr ⟨error, rfl, segments syscalls ++ before, pattern, after, source, ?_, ?_, rest⟩
      · rw [split, List.append_assoc]
      · intro other member
        exact (List.mem_append.mp member).elim (allValid other) (earlier other)
  · rw [failed]
    obtain ⟨before, pattern, after, source, split, rest⟩ := names
    refine .inr ⟨error, rfl, before, pattern, after ++ segments paths, source, ?_, rest⟩
    rw [split, List.append_assoc, List.cons_append]

end Compile

section Gates

variable {matched : String → String → Prop} {patterns : List String} {gate : Option GlobSet}

/-- An absent gate lets everything through, and another one what some pattern matches. -/
def Accepts (matched : String → String → Prop) (patterns : List String) (text : String) : Prop :=
  patterns = [] ∨ ∃ pattern ∈ patterns, matched pattern text

theorem IsGate.passes_iff (isGate : IsGate matched patterns gate) (text : String) :
    (∀ set ∈ gate, set.isMatch text = true) ↔ Accepts matched patterns text := by
  cases isGate with
  | absent => simp [Accepts]
  | present nonempty means => simp [Accepts, nonempty, means text]

theorem IsGate.passesAny_iff (isGate : IsGate matched patterns gate) (texts : List String) :
    (∀ set ∈ gate, ∃ text ∈ texts, set.isMatch text = true) ↔
      patterns = [] ∨ ∃ text ∈ texts, ∃ pattern ∈ patterns, matched pattern text := by
  cases isGate with
  | absent => simp
  | present nonempty means => simp [nonempty, means]

theorem accepts_congr {patterns' : List String}
    (same : ∀ pattern, pattern ∈ patterns ↔ pattern ∈ patterns') (text : String) :
    Accepts matched patterns text ↔ Accepts matched patterns' text := by
  unfold Accepts
  simp only [List.eq_nil_iff_forall_not_mem, same]

end Gates

/-- An event passes the gates of the filter exactly as the segments of its strings say. -/
structure MeansSegments (matched : String → String → Prop) (syscalls : Option String)
    (onlyFail : Bool) (paths : Option String) (filter : Filter) : Prop where
  event : ∀ event, filter.matchesEvent event = true ↔
    (onlyFail = true → event.ret < 0) ∧ Accepts matched (segments syscalls) event.syscallName
  decoded : ∀ decoded, filter.matchesDecoded decoded = true ↔
    segments paths = [] ∨
      ∃ path ∈ decoded.paths, ∃ pattern ∈ segments paths, matched pattern path

section Parse

variable {globset : Globset} {valid : String → Prop} {matched : String → String → Prop}
  (documented : globset.Documented valid matched)

include documented

theorem parse_ok_iff (syscalls : Option String) (onlyFail : Bool) (paths : Option String) :
    (∃ filter, Filter.parse globset syscalls onlyFail paths = .ok filter) ↔
      ∀ pattern ∈ segments syscalls ++ segments paths, valid pattern := by
  rcases parse_spec documented syscalls onlyFail paths with
    ⟨allValid, filter, parsed, _⟩ | ⟨error, failed, names⟩
  · exact iff_of_true ⟨filter, parsed⟩ allValid
  · obtain ⟨before, pattern, after, _, split, _, invalid, _⟩ := names
    refine iff_of_false ?_ fun allValid => invalid (allValid pattern (by simp [split]))
    intro success
    obtain ⟨filter, parsed⟩ := success
    rw [failed] at parsed
    cases parsed

theorem parse_error {syscalls : Option String} {onlyFail : Bool} {paths : Option String}
    {error : FilterError globset}
    (failed : Filter.parse globset syscalls onlyFail paths = .error error) :
    NamesFirstInvalid globset valid (segments syscalls ++ segments paths) error := by
  rcases parse_spec documented syscalls onlyFail paths with
    ⟨_, filter, parsed, _⟩ | ⟨other, failed', names⟩
  · rw [failed] at parsed
    cases parsed
  · rw [failed] at failed'
    cases failed'
    exact names

theorem parse_means {syscalls : Option String} {onlyFail : Bool} {paths : Option String}
    {filter : Filter} (parsed : Filter.parse globset syscalls onlyFail paths = .ok filter) :
    MeansSegments matched syscalls onlyFail paths filter := by
  rcases parse_spec documented syscalls onlyFail paths with
    ⟨_, other, parsed', isGate, same, isGate'⟩ | ⟨error, failed, _⟩
  · rw [parsed] at parsed'
    cases parsed'
    constructor
    · intro event
      rw [Filter.matchesEvent_iff, Filter.PassesEvent, isGate.passes_iff, same]
    · intro decoded
      rw [Filter.matchesDecoded_iff, Filter.PassesPaths, isGate'.passesAny_iff]
  · rw [parsed] at failed
    cases failed

/-- `Filter::parse` takes its strings for the sets of their segments: it succeeds exactly
when all of them are valid, and else names the first that is not; its filter accepts what
they match; and no more than the sets counts. -/
theorem parse_segments (syscalls : Option String) (onlyFail : Bool) (paths : Option String) :
    ((∃ filter, Filter.parse globset syscalls onlyFail paths = .ok filter) ↔
      ∀ pattern ∈ segments syscalls ++ segments paths, valid pattern) ∧
    (∀ error, Filter.parse globset syscalls onlyFail paths = .error error →
      NamesFirstInvalid globset valid (segments syscalls ++ segments paths) error) ∧
    (∀ filter, Filter.parse globset syscalls onlyFail paths = .ok filter →
      MeansSegments matched syscalls onlyFail paths filter) ∧
    ∀ syscalls' paths' : Option String,
      (∀ pattern, pattern ∈ segments syscalls ↔ pattern ∈ segments syscalls') →
      (∀ pattern, pattern ∈ segments paths ↔ pattern ∈ segments paths') →
        ((∃ filter, Filter.parse globset syscalls onlyFail paths = .ok filter) ↔
          ∃ filter, Filter.parse globset syscalls' onlyFail paths' = .ok filter) ∧
        ∀ filter filter', Filter.parse globset syscalls onlyFail paths = .ok filter →
          Filter.parse globset syscalls' onlyFail paths' = .ok filter' →
            (∀ event, filter.matchesEvent event = filter'.matchesEvent event) ∧
            ∀ decoded, filter.matchesDecoded decoded = filter'.matchesDecoded decoded := by
  refine ⟨parse_ok_iff documented syscalls onlyFail paths, fun _ => parse_error documented,
    fun _ => parse_means documented, ?_⟩
  intro syscalls' paths' sameSyscalls samePaths
  constructor
  · rw [parse_ok_iff documented, parse_ok_iff documented]
    simp only [List.mem_append, sameSyscalls, samePaths]
  · intro filter filter' parsed parsed'
    have means := parse_means documented parsed
    have means' := parse_means documented parsed'
    constructor
    · intro event
      rw [Bool.eq_iff_iff, means.event, means'.event, accepts_congr sameSyscalls]
    · intro decoded
      rw [Bool.eq_iff_iff, means.decoded, means'.decoded]
      simp only [List.eq_nil_iff_forall_not_mem, samePaths]

/-- Some pattern matches the text, of those that are not empty: an empty one is skipped. -/
def InUnion (matched : String → String → Prop) (patterns : List String) (text : String) : Prop :=
  ∃ pattern ∈ patterns, pattern ≠ "" ∧ matched pattern text

/-- Joining globs without commas means their union, in either argument; joining empty ones
alone means no filter. -/
theorem parse_joined {patterns : List String} (nonempty : patterns ≠ [])
    (allValid : ∀ pattern ∈ patterns, valid pattern)
    (trimmed : ∀ pattern ∈ patterns, trim pattern = pattern)
    (commaFree : ∀ pattern ∈ patterns, ',' ∉ pattern.toList)
    (onlyFail : Bool) {other : Option String}
    (otherValid : ∀ pattern ∈ segments other, valid pattern) :
    (∃ filter, Filter.parse globset (some (join "," patterns)) onlyFail other = .ok filter ∧
      ∀ event, filter.matchesEvent event = true ↔
        (onlyFail = true → event.ret < 0) ∧
          ((∀ pattern ∈ patterns, pattern = "") ∨ InUnion matched patterns event.syscallName)) ∧
    ∃ filter, Filter.parse globset other onlyFail (some (join "," patterns)) = .ok filter ∧
      ∀ decoded, filter.matchesDecoded decoded = true ↔
        (∀ pattern ∈ patterns, pattern = "") ∨
          ∃ path ∈ decoded.paths, InUnion matched patterns path := by
  have parts := segments_join nonempty trimmed commaFree
  have partsValid : ∀ pattern ∈ segments (some (join "," patterns)), valid pattern := by
    intro pattern member
    rw [parts] at member
    exact allValid pattern (List.mem_of_mem_filter member)
  constructor
  · obtain ⟨filter, parsed⟩ := (parse_ok_iff documented _ onlyFail other).mpr
      (List.forall_mem_append.mpr ⟨partsValid, otherValid⟩)
    refine ⟨filter, parsed, ?_⟩
    intro event
    rw [(parse_means documented parsed).event, parts]
    simp [Accepts, InUnion, and_assoc]
  · obtain ⟨filter, parsed⟩ := (parse_ok_iff documented other onlyFail _).mpr
      (List.forall_mem_append.mpr ⟨otherValid, partsValid⟩)
    refine ⟨filter, parsed, ?_⟩
    intro decoded
    rw [(parse_means documented parsed).decoded, parts]
    simp [InUnion, and_assoc]

end Parse

section Literals

/-- Patterns without wildcards: a literal, or literals between one pair of braces. -/
def alternatives (pattern : String) : Option (List String) :=
  match pattern.toList with
  | '\x7b' :: rest =>
      if rest.getLast? = some '\x7d' ∧ '\x7b' ∉ rest.dropLast ∧ '\x7d' ∉ rest.dropLast then
        some ((rest.dropLast.splitOn ',').map String.ofList)
      else none
  | chars => if '\x7b' ∈ chars ∨ '\x7d' ∈ chars then none else some [pattern]

def literalGlobs : Globset where
  Glob := List String
  Error := String
  new pattern :=
    match alternatives pattern with
    | some texts => .ok texts
    | none => .error pattern
  build globs := .ok { isMatch := fun text => globs.any fun texts => texts.contains text }
  glob pattern := some pattern

def IsLiteral (pattern : String) : Prop :=
  (alternatives pattern).isSome = true

instance (pattern : String) : Decidable (IsLiteral pattern) :=
  inferInstanceAs (Decidable (_ = true))

def MatchesLiteral (pattern text : String) : Prop :=
  ∃ texts, alternatives pattern = some texts ∧ text ∈ texts

theorem literalGlobs_new {pattern : String} {texts : List String} :
    literalGlobs.new pattern = .ok texts ↔ alternatives pattern = some texts := by
  unfold literalGlobs
  dsimp only
  cases alternatives pattern with
  | none => simp
  | some found => simp

theorem any_contains_iff {patterns : List String} {globs : List (List String)}
    (accepted : List.Forall₂ (fun pattern texts => alternatives pattern = some texts)
      patterns globs) (text : String) :
    (globs.any fun texts => texts.contains text) = true ↔
      ∃ pattern ∈ patterns, MatchesLiteral pattern text := by
  induction accepted with
  | nil => simp
  | @cons pattern texts patterns globs isNew _ ih =>
      have first : MatchesLiteral pattern text ↔ text ∈ texts := by
        simp [MatchesLiteral, isNew]
      rw [List.any_cons, Bool.or_eq_true, ih, List.contains_iff_mem, ← first,
        List.exists_mem_cons_iff]

theorem literalGlobs_documented : literalGlobs.Documented IsLiteral MatchesLiteral := by
  constructor
  case new =>
    intro pattern
    rw [IsLiteral, Option.isSome_iff_exists]
    exact exists_congr fun texts => literalGlobs_new
  case build =>
    intro patterns globs accepted
    refine ⟨_, rfl, ?_⟩
    exact any_contains_iff (accepted.imp fun _ _ => literalGlobs_new.mp)

end Literals

theorem parse_segments_spaced :
    ∃ filter, Filter.parse literalGlobs (some " read ,, write,") false (some " ,") = .ok filter ∧
      (∀ event, filter.matchesEvent event = true ↔
        Accepts MatchesLiteral ["read", "write"] event.syscallName) ∧
      ∀ decoded, filter.matchesDecoded decoded = true := by
  have parts : segments (some " read ,, write,") = ["read", "write"] ∧
      segments (some " ,") = [] := by
    decide
  obtain ⟨names, nothing⟩ := parts
  obtain ⟨succeeds, _, means, _⟩ :=
    parse_segments literalGlobs_documented (some " read ,, write,") false (some " ,")
  obtain ⟨filter, parsed⟩ := succeeds.mpr (by decide)
  refine ⟨filter, parsed, ?_, ?_⟩
  · intro event
    rw [(means filter parsed).event, names]
    simp
  · intro decoded
    exact ((means filter parsed).decoded decoded).mpr (.inl nothing)

theorem parse_joined_paths :
    ∃ filter, Filter.parse literalGlobs none true (some "/etc,,/tmp") = .ok filter ∧
      ∀ decoded, filter.matchesDecoded decoded = true ↔
        ∃ path ∈ decoded.paths, MatchesLiteral "/etc" path ∨ MatchesLiteral "/tmp" path := by
  obtain ⟨_, filter, parsed, means⟩ :=
    parse_joined literalGlobs_documented (show ["/etc", "", "/tmp"] ≠ [] by decide) (by decide)
      (by decide) (by decide) true (show ∀ pattern ∈ segments none, IsLiteral pattern by decide)
  refine ⟨filter, parsed, ?_⟩
  intro decoded
  rw [means]
  simp [InUnion]

section Nesting

/-- No comma stands outside braces and brackets, `depth` of which are open. -/
def commasEnclosed (depth : Nat) : List Char → Bool
  | [] => true
  | c :: rest =>
      if c = ',' then depth ≠ 0 && commasEnclosed depth rest
      else if c = '\x7b' ∨ c = '[' then commasEnclosed (depth + 1) rest
      else if c = '\x7d' ∨ c = ']' then commasEnclosed (depth - 1) rest
      else commasEnclosed depth rest

/-- A comma between braces splits its glob, and an empty glob matches the empty text only,
but joined alone it lets every call through. -/
theorem parse_joined_splits_braces :
    (IsLiteral "\x7ba,b\x7d" ∧ trim "\x7ba,b\x7d" = "\x7ba,b\x7d" ∧
      commasEnclosed 0 "\x7ba,b\x7d".toList = true ∧
      (¬ ∃ filter, Filter.parse literalGlobs (some (join "," ["\x7ba,b\x7d"])) false none =
        .ok filter) ∧
      ¬ ∃ filter, Filter.parse literalGlobs none false (some (join "," ["\x7ba,b\x7d"])) =
        .ok filter) ∧
    IsLiteral "" ∧ trim "" = "" ∧ commasEnclosed 0 "".toList = true ∧
      ∃ filter, Filter.parse literalGlobs (some (join "," [""])) false none = .ok filter ∧
        ∀ event, filter.matchesEvent event = true ∧
          (MatchesLiteral "" event.syscallName ↔ event.syscallName = "") := by
  refine ⟨⟨by decide, by decide, by decide, ?_, ?_⟩, by decide, by decide, by decide, ?_⟩
  · rw [parse_ok_iff literalGlobs_documented]
    decide
  · rw [parse_ok_iff literalGlobs_documented]
    decide
  · refine ⟨.empty, rfl, ?_⟩
    intro event
    have whole : alternatives "" = some [""] := by decide
    simp [Filter.empty, Filter.matchesEvent, MatchesLiteral, whole]

end Nesting

end Loi
