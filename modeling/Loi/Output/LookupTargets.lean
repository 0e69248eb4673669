import Loi.Output.Bursts

/-! Bursts of lookups: which lookups are grouped, by the targets of their paths. -/

set_option autoImplicit false

namespace Loi.Output.Pretty

open Nix Foundation Loi.Core Syscalls

section Components

/-- The last `/`-separated component of a path that is not empty. -/
def targetComponent (path : String) : Option String :=
  ((path.toList.splitOn '/').filter (· ≠ [])).getLast?.map String.ofList

/-- The path is empty or ends with a slash. -/
def EndsInSlash (path : String) : Prop :=
  path = "" ∨ ∃ directory, path = directory ++ "/"

theorem takeWhile_slash (chars : List Char) :
    '/' ∉ chars.takeWhile (· ≠ '/') ∧
      (chars = chars.takeWhile (· ≠ '/') ∨
        ∃ later, chars = chars.takeWhile (· ≠ '/') ++ '/' :: later) := by
  induction chars with
  | nil => exact ⟨List.not_mem_nil, .inl rfl⟩
  | cons c rest ih =>
      obtain ⟨free, parts⟩ := ih
      by_cases slash : c = '/'
      · subst slash
        rw [List.takeWhile_cons_of_neg (by decide)]
        exact ⟨List.not_mem_nil, .inr ⟨rest, rfl⟩⟩
      · rw [List.takeWhile_cons_of_pos (by simpa using slash)]
        refine ⟨?_, ?_⟩
        · rw [List.mem_cons, not_or]
          exact ⟨Ne.symm slash, free⟩
        · rcases parts with whole | ⟨later, behind⟩
          · exact .inl (congrArg (c :: ·) whole)
          · exact .inr ⟨later, congrArg (c :: ·) behind⟩

/-- `rsplit('/').next()` is what stands behind the last slash. -/
theorem finalComponent_split (path : String) :
    '/' ∉ (finalComponent path).toList ∧
      (path.toList = (finalComponent path).toList ∨
        ∃ directory, path.toList = directory ++ '/' :: (finalComponent path).toList) := by
  obtain ⟨free, parts⟩ := takeWhile_slash path.toList.reverse
  rw [finalComponent, String.toList_ofList, List.mem_reverse]
  refine ⟨free, ?_⟩
  rcases parts with whole | ⟨later, behind⟩
  · refine .inl ?_
    rw [← whole, List.reverse_reverse]
  · refine .inr ⟨later.reverse, ?_⟩
    have forward := congrArg List.reverse behind
    rw [List.reverse_reverse, List.reverse_append, List.reverse_cons, List.append_assoc,
      List.singleton_append] at forward
    exact forward

theorem finalComponent_eq_empty_iff (path : String) :
    finalComponent path = "" ↔ EndsInSlash path := by
  obtain ⟨free, parts⟩ := finalComponent_split path
  constructor
  · intro empty
    rw [empty] at parts
    rcases parts with whole | ⟨directory, behind⟩
    · exact .inl (String.toList_inj.mp whole)
    · refine .inr ⟨String.ofList directory, String.toList_inj.mp ?_⟩
      simp [behind]
  · intro ends
    rcases ends with empty | ⟨directory, behind⟩
    · subst empty
      rfl
    · subst behind
      rw [finalComponent, String.toList_append, List.reverse_append]
      rfl

/-- A component behind the last slash is the last one. -/
theorem targetComponent_of_finalComponent {path : String} (named : finalComponent path ≠ "") :
    targetComponent path = some (finalComponent path) := by
  obtain ⟨free, parts⟩ := finalComponent_split path
  have nonempty : (finalComponent path).toList ≠ [] := by
    intro empty
    exact named (String.toList_inj.mp empty)
  have kept : [(finalComponent path).toList].filter (· ≠ []) = [(finalComponent path).toList] := by
    rw [List.filter_cons_of_pos (by simpa using nonempty), List.filter_nil]
  unfold targetComponent
  rcases parts with whole | ⟨directory, behind⟩
  · rw [whole, List.splitOn_eq_singleton free, kept]
    exact congrArg Option.some String.ofList_toList
  · rw [behind, List.splitOn_append_cons_self, List.filter_append, List.splitOn_eq_singleton free,
      kept, List.getLast?_concat]
    exact congrArg Option.some String.ofList_toList

end Components

section Lookups

/-- The pathname of a lookup. -/
def lookupPath (item : Rendered) : Option String :=
  if isPathLookup item.event.syscallName then pathnameOf item.decoded else none

/-- The latest lookup before that has a pathname: the path and the pid. -/
def latestPath (history : List Rendered) : Option (String × Pid) :=
  history.reverse.findSome? fun item =>
    (lookupPath item).map fun path => (path, item.event.pid)

theorem lookupBasename_eq (item : Rendered) :
    lookupBasename item.event.syscallName item.decoded = (lookupPath item).map finalComponent := by
  unfold lookupBasename lookupPath
  split <;> rfl

theorem latestLookup_eq (history : List Rendered) :
    latestLookup history = (latestPath history).map fun latest =>
      (finalComponent latest.1, latest.2) := by
  unfold latestLookup latestPath
  induction history.reverse with
  | nil => rfl
  | cons item rest ih =>
      rw [List.findSome?_cons, List.findSome?_cons, lookupBasename_eq]
      cases lookupPath item with
      | none => exact ih
      | some path => rfl

/-- What the code takes for a lookup of the same target. -/
theorem continues_iff (history : List Rendered) (item : Rendered) :
    Continues history item ↔
      ∃ path earlier, lookupPath item = some path ∧
        latestPath history = some (earlier, item.event.pid) ∧
        finalComponent path = finalComponent earlier := by
  unfold Continues
  rw [lookupBasename_eq, latestLookup_eq]
  constructor
  · intro continues
    obtain ⟨basename, found, latest⟩ := continues
    obtain ⟨path, isPath, rfl⟩ := Option.map_eq_some_iff.mp found
    obtain ⟨⟨earlier, pid⟩, isLatest, same⟩ := Option.map_eq_some_iff.mp latest
    obtain ⟨component, samePid⟩ := Prod.mk.inj same
    dsimp only at component samePid
    subst samePid
    exact ⟨path, earlier, isPath, isLatest, component.symm⟩
  · intro parts
    obtain ⟨path, earlier, isPath, isLatest, same⟩ := parts
    rw [isPath, isLatest]
    exact ⟨_, rfl, by rw [Option.map_some, same]⟩

/-- The pathnames of the lookup and of the latest one before it have the same target. -/
def SameTarget (history : List Rendered) (item : Rendered) : Prop :=
  ∃ path earlier component, lookupPath item = some path ∧
    latestPath history = some (earlier, item.event.pid) ∧
    targetComponent path = some component ∧ targetComponent earlier = some component

/-- Every line with the burst prefix is about a lookup of the same target as the latest
lookup above it, by the same process. -/
def GroupsTargets (palette : Palette) (color : Bool) (lines : List Line) : Prop :=
  ∀ above line below, lines = above ++ line :: below → CarriesBurst palette color line.text →
    SameTarget (above.map Line.item) line.item

/-- Of a process no lookup whose pathname is empty or ends with a slash comes directly
behind another such lookup, unless they have the same target. -/
def SlashesApart (items : List Rendered) : Prop :=
  ∀ before item after path earlier, items = before ++ item :: after →
    lookupPath item = some path → latestPath before = some (earlier, item.event.pid) →
    EndsInSlash path → EndsInSlash earlier → SameTarget before item

end Lookups

section Runs

variable {palette : Palette} {color : Bool} {lines : List Line}

theorem Shaped.burst_iff (shaped : Shaped palette color lines) {above below : List Line}
    {line : Line} (split : lines = above ++ line :: below) :
    CarriesBurst palette color line.text ↔ Continues (above.map Line.item) line.item := by
  constructor
  · intro burst
    by_contra other
    exact burst.not_bracket _ (shaped.bracket above line below split other)
  · exact shaped.burst above line below split

/-- Equal components behind the last slash are equal targets, unless they are empty. -/
theorem Continues.sameTarget {history : List Rendered} {item : Rendered}
    (continues : Continues history item)
    (apart : ∀ path earlier, lookupPath item = some path →
      latestPath history = some (earlier, item.event.pid) →
      EndsInSlash path → EndsInSlash earlier → SameTarget history item) :
    SameTarget history item := by
  obtain ⟨path, earlier, isPath, isLatest, same⟩ := (continues_iff history item).mp continues
  by_cases empty : finalComponent path = ""
  · exact apart path earlier isPath isLatest ((finalComponent_eq_empty_iff path).mp empty)
      ((finalComponent_eq_empty_iff earlier).mp (same ▸ empty))
  · refine ⟨path, earlier, finalComponent path, isPath, isLatest,
      targetComponent_of_finalComponent empty, ?_⟩
    rw [same] at empty ⊢
    exact targetComponent_of_finalComponent empty

theorem GroupsTargets.slashesApart (groups : GroupsTargets palette color lines)
    (shaped : Shaped palette color lines) : SlashesApart (lines.map Line.item) := by
  intro before item after path earlier events isPath isLatest ends ends'
  obtain ⟨above, tail, cut, rfl, tailEvents⟩ := List.map_eq_append_iff.mp events
  obtain ⟨line, below, rfl, rfl, _⟩ := List.map_eq_cons_iff.mp tailEvents
  refine groups above line below cut ((shaped.burst_iff cut).mpr ?_)
  refine (continues_iff _ _).mpr ⟨path, earlier, isPath, isLatest, ?_⟩
  rw [(finalComponent_eq_empty_iff path).mpr ends, (finalComponent_eq_empty_iff earlier).mpr ends']

theorem SlashesApart.groupsTargets (apart : SlashesApart (lines.map Line.item))
    (shaped : Shaped palette color lines) : GroupsTargets palette color lines := by
  intro above line below split burst
  have continues := (shaped.burst_iff split).mp burst
  refine continues.sameTarget fun path earlier isPath isLatest ends ends' => ?_
  exact apart (above.map Line.item) line.item (below.map Line.item) path earlier (by simp [split])
    isPath isLatest ends ends'

/-- With grouping on, the burst prefix tells of lookups of one target exactly when no
two lookups without a component behind their last slash come one behind the other. -/
theorem writeEvents_groupsTargets_iff (profile : Profile) (tables : Tables) (palette : Palette)
    {cfg : PrettyConfig} (grouped : cfg.groupLookups = true) (items : List Rendered) :
    GroupsTargets palette cfg.color (writeEvents profile tables palette cfg .new items) ↔
      SlashesApart (reached profile cfg items) := by
  refine writeEvents_iff grouped items fun lines shaped => ?_
  exact ⟨fun groups => groups.slashesApart shaped, fun apart => apart.groupsTargets shaped⟩

end Runs

theorem writeEvents_groupsTargets_iff_burst :
    GroupsTargets plainPalette false (writeEvents .dev someTables plainPalette (.new false) .new
      [opens 1 "/a/x", opens 1 "/b/x"]) := by
  have grouped : (PrettyConfig.new false).groupLookups = true := rfl
  refine (writeEvents_groupsTargets_iff .dev someTables plainPalette grouped
    [opens 1 "/a/x", opens 1 "/b/x"]).mpr ?_
  intro before item after path earlier split isPath _ ends
  have member : item ∈ reached .dev (.new false) [opens 1 "/a/x", opens 1 "/b/x"] := by
    simp [split]
  have named : ∀ item ∈ reached .dev (.new false) [opens 1 "/a/x", opens 1 "/b/x"],
      (lookupPath item).map finalComponent = some "x" := by
    decide
  have component := named item member
  rw [isPath, Option.map_some, (finalComponent_eq_empty_iff path).mpr ends] at component
  exact absurd (Option.some.inj component) (by decide)

/-- Two directories, one after the other. -/
def openedDirectories : List Rendered :=
  [opens 1 "/a/", opens 1 "/b/"]

/-- The second is shown as one more lookup of what the first looked up. -/
theorem openedDirectories_grouped :
    (writeEvents .dev someTables plainPalette (.new false) .new openedDirectories).map Line.text =
      ["[1] openat(\"/a/\") = 3 <5ns>\n", " ↳  openat(\"/b/\") = 3 <5ns>\n"] ∧
    targetComponent "/a/" = some "a" ∧ targetComponent "/b/" = some "b" ∧
    ¬ GroupsTargets plainPalette false
      (writeEvents .dev someTables plainPalette (.new false) .new openedDirectories) := by
  refine ⟨by decide +kernel, by decide, by decide, ?_⟩
  intro groups
  have grouped : (PrettyConfig.new false).groupLookups = true := rfl
  have apart := groups.slashesApart (writeEvents_shaped grouped openedDirectories)
  rw [writeEvents_items grouped openedDirectories] at apart
  obtain ⟨path, earlier, component, isPath, isLatest, target, target'⟩ :=
    apart [opens 1 "/a/"] (opens 1 "/b/") [] "/b/" "/a/" (by decide) (by decide) (by decide)
      (.inr ⟨"/b", by decide⟩) (.inr ⟨"/a", by decide⟩)
  have second : lookupPath (opens 1 "/b/") = some "/b/" := by decide
  have first : latestPath [opens 1 "/a/"] = some ("/a/", 1) := by decide
  cases second.symm.trans isPath
  cases first.symm.trans isLatest
  rw [← target'] at target
  exact absurd target (by decide)

end Loi.Output.Pretty
