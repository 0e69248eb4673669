import Mathlib.Algebra.Ring.Nat
import Loi.Foundation.Outcome

/-! What a computation reads of an oracle. Its result rests on a few queries: every oracle
that answers these alike leads to the same result, whatever it answers to others. -/

set_option autoImplicit false

namespace Foundation

variable {Query Answer Value Next Error : Type}

def AgreeOn (queries : List Query) (oracle other : Query → Answer) : Prop :=
  ∀ query ∈ queries, other query = oracle query

/-- Queries on which the result of `compute` rests: at most `count` of them, all permitted,
and together of a size of at most `total`. -/
structure Footprint (permitted : Query → Prop) (size : Query → Nat) (count total : Nat)
    (oracle : Query → Answer) (compute : (Query → Answer) → Value) (queries : List Query) :
    Prop where
  count : queries.length ≤ count
  total : (queries.map size).sum ≤ total
  permitted : ∀ query ∈ queries, permitted query
  rests : ∀ other, AgreeOn queries oracle other → compute other = compute oracle

def ReadsWithin (permitted : Query → Prop) (size : Query → Nat) (count total : Nat)
    (oracle : Query → Answer) (compute : (Query → Answer) → Value) : Prop :=
  ∃ queries, Footprint permitted size count total oracle compute queries

namespace ReadsWithin

variable {permitted : Query → Prop} {size : Query → Nat} {count total count' total' : Nat}
  {oracle : Query → Answer}

theorem const (value : Value) : ReadsWithin permitted size 0 0 oracle fun _ => value :=
  ⟨[], Nat.le_refl _, Nat.le_refl _, by simp, fun _ _ => rfl⟩

theorem ask {query : Query} (allowed : permitted query) :
    ReadsWithin permitted size 1 (size query) oracle fun oracle => oracle query := by
  refine ⟨[query], Nat.le_refl _, by simp, by simpa using allowed, ?_⟩
  intro other agree
  exact agree query List.mem_cons_self

theorem weaken {compute : (Query → Answer) → Value}
    (reads : ReadsWithin permitted size count total oracle compute) (fewer : count ≤ count')
    (smaller : total ≤ total') : ReadsWithin permitted size count' total' oracle compute := by
  obtain ⟨queries, footprint⟩ := reads
  exact ⟨queries, Nat.le_trans footprint.count fewer, Nat.le_trans footprint.total smaller,
    footprint.permitted, footprint.rests⟩

theorem determined {compute : (Query → Answer) → Value} {use : (Query → Answer) → Next}
    (reads : ReadsWithin permitted size count total oracle compute)
    (same : ∀ answers other, compute other = compute answers → use other = use answers) :
    ReadsWithin permitted size count total oracle use := by
  obtain ⟨queries, footprint⟩ := reads
  refine ⟨queries, footprint.count, footprint.total, footprint.permitted, ?_⟩
  exact fun other agree => same oracle other (footprint.rests other agree)

theorem map {compute : (Query → Answer) → Value}
    (reads : ReadsWithin permitted size count total oracle compute) (use : Value → Next) :
    ReadsWithin permitted size count total oracle fun oracle => use (compute oracle) :=
  reads.determined fun _ _ same => congrArg use same

theorem congr {compute compute' : (Query → Answer) → Value}
    (reads : ReadsWithin permitted size count total oracle compute)
    (same : ∀ answers, compute' answers = compute answers) :
    ReadsWithin permitted size count total oracle compute' := by
  rw [funext same]
  exact reads

/-- What is read next may depend on the value, but only on the one that this oracle leads to. -/
theorem andThen {first : (Query → Answer) → Value} {next : Value → (Query → Answer) → Next}
    (reads : ReadsWithin permitted size count total oracle first)
    (later : ReadsWithin permitted size count' total' oracle (next (first oracle))) :
    ReadsWithin permitted size (count + count') (total + total') oracle
      fun oracle => next (first oracle) oracle := by
  obtain ⟨queries, footprint⟩ := reads
  obtain ⟨queries', footprint'⟩ := later
  refine ⟨queries ++ queries', ?_, ?_, ?_, ?_⟩
  · rw [List.length_append]
    exact Nat.add_le_add footprint.count footprint'.count
  · rw [List.map_append, List.sum_append]
    exact Nat.add_le_add footprint.total footprint'.total
  · intro query member
    exact (List.mem_append.mp member).elim (footprint.permitted query)
      (footprint'.permitted query)
  · intro other agree
    have before := footprint.rests other fun query member =>
      agree query (List.mem_append_left _ member)
    rw [before]
    exact footprint'.rests other fun query member => agree query (List.mem_append_right _ member)

theorem bind {first : (Query → Answer) → Outcome Error Value}
    {next : Value → (Query → Answer) → Outcome Error Next}
    (reads : ReadsWithin permitted size count total oracle first)
    (later : ∀ value, first oracle = .ok value →
      ReadsWithin permitted size count' total' oracle (next value)) :
    ReadsWithin permitted size (count + count') (total + total') oracle
      fun oracle => first oracle >>= fun value => next value oracle := by
  have silent : ∀ outcome : Outcome Error Next,
      ReadsWithin permitted size count' total' oracle fun _ => outcome :=
    fun outcome => (const outcome).weaken (Nat.zero_le _) (Nat.zero_le _)
  have step : ReadsWithin permitted size count' total' oracle fun answers =>
      first oracle >>= fun value => next value answers := by
    cases result : first oracle with
    | ok value => exact later value result
    | err error => exact silent (.err error)
    | panicked => exact silent .panicked
  exact @andThen _ _ _ _ _ _ _ _ _ _ _ first (fun outcome answers => outcome >>= fun value =>
    next value answers) reads step

end ReadsWithin

end Foundation
