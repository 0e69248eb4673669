import Loi.Foundation.Text
import Loi.Syscalls.Decoders

/-! Syscall numbers and decoder dispatch. -/

set_option autoImplicit false

namespace Loi.Syscalls

open Nix Foundation

/-- A row of the host's syscall table: those that have a decoder, and the rest
by their number. -/
inductive Sysno where
  | openat | read | write | close | fstat | statx | mmap | mprotect | execve | clone | wait4 | stat
  | other (nr : UInt64)
  deriving DecidableEq, Repr

/-- The per-architecture table of the `syscalls` crate. No name in it is too wide for `std` to
format in a column. -/
structure SysnoTable where
  fromNr : UInt64 → Option Sysno
  id : Sysno → UInt64
  name : Sysno → String
  narrow : ∀ sysno, (name sysno).utf8ByteSize ≤ FORMAT_WIDTH_MAX

def SysnoTable.Covers (table : SysnoTable) (sysno : Sysno) : Prop :=
  table.fromNr (table.id sysno) = some sysno

instance (table : SysnoTable) (sysno : Sysno) : Decidable (table.Covers sysno) :=
  inferInstanceAs (Decidable (_ = _))

namespace Registry

def name (table : SysnoTable) (nr : UInt64) : Option String :=
  (table.fromNr nr).map table.name

end Registry

/-- The name that is made of a number is narrow as well. -/
theorem synthetic_narrow (nr : UInt64) :
    ("syscall_" ++ toString nr).utf8ByteSize ≤ FORMAT_WIDTH_MAX := by
  have bound : nr.toNat < 10 ^ 20 := Nat.lt_trans nr.toNat_lt (by decide)
  have digits : (toString nr).utf8ByteSize ≤ 20 := natToString_size (by decide) bound
  have stem : "syscall_".utf8ByteSize = 8 := rfl
  unfold FORMAT_WIDTH_MAX
  rw [String.utf8ByteSize_append, stem]
  omega

structure Registry where
  decoders : Sysno → Option Decoder

namespace Registry

def new : Registry :=
  { decoders := fun _ => none }

def register (host : Host) (table : SysnoTable) (nr : UInt64) (decoder : Decoder)
    (registry : Registry) : Outcome Empty Registry :=
  match table.fromNr nr with
  | some sysno =>
      .ok { decoders := fun other => if other = sysno then some decoder else registry.decoders other }
  | none => do
      host.profile.debugAssert False
      return registry

/-- The rows that `with_default_decoders` fills, in its order. -/
def defaultDecoders (arch : Libc.Arch) : List (Sysno × Decoder) :=
  [(.openat, OpenAt), (.read, Read), (.write, Write), (.close, Close), (.fstat, Fstat),
    (.statx, Statx), (.mmap, Mmap), (.mprotect, Mprotect), (.execve, Execve), (.clone, Clone),
    (.wait4, Wait4)] ++
  match arch with
  | .x86_64 => [(.stat, Stat)]
  | .aarch64 => []

def withDefaultDecoders (host : Host) (table : SysnoTable) : Outcome Empty Registry :=
  (defaultDecoders host.arch).foldlM
    (fun registry row => registry.register host table (table.id row.1) row.2) new

def decoder (registry : Registry) (table : SysnoTable) (nr : UInt64) : Option Decoder :=
  (table.fromNr nr).bind registry.decoders

def category (registry : Registry) (table : SysnoTable) (nr : UInt64) : Option Category :=
  (registry.decoder table nr).map Decoder.category

theorem registerAll_ok (host : Host) {table : SysnoTable} {rows : List (Sysno × Decoder)}
    (covers : ∀ row ∈ rows, table.Covers row.1) (registry : Registry) :
    ∃ filled, rows.foldlM
        (fun registry row => registry.register host table (table.id row.1) row.2) registry =
        .ok filled ∧
      ∀ sysno decoder, filled.decoders sysno = some decoder →
        (sysno, decoder) ∈ rows ∨ registry.decoders sysno = some decoder := by
  induction rows generalizing registry with
  | nil => exact ⟨registry, rfl, fun _ _ held => .inr held⟩
  | cons row rows ih =>
      have known : table.fromNr (table.id row.1) = some row.1 := covers row List.mem_cons_self
      obtain ⟨filled, built, held⟩ := ih (fun other member => covers other (.tail _ member))
        { decoders := fun other => if other = row.1 then some row.2 else registry.decoders other }
      refine ⟨filled, ?_, ?_⟩
      · rw [List.foldlM_cons, register, known]
        exact built
      · intro sysno decoder found
        rcases held sysno decoder found with member | before
        · exact .inl (.tail _ member)
        · by_cases same : sysno = row.1
          · subst same
            simp only [if_true, Option.some.injEq] at before
            subst before
            exact .inl List.mem_cons_self
          · simp only [same, if_false] at before
            exact .inr before

theorem registerAll_rows {host : Host} {table : SysnoTable} {rows : List (Sysno × Decoder)}
    {registry filled : Registry}
    (built : rows.foldlM
      (fun registry row => registry.register host table (table.id row.1) row.2) registry =
      .ok filled) {sysno : Sysno} {decoder : Decoder}
    (found : filled.decoders sysno = some decoder) :
    decoder ∈ rows.map Prod.snd ∨ registry.decoders sysno = some decoder := by
  induction rows generalizing registry with
  | nil =>
      cases built
      exact .inr found
  | cons row rows ih =>
      rw [List.foldlM_cons, Outcome.bind_eq_ok_iff] at built
      obtain ⟨next, registered, rest⟩ := built
      rcases ih rest with member | before
      · exact .inl (.tail _ member)
      · unfold register at registered
        split at registered
        · cases registered
          dsimp only at before
          split_ifs at before
          · cases before
            exact .inl List.mem_cons_self
          · exact .inr before
        · obtain ⟨_, _, same⟩ := Outcome.bind_eq_ok_iff.mp registered
          cases same
          exact .inr before

/-- Whatever the table, a decoder that is found is one of the defaults. -/
theorem withDefaultDecoders_default {host : Host} {table : SysnoTable} {registry : Registry}
    (built : withDefaultDecoders host table = .ok registry) {sysno : Sysno} {decoder : Decoder}
    (found : registry.decoders sysno = some decoder) :
    decoder ∈ (defaultDecoders host.arch).map Prod.snd := by
  rcases registerAll_rows built found with member | before
  · exact member
  · cases before

/-- With a table that has the decoded rows nothing is dropped, and every decoder
that is found is one of the defaults, under its own row. -/
theorem withDefaultDecoders_ok (host : Host) {table : SysnoTable}
    (covers : ∀ row ∈ defaultDecoders host.arch, table.Covers row.1) :
    ∃ registry, withDefaultDecoders host table = .ok registry ∧
      ∀ sysno decoder, registry.decoders sysno = some decoder →
        (sysno, decoder) ∈ defaultDecoders host.arch := by
  obtain ⟨registry, built, held⟩ := registerAll_ok host covers new
  refine ⟨registry, built, ?_⟩
  intro sysno decoder found
  rcases held sysno decoder found with member | before
  · exact member
  · cases before

end Registry

end Loi.Syscalls
