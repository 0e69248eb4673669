import Mathlib.Data.Nat.Bitwise
import Loi.Foundation.Scan
import Loi.Memory

/-! What the readers do on a tracee memory that is mapped in pages. -/

set_option autoImplicit false

namespace Loi.Memory

open Nix Foundation

/-- The memory of a stopped tracee: 64-bit addresses, mapped a page at a time. -/
structure TraceeMemory where
  byteAt : Nat → Option UInt8
  bounded : ∀ address, 2 ^ 64 ≤ address → byteAt address = none
  paged : ∀ left right, left / 4096 = right / 4096 →
    (byteAt left).isSome = (byteAt right).isSome

def topPage : Nat := 2 ^ 64 - 4096

namespace TraceeMemory

def read (memory : TraceeMemory) (base : Nat) : Nat → Option (List UInt8)
  | 0 => some []
  | len + 1 => do
      let byte ← memory.byteAt base
      let rest ← read memory (base + 1) len
      return byte :: rest

/-- The bytes from `base` on are `bytes`. -/
def Holds (memory : TraceeMemory) (base : Nat) (bytes : List UInt8) : Prop :=
  ∀ index (bound : index < bytes.length), memory.byteAt (base + index) = some bytes[index]

theorem holds_cons {memory : TraceeMemory} {base : Nat} {byte : UInt8} {rest : List UInt8} :
    memory.Holds base (byte :: rest) ↔
      memory.byteAt base = some byte ∧ memory.Holds (base + 1) rest := by
  constructor
  · intro holds
    refine ⟨holds 0 (by simp), ?_⟩
    intro index bound
    have found := holds (index + 1) (by simpa using bound)
    rw [Nat.add_assoc, Nat.add_comm 1 index]
    simpa using found
  · intro parts index bound
    obtain ⟨first, later⟩ := parts
    cases index with
    | zero => simpa using first
    | succ index =>
        have found := later index (by simpa using bound)
        rw [Nat.add_assoc, Nat.add_comm 1 index] at found
        simpa using found

theorem read_eq_some_iff {memory : TraceeMemory} {base len : Nat} {bytes : List UInt8} :
    memory.read base len = some bytes ↔ bytes.length = len ∧ memory.Holds base bytes := by
  induction len generalizing base bytes with
  | zero =>
      cases bytes with
      | nil => simp [read, Holds]
      | cons byte rest => simp [read]
  | succ len ih =>
      cases bytes with
      | nil =>
          simp only [read, Option.bind_eq_bind, Option.bind_eq_some_iff]
          simp
      | cons byte rest =>
          rw [holds_cons]
          simp only [read, Option.bind_eq_bind, Option.bind_eq_some_iff, Option.pure_def,
            Option.some.injEq, List.cons.injEq, List.length_cons, Nat.add_right_cancel_iff]
          constructor
          · intro found
            obtain ⟨_, first, _, later, rfl, rfl⟩ := found
            obtain ⟨length, holds⟩ := ih.mp later
            exact ⟨length, first, holds⟩
          · intro parts
            obtain ⟨length, first, holds⟩ := parts
            exact ⟨byte, first, rest, ih.mpr ⟨length, holds⟩, rfl, rfl⟩

theorem read_eq_none_iff {memory : TraceeMemory} {base len : Nat} :
    memory.read base len = none ↔ ∃ index < len, memory.byteAt (base + index) = none := by
  induction len generalizing base with
  | zero => simp [read]
  | succ len ih =>
      cases first : memory.byteAt base with
      | none =>
          simp only [read, first, Option.bind_eq_bind, Option.bind_none, true_iff]
          exact ⟨0, Nat.succ_pos _, first⟩
      | some byte =>
          have unfolded : memory.read base (len + 1) =
              (memory.read (base + 1) len).map (byte :: ·) := by
            simp only [read, first, Option.bind_eq_bind, Option.bind_some]
            cases memory.read (base + 1) len <;> rfl
          rw [unfolded, Option.map_eq_none_iff, ih]
          constructor
          · intro found
            obtain ⟨index, bound, missing⟩ := found
            exact ⟨index + 1, by omega, by rw [← missing]; congr 1; omega⟩
          · intro found
            obtain ⟨index, bound, missing⟩ := found
            cases index with
            | zero => simp [first] at missing
            | succ index => exact ⟨index, by omega, by rw [← missing]; congr 1; omega⟩

end TraceeMemory

/-- `process_vm_readv` on `pid` reads this memory: it transfers a range that is
readable throughout, and fails or falls short on any other. -/
def Serves (host : Host) (pid : Pid) (memory : TraceeMemory) : Prop :=
  ∀ (base : UInt64) (len : Nat),
    match memory.read base.toNat len with
    | some bytes => host.processVmReadv pid base len = .ok bytes
    | none => ∀ bytes, host.processVmReadv pid base len = .ok bytes → bytes.length ≠ len

theorem readBytes_panics (host : Host) (pid : Pid) (addr : UInt64) (len : Nat) :
    ¬ (readBytes host pid addr len).Panics := by
  unfold readBytes readViaPtrace
  split <;> split <;> simp

theorem readBytes_length {host : Host} {pid : Pid} {addr : UInt64} {len : Nat}
    {bytes : List UInt8} (success : readBytes host pid addr len = .ok bytes) :
    bytes.length = len := by
  unfold readBytes readViaPtrace at success
  split at success
  · split at success
    · rename_i answered length
      cases success
      exact length
    · cases success
  · split at success <;> cases success

theorem readBytes_eq_ok_iff {host : Host} {pid : Pid} {memory : TraceeMemory}
    (serves : Serves host pid memory) {addr : UInt64} {len : Nat} {bytes : List UInt8} :
    readBytes host pid addr len = .ok bytes ↔ memory.read addr.toNat len = some bytes := by
  have answer := serves addr len
  cases held : memory.read addr.toNat len with
  | some found =>
      rw [held] at answer
      have length := (TraceeMemory.read_eq_some_iff.mp held).1
      simp [readBytes, answer, length]
  | none =>
      rw [held] at answer
      simp only [reduceCtorEq, iff_false]
      unfold readBytes readViaPtrace
      intro success
      split at success
      · rename_i answered
        split at success
        · rename_i length
          exact answer _ answered length
        · cases success
      · split at success <;> cases success

theorem read_eq_none_of_err {host : Host} {pid : Pid} {memory : TraceeMemory}
    (serves : Serves host pid memory) {addr : UInt64} {len : Nat} {error : MemError}
    (failed : readBytes host pid addr len = .err error) : memory.read addr.toNat len = none := by
  cases held : memory.read addr.toNat len with
  | none => rfl
  | some bytes =>
      rw [(readBytes_eq_ok_iff serves).mpr held] at failed
      cases failed

theorem toNat_or_pageMask (cursor : UInt64) :
    (cursor ||| (PAGE_SIZE - 1)).toNat = cursor.toNat / 4096 * 4096 + 4095 := by
  have mask : (PAGE_SIZE - 1).toNat = 2 ^ 12 - 1 := by decide
  rw [UInt64.toNat_or, mask]
  apply Nat.eq_of_testBit_eq
  intro bit
  have low : cursor.toNat / 4096 * 4096 + 4095 = 2 ^ 12 * (cursor.toNat / 4096) + (2 ^ 12 - 1) := by
    omega
  rw [low, Nat.testBit_or, Nat.testBit_two_pow_mul_add _ (by decide), Nat.testBit_two_pow_sub_one]
  by_cases small : bit < 12
  · simp [small]
  · have shifted : (cursor.toNat / 4096).testBit (bit - 12) = cursor.toNat.testBit bit := by
      rw [show 4096 = 2 ^ 12 from rfl, Nat.testBit_div_two_pow, Nat.sub_add_cancel (by omega)]
    simp [small, shifted]

def chunkAt (cursor : UInt64) (remaining : Nat) : Nat :=
  min remaining (4096 - cursor.toNat % 4096)

theorem chunkAt_le (cursor : UInt64) (remaining : Nat) : chunkAt cursor remaining ≤ remaining :=
  Nat.min_le_left _ _

theorem chunkAt_pos (cursor : UInt64) {remaining : Nat} (more : remaining ≠ 0) :
    0 < chunkAt cursor remaining := by
  simp only [chunkAt]
  omega

theorem chunkAt_inPage (cursor : UInt64) (remaining : Nat) :
    cursor.toNat % 4096 + chunkAt cursor remaining ≤ 4096 := by
  simp only [chunkAt]
  omega

/-- A round below the last page overflows nowhere, and no round does where nothing
checks. -/
theorem readCstrLoop_steps {Error : Type} {host : Host} {cursor : UInt64}
    (safe : host.profile.overflowChecks = false ∨ cursor.toNat < topPage) :
    ∃ nextPage toPage : UInt64,
      (host.profile.add (cursor ||| (PAGE_SIZE - 1)) 1 : Outcome Error UInt64) = .ok nextPage ∧
      (host.profile.sub nextPage cursor : Outcome Error UInt64) = .ok toPage ∧
      (∀ remaining, min remaining toPage.toNat = chunkAt cursor remaining) ∧
      ∀ remaining, (host.profile.add cursor (UInt64.ofNat (chunkAt cursor remaining)) :
        Outcome Error UInt64) = .ok (cursor + UInt64.ofNat (chunkAt cursor remaining)) := by
  have one : (1 : UInt64).toNat = 1 := rfl
  have bounded := cursor.toNat_lt
  have nextPage : ((cursor ||| (PAGE_SIZE - 1)) + 1).toNat =
      (cursor.toNat / 4096 * 4096 + 4096) % 2 ^ 64 := by
    rw [UInt64.toNat_add, toNat_or_pageMask, one]
  refine ⟨(cursor ||| (PAGE_SIZE - 1)) + 1, (cursor ||| (PAGE_SIZE - 1)) + 1 - cursor,
    host.profile.add_eq_ok_of ?_, host.profile.sub_eq_ok_of ?_, ?_, ?_⟩
  · refine safe.imp_right fun below => ?_
    rw [toNat_or_pageMask, one]
    simp only [topPage] at below
    omega
  · refine safe.imp_right fun below => ?_
    rw [UInt64.le_iff_toNat_le, nextPage]
    simp only [topPage] at below
    omega
  · intro remaining
    rw [UInt64.toNat_sub, nextPage, chunkAt]
    omega
  · intro remaining
    apply host.profile.add_eq_ok_of
    refine safe.imp_right fun below => ?_
    rw [UInt64.toNat_ofNat']
    simp only [chunkAt, topPage] at below ⊢
    omega

theorem readCstrLoop_top {host : Host} (checked : host.profile.overflowChecks = true) (pid : Pid)
    (max fuel : Nat) {cursor : UInt64} {remaining : Nat} (out : List UInt8)
    (more : remaining ≠ 0) (top : topPage ≤ cursor.toNat) :
    readCstrLoop host pid max (fuel + 1) cursor remaining out = .panicked := by
  have overflows : 2 ^ 64 ≤ (cursor ||| (PAGE_SIZE - 1)).toNat + (1 : UInt64).toNat := by
    rw [toNat_or_pageMask]
    simp only [topPage] at top
    have one : (1 : UInt64).toNat = 1 := rfl
    omega
  rw [readCstrLoop, if_neg more, host.profile.add_panics checked overflows]
  rfl

theorem readCstrLoop_round {host : Host} {cursor : UInt64}
    (safe : host.profile.overflowChecks = false ∨ cursor.toNat < topPage) (pid : Pid)
    (max fuel : Nat) {remaining : Nat} (out : List UInt8) (more : remaining ≠ 0) :
    readCstrLoop host pid max (fuel + 1) cursor remaining out =
      (readBytes host pid cursor (chunkAt cursor remaining) >>= fun bytes =>
        match bytes.findIdx? (· = 0) with
        | some index => .ok (out ++ bytes.take index)
        | none =>
            readCstrLoop host pid max fuel (cursor + UInt64.ofNat (chunkAt cursor remaining))
              (remaining - chunkAt cursor remaining) (out ++ bytes)) := by
  obtain ⟨nextPage, toPage, adds, subtracts, chunk, advances⟩ := readCstrLoop_steps safe
  have consumes := chunkAt_le cursor remaining
  rw [readCstrLoop, if_neg more, adds, Outcome.ok_bind, subtracts, Outcome.ok_bind, chunk]
  dsimp only
  congr 1
  funext bytes
  cases bytes.findIdx? (· = 0) with
  | some index => rfl
  | none =>
      dsimp only
      rw [advances, Outcome.ok_bind, host.profile.subSize_eq_ok consumes, Outcome.ok_bind]

def TraceeMemory.Continues (memory : TraceeMemory) (address : Nat) : Prop :=
  ∃ byte, memory.byteAt address = some byte ∧ byte ≠ 0

/-- Reading a string of at most `max` bytes gets to the last page: there is no
NUL and no unreadable byte between `addr` and that page, or `addr` is in it. -/
structure RunsOffTop (memory : TraceeMemory) (addr max : Nat) : Prop where
  asks : 0 < max
  reaches : topPage < addr + max
  continues : ∀ address, addr ≤ address → address < topPage → memory.Continues address

/-- `text` and its NUL stand at `addr`, within `max` bytes and below the last page. -/
structure StringAt (memory : TraceeMemory) (addr max : Nat) (text : List UInt8) : Prop where
  within : text.length < max
  below : addr + text.length < topPage
  holds : memory.Holds addr text
  nonzero : ∀ byte ∈ text, byte ≠ 0
  terminated : memory.byteAt (addr + text.length) = some 0

/-- A string is a terminated text below the last page. -/
theorem stringAt_iff {memory : TraceeMemory} {addr max : Nat} {text : List UInt8} :
    StringAt memory addr max text ↔
      addr + text.length < topPage ∧
        TerminatedText 0 (fun index => memory.byteAt (addr + index)) max text := by
  constructor
  · intro string
    exact ⟨string.below, string.within, string.holds, fun member => string.nonzero 0 member rfl,
      string.terminated⟩
  · intro parts
    obtain ⟨below, text⟩ := parts
    exact ⟨text.within, below, text.holds, fun byte member zero => text.before (zero ▸ member),
      text.ends⟩

theorem StringAt.unique {memory : TraceeMemory} {addr max max' : Nat} {text text' : List UInt8}
    (string : StringAt memory addr max text) (string' : StringAt memory addr max' text') :
    text = text' :=
  (stringAt_iff.mp string).2.unique (stringAt_iff.mp string').2

/-- A string goes on where a whole chunk without a NUL ended. -/
theorem stringAt_append_iff {memory : TraceeMemory} {addr max : Nat} {chunk text : List UInt8}
    (held : memory.Holds addr chunk) (nonzero : ∀ byte ∈ chunk, byte ≠ 0)
    (consumes : chunk.length ≤ max) :
    StringAt memory addr max text ↔
      ∃ rest, text = chunk ++ rest ∧
        StringAt memory (addr + chunk.length) (max - chunk.length) rest := by
  have free : 0 ∉ chunk := fun member => nonzero 0 member rfl
  simp only [stringAt_iff, terminatedText_chunk held free consumes, Nat.add_assoc]
  constructor
  · intro parts
    obtain ⟨below, rest, rfl, later⟩ := parts
    rw [List.length_append] at below
    exact ⟨rest, rfl, below, later⟩
  · intro parts
    obtain ⟨rest, rfl, below, later⟩ := parts
    rw [List.length_append]
    exact ⟨below, rest, rfl, later⟩

theorem runsOffTop_append {memory : TraceeMemory} {addr max : Nat} {chunk : List UInt8}
    (held : memory.Holds addr chunk) (nonzero : ∀ byte ∈ chunk, byte ≠ 0)
    (below : addr + chunk.length ≤ topPage) :
    RunsOffTop memory (addr + chunk.length) (max - chunk.length) ↔ RunsOffTop memory addr max := by
  constructor
  · intro runs
    have asks := runs.asks
    have reaches := runs.reaches
    refine ⟨by omega, by omega, ?_⟩
    intro address after before
    rcases Nat.lt_or_ge address (addr + chunk.length) with inside | later
    · have read := held (address - addr) (by omega)
      rw [Nat.add_sub_cancel' after] at read
      exact ⟨_, read, nonzero _ (List.getElem_mem _)⟩
    · exact runs.continues address later before
  · intro runs
    have reaches := runs.reaches
    refine ⟨by omega, by omega, ?_⟩
    intro address after before
    exact runs.continues address (by omega) before

/-- An unreadable byte of a page makes all of it unreadable. -/
theorem byteAt_eq_none_of_read {memory : TraceeMemory} {cursor : UInt64} {remaining : Nat}
    (unread : memory.read cursor.toNat (chunkAt cursor remaining) = none) :
    memory.byteAt cursor.toNat = none := by
  obtain ⟨index, bound, missing⟩ := TraceeMemory.read_eq_none_iff.mp unread
  have inPage := chunkAt_inPage cursor remaining
  have page := memory.paged cursor.toNat (cursor.toNat + index) (by omega)
  rw [missing, Option.isSome_none] at page
  simpa using page

/-- With nothing to read at `addr` and below the last page there is no string at
`addr`, and no way to the last page. -/
theorem nothing_at_unreadable {memory : TraceeMemory} {addr max : Nat} (below : addr < topPage)
    (missing : memory.byteAt addr = none) :
    ¬ RunsOffTop memory addr max ∧ ∀ text, ¬ StringAt memory addr max text := by
  constructor
  · intro runs
    obtain ⟨byte, found, _⟩ := runs.continues addr (Nat.le_refl _) below
    rw [missing] at found
    cases found
  · intro text string
    exact not_terminatedText_of_unreadable missing text (stringAt_iff.mp string).2

theorem stringAt_chunk {memory : TraceeMemory} {addr max index : Nat} {chunk : List UInt8}
    (held : memory.Holds addr chunk) (search : chunk.findIdx? (· = 0) = some index)
    (within : chunk.length ≤ max) (below : addr + chunk.length ≤ topPage) :
    StringAt memory addr max (chunk.take index) ∧ ¬ RunsOffTop memory addr max := by
  have terminated := terminatedText_take held search within
  obtain ⟨bound, _⟩ := List.findIdx?_eq_some_iff_getElem.mp search
  have size : (chunk.take index).length = index := by
    rw [List.length_take]
    omega
  have inside : addr + (chunk.take index).length < topPage := by omega
  refine ⟨stringAt_iff.mpr ⟨inside, terminated⟩, ?_⟩
  intro runs
  obtain ⟨byte, read, nonzero⟩ := runs.continues _ (Nat.le_add_right _ _) inside
  rw [terminated.ends] at read
  exact nonzero (Option.some.inj read).symm

theorem nothing_within_zero (memory : TraceeMemory) (addr : Nat) :
    ¬ RunsOffTop memory addr 0 ∧ ∀ text, ¬ StringAt memory addr 0 text := by
  constructor
  · intro runs
    exact Nat.lt_irrefl 0 runs.asks
  · intro text string
    exact Nat.not_lt_zero _ string.within

/-- The outcome of reading on at `addr` with `out` already read. -/
structure ReadsString (memory : TraceeMemory) (addr max : Nat) (out : List UInt8)
    (outcome : Outcome MemError (List UInt8)) : Prop where
  panics : outcome.Panics ↔ RunsOffTop memory addr max
  returns : ∀ result, outcome = .ok result ↔
    ∃ text, result = out ++ text ∧ StringAt memory addr max text

theorem ReadsString.failed {memory : TraceeMemory} {addr max : Nat} {out : List UInt8}
    {error : MemError}
    (nothing : ¬ RunsOffTop memory addr max ∧ ∀ text, ¬ StringAt memory addr max text) :
    ReadsString memory addr max out (.err error) := by
  obtain ⟨noRun, noString⟩ := nothing
  constructor
  · simp [noRun]
  · intro result
    simp [noString]

theorem ReadsString.finished {memory : TraceeMemory} {addr max : Nat} {out text : List UInt8}
    (string : StringAt memory addr max text) (noRun : ¬ RunsOffTop memory addr max) :
    ReadsString memory addr max out (.ok (out ++ text)) := by
  constructor
  · simp [noRun]
  · intro result
    simp only [Outcome.ok.injEq]
    constructor
    · intro same
      exact ⟨text, same.symm, string⟩
    · intro given
      obtain ⟨other, same, otherString⟩ := given
      rw [same, string.unique otherString]

theorem ReadsString.overflowed {memory : TraceeMemory} {addr max : Nat} {out : List UInt8}
    (asks : max ≠ 0) (top : topPage ≤ addr) : ReadsString memory addr max out .panicked := by
  constructor
  · simp only [Outcome.panics_panicked, true_iff]
    refine ⟨by omega, by omega, ?_⟩
    intro address after before
    omega
  · intro result
    simp only [reduceCtorEq, false_iff, not_exists, not_and]
    intro text _ string
    have below := string.below
    omega

/-- A chunk without a NUL hands over to the round behind it. -/
theorem ReadsString.later {memory : TraceeMemory} {addr max : Nat} {out chunk : List UInt8}
    {outcome : Outcome MemError (List UInt8)} (held : memory.Holds addr chunk)
    (nonzero : ∀ byte ∈ chunk, byte ≠ 0) (below : addr + chunk.length ≤ topPage)
    (consumes : chunk.length ≤ max)
    (reads : ReadsString memory (addr + chunk.length) (max - chunk.length) (out ++ chunk) outcome) :
    ReadsString memory addr max out outcome := by
  constructor
  · rw [reads.panics, runsOffTop_append held nonzero below]
  · intro result
    rw [reads.returns result]
    constructor
    · intro given
      obtain ⟨rest, same, string⟩ := given
      exact ⟨chunk ++ rest, by rw [same, List.append_assoc],
        (stringAt_append_iff held nonzero consumes).mpr ⟨rest, rfl, string⟩⟩
    · intro given
      obtain ⟨text, same, string⟩ := given
      obtain ⟨rest, rfl, later⟩ := (stringAt_append_iff held nonzero consumes).mp string
      exact ⟨rest, by rw [same, List.append_assoc], later⟩

/-- The loop from any round on, by induction on its fuel. -/
theorem readCstrLoop_reads {host : Host} (checked : host.profile.overflowChecks = true)
    {pid : Pid} {memory : TraceeMemory} (serves : Serves host pid memory) (max : Nat) {fuel : Nat}
    {cursor : UInt64} {remaining : Nat} {out : List UInt8} (enough : remaining ≤ fuel) :
    ReadsString memory cursor.toNat remaining out
      (readCstrLoop host pid max fuel cursor remaining out) := by
  induction fuel generalizing cursor remaining out with
  | zero =>
      have done : remaining = 0 := Nat.le_zero.mp enough
      subst done
      exact .failed (nothing_within_zero memory _)
  | succ fuel ih =>
      by_cases done : remaining = 0
      · subst done
        exact .failed (nothing_within_zero memory _)
      rcases Nat.lt_or_ge cursor.toNat topPage with below | top
      · rw [readCstrLoop_round (.inr below) pid max fuel out done]
        have pageEnd : cursor.toNat + chunkAt cursor remaining ≤ topPage := by
          simp only [chunkAt, topPage] at below ⊢
          omega
        have consumes := chunkAt_le cursor remaining
        have positive := chunkAt_pos cursor done
        cases answered : readBytes host pid cursor (chunkAt cursor remaining) with
        | panicked => exact absurd answered (readBytes_panics host pid cursor _)
        | err error =>
            have missing := byteAt_eq_none_of_read (read_eq_none_of_err serves answered)
            exact .failed (nothing_at_unreadable below missing)
        | ok bytes =>
            obtain ⟨length, held⟩ :=
              TraceeMemory.read_eq_some_iff.mp ((readBytes_eq_ok_iff serves).mp answered)
            have within : bytes.length ≤ remaining := by omega
            rw [Outcome.ok_bind]
            cases search : bytes.findIdx? (· = 0) with
            | some index =>
                obtain ⟨string, noRun⟩ := stringAt_chunk held search within (by omega)
                exact .finished string noRun
            | none =>
                have nonzero : ∀ byte ∈ bytes, byte ≠ 0 := by
                  simpa using List.findIdx?_eq_none_iff.mp search
                have position : (cursor + UInt64.ofNat (chunkAt cursor remaining)).toNat =
                    cursor.toNat + bytes.length := by
                  have inPage := chunkAt_inPage cursor remaining
                  have small : chunkAt cursor remaining < 2 ^ 64 := by omega
                  rw [UInt64.toNat_add, UInt64.toNat_ofNat', Nat.mod_eq_of_lt small, length]
                  simp only [topPage] at pageEnd
                  omega
                apply ReadsString.later held nonzero (by omega) within
                rw [← position, length]
                exact ih (by omega)
      · rw [readCstrLoop_top checked pid max fuel out done top]
        exact .overflowed done top

theorem readCstr_reads {host : Host} (checked : host.profile.overflowChecks = true)
    {pid : Pid} {memory : TraceeMemory} (serves : Serves host pid memory) (addr : UInt64)
    (max : Nat) : ReadsString memory addr.toNat max [] (readCstr host pid addr max) :=
  readCstrLoop_reads checked serves max (Nat.le_refl max)

/-- `read_cstr` overflows exactly when its way leads to the last page. -/
theorem readCstr_panics_iff {host : Host} (checked : host.profile.overflowChecks = true)
    {pid : Pid} {memory : TraceeMemory} (serves : Serves host pid memory) (addr : UInt64)
    (max : Nat) : (readCstr host pid addr max).Panics ↔ RunsOffTop memory addr.toNat max :=
  (readCstr_reads checked serves addr max).panics

/-- `read_cstr` returns exactly the string that stands at `addr`. -/
theorem readCstr_eq_ok_iff {host : Host} (checked : host.profile.overflowChecks = true)
    {pid : Pid} {memory : TraceeMemory} (serves : Serves host pid memory) (addr : UInt64)
    (max : Nat) (text : List UInt8) :
    readCstr host pid addr max = .ok text ↔ StringAt memory addr.toNat max text := by
  simpa using (readCstr_reads checked serves addr max).returns text

end Loi.Memory
