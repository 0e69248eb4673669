import Loi.Foundation.Scan
import Loi.Foundation.Traced
import Loi.MemoryProperties

/-! `read_cstr` is the reading byte by byte, and what chunks it reads for that. -/

set_option autoImplicit false

namespace Loi.Memory

open Nix Foundation

/-- The bytes at `addr` and behind it, in an address space that goes round at 64 bits. -/
def TraceeMemory.cells (memory : TraceeMemory) (addr : UInt64) (index : Nat) : Option UInt8 :=
  memory.byteAt ((addr.toNat + index) % 2 ^ 64)

/-- An address and a length, as `read_bytes` is called with them. -/
abbrev Chunk := UInt64 × Nat

section Traced

variable (host : Host) (pid : Pid) (max : Nat)

/-- `readCstrLoop` with a record of its chunk reads. -/
def readCstrLoopTraced :
    Nat → UInt64 → Nat → List UInt8 → Traced Chunk MemError (List UInt8)
  | 0, _, _, _ => .lift (.err (.truncatedCstr max))
  | fuel + 1, cursor, remaining, out =>
      if remaining = 0 then .lift (.err (.truncatedCstr max))
      else do
        let nextPage ← .lift (host.profile.add (cursor ||| (PAGE_SIZE - 1)) 1)
        let toPage ← .lift (host.profile.sub nextPage cursor)
        let chunk := min remaining toPage.toNat
        let bytes ← .ask (cursor, chunk) (readBytes host pid cursor chunk)
        match bytes.findIdx? (· = 0) with
        | some index => .lift (.ok (out ++ bytes.take index))
        | none => do
            let cursor ← .lift (host.profile.add cursor (UInt64.ofNat chunk))
            let remaining ← .lift (host.profile.subSize remaining chunk)
            readCstrLoopTraced fuel cursor remaining (out ++ bytes)

def readCstrTraced (addr : UInt64) : Traced Chunk MemError (List UInt8) :=
  readCstrLoopTraced host pid max max addr max []

theorem readCstrLoopTraced_outcome (fuel : Nat) (cursor : UInt64) (remaining : Nat)
    (out : List UInt8) :
    (readCstrLoopTraced host pid max fuel cursor remaining out).outcome =
      readCstrLoop host pid max fuel cursor remaining out := by
  induction fuel generalizing cursor remaining out with
  | zero => rfl
  | succ fuel ih =>
      rw [readCstrLoopTraced, readCstrLoop]
      split
      · rfl
      · simp only [Traced.outcome_bind, Traced.outcome_lift, Traced.outcome_ask]
        congr 1
        funext nextPage
        congr 1
        funext toPage
        congr 1
        funext bytes
        cases bytes.findIdx? (· = 0) with
        | some index => rfl
        | none => simp only [Traced.outcome_bind, Traced.outcome_lift, ih]

theorem readCstrTraced_outcome (addr : UInt64) :
    (readCstrTraced host pid max addr).outcome = readCstr host pid addr max :=
  readCstrLoopTraced_outcome host pid max max addr max []

variable {host}

theorem readCstrLoopTraced_round {cursor : UInt64}
    (safe : host.profile.overflowChecks = false ∨ cursor.toNat < topPage) (fuel : Nat)
    {remaining : Nat} (out : List UInt8) (more : remaining ≠ 0) :
    readCstrLoopTraced host pid max (fuel + 1) cursor remaining out =
      (Traced.ask (cursor, chunkAt cursor remaining)
          (readBytes host pid cursor (chunkAt cursor remaining)) >>= fun bytes =>
        match bytes.findIdx? (· = 0) with
        | some index => .lift (.ok (out ++ bytes.take index))
        | none =>
            readCstrLoopTraced host pid max fuel
              (cursor + UInt64.ofNat (chunkAt cursor remaining))
              (remaining - chunkAt cursor remaining) (out ++ bytes)) := by
  obtain ⟨nextPage, toPage, adds, subtracts, chunk, advances⟩ := readCstrLoop_steps safe
  have consumes := chunkAt_le cursor remaining
  rw [readCstrLoopTraced, if_neg more, adds, Traced.lift_ok_bind, subtracts, Traced.lift_ok_bind,
    chunk]
  dsimp only
  congr 1
  funext bytes
  cases bytes.findIdx? (· = 0) with
  | some index => rfl
  | none =>
      dsimp only
      rw [advances, Traced.lift_ok_bind, host.profile.subSize_eq_ok consumes,
        Traced.lift_ok_bind]

end Traced

section Chunks

variable {memory : TraceeMemory}

theorem cells_advance (cursor : UInt64) (count : Nat) :
    memory.cells (cursor + UInt64.ofNat count) =
      fun index => memory.cells cursor (count + index) := by
  funext index
  unfold TraceeMemory.cells
  congr 1
  rw [UInt64.toNat_add, UInt64.toNat_ofNat']
  omega

theorem cells_of_holds {cursor : UInt64} {bytes : List UInt8}
    (held : memory.Holds cursor.toNat bytes) (inside : cursor.toNat + bytes.length ≤ 2 ^ 64)
    (index : Nat) (bound : index < bytes.length) :
    memory.cells cursor index = some bytes[index] := by
  rw [← held index bound, TraceeMemory.cells, Nat.mod_eq_of_lt (by omega)]

theorem cells_zero_of_unreadable {cursor : UInt64} {remaining : Nat}
    (unread : memory.read cursor.toNat (chunkAt cursor remaining) = none) :
    memory.cells cursor 0 = none := by
  rw [TraceeMemory.cells, Nat.add_zero, Nat.mod_eq_of_lt cursor.toNat_lt,
    byteAt_eq_none_of_read unread]

end Chunks

/-- A reading by chunks comes to what the reading byte by byte comes to: the same text,
the error for a text that does not end in time, or the error of its last chunk. -/
def ReadsAs (host : Host) (pid : Pid) (max : Nat) (out : List UInt8)
    (traced : Traced Chunk MemError (List UInt8)) : Scan UInt8 → Prop
  | .terminated text => traced.outcome = .ok (out ++ text)
  | .unterminated => traced.outcome = .err (.truncatedCstr max)
  | .unreadable => ∃ base len error, traced.requests.getLast? = some (base, len) ∧
      readBytes host pid base len = .err error ∧ traced.outcome = .err error

section Reads

variable {host : Host} {pid : Pid} {memory : TraceeMemory}

theorem ReadsAs.after {max : Nat} {out chunk : List UInt8}
    {traced : Traced Chunk MemError (List UInt8)} {scanned : Scan UInt8}
    (reads : ReadsAs host pid max (out ++ chunk) traced scanned) (requests : List Chunk) :
    ReadsAs host pid max out (traced.after requests) (scanned.prepend chunk) := by
  cases scanned with
  | terminated text =>
      have found : traced.outcome = .ok (out ++ chunk ++ text) := reads
      rw [Scan.prepend, ReadsAs, Traced.outcome_after, found, List.append_assoc]
  | unterminated => exact reads
  | unreadable =>
      obtain ⟨base, len, error, last, failed, found⟩ := reads
      refine ⟨base, len, error, ?_, failed, found⟩
      rw [Traced.requests_after, List.getLast?_append, last]
      rfl

/-- From any round on, by induction on the fuel; a chunk without a NUL hands over to the
round behind it. -/
theorem readCstrLoopTraced_reads (serves : Serves host pid memory) (max : Nat) {fuel : Nat}
    {cursor : UInt64} {remaining : Nat} {out : List UInt8} (enough : remaining ≤ fuel)
    (safe : host.profile.overflowChecks = false ∨ ¬ RunsOffTop memory cursor.toNat remaining) :
    ReadsAs host pid max out (readCstrLoopTraced host pid max fuel cursor remaining out)
      (scan 0 remaining (memory.cells cursor)) := by
  induction fuel generalizing cursor remaining out with
  | zero =>
      have done : remaining = 0 := Nat.le_zero.mp enough
      subst done
      rfl
  | succ fuel ih =>
      by_cases done : remaining = 0
      · subst done
        rfl
      have notTop : ¬ RunsOffTop memory cursor.toNat remaining → cursor.toNat < topPage := by
        refine fun noRun => Nat.lt_of_not_le fun top => noRun ?_
        exact ⟨Nat.pos_of_ne_zero done, by omega, fun address after before => by omega⟩
      have bounded := cursor.toNat_lt
      have positive := chunkAt_pos cursor done
      rw [readCstrLoopTraced_round pid max (safe.imp_right notTop) fuel out done]
      cases answered : readBytes host pid cursor (chunkAt cursor remaining) with
      | panicked => exact absurd answered (readBytes_panics host pid cursor _)
      | err error =>
          have unread := read_eq_none_of_err serves answered
          rw [Traced.bind_of_err (Traced.outcome_ask _ _),
            scan_unreadable (Nat.pos_of_ne_zero done) (cells_zero_of_unreadable unread)]
          exact ⟨cursor, chunkAt cursor remaining, error, rfl, answered, rfl⟩
      | ok bytes =>
          obtain ⟨length, held⟩ :=
            TraceeMemory.read_eq_some_iff.mp ((readBytes_eq_ok_iff serves).mp answered)
          have within : bytes.length ≤ remaining := length ▸ chunkAt_le cursor remaining
          have inside : cursor.toNat + bytes.length ≤ 2 ^ 64 := by
            have inPage := chunkAt_inPage cursor remaining
            omega
          have cells := cells_of_holds held inside
          rw [Traced.bind_of_ok (Traced.outcome_ask _ _)]
          cases search : bytes.findIdx? (· = 0) with
          | some index =>
              rw [scan_ends cells search within]
              rfl
          | none =>
              have free : 0 ∉ bytes := by
                intro member
                have missing := List.findIdx?_eq_none_iff.mp search 0 member
                simp at missing
              have nonzero : ∀ byte ∈ bytes, byte ≠ 0 := fun byte member zero =>
                free (zero ▸ member)
              rw [scan_chunk cells free within, ← cells_advance, ← length]
              refine ReadsAs.after (ih (by omega) ?_) _
              refine safe.imp_right fun noRun => ?_
              have below := notTop noRun
              have pageEnd : cursor.toNat + bytes.length ≤ topPage := by
                simp only [chunkAt, topPage] at length below ⊢
                omega
              have position : (cursor + UInt64.ofNat bytes.length).toNat =
                  cursor.toNat + bytes.length := by
                rw [UInt64.toNat_add, UInt64.toNat_ofNat']
                simp only [topPage] at pageEnd
                omega
              rw [position, runsOffTop_append held nonzero pageEnd]
              exact noRun

/-- Every round reads a byte, so the loop ends and no fuel beyond `remaining` matters. -/
theorem readCstrLoop_fuel (host : Host) (pid : Pid) (max : Nat) {fuel fuel' : Nat}
    {cursor : UInt64} {remaining : Nat} {out : List UInt8} (enough : remaining ≤ fuel)
    (enough' : remaining ≤ fuel') :
    readCstrLoop host pid max fuel cursor remaining out =
      readCstrLoop host pid max fuel' cursor remaining out := by
  have finished : ∀ fuel, readCstrLoop host pid max fuel cursor 0 out =
      .err (.truncatedCstr max) := by
    intro fuel
    cases fuel <;> rfl
  induction fuel generalizing fuel' cursor remaining out with
  | zero =>
      have done : remaining = 0 := Nat.le_zero.mp enough
      subst done
      rw [finished, finished]
  | succ fuel ih =>
      by_cases done : remaining = 0
      · subst done
        rw [finished, finished]
      cases fuel' with
      | zero => exact absurd (Nat.le_zero.mp enough') done
      | succ fuel' =>
          have positive := chunkAt_pos cursor done
          by_cases safe : host.profile.overflowChecks = false ∨ cursor.toNat < topPage
          · rw [readCstrLoop_round safe pid max fuel out done,
              readCstrLoop_round safe pid max fuel' out done]
            congr 1
            funext bytes
            cases bytes.findIdx? (· = 0) with
            | some index => rfl
            | none =>
                apply ih (by omega) (by omega)
                intro fuel
                cases fuel <;> rfl
          · rw [not_or, Bool.not_eq_false, Nat.not_lt] at safe
            rw [readCstrLoop_top safe.1 pid max fuel out done safe.2,
              readCstrLoop_top safe.1 pid max fuel' out done safe.2]

theorem readBytes_error {addr : UInt64} {len : Nat} {error : MemError}
    (failed : readBytes host pid addr len = .err error) (max : Nat) :
    error ≠ .truncatedCstr max := by
  intro truncated
  subst truncated
  unfold readBytes readViaPtrace at failed
  split at failed <;> split at failed <;> cases failed

theorem ReadsAs.ok_iff {max : Nat} {traced : Traced Chunk MemError (List UInt8)}
    {scanned : Scan UInt8} (reads : ReadsAs host pid max [] traced scanned) (text : List UInt8) :
    traced.outcome = .ok text ↔ scanned = .terminated text := by
  cases scanned with
  | terminated found =>
      have returned : traced.outcome = .ok found := reads
      simp [returned]
  | unterminated =>
      have failed : traced.outcome = .err (.truncatedCstr max) := reads
      simp [failed]
  | unreadable =>
      obtain ⟨_, _, error, _, _, failed⟩ := reads
      simp [failed]

theorem ReadsAs.truncated_iff {max : Nat} {traced : Traced Chunk MemError (List UInt8)}
    {scanned : Scan UInt8} (reads : ReadsAs host pid max [] traced scanned) :
    traced.outcome = .err (.truncatedCstr max) ↔ scanned = .unterminated := by
  cases scanned with
  | terminated found =>
      have returned : traced.outcome = .ok found := reads
      simp [returned]
  | unterminated => exact iff_of_true reads rfl
  | unreadable =>
      obtain ⟨_, _, error, _, answered, failed⟩ := reads
      simp [failed, readBytes_error answered max]

end Reads

/-- A string that does not lead to the last page does not go round. -/
theorem stringAt_of_terminatedText {memory : TraceeMemory} {addr : UInt64} {max : Nat}
    {text : List UInt8} (terminated : TerminatedText 0 (memory.cells addr) max text)
    (noRun : ¬ RunsOffTop memory addr.toNat max) : StringAt memory addr.toNat max text := by
  have within := terminated.within
  have plain : ∀ index, addr.toNat + index < 2 ^ 64 →
      memory.cells addr index = memory.byteAt (addr.toNat + index) := by
    intro index inside
    rw [TraceeMemory.cells, Nat.mod_eq_of_lt inside]
  have nonzero : ∀ byte ∈ text, byte ≠ 0 := fun byte member zero =>
    terminated.before (zero ▸ member)
  have below : addr.toNat + text.length < topPage := by
    apply Nat.lt_of_not_le
    refine fun top => noRun ⟨by omega, by omega, ?_⟩
    intro address after before
    have bound : address - addr.toNat < text.length := by omega
    simp only [topPage] at before
    refine ⟨text[address - addr.toNat], ?_, nonzero _ (List.getElem_mem bound)⟩
    rw [← terminated.holds _ bound, plain (address - addr.toNat) (by omega),
      Nat.add_sub_cancel' after]
  simp only [topPage] at below
  refine ⟨within, below, ?_, nonzero, ?_⟩
  · intro index bound
    rw [← terminated.holds index bound, plain index (by omega)]
  · rw [← terminated.ends, plain text.length (by omega)]

/-- What can be read lies in the address space, so it does not go round either. -/
theorem terminatedText_cells {memory : TraceeMemory} {addr : UInt64} {max : Nat}
    {text : List UInt8}
    (terminated : TerminatedText 0 (fun index => memory.byteAt (addr.toNat + index)) max text) :
    TerminatedText 0 (memory.cells addr) max text := by
  have plain : ∀ {index byte}, memory.byteAt (addr.toNat + index) = some byte →
      memory.cells addr index = some byte := by
    intro index byte found
    have inside : addr.toNat + index < 2 ^ 64 := by
      apply Nat.lt_of_not_le
      intro outside
      rw [memory.bounded _ outside] at found
      cases found
    rw [TraceeMemory.cells, Nat.mod_eq_of_lt inside, found]
  exact ⟨terminated.within, fun index bound => plain (terminated.holds index bound),
    terminated.before, plain terminated.ends⟩

/-- Each chunk starts where the one before ended. -/
def ContiguousFrom : Nat → List Chunk → Prop
  | _, [] => True
  | cursor, (base, len) :: rest => base.toNat = cursor ∧ ContiguousFrom (cursor + len) rest

/-- The chunks that may be read for a string of at most `max` bytes at `addr`. -/
structure ChunksFor (memory : TraceeMemory) (addr max : Nat) (requests : List Chunk) : Prop where
  contiguous : ContiguousFrom addr requests
  inPage : ∀ base len, (base, len) ∈ requests →
    0 < len ∧ (base.toNat + len - 1) / 4096 = base.toNat / 4096
  within : ∀ base len, (base, len) ∈ requests →
    addr ≤ base.toNat ∧ base.toNat + len ≤ addr + max
  upToNul : ∀ nul, addr ≤ nul → memory.byteAt nul = some 0 →
    ∀ base len, (base, len) ∈ requests → base.toNat / 4096 ≤ nul / 4096

section Chunks

variable {memory : TraceeMemory}

theorem chunksFor_nil (addr max : Nat) : ChunksFor memory addr max [] :=
  ⟨trivial, nofun, nofun, fun _ _ _ => nofun⟩

theorem chunksFor_cons {cursor : UInt64} {remaining len : Nat} {rest : List Chunk}
    (positive : 0 < len) (page : cursor.toNat % 4096 + len ≤ 4096) (consumes : len ≤ remaining)
    (later : rest = [] ∨ ChunksFor memory (cursor.toNat + len) (remaining - len) rest ∧
      ∀ index < len, memory.byteAt (cursor.toNat + index) ≠ some 0) :
    ChunksFor memory cursor.toNat remaining ((cursor, len) :: rest) := by
  constructor
  · refine ⟨rfl, ?_⟩
    rcases later with rfl | ⟨chunks, _⟩
    · trivial
    · exact chunks.contiguous
  · intro base len' member
    rcases List.mem_cons.mp member with first | member
    · cases first
      omega
    · rcases later with rfl | ⟨chunks, _⟩
      · cases member
      · exact chunks.inPage base len' member
  · intro base len' member
    rcases List.mem_cons.mp member with first | member
    · cases first
      omega
    · rcases later with rfl | ⟨chunks, _⟩
      · cases member
      · have within := chunks.within base len' member
        omega
  · intro nul after isNul base len' member
    rcases List.mem_cons.mp member with first | member
    · cases first
      omega
    · rcases later with rfl | ⟨chunks, nonzero⟩
      · cases member
      · have behind : cursor.toNat + len ≤ nul := by
          apply Nat.le_of_not_lt
          intro before
          refine nonzero (nul - cursor.toNat) (by omega) ?_
          rw [Nat.add_sub_cancel' after, isNul]
        exact chunks.upToNul nul behind isNul base len' member

theorem readCstrLoopTraced_chunks {host : Host} {pid : Pid} (serves : Serves host pid memory)
    (max fuel : Nat) {cursor : UInt64} {remaining : Nat} (out : List UInt8)
    (inside : cursor.toNat + remaining ≤ topPage) :
    ChunksFor memory cursor.toNat remaining
      (readCstrLoopTraced host pid max fuel cursor remaining out).requests := by
  induction fuel generalizing cursor remaining out with
  | zero => exact chunksFor_nil _ _
  | succ fuel ih =>
      by_cases done : remaining = 0
      · subst done
        exact chunksFor_nil _ _
      have below : cursor.toNat < topPage := by omega
      have positive := chunkAt_pos cursor done
      have page := chunkAt_inPage cursor remaining
      have consumes := chunkAt_le cursor remaining
      have alone : ChunksFor memory cursor.toNat remaining [(cursor, chunkAt cursor remaining)] :=
        chunksFor_cons positive page consumes (.inl rfl)
      rw [readCstrLoopTraced_round pid max (.inr below) fuel out done]
      cases answered : readBytes host pid cursor (chunkAt cursor remaining) with
      | panicked => exact absurd answered (readBytes_panics host pid cursor _)
      | err error =>
          rw [Traced.bind_of_err (Traced.outcome_ask _ _)]
          exact alone
      | ok bytes =>
          obtain ⟨length, held⟩ :=
            TraceeMemory.read_eq_some_iff.mp ((readBytes_eq_ok_iff serves).mp answered)
          rw [Traced.bind_of_ok (Traced.outcome_ask _ _)]
          cases search : bytes.findIdx? (· = 0) with
          | some index => exact alone
          | none =>
              have position : (cursor + UInt64.ofNat (chunkAt cursor remaining)).toNat =
                  cursor.toNat + chunkAt cursor remaining := by
                rw [UInt64.toNat_add, UInt64.toNat_ofNat']
                simp only [topPage] at inside
                omega
              refine chunksFor_cons positive page consumes (.inr ⟨?_, ?_⟩)
              · rw [← position]
                exact ih (out ++ bytes) (by omega)
              · intro index bound isNul
                rw [held index (by omega)] at isNul
                have missing := List.findIdx?_eq_none_iff.mp search 0
                  (Option.some.inj isNul ▸ List.getElem_mem _)
                simp at missing

end Chunks

/-- `read_cstr` below the last page is the reading byte by byte: it returns the bytes
before the first NUL if it can read up to it within `max` bytes, the error for a
string that does not end if it can read them all and there is none, and else the error
of its last chunk, which cannot be read. Its loop ends, and reads chunk after chunk,
none across a page boundary, behind the page of a NUL, or beyond `max`. -/
theorem readCstr_bytewise {host : Host} {pid : Pid} {memory : TraceeMemory}
    (serves : Serves host pid memory) (addr : UInt64) (max : Nat)
    (inside : addr.toNat + max ≤ topPage) :
    (∀ text, readCstr host pid addr max = .ok text ↔
      TerminatedText 0 (fun index => memory.byteAt (addr.toNat + index)) max text) ∧
    (readCstr host pid addr max = .err (.truncatedCstr max) ↔
      Unterminated 0 (fun index => memory.byteAt (addr.toNat + index)) max) ∧
    ((∀ text, ¬ TerminatedText 0 (fun index => memory.byteAt (addr.toNat + index)) max text) →
      ¬ Unterminated 0 (fun index => memory.byteAt (addr.toNat + index)) max →
      ∃ base len error, (readCstrTraced host pid max addr).requests.getLast? = some (base, len) ∧
        memory.read base.toNat len = none ∧ readBytes host pid base len = .err error ∧
        readCstr host pid addr max = .err error) ∧
    (∀ fuel, max ≤ fuel →
      readCstrLoop host pid max fuel addr max [] = readCstr host pid addr max) ∧
    (readCstrTraced host pid max addr).outcome = readCstr host pid addr max ∧
    ChunksFor memory addr.toNat max (readCstrTraced host pid max addr).requests := by
  have noRun : ¬ RunsOffTop memory addr.toNat max := by
    intro runs
    exact absurd runs.reaches (Nat.not_lt_of_ge inside)
  have cells : scan 0 max (memory.cells addr) =
      scan 0 max (fun index => memory.byteAt (addr.toNat + index)) := by
    refine scan_congr fun index bound => ?_
    simp only [topPage] at inside
    rw [TraceeMemory.cells, Nat.mod_eq_of_lt (by omega)]
  have reads : ReadsAs host pid max [] (readCstrTraced host pid max addr)
      (scan 0 max (fun index => memory.byteAt (addr.toNat + index))) := by
    rw [← cells]
    exact readCstrLoopTraced_reads serves max (Nat.le_refl max) (.inr noRun)
  have erased := readCstrTraced_outcome host pid max addr
  refine ⟨?_, ?_, ?_, fun fuel enough => readCstrLoop_fuel host pid max enough (Nat.le_refl max),
    erased, readCstrLoopTraced_chunks serves max max [] inside⟩
  · intro text
    rw [← scan_eq_terminated_iff, ← erased]
    exact reads.ok_iff text
  · rw [← scan_eq_unterminated_iff, ← erased]
    exact reads.truncated_iff
  · intro notTerminated notUnterminated
    cases scanned : scan 0 max (fun index => memory.byteAt (addr.toNat + index)) with
    | terminated found => exact absurd (scan_eq_terminated_iff.mp scanned) (notTerminated found)
    | unterminated => exact absurd (scan_eq_unterminated_iff.mp scanned) notUnterminated
    | unreadable =>
        rw [scanned] at reads
        obtain ⟨base, len, error, last, failed, found⟩ := reads
        exact ⟨base, len, error, last, read_eq_none_of_err serves failed, failed, erased ▸ found⟩

/-- A memory of which one page is mapped. -/
def onePage (page : Nat) (low : page < 2 ^ 52) (bytes : Nat → UInt8) : TraceeMemory where
  byteAt address := if address / 4096 = page then some (bytes (address % 4096)) else none
  bounded := by
    intro address high
    rw [if_neg]
    omega
  paged := by
    intro left right same
    rw [same]
    split <;> rfl

/-- A development build over a kernel that serves a memory, to every process. -/
def servingHost (memory : TraceeMemory) : Host where
  profile := .dev
  arch := .x86_64
  processVmReadv _ base len :=
    match memory.read base.toNat len with
    | some bytes => .ok bytes
    | none => .error .EFAULT

theorem servingHost_serves (memory : TraceeMemory) (pid : Pid) :
    Serves (servingHost memory) pid memory := by
  intro base len
  have answer : (servingHost memory).processVmReadv pid base len =
      match memory.read base.toNat len with
      | some bytes => .ok bytes
      | none => .error .EFAULT := rfl
  rw [answer]
  cases memory.read base.toNat len with
  | some bytes => rfl
  | none => exact nofun

/-- Two letters and a NUL, the last bytes of the only page. -/
def lastBytes : TraceeMemory :=
  onePage 1 (by decide) fun offset =>
    if offset = 4093 then 104 else if offset = 4094 then 105 else 0

theorem readCstr_bytewise_lastBytes :
    readCstr (servingHost lastBytes) 7 8189 4096 = .ok [104, 105] ∧
      ChunksFor lastBytes 8189 4096
        (readCstrTraced (servingHost lastBytes) 7 4096 8189).requests := by
  have inside : (8189 : UInt64).toNat + 4096 ≤ topPage := by decide
  obtain ⟨texts, _, _, _, _, chunks⟩ :=
    readCstr_bytewise (servingHost_serves lastBytes 7) 8189 4096 inside
  refine ⟨(texts [104, 105]).mpr ⟨by decide, ?_, by decide, rfl⟩, chunks⟩
  intro index bound
  match index, bound with
  | 0, _ => rfl
  | 1, _ => rfl

end Loi.Memory
