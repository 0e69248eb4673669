import Loi.ReadCstr
import Loi.Syscalls.Panics

/-! The walk over an argv array: what it returns, and what it reads for that, whatever
can and cannot be read of the slots and the strings. -/

set_option autoImplicit false

namespace Loi.Syscalls

open Nix Foundation Memory

section Traced

variable (host : Host) (pid : Pid)

/-- `readPtrSlot` with a record of its reads. -/
def readPtrSlotTraced (addr : UInt64) : Traced Chunk DecodeError UInt64 := do
  let bytes ← (Traced.ask (addr, PTR_BYTES) (readBytes host pid addr PTR_BYTES)).mapErr .memory
  if bytes.length = PTR_BYTES then .lift (.ok (UInt64.ofNat (fromNeBytes bytes)))
  else .lift .panicked

def decodeArgvEntryTraced (addr : UInt64) : Traced Chunk DecodeError String := do
  let bytes ← (readCstrTraced host pid MAX_ARGV_ENTRY_BYTES addr).mapErr .memory
  .lift (.ok (utf8OrLossy bytes))

def walkArgvLoopTraced :
    Nat → UInt64 → List String → Traced Chunk DecodeError (List String × Bool)
  | 0, _, entries => .lift (.ok (entries, true))
  | rounds + 1, cursor, entries => do
      match ← (readPtrSlotTraced host pid cursor).attempt with
      | .error error =>
          if entries = [] then .lift (.err error)
          else .lift (.ok (entries ++ [SENTINEL_UNREADABLE], false))
      | .ok ptr =>
          if ptr = 0 then .lift (.ok (entries, false))
          else
            match ← (decodeArgvEntryTraced host pid ptr).attempt with
            | .ok entry =>
                walkArgvLoopTraced rounds (saturatingAdd cursor (UInt64.ofNat PTR_BYTES))
                  (entries ++ [entry])
            | .error _ => .lift (.ok (entries ++ [SENTINEL_UNREADABLE], false))

def walkArgvTraced (argvAddr : UInt64) : Traced Chunk DecodeError (List String) := do
  let (entries, overflowed) ← walkArgvLoopTraced host pid MAX_ARGV argvAddr []
  .lift (.ok (if overflowed then entries ++ [SENTINEL_OVERFLOW] else entries))

theorem readPtrSlotTraced_outcome (addr : UInt64) :
    (readPtrSlotTraced host pid addr).outcome = readPtrSlot host pid addr := by
  unfold readPtrSlotTraced readPtrSlot
  simp only [Traced.outcome_bind, Traced.outcome_mapErr, Traced.outcome_ask]
  congr 1
  funext bytes
  split <;> rfl

theorem decodeArgvEntryTraced_outcome (addr : UInt64) :
    (decodeArgvEntryTraced host pid addr).outcome = decodeArgvEntry host pid addr := by
  unfold decodeArgvEntryTraced decodeArgvEntry
  simp only [Traced.outcome_bind, Traced.outcome_mapErr, readCstrTraced_outcome]
  rfl

theorem walkArgvLoopTraced_outcome (rounds : Nat) (cursor : UInt64) (entries : List String) :
    (walkArgvLoopTraced host pid rounds cursor entries).outcome =
      walkArgvLoop host pid rounds cursor entries := by
  induction rounds generalizing cursor entries with
  | zero => rfl
  | succ rounds ih =>
      rw [walkArgvLoopTraced, walkArgvLoop, Traced.outcome_bind, Traced.outcome_attempt,
        readPtrSlotTraced_outcome]
      congr 1
      funext slot
      cases slot with
      | error error =>
          dsimp only
          split <;> rfl
      | ok ptr =>
          dsimp only
          split
          · rfl
          · rw [Traced.outcome_bind, Traced.outcome_attempt, decodeArgvEntryTraced_outcome]
            congr 1
            funext decoded
            cases decoded with
            | error error => rfl
            | ok entry => exact ih _ _

theorem walkArgvTraced_outcome (argvAddr : UInt64) :
    (walkArgvTraced host pid argvAddr).outcome = walkArgv host pid argvAddr := by
  unfold walkArgvTraced walkArgv
  rw [Traced.outcome_bind, walkArgvLoopTraced_outcome]
  rfl

theorem readPtrSlotTraced_requests (addr : UInt64) :
    (readPtrSlotTraced host pid addr).requests = [(addr, PTR_BYTES)] := by
  refine (Traced.requests_bind_of_silent fun bytes => ?_).trans rfl
  split <;> rfl

theorem decodeArgvEntryTraced_requests (addr : UInt64) :
    (decodeArgvEntryTraced host pid addr).requests =
      (readCstrTraced host pid MAX_ARGV_ENTRY_BYTES addr).requests :=
  Traced.requests_bind_of_silent fun _ => rfl

theorem walkArgvTraced_requests (argvAddr : UInt64) :
    (walkArgvTraced host pid argvAddr).requests =
      (walkArgvLoopTraced host pid MAX_ARGV argvAddr []).requests :=
  Traced.requests_bind_of_silent fun _ => rfl

end Traced

/-- What the walk finds at a slot. -/
inductive ArgvEntry where
  | unreadable
  | null
  | string (ptr : UInt64) (text : List UInt8)
  | noString (ptr : UInt64)
  deriving DecidableEq, Repr

namespace ArgvEntry

def isString : ArgvEntry → Bool
  | .string _ _ => true
  | .unreadable | .null | .noString _ => false

def shown : ArgvEntry → String
  | .string _ text => fromUtf8Lossy text
  | .unreadable | .null | .noString _ => SENTINEL_UNREADABLE

/-- The slot is read, and then the string that it points to. -/
def requests (host : Host) (pid : Pid) (slot : UInt64) : ArgvEntry → List Chunk
  | .unreadable | .null => [(slot, PTR_BYTES)]
  | .string ptr _ | .noString ptr =>
      (slot, PTR_BYTES) :: (readCstrTraced host pid MAX_ARGV_ENTRY_BYTES ptr).requests

end ArgvEntry

/-- The entry of the slot at `slot`: its pointer, and the NUL-terminated string of fewer
than `MAX_ARGV_ENTRY_BYTES` bytes that this points to. -/
def entryAt (memory : TraceeMemory) (slot : UInt64) : ArgvEntry :=
  match wordAt memory slot.toNat with
  | none => .unreadable
  | some ptr =>
      if ptr = 0 then .null
      else
        match scan 0 MAX_ARGV_ENTRY_BYTES (memory.cells ptr) with
        | .terminated text => .string ptr text
        | .unterminated | .unreadable => .noString ptr

/-- The slots follow each other, and the last address is not left. -/
def slotAddress (argv : UInt64) (index : Nat) : UInt64 :=
  UInt64.ofNat (min (argv.toNat + PTR_BYTES * index) (2 ^ 64 - 1))

theorem slotAddress_toNat {argv : UInt64} {index : Nat}
    (inside : argv.toNat + PTR_BYTES * index < 2 ^ 64) :
    (slotAddress argv index).toNat = argv.toNat + PTR_BYTES * index := by
  rw [slotAddress, UInt64.toNat_ofNat']
  omega

@[simp] theorem slotAddress_zero (argv : UInt64) : slotAddress argv 0 = argv := by
  have bounded := argv.toNat_lt
  rw [← UInt64.toNat_inj, slotAddress_toNat (by omega), Nat.mul_zero, Nat.add_zero]

@[simp] theorem slotAddress_saturatingAdd (cursor : UInt64) (index : Nat) :
    slotAddress (saturatingAdd cursor (UInt64.ofNat PTR_BYTES)) index =
      slotAddress cursor (index + 1) := by
  have step : (UInt64.ofNat PTR_BYTES).toNat = 8 := rfl
  have last : (UInt64.ofNat (2 ^ 64 - 1)).toNat = 2 ^ 64 - 1 := by decide
  unfold slotAddress saturatingAdd
  congr 1
  split
  · rename_i fits
    rw [UInt64.toNat_add, Nat.mod_eq_of_lt fits, step]
    simp only [PTR_BYTES]
    omega
  · rename_i saturates
    rw [step] at saturates
    rw [last]
    simp only [PTR_BYTES]
    omega

theorem utf8OrLossy_eq (bytes : List UInt8) : utf8OrLossy bytes = fromUtf8Lossy bytes := by
  unfold utf8OrLossy
  split
  · rename_i valid
    exact (fromUtf8Lossy_of_valid valid).symm
  · rfl

def walkedStrings (memory : TraceeMemory) (argv : UInt64) (stop : Nat) : List String :=
  (List.range stop).map fun index => (entryAt memory (slotAddress argv index)).shown

def walkedRequests (host : Host) (pid : Pid) (memory : TraceeMemory) (argv : UInt64)
    (count : Nat) : List Chunk :=
  (List.range count).flatMap fun index =>
    (entryAt memory (slotAddress argv index)).requests host pid (slotAddress argv index)

section Entries

variable {memory : TraceeMemory}

theorem walkedStrings_succ (cursor : UInt64) (stop : Nat) :
    walkedStrings memory cursor (stop + 1) =
      (entryAt memory cursor).shown ::
        walkedStrings memory (saturatingAdd cursor (UInt64.ofNat PTR_BYTES)) stop := by
  simp only [walkedStrings, List.range_succ_eq_map, List.map_cons, List.map_map,
    Function.comp_def, slotAddress_zero, slotAddress_saturatingAdd, Nat.succ_eq_add_one]

theorem walkedRequests_succ (host : Host) (pid : Pid) (cursor : UInt64) (count : Nat) :
    walkedRequests host pid memory cursor (count + 1) =
      (entryAt memory cursor).requests host pid cursor ++
        walkedRequests host pid memory (saturatingAdd cursor (UInt64.ofNat PTR_BYTES)) count := by
  simp only [walkedRequests, List.range_succ_eq_map, List.flatMap_cons, List.flatMap_map,
    slotAddress_zero, slotAddress_saturatingAdd, Nat.succ_eq_add_one]

end Entries

/-- What the two reads at a slot return, by what is there. -/
inductive SlotRead (host : Host) (pid : Pid) (slot : UInt64) : ArgvEntry → Prop where
  | unreadable {error : DecodeError} (answer : readPtrSlot host pid slot = .err error) :
      SlotRead host pid slot .unreadable
  | null (answer : readPtrSlot host pid slot = .ok 0) : SlotRead host pid slot .null
  | string {ptr : UInt64} {text : List UInt8} (answer : readPtrSlot host pid slot = .ok ptr)
      (nonNull : ptr ≠ 0) (decoded : decodeArgvEntry host pid ptr = .ok (fromUtf8Lossy text)) :
      SlotRead host pid slot (.string ptr text)
  | noString {ptr : UInt64} {error : DecodeError} (answer : readPtrSlot host pid slot = .ok ptr)
      (nonNull : ptr ≠ 0) (decoded : decodeArgvEntry host pid ptr = .err error) :
      SlotRead host pid slot (.noString ptr)

section Walk

variable {host : Host} {pid : Pid} {memory : TraceeMemory}

/-- Nothing that the walk reads from here on can overflow. -/
def SafeWalk (host : Host) (memory : TraceeMemory) (argv rounds : Nat) : Prop :=
  host.profile.overflowChecks = false ∨
    ∀ index < rounds, ∀ ptr, EntryReached memory argv index ptr →
      ¬ RunsOffTop memory ptr.toNat MAX_ARGV_ENTRY_BYTES

theorem decodeArgvEntry_scan (serves : Serves host pid memory) {ptr : UInt64}
    (safe : host.profile.overflowChecks = false ∨
      ¬ RunsOffTop memory ptr.toNat MAX_ARGV_ENTRY_BYTES) :
    match scan 0 MAX_ARGV_ENTRY_BYTES (memory.cells ptr) with
    | .terminated text => decodeArgvEntry host pid ptr = .ok (fromUtf8Lossy text)
    | .unterminated | .unreadable => ∃ error, decodeArgvEntry host pid ptr = .err error := by
  have reads : ReadsAs host pid MAX_ARGV_ENTRY_BYTES []
      (readCstrTraced host pid MAX_ARGV_ENTRY_BYTES ptr)
      (scan 0 MAX_ARGV_ENTRY_BYTES (memory.cells ptr)) :=
    readCstrLoopTraced_reads serves MAX_ARGV_ENTRY_BYTES (Nat.le_refl _) safe
  unfold decodeArgvEntry
  rw [← readCstrTraced_outcome]
  cases scanned : scan 0 MAX_ARGV_ENTRY_BYTES (memory.cells ptr) with
  | terminated text =>
      rw [scanned] at reads
      have returned := (reads.ok_iff text).mpr rfl
      simp [returned, Outcome.mapErr, utf8OrLossy_eq]
  | unterminated =>
      rw [scanned] at reads
      have failed := reads.truncated_iff.mpr rfl
      exact ⟨_, by rw [failed]; rfl⟩
  | unreadable =>
      rw [scanned] at reads
      obtain ⟨_, _, error, _, _, failed⟩ := reads
      exact ⟨_, by rw [failed]; rfl⟩

theorem slotRead_entryAt (serves : Serves host pid memory) {slot : UInt64} {rounds : Nat}
    (safe : SafeWalk host memory slot.toNat (rounds + 1)) :
    SlotRead host pid slot (entryAt memory slot) := by
  unfold entryAt
  rcases readPtrSlot_cases serves slot with ⟨ptr, answer, word⟩ | ⟨error, answer, unreadable⟩
  · rw [word]
    dsimp only
    split
    · rename_i null
      exact .null (null ▸ answer)
    · rename_i nonNull
      have reached : EntryReached memory slot.toNat 0 ptr := entryReached_zero.mpr ⟨word, nonNull⟩
      have decoded := decodeArgvEntry_scan serves
        (safe.imp_right fun noRun => noRun 0 (Nat.succ_pos _) ptr reached)
      cases scanned : scan 0 MAX_ARGV_ENTRY_BYTES (memory.cells ptr) with
      | terminated text =>
          rw [scanned] at decoded
          exact .string answer nonNull decoded
      | unterminated =>
          rw [scanned] at decoded
          obtain ⟨error, failed⟩ := decoded
          exact .noString answer nonNull failed
      | unreadable =>
          rw [scanned] at decoded
          obtain ⟨error, failed⟩ := decoded
          exact .noString answer nonNull failed
  · rw [unreadable]
    exact .unreadable answer

theorem entryAt_eq_string {slot ptr : UInt64} {text : List UInt8}
    (found : entryAt memory slot = .string ptr text) :
    wordAt memory slot.toNat = some ptr ∧ ptr ≠ 0 ∧
      TerminatedText 0 (memory.cells ptr) MAX_ARGV_ENTRY_BYTES text := by
  unfold entryAt at found
  split at found
  · cases found
  · rename_i word pointer
    split at found
    · cases found
    · rename_i nonNull
      split at found
      · rename_i scanned
        cases found
        exact ⟨pointer, nonNull, scan_eq_terminated_iff.mp scanned⟩
      · cases found
      · cases found

/-- Behind a string the walk is as safe as it was. -/
theorem SafeWalk.next {cursor ptr : UInt64} {text : List UInt8} {rounds : Nat}
    (safe : SafeWalk host memory cursor.toNat (rounds + 1))
    (found : entryAt memory cursor = .string ptr text) :
    SafeWalk host memory (saturatingAdd cursor (UInt64.ofNat PTR_BYTES)).toNat rounds := by
  refine safe.imp_right fun noRun => ?_
  obtain ⟨word, nonNull, terminated⟩ := entryAt_eq_string found
  have first : EntryReached memory cursor.toNat 0 ptr := entryReached_zero.mpr ⟨word, nonNull⟩
  have terminates : Terminates memory ptr.toNat MAX_ARGV_ENTRY_BYTES :=
    ⟨text, stringAt_of_terminatedText terminated (noRun 0 (Nat.succ_pos _) ptr first)⟩
  intro index bound other reached
  rw [entryReached_saturatingAdd] at reached
  exact noRun (index + 1) (Nat.succ_lt_succ bound) other
    ((entryReached_succ word).mpr ⟨⟨nonNull, terminates⟩, reached⟩)

/-- The first slot from `argv` on, of `rounds` at most, that does not lead to a string. -/
structure StopsAt (memory : TraceeMemory) (argv : UInt64) (rounds stop : Nat) : Prop where
  bound : stop ≤ rounds
  strings : ∀ index < stop, (entryAt memory (slotAddress argv index)).isString = true
  ends : stop < rounds → (entryAt memory (slotAddress argv stop)).isString = false

theorem StopsAt.zero {cursor : UInt64} (rounds : Nat)
    (noString : (entryAt memory cursor).isString = false) :
    StopsAt memory cursor rounds 0 :=
  ⟨Nat.zero_le _, nofun, fun _ => by rw [slotAddress_zero]; exact noString⟩

theorem StopsAt.succ {cursor : UInt64} {rounds stop : Nat}
    (isString : (entryAt memory cursor).isString = true)
    (later : StopsAt memory (saturatingAdd cursor (UInt64.ofNat PTR_BYTES)) rounds stop) :
    StopsAt memory cursor (rounds + 1) (stop + 1) := by
  constructor
  · exact Nat.succ_le_succ later.bound
  · intro index bound
    cases index with
    | zero =>
        rw [slotAddress_zero]
        exact isString
    | succ index =>
        rw [← slotAddress_saturatingAdd]
        exact later.strings index (Nat.lt_of_succ_lt_succ bound)
  · intro more
    rw [← slotAddress_saturatingAdd]
    exact later.ends (Nat.lt_of_succ_lt_succ more)

/-- The end of the loop at a slot that leads to no string, with what was found before. -/
def LoopEnds (found : List String) (outcome : Outcome DecodeError (List String × Bool)) :
    ArgvEntry → Prop
  | .null => outcome = .ok (found, false)
  | .unreadable =>
      if found = [] then ∃ error, outcome = .err error
      else outcome = .ok (found ++ [SENTINEL_UNREADABLE], false)
  | .noString _ => outcome = .ok (found ++ [SENTINEL_UNREADABLE], false)
  | .string _ _ => False

/-- One walk over the slots, with the entries that were there before it. -/
structure LoopWalks (host : Host) (pid : Pid) (memory : TraceeMemory) (argv : UInt64)
    (rounds : Nat) (entries : List String) (stop : Nat)
    (traced : Traced Chunk DecodeError (List String × Bool)) : Prop where
  stopsAt : StopsAt memory argv rounds stop
  requests : traced.requests = walkedRequests host pid memory argv (min (stop + 1) rounds)
  full : stop = rounds → traced.outcome = .ok (entries ++ walkedStrings memory argv stop, true)
  ends : stop < rounds → LoopEnds (entries ++ walkedStrings memory argv stop) traced.outcome
    (entryAt memory (slotAddress argv stop))

theorem LoopWalks.zero {cursor : UInt64} {rounds : Nat} {entries : List String}
    {traced : Traced Chunk DecodeError (List String × Bool)}
    (noString : (entryAt memory cursor).isString = false)
    (requests : traced.requests = (entryAt memory cursor).requests host pid cursor)
    (ends : LoopEnds entries traced.outcome (entryAt memory cursor)) :
    LoopWalks host pid memory cursor (rounds + 1) entries 0 traced := by
  refine ⟨.zero _ noString, ?_, nofun, fun _ => ?_⟩
  · have one : min (0 + 1) (rounds + 1) = 0 + 1 := by omega
    rw [requests, one, walkedRequests_succ]
    exact (List.append_nil _).symm
  · have none : walkedStrings memory cursor 0 = [] := rfl
    rw [slotAddress_zero, none, List.append_nil]
    exact ends

theorem LoopWalks.succ {cursor : UInt64} {rounds stop : Nat} {entries : List String}
    {traced : Traced Chunk DecodeError (List String × Bool)}
    (isString : (entryAt memory cursor).isString = true)
    (later : LoopWalks host pid memory (saturatingAdd cursor (UInt64.ofNat PTR_BYTES)) rounds
      (entries ++ [(entryAt memory cursor).shown]) stop traced) :
    LoopWalks host pid memory cursor (rounds + 1) entries (stop + 1)
      (traced.after ((entryAt memory cursor).requests host pid cursor)) := by
  have found : entries ++ walkedStrings memory cursor (stop + 1) =
      entries ++ [(entryAt memory cursor).shown] ++
        walkedStrings memory (saturatingAdd cursor (UInt64.ofNat PTR_BYTES)) stop := by
    rw [walkedStrings_succ, List.append_assoc, List.singleton_append]
  refine ⟨.succ isString later.stopsAt, ?_, ?_, ?_⟩
  · have count : min (stop + 1 + 1) (rounds + 1) = min (stop + 1) rounds + 1 := by omega
    rw [Traced.requests_after, later.requests, count, walkedRequests_succ]
  · intro full
    rw [Traced.outcome_after, found]
    exact later.full (Nat.succ.inj full)
  · intro more
    rw [Traced.outcome_after, found, ← slotAddress_saturatingAdd]
    exact later.ends (Nat.lt_of_succ_lt_succ more)

/-- The loop, by induction on the rounds that are left. -/
theorem walkArgvLoopTraced_walks (serves : Serves host pid memory) {rounds : Nat}
    {cursor : UInt64} (safe : SafeWalk host memory cursor.toNat rounds) (entries : List String) :
    ∃ stop, LoopWalks host pid memory cursor rounds entries stop
      (walkArgvLoopTraced host pid rounds cursor entries) := by
  induction rounds generalizing cursor entries with
  | zero =>
      refine ⟨0, ⟨Nat.le_refl _, nofun, nofun⟩, rfl, fun _ => ?_, nofun⟩
      exact congrArg Outcome.ok (Prod.ext (List.append_nil entries).symm rfl)
  | succ rounds ih =>
      have read := slotRead_entryAt serves safe
      have slot : (readPtrSlotTraced host pid cursor).attempt.requests = [(cursor, PTR_BYTES)] :=
        readPtrSlotTraced_requests host pid cursor
      have attempt : ∀ {outcome : Outcome DecodeError UInt64},
          readPtrSlot host pid cursor = outcome →
          (readPtrSlotTraced host pid cursor).attempt.outcome = outcome.attempt := by
        intro outcome answer
        rw [Traced.outcome_attempt, readPtrSlotTraced_outcome, answer]
      have decode : ∀ {ptr : UInt64} {outcome : Outcome DecodeError String},
          decodeArgvEntry host pid ptr = outcome →
          (decodeArgvEntryTraced host pid ptr).attempt.outcome = outcome.attempt := by
        intro ptr outcome answer
        rw [Traced.outcome_attempt, decodeArgvEntryTraced_outcome, answer]
      rw [walkArgvLoopTraced]
      cases there : entryAt memory cursor with
      | unreadable =>
          rw [there] at read
          cases read with
          | unreadable answer =>
              rw [Traced.bind_of_ok (attempt answer), slot]
              refine ⟨0, .zero (by rw [there]; rfl) ?_ ?_⟩
              · rw [there]
                dsimp only
                split <;> rfl
              · rw [there, LoopEnds]
                dsimp only
                split
                · exact ⟨_, rfl⟩
                · rfl
      | null =>
          rw [there] at read
          cases read with
          | null answer =>
              rw [Traced.bind_of_ok (attempt answer), slot]
              exact ⟨0, .zero (by rw [there]; rfl) (by rw [there]; rfl) (by rw [there]; rfl)⟩
      | string ptr text =>
          rw [there] at read
          cases read with
          | string answer nonNull decoded =>
              rw [Traced.bind_of_ok (attempt answer), slot]
              dsimp only
              rw [if_neg nonNull, Traced.bind_of_ok (decode decoded), Traced.after_after,
                Traced.requests_attempt, decodeArgvEntryTraced_requests]
              have isString : (entryAt memory cursor).isString = true := by rw [there]; rfl
              obtain ⟨stop, later⟩ := ih (safe.next there)
                (entries ++ [(entryAt memory cursor).shown])
              have walks := LoopWalks.succ isString later
              rw [there] at walks
              exact ⟨stop + 1, walks⟩
      | noString ptr =>
          rw [there] at read
          cases read with
          | noString answer nonNull decoded =>
              rw [Traced.bind_of_ok (attempt answer), slot]
              dsimp only
              rw [if_neg nonNull, Traced.bind_of_ok (decode decoded), Traced.after_after,
                Traced.requests_attempt, decodeArgvEntryTraced_requests]
              refine ⟨0, .zero (by rw [there]; rfl) ?_ (by rw [there]; rfl)⟩
              rw [there]
              exact List.append_nil _

theorem entryAt_eq_unreadable_iff {slot : UInt64} :
    entryAt memory slot = .unreadable ↔ wordAt memory slot.toNat = none := by
  unfold entryAt
  split
  · rename_i unreadable
    exact iff_of_true rfl unreadable
  · rename_i ptr found
    rw [found]
    refine iff_of_false ?_ nofun
    split
    · exact nofun
    · split <;> exact nofun

/-- What the walk appends to the strings that it found. -/
def walkSentinel (memory : TraceeMemory) (argv : UInt64) (stop : Nat) : List String :=
  if stop = MAX_ARGV then [SENTINEL_OVERFLOW]
  else
    match entryAt memory (slotAddress argv stop) with
    | .null => []
    | .unreadable | .noString _ | .string _ _ => [SENTINEL_UNREADABLE]

/-- The whole walk: it fails if it can read nothing, returns the strings up to the first
slot that leads to none with at most one sentinel behind them, and reads no further. -/
structure WalksArgv (host : Host) (pid : Pid) (memory : TraceeMemory) (argv : UInt64)
    (stop : Nat) (traced : Traced Chunk DecodeError (List String)) : Prop where
  stopsAt : StopsAt memory argv MAX_ARGV stop
  fails : (∃ error, traced.outcome = .err error) ↔ wordAt memory argv.toNat = none
  returns : wordAt memory argv.toNat ≠ none →
    traced.outcome = .ok (walkedStrings memory argv stop ++ walkSentinel memory argv stop)
  bounded : ∀ entries, traced.outcome = .ok entries → entries.length ≤ MAX_ARGV + 1
  requests : traced.requests = walkedRequests host pid memory argv (min (stop + 1) MAX_ARGV)

theorem length_walkSentinel (argv : UInt64) (stop : Nat) :
    (walkSentinel memory argv stop).length ≤ 1 := by
  unfold walkSentinel
  split
  · exact Nat.le_refl 1
  · split
    · exact Nat.zero_le 1
    all_goals exact Nat.le_refl 1

theorem walkedStrings_eq_nil {argv : UInt64} {stop : Nat} :
    walkedStrings memory argv stop = [] ↔ stop = 0 := by
  simp [walkedStrings]

theorem StopsAt.at_unreadable {argv : UInt64} {rounds stop : Nat}
    (stops : StopsAt memory argv rounds stop) (unreadable : entryAt memory argv = .unreadable) :
    stop = 0 := by
  apply Nat.eq_zero_of_not_pos
  intro positive
  have isString := stops.strings 0 positive
  rw [slotAddress_zero, unreadable] at isString
  cases isString

/-- The two ways in which a walk that does not overflow ends. -/
theorem walkArgvTraced_ends {argv : UInt64} {stop : Nat}
    (walks : LoopWalks host pid memory argv MAX_ARGV [] stop
      (walkArgvLoopTraced host pid MAX_ARGV argv [])) :
    ((∃ error, (walkArgvTraced host pid argv).outcome = .err error) ∧
        entryAt memory argv = .unreadable) ∨
      ((walkArgvTraced host pid argv).outcome =
          .ok (walkedStrings memory argv stop ++ walkSentinel memory argv stop) ∧
        entryAt memory argv ≠ .unreadable) := by
  have outcome : (walkArgvTraced host pid argv).outcome =
      (walkArgvLoopTraced host pid MAX_ARGV argv []).outcome >>= fun answer =>
        .ok (if answer.2 then answer.1 ++ [SENTINEL_OVERFLOW] else answer.1) :=
    Traced.outcome_bind _ _
  have readable : entryAt memory (slotAddress argv stop) ≠ .unreadable →
      entryAt memory argv ≠ .unreadable := by
    intro there unreadable
    rw [walks.stopsAt.at_unreadable unreadable, slotAddress_zero] at there
    exact there unreadable
  rcases Nat.lt_or_eq_of_le walks.stopsAt.bound with more | full
  · have ends := walks.ends more
    have notFull : stop ≠ MAX_ARGV := Nat.ne_of_lt more
    rw [List.nil_append] at ends
    cases there : entryAt memory (slotAddress argv stop) with
    | null =>
        have finished : (walkArgvLoopTraced host pid MAX_ARGV argv []).outcome =
            .ok (walkedStrings memory argv stop, false) := by
          rw [there] at ends
          exact ends
        refine .inr ⟨?_, readable (by rw [there]; exact nofun)⟩
        rw [outcome, finished, walkSentinel, if_neg notFull, there, List.append_nil]
        rfl
    | noString ptr =>
        have finished : (walkArgvLoopTraced host pid MAX_ARGV argv []).outcome =
            .ok (walkedStrings memory argv stop ++ [SENTINEL_UNREADABLE], false) := by
          rw [there] at ends
          exact ends
        refine .inr ⟨?_, readable (by rw [there]; exact nofun)⟩
        rw [outcome, finished, walkSentinel, if_neg notFull, there]
        rfl
    | unreadable =>
        rw [there, LoopEnds] at ends
        by_cases nothing : walkedStrings memory argv stop = []
        · rw [if_pos nothing] at ends
          obtain ⟨error, failed⟩ := ends
          refine .inl ⟨⟨error, by rw [outcome, failed]; rfl⟩, ?_⟩
          rw [walkedStrings_eq_nil.mp nothing, slotAddress_zero] at there
          exact there
        · rw [if_neg nothing] at ends
          refine .inr ⟨?_, fun unreadable => ?_⟩
          · rw [outcome, ends, walkSentinel, if_neg notFull, there]
            rfl
          · exact nothing (walkedStrings_eq_nil.mpr (walks.stopsAt.at_unreadable unreadable))
    | string ptr text =>
        rw [there] at ends
        exact ends.elim
  · refine .inr ⟨?_, fun unreadable => ?_⟩
    · rw [outcome, walks.full full, walkSentinel, if_pos full]
      rfl
    · have none := walks.stopsAt.at_unreadable unreadable
      rw [full] at none
      cases none

theorem walkArgvTraced_walks (serves : Serves host pid memory) (argv : UInt64)
    (safe : SafeWalk host memory argv.toNat MAX_ARGV) :
    ∃ stop, WalksArgv host pid memory argv stop (walkArgvTraced host pid argv) := by
  obtain ⟨stop, walks⟩ := walkArgvLoopTraced_walks serves safe []
  have requests : (walkArgvTraced host pid argv).requests =
      walkedRequests host pid memory argv (min (stop + 1) MAX_ARGV) :=
    (walkArgvTraced_requests host pid argv).trans walks.requests
  have few : (walkedStrings memory argv stop ++ walkSentinel memory argv stop).length ≤
      MAX_ARGV + 1 := by
    have strings : (walkedStrings memory argv stop).length = stop := by simp [walkedStrings]
    have bound := walks.stopsAt.bound
    have sentinel : (walkSentinel memory argv stop).length ≤ 1 := length_walkSentinel argv stop
    rw [List.length_append, strings]
    omega
  refine ⟨stop, walks.stopsAt, ?_, ?_, ?_, requests⟩
  all_goals rcases walkArgvTraced_ends walks with ⟨⟨error, failed⟩, there⟩ | ⟨returned, there⟩
  · exact iff_of_true ⟨error, failed⟩ (entryAt_eq_unreadable_iff.mp there)
  · rw [returned, ← entryAt_eq_unreadable_iff]
    exact iff_of_false (fun failed => nomatch failed) there
  · exact fun readable => absurd (entryAt_eq_unreadable_iff.mp there) readable
  · exact fun _ => returned
  · intro entries returned
    rw [failed] at returned
    cases returned
  · intro entries same
    rw [returned] at same
    cases same
    exact few

/-- Whatever can be read of the slots and the strings, the walk goes to the first slot
that leads to no string and says how it ended, exactly if in a build that checks for
overflow no entry that it gets to leads to the last page. -/
theorem walkArgv_stops_iff (serves : Serves host pid memory) (argv : UInt64) :
    (walkArgvTraced host pid argv).outcome = walkArgv host pid argv ∧
    ((∃ stop, WalksArgv host pid memory argv stop (walkArgvTraced host pid argv)) ↔
      (host.profile.overflowChecks = true →
        ∀ index < MAX_ARGV, ∀ ptr, EntryReached memory argv.toNat index ptr →
          ¬ RunsOffTop memory ptr.toNat MAX_ARGV_ENTRY_BYTES)) := by
  refine ⟨walkArgvTraced_outcome host pid argv, ?_, ?_⟩
  · intro ends checked index bound ptr reached runs
    obtain ⟨stop, walks⟩ := ends
    have panics : (walkArgvTraced host pid argv).outcome = .panicked := by
      rw [walkArgvTraced_outcome]
      exact (walkArgv_panics_iff checked serves argv).mpr ⟨index, bound, ptr, reached, runs⟩
    by_cases unreadable : wordAt memory argv.toNat = none
    · obtain ⟨error, failed⟩ := walks.fails.mpr unreadable
      rw [panics] at failed
      cases failed
    · have returned := walks.returns unreadable
      rw [panics] at returned
      cases returned
  · intro noRun
    apply walkArgvTraced_walks serves argv
    cases checks : host.profile.overflowChecks with
    | false => exact .inl checks
    | true => exact .inr (noRun checks)

end Walk

theorem firstPage_low : 1 < 2 ^ 52 := by decide

/-- A page with an array of 64 pointers, all to the letter and the NUL at its end. -/
def argvPage : TraceeMemory :=
  onePage 1 firstPage_low fun offset =>
    if offset < 512 then
      if offset % 8 = 0 then 0xFE else if offset % 8 = 1 then 0x1F else 0
    else if offset = 4094 then 97 else 0

theorem walkArgv_stops_iff_argvPage :
    ∃ stop, WalksArgv (servingHost argvPage) 7 argvPage 4592 stop
      (walkArgvTraced (servingHost argvPage) 7 4592) := by
  refine (walkArgv_stops_iff (servingHost_serves argvPage 7) 4592).2.mpr ?_
  intro _ index bound ptr reached runs
  have low : ∀ index < MAX_ARGV, (wordAt argvPage (4592 + PTR_BYTES * index)).all
      (fun ptr => ptr.toNat + MAX_ARGV_ENTRY_BYTES ≤ topPage) = true := by
    decide +kernel
  have small := low index bound
  rw [show wordAt argvPage (4592 + PTR_BYTES * index) = some ptr from reached.slot,
    Option.all_some, decide_eq_true_eq] at small
  exact absurd runs.reaches (Nat.not_lt_of_ge small)

/-- A page with one pointer, to the last byte of the address space. -/
def topPointer : TraceeMemory :=
  onePage 1 firstPage_low fun offset => if offset < 8 then 0xFF else 0

/-- The entry of that pointer cannot be read, and the walk panics. -/
theorem walkArgv_panics_topPointer :
    wordAt topPointer 4096 = some 0xFFFFFFFFFFFFFFFF ∧
    entryAt topPointer 4096 = .noString 0xFFFFFFFFFFFFFFFF ∧
    (walkArgv (servingHost topPointer) 7 4096).Panics ∧
    ¬ ∃ stop, WalksArgv (servingHost topPointer) 7 topPointer 4096 stop
      (walkArgvTraced (servingHost topPointer) 7 4096) := by
  have panics : walkArgv (servingHost topPointer) 7 4096 = .panicked := by decide +kernel
  refine ⟨by decide +kernel, by decide +kernel, panics, ?_⟩
  intro ends
  obtain ⟨stop, walks⟩ := ends
  have returned := walks.returns (by decide +kernel)
  rw [walkArgvTraced_outcome, panics] at returned
  cases returned

section Walk

variable {host : Host} {pid : Pid} {memory : TraceeMemory}

/-- A NULL-terminated array of pointers to these strings, each of them NUL-terminated
and shorter than `MAX_ARGV_ENTRY_BYTES`. -/
structure ReadableArgv (memory : TraceeMemory) (argv : Nat) (strings : List (List UInt8)) :
    Prop where
  entries : ∀ index (bound : index < strings.length),
    ∃ ptr, wordAt memory (argv + PTR_BYTES * index) = some ptr ∧ ptr ≠ 0 ∧
      TerminatedText 0 (fun offset => memory.byteAt (ptr.toNat + offset)) MAX_ARGV_ENTRY_BYTES
        strings[index]
  terminated : wordAt memory (argv + PTR_BYTES * strings.length) = some 0

/-- The strings of an array end below the last page. -/
def EndsBelowTop (memory : TraceeMemory) (argv : Nat) (strings : List (List UInt8)) : Prop :=
  ∀ index (bound : index < strings.length) (ptr : UInt64),
    wordAt memory (argv + PTR_BYTES * index) = some ptr →
      ptr.toNat + strings[index].length < topPage

theorem wordAt_slotAddress {argv : UInt64} {index : Nat} {ptr : UInt64}
    (found : wordAt memory (argv.toNat + PTR_BYTES * index) = some ptr) :
    wordAt memory (slotAddress argv index).toNat = some ptr := by
  have inside : argv.toNat + PTR_BYTES * index + 7 < 2 ^ 64 := by
    apply Nat.lt_of_not_le
    intro outside
    rw [wordAt_outside memory outside] at found
    cases found
  rw [slotAddress_toNat (by omega), found]

section Readable

variable {argv : UInt64} {strings : List (List UInt8)}
  (readable : ReadableArgv memory argv.toNat strings)

include readable

theorem entryAt_of_readable {index : Nat} (bound : index < strings.length) :
    ∃ ptr, entryAt memory (slotAddress argv index) = .string ptr strings[index] := by
  obtain ⟨ptr, word, nonNull, terminated⟩ := readable.entries index bound
  have scanned := scan_eq_terminated_iff.mpr (terminatedText_cells terminated)
  refine ⟨ptr, ?_⟩
  rw [entryAt, wordAt_slotAddress word]
  dsimp only
  rw [if_neg nonNull, scanned]

theorem entryAt_end_of_readable :
    entryAt memory (slotAddress argv strings.length) = .null := by
  rw [entryAt, wordAt_slotAddress readable.terminated]
  exact if_pos rfl

theorem stopsAt_of_readable {rounds stop : Nat} (stops : StopsAt memory argv rounds stop) :
    stop = min strings.length rounds := by
  have bound := stops.bound
  rcases Nat.lt_trichotomy stop (min strings.length rounds) with early | same | late
  · have inside : stop < strings.length := by omega
    obtain ⟨ptr, isString⟩ := entryAt_of_readable readable inside
    have ends := stops.ends (by omega)
    rw [isString] at ends
    cases ends
  · exact same
  · have isString := stops.strings strings.length (by omega)
    rw [entryAt_end_of_readable readable] at isString
    cases isString

theorem walkedStrings_of_readable {stop : Nat} (inside : stop ≤ strings.length) :
    walkedStrings memory argv stop = (strings.take stop).map fromUtf8Lossy := by
  apply List.ext_getElem
  · simp [walkedStrings, Nat.min_eq_left inside]
  · intro index left right
    have bound : index < strings.length := by
      simp only [List.length_map, List.length_take] at right
      omega
    obtain ⟨ptr, isString⟩ := entryAt_of_readable readable bound
    simp only [walkedStrings, List.getElem_map, List.getElem_range, List.getElem_take, isString,
      ArgvEntry.shown]

theorem safeWalk_of_readable
    (low : host.profile.overflowChecks = false ∨ EndsBelowTop memory argv.toNat strings) :
    SafeWalk host memory argv.toNat MAX_ARGV := by
  refine low.imp_right fun low => ?_
  intro index _ ptr reached runs
  have bound : index < strings.length := by
    apply Nat.lt_of_not_le
    intro behind
    rcases Nat.lt_or_eq_of_le behind with before | same
    · obtain ⟨entry, word, nonNull, _⟩ := reached.before strings.length before
      rw [readable.terminated] at word
      exact nonNull (Option.some.inj word).symm
    · have word := reached.slot
      rw [← same, readable.terminated] at word
      exact reached.nonNull (Option.some.inj word).symm
  obtain ⟨entry, word, _, terminated⟩ := readable.entries index bound
  have same : entry = ptr := Option.some.inj (word.symm.trans reached.slot)
  subst same
  obtain ⟨byte, found, nonzero⟩ := runs.continues (entry.toNat + strings[index].length)
    (Nat.le_add_right _ _) (low index bound entry word)
  have ends := terminated.ends
  rw [found] at ends
  exact nonzero (Option.some.inj ends)

end Readable

/-- A readable array of fewer than `MAX_ARGV` strings is returned as it is, and of a
longer one the first `MAX_ARGV` strings with the sentinel for the rest, which stands
there too if no string is left but the terminator was not seen. -/
theorem walkArgv_readable (serves : Serves host pid memory) {argv : UInt64}
    {strings : List (List UInt8)} (readable : ReadableArgv memory argv.toNat strings)
    (low : host.profile.overflowChecks = false ∨ EndsBelowTop memory argv.toNat strings) :
    (strings.length < MAX_ARGV → walkArgv host pid argv = .ok (strings.map fromUtf8Lossy)) ∧
    (MAX_ARGV ≤ strings.length →
      walkArgv host pid argv =
        .ok ((strings.take MAX_ARGV).map fromUtf8Lossy ++ [SENTINEL_OVERFLOW])) := by
  obtain ⟨stop, walks⟩ := walkArgvTraced_walks serves argv (safeWalk_of_readable readable low)
  have stopped := stopsAt_of_readable readable walks.stopsAt
  have firstSlot : wordAt memory argv.toNat ≠ none := by
    intro unreadable
    cases strings with
    | nil =>
        have terminated := readable.terminated
        rw [List.length_nil, Nat.mul_zero, Nat.add_zero, unreadable] at terminated
        cases terminated
    | cons first rest =>
        obtain ⟨ptr, word, _⟩ := readable.entries 0 (Nat.succ_pos _)
        rw [Nat.mul_zero, Nat.add_zero, unreadable] at word
        cases word
  have returned := walks.returns firstSlot
  rw [walkArgvTraced_outcome,
    walkedStrings_of_readable readable (stopped ▸ Nat.min_le_left _ _)] at returned
  constructor
  · intro short
    have all : stop = strings.length := by omega
    have notFull : stop ≠ MAX_ARGV := by omega
    rw [returned, walkSentinel, if_neg notFull, all, entryAt_end_of_readable readable,
      List.take_length, List.append_nil]
  · intro long
    have full : stop = MAX_ARGV := by omega
    rw [returned, walkSentinel, if_pos full, full]

end Walk

theorem argvPage_words :
    ∀ index < MAX_ARGV, wordAt argvPage (4096 + PTR_BYTES * index) = some 8190 := by
  decide +kernel

theorem argvPage_text :
    TerminatedText 0 (fun offset => argvPage.byteAt ((8190 : UInt64).toNat + offset))
      MAX_ARGV_ENTRY_BYTES [97] := by
  refine ⟨by decide, ?_, by decide, by decide⟩
  intro index bound
  match index, bound with
  | 0, _ => rfl

theorem argvPage_readable :
    ReadableArgv argvPage (4096 : UInt64).toNat (List.replicate MAX_ARGV [97]) := by
  constructor
  · intro index bound
    rw [List.length_replicate] at bound
    rw [List.getElem_replicate]
    exact ⟨8190, argvPage_words index bound, by decide, argvPage_text⟩
  · decide +kernel

theorem walkArgv_readable_argvPage :
    walkArgv (servingHost argvPage) 7 4096 = .ok (List.replicate MAX_ARGV "a" ++ ["..."]) := by
  have low : EndsBelowTop argvPage (4096 : UInt64).toNat (List.replicate MAX_ARGV [97]) := by
    intro index bound ptr word
    rw [List.length_replicate] at bound
    have found := argvPage_words index bound
    have same : ptr = 8190 := Option.some.inj (word.symm.trans found)
    rw [same, List.getElem_replicate]
    decide
  have returned := (walkArgv_readable (servingHost_serves argvPage 7) argvPage_readable
    (.inr low)).2 (by decide)
  rw [returned]
  decide +kernel

/-- An array of exactly `MAX_ARGV` strings, none of which is left out, gets the
sentinel. -/
theorem walkArgv_sentinel_at_cap :
    ReadableArgv argvPage (4096 : UInt64).toNat (List.replicate MAX_ARGV [97]) ∧
    (List.replicate MAX_ARGV [(97 : UInt8)]).length = MAX_ARGV ∧
    walkArgv (servingHost argvPage) 7 4096 ≠
      .ok ((List.replicate MAX_ARGV [97]).map fromUtf8Lossy) := by
  refine ⟨argvPage_readable, rfl, ?_⟩
  decide +kernel

end Loi.Syscalls
