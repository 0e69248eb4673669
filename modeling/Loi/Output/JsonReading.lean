import Mathlib.Data.List.Forall2
import Mathlib.Data.Option.Basic
import Loi.Output.JsonText

/-! What a reader of the JSON format gets from a record, with any parser that gives back the
values that were written but for the order of their fields. -/

set_option autoImplicit false

namespace Loi.Output.Json

open Nix Foundation Loi.Core Syscalls

/-- A value that `serde_json` can hold: an integer has 64 bits, and no object a key twice. -/
inductive Representable : Value → Prop where
  | null : Representable .null
  | bool (value : Bool) : Representable (.bool value)
  | number {value : Int} (low : -2 ^ 63 ≤ value) (high : value < 2 ^ 64) :
      Representable (.number value)
  | string (text : String) : Representable (.string text)
  | array {items : List Value} (each : ∀ item ∈ items, Representable item) :
      Representable (.array items)
  | object {fields : List (String × Value)} (keys : (fields.map Prod.fst).Nodup)
      (each : ∀ field ∈ fields, Representable field.2) : Representable (.object fields)

/-- The same value, but for the order of the fields of its objects. -/
inductive Same : Value → Value → Prop where
  | null : Same .null .null
  | bool (value : Bool) : Same (.bool value) (.bool value)
  | number (value : Int) : Same (.number value) (.number value)
  | string (text : String) : Same (.string text) (.string text)
  | array {left right : List Value} (items : List.Forall₂ Same left right) :
      Same (.array left) (.array right)
  | object {left right : List (String × Value)}
      (fields : ∀ key, Option.Rel Same (left.lookup key) (right.lookup key)) :
      Same (.object left) (.object right)

/-- The parser gives back what the serializer has written. -/
def Parses (serializer : Serializer) (parse : String → Option Value) : Prop :=
  ∀ value, Representable value →
    ∃ read, parse ((serializer value).foldr (· ++ ·) "") = some read ∧ Same value read

theorem mem_of_lookup {fields : List (String × Value)} {key : String} {value : Value}
    (found : fields.lookup key = some value) : (key, value) ∈ fields := by
  induction fields with
  | nil => cases found
  | cons field rest ih =>
      rw [List.lookup_cons] at found
      split at found
      · next same =>
          cases found
          rw [beq_iff_eq.mp same]
          exact List.mem_cons_self
      · exact .tail _ (ih found)

theorem lookup_eq_some_iff {fields : List (String × Value)} (keys : (fields.map Prod.fst).Nodup)
    {key : String} {value : Value} :
    fields.lookup key = some value ↔ (key, value) ∈ fields := by
  refine ⟨mem_of_lookup, fun member => ?_⟩
  induction fields with
  | nil => cases member
  | cons field rest ih =>
      obtain ⟨apart, restKeys⟩ := List.nodup_cons.mp keys
      rw [List.lookup_cons]
      cases member with
      | head => simp
      | tail _ member =>
          have other : (key == field.1) = false := by
            refine beq_false_of_ne ?_
            rintro rfl
            exact apart (List.mem_map.mpr ⟨_, member, rfl⟩)
          rw [other]
          exact ih restKeys member

/-- Without a key twice, the order of the fields makes no difference. -/
theorem lookup_perm {fields other : List (String × Value)} (same : fields.Perm other)
    (keys : (other.map Prod.fst).Nodup) (key : String) :
    fields.lookup key = other.lookup key := by
  have keys' : (fields.map Prod.fst).Nodup := (same.map Prod.fst).nodup_iff.mpr keys
  apply Option.ext
  intro value
  rw [lookup_eq_some_iff keys', lookup_eq_some_iff keys, same.mem_iff]

theorem sortedFields_keys (fields : List (String × Value)) :
    (sortedFields fields).map Prod.fst = fields.map Prod.fst := by
  induction fields with
  | nil => rfl
  | cons field rest ih =>
      obtain ⟨key, value⟩ := field
      rw [sortedFields, List.map_cons, List.map_cons, ih]

theorem same_sorted {value : Value} (representable : Representable value) :
    Same value (sorted value) := by
  induction representable with
  | null => exact .null
  | bool value => exact .bool value
  | number => exact .number _
  | string text => exact .string text
  | @array items each ih =>
      rw [sorted]
      refine .array ?_
      clear each
      induction items with
      | nil => exact .nil
      | cons first rest later =>
          rw [sortedItems]
          exact .cons (ih first List.mem_cons_self)
            (later fun item member => ih item (.tail _ member))
  | @object fields keys each ih =>
      rw [sorted]
      refine .object fun key => ?_
      have keys' : ((sortedFields fields).map Prod.fst).Nodup := sortedFields_keys fields ▸ keys
      rw [lookup_perm (List.perm_insertionSort keyLE _) keys']
      clear keys keys' each
      induction fields with
      | nil => exact .none
      | cons field rest later =>
          obtain ⟨name, value⟩ := field
          rw [sortedFields, List.lookup_cons, List.lookup_cons]
          split
          · exact .some (ih (name, value) List.mem_cons_self)
          · exact later fun field member => ih field (.tail _ member)

theorem compact_parses : Parses compact readText := by
  intro value representable
  refine ⟨sorted value, ?_, same_sorted representable⟩
  simpa [compact] using readText_compact (sorted value)

section Readers

def number? : Value → Option Int
  | .number value => some value
  | _ => none

def string? : Value → Option String
  | .string text => some text
  | _ => none

def bool? : Value → Option Bool
  | .bool value => some value
  | _ => none

def items? : Value → Option (List Value)
  | .array items => some items
  | _ => none

def field? (key : String) : Value → Option Value
  | .object fields => fields.lookup key
  | _ => none

/-- The reader does not look at the order of fields. -/
def Respects {Read : Type} (reader : Value → Option Read) : Prop :=
  ∀ ⦃value other⦄, Same value other → reader other = reader value

variable {Read Next : Type}

theorem number?_respects : Respects number? := by
  intro value other same
  cases same <;> rfl

theorem string?_respects : Respects string? := by
  intro value other same
  cases same <;> rfl

theorem bool?_respects : Respects bool? := by
  intro value other same
  cases same <;> rfl

theorem Respects.field {reader : Value → Option Read} (respects : Respects reader) (key : String) :
    Respects fun value => field? key value >>= reader := by
  intro value other same
  cases same with
  | @object left right fields =>
      have found := fields key
      change (right.lookup key >>= reader) = (left.lookup key >>= reader)
      generalize left.lookup key = value at found ⊢
      generalize right.lookup key = other at found ⊢
      cases found with
      | none => rfl
      | some same => exact respects same
  | _ => rfl

theorem Respects.items {reader : Value → Option Read} (respects : Respects reader) :
    Respects fun value => items? value >>= fun items => items.mapM reader := by
  intro value other same
  cases same with
  | array items =>
      change List.mapM reader _ = List.mapM reader _
      induction items with
      | nil => rfl
      | cons first _ ih => rw [List.mapM_cons, List.mapM_cons, respects first, ih]
  | _ => rfl

theorem Respects.bind {reader : Value → Option Read} {next : Read → Value → Option Next}
    (respects : Respects reader) (later : ∀ read, Respects (next read)) :
    Respects fun value => reader value >>= fun read => next read value := by
  intro value other same
  dsimp only
  rw [respects same]
  cases reader value with
  | none => rfl
  | some read => exact later read same

theorem respects_pure (read : Read) : Respects fun _ => some read :=
  fun _ _ _ => rfl

end Readers

/-- What is to be read of an argument. -/
inductive Shown where
  | absent
  | number (value : Int)
  | text (text : String)
  | texts (items : List String)
  | buffer (inline : String) (total : Int) (truncated : Bool)
  deriving DecidableEq, Repr

namespace Shown

def buffer? (value : Value) : Option Shown := do
  let inline ← field? "inline" value >>= string?
  let total ← field? "total" value >>= number?
  let truncated ← field? "truncated" value >>= bool?
  return .buffer inline total truncated

def ofValue : Value → Option Shown
  | .null => some .absent
  | .bool _ => none
  | .number value => some (.number value)
  | .string value => some (.text value)
  | .array items => (items.mapM string?).map .texts
  | .object fields => buffer? (.object fields)

/-- What the JSON of an argument says of it: numbers are told from texts, but no hexadecimal
number from a text of the same characters. -/
def ofArg : DecodedArg → Shown
  | .path name => .text name
  | .fd .atFdCwd => .text "AT_FDCWD"
  | .fd .invalid => .number (-1)
  | .fd (.num n) => .number n.toInt
  | .flags names => .texts names
  | .mode m => .number m.toNat
  | .int i => .number i.toInt
  | .uint u => .number u.toNat
  | .bytes inline total => .buffer (fromUtf8Lossy inline) total (inline.length < total)
  | .hex n => .text ("0x" ++ numeral 16 n.toNat)
  | .ptr n => if n = 0 then .absent else .text ("0x" ++ numeral 16 n.toNat)
  | .argv entries => .texts entries

theorem buffer?_respects : Respects buffer? := by
  refine (string?_respects.field "inline").bind fun inline => ?_
  refine (number?_respects.field "total").bind fun total => ?_
  exact (bool?_respects.field "truncated").bind fun truncated => respects_pure _

theorem ofValue_respects : Respects ofValue := by
  intro value other same
  cases same with
  | array items =>
      have read := string?_respects.items (.array items)
      exact congrArg (Option.map Shown.texts) read
  | object fields => exact buffer?_respects (.object fields)
  | _ => rfl

theorem mapM_string (texts : List String) : (texts.map Value.string).mapM string? = some texts := by
  induction texts with
  | nil => rfl
  | cons text rest ih =>
      rw [List.map_cons, List.mapM_cons, ih]
      rfl

theorem ofValue_argToJson (arg : DecodedArg) : ofValue (argToJson arg) = some (ofArg arg) := by
  cases arg with
  | flags names => exact congrArg (Option.map Shown.texts) (mapM_string names)
  | argv entries => exact congrArg (Option.map Shown.texts) (mapM_string entries)
  | fd fd => cases fd <;> rfl
  | ptr n =>
      simp only [argToJson, ofArg]
      split_ifs <;> rfl
  | _ => rfl

end Shown

/-- What a line says about its syscall. -/
structure Record where
  pid : Int
  syscallNr : Int
  syscallName : String
  ret : Int
  errnoName : Option String
  duration : Int
  args : List (String × Shown)
  deriving DecidableEq, Repr

namespace Record

def arg? (value : Value) : Option (String × Shown) := do
  let name ← field? "name" value >>= string?
  let shown ← field? "value" value >>= Shown.ofValue
  return (name, shown)

def ofValue (value : Value) : Option Record := do
  let pid ← field? "pid" value >>= number?
  let syscallNr ← field? "syscall_nr" value >>= number?
  let syscallName ← field? "syscall_name" value >>= string?
  let ret ← field? "ret" value >>= number?
  let duration ← field? "duration" value >>= number?
  let args ← field? "args" value >>= fun args => items? args >>= fun items => items.mapM arg?
  return {
    pid, syscallNr, syscallName, ret, duration, args
    errnoName := field? "errno_name" value >>= string? }

/-- What is to be read of an event. -/
def ofEvent (event : SyscallEvent) (decoded : DecodedCall) (errno : Option (String × String)) :
    Record where
  pid := event.pid.toInt
  syscallNr := event.syscallNr.toNat
  syscallName := event.syscallName
  ret := event.ret.toInt
  errnoName := errno.map Prod.fst
  duration := event.duration
  args := decoded.args.map fun arg => (arg.1, Shown.ofArg arg.2)

theorem arg?_respects : Respects arg? := by
  refine (string?_respects.field "name").bind fun name => ?_
  exact (Shown.ofValue_respects.field "value").bind fun shown => respects_pure _

theorem ofValue_respects : Respects ofValue := by
  refine (number?_respects.field "pid").bind fun pid => ?_
  refine (number?_respects.field "syscall_nr").bind fun syscallNr => ?_
  refine (string?_respects.field "syscall_name").bind fun syscallName => ?_
  refine (number?_respects.field "ret").bind fun ret => ?_
  refine (number?_respects.field "duration").bind fun duration => ?_
  refine (arg?_respects.items.field "args").bind fun args => ?_
  intro value other same
  have errnoName := string?_respects.field "errno_name" same
  dsimp only at errnoName ⊢
  rw [errnoName]

theorem mapM_arg (args : List (String × DecodedArg)) :
    (args.map argObject).mapM arg? = some (args.map fun arg => (arg.1, Shown.ofArg arg.2)) := by
  induction args with
  | nil => rfl
  | cons arg rest ih =>
      have shown : arg? (argObject arg) = some (arg.1, Shown.ofArg arg.2) := by
        have value := Shown.ofValue_argToJson arg.2
        change (do let shown ← Shown.ofValue (argToJson arg.2); return (arg.1, shown)) = _
        rw [value]
        rfl
      rw [List.map_cons, List.mapM_cons, shown, ih]
      rfl

theorem ofValue_eventObject (event : SyscallEvent) (decoded : DecodedCall)
    (errno : Option (String × String)) :
    ofValue (eventObject event decoded errno) = some (ofEvent event decoded errno) := by
  have args := mapM_arg decoded.args
  cases errno <;>
    simp [ofValue, eventObject, field?, List.lookup_cons, number?, string?, items?, args, ofEvent]

end Record

/-- The length of a buffer is a `usize`. -/
def BufferFits (arg : String × DecodedArg) : Prop :=
  ∀ inline total, arg.2 = .bytes inline total → total < 2 ^ 64

section Representable

theorem representable_nat {value : Nat} (fits : value < 2 ^ 64) : Representable (.number value) :=
  .number (by omega) (by omega)

theorem representable_int32 (value : Int32) : Representable (.number value.toInt) := by
  have low := value.le_toInt
  have high := value.toInt_lt
  exact .number (by omega) (by omega)

theorem representable_int64 (value : Int64) : Representable (.number value.toInt) := by
  have low := value.le_toInt
  have high := value.toInt_lt
  exact .number (by omega) (by omega)

theorem representable_strings (texts : List String) :
    Representable (.array (texts.map .string)) := by
  refine .array fun item member => ?_
  obtain ⟨text, _, rfl⟩ := List.mem_map.mp member
  exact .string text

theorem representable_argToJson {arg : String × DecodedArg} (fits : BufferFits arg) :
    Representable (argToJson arg.2) := by
  obtain ⟨label, arg⟩ := arg
  cases arg with
  | path text => exact .string text
  | fd fd =>
      cases fd with
      | atFdCwd => exact .string _
      | invalid => exact .number (by decide) (by decide)
      | num n => exact representable_int32 n
  | flags names => exact representable_strings names
  | mode m => exact representable_nat (m.toNat_lt.trans (by decide))
  | int i => exact representable_int64 i
  | uint u => exact representable_nat u.toNat_lt
  | bytes inline total =>
      refine .object (by simp) ?_
      simp only [List.forall_mem_cons, List.not_mem_nil, false_imp_iff, implies_true, and_true]
      exact ⟨.string _, representable_nat (fits inline total rfl), .bool _⟩
  | hex n => exact .string _
  | ptr n =>
      simp only [argToJson]
      split_ifs
      · exact .null
      · exact .string _
  | argv entries => exact representable_strings entries

/-- Every record is one that `serde_json` can hold: no key stands in it twice. -/
theorem representable_eventObject {event : SyscallEvent} {decoded : DecodedCall}
    (fits : event.duration < 2 ^ 64) (buffers : ∀ arg ∈ decoded.args, BufferFits arg)
    (errno : Option (String × String)) : Representable (eventObject event decoded errno) := by
  have args : Representable (.array (decoded.args.map argObject)) := by
    refine .array fun item member => ?_
    obtain ⟨arg, listed, rfl⟩ := List.mem_map.mp member
    refine .object (by simp) ?_
    simp only [List.forall_mem_cons, List.not_mem_nil, false_imp_iff, implies_true, and_true]
    exact ⟨.string _, representable_argToJson (buffers arg listed)⟩
  have pid := representable_int32 event.pid
  have nr := representable_nat event.syscallNr.toNat_lt
  have ret := representable_int64 event.ret
  have duration := representable_nat fits
  cases errno with
  | none =>
      refine .object (by simp) ?_
      simp only [List.forall_mem_cons, List.forall_mem_append, List.not_mem_nil, false_imp_iff,
        implies_true, and_true]
      exact ⟨⟨pid, nr, .string _, ret⟩, duration, args⟩
  | some pair =>
      refine .object (by simp) ?_
      simp only [List.forall_mem_cons, List.forall_mem_append, List.not_mem_nil, false_imp_iff,
        implies_true, and_true]
      exact ⟨⟨⟨pid, nr, .string _, ret⟩, .string _⟩, duration, args⟩

end Representable

end Loi.Output.Json
