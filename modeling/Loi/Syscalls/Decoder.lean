import Loi.Core.Event
import Loi.Foundation.Utf8
import Loi.Memory

/-! Shared decoder types and helpers. -/

set_option autoImplicit false

namespace Loi.Syscalls

open Nix Foundation Memory

def PATH_MAX : Nat := 4096

def AT_FDCWD : Int64 := -100

structure DecodeCtx where
  pid : Pid
  args : Core.Args
  ret : Int64
  deriving DecidableEq, Repr

inductive DecodeError where
  | memory (error : MemError)
  deriving DecidableEq, Repr

inductive FdRepr where
  | atFdCwd
  | invalid
  | num (fd : Int32)
  deriving DecidableEq, Repr

inductive DecodedArg where
  | path (path : String)
  | fd (fd : FdRepr)
  | flags (names : List String)
  | mode (mode : UInt32)
  | int (value : Int64)
  | uint (value : UInt64)
  | bytes (inline : List UInt8) (total : Nat)
  | hex (value : UInt64)
  | ptr (address : UInt64)
  | argv (entries : List String)
  deriving DecidableEq, Repr

def DecodedArg.asPath : DecodedArg → Option String
  | .path text => some text
  | _ => none

structure DecodedCall where
  args : List (String × DecodedArg)
  ret : Int64
  deriving DecidableEq, Repr

inductive Category where
  | file
  | fileMeta
  | memory
  | process
  | other
  deriving DecidableEq, Repr

structure Decoder where
  category : Category
  decode : Host → DecodeCtx → Outcome DecodeError DecodedCall

/-- `String::from_utf8` with the lossy fallback that the decoders share. -/
def utf8OrLossy (bytes : List UInt8) : String :=
  match fromUtf8 bytes with
  | some text => text
  | none => fromUtf8Lossy bytes

def decodePath (host : Host) (pid : Pid) (addr : UInt64) : Outcome DecodeError String := do
  let bytes ← (readCstr host pid addr PATH_MAX).mapErr .memory
  return utf8OrLossy bytes

def decodeFd (host : Host) (raw : Int64) : Outcome DecodeError FdRepr :=
  if raw = AT_FDCWD then .ok .atFdCwd
  else if raw < 0 then .ok .invalid
  else do
    host.profile.debugAssert (raw ≤ Int32.maxValue.toInt64)
    return .num (if raw ≤ Int32.maxValue.toInt64 then raw.toInt32 else Int32.maxValue)

/-- `x as u64` of a `c_int`: the sign bit is extended. -/
def cIntToU64 (x : Int32) : UInt64 :=
  x.toInt64.toUInt64

abbrev FlagTable := List (UInt64 × String)

def decodeFlags (raw : UInt64) (table : FlagTable) : List String :=
  if raw = 0 then []
  else (table.filter fun entry => entry.1 ≠ 0 && raw &&& entry.1 = entry.1).map Prod.snd

def PROT_TABLE : FlagTable :=
  [(cIntToU64 Libc.PROT_READ, "PROT_READ"),
    (cIntToU64 Libc.PROT_WRITE, "PROT_WRITE"),
    (cIntToU64 Libc.PROT_EXEC, "PROT_EXEC")]

def decodeProt (raw : UInt64) : List String :=
  if raw = 0 then ["PROT_NONE"] else decodeFlags raw PROT_TABLE

/-- `i64::from(register as i32)`: an `int` argument in the low half of a register. -/
def intOfRegister (register : UInt64) : Int64 :=
  register.toUInt32.toInt32.toInt64

end Loi.Syscalls
