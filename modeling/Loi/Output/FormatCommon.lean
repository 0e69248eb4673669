import Mathlib.Algebra.Group.Int.Defs
import Loi.Core.Event
import Loi.Foundation.Text
import Loi.Syscalls.Decoder

/-! Shared helpers of the two formatters. -/

set_option autoImplicit false

namespace Loi.Output

open Nix Foundation Loi.Core Syscalls

inductive ErrorKind where
  | brokenPipe
  | invalidData
  | other
  | os (code : Nat)
  deriving DecidableEq, Repr

structure WriteFailure where
  kind : ErrorKind
  raw : Nat
  deriving DecidableEq, Repr

/-- An `io::Error` as it reaches `record`: the failure of the writer itself,
`io::Error::other` around the `serde_json::Error` that carries one, or the
rejected conversion of a duration. -/
inductive IoError where
  | device (failure : WriteFailure)
  | serde (failure : WriteFailure)
  | duration
  deriving DecidableEq, Repr

def IoError.kind : IoError → ErrorKind
  | .device failure => failure.kind
  | .serde _ => .other
  | .duration => .invalidData

/-- What `std` and `nix` render for the formatters: the symbol and the
description of a known errno, and `{:.1}` of `nanos` over a unit as floats. -/
structure Tables where
  errno : Int32 → Option (String × String)
  fixed1 : Nat → Nat → String

def RET_ENOENT : Int64 := -2

def quoted (text : String) : String :=
  "\"" ++ escapeDefault text ++ "\""

def renderArgText : DecodedArg → String
  | .path text => quoted text
  | .fd .atFdCwd => "AT_FDCWD"
  | .fd .invalid => "-1"
  | .fd (.num n) => toString n.toInt
  | .flags names => if names = [] then "0" else join "|" names
  | .mode m => "0o" ++ numeral 8 m.toNat
  | .int i => toString i.toInt
  | .uint u => toString u.toNat
  | .bytes inline total =>
      quoted (fromUtf8Lossy inline) ++ (if inline.length < total then "..." else "")
  | .hex n => "0x" ++ numeral 16 n.toNat
  | .ptr n => if n = 0 then "NULL" else "0x" ++ numeral 16 n.toNat
  | .argv entries => "[" ++ join ", " (entries.map quoted) ++ "]"

inductive Value where
  | null
  | bool (value : Bool)
  | number (value : Int)
  | string (text : String)
  | array (items : List Value)
  | object (fields : List (String × Value))

def argToJson : DecodedArg → Value
  | .path text => .string text
  | .fd .atFdCwd => .string "AT_FDCWD"
  | .fd .invalid => .number (-1)
  | .fd (.num n) => .number n.toInt
  | .flags names => .array (names.map .string)
  | .mode m => .number m.toNat
  | .int i => .number i.toInt
  | .uint u => .number u.toNat
  | .bytes inline total =>
      .object [("inline", .string (fromUtf8Lossy inline)), ("total", .number total),
        ("truncated", .bool (inline.length < total))]
  | .hex n => .string ("0x" ++ numeral 16 n.toNat)
  | .ptr n => if n = 0 then .null else .string ("0x" ++ numeral 16 n.toNat)
  | .argv entries => .array (entries.map .string)

/-- The negation overflows at the least value when the build checks for it, and
else wraps to a number that fits no `i32`. -/
def errnoOfRet {Error : Type} (profile : Profile) (tables : Tables) (ret : Int64) :
    Outcome Error (Option (String × String)) :=
  if 0 ≤ ret then .ok none
  else if profile.overflowChecks ∧ ret = Int64.minValue then .panicked
  else if (-ret).toInt < -2 ^ 31 ∨ 2 ^ 31 ≤ (-ret).toInt then .ok none
  else .ok (tables.errno (-ret).toInt32)

def isPathLookup (name : String) : Bool :=
  name = "openat" || name = "open" || name = "newfstatat" || name = "access" ||
    name = "faccessat" || name = "stat" || name = "statx"

/-- `path.rsplit('/').next()`. -/
def finalComponent (path : String) : String :=
  String.ofList (path.toList.reverse.takeWhile (· ≠ '/')).reverse

/-- The first `Path` argument that is labelled `pathname`. -/
def pathnameOf (decoded : DecodedCall) : Option String :=
  decoded.args.findSome? fun arg => if arg.1 = "pathname" then arg.2.asPath else none

def lookupBasename (name : String) (decoded : DecodedCall) : Option String :=
  if isPathLookup name then (pathnameOf decoded).map finalComponent else none

def fmtDuration (tables : Tables) (nanos : Nat) : String :=
  if nanos < 1000 then toString nanos ++ "ns"
  else if nanos < 1000000 then toString (nanos / 1000) ++ "us"
  else if nanos < 1000000000 then tables.fixed1 nanos 1000000 ++ "ms"
  else tables.fixed1 nanos 1000000000 ++ "s"

end Loi.Output
