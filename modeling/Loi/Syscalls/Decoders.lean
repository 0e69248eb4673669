import Loi.Syscalls.Decoder

/-! The decoders of the individual syscalls. -/

set_option autoImplicit false

namespace Loi.Syscalls

open Nix Foundation Memory

def MAX_INLINE_BYTES : Nat := 64

def MAX_ARGV : Nat := 64

def MAX_ARGV_ENTRY_BYTES : Nat := 256

def PTR_BYTES : Nat := 8

def STATUS_WORD_BYTES : Nat := 4

/-- `from_ne_bytes` on the two hosts, which are both little-endian. -/
def fromNeBytes (bytes : List UInt8) : Nat :=
  bytes.foldr (fun byte rest => byte.toNat + 256 * rest) 0

/-- `usize::try_from` of a return value. -/
def sizeOfRet (ret : Int64) : Option Nat :=
  if 0 ≤ ret then some ret.toInt.toNat else none

def CLONE_TABLE : FlagTable :=
  [(cIntToU64 Libc.CLONE_VM, "CLONE_VM"),
    (cIntToU64 Libc.CLONE_FS, "CLONE_FS"),
    (cIntToU64 Libc.CLONE_FILES, "CLONE_FILES"),
    (cIntToU64 Libc.CLONE_SIGHAND, "CLONE_SIGHAND"),
    (cIntToU64 Libc.CLONE_PIDFD, "CLONE_PIDFD"),
    (cIntToU64 Libc.CLONE_PTRACE, "CLONE_PTRACE"),
    (cIntToU64 Libc.CLONE_VFORK, "CLONE_VFORK"),
    (cIntToU64 Libc.CLONE_PARENT, "CLONE_PARENT"),
    (cIntToU64 Libc.CLONE_THREAD, "CLONE_THREAD"),
    (cIntToU64 Libc.CLONE_NEWNS, "CLONE_NEWNS"),
    (cIntToU64 Libc.CLONE_SYSVSEM, "CLONE_SYSVSEM"),
    (cIntToU64 Libc.CLONE_SETTLS, "CLONE_SETTLS"),
    (cIntToU64 Libc.CLONE_PARENT_SETTID, "CLONE_PARENT_SETTID"),
    (cIntToU64 Libc.CLONE_CHILD_CLEARTID, "CLONE_CHILD_CLEARTID"),
    (cIntToU64 Libc.CLONE_DETACHED, "CLONE_DETACHED"),
    (cIntToU64 Libc.CLONE_UNTRACED, "CLONE_UNTRACED"),
    (cIntToU64 Libc.CLONE_CHILD_SETTID, "CLONE_CHILD_SETTID"),
    (cIntToU64 Libc.CLONE_NEWCGROUP, "CLONE_NEWCGROUP"),
    (cIntToU64 Libc.CLONE_NEWUTS, "CLONE_NEWUTS"),
    (cIntToU64 Libc.CLONE_NEWIPC, "CLONE_NEWIPC"),
    (cIntToU64 Libc.CLONE_NEWUSER, "CLONE_NEWUSER"),
    (cIntToU64 Libc.CLONE_NEWPID, "CLONE_NEWPID"),
    (cIntToU64 Libc.CLONE_NEWNET, "CLONE_NEWNET"),
    (cIntToU64 Libc.CLONE_IO, "CLONE_IO")]

def PTR_LABELS : Libc.Arch → String × String × String
  | .aarch64 => ("parent_tid", "tls", "child_tid")
  | .x86_64 => ("parent_tid", "child_tid", "tls")

def Clone : Decoder where
  category := .process
  decode host ctx := do
    return {
      args := [
        ("flags", .flags (decodeFlags ctx.args[0] CLONE_TABLE)),
        ("stack", .ptr ctx.args[1]),
        ((PTR_LABELS host.arch).1, .ptr ctx.args[2]),
        ((PTR_LABELS host.arch).2.1, .ptr ctx.args[3]),
        ((PTR_LABELS host.arch).2.2, .ptr ctx.args[4])]
      ret := ctx.ret }

def Close : Decoder where
  category := .file
  decode host ctx := do
    let fd ← decodeFd host (intOfRegister ctx.args[0])
    return { args := [("fd", .fd fd)], ret := ctx.ret }

def SENTINEL_OVERFLOW : String := "..."

def SENTINEL_UNREADABLE : String := "<unreadable>"

def decodeArgvEntry (host : Host) (pid : Pid) (addr : UInt64) : Outcome DecodeError String := do
  let bytes ← (readCstr host pid addr MAX_ARGV_ENTRY_BYTES).mapErr .memory
  return utf8OrLossy bytes

def readPtrSlot (host : Host) (pid : Pid) (addr : UInt64) : Outcome DecodeError UInt64 := do
  let bytes ← (readBytes host pid addr PTR_BYTES).mapErr .memory
  -- The `expect` on the conversion to an array of `PTR_BYTES` bytes.
  if bytes.length = PTR_BYTES then return UInt64.ofNat (fromNeBytes bytes) else .panicked

def saturatingAdd (left right : UInt64) : UInt64 :=
  if left.toNat + right.toNat < 2 ^ 64 then left + right else UInt64.ofNat (2 ^ 64 - 1)

/-- The `for` loop of `walk_argv`: the entries and the `overflowed` flag at its end. -/
def walkArgvLoop (host : Host) (pid : Pid) :
    Nat → UInt64 → List String → Outcome DecodeError (List String × Bool)
  | 0, _, entries => .ok (entries, true)
  | rounds + 1, cursor, entries => do
      match ← (readPtrSlot host pid cursor).attempt with
      | .error error =>
          if entries = [] then .err error else .ok (entries ++ [SENTINEL_UNREADABLE], false)
      | .ok ptr =>
          if ptr = 0 then .ok (entries, false)
          else
            match ← (decodeArgvEntry host pid ptr).attempt with
            | .ok entry =>
                walkArgvLoop host pid rounds (saturatingAdd cursor (UInt64.ofNat PTR_BYTES))
                  (entries ++ [entry])
            | .error _ => .ok (entries ++ [SENTINEL_UNREADABLE], false)

def walkArgv (host : Host) (pid : Pid) (argvAddr : UInt64) :
    Outcome DecodeError (List String) := do
  let (entries, overflowed) ← walkArgvLoop host pid MAX_ARGV argvAddr []
  return if overflowed then entries ++ [SENTINEL_OVERFLOW] else entries

def Execve : Decoder where
  category := .process
  decode host ctx := do
    let pathname ← decodePath host ctx.pid ctx.args[0]
    let argv ← walkArgv host ctx.pid ctx.args[1]
    return {
      args := [("pathname", .path pathname), ("argv", .argv argv), ("envp", .ptr ctx.args[2])]
      ret := ctx.ret }

def MAP_TABLE : FlagTable :=
  [(cIntToU64 Libc.MAP_SHARED, "MAP_SHARED"),
    (cIntToU64 Libc.MAP_PRIVATE, "MAP_PRIVATE"),
    (cIntToU64 Libc.MAP_FIXED, "MAP_FIXED"),
    (cIntToU64 Libc.MAP_ANONYMOUS, "MAP_ANONYMOUS"),
    (cIntToU64 Libc.MAP_NORESERVE, "MAP_NORESERVE"),
    (cIntToU64 Libc.MAP_STACK, "MAP_STACK"),
    (cIntToU64 Libc.MAP_POPULATE, "MAP_POPULATE"),
    (cIntToU64 Libc.MAP_DENYWRITE, "MAP_DENYWRITE"),
    (cIntToU64 Libc.MAP_HUGETLB, "MAP_HUGETLB")]

def Mmap : Decoder where
  category := .memory
  decode host ctx := do
    let fd ← decodeFd host (intOfRegister ctx.args[4])
    return {
      args := [
        ("addr", .hex ctx.args[0]),
        ("length", .uint ctx.args[1]),
        ("prot", .flags (decodeProt ctx.args[2])),
        ("flags", .flags (decodeFlags ctx.args[3] MAP_TABLE)),
        ("fd", .fd fd),
        ("offset", .hex ctx.args[5])]
      ret := ctx.ret }

def Mprotect : Decoder where
  category := .memory
  decode _ ctx := do
    return {
      args := [
        ("addr", .hex ctx.args[0]),
        ("len", .uint ctx.args[1]),
        ("prot", .flags (decodeProt ctx.args[2]))]
      ret := ctx.ret }

def O_ACCMODE : UInt64 := 0o3

def O_TMPFILE_MASK (arch : Libc.Arch) : UInt64 := cIntToU64 (Libc.O_TMPFILE arch)

def O_DIRECTORY_MASK (arch : Libc.Arch) : UInt64 := cIntToU64 (Libc.O_DIRECTORY arch)

def OPEN_FLAGS_TABLE (arch : Libc.Arch) : FlagTable :=
  [(cIntToU64 Libc.O_CREAT, "O_CREAT"),
    (cIntToU64 Libc.O_EXCL, "O_EXCL"),
    (cIntToU64 Libc.O_NOCTTY, "O_NOCTTY"),
    (cIntToU64 Libc.O_TRUNC, "O_TRUNC"),
    (cIntToU64 Libc.O_APPEND, "O_APPEND"),
    (cIntToU64 Libc.O_NONBLOCK, "O_NONBLOCK"),
    (cIntToU64 Libc.O_DSYNC, "O_DSYNC"),
    (cIntToU64 (Libc.O_DIRECT arch), "O_DIRECT"),
    (cIntToU64 (Libc.O_NOFOLLOW arch), "O_NOFOLLOW"),
    (cIntToU64 Libc.O_NOATIME, "O_NOATIME"),
    (cIntToU64 Libc.O_CLOEXEC, "O_CLOEXEC"),
    (cIntToU64 Libc.O_PATH, "O_PATH"),
    (O_TMPFILE_MASK arch, "O_TMPFILE"),
    (O_DIRECTORY_MASK arch, "O_DIRECTORY")]

def accessModeName (flags : UInt64) : Option String :=
  if flags &&& O_ACCMODE = 0 then some "O_RDONLY"
  else if flags &&& O_ACCMODE = 1 then some "O_WRONLY"
  else if flags &&& O_ACCMODE = 2 then some "O_RDWR"
  else none

/-- Unlike `decodeFlags` this has no fast path for zero, puts the access mode
first, and keeps `O_DIRECTORY` back when `O_TMPFILE` is set. -/
def decodeOpenFlags (arch : Libc.Arch) (flags : UInt64) : List String :=
  let tmpfileSet := flags &&& O_TMPFILE_MASK arch = O_TMPFILE_MASK arch
  (accessModeName flags).toList ++
    ((OPEN_FLAGS_TABLE arch).filter fun entry =>
      entry.1 ≠ 0 && !(entry.1 = O_DIRECTORY_MASK arch && tmpfileSet) &&
        flags &&& entry.1 = entry.1).map Prod.snd

def OpenAt : Decoder where
  category := .file
  decode host ctx := do
    let pathname ← decodePath host ctx.pid ctx.args[1]
    let dirfd ← decodeFd host (intOfRegister ctx.args[0])
    return {
      args := [
        ("dirfd", .fd dirfd),
        ("pathname", .path pathname),
        ("flags", .flags (decodeOpenFlags host.arch ctx.args[2])),
        ("mode", .mode ctx.args[3].toUInt32)]
      ret := ctx.ret }

/-- The bytes that `read` left in the buffer, if it left any. -/
def inlineOfRead (host : Host) (ctx : DecodeCtx) : Outcome DecodeError (List UInt8) :=
  if ctx.ret > 0 then
    (readBytes host ctx.pid ctx.args[1]
      (min ((sizeOfRet ctx.ret).getD 0) MAX_INLINE_BYTES)).mapErr .memory
  else .ok []

def Read : Decoder where
  category := .file
  decode host ctx := do
    let count := ctx.args[2]
    let inline ← inlineOfRead host ctx
    let fd ← decodeFd host (intOfRegister ctx.args[0])
    return {
      args := [("fd", .fd fd), ("buf", .bytes inline count.toNat), ("count", .uint count)]
      ret := ctx.ret }

/-- How many bytes of the buffer of `write` are captured. -/
def wantOfWrite (ctx : DecodeCtx) : Nat :=
  let total := ctx.args[2].toNat
  min (if ctx.ret > 0 then min ((sizeOfRet ctx.ret).getD total) total else total) MAX_INLINE_BYTES

def inlineOfWrite (host : Host) (ctx : DecodeCtx) : Outcome DecodeError (List UInt8) :=
  if wantOfWrite ctx = 0 then .ok []
  else (readBytes host ctx.pid ctx.args[1] (wantOfWrite ctx)).mapErr .memory

def Write : Decoder where
  category := .file
  decode host ctx := do
    let count := ctx.args[2]
    let inline ← inlineOfWrite host ctx
    let fd ← decodeFd host (intOfRegister ctx.args[0])
    return {
      args := [("fd", .fd fd), ("buf", .bytes inline count.toNat), ("count", .uint count)]
      ret := ctx.ret }

def STATX_FLAGS_TABLE : FlagTable :=
  [(cIntToU64 Libc.AT_EMPTY_PATH, "AT_EMPTY_PATH"),
    (cIntToU64 Libc.AT_NO_AUTOMOUNT, "AT_NO_AUTOMOUNT"),
    (cIntToU64 Libc.AT_SYMLINK_NOFOLLOW, "AT_SYMLINK_NOFOLLOW"),
    (cIntToU64 Libc.AT_STATX_SYNC_AS_STAT, "AT_STATX_SYNC_AS_STAT"),
    (cIntToU64 Libc.AT_STATX_FORCE_SYNC, "AT_STATX_FORCE_SYNC"),
    (cIntToU64 Libc.AT_STATX_DONT_SYNC, "AT_STATX_DONT_SYNC")]

def STATX_MASK_TABLE : FlagTable :=
  [(Libc.STATX_TYPE.toUInt64, "STATX_TYPE"),
    (Libc.STATX_MODE.toUInt64, "STATX_MODE"),
    (Libc.STATX_NLINK.toUInt64, "STATX_NLINK"),
    (Libc.STATX_UID.toUInt64, "STATX_UID"),
    (Libc.STATX_GID.toUInt64, "STATX_GID"),
    (Libc.STATX_ATIME.toUInt64, "STATX_ATIME"),
    (Libc.STATX_MTIME.toUInt64, "STATX_MTIME"),
    (Libc.STATX_CTIME.toUInt64, "STATX_CTIME"),
    (Libc.STATX_INO.toUInt64, "STATX_INO"),
    (Libc.STATX_SIZE.toUInt64, "STATX_SIZE"),
    (Libc.STATX_BLOCKS.toUInt64, "STATX_BLOCKS"),
    (Libc.STATX_BASIC_STATS.toUInt64, "STATX_BASIC_STATS"),
    (Libc.STATX_BTIME.toUInt64, "STATX_BTIME"),
    (Libc.STATX_ALL.toUInt64, "STATX_ALL")]

def Stat : Decoder where
  category := .fileMeta
  decode host ctx := do
    let pathname ← decodePath host ctx.pid ctx.args[0]
    return { args := [("pathname", .path pathname), ("statbuf", .ptr ctx.args[1])], ret := ctx.ret }

def Fstat : Decoder where
  category := .fileMeta
  decode host ctx := do
    let fd ← decodeFd host (intOfRegister ctx.args[0])
    return { args := [("fd", .fd fd), ("statbuf", .ptr ctx.args[1])], ret := ctx.ret }

def Statx : Decoder where
  category := .fileMeta
  decode host ctx := do
    let pathname ← decodePath host ctx.pid ctx.args[1]
    let dirfd ← decodeFd host (intOfRegister ctx.args[0])
    return {
      args := [
        ("dirfd", .fd dirfd),
        ("pathname", .path pathname),
        ("flags", .flags (decodeFlags ctx.args[2] STATX_FLAGS_TABLE)),
        ("mask", .flags (decodeFlags ctx.args[3] STATX_MASK_TABLE)),
        ("statbuf", .ptr ctx.args[4])]
      ret := ctx.ret }

def OPTIONS_TABLE : FlagTable :=
  [(cIntToU64 Libc.WNOHANG, "WNOHANG"),
    (cIntToU64 Libc.WUNTRACED, "WUNTRACED"),
    (cIntToU64 Libc.WCONTINUED, "WCONTINUED")]

def readStatusWord (host : Host) (pid : Pid) (addr : UInt64) :
    Outcome DecodeError (Option UInt32) := do
  match ← (readBytes host pid addr STATUS_WORD_BYTES).attempt.mapErr .memory with
  | .error _ => return none
  | .ok bytes =>
      if bytes.length = STATUS_WORD_BYTES then return some (UInt32.ofNat (fromNeBytes bytes))
      else return none

/-- The status word when the call reaped a child, else the pointer. -/
def wstatusOfWait4 (host : Host) (ctx : DecodeCtx) : Outcome DecodeError DecodedArg :=
  let wstatusAddr := ctx.args[1]
  if ctx.ret > 0 ∧ wstatusAddr ≠ 0 then do
    match ← readStatusWord host ctx.pid wstatusAddr with
    | some word => return .hex word.toUInt64
    | none => return .ptr wstatusAddr
  else .ok (.ptr wstatusAddr)

def Wait4 : Decoder where
  category := .process
  decode host ctx := do
    let wstatus ← wstatusOfWait4 host ctx
    return {
      args := [
        -- The one `int` argument that is widened from the whole register.
        ("pid", .int ctx.args[0].toInt64),
        ("wstatus", wstatus),
        ("options", .flags (decodeFlags ctx.args[2] OPTIONS_TABLE)),
        ("rusage", .ptr ctx.args[3])]
      ret := ctx.ret }

end Loi.Syscalls
