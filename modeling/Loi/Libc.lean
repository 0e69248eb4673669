set_option autoImplicit false

/-! The constants that the decoders take from `libc`, as the `c_int` values of
the two supported hosts. -/

namespace Loi.Libc

/-- The architecture that loi was built for. -/
inductive Arch where
  | x86_64
  | aarch64
  deriving DecidableEq, Repr

section Open

variable (arch : Arch)

def O_CREAT : Int32 := 0x40
def O_EXCL : Int32 := 0x80
def O_NOCTTY : Int32 := 0x100
def O_TRUNC : Int32 := 0x200
def O_APPEND : Int32 := 0x400
def O_NONBLOCK : Int32 := 0x800
def O_DSYNC : Int32 := 0x1000
def O_NOATIME : Int32 := 0x40000
def O_CLOEXEC : Int32 := 0x80000
def O_PATH : Int32 := 0x200000

def O_DIRECT : Int32 :=
  match arch with
  | .x86_64 => 0x4000
  | .aarch64 => 0x10000

def O_DIRECTORY : Int32 :=
  match arch with
  | .x86_64 => 0x10000
  | .aarch64 => 0x4000

def O_NOFOLLOW : Int32 :=
  match arch with
  | .x86_64 => 0x20000
  | .aarch64 => 0x8000

def O_TMPFILE : Int32 := 0x400000 ||| O_DIRECTORY arch

end Open

def PROT_READ : Int32 := 1
def PROT_WRITE : Int32 := 2
def PROT_EXEC : Int32 := 4

def MAP_SHARED : Int32 := 0x1
def MAP_PRIVATE : Int32 := 0x2
def MAP_FIXED : Int32 := 0x10
def MAP_ANONYMOUS : Int32 := 0x20
def MAP_DENYWRITE : Int32 := 0x800
def MAP_NORESERVE : Int32 := 0x4000
def MAP_POPULATE : Int32 := 0x8000
def MAP_STACK : Int32 := 0x20000
def MAP_HUGETLB : Int32 := 0x40000

def CLONE_VM : Int32 := 0x100
def CLONE_FS : Int32 := 0x200
def CLONE_FILES : Int32 := 0x400
def CLONE_SIGHAND : Int32 := 0x800
def CLONE_PIDFD : Int32 := 0x1000
def CLONE_PTRACE : Int32 := 0x2000
def CLONE_VFORK : Int32 := 0x4000
def CLONE_PARENT : Int32 := 0x8000
def CLONE_THREAD : Int32 := 0x10000
def CLONE_NEWNS : Int32 := 0x20000
def CLONE_SYSVSEM : Int32 := 0x40000
def CLONE_SETTLS : Int32 := 0x80000
def CLONE_PARENT_SETTID : Int32 := 0x100000
def CLONE_CHILD_CLEARTID : Int32 := 0x200000
def CLONE_DETACHED : Int32 := 0x400000
def CLONE_UNTRACED : Int32 := 0x800000
def CLONE_CHILD_SETTID : Int32 := 0x1000000
def CLONE_NEWCGROUP : Int32 := 0x2000000
def CLONE_NEWUTS : Int32 := 0x4000000
def CLONE_NEWIPC : Int32 := 0x8000000
def CLONE_NEWUSER : Int32 := 0x10000000
def CLONE_NEWPID : Int32 := 0x20000000
def CLONE_NEWNET : Int32 := 0x40000000
-- Bit 31: the only constant here that is negative as a `c_int`.
def CLONE_IO : Int32 := -0x80000000

def AT_SYMLINK_NOFOLLOW : Int32 := 0x100
def AT_NO_AUTOMOUNT : Int32 := 0x800
def AT_EMPTY_PATH : Int32 := 0x1000
def AT_STATX_SYNC_AS_STAT : Int32 := 0
def AT_STATX_FORCE_SYNC : Int32 := 0x2000
def AT_STATX_DONT_SYNC : Int32 := 0x4000

def STATX_TYPE : UInt32 := 0x1
def STATX_MODE : UInt32 := 0x2
def STATX_NLINK : UInt32 := 0x4
def STATX_UID : UInt32 := 0x8
def STATX_GID : UInt32 := 0x10
def STATX_ATIME : UInt32 := 0x20
def STATX_MTIME : UInt32 := 0x40
def STATX_CTIME : UInt32 := 0x80
def STATX_INO : UInt32 := 0x100
def STATX_SIZE : UInt32 := 0x200
def STATX_BLOCKS : UInt32 := 0x400
def STATX_BASIC_STATS : UInt32 := 0x7FF
def STATX_BTIME : UInt32 := 0x800
def STATX_ALL : UInt32 := 0xFFF

def WNOHANG : Int32 := 1
def WUNTRACED : Int32 := 2
def WCONTINUED : Int32 := 8

end Loi.Libc
