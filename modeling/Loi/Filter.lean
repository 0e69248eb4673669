import Loi.Foundation.Text
import Loi.Syscalls.Decoder

/-! The gates that an event passes before it is formatted. -/

set_option autoImplicit false

namespace Loi

open Foundation Loi.Core Syscalls

/-- A compiled `globset::GlobSet`, by what it matches. -/
structure GlobSet where
  isMatch : String → Bool

structure Filter where
  syscalls : Option GlobSet
  onlyFail : Bool
  paths : Option GlobSet

namespace Filter

def empty : Filter :=
  { syscalls := none, onlyFail := false, paths := none }

def matchesEvent (filter : Filter) (event : SyscallEvent) : Bool :=
  if filter.onlyFail && 0 ≤ event.ret then false
  else
    match filter.syscalls with
    | some set => set.isMatch event.syscallName
    | none => true

def matchesDecoded (filter : Filter) (decoded : DecodedCall) : Bool :=
  match filter.paths with
  | none => true
  | some set => (decoded.args.filterMap fun arg => arg.2.asPath).any set.isMatch

def needsDecode (filter : Filter) : Bool :=
  filter.paths.isSome

end Filter

/-- What `compile_globs` uses of the `globset` crate: `Glob::new`, the build of a
`GlobSetBuilder` to which globs were added in order, and `Error::glob`. -/
structure Globset where
  Glob : Type
  Error : Type
  new : String → Except Error Glob
  build : List Glob → Except Error GlobSet
  glob : Error → Option String

inductive FilterError (globset : Globset) where
  | invalidGlob (pattern : String) (source : globset.Error)

section Parse

variable (globset : Globset)

/-- The `for` loop of `compile_globs`: the globs of the builder and the `any` flag at
its end. -/
def compileLoop :
    List String → List globset.Glob → Bool →
      Except (FilterError globset) (List globset.Glob × Bool)
  | [], builder, any => .ok (builder, any)
  | seg :: rest, builder, any =>
      let pattern := trim seg
      if pattern = "" then compileLoop rest builder any
      else
        match globset.new pattern with
        | .error source => .error (.invalidGlob pattern source)
        | .ok glob => compileLoop rest (builder ++ [glob]) true

def compileGlobs (raw : Option String) : Except (FilterError globset) (Option GlobSet) :=
  match raw with
  | none => .ok none
  | some raw =>
      match compileLoop globset (splitAt ',' raw) [] false with
      | .error error => .error error
      | .ok (builder, any) =>
          if !any then .ok none
          else
            match globset.build builder with
            | .ok set => .ok (some set)
            | .error source => .error (.invalidGlob ((globset.glob source).getD raw) source)

def Filter.parse (syscalls : Option String) (onlyFail : Bool) (paths : Option String) :
    Except (FilterError globset) Filter :=
  match compileGlobs globset syscalls with
  | .error error => .error error
  | .ok syscalls =>
      match compileGlobs globset paths with
      | .error error => .error error
      | .ok paths => .ok { syscalls, onlyFail, paths }

end Parse

end Loi
