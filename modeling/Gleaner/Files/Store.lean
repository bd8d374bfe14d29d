set_option autoImplicit false

/-! Files as the library sees them: behind a few operations on paths. -/
namespace Gleaner

/-- Why a path cannot be read. -/
inductive FileFault where
  | missing
  | denied
  | failed
  deriving DecidableEq

structure FileStore (m : Type → Type) where
  read : String → m (Except FileFault (List UInt8))
  isFile : String → m Bool
  isDirectory : String → m Bool
  /-- The names in a directory, in any order, if it can be listed. -/
  names? : String → m (Option (List String))

end Gleaner
