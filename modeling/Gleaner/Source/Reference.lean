import Gleaner.Files.Path
import Gleaner.Text.Blank
import Gleaner.Text.Utf8

set_option autoImplicit false

/-! References to sources: addresses in the web, or local paths. -/
namespace Gleaner

/-- Where a source is. -/
inductive Reference where
  /-- A local path; the scheme of a local reference is not part of it. -/
  | local (path : String)
  | remote (address : String)
  deriving DecidableEq

namespace Reference

/-- The characters that fill exactly the given number of bytes, if there are such. -/
def takeBytes? : Nat → List Char → Option (List Char)
  | 0, _ => some []
  | _ + 1, [] => none
  | n + 1, c :: cs =>
      if c.utf8Size ≤ n + 1 then (takeBytes? (n + 1 - c.utf8Size) cs).map (c :: ·) else none

/-- The start of a reference that tells its scheme: eight bytes, or all of it where these do not end
with a character. -/
def head (reference : String) : String :=
  match takeBytes? 8 reference.toList with
  | some cs => String.ofList cs
  | none => reference

/-- Web addresses start with their scheme, in any case. -/
def isRemote (reference : String) : Bool :=
  let start := Text.lowerAscii (head reference)
  Text.startsWith "http://" start || Text.startsWith "https://" start

/-- The scheme that a local reference may start with. -/
def localScheme : String := "file://"

def ofText (reference : String) : Reference :=
  if isRemote reference then .remote reference
  else .local (Text.withoutStart localScheme reference)

/-- The path of a local source; a root, if there is one, stands before relative paths. -/
def path? (root : Option String) : Reference → Option String
  | .remote _ => none
  | .local path =>
      match root with
      | some root => some (if Path.isAbsolute path then path else Path.join root path)
      | none => some path

end Reference

end Gleaner
