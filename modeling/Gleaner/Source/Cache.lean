import Gleaner.Captures
import Gleaner.Source.Reader
import Gleaner.Dict

set_option autoImplicit false

/-!
What has been read for one item. A source that was read is not read again; a failed read leaves no
trace and is tried again. Compiled patterns are kept beside.
-/
namespace Gleaner

structure SourceCache where
  contents : Dict String := Dict.empty
  patterns : Dict Regex := Dict.empty

namespace SourceCache

def empty : SourceCache := {}

instance : Inhabited SourceCache := ⟨empty⟩

variable {m : Type → Type} [Monad m]

/-- The text behind a reference, read on first use. -/
def resolve (reader : Reader m) (cache : SourceCache) (reference : String) :
    m (Except SourceError String × SourceCache) :=
  match cache.contents.find? reference with
  | some text => pure (.ok text, cache)
  | none => do
      match ← reader.read reference with
      | .ok text => pure (.ok text, { cache with contents := cache.contents.insert reference text })
      | .error e => pure (.error e, cache)

/-- The compiled form of a pattern, compiled on first use. -/
def pattern (cache : SourceCache) (text : String) : Option Regex × SourceCache :=
  match cache.patterns.find? text with
  | some regex => (some regex, cache)
  | none =>
      match Regex.compile? text with
      | some regex => (some regex, { cache with patterns := cache.patterns.insert text regex })
      | none => (none, cache)

def isCached (cache : SourceCache) (reference : String) : Bool :=
  cache.contents.contains reference

/-- How many sources are held. -/
def size (cache : SourceCache) : Nat :=
  cache.contents.size

/-- Drops all that is held. -/
def clear (_ : SourceCache) : SourceCache := empty

end SourceCache

end Gleaner
