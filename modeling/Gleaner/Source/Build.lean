import Gleaner.LoadError
import Gleaner.Settings
import Gleaner.Source.Local

set_option autoImplicit false

/-! The reader that the settings ask for. -/
namespace Gleaner.Reader

variable {m : Type → Type} [Monad m]

/-- Characters that a user agent may not hold: controls but the tab. -/
def isRefused (c : Char) : Bool :=
  (c.toNat < 0x20 && c != '\t') || c == '\x7f'

/-- Files under the root of the settings and, if the settings allow it, the web. -/
def ofSettings (store : FileStore m) (web : Reader m) (settings : Settings) :
    Except LoadError (Reader m) :=
  let near := files store settings.root
  if settings.web.enabled then
    if settings.web.userAgent.toList.any isRefused then .error .reader
    else .ok (dispatch near (some web))
  else .ok (dispatch near none)

/-- A web out of reach: every fetch fails. -/
def unreachable : Reader m where
  name := "http"
  read reference := pure (.error ⟨.network, reference⟩)

end Gleaner.Reader
