set_option autoImplicit false

/-! Why a source could not be read. -/
namespace Gleaner

inductive SourceErrorKind where
  | notFound
  | permissionDenied
  | failed
  | network
  | unsupported
  | decompression
  deriving DecidableEq

/-- The text of an error about what `detail` names. -/
def SourceErrorKind.message (kind : SourceErrorKind) (detail : String) : String :=
  match kind with
  | .notFound => "source not found: " ++ detail
  | .permissionDenied => "permission denied: " ++ detail
  | .failed => "I/O error: " ++ detail
  | .network => "network error: " ++ detail
  | .unsupported => "unsupported reference: " ++ detail
  | .decompression => "failed to decompress " ++ detail

/-- Trying again may help. -/
def SourceErrorKind.isRetryable : SourceErrorKind → Bool
  | .failed => true
  | .network => true
  | _ => false

/-- A source that could not be read: the reference, the system's own words for a failed read, or
the compression format that was to be undone. -/
structure SourceError where
  kind : SourceErrorKind
  detail : String
  deriving DecidableEq

def SourceError.message (e : SourceError) : String :=
  e.kind.message e.detail

end Gleaner
