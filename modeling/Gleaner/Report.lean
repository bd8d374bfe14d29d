import Gleaner.Text.Quoted
import Gleaner.Value

set_option autoImplicit false

/-! How a scrape ended, and what went wrong on the way. -/
namespace Gleaner

/-- A problem that does not end a scrape. -/
inductive Warning where
  /-- A dollar sign without a meaning, left as it is. -/
  | malformedReference (template : String) (offset : Nat)
  | unreadable (reference reason : String)
  | invalidPattern (pattern : String)
  | noMatches (pattern reference : String)
  /-- A value that does not fit the type of the field it was to be written to. -/
  | rejected (field : String) (expected found : ValueKind)
  deriving DecidableEq

namespace Warning

/-- The procedure that gave the warning failed. -/
def isFailure : Warning → Bool
  | .unreadable _ _ => true
  | .invalidPattern _ => true
  | .noMatches _ _ => true
  | _ => false

/-- The text of a warning. Why a pattern does not compile is not told. -/
def message : Warning → String
  | .malformedReference template offset =>
      "malformed backreference at offset " ++ toString offset ++ " in " ++ Text.quoted template
  | .unreadable reference reason => "could not read " ++ reference ++ ": " ++ reason
  | .invalidPattern pattern => "invalid search pattern " ++ Text.quoted pattern ++ ": "
  | .noMatches pattern reference =>
      "no matches for " ++ Text.quoted pattern ++ " in " ++ reference
  | .rejected field expected found =>
      "cannot set " ++ field ++ ": expected " ++ expected.name ++ ", found " ++ found.name

end Warning

inductive Outcome where
  | complete
  | incomplete
  /-- The location is none of the scraper's. -/
  | mismatch
  deriving DecidableEq

def Outcome.name : Outcome → String
  | .complete => "complete"
  | .incomplete => "incomplete"
  | .mismatch => "no match"

structure Report where
  outcome : Outcome
  warnings : List Warning
  deriving DecidableEq

namespace Report

/-- The report of an item whose rules have run. -/
def ofRun (complete : Bool) (warnings : List Warning) : Report :=
  ⟨if complete then .complete else .incomplete, warnings⟩

def mismatch : Report := ⟨.mismatch, []⟩

def isComplete (r : Report) : Bool := r.outcome == .complete

def isMatch (r : Report) : Bool := r.outcome != .mismatch

end Report

end Gleaner
