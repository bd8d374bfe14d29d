import Gleaner.Procedure.Step
import Gleaner.Prompt
import Gleaner.Source.Cache

set_option autoImplicit false

/-!
Walking a tree of procedures. A procedure searches a source for its pattern; in each match that is
kept it is visited, and its children are walked with what the match captured.
-/
namespace Gleaner

variable {m : Type → Type} [Monad m]

/-- What a walk needs from outside: texts, compiled patterns, and perhaps an operator. -/
structure Access (m : Type → Type) where
  scraper : String
  resolve : String → m (Except SourceError String)
  compile : String → m (Option Regex)
  prompter : Option (Prompter m)

namespace Access

/-- Reads and compiles afresh each time. -/
def direct (scraper : String) (reader : Reader m) (prompter : Option (Prompter m)) : Access m where
  scraper
  resolve := reader.read
  compile text := pure (Regex.compile? text)
  prompter

/-- Reads and compiles through a cache. -/
def cached (scraper : String) (reader : Reader m) (prompter : Option (Prompter m)) :
    Access (StateT SourceCache m) where
  scraper
  resolve reference cache := cache.resolve reader reference
  compile text cache := pure (cache.pattern text)
  prompter := prompter.map fun p => ⟨fun request => StateT.lift (p.choose request)⟩

end Access

/-- What a walk did. -/
structure Walk where
  /-- No procedure failed. -/
  succeeded : Bool
  steps : List Step

namespace Walk

def empty : Walk := ⟨true, []⟩

/-- One walk after the other; it succeeds if both do. -/
def append (first second : Walk) : Walk :=
  ⟨first.succeeded && second.succeeded, first.steps ++ second.steps⟩

/-- Steps taken before a walk. -/
def after (steps : List Step) (walk : Walk) : Walk :=
  ⟨walk.succeeded, steps ++ walk.steps⟩

/-- The walk over a procedure that failed. -/
def failed (warning : Warning) : Walk := ⟨false, [.warned warning]⟩

end Walk

namespace Procedure

/-- All of the matches if the procedure repeats, else the first. -/
def keep (repeats : Bool) (candidates : List Captures) : List Captures :=
  if repeats then candidates else candidates.take 1

/-- Lets the operator choose; if he declines, the choice is the procedure's own. -/
def chooseAmong (access : Access m) (prompter : Prompter m) (repeats : Bool)
    (reference pattern : String) (candidates : List Captures) : m (List Captures) := do
  match candidates with
  | [] => pure []
  | _ =>
      let answer ← prompter.choose ⟨access.scraper, reference, pattern, candidates, repeats⟩
      pure (keep repeats (answer.getD candidates))

/-- The matches that a procedure keeps. -/
def select (access : Access m) (repeats askUser : Bool) (reference pattern : String)
    (regex : Regex) (text : String) : m (List Captures) :=
  match if askUser then access.prompter else none with
  | some prompter => chooseAmong access prompter repeats reference pattern (regex.all text)
  | none => pure (if repeats then regex.all text else (regex.first? text).toList)

/-- Visits a procedure in each of the matches in turn; `inner` is the walk below it. -/
def visitEach (procedure : Procedure) (inner : Captures → m Walk) : List Captures → m Walk
  | [] => pure Walk.empty
  | captures :: rest => do
      let below ← inner captures
      let others ← visitEach procedure inner rest
      pure ((Walk.after [.visited procedure captures] below).append others)

/-- The matches of a procedure, or why there are none, after the steps that finding them took. -/
def search (access : Access m) (captures : Captures) (procedure : Procedure) :
    m (List Step × Except Warning (List Captures)) := do
  let (reference, sourceWarnings) := expandTemplate procedure.source captures
  let sourceSteps := sourceWarnings.map Step.warned
  match ← access.resolve reference with
  | .error e => pure (sourceSteps, .error (.unreadable reference e.message))
  | .ok text => do
      let (pattern, patternWarnings) := expandTemplate procedure.searchFor captures
      let steps := sourceSteps ++ patternWarnings.map Step.warned
      match ← access.compile pattern with
      | none => pure (steps, .error (.invalidPattern pattern))
      | some regex => do
          match ← select access procedure.repeats procedure.askUser reference pattern regex text with
          | [] => pure (steps, .error (.noMatches pattern reference))
          | selected => pure (steps, .ok selected)

mutual

/-- Walks a procedure and all below it; `captures` is what its parent's match captured. -/
def walk (access : Access m) (captures : Captures) : Procedure → m Walk
  | .node source searchFor repeats askUser importing assignments children => do
      let procedure := .node source searchFor repeats askUser importing assignments children
      let (steps, found) ← search access captures procedure
      match found with
      | .error warning => pure (Walk.after steps (Walk.failed warning))
      | .ok selected => do
          let below ← visitEach procedure (fun c => walkAll access c children) selected
          pure (Walk.after steps below)

/-- Walks siblings in order. All are walked, whether others fail or not. -/
def walkAll (access : Access m) (captures : Captures) : List Procedure → m Walk
  | [] => pure Walk.empty
  | p :: ps => do
      let first ← walk access captures p
      let others ← walkAll access captures ps
      pure (first.append others)

end

end Procedure

end Gleaner
