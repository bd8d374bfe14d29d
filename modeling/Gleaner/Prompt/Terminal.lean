import Gleaner.Console
import Gleaner.Prompt
import Gleaner.Prompt.Answer
import Gleaner.Text.Quoted
import Gleaner.Text.Utf8

set_option autoImplicit false

/-! Asking the operator at a terminal. -/
namespace Gleaner

namespace PromptRequest

/-- The groups of a candidate behind its whole match, if there are any. -/
def groupsText (c : Captures) : String :=
  match c.groups.drop 1 with
  | [] => ""
  | groups => "  [" ++ String.intercalate ", " (groups.map fun g => g.getD "") ++ "]"

/-- The line of a candidate. -/
def candidateLine (number : Nat) (c : Captures) : String :=
  "  " ++ toString number ++ ") " ++ c.whole ++ groupsText c ++ "\n"

def candidateLines : Nat → List Captures → List String
  | _, [] => []
  | number, c :: cs => candidateLine number c :: candidateLines (number + 1) cs

def headLine (r : PromptRequest) : String :=
  "[" ++ r.scraper ++ "] " ++ toString r.candidates.length ++ " matches for " ++
    Text.quoted r.pattern ++ " in " ++ r.source ++ ":\n"

/-- What may be typed; the answer follows on the same line. -/
def hint (r : PromptRequest) : String :=
  let wanted := if r.repeated then "numbers, comma separated" else "number"
  "choose (" ++ wanted ++ ", empty for default): "

/-- The text that an operator sees. -/
def text (r : PromptRequest) : String :=
  String.join (r.headLine :: candidateLines 1 r.candidates ++ [r.hint])

/-- The candidates that an answer chooses, none where it chooses nothing or is no answer. -/
def chosen (r : PromptRequest) (answer : List UInt8) : Option (List Captures) := do
  match ← Answer.read? r.candidates.length r.repeated (← Text.decode? answer) with
  | [] => none
  | indices => some (indices.filterMap fun i => r.candidates[i]?)

end PromptRequest

/-- Shows the candidates, and reads a line. -/
def Prompter.terminal {m : Type → Type} [Monad m] (console : Console m) : Prompter m where
  choose request := do
    console.note request.text
    pure (request.chosen (← console.readLine))

end Gleaner
