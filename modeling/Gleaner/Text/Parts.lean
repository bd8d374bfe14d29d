set_option autoImplicit false

/-! Taking texts apart. -/
namespace Gleaner.Text

/-- The stretches between the characters that separate. -/
def splitChars (separates : Char → Bool) : List Char → List (List Char)
  | [] => [[]]
  | c :: cs =>
      match separates c, splitChars separates cs with
      | true, parts => [] :: parts
      | false, [] => [[c]]
      | false, part :: parts => (c :: part) :: parts

theorem splitChars_ne_nil {separates : Char → Bool} (text : List Char) :
    splitChars separates text ≠ [] := by
  cases text with
  | nil => exact nofun
  | cons c cs =>
    unfold splitChars
    split <;> exact nofun

theorem splitChars_of_none {separates : Char → Bool} {text : List Char}
    (none : ∀ c ∈ text, separates c = false) : splitChars separates text = [text] := by
  induction text with
  | nil => rfl
  | cons c cs ih =>
    obtain ⟨here, rest⟩ := List.forall_mem_cons.1 none
    rw [splitChars, here, ih rest]

/-- What separates ends a stretch, whatever follows. -/
theorem splitChars_append {separates : Char → Bool} {c : Char} (here : separates c = true)
    (before after : List Char) :
    splitChars separates (before ++ c :: after) =
      splitChars separates before ++ splitChars separates after := by
  induction before with
  | nil =>
    rw [List.nil_append]
    simp only [splitChars, here, List.singleton_append]
  | cons b before ih =>
    rw [List.cons_append, splitChars, splitChars, ih]
    cases separates b with
    | true => rfl
    | false =>
      cases parts : splitChars separates before with
      | nil => exact absurd parts (splitChars_ne_nil before)
      | cons part parts => rfl

def split (separates : Char → Bool) (text : String) : List String :=
  (splitChars separates text.toList).map String.ofList

def startsWith (start text : String) : Bool :=
  start.toList.isPrefixOf text.toList

def endsWith (stop text : String) : Bool :=
  stop.toList.isSuffixOf text.toList

/-- A text without the start, if it has it. -/
def withoutStart (start text : String) : String :=
  if startsWith start text then String.ofList (text.toList.drop start.toList.length) else text

end Gleaner.Text
