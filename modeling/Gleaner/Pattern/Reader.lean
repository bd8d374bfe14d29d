import Gleaner.Number.Power
import Gleaner.Pattern.Ast
import Gleaner.Text.Blank
import Gleaner.Text.Digits
import Gleaner.Unicode.Property

set_option autoImplicit false

/-!
Reading a written pattern. Reading fails on any text that is not a pattern; why it fails is not
kept.
-/
namespace Gleaner.Pattern

/-- Whether blanks and comments are skipped, and which groups have been opened. -/
structure Reading where
  ignoreSpace : Bool
  groups : Nat
  names : List String

/-- Drops a comment up to and with its line break. -/
def skipComment : List Char → List Char
  | [] => []
  | c :: cs => if c = '\n' then cs else skipComment cs

theorem skipComment_length (cs : List Char) : (skipComment cs).length ≤ cs.length := by
  induction cs with
  | nil => simp [skipComment]
  | cons c cs ih =>
    simp only [skipComment]
    split
    · simp
    · simp only [List.length_cons]; omega

/-- Drops blanks and comments, where they are ignored. -/
def skipIgnored (ignore : Bool) : List Char → List Char
  | [] => []
  | c :: cs =>
      if !ignore then c :: cs
      else if Text.isBlank c then skipIgnored ignore cs
      else if c = '#' then skipIgnored ignore (skipComment cs)
      else c :: cs
  termination_by cs => cs.length
  decreasing_by
    · simp
    · have := skipComment_length cs
      simp only [List.length_cons]; omega

def isMeta (c : Char) : Bool :=
  "\\.+*?()|[]\x7b\x7d^$#&-~".toList.contains c

/-- The characters that a backslash leaves as they are. -/
def isEscapable (c : Char) : Bool :=
  isMeta c ||
    (c.toNat < 0x80 && !(Text.isDigit c || c.isAlpha || c == '<' || c == '>'))

def isFirstNameChar (c : Char) : Bool :=
  c == '_' || Unicode.alphabeticSet.contains c

def numericSet : CharSet := Unicode.categorySet ["Nd", "Nl", "No"]

def isNameChar (c : Char) : Bool :=
  c == '_' || c == '.' || c == '[' || c == ']' || Unicode.alphabeticSet.contains c ||
    numericSet.contains c

/-- The name of a group up to the closing bracket, which is dropped. -/
def groupName? (cs : List Char) : Option (String × List Char) :=
  match cs.span (fun c => c != '>') with
  | (first :: others, '>' :: rest) =>
      if isFirstNameChar first && others.all isNameChar then
        some (String.ofList (first :: others), rest)
      else none
  | _ => none

def flagOf? : Char → Option Flag
  | 'i' => some .ignoreCase
  | 'm' => some .multiLine
  | 's' => some .dotMatchesNewline
  | 'U' => some .swapGreed
  | 'u' => some .unicode
  | 'R' => some .carriageReturn
  | 'x' => some .ignoreSpace
  | _ => none

/-- A list of flags, with the colon or bracket that ends it. No flag comes twice, and the mark that
switches flags off comes once at most and not last. -/
def flagItems? (seen : List FlagItem) : List Char → Option (List FlagItem × Char × List Char)
  | [] => none
  | c :: cs =>
      if c = ':' ∨ c = ')' then
        if seen.getLast? = some .negation then none else some (seen, c, cs)
      else
        let item := if c = '-' then some FlagItem.negation else (flagOf? c).map FlagItem.flag
        match item with
        | none => none
        | some item => if seen.contains item then none else flagItems? (seen ++ [item]) cs

/-- What a list of flags does to one flag, if anything. -/
def flagState (f : Flag) (items : List FlagItem) : Option Bool :=
  (items.foldl (fun (state : Bool × Option Bool) item =>
    match item with
    | .negation => (true, state.2)
    | .flag g => if g = f then (state.1, some (!state.1)) else state) (false, none)).2

/-- The character of a code point written in hexadecimal digits. -/
def hexChar? (digits : List Char) : Option Char := do
  let values ← digits.mapM Text.hexValue?
  Text.charOf? (Text.ofDigitValues 16 values)

/-- Exactly `n` hexadecimal digits. -/
def hexRun? (ignore : Bool) : Nat → List Char → Option (List Char × List Char)
  | 0, cs => some ([], cs)
  | n + 1, cs =>
      match cs with
      | [] => none
      | c :: rest => do
          let _ ← Text.hexValue? c
          let (ds, rest) ← hexRun? ignore n (skipIgnored ignore rest)
          some (c :: ds, rest)

/-- Hexadecimal digits up to a closing brace. -/
def hexBraced? (ignore : Bool) : Nat → List Char → Option (List Char × List Char)
  | 0, _ => none
  | fuel + 1, cs =>
      match skipIgnored ignore cs with
      | [] => none
      | '\x7d' :: rest => some ([], skipIgnored ignore rest)
      | c :: rest => do
          let _ ← Text.hexValue? c
          let (ds, rest) ← hexBraced? ignore fuel rest
          some (c :: ds, rest)

/-- A code point after `\x`, `\u` or `\U`, which take two, four or eight digits without braces. -/
def hexLiteral? (ignore : Bool) (kind : Char) (cs : List Char) : Option (Literal × List Char) :=
  match skipIgnored ignore cs with
  | [] => none
  | '\x7b' :: rest => do
      let (ds, rest) ← hexBraced? ignore (rest.length + 1) rest
      if ds.isEmpty then none
      else
        let c ← hexChar? ds
        some (⟨c, false⟩, rest)
  | cs => do
      let n := if kind = 'x' then 2 else if kind = 'u' then 4 else 8
      let (ds, rest) ← hexRun? ignore n cs
      let c ← hexChar? ds
      some (⟨c, kind = 'x'⟩, rest)

/-- Splits at the first place where `mark` stands. -/
def splitAtMark (mark : List Char) : List Char → Option (List Char × List Char)
  | [] => none
  | c :: cs =>
      if mark.isPrefixOf (c :: cs) then some ([], (c :: cs).drop mark.length)
      else (splitAtMark mark cs).map fun (a, b) => (c :: a, b)

def propertyOf (text : List Char) : PropertyName :=
  match splitAtMark ['!', '='] text with
  | some (a, b) => .valued (String.ofList a) (String.ofList b)
  | none =>
      match splitAtMark [':'] text with
      | some (a, b) => .valued (String.ofList a) (String.ofList b)
      | none =>
          match splitAtMark ['='] text with
          | some (a, b) => .valued (String.ofList a) (String.ofList b)
          | none => .named (String.ofList text)

/-- Characters up to a closing brace. -/
def braced? (ignore : Bool) : Nat → List Char → Option (List Char × List Char)
  | 0, _ => none
  | fuel + 1, cs =>
      match skipIgnored ignore cs with
      | [] => none
      | '\x7d' :: rest => some ([], rest)
      | c :: rest => (braced? ignore fuel rest).map fun (xs, rest) => (c :: xs, rest)

/-- A property after `\p` or `\P`. -/
def property? (ignore : Bool) (cs : List Char) : Option (PropertyName × List Char) :=
  match skipIgnored ignore cs with
  | [] => none
  | '\x7b' :: rest => (braced? ignore (rest.length + 1) rest).map fun (name, rest) =>
      (propertyOf name, rest)
  | '\\' :: _ => none
  | c :: rest => some (.named (String.singleton c), skipIgnored ignore rest)

/-- Letters and hyphens, blanks between them skipped. -/
def boundaryName (ignore : Bool) : Nat → List Char → List Char × List Char
  | 0, cs => ([], cs)
  | fuel + 1, cs =>
      match cs with
      | [] => ([], [])
      | c :: rest =>
          if c.isAlpha ∨ c = '-' then
            let (name, rest) := boundaryName ignore fuel (skipIgnored ignore rest)
            (c :: name, rest)
          else ([], cs)

/-- What may follow `\b`: one of four names in braces. Braces that hold no letter are left for a
repetition count. -/
def boundary? (ignore : Bool) (cs : List Char) : Option (Place × List Char) :=
  match cs with
  | '\x7b' :: rest =>
      match skipIgnored ignore rest with
      | [] => none
      | c :: more =>
          if c.isAlpha ∨ c = '-' then
            match boundaryName ignore (more.length + 1) (c :: more) with
            | (name, '\x7d' :: rest) =>
                match String.ofList name with
                | "start" => some (.wordStart, rest)
                | "end" => some (.wordEnd, rest)
                | "start-half" => some (.wordStartHalf, rest)
                | "end-half" => some (.wordEndHalf, rest)
                | _ => none
            | _ => none
          else some (.wordBoundary, cs)
  | _ => some (.wordBoundary, cs)

/-- What a backslash and the characters after it stand for. -/
def escape? (ignore : Bool) : List Char → Option (Ast × List Char)
  | [] => none
  | c :: cs =>
      if Text.isDigit c then none
      else if c = 'x' ∨ c = 'u' ∨ c = 'U' then
        (hexLiteral? ignore c cs).map fun (l, rest) => (.literal l, rest)
      else if c = 'p' ∨ c = 'P' then
        (property? ignore cs).map fun (name, rest) => (.property name (c = 'P'), rest)
      else if isEscapable c then some (.literal ⟨c, false⟩, cs)
      else match c with
        | 'd' => some (.perl .digit false, cs)
        | 'D' => some (.perl .digit true, cs)
        | 's' => some (.perl .space false, cs)
        | 'S' => some (.perl .space true, cs)
        | 'w' => some (.perl .word false, cs)
        | 'W' => some (.perl .word true, cs)
        | 'a' => some (.literal ⟨'\x07', false⟩, cs)
        | 'f' => some (.literal ⟨'\x0c', false⟩, cs)
        | 't' => some (.literal ⟨'\t', false⟩, cs)
        | 'n' => some (.literal ⟨'\n', false⟩, cs)
        | 'r' => some (.literal ⟨'\r', false⟩, cs)
        | 'v' => some (.literal ⟨'\x0b', false⟩, cs)
        | 'A' => some (.place .textStart, cs)
        | 'z' => some (.place .textEnd, cs)
        | 'b' => (boundary? ignore cs).map fun (p, rest) => (.place p, rest)
        | 'B' => some (.place .notWordBoundary, cs)
        | '<' => some (.place .wordStart, cs)
        | '>' => some (.place .wordEnd, cs)
        | _ => none

/-- A bound of a repetition, blanks around it skipped. -/
def count? (ignore : Bool) (cs : List Char) : Option (Nat × List Char) :=
  let rec digits : Nat → List Char → List Char × List Char
    | 0, cs => ([], cs)
    | fuel + 1, cs =>
        match cs with
        | [] => ([], [])
        | c :: rest =>
            if Text.isDigit c then
              let (ds, rest) := digits fuel (skipIgnored ignore rest)
              (c :: ds, rest)
            else ([], cs)
  let cs := cs.dropWhile Text.isBlank
  let (ds, rest) := digits (cs.length + 1) cs
  let n := Text.ofDigits ds
  if ds.isEmpty ∨ twoPow 32 ≤ n then none
  else some (n, skipIgnored ignore (rest.dropWhile Text.isBlank))

/-- The bounds of a repetition after its opening brace, and whether it is greedy. -/
def bounds? (ignore : Bool) (cs : List Char) :
    Option (Nat × Option Nat × Bool × List Char) := do
  let (least, rest) ← count? ignore (skipIgnored ignore cs)
  let (most, rest) ← match rest with
    | ',' :: rest =>
        match skipIgnored ignore rest with
        | [] => none
        | '\x7d' :: rest => some (none, '\x7d' :: rest)
        | rest => (count? ignore rest).map fun (n, rest) => (some n, rest)
    | rest => some (some least, rest)
  match rest with
  | '\x7d' :: rest =>
      if (most.map fun n => decide (n < least)).getD false then none
      else match skipIgnored ignore rest with
        | '?' :: rest => some (least, most, false, rest)
        | rest => some (least, most, true, rest)
  | _ => none

/-- A named class such as `[:alpha:]`, at its opening bracket. -/
def asciiClass? (cs : List Char) : Option (SetAst × List Char) :=
  match cs with
  | '[' :: ':' :: rest =>
      let (negated, rest) := match rest with
        | '^' :: rest => (true, rest)
        | rest => (false, rest)
      match rest.span (fun c => c != ':') with
      | (name, ':' :: ']' :: rest) =>
          (AsciiClass.ofName? (String.ofList name)).map fun kind => (.ascii kind negated, rest)
      | _ => none
  | _ => none

/-- One item between brackets, before it is known whether it starts a range. -/
def setItem? (ignore : Bool) : List Char → Option (SetAst × List Char)
  | [] => none
  | '\\' :: rest => do
      let (ast, rest) ← escape? ignore rest
      match ast with
      | .literal l => some (.literal l, rest)
      | .perl kind negated => some (.perl kind negated, rest)
      | .property name negated => some (.property name negated, rest)
      | _ => none
  | c :: rest => some (.literal ⟨c, false⟩, rest)

/-- The character after the next one, blanks between them passed over. A comment mark is passed
over too, but not the comment. -/
def peekIgnored (ignore : Bool) : List Char → Option Char
  | [] => none
  | _ :: rest =>
      if !ignore then rest.head?
      else
        match rest.dropWhile Text.isBlank with
        | '#' :: more =>
            match more.dropWhile Text.isBlank with
            | [] => rest.head?
            | c :: _ => some c
        | [] => rest.head?
        | c :: _ => some c

/-- An item between brackets, or a range of two characters. -/
def setRange? (ignore : Bool) (cs : List Char) : Option (SetAst × List Char) := do
  let (first, rest) ← setItem? ignore cs
  match skipIgnored ignore rest with
  | [] => none
  | c :: rest =>
      let ahead := peekIgnored ignore (c :: rest)
      if c ≠ '-' ∨ ahead = some ']' ∨ ahead = some '-' then some (first, c :: rest)
      else
        match skipIgnored ignore rest with
        | [] => none
        | cs => do
            let (last, rest) ← setItem? ignore cs
            match first, last with
            | .literal a, .literal b =>
                if b.char < a.char then none else some (.range a b, rest)
            | _, _ => none

/-- The hyphens at the start of a set, which stand for themselves. -/
def leadingHyphens (ignore : Bool) : Nat → List Char → List SetAst × List Char
  | 0, cs => ([], cs)
  | fuel + 1, cs =>
      match cs with
      | '-' :: rest =>
          let (items, rest) := leadingHyphens ignore fuel (skipIgnored ignore rest)
          (.literal ⟨'-', false⟩ :: items, rest)
      | cs => ([], cs)

/-- Applies the pending operator to what stands left and right of it. -/
def applyPending (pending : Option (SetOperator × SetAst)) (right : SetAst) : SetAst :=
  match pending with
  | none => right
  | some (op, left) => .operator op left right

mutual

/-- A set after its opening bracket, up to and with the closing one. -/
def set? (ignore : Bool) : Nat → List Char → Option (Bool × SetAst × List Char)
  | 0, _ => none
  | fuel + 1, cs =>
      let (negated, cs) := match skipIgnored ignore cs with
        | '^' :: rest => (true, skipIgnored ignore rest)
        | cs => (false, cs)
      let (hyphens, cs) := leadingHyphens ignore (cs.length + 1) cs
      match hyphens, cs with
      | [], ']' :: rest =>
          (setItems? ignore fuel none [.literal ⟨']', false⟩] rest).map fun (inner, rest) =>
            (negated, inner, rest)
      | hyphens, cs =>
          (setItems? ignore fuel none hyphens cs).map fun (inner, rest) => (negated, inner, rest)

/-- The items of a set, those before them given, up to and with the closing bracket. -/
def setItems? (ignore : Bool) :
    Nat → Option (SetOperator × SetAst) → List SetAst → List Char → Option (SetAst × List Char)
  | 0, _, _, _ => none
  | fuel + 1, pending, items, cs =>
      let operator (op : SetOperator) (rest : List Char) :=
        setItems? ignore fuel (some (op, applyPending pending (SetAst.ofItems items))) [] rest
      match skipIgnored ignore cs with
      | [] => none
      | ']' :: rest => some (applyPending pending (SetAst.ofItems items), rest)
      | '&' :: '&' :: rest => operator .intersection rest
      | '-' :: '-' :: rest => operator .difference rest
      | '~' :: '~' :: rest => operator .symmetricDifference rest
      | '[' :: rest =>
          match asciiClass? ('[' :: rest) with
          | some (item, rest) => setItems? ignore fuel pending (items ++ [item]) rest
          | none => do
              let (negated, inner, rest) ← set? ignore fuel rest
              setItems? ignore fuel pending (items ++ [.bracketed negated inner]) rest
      | cs => do
          let (item, rest) ← setRange? ignore cs
          setItems? ignore fuel pending (items ++ [item]) rest

end

/-- How a group opens: the flags that it sets, or the kind of group. -/
inductive Opening where
  | flags (items : List FlagItem)
  | group (kind : GroupKind)

/-- What follows an opening parenthesis. -/
def opening? (state : Reading) (cs : List Char) : Option (Opening × Reading × List Char) :=
  let named (rest : List Char) := do
    let (name, rest) ← groupName? rest
    if state.names.contains name then none
    else
      some (Opening.group (.capturing (state.groups + 1)),
        { state with groups := state.groups + 1, names := name :: state.names }, rest)
  match skipIgnored state.ignoreSpace cs with
  | '?' :: '=' :: _ => none
  | '?' :: '!' :: _ => none
  | '?' :: '<' :: '=' :: _ => none
  | '?' :: '<' :: '!' :: _ => none
  | '?' :: 'P' :: '<' :: rest => named rest
  | '?' :: '<' :: rest => named rest
  | '?' :: rest => do
      let (items, stop, rest) ← flagItems? [] rest
      if stop = ')' then
        if items.isEmpty then none else some (.flags items, state, rest)
      else some (.group (.plain items), state, rest)
  | rest =>
      some (.group (.capturing (state.groups + 1)), { state with groups := state.groups + 1 }, rest)

/-- Splits off the last item, if a repetition may apply to it. -/
def repeatable? (items : List Ast) : Option (List Ast × Ast) :=
  match items.getLast? with
  | none => none
  | some (.flags _) => none
  | some .empty => none
  | some last => some (items.dropLast, last)

/-- The branches of a group from where reading stands, up to the closing parenthesis or the end of
the text. -/
def branches? : Nat → Reading → List Ast → List Ast → List Char → Option (Ast × Reading × List Char)
  | 0, _, _, _, _ => none
  | fuel + 1, state, branches, items, cs =>
      let finish (rest : List Char) :=
        some (Ast.ofBranches (branches ++ [Ast.ofConcat items]), state, rest)
      let add (item : Ast) (rest : List Char) := branches? fuel state branches (items ++ [item]) rest
      let again (least : Nat) (most : Option Nat) (rest : List Char) := do
        let (before, last) ← repeatable? items
        let (greedy, rest) := match rest with
          | '?' :: rest => (false, rest)
          | rest => (true, rest)
        branches? fuel state branches (before ++ [.repetition least most greedy last]) rest
      match skipIgnored state.ignoreSpace cs with
      | [] => finish []
      | ')' :: rest => finish (')' :: rest)
      | '|' :: rest => branches? fuel state (branches ++ [Ast.ofConcat items]) [] rest
      | '(' :: rest => do
          match (← opening? state rest) with
          | (.flags flags, state, rest) =>
              let ignore := (flagState .ignoreSpace flags).getD state.ignoreSpace
              branches? fuel { state with ignoreSpace := ignore } branches (items ++ [.flags flags]) rest
          | (.group kind, inside, rest) =>
              let ignore := match kind with
                | .plain flags => (flagState .ignoreSpace flags).getD state.ignoreSpace
                | .capturing _ => state.ignoreSpace
              match (← branches? fuel { inside with ignoreSpace := ignore } [] [] rest) with
              | (inner, after, ')' :: rest) =>
                  branches? fuel { after with ignoreSpace := state.ignoreSpace } branches
                    (items ++ [.group kind inner]) rest
              | _ => none
      | '[' :: rest => do
          let (negated, inner, rest) ← set? state.ignoreSpace (rest.length + 1) rest
          add (.set negated inner) rest
      | '?' :: rest => again 0 (some 1) rest
      | '*' :: rest => again 0 none rest
      | '+' :: rest => again 1 none rest
      | '\x7b' :: rest => do
          let (before, last) ← repeatable? items
          let (least, most, greedy, rest) ← bounds? state.ignoreSpace rest
          branches? fuel state branches (before ++ [.repetition least most greedy last]) rest
      | '\\' :: rest => do
          let (item, rest) ← escape? state.ignoreSpace rest
          add item rest
      | '.' :: rest => add .dot rest
      | '^' :: rest => add (.place .lineStart) rest
      | '$' :: rest => add (.place .lineEnd) rest
      | c :: rest => add (.literal ⟨c, false⟩) rest

/-- How deep the parts of a pattern may nest. -/
def depthLimit : Nat := 250

def Ast.read? (text : String) : Option Ast := do
  let cs := text.toList
  let (ast, _, rest) ← branches? (cs.length + 1) ⟨false, 0, []⟩ [] [] cs
  if rest.isEmpty ∧ ast.depth ≤ depthLimit then some ast else none

end Gleaner.Pattern
