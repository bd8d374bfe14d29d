import Gleaner.Json.Number

set_option autoImplicit false

/-!
Reading JSON text. Lists and tables nest at most 127 deep; of two entries of a table with the same
key the later one counts.
-/
namespace Gleaner.Json

def isSpace (c : Char) : Bool :=
  c == ' ' || c == '\t' || c == '\n' || c == '\r'

def skipSpace (cs : List Char) : List Char :=
  cs.dropWhile isSpace

/-- The value of four hexadecimal digits, and what follows them. -/
def hexQuad? : List Char → Option (Nat × List Char)
  | a :: b :: c :: d :: rest => do
      let a ← Text.hexValue? a
      let b ← Text.hexValue? b
      let c ← Text.hexValue? c
      let d ← Text.hexValue? d
      some (Text.ofDigitValues 16 [a, b, c, d], rest)
  | _ => none

/-- The character that an escape stands for; characters past the first plane are two escapes. -/
def escape? : List Char → Option (Char × List Char)
  | '"' :: rest => some ('"', rest)
  | '\\' :: rest => some ('\\', rest)
  | '/' :: rest => some ('/', rest)
  | 'b' :: rest => some ('\x08', rest)
  | 'f' :: rest => some ('\x0c', rest)
  | 'n' :: rest => some ('\n', rest)
  | 'r' :: rest => some ('\r', rest)
  | 't' :: rest => some ('\t', rest)
  | 'u' :: rest => do
      let (high, rest) ← hexQuad? rest
      if 0xd800 ≤ high ∧ high < 0xdc00 then
        match rest with
        | '\\' :: 'u' :: rest => do
            let (low, rest) ← hexQuad? rest
            if 0xdc00 ≤ low ∧ low < 0xe000 then
              let c ← Text.charOf? (0x10000 + (high - 0xd800) * 0x400 + (low - 0xdc00))
              some (c, rest)
            else none
        | _ => none
      else do
        let c ← Text.charOf? high
        some (c, rest)
  | _ => none

/-- The text after an opening quote, up to and without the closing one. -/
def quoted? : Nat → List Char → Option (List Char × List Char)
  | 0, _ => none
  | _ + 1, [] => none
  | fuel + 1, c :: cs =>
      if c = '"' then some ([], cs)
      else if c = '\\' then do
        let (x, rest) ← escape? cs
        let (xs, rest) ← quoted? fuel rest
        some (x :: xs, rest)
      else if c.toNat < 0x20 then none
      else do
        let (xs, rest) ← quoted? fuel cs
        some (c :: xs, rest)

/-- A run of digits that must not be empty. -/
def digits? (cs : List Char) : Option (List Char × List Char) :=
  match cs.span Text.isDigit with
  | ([], _) => none
  | parts => some parts

def whole? : List Char → Option (List Char × List Char)
  | '0' :: rest =>
      if (rest.head?.map Text.isDigit).getD false then none else some (['0'], rest)
  | cs => digits? cs

def fraction? : List Char → Option (Option (List Char) × List Char)
  | '.' :: rest => (digits? rest).map fun (ds, rest) => (some ds, rest)
  | cs => some (none, cs)

def exponent? : List Char → Option (Option (Bool × List Char) × List Char)
  | c :: rest =>
      if c = 'e' ∨ c = 'E' then
        let (minus, rest) := match rest with
          | '-' :: r => (true, r)
          | '+' :: r => (false, r)
          | r => (false, r)
        (digits? rest).map fun (ds, rest) => (some (minus, ds), rest)
      else some (none, c :: rest)
  | [] => some (none, [])

/-- The longest number at the start of the text. -/
def number? (cs : List Char) : Option (Tree × List Char) := do
  let (negative, cs) := match cs with
    | '-' :: rest => (true, rest)
    | cs => (false, cs)
  let (whole, cs) ← whole? cs
  let (fraction, cs) ← fraction? cs
  let (exponent, cs) ← exponent? cs
  let value ← Numeral.value? ⟨negative, whole, fraction, exponent⟩
  some (value, cs)

/-- Drops a word from the start of the text. -/
def word? : List Char → List Char → Option (List Char)
  | [], cs => some cs
  | _ :: _, [] => none
  | w :: ws, c :: cs => if w = c then word? ws cs else none

/-- How deep lists and tables nest at most. -/
def nestingLimit : Nat := 127

mutual

/-- The value at the start of the text, inside which `depth` more levels may open. -/
def value? : Nat → Nat → List Char → Option (Tree × List Char)
  | 0, _, _ => none
  | fuel + 1, depth, cs =>
      match skipSpace cs with
      | '"' :: rest => (quoted? (rest.length + 1) rest).map fun (s, rest) => (.text (String.ofList s), rest)
      | '[' :: rest =>
          match depth with
          | 0 => none
          | depth + 1 =>
              match skipSpace rest with
              | ']' :: rest => some (.list [], rest)
              | rest => (items? fuel depth rest).map fun (xs, rest) => (.list xs, rest)
      | '\x7b' :: rest =>
          match depth with
          | 0 => none
          | depth + 1 =>
              match skipSpace rest with
              | '\x7d' :: rest => some (.table [], rest)
              | rest => (entries? fuel depth rest).map fun (es, rest) => (Tree.tableOf es, rest)
      | 't' :: rest => (word? "rue".toList rest).map fun rest => (.boolean true, rest)
      | 'f' :: rest => (word? "alse".toList rest).map fun rest => (.boolean false, rest)
      | 'n' :: rest => (word? "ull".toList rest).map fun rest => (.null, rest)
      | cs => number? cs

/-- One or more values, with commas between them, up to the closing bracket. -/
def items? : Nat → Nat → List Char → Option (List Tree × List Char)
  | 0, _, _ => none
  | fuel + 1, depth, cs => do
      let (x, rest) ← value? fuel depth cs
      match skipSpace rest with
      | ',' :: rest => do
          let (xs, rest) ← items? fuel depth rest
          some (x :: xs, rest)
      | ']' :: rest => some ([x], rest)
      | _ => none

/-- One or more entries, with commas between them, up to the closing brace. -/
def entries? : Nat → Nat → List Char → Option (List (String × Tree) × List Char)
  | 0, _, _ => none
  | fuel + 1, depth, cs =>
      match skipSpace cs with
      | '"' :: rest => do
          let (key, rest) ← quoted? (rest.length + 1) rest
          match skipSpace rest with
          | ':' :: rest => do
              let (x, rest) ← value? fuel depth rest
              match skipSpace rest with
              | ',' :: rest => do
                  let (es, rest) ← entries? fuel depth rest
                  some ((String.ofList key, x) :: es, rest)
              | '\x7d' :: rest => some ([(String.ofList key, x)], rest)
              | _ => none
          | _ => none
      | _ => none

end

/-- Reads a whole text as one value. -/
def read? (text : String) : Option Tree := do
  let cs := text.toList
  let (value, rest) ← value? (2 * cs.length + 2) nestingLimit cs
  if (skipSpace rest).isEmpty then some value else none

end Gleaner.Json
