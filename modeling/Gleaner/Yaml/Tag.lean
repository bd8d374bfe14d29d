import Gleaner.Text.Digits
import Gleaner.Text.Utf8
import Gleaner.Yaml.Cursor

set_option autoImplicit false

/-!
Tags, which say what a node is. A tag is written as a handle and a suffix; directives give meaning
to handles. Octets may be escaped, so a tag is a string of bytes.
-/
namespace Gleaner.Yaml

/-- A tag as it is written. -/
structure TagText where
  handle : String
  suffix : List UInt8

/-- What a handle stands for. -/
structure TagHandle where
  handle : String
  start : List UInt8

def bytesOf (text : String) : List UInt8 := text.toUTF8.toList

def isTagChar (c : Char) : Bool :=
  isNameChar c || c == ';' || c == '/' || c == '?' || c == ':' || c == '@' || c == '&' || c == '=' ||
    c == '+' || c == '$' || c == '.' || c == '%' || c == '!' || c == '~' || c == '*' || c == '\'' ||
    c == '(' || c == ')'

/-- Characters of a tag between angle brackets. -/
def isVerbatimChar (c : Char) : Bool := isTagChar c || c == ',' || c == '[' || c == ']'

/-- An escaped octet. -/
def octet : Scan Nat := do
  Scan.exactly '%'
  match ← (fun c => some ((c.rest.take 2).filterMap Text.hexValue?, c) : Scan (List Nat)) with
  | [high, low] => Scan.skip 2; pure (16 * high + low)
  | _ => failure

/-- How many octets a character takes that starts with the given one. -/
def octetCount? (first : Nat) : Option Nat :=
  if first < 0x80 then some 1
  else if first / 0x20 = 0x06 then some 2
  else if first / 0x10 = 0x0e then some 3
  else if first / 0x08 = 0x1e then some 4
  else none

def trailingOctets : Nat → Scan (List Nat)
  | 0 => pure []
  | n + 1 => do
      let o ← octet
      if o / 0x40 = 2 then (o :: ·) <$> trailingOctets n else failure

/-- The octets of an escaped character. -/
def escapedChar : Scan (List UInt8) := do
  let first ← octet
  match octetCount? first with
  | some n => do
      let others ← trailingOctets (n - 1)
      pure ((first :: others).map UInt8.ofNat)
  | none => failure

/-- The bytes of a tag up to the first character that is none of a tag's. -/
def tagBytes (belongs : Char → Bool) : Nat → Scan (List UInt8)
  | 0 => pure []
  | fuel + 1 => do
      match ← Scan.next? with
      | some c =>
          if c = '%' then (· ++ ·) <$> escapedChar <*> tagBytes belongs fuel
          else if belongs c then
            Scan.skip 1
            (bytesOf c.toString ++ ·) <$> tagBytes belongs fuel
          else pure []
      | none => pure []

/-- The bytes of a tag, at least one. -/
def someTagBytes (belongs : Char → Bool) : Scan (List UInt8) := do
  match ← tagBytes belongs (← Scan.fuel) with
  | [] => failure
  | found => pure found

/-- An exclamation mark, perhaps with a name and another one behind. -/
def tagHandle : Scan (List Char) := do
  Scan.exactly '!'
  let name ← Scan.takeWhile isNameChar
  if ← Scan.isNext (· == '!') then
    Scan.skip 1
    pure ('!' :: name ++ ['!'])
  else pure ('!' :: name)

/-- The end of a tag: a space or the end, or a comma inside brackets. -/
def tagEnd (inFlow : Bool) : Scan Unit := do
  if !(inFlow && (← Scan.isNext (· == ','))) then
    if !(← Scan.test (endsOr isSpace)) then failure

/-- A tag: between angle brackets, with a handle, or of the local handle. A lone exclamation mark is
a tag without a handle. -/
def tag (inFlow : Bool) : Scan TagText := do
  let found ←
    if ← Scan.test (fun cs => ['!', '<'].isPrefixOf cs) then do
      Scan.skip 2
      let suffix ← someTagBytes isVerbatimChar
      Scan.exactly '>'
      pure (TagText.mk "" suffix)
    else do
      let handle ← tagHandle
      if handle.length ≠ 1 ∧ handle.getLast? = some '!' then
        pure (TagText.mk (String.ofList handle) (← someTagBytes isTagChar))
      else
        let rest ← tagBytes isTagChar (← Scan.fuel)
        let suffix := bytesOf (String.ofList (handle.drop 1)) ++ rest
        pure (if suffix.isEmpty then TagText.mk "" (bytesOf "!") else TagText.mk "!" suffix)
  tagEnd inFlow
  pure found

/-- The rest of a directive that gives meaning to a handle. -/
def tagDirective : Scan TagHandle := do
  Scan.skipWhile isBlank
  let handle ← tagHandle
  if handle.length ≠ 1 ∧ handle.getLast? ≠ some '!' then failure
  if !(← Scan.isNext isBlank) then failure
  Scan.skipWhile isBlank
  let start ← someTagBytes isVerbatimChar
  if !(← Scan.test (endsOr isSpace)) then failure
  pure ⟨String.ofList handle, start⟩

/-- The handles that need no directive. -/
def standardHandles : List TagHandle :=
  [⟨"!", bytesOf "!"⟩, ⟨"!!", bytesOf "tag:yaml.org,2002:"⟩]

/-- The whole tag, if its handle is known. -/
def TagText.resolve? (handles : List TagHandle) (t : TagText) : Option (List UInt8) :=
  if t.handle = "" then some t.suffix
  else (handles.find? fun h => h.handle == t.handle).map fun h => h.start ++ t.suffix

/-- A tag that only the document itself gives meaning to. -/
def isLocalTag (tag : List UInt8) : Bool :=
  tag.head? == some 0x21 && (Text.decode? tag).isSome

end Gleaner.Yaml
