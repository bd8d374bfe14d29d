import Gleaner.Text.Digits
import Gleaner.Yaml.Gap

set_option autoImplicit false

/-! Scalars in quotes. -/
namespace Gleaner.Yaml

/-- What follows a backslash: a character, or the count of digits of a code point. -/
inductive Escape where
  | char (c : Char)
  | codePoint (digits : Nat)

def Escape.ofChar? : Char → Option Escape
  | '0' => some (.char '\x00')
  | 'a' => some (.char '\x07')
  | 'b' => some (.char '\x08')
  | 't' => some (.char '\t')
  | '\t' => some (.char '\t')
  | 'n' => some (.char '\n')
  | 'v' => some (.char '\x0b')
  | 'f' => some (.char '\x0c')
  | 'r' => some (.char '\r')
  | 'e' => some (.char '\x1b')
  | ' ' => some (.char ' ')
  | '"' => some (.char '"')
  | '/' => some (.char '/')
  | '\\' => some (.char '\\')
  | 'N' => some (.char '\u0085')
  | '_' => some (.char '\u00a0')
  | 'L' => some (.char '\u2028')
  | 'P' => some (.char '\u2029')
  | 'x' => some (.codePoint 2)
  | 'u' => some (.codePoint 4)
  | 'U' => some (.codePoint 8)
  | _ => none

/-- The character that an escape stands for, its backslash behind. -/
def escape? : List Char → Option (Char × List Char)
  | [] => none
  | c :: cs => do
      match ← Escape.ofChar? c with
      | .char x => some (x, cs)
      | .codePoint n =>
          let digits := (cs.take n).filterMap Text.hexValue?
          if digits.length = n then
            (Text.charOf? (Text.ofDigitValues 16 digits)).map fun x => (x, cs.drop n)
          else none

/-- What ends a stretch of a scalar in quotes. -/
inductive QuotedStop where
  /-- A space, a quote, or the end of the text. -/
  | outside
  /-- A line end after a backslash, which joins the lines. -/
  | joined
  deriving DecidableEq

/-- The stretch up to a space, the closing quote, or a backslash before a line end, and what is left.
A quote inside single quotes is written twice. -/
def quotedStretch (quote : Char) : Nat → List Char → Option (List Char × List Char × QuotedStop)
  | 0, _ => none
  | _ + 1, [] => some ([], [], .outside)
  | fuel + 1, c :: cs =>
      let goOn (x : Char) (rest : List Char) : Option (List Char × List Char × QuotedStop) :=
        (quotedStretch quote fuel rest).map fun (found, rest) => (x :: found, rest)
      if isSpace c then some ([], c :: cs, .outside)
      else if c = quote then
        if quote = '\'' ∧ startsWith (· == quote) cs then goOn quote (cs.drop 1)
        else some ([], c :: cs, .outside)
      else if quote = '"' ∧ c = '\\' then
        if startsWith isBreak cs then some ([], c :: cs, .joined)
        else (escape? cs).bind fun (x, rest) => goOn x rest
      else goOn c cs

/-- The stretches of a scalar after its opening quote, and the closing one. -/
def quotedRest (quote : Char) : Nat → Scan (List Char)
  | 0 => failure
  | fuel + 1 => do
      if ← atMark then failure
      let limit ← Scan.fuel
      match ← (fun c => some (quotedStretch quote limit c.rest, c) :
          Scan (Option (List Char × List Char × QuotedStop))) with
      | none => failure
      | some (found, rest, stop) => do
          Scan.skip (limit - 1 - rest.length)
          if stop = .joined then
            Scan.skip 1
            let _ ← Scan.lineBreak
          if ← Scan.isNext (· == quote) then
            Scan.skip 1
            pure found
          else
            let gap ← Gap.read 0 (stop = .joined)
            (found ++ gap.text ++ ·) <$> quotedRest quote fuel

/-- A scalar in the given quotes. -/
def quotedScalar (quote : Char) : Scan String := do
  Scan.exactly quote
  String.ofList <$> quotedRest quote (← Scan.fuel)

end Gleaner.Yaml
