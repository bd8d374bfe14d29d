import Gleaner.Text.Digits
import Gleaner.Unicode.Property

set_option autoImplicit false

/-! Text in quotes, with everything escaped that would not show. -/
namespace Gleaner.Text

/-- Characters without a shape of their own: controls, separators other than the blank, code points
that are not assigned, and marks that extend the character before them. -/
def hiddenSet : CharSet :=
  ((Unicode.categorySet ["Cc", "Cf", "Cs", "Co", "Cn", "Zl", "Zp", "Zs"]).difference
    (CharSet.single ' ')).union Unicode.graphemeExtendSet

def quoteChar (c : Char) : List Char :=
  if c = '\x00' then ['\\', '0']
  else if c = '\t' then ['\\', 't']
  else if c = '\r' then ['\\', 'r']
  else if c = '\n' then ['\\', 'n']
  else if c = '"' then ['\\', '"']
  else if c = '\\' then ['\\', '\\']
  else if hiddenSet.contains c then
    ['\\', 'u', '\x7b'] ++ hexDigits 1 c.toNat ++ ['\x7d']
  else [c]

def quoted (s : String) : String :=
  String.ofList ('"' :: (s.toList.flatMap quoteChar ++ ['"']))

end Gleaner.Text
