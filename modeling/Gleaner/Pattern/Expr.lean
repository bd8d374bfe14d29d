import Gleaner.Pattern.Reader
import Gleaner.Unicode.Folding
import Gleaner.Unicode.Script

set_option autoImplicit false

/-!
Search patterns with their flags and properties resolved: sets of characters, places, groups and
repetitions.
-/
namespace Gleaner.Pattern

/-- Conditions on the characters on both sides of a position. -/
inductive Look where
  | textStart
  | textEnd
  | lineStart
  | lineEnd
  | crlfLineStart
  | crlfLineEnd
  | word (unicode : Bool) (place : Place)
  deriving DecidableEq

/-- A resolved pattern. Repetitions without upper bound have no `most`. -/
inductive Expr where
  | empty
  | set (s : CharSet)
  | look (l : Look)
  | repetition (least : Nat) (most : Option Nat) (greedy : Bool) (inner : Expr)
  | capture (index : Nat) (inner : Expr)
  | concat (items : List Expr)
  | alternation (branches : List Expr)

namespace Expr

mutual

/-- Matches the empty text only. -/
def onlyEmpty : Expr → Bool
  | .empty => true
  | .set _ => false
  | .look _ => true
  | .repetition _ _ _ inner => inner.onlyEmpty
  | .capture _ inner => inner.onlyEmpty
  | .concat items => allOnlyEmpty items
  | .alternation branches => allOnlyEmpty branches

def allOnlyEmpty : List Expr → Bool
  | [] => true
  | item :: items => item.onlyEmpty && allOnlyEmpty items

end

mutual

/-- May match the empty text. -/
def mayBeEmpty : Expr → Bool
  | .empty => true
  | .set _ => false
  | .look _ => true
  | .repetition least _ _ inner => least == 0 || inner.mayBeEmpty
  | .capture _ inner => inner.mayBeEmpty
  | .concat items => allMayBeEmpty items
  | .alternation branches => anyMayBeEmpty branches

def allMayBeEmpty : List Expr → Bool
  | [] => true
  | item :: items => item.mayBeEmpty && allMayBeEmpty items

def anyMayBeEmpty : List Expr → Bool
  | [] => false
  | item :: items => item.mayBeEmpty || anyMayBeEmpty items

end

/-- A repetition. What matches the empty text only is repeated once at most; no repetitions at all
is the empty pattern, so that groups inside do not count. -/
def ofRepetition (least : Nat) (most : Option Nat) (greedy : Bool) (inner : Expr) : Expr :=
  let least' := if inner.onlyEmpty then min least 1 else least
  let most' := if inner.onlyEmpty then some (min (most.getD 1) 1) else most
  if least' = 0 ∧ most' = some 0 then .empty
  else if least' = 1 ∧ most' = some 1 then inner
  else .repetition least' most' greedy inner

mutual

/-- The number of the last group that is kept. -/
def lastGroup : Expr → Nat
  | .repetition _ _ _ inner => inner.lastGroup
  | .capture index inner => max index inner.lastGroup
  | .concat items => lastGroupOfAll items
  | .alternation branches => lastGroupOfAll branches
  | _ => 0

def lastGroupOfAll : List Expr → Nat
  | [] => 0
  | item :: items => max item.lastGroup (lastGroupOfAll items)

end

end Expr

/-- The flags in force. -/
structure Flags where
  ignoreCase : Bool := false
  multiLine : Bool := false
  dotMatchesNewline : Bool := false
  swapGreed : Bool := false
  unicode : Bool := true
  carriageReturn : Bool := false
  deriving DecidableEq

/-- The flags after a list of changes. -/
def Flags.apply (flags : Flags) (items : List FlagItem) : Flags :=
  { ignoreCase := (flagState .ignoreCase items).getD flags.ignoreCase
    multiLine := (flagState .multiLine items).getD flags.multiLine
    dotMatchesNewline := (flagState .dotMatchesNewline items).getD flags.dotMatchesNewline
    swapGreed := (flagState .swapGreed items).getD flags.swapGreed
    unicode := (flagState .unicode items).getD flags.unicode
    carriageReturn := (flagState .carriageReturn items).getD flags.carriageReturn }

/-- The code points of bytes. -/
def byteSet : CharSet := CharSet.ofRanges [(0, 0xff)]

/-- Everything outside a set: of the bytes, where Unicode is switched off. -/
def complementIn (flags : Flags) (s : CharSet) : CharSet :=
  if flags.unicode then s.complement else byteSet.difference s

def foldAscii (s : CharSet) : CharSet :=
  let upper := s.intersection (CharSet.ofRanges [(0x41, 0x5a)])
  let lower := s.intersection (CharSet.ofRanges [(0x61, 0x7a)])
  let shifted := (upper.ranges.toList.map fun r => (r.1 + 32, r.2 + 32)) ++
    lower.ranges.toList.map fun r => (r.1 - 32, r.2 - 32)
  s.union (CharSet.ofRanges shifted)

/-- The set with the case variants of its characters, where case is ignored. -/
def foldIn (flags : Flags) (s : CharSet) : CharSet :=
  if flags.ignoreCase then if flags.unicode then Unicode.foldingClosure s else foldAscii s else s

/-- Case variants first, then the complement. -/
def foldAndNegate (flags : Flags) (negated : Bool) (s : CharSet) : CharSet :=
  if negated then complementIn flags (foldIn flags s) else foldIn flags s

def AsciiClass.set : AsciiClass → CharSet
  | .alnum => CharSet.ofRanges [(0x30, 0x39), (0x41, 0x5a), (0x61, 0x7a)]
  | .alpha => CharSet.ofRanges [(0x41, 0x5a), (0x61, 0x7a)]
  | .ascii => CharSet.ofRanges [(0, 0x7f)]
  | .blank => CharSet.ofRanges [(0x09, 0x09), (0x20, 0x20)]
  | .cntrl => CharSet.ofRanges [(0, 0x1f), (0x7f, 0x7f)]
  | .digit => CharSet.ofRanges [(0x30, 0x39)]
  | .graph => CharSet.ofRanges [(0x21, 0x7e)]
  | .lower => CharSet.ofRanges [(0x61, 0x7a)]
  | .print => CharSet.ofRanges [(0x20, 0x7e)]
  | .punct => CharSet.ofRanges [(0x21, 0x2f), (0x3a, 0x40), (0x5b, 0x60), (0x7b, 0x7e)]
  | .space => CharSet.ofRanges [(0x09, 0x0d), (0x20, 0x20)]
  | .upper => CharSet.ofRanges [(0x41, 0x5a)]
  | .word => CharSet.ofRanges [(0x30, 0x39), (0x41, 0x5a), (0x5f, 0x5f), (0x61, 0x7a)]
  | .xdigit => CharSet.ofRanges [(0x30, 0x39), (0x41, 0x46), (0x61, 0x66)]

def asciiWordSet : CharSet := AsciiClass.word.set

def digitSet : CharSet := Unicode.categorySet ["Nd"]

def unicodeWordSet : CharSet := Unicode.wordSet

def PerlClass.set (unicode : Bool) : PerlClass → CharSet
  | .digit => if unicode then digitSet else AsciiClass.digit.set
  | .space => if unicode then Unicode.whiteSpaceSet else AsciiClass.space.set
  | .word => if unicode then unicodeWordSet else asciiWordSet

/-- A set of characters stays a set of whole characters: where Unicode is switched off it may hold
ASCII characters only. -/
def wholeCharacters? (flags : Flags) (s : CharSet) : Option CharSet :=
  if flags.unicode || s.isAscii then some s else none

/-- Names are compared without case, blanks, hyphens and underscores, and without a leading
`is`. -/
def looseName (name : String) : String :=
  let cs := name.toList
  let (prefixed, cs) := match cs with
    | a :: b :: rest => if a.toLower = 'i' ∧ b.toLower = 's' then (true, rest) else (false, cs)
    | cs => (false, cs)
  let kept := (cs.filter fun c => c.toNat < 0x80 && c != ' ' && c != '_' && c != '-').map Char.toLower
  if prefixed && kept == ['c'] then "isc" else String.ofList kept

/-- The names that are those of a category although a property has them too. -/
def categoryFirst : List String := ["cf", "sc", "lc"]

/-- The set that a property name means. Properties of age and of segmentation, `Age`, `gcb`, `wb` and
`sb` with their values, are not known and so refused. -/
def PropertyName.set? : PropertyName → Option CharSet
  | .named name =>
      let name := looseName name
      let property := if categoryFirst.contains name then none else Unicode.propertyNamed? name
      match property with
      | some s => some s
      | none =>
          match Unicode.categoryNamed? name with
          | some s => some s
          | none => (Unicode.scriptCode? name).map Unicode.scriptSet
  | .valued name value =>
      let name := looseName name
      let value := looseName value
      if name = "gc" ∨ name = "generalcategory" then Unicode.categoryNamed? value
      else if name = "sc" ∨ name = "script" then (Unicode.scriptCode? value).map Unicode.scriptSet
      else if name = "scx" ∨ name = "scriptextensions" then
        (Unicode.scriptCode? value).map Unicode.scriptExtensionSet
      else none

def propertySet? (flags : Flags) (name : PropertyName) (negated : Bool) : Option CharSet :=
  if flags.unicode then name.set?.map (foldAndNegate flags negated) else none

def perlSet (flags : Flags) (kind : PerlClass) (negated : Bool) : CharSet :=
  if negated then complementIn flags (kind.set flags.unicode) else kind.set flags.unicode

/-- A character that may be written where it stands: past ASCII not as a byte. -/
def Literal.admitted (flags : Flags) (l : Literal) : Bool :=
  flags.unicode || !l.byte || l.char.toNat < 0x80

def SetOperator.apply : SetOperator → CharSet → CharSet → CharSet
  | .intersection => CharSet.intersection
  | .difference => CharSet.difference
  | .symmetricDifference => CharSet.symmetricDifference

mutual

/-- The set that the items between brackets describe. -/
def SetAst.set? (flags : Flags) : SetAst → Option CharSet
  | .empty => some CharSet.empty
  | .literal l =>
      if flags.unicode || l.char.toNat < 0x80 then some (CharSet.single l.char) else none
  | .range a b =>
      if flags.unicode || (a.char.toNat < 0x80 && b.char.toNat < 0x80) then
        some (CharSet.ofRanges [(a.char.toNat, b.char.toNat)])
      else none
  | .ascii kind negated => some (foldAndNegate flags negated kind.set)
  | .perl kind negated => wholeCharacters? flags (perlSet flags kind negated)
  | .property name negated => propertySet? flags name negated
  | .bracketed negated inner => (inner.set? flags).map (foldAndNegate flags negated)
  | .union items => SetAst.unionOf? flags items
  | .operator op left right => do
      let left ← left.set? flags
      let right ← right.set? flags
      some (op.apply (foldIn flags left) (foldIn flags right))

def SetAst.unionOf? (flags : Flags) : List SetAst → Option CharSet
  | [] => some CharSet.empty
  | item :: items => do
      let first ← item.set? flags
      let others ← SetAst.unionOf? flags items
      some (first.union others)

end

/-- A character, or the set of its case variants where case is ignored. -/
def literalExpr? (flags : Flags) (l : Literal) : Option Expr :=
  if !l.admitted flags then none
  else some (.set (foldIn flags (CharSet.single l.char)))

def newline : CharSet := CharSet.single '\n'

def newlineOrReturn : CharSet := CharSet.ofRanges [(0x0a, 0x0a), (0x0d, 0x0d)]

def dotExpr? (flags : Flags) : Option Expr :=
  if !flags.unicode then none
  else if flags.dotMatchesNewline then some (.set CharSet.full)
  else if flags.carriageReturn then some (.set newlineOrReturn.complement)
  else some (.set newline.complement)

def placeLook (flags : Flags) : Place → Look
  | .lineStart =>
      if !flags.multiLine then .textStart
      else if flags.carriageReturn then .crlfLineStart else .lineStart
  | .lineEnd =>
      if !flags.multiLine then .textEnd
      else if flags.carriageReturn then .crlfLineEnd else .lineEnd
  | .textStart => .textStart
  | .textEnd => .textEnd
  | place => .word flags.unicode place

mutual

/-- Resolves a written pattern; flags set inside it stay in force after it, up to the end of the
group. -/
def Ast.expr? (flags : Flags) : Ast → Option (Expr × Flags)
  | .empty => some (.empty, flags)
  | .flags items => some (.empty, flags.apply items)
  | .literal l => (literalExpr? flags l).map fun e => (e, flags)
  | .dot => (dotExpr? flags).map fun e => (e, flags)
  | .place p => some (.look (placeLook flags p), flags)
  | .perl kind negated =>
      (wholeCharacters? flags (perlSet flags kind negated)).map fun s => (.set s, flags)
  | .property name negated => (propertySet? flags name negated).map fun s => (.set s, flags)
  | .set negated inner => do
      let s ← inner.set? flags
      let s ← wholeCharacters? flags (foldAndNegate flags negated s)
      some (.set s, flags)
  | .repetition least most greedy inner => do
      let (e, flags) ← inner.expr? flags
      some (Expr.ofRepetition least most (greedy != flags.swapGreed) e, flags)
  | .group kind inner =>
      match kind with
      | .capturing index => do
          let (e, _) ← inner.expr? flags
          some (.capture index e, flags)
      | .plain items => do
          let (e, _) ← inner.expr? (flags.apply items)
          some (e, flags)
  | .concat items => (Ast.exprs? flags items).map fun (es, flags) => (.concat es, flags)
  | .alternation branches =>
      (Ast.exprs? flags branches).map fun (es, flags) => (.alternation es, flags)

def Ast.exprs? (flags : Flags) : List Ast → Option (List Expr × Flags)
  | [] => some ([], flags)
  | item :: items => do
      let (e, flags) ← item.expr? flags
      let (es, flags) ← Ast.exprs? flags items
      some (e :: es, flags)

end

/-- Reads and resolves a pattern. -/
def Expr.read? (text : String) : Option Expr := do
  let ast ← Ast.read? text
  let (e, _) ← ast.expr? {}
  some e

end Gleaner.Pattern
