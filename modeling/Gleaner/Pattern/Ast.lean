set_option autoImplicit false

/-! Search patterns as they are written, before flags and properties get their meaning. -/
namespace Gleaner.Pattern

/-- What a flag of a pattern changes. -/
inductive Flag where
  | ignoreCase
  | multiLine
  | dotMatchesNewline
  | swapGreed
  | unicode
  | carriageReturn
  | ignoreSpace
  deriving DecidableEq

/-- One part of a list of flags: a flag, or the mark that those after it are switched off. -/
inductive FlagItem where
  | negation
  | flag (f : Flag)
  deriving DecidableEq

/-- The classes that have a letter of their own. -/
inductive PerlClass where
  | digit
  | space
  | word
  deriving DecidableEq

/-- The named ASCII classes that may stand inside brackets. -/
inductive AsciiClass where
  | alnum
  | alpha
  | ascii
  | blank
  | cntrl
  | digit
  | graph
  | lower
  | print
  | punct
  | space
  | upper
  | word
  | xdigit
  deriving DecidableEq

def AsciiClass.ofName? : String → Option AsciiClass
  | "alnum" => some .alnum
  | "alpha" => some .alpha
  | "ascii" => some .ascii
  | "blank" => some .blank
  | "cntrl" => some .cntrl
  | "digit" => some .digit
  | "graph" => some .graph
  | "lower" => some .lower
  | "print" => some .print
  | "punct" => some .punct
  | "space" => some .space
  | "upper" => some .upper
  | "word" => some .word
  | "xdigit" => some .xdigit
  | _ => none

/-- A character as written; `byte` marks two hexadecimal digits, which name a byte where Unicode
is switched off. -/
structure Literal where
  char : Char
  byte : Bool
  deriving DecidableEq

/-- The name of a set of characters by property. -/
inductive PropertyName where
  | named (name : String)
  | valued (name value : String)
  deriving DecidableEq

inductive SetOperator where
  | intersection
  | difference
  | symmetricDifference
  deriving DecidableEq

/-- What stands between brackets. -/
inductive SetAst where
  | empty
  | literal (l : Literal)
  | range (first last : Literal)
  | ascii (kind : AsciiClass) (negated : Bool)
  | perl (kind : PerlClass) (negated : Bool)
  | property (name : PropertyName) (negated : Bool)
  | bracketed (negated : Bool) (inner : SetAst)
  | union (items : List SetAst)
  | operator (op : SetOperator) (left right : SetAst)

/-- Where a position must lie. -/
inductive Place where
  | lineStart
  | lineEnd
  | textStart
  | textEnd
  | wordBoundary
  | notWordBoundary
  | wordStart
  | wordEnd
  | wordStartHalf
  | wordEndHalf
  deriving DecidableEq

inductive GroupKind where
  | capturing (index : Nat)
  | plain (flags : List FlagItem)
  deriving DecidableEq

/-- A written pattern. -/
inductive Ast where
  | empty
  | flags (items : List FlagItem)
  | literal (l : Literal)
  | dot
  | place (p : Place)
  | perl (kind : PerlClass) (negated : Bool)
  | property (name : PropertyName) (negated : Bool)
  | set (negated : Bool) (inner : SetAst)
  | repetition (least : Nat) (most : Option Nat) (greedy : Bool) (inner : Ast)
  | group (kind : GroupKind) (inner : Ast)
  | concat (items : List Ast)
  | alternation (branches : List Ast)

namespace SetAst

/-- A single item stands for itself. -/
def ofItems : List SetAst → SetAst
  | [] => .empty
  | [item] => item
  | items => .union items

mutual

/-- How deep brackets, unions and operators nest. -/
def depth : SetAst → Nat
  | .bracketed _ inner => inner.depth + 1
  | .union items => depthAll items + 1
  | .operator _ left right => max left.depth right.depth + 1
  | _ => 0

def depthAll : List SetAst → Nat
  | [] => 0
  | item :: items => max item.depth (depthAll items)

end

end SetAst

namespace Ast

def ofConcat : List Ast → Ast
  | [] => .empty
  | [item] => item
  | items => .concat items

def ofBranches : List Ast → Ast
  | [] => .empty
  | [branch] => branch
  | branches => .alternation branches

mutual

/-- How deep the parts of a pattern nest. -/
def depth : Ast → Nat
  | .set _ inner => inner.depth + 1
  | .repetition _ _ _ inner => inner.depth + 1
  | .group _ inner => inner.depth + 1
  | .concat items => depthAll items + 1
  | .alternation branches => depthAll branches + 1
  | _ => 0

def depthAll : List Ast → Nat
  | [] => 0
  | item :: items => max item.depth (depthAll items)

end

end Ast

end Gleaner.Pattern
