import Gleaner.Definition
import Gleaner.Definition.Error
import Gleaner.Template

set_option autoImplicit false

/-!
Checking a definition before it is used: templates are not blank and refer to groups that the match
they are expanded with can have.
-/
namespace Gleaner

namespace Procedure

/-- A template refers to no group above the bound, if there is one. -/
def checkReferences (path : ProcedurePath) (part : TemplatePart) (bound : Option Nat)
    (template : String) : Except EngineError Unit :=
  match bound, Template.highestReference? template with
  | some bound, some highest =>
      if bound < highest then .error (.missingGroup path part highest bound) else .ok ()
  | _, _ => .ok ()

/-- A template is not blank, and its references are in bounds. -/
def checkTemplate (path : ProcedurePath) (part : TemplatePart) (bound : Option Nat)
    (template : String) : Except EngineError Unit :=
  if Text.isAllBlank template then .error (.emptyTemplate path part)
  else checkReferences path part bound template

/-- The last group of the matches of a search pattern, as far as it can be told before captured
text is put in. -/
def groupBound (searchFor : String) : Option Nat :=
  (Regex.compile? (Template.expand searchFor Captures.empty).text).map fun r => r.groupCount - 1

/-- The templates of the assignments, in order. -/
def checkAssignments (path : ProcedurePath) (bound : Option Nat) :
    List Assignment → Except EngineError Unit
  | [] => .ok ()
  | a :: rest => do
      match a.value with
      | .string template => checkReferences path (.assignment a.field) bound template
      | _ => .ok ()
      checkAssignments path bound rest

mutual

/-- Checks a procedure and all below it; `bound` is the last group of the parent's match. -/
def validate (path : ProcedurePath) (bound : Option Nat) : Procedure → Except EngineError Unit
  | .node source searchFor _ _ _ assignments children => do
      checkTemplate path .source bound source
      checkTemplate path .searchFor bound searchFor
      checkAssignments path (groupBound searchFor) assignments
      validateAll path (groupBound searchFor) 0 children

/-- Checks siblings, the first of them at the given index. -/
def validateAll (path : ProcedurePath) (bound : Option Nat) (index : Nat) :
    List Procedure → Except EngineError Unit
  | [] => .ok ()
  | p :: ps => do
      validate (path ++ [index]) bound p
      validateAll path bound (index + 1) ps

end

end Procedure

/-- Checks a definition, and returns its compiled file name pattern. -/
def Definition.validate (d : Definition) : Except EngineError Regex := do
  match Regex.compile? d.fileName with
  | none => .error (.invalidPattern d.fileName)
  | some fileName => do
      Procedure.validateAll [] (some (fileName.groupCount - 1)) 0 d.procedures
      .ok fileName

end Gleaner
