import Gleaner.Procedure
import Gleaner.Record
import Gleaner.Report
import Gleaner.Template
import Gleaner.Value.Coercion

set_option autoImplicit false

/-! Writing the assignments of a procedure to a record. -/
namespace Gleaner

/-- Details that are copied from a parent record instead of being written. -/
structure Inheritance where
  /-- The keys to copy, with the parent's keys. -/
  keys : Dict String
  parent : Details

/-- How the assignments of one match are written. -/
structure WritePolicy where
  importing : Bool
  inheritance : Option Inheritance

/-- The warnings of an expanded template. -/
def malformedWarnings (template : String) (e : Expansion) : List Warning :=
  e.malformed.map (Warning.malformedReference template)

/-- Expands a template, and warns of each malformed dollar sign. -/
def expandTemplate (template : String) (captures : Captures) : String × List Warning :=
  let e := Template.expand template captures
  (e.text, malformedWarnings template e)

mutual

/-- Expands the strings of a value, also those in arrays at any depth; objects stay as they
are. -/
def expandValue (captures : Captures) : Value → Value × List Warning
  | .string template =>
      let e := expandTemplate template captures
      (.string e.1, e.2)
  | .array items =>
      let e := expandValues captures items
      (.array e.1, e.2)
  | value => (value, [])

def expandValues (captures : Captures) : List Value → List Value × List Warning
  | [] => ([], [])
  | item :: items =>
      let first := expandValue captures item
      let others := expandValues captures items
      (first.1 :: others.1, first.2 ++ others.2)

end

namespace Assignment

/-- The value that a detail takes over from the parent, when it is one that is inherited. -/
def inherited? (policy : WritePolicy) (field : Field) : Option (String × Value) :=
  match field, policy.inheritance with
  | .detail key, some inheritance =>
      (inheritance.keys.find? key).map fun parentKey =>
        (key, (inheritance.parent.find? parentKey).getD .null)
  | _, _ => none

def addImage (importing : Bool) (field : Field) (reference : String) (record : Record) : Record :=
  match field with
  | .fanart => record.addFanart ⟨reference, importing⟩
  | _ => record.addIcon ⟨reference, importing⟩

def rejection (field : Field) (r : Rejection) : Warning :=
  .rejected field.key r.expected r.found

/-- Writes one value to one field. -/
def write (importing : Bool) (field : Field) (value : Value) (record : Record) :
    Except Rejection Record :=
  match field with
  | .name => value.intoText.map fun text => { record with name := some text }
  | .description => value.intoText.map fun text => { record with description := some text }
  | .detail key =>
      (Value.coerce (record.detail? key) value).map fun value => record.setDetail key value
  | field => value.intoText.map fun text => addImage importing field text record

/-- Adds the strings of a list of images one by one; other items are rejected. -/
def writeImages (importing : Bool) (field : Field) :
    List Value → Record → Record × List Warning
  | [], record => (record, [])
  | item :: items, record =>
      match item.string? with
      | some reference => writeImages importing field items (addImage importing field reference record)
      | none =>
          let rest := writeImages importing field items record
          (rest.1, rejection field ⟨.string, item.kind, item⟩ :: rest.2)

/-- Writes an expanded value. A field that takes images takes an array as several of them. -/
def writeExpanded (importing : Bool) (field : Field) (value : Value) (record : Record) :
    Record × List Warning :=
  match field, value with
  | .icon, .array items => writeImages importing .icon items record
  | .fanart, .array items => writeImages importing .fanart items record
  | field, value =>
      match write importing field value record with
      | .ok record => (record, [])
      | .error r => (record, [rejection field r])

/-- Writes one assignment; a rejected value is reported and leaves the record as it is. -/
def apply (policy : WritePolicy) (captures : Captures) (a : Assignment) (record : Record) :
    Record × List Warning :=
  match inherited? policy a.field with
  | some (key, value) => (record.setDetail key value, [])
  | none =>
      let e := expandValue captures a.value
      let written := writeExpanded policy.importing a.field e.1 record
      (written.1, e.2 ++ written.2)

/-- Writes assignments one after the other. -/
def applyAll (policy : WritePolicy) (captures : Captures) :
    List Assignment → Record → Record × List Warning
  | [], record => (record, [])
  | a :: rest, record =>
      let first := apply policy captures a record
      let others := applyAll policy captures rest first.1
      (others.1, first.2 ++ others.2)

end Assignment

end Gleaner
