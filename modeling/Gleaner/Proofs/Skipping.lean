import Gleaner.Proofs.Templates
import Gleaner.Proofs.Writing

set_option autoImplicit false

/-!
Values that are rejected are skipped, each on its own: what is left of an assignment, and all other
assignments, come to the same as without them, and each is told of once. Main statement:
`Assignment.rejected_skipped`.
-/
namespace Gleaner

/-- One change to one field of a record. -/
inductive Edit where
  | name (text : String)
  | description (text : String)
  | detail (key : String) (value : Value)
  | icon (image : Image)
  | fanart (image : Image)

def Edit.perform (record : Record) : Edit → Record
  | name text => { record with name := some text }
  | description text => { record with description := some text }
  | detail key value => record.setDetail key value
  | icon image => record.addIcon image
  | fanart image => record.addFanart image

/-- What becomes of a value: an edit, or why there is none. -/
abbrev Verdict := Except Rejection Edit

namespace Verdict

def edit? : Verdict → Option Edit
  | .ok edit => some edit
  | .error _ => none

def rejection? : Verdict → Option Rejection
  | .ok _ => none
  | .error r => some r

/-- Rejections come with no edits. -/
theorem filterMap_filter_isOk (verdicts : List Verdict) :
    (verdicts.filter Except.isOk).filterMap edit? = verdicts.filterMap edit? := by
  induction verdicts with
  | nil => rfl
  | cons verdict rest ih =>
    cases verdict with
    | error r => exact ih
    | ok edit => exact congrArg (edit :: ·) ih

end Verdict

theorem expandValues_fst (captures : Captures) (items : List Value) :
    (expandValues captures items).1 = items.map fun item => (expandValue captures item).1 := by
  induction items with
  | nil => rfl
  | cons item items ih => rw [expandValues, ih, List.map_cons]

namespace Assignment

/-- The edit that an image comes to; what is not fanart is an icon. -/
def imageEdit (importing : Bool) (field : Field) (reference : String) : Edit :=
  match field with
  | .fanart => .fanart ⟨reference, importing⟩
  | _ => .icon ⟨reference, importing⟩

/-- What becomes of a value that is assigned to a field as a whole. -/
def judge (importing : Bool) (record : Record) (field : Field) (value : Value) : Verdict :=
  match field with
  | .name => value.intoText.map .name
  | .description => value.intoText.map .description
  | .detail key => (Value.coerce (record.detail? key) value).map (.detail key)
  | field => value.intoText.map (imageEdit importing field)

/-- What becomes of an element in a list of images. -/
def judgeElement (importing : Bool) (field : Field) (item : Value) : Verdict :=
  match item.string? with
  | some reference => .ok (imageEdit importing field reference)
  | none => .error ⟨.string, item.kind, item⟩

/-- The elements of an array that is assigned to a field of images. -/
def elements? : Field → Value → Option (List Value)
  | .icon, .array items => some items
  | .fanart, .array items => some items
  | _, _ => none

/-- What becomes of an expanded value; a list of images is judged element by element. -/
def judgeExpanded (importing : Bool) (record : Record) (field : Field) (value : Value) :
    List Verdict :=
  match elements? field value with
  | some items => items.map (judgeElement importing field)
  | none => [judge importing record field value]

/-- What becomes of the values of an assignment. -/
def verdicts (policy : WritePolicy) (captures : Captures) (record : Record) (a : Assignment) :
    List Verdict :=
  match inherited? policy a.field with
  | some (key, value) => [.ok (.detail key value)]
  | none => judgeExpanded policy.importing record a.field (expandValue captures a.value).1

/-- The templates of an assignment that are expanded: none, where its field is inherited. -/
def expanded (policy : WritePolicy) (a : Assignment) : List String :=
  match inherited? policy a.field with
  | some _ => []
  | none => a.value.templates

/-- The assignment without the elements of a list of images that are rejected; nothing is left of
one whose value is rejected as a whole. -/
def accepted? (policy : WritePolicy) (captures : Captures) (record : Record) (a : Assignment) :
    Option Assignment :=
  match inherited? policy a.field with
  | some _ => some a
  | none =>
      match elements? a.field a.value with
      | some items =>
          let kept := items.filter fun item =>
            (judgeElement policy.importing a.field (expandValue captures item).1).isOk
          some { a with value := .array kept }
      | none =>
          if (judge policy.importing record a.field (expandValue captures a.value).1).isOk then
            some a
          else none

/-- The assignments without what is rejected when they are written one after the other. -/
def acceptedAll (policy : WritePolicy) (captures : Captures) :
    List Assignment → Record → List Assignment
  | [], _ => []
  | a :: rest, record =>
      (a.accepted? policy captures record).toList ++
        acceptedAll policy captures rest (a.apply policy captures record).1

/-- What there is to tell of an assignment: the templates that are expanded, and what becomes of its
values. -/
structure Handling where
  field : Field
  templates : List String
  verdicts : List Verdict

namespace Handling

/-- A warning for each malformed dollar sign of each template, and then one for each rejection. -/
def warnings (captures : Captures) (h : Handling) : List Warning :=
  (h.templates.flatMap fun template =>
      (Template.expand template captures).malformed.map fun offset =>
        .malformedReference template offset) ++
    (h.verdicts.filterMap Verdict.rejection?).map fun r =>
      .rejected h.field.key r.expected r.found

/-- An edit for each value that is not rejected. -/
def edits (h : Handling) : List Edit :=
  h.verdicts.filterMap Verdict.edit?

end Handling

/-- What there is to tell of assignments that are written one after the other. -/
def handlings (policy : WritePolicy) (captures : Captures) :
    List Assignment → Record → List Handling
  | [], _ => []
  | a :: rest, record =>
      ⟨a.field, a.expanded policy, a.verdicts policy captures record⟩ ::
        handlings policy captures rest (a.apply policy captures record).1

variable {policy : WritePolicy} {captures : Captures}

theorem writeImages_judged (importing : Bool) (field : Field) (items : List Value)
    (record : Record) :
    let judged := items.map (judgeElement importing field)
    writeImages importing field items record =
      ((judged.filterMap Verdict.edit?).foldl Edit.perform record,
        (judged.filterMap Verdict.rejection?).map (rejection field)) := by
  induction items generalizing record with
  | nil => rfl
  | cons item items ih =>
    simp only [writeImages, List.map_cons, judgeElement]
    cases item.string? with
    | some reference =>
      have performed : addImage importing field reference record =
          (imageEdit importing field reference).perform record := by
        cases field <;> rfl
      simp only [performed, ih]
      rfl
    | none =>
      simp only [ih]
      rfl

theorem write_judged (importing : Bool) (field : Field) (value : Value) (record : Record) :
    write importing field value record =
      (judge importing record field value).map (Edit.perform record) := by
  cases field with
  | detail key =>
    simp only [write, judge]
    cases Value.coerce (record.detail? key) value <;> rfl
  | _ =>
    simp only [write, judge]
    cases value.intoText <;> rfl

theorem writeExpanded_of_elements {field : Field} {value : Value} {items : List Value}
    (listed : elements? field value = some items) (importing : Bool) (record : Record) :
    writeExpanded importing field value record = writeImages importing field items record := by
  unfold elements? at listed
  split at listed
  · cases listed
    rfl
  · cases listed
    rfl
  · cases listed

theorem writeExpanded_of_single {field : Field} {value : Value}
    (single : elements? field value = none) (importing : Bool) (record : Record) :
    writeExpanded importing field value record =
      match write importing field value record with
      | .ok record => (record, [])
      | .error r => (record, [rejection field r]) := by
  unfold writeExpanded
  split
  · cases single
  · cases single
  · rfl

theorem writeExpanded_judged (importing : Bool) (field : Field) (value : Value)
    (record : Record) :
    let judged := judgeExpanded importing record field value
    writeExpanded importing field value record =
      ((judged.filterMap Verdict.edit?).foldl Edit.perform record,
        (judged.filterMap Verdict.rejection?).map (rejection field)) := by
  unfold judgeExpanded
  cases listed : elements? field value with
  | some items =>
    rw [writeExpanded_of_elements listed]
    exact writeImages_judged importing field items record
  | none =>
    rw [writeExpanded_of_single listed, write_judged]
    cases judge importing record field value <;> rfl

/-- Writing an assignment performs the edits of its values, and warns of nothing but malformed
dollar signs and rejections. -/
theorem apply_judged (policy : WritePolicy) (captures : Captures) (record : Record)
    (a : Assignment) :
    let handling : Handling := ⟨a.field, a.expanded policy, a.verdicts policy captures record⟩
    a.apply policy captures record =
      (handling.edits.foldl Edit.perform record, handling.warnings captures) := by
  unfold apply expanded verdicts Handling.edits Handling.warnings
  cases inherited? policy a.field with
  | some copied => rfl
  | none =>
    simp only [writeExpanded_judged, (expandValue_templates captures a.value).2]
    rfl

theorem applyAll_judged (policy : WritePolicy) (captures : Captures)
    (assignments : List Assignment) (record : Record) :
    applyAll policy captures assignments record =
      (((handlings policy captures assignments record).flatMap Handling.edits).foldl Edit.perform
          record,
        (handlings policy captures assignments record).flatMap (Handling.warnings captures)) := by
  induction assignments generalizing record with
  | nil => rfl
  | cons a rest ih =>
    have first := apply_judged policy captures record a
    simp only [applyAll, handlings, List.flatMap_cons, List.foldl_append, ih]
    rw [first]

theorem elements?_expandValue (captures : Captures) (field : Field) (value : Value) :
    elements? field (expandValue captures value).1 =
      (elements? field value).map fun items =>
        items.map fun item => (expandValue captures item).1 := by
  cases value with
  | array items => cases field <;> simp [expandValue, elements?, expandValues_fst]
  | _ => cases field <;> rfl

theorem elements?_eq_some {field : Field} {value : Value} {items : List Value}
    (listed : elements? field value = some items) :
    value = .array items ∧ ∀ others, elements? field (.array others) = some others := by
  unfold elements? at listed
  split at listed
  · exact ⟨congrArg _ (Option.some.inj listed), fun _ => rfl⟩
  · exact ⟨congrArg _ (Option.some.inj listed), fun _ => rfl⟩
  · cases listed

section Accepted

variable (captures) (record : Record) {a : Assignment}

theorem verdicts_of_elements (own : inherited? policy a.field = none) {items : List Value}
    (listed : elements? a.field a.value = some items) :
    a.verdicts policy captures record = items.map fun item =>
      judgeElement policy.importing a.field (expandValue captures item).1 := by
  simp only [verdicts, own, judgeExpanded, elements?_expandValue, listed, Option.map_some,
    List.map_map]
  rfl

theorem verdicts_of_single (own : inherited? policy a.field = none)
    (single : elements? a.field a.value = none) :
    a.verdicts policy captures record =
      [judge policy.importing record a.field (expandValue captures a.value).1] := by
  simp only [verdicts, own, judgeExpanded, elements?_expandValue, single, Option.map_none]

/-- What is left of an assignment are its values that are not rejected. -/
theorem accepted?_verdicts (policy : WritePolicy) (a : Assignment) :
    (a.accepted? policy captures record).toList.flatMap (verdicts policy captures record) =
      (a.verdicts policy captures record).filter Except.isOk := by
  unfold accepted?
  cases inherits : inherited? policy a.field with
  | some copied =>
    simp only [Option.toList_some, List.flatMap_singleton, verdicts, inherits]
    rfl
  | none =>
    cases listed : elements? a.field a.value with
    | some items =>
      obtain ⟨-, others⟩ := elements?_eq_some listed
      rw [verdicts_of_elements captures record inherits listed, List.filter_map]
      simp only [Option.toList_some, List.flatMap_singleton]
      exact verdicts_of_elements (a := ⟨a.field, .array _⟩) captures record inherits (others _)
    | none =>
      have whole := verdicts_of_single captures record inherits listed
      rw [whole]
      cases judged : judge policy.importing record a.field (expandValue captures a.value).1 with
      | error r => rfl
      | ok edit =>
        rw [judged] at whole
        exact (List.flatMap_singleton _ _).trans whole

end Accepted

theorem apply_fst (policy : WritePolicy) (captures : Captures) (record : Record)
    (a : Assignment) :
    (a.apply policy captures record).1 =
      ((a.verdicts policy captures record).filterMap Verdict.edit?).foldl Edit.perform record :=
  congrArg Prod.fst (apply_judged policy captures record a)

/-- What is left of assignments is all written, to the record that all of them come to. -/
theorem acceptedAll_written (policy : WritePolicy) (captures : Captures)
    (assignments : List Assignment) (record : Record) :
    let left := acceptedAll policy captures assignments record
    (applyAll policy captures left record).1 = (applyAll policy captures assignments record).1 ∧
      (handlings policy captures left record).flatMap Handling.verdicts =
        ((handlings policy captures assignments record).flatMap Handling.verdicts).filter
          Except.isOk := by
  induction assignments generalizing record with
  | nil => exact ⟨rfl, rfl⟩
  | cons a rest ih =>
    have verdicts := accepted?_verdicts captures record policy a
    obtain ⟨records, others⟩ := ih (a.apply policy captures record).1
    simp only [acceptedAll, handlings, applyAll, List.flatMap_cons, List.filter_append]
    cases left : a.accepted? policy captures record with
    | none =>
      rw [left] at verdicts
      -- All is rejected, so that nothing was written.
      have same : (a.apply policy captures record).1 = record := by
        rw [apply_fst, ← Verdict.filterMap_filter_isOk, ← verdicts]
        rfl
      rw [same] at records others
      rw [← verdicts, same]
      exact ⟨records, others⟩
    | some b =>
      rw [left] at verdicts
      have kept : b.verdicts policy captures record =
          (a.verdicts policy captures record).filter Except.isOk :=
        (List.flatMap_singleton _ _).symm.trans verdicts
      have same : (b.apply policy captures record).1 = (a.apply policy captures record).1 := by
        rw [apply_fst, apply_fst, kept, Verdict.filterMap_filter_isOk]
      simp only [Option.toList_some, List.singleton_append, applyAll, handlings, same, kept,
        List.flatMap_cons, others, records, and_self]

/-- What becomes of assignments that are written one after the other. -/
structure Skipping (policy : WritePolicy) (captures : Captures) (assignments : List Assignment)
    (record : Record) : Prop where
  /-- The record is as if what is rejected had not been there, -/
  record_eq : (applyAll policy captures assignments record).1 =
    (applyAll policy captures (acceptedAll policy captures assignments record) record).1
  /-- and without it nothing is rejected. -/
  accepted : (handlings policy captures (acceptedAll policy captures assignments record)
      record).flatMap Handling.verdicts =
    ((handlings policy captures assignments record).flatMap Handling.verdicts).filter Except.isOk
  /-- What is not rejected is written once, in order. -/
  written : (applyAll policy captures assignments record).1 =
    ((handlings policy captures assignments record).flatMap Handling.edits).foldl Edit.perform
      record
  /-- It is warned of each malformed dollar sign and each rejection, and of nothing else. -/
  warnings : (applyAll policy captures assignments record).2 =
    (handlings policy captures assignments record).flatMap (Handling.warnings captures)

/-- Assignments come to the record that they come to without the values that are rejected. It is
warned of each rejection once, with its field, and of each malformed dollar sign in what is
expanded; and each value that is not rejected is written once. -/
theorem rejected_skipped (policy : WritePolicy) (captures : Captures)
    (assignments : List Assignment) (record : Record) :
    Skipping policy captures assignments record where
  record_eq := (acceptedAll_written policy captures assignments record).1.symm
  accepted := (acceptedAll_written policy captures assignments record).2
  written := congrArg Prod.fst (applyAll_judged policy captures assignments record)
  warnings := congrArg Prod.snd (applyAll_judged policy captures assignments record)

end Assignment

end Gleaner
