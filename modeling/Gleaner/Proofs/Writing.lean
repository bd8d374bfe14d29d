import Gleaner.Procedure.Step
import Gleaner.Proofs.Dict

set_option autoImplicit false

/-!
What writing makes of a record. Every field is written on its own: what it becomes depends on the
values assigned to it, in their order, and on what it was.
-/
namespace Gleaner

/-- The text of a value that is accepted where a text is wanted. -/
def Value.text? (value : Value) : Option String :=
  match value.intoText with
  | .ok text => some text
  | .error _ => none

/-- The references that are accepted of a value where images are wanted; an array is taken element
by element, and then only its strings are. -/
def Value.references : Value → List String
  | .array items => items.filterMap string?
  | value => value.text?.toList

theorem Value.references_of_ne_array {value : Value} (single : ∀ items, value ≠ .array items) :
    value.references = value.text?.toList := by
  cases value with
  | array items => exact absurd rfl (single items)
  | _ => rfl

def Value.images (importing : Bool) (value : Value) : List Image :=
  value.references.map fun reference => ⟨reference, importing⟩

/-- What a detail becomes when a value is written to it. -/
def Value.accrue (existing : Option Value) (incoming : Value) : Option Value :=
  match coerce existing incoming with
  | .ok value => some value
  | .error _ => existing

/-- Puts images at the end of those of a field; what is not fanart is an icon. -/
def Record.addImages (field : Field) (images : List Image) (record : Record) : Record :=
  match field with
  | .fanart => { record with fanart := record.fanart ++ images }
  | _ => { record with icons := record.icons ++ images }

/-- The record after an expanded value was written to one of its fields. -/
def Record.receive (importing : Bool) (field : Field) (value : Value) (record : Record) : Record :=
  match field with
  | .name => { record with name := value.text?.or record.name }
  | .description => { record with description := value.text?.or record.description }
  | .detail key =>
      match Value.coerce (record.detail? key) value with
      | .ok value => record.setDetail key value
      | .error _ => record
  | .icon => record.addImages .icon (value.images importing)
  | .fanart => record.addImages .fanart (value.images importing)

theorem Record.receive_location (importing : Bool) (field : Field) (value : Value)
    (record : Record) : (record.receive importing field value).location = record.location := by
  unfold receive
  split
  · rfl
  · rfl
  · split <;> rfl
  · rfl
  · rfl

namespace Assignment

theorem writeImages_fst (importing : Bool) (field : Field) (items : List Value)
    (record : Record) :
    (writeImages importing field items record).1 =
      (items.filterMap Value.string?).foldl
        (fun record reference => addImage importing field reference record) record := by
  induction items generalizing record with
  | nil => rfl
  | cons item items ih =>
    simp only [writeImages, List.filterMap_cons]
    cases item.string? with
    | some reference => exact ih _
    | none => exact ih record

theorem foldl_addImage (importing : Bool) (field : Field) (references : List String)
    (record : Record) :
    references.foldl (fun record reference => addImage importing field reference record) record =
      record.addImages field (references.map fun reference => ⟨reference, importing⟩) := by
  induction references generalizing record with
  | nil => cases field <;> simp only [List.foldl_nil, List.map_nil, Record.addImages,
      List.append_nil]
  | cons reference rest ih =>
    rw [List.foldl_cons, ih, List.map_cons]
    cases field <;> simp only [addImage, Record.addImages, Record.addIcon, Record.addFanart,
      List.append_assoc, List.singleton_append]

/-- An image that is written alone is put at the end if its reference is accepted. -/
theorem writeImage_fst (importing : Bool) (field : Field) (value : Value) (record : Record)
    (single : ∀ items, value ≠ .array items) :
    (match value.intoText.map fun text => addImage importing field text record with
      | .ok record => (record, [])
      | .error r => (record, [rejection field r])).1 =
      record.addImages field (value.images importing) := by
  have text : value.images importing =
      value.text?.toList.map fun reference => ⟨reference, importing⟩ := by
    rw [Value.images, Value.references_of_ne_array single]
  rw [text, ← foldl_addImage, Value.text?]
  cases value.intoText <;> rfl

/-- Writing a value changes no field but the one it is written to. -/
theorem writeExpanded_fst (importing : Bool) (field : Field) (value : Value) (record : Record) :
    (writeExpanded importing field value record).1 = record.receive importing field value := by
  unfold writeExpanded
  split
  · next items =>
    rw [writeImages_fst, foldl_addImage]
    rfl
  · next items =>
    rw [writeImages_fst, foldl_addImage]
    rfl
  · next notIcons notFanart =>
    cases field with
    | name =>
      simp only [write, Record.receive, Value.text?]
      cases value.intoText <;> rfl
    | description =>
      simp only [write, Record.receive, Value.text?]
      cases value.intoText <;> rfl
    | detail key =>
      simp only [write, Record.receive]
      cases Value.coerce (record.detail? key) value <;> rfl
    | icon => exact writeImage_fst importing .icon value record (notIcons · rfl)
    | fanart => exact writeImage_fst importing .fanart value record (notFanart · rfl)

theorem inherited?_eq_some {policy : WritePolicy} {field : Field} {key : String} {value : Value}
    (inherits : inherited? policy field = some (key, value)) : field = .detail key := by
  unfold inherited? at inherits
  split at inherits
  · obtain ⟨parentKey, -, same⟩ := Option.map_eq_some_iff.1 inherits
    cases same
    rfl
  · cases inherits

theorem apply_location (policy : WritePolicy) (captures : Captures) (a : Assignment)
    (record : Record) : (a.apply policy captures record).1.location = record.location := by
  unfold apply
  split
  · rfl
  · rw [writeExpanded_fst, Record.receive_location]

theorem applyAll_location (policy : WritePolicy) (captures : Captures)
    (assignments : List Assignment) (record : Record) :
    (applyAll policy captures assignments record).1.location = record.location := by
  induction assignments generalizing record with
  | nil => rfl
  | cons a rest ih => exact (ih _).trans (apply_location policy captures a record)

end Assignment

/-- No step changes where a record is from. -/
theorem Step.writeAll_location (policy : WritePolicy) (steps : List Step) (record : Record) :
    (writeAll policy steps record).1.location = record.location := by
  induction steps generalizing record with
  | nil => rfl
  | cons step rest ih =>
    refine (ih _).trans ?_
    cases step with
    | warned warning => rfl
    | visited procedure captures => exact Assignment.applyAll_location _ _ _ _

/-- A procedure, and what was captured by the match it was visited with. -/
structure Visit where
  procedure : Procedure
  captures : Captures

/-- The values that a visit assigns to a field, in order. -/
def Visit.values (visit : Visit) (field : Field) : List Value :=
  (visit.procedure.assignments.filter fun a => a.field = field).map fun a =>
    (expandValue visit.captures a.value).1

def Step.visit? : Step → Option Visit
  | .warned _ => none
  | .visited procedure captures => some ⟨procedure, captures⟩

/-- A part of a record that one field alone is written to. -/
structure FieldView (α : Type) where
  field : Field
  view : Record → α
  /-- What a value makes of the part. -/
  effect : Bool → Value → α → α
  receive : ∀ importing value record,
    view (record.receive importing field value) = effect importing value (view record)
  apart : ∀ importing other value record, other ≠ field →
    view (record.receive importing other value) = view record
  inherit : ∀ key value record, .detail key ≠ field →
    view (record.setDetail key value) = view record

namespace FieldView

variable {α : Type} (v : FieldView α)

/-- What values make of the part, one after the other. -/
def effects (importing : Bool) (start : α) (values : List Value) : α :=
  values.foldl (fun part value => v.effect importing value part) start

variable {policy : WritePolicy}

theorem view_apply (own : Assignment.inherited? policy v.field = none) (captures : Captures)
    (a : Assignment) (record : Record) :
    v.view (a.apply policy captures record).1 =
      if a.field = v.field then
        v.effect policy.importing (expandValue captures a.value).1 (v.view record)
      else v.view record := by
  unfold Assignment.apply
  split
  · next key value inherits =>
    have other : .detail key ≠ v.field := by
      intro same
      rw [Assignment.inherited?_eq_some inherits, same, own] at inherits
      cases inherits
    rw [Assignment.inherited?_eq_some inherits, if_neg other]
    exact v.inherit key value record other
  · rw [Assignment.writeExpanded_fst]
    split
    · next same => rw [same, v.receive]
    · next other => exact v.apart _ _ _ _ other

theorem view_applyAll (own : Assignment.inherited? policy v.field = none) (visit : Visit)
    (record : Record) :
    v.view (Assignment.applyAll policy visit.captures visit.procedure.assignments record).1 =
      v.effects policy.importing (v.view record) (visit.values v.field) := by
  unfold Visit.values effects
  induction visit.procedure.assignments generalizing record with
  | nil => rfl
  | cons a rest ih =>
    simp only [Assignment.applyAll, List.filter_cons, decide_eq_true_eq]
    rw [ih, v.view_apply own]
    split <;> rfl

/-- The part after steps: what the values make of it that the visits assign to its field. -/
theorem view_writeAll (own : Assignment.inherited? policy v.field = none) (steps : List Step)
    (record : Record) :
    v.view (Step.writeAll policy steps record).1 =
      (steps.filterMap Step.visit?).foldl
        (fun part visit => v.effects (policy.importing || visit.procedure.importing) part
          (visit.values v.field)) (v.view record) := by
  induction steps generalizing record with
  | nil => rfl
  | cons step rest ih =>
    simp only [Step.writeAll]
    rw [ih]
    cases step with
    | warned warning => rfl
    | visited procedure captures =>
      have here : Assignment.inherited? (Step.policyOf policy procedure) v.field = none := own
      simp only [Step.write, Step.visit?, List.filterMap_cons, List.foldl_cons]
      rw [v.view_applyAll here ⟨procedure, captures⟩]
      rfl

def name : FieldView (Option String) where
  field := .name
  view := Record.name
  effect _ value text := value.text?.or text
  receive _ _ _ := rfl
  apart importing other value record different := by
    cases other with
    | name => exact absurd rfl different
    | detail key => simp only [Record.receive]; split <;> rfl
    | _ => rfl
  inherit _ _ _ _ := rfl

def description : FieldView (Option String) where
  field := .description
  view := Record.description
  effect _ value text := value.text?.or text
  receive _ _ _ := rfl
  apart importing other value record different := by
    cases other with
    | description => exact absurd rfl different
    | detail key => simp only [Record.receive]; split <;> rfl
    | _ => rfl
  inherit _ _ _ _ := rfl

def icons : FieldView (List Image) where
  field := .icon
  view := Record.icons
  effect importing value images := images ++ value.images importing
  receive _ _ _ := rfl
  apart importing other value record different := by
    cases other with
    | icon => exact absurd rfl different
    | detail key => simp only [Record.receive]; split <;> rfl
    | _ => rfl
  inherit _ _ _ _ := rfl

def fanart : FieldView (List Image) where
  field := .fanart
  view := Record.fanart
  effect importing value images := images ++ value.images importing
  receive _ _ _ := rfl
  apart importing other value record different := by
    cases other with
    | fanart => exact absurd rfl different
    | detail key => simp only [Record.receive]; split <;> rfl
    | _ => rfl
  inherit _ _ _ _ := rfl

def detail (key : String) : FieldView (Option Value) where
  field := .detail key
  view record := record.detail? key
  effect _ value existing := Value.accrue existing value
  receive importing value record := by
    simp only [Record.receive, Value.accrue]
    split
    · exact Dict.find?_insert_self _ _ _
    · rfl
  apart importing other value record different := by
    cases other with
    | detail other =>
      simp only [Record.receive]
      split
      · exact Dict.find?_insert_of_ne _ _ fun same => different (congrArg _ same)
      · rfl
    | _ => rfl
  inherit other value record different :=
    Dict.find?_insert_of_ne _ _ fun same => different (congrArg _ same)

end FieldView

end Gleaner
