import Gleaner.Proofs.Writing

set_option autoImplicit false

/-!
Records that agree on some of their fields. Writing to those fields keeps the agreement and warns
of the same; writing to others does not show. Main statements: `writeAll_agree`, `writeAll_apart`.
-/
namespace Gleaner

/-- Records agree on the fields that are shown; of an image counts what `look` leaves of it. -/
structure Record.AgreeOn (look : Image → Image) (shown : Field → Prop) (r r' : Record) : Prop where
  name : shown .name → r.name = r'.name
  description : shown .description → r.description = r'.description
  details : ∀ key, shown (.detail key) → r.detail? key = r'.detail? key
  icons : shown .icon → r.icons.map look = r'.icons.map look
  fanart : shown .fanart → r.fanart.map look = r'.fanart.map look

/-- Policies write alike, as far as `look` tells. -/
structure WritePolicy.Alike (look : Image → Image) (policy policy' : WritePolicy) : Prop where
  inheritance : policy.inheritance = policy'.inheritance
  images : ∀ reference, look ⟨reference, policy.importing⟩ = look ⟨reference, policy'.importing⟩

/-- The record with each of its images changed. -/
def Record.mapImages (change : Image → Image) (r : Record) : Record :=
  { r with icons := r.icons.map change, fanart := r.fanart.map change }

variable {look : Image → Image} {shown : Field → Prop} {r r' r'' : Record}

namespace Record.AgreeOn

theorem refl (look : Image → Image) (shown : Field → Prop) (r : Record) :
    AgreeOn look shown r r :=
  ⟨fun _ => rfl, fun _ => rfl, fun _ _ => rfl, fun _ => rfl, fun _ => rfl⟩

theorem symm (agree : AgreeOn look shown r r') : AgreeOn look shown r' r where
  name inside := (agree.name inside).symm
  description inside := (agree.description inside).symm
  details key inside := (agree.details key inside).symm
  icons inside := (agree.icons inside).symm
  fanart inside := (agree.fanart inside).symm

theorem trans (one : AgreeOn look shown r r') (other : AgreeOn look shown r' r'') :
    AgreeOn look shown r r'' where
  name inside := (one.name inside).trans (other.name inside)
  description inside := (one.description inside).trans (other.description inside)
  details key inside := (one.details key inside).trans (other.details key inside)
  icons inside := (one.icons inside).trans (other.icons inside)
  fanart inside := (one.fanart inside).trans (other.fanart inside)

/-- Records of one location that agree on all fields are the same, as far as `look` tells. -/
theorem mapImages_eq (agree : AgreeOn look (fun _ => True) r r')
    (location : r.location = r'.location) : r.mapImages look = r'.mapImages look := by
  have details : r.details = r'.details := Dict.ext_find? fun key => agree.details key trivial
  simp only [mapImages, location, agree.name trivial, agree.description trivial, details,
    agree.icons trivial, agree.fanart trivial]

theorem eq_of_all (agree : AgreeOn id (fun _ => True) r r') (location : r.location = r'.location) :
    r = r' := by
  simpa only [mapImages, List.map_id] using agree.mapImages_eq location

theorem setDetail (agree : AgreeOn look shown r r') (key : String) (value : Value) :
    AgreeOn look shown (r.setDetail key value) (r'.setDetail key value) where
  name := agree.name
  description := agree.description
  details other inside := by
    simp only [detail?, Record.setDetail, Dict.find?_insert]
    split
    · rfl
    · exact agree.details other inside
  icons := agree.icons
  fanart := agree.fanart

end Record.AgreeOn

theorem Value.map_images {importing importing' : Bool} (value : Value)
    (images : ∀ reference, look ⟨reference, importing⟩ = look ⟨reference, importing'⟩) :
    (value.images importing).map look = (value.images importing').map look := by
  simp only [Value.images, List.map_map]
  exact List.map_congr_left fun reference _ => images reference

/-- A value that is written to a field does not show elsewhere. -/
theorem Record.receive_apart {field : Field} (apart : ¬ shown field) (importing : Bool)
    (value : Value) (r : Record) : AgreeOn look shown (r.receive importing field value) r := by
  have other : ∀ {f}, shown f → field ≠ f := fun inside same => apart (same ▸ inside)
  exact {
    name := fun inside => FieldView.name.apart _ _ _ _ (other inside)
    description := fun inside => FieldView.description.apart _ _ _ _ (other inside)
    details := fun key inside => (FieldView.detail key).apart _ _ _ _ (other inside)
    icons := fun inside => congrArg _ (FieldView.icons.apart _ _ _ _ (other inside))
    fanart := fun inside => congrArg _ (FieldView.fanart.apart _ _ _ _ (other inside)) }

theorem Record.setDetail_apart {key : String} (apart : ¬ shown (.detail key)) (value : Value)
    (r : Record) : AgreeOn look shown (r.setDetail key value) r where
  name _ := rfl
  description _ := rfl
  details _ inside := Dict.find?_insert_of_ne _ _ fun same => apart (same ▸ inside)
  icons _ := rfl
  fanart _ := rfl

/-- Records that agree on a field still do after the same was written to it. -/
theorem Record.AgreeOn.receive {importing importing' : Bool} {field : Field}
    (agree : AgreeOn look shown r r') (inside : shown field)
    (images : ∀ reference, look ⟨reference, importing⟩ = look ⟨reference, importing'⟩)
    (value : Value) :
    AgreeOn look shown (r.receive importing field value) (r'.receive importing' field value) := by
  cases field with
  | name => exact { agree with name := fun _ => congrArg value.text?.or (agree.name inside) }
  | description =>
    exact { agree with
      description := fun _ => congrArg value.text?.or (agree.description inside) }
  | detail key =>
    simp only [Record.receive, agree.details key inside]
    split
    · exact agree.setDetail key _
    · exact agree
  | icon =>
    have icons : ((r.icons ++ value.images importing).map look) =
        (r'.icons ++ value.images importing').map look := by
      rw [List.map_append, List.map_append, agree.icons inside, value.map_images images]
    exact { agree with icons := fun _ => icons }
  | fanart =>
    have fanart : ((r.fanart ++ value.images importing).map look) =
        (r'.fanart ++ value.images importing').map look := by
      rw [List.map_append, List.map_append, agree.fanart inside, value.map_images images]
    exact { agree with fanart := fun _ => fanart }

namespace Assignment

theorem writeImages_snd (importing importing' : Bool) (field : Field) (items : List Value)
    (r r' : Record) :
    (writeImages importing field items r).2 = (writeImages importing' field items r').2 := by
  induction items generalizing r r' with
  | nil => rfl
  | cons item items ih =>
    simp only [writeImages]
    cases item.string? with
    | some reference => exact ih _ _
    | none => exact congrArg (rejection field _ :: ·) (ih _ _)

/-- What is warned of depends on the field that is written to alone. -/
theorem writeExpanded_snd {field : Field} (agree : r.AgreeOn look shown r') (inside : shown field)
    (importing importing' : Bool) (value : Value) :
    (writeExpanded importing field value r).2 = (writeExpanded importing' field value r').2 := by
  unfold writeExpanded
  split
  · exact writeImages_snd _ _ _ _ _ _
  · exact writeImages_snd _ _ _ _ _ _
  · cases field with
    | detail key =>
      simp only [write, agree.details key inside]
      cases Value.coerce (r'.detail? key) value <;> rfl
    | _ =>
      simp only [write]
      cases value.intoText <;> rfl

variable {policy policy' : WritePolicy}

/-- Policies that inherit alike at a field write alike to it. -/
theorem apply_agree_of_inherits {a : Assignment}
    (inherits : inherited? policy a.field = inherited? policy' a.field)
    (images : ∀ reference, look ⟨reference, policy.importing⟩ = look ⟨reference, policy'.importing⟩)
    (captures : Captures) (inside : shown a.field) (agree : r.AgreeOn look shown r') :
    (a.apply policy captures r).1.AgreeOn look shown (a.apply policy' captures r').1 ∧
      (a.apply policy captures r).2 = (a.apply policy' captures r').2 := by
  unfold apply
  rw [inherits]
  split
  · exact ⟨agree.setDetail _ _, rfl⟩
  · simp only [writeExpanded_fst]
    exact ⟨agree.receive inside images _, congrArg _ (writeExpanded_snd agree inside _ _ _)⟩

theorem apply_agree (alike : policy.Alike look policy') (captures : Captures) {a : Assignment}
    (inside : shown a.field) (agree : r.AgreeOn look shown r') :
    (a.apply policy captures r).1.AgreeOn look shown (a.apply policy' captures r').1 ∧
      (a.apply policy captures r).2 = (a.apply policy' captures r').2 := by
  have inherits : inherited? policy a.field = inherited? policy' a.field := by
    simp only [inherited?, alike.inheritance]
  exact apply_agree_of_inherits inherits alike.images captures inside agree

theorem apply_apart (policy : WritePolicy) (captures : Captures) {a : Assignment}
    (apart : ¬ shown a.field) (r : Record) :
    (a.apply policy captures r).1.AgreeOn look shown r := by
  unfold apply
  split
  · next key value inherits =>
    rw [inherited?_eq_some inherits] at apart
    exact r.setDetail_apart apart value
  · rw [writeExpanded_fst]
    exact r.receive_apart apart _ _

theorem applyAll_agree (alike : policy.Alike look policy') (captures : Captures)
    {assignments : List Assignment} (inside : ∀ a ∈ assignments, shown a.field)
    (agree : r.AgreeOn look shown r') :
    (applyAll policy captures assignments r).1.AgreeOn look shown
        (applyAll policy' captures assignments r').1 ∧
      (applyAll policy captures assignments r).2 =
        (applyAll policy' captures assignments r').2 := by
  induction assignments generalizing r r' with
  | nil => exact ⟨agree, rfl⟩
  | cons a rest ih =>
    obtain ⟨here, inside⟩ := List.forall_mem_cons.1 inside
    obtain ⟨first, warned⟩ := apply_agree alike captures here agree
    obtain ⟨others, warnedAfter⟩ := ih inside first
    refine ⟨others, ?_⟩
    simp only [applyAll, warned, warnedAfter]

theorem applyAll_apart (policy : WritePolicy) (captures : Captures)
    {assignments : List Assignment} (apart : ∀ a ∈ assignments, ¬ shown a.field) (r : Record) :
    (applyAll policy captures assignments r).1.AgreeOn look shown r := by
  induction assignments generalizing r with
  | nil => exact .refl _ _ _
  | cons a rest ih =>
    obtain ⟨here, apart⟩ := List.forall_mem_cons.1 apart
    exact (ih apart _).trans (apply_apart policy captures here r)

end Assignment

namespace Step

variable {policy policy' : WritePolicy}

/-- The fields that a step writes to. -/
def fields : Step → List Field
  | .warned _ => []
  | .visited procedure _ => procedure.assignments.map Assignment.field

theorem policyOf_alike (alike : policy.Alike look policy') (procedure : Procedure) :
    (policyOf policy procedure).Alike look (policyOf policy' procedure) where
  inheritance := alike.inheritance
  images reference := by
    cases importing : procedure.importing with
    | true => simp only [policyOf, importing, Bool.or_true]
    | false => simpa only [policyOf, importing, Bool.or_false] using alike.images reference

theorem write_agree (alike : policy.Alike look policy') {step : Step}
    (inside : ∀ field ∈ step.fields, shown field) (agree : r.AgreeOn look shown r') :
    (write policy r step).1.AgreeOn look shown (write policy' r' step).1 ∧
      (write policy r step).2 = (write policy' r' step).2 := by
  cases step with
  | warned warning => exact ⟨agree, rfl⟩
  | visited procedure captures =>
    exact Assignment.applyAll_agree (policyOf_alike alike procedure) captures
      (List.forall_mem_map.1 inside) agree

theorem write_apart (policy : WritePolicy) {step : Step}
    (apart : ∀ field ∈ step.fields, ¬ shown field) (r : Record) :
    (write policy r step).1.AgreeOn look shown r := by
  cases step with
  | warned warning => exact .refl _ _ _
  | visited procedure captures =>
    have outside : ∀ a ∈ procedure.assignments, ¬ shown a.field :=
      fun a mem => apart a.field (List.mem_map_of_mem mem)
    exact Assignment.applyAll_apart _ captures outside r

/-- Steps that write to shown fields alone keep an agreement on these, and warn of the same. -/
theorem writeAll_agree (alike : policy.Alike look policy') {steps : List Step}
    (inside : ∀ step ∈ steps, ∀ field ∈ step.fields, shown field)
    (agree : r.AgreeOn look shown r') :
    (writeAll policy steps r).1.AgreeOn look shown (writeAll policy' steps r').1 ∧
      (writeAll policy steps r).2 = (writeAll policy' steps r').2 := by
  induction steps generalizing r r' with
  | nil => exact ⟨agree, rfl⟩
  | cons step rest ih =>
    obtain ⟨here, inside⟩ := List.forall_mem_cons.1 inside
    obtain ⟨first, warned⟩ := write_agree alike here agree
    obtain ⟨others, warnedAfter⟩ := ih inside first
    refine ⟨others, ?_⟩
    simp only [writeAll, warned, warnedAfter]

/-- Steps that write to other fields do not show. -/
theorem writeAll_apart (policy : WritePolicy) {steps : List Step}
    (apart : ∀ step ∈ steps, ∀ field ∈ step.fields, ¬ shown field) (r : Record) :
    (writeAll policy steps r).1.AgreeOn look shown r := by
  induction steps generalizing r with
  | nil => exact .refl _ _ _
  | cons step rest ih =>
    obtain ⟨here, apart⟩ := List.forall_mem_cons.1 apart
    exact (ih apart _).trans (write_apart policy here r)

/-- Writing does not look at the location. -/
theorem writeAll_elsewhere (policy : WritePolicy) (steps : List Step) (r : Record)
    (location : String) :
    writeAll policy steps { r with location } =
      ({ (writeAll policy steps r).1 with location }, (writeAll policy steps r).2) := by
  obtain ⟨agree, warned⟩ := writeAll_agree (⟨rfl, fun _ => rfl⟩ : policy.Alike id policy)
    (fun step (_ : step ∈ steps) _ _ => trivial)
    (⟨fun _ => rfl, fun _ => rfl, fun _ _ => rfl, fun _ => rfl, fun _ => rfl⟩ :
      Record.AgreeOn id (fun _ => True) { r with location } r)
  have elsewhere : (writeAll policy steps { r with location }).1.AgreeOn id (fun _ => True)
      { (writeAll policy steps r).1 with location } :=
    ⟨agree.name, agree.description, agree.details, agree.icons, agree.fanart⟩
  exact Prod.ext (elsewhere.eq_of_all (writeAll_location policy steps _)) warned

end Step

end Gleaner
