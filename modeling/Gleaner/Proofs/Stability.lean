import Gleaner.Proofs.Assigning
import Gleaner.Proofs.World
import Mathlib.Data.List.Forall2

set_option autoImplicit false

/-!
Details keep their type. From one assignment to the next a scalar keeps its kind, an array grows at
its end, and no detail goes away; only what is inherited is replaced.
-/
namespace Gleaner

/-- The kinds of values that are not replaced by values of another kind. -/
def ValueKind.isFixed : ValueKind → Bool
  | .null => false
  | .object => false
  | _ => true

namespace Value

theorem kind_of_asString {value result : Value} (converted : value.asString = .ok result) :
    result.kind = .string := by
  cases value <;> cases converted <;> rfl

theorem kind_of_asNumber {value result : Value} (converted : value.asNumber = .ok result) :
    result.kind = .number := by
  cases value with
  | string s =>
    simp only [asNumber] at converted
    split at converted
    · cases converted
      rfl
    · cases converted
  | _ =>
    cases converted
    all_goals rfl

theorem kind_of_asBoolean {value result : Value} (converted : value.asBoolean = .ok result) :
    result.kind = .boolean := by
  cases value with
  | string s =>
    simp only [asBoolean] at converted
    split at converted
    · cases converted
      rfl
    · cases converted
  | _ =>
    cases converted
    all_goals rfl

/-- What may become of a value: if its kind is fixed it keeps it, and an array grows at its end. -/
structure Keeps (before after : Value) : Prop where
  kind : before.kind.isFixed = true → after.kind = before.kind
  array : ∀ items, before = .array items → ∃ more, after = .array (items ++ more)

theorem Keeps.refl (value : Value) : value.Keeps value where
  kind _ := rfl
  array items same := ⟨[], by rw [List.append_nil, same]⟩

theorem Keeps.trans {before between after : Value} (first : before.Keeps between)
    (second : between.Keeps after) : before.Keeps after where
  kind fixed := by
    have same := first.kind fixed
    exact (second.kind (same ▸ fixed)).trans same
  array items same := by
    obtain ⟨more, grown⟩ := first.array items same
    obtain ⟨others, grownAgain⟩ := second.array (items ++ more) grown
    exact ⟨more ++ others, by rw [grownAgain, List.append_assoc]⟩

/-- A scalar is followed by a scalar of its kind. -/
theorem Keeps.of_kind {before after : Value} (same : after.kind = before.kind)
    (scalar : before.kind ≠ .array) : before.Keeps after where
  kind _ := same
  array items array := by
    rw [array] at scalar
    exact absurd rfl scalar

/-- Null and objects may be followed by any value. -/
theorem Keeps.of_replaced {before : Value} (replaced : before.kind.isFixed = false)
    (after : Value) : before.Keeps after where
  kind fixed := by
    rw [replaced] at fixed
    cases fixed
  array items array := by
    rw [array] at replaced
    cases replaced

theorem keeps_of_coerce {existing incoming result : Value}
    (coerced : coerce (some existing) incoming = .ok result) : existing.Keeps result := by
  cases existing with
  | null => exact .of_replaced rfl result
  | object members => exact .of_replaced rfl result
  | array items =>
    cases coerced
    refine ⟨fun _ => rfl, fun items' same => ?_⟩
    cases same
    exact ⟨[incoming], rfl⟩
  | string s => exact .of_kind (kind_of_asString coerced) nofun
  | number x => exact .of_kind (kind_of_asNumber coerced) nofun
  | boolean b => exact .of_kind (kind_of_asBoolean coerced) nofun

/-- What may become of a detail: one that is there stays, and keeps what values keep. -/
def Kept (before after : Option Value) : Prop :=
  ∀ value, before = some value → ∃ later, after = some later ∧ value.Keeps later

theorem Kept.refl (detail : Option Value) : Kept detail detail :=
  fun value there => ⟨value, there, .refl value⟩

theorem Kept.trans {before between after : Option Value} (first : Kept before between)
    (second : Kept between after) : Kept before after := by
  intro value there
  obtain ⟨later, found, keeps⟩ := first value there
  obtain ⟨last, foundLast, keepsLast⟩ := second later found
  exact ⟨last, foundLast, keeps.trans keepsLast⟩

theorem kept_accrue (existing : Option Value) (incoming : Value) :
    Kept existing (accrue existing incoming) := by
  intro value there
  subst there
  cases coerced : coerce (some value) incoming with
  | ok result =>
    have accrued : accrue (some value) incoming = some result := by simp only [accrue, coerced]
    exact ⟨result, accrued, keeps_of_coerce coerced⟩
  | error r =>
    have accrued : accrue (some value) incoming = some value := by simp only [accrue, coerced]
    exact ⟨value, accrued, .refl value⟩

end Value

/-- What may become of the details of a record: all stay, and those that a policy does not inherit
keep what values keep. -/
structure Record.Advances (policy : WritePolicy) (before after : Record) : Prop where
  own : ∀ key, Assignment.inherited? policy (.detail key) = none →
    Value.Kept (before.detail? key) (after.detail? key)
  present : ∀ key, (before.detail? key).isSome = true → (after.detail? key).isSome = true

namespace Record.Advances

variable {policy : WritePolicy}

theorem refl (record : Record) : record.Advances policy record where
  own _ _ := .refl _
  present _ there := there

theorem trans {before between after : Record} (first : before.Advances policy between)
    (second : between.Advances policy after) : before.Advances policy after where
  own key own := (first.own key own).trans (second.own key own)
  present key there := second.present key (first.present key there)

end Record.Advances

namespace Assignment

/-- A detail that an assignment inherits is there afterwards, and so is every detail that was. -/
theorem apply_present (policy : WritePolicy) (captures : Captures) (a : Assignment)
    (record : Record) (key : String) (there : (record.detail? key).isSome = true) :
    ((a.apply policy captures record).1.detail? key).isSome = true := by
  cases inherits : inherited? policy (.detail key) with
  | none =>
    have view := (FieldView.detail key).view_apply inherits captures a record
    have same : (a.apply policy captures record).1.detail? key = _ := view
    rw [same]
    split
    · obtain ⟨value, found⟩ := Option.isSome_iff_exists.1 there
      obtain ⟨later, kept, -⟩ :=
        Value.kept_accrue (record.detail? key) (expandValue captures a.value).1 value found
      exact Option.isSome_of_eq_some kept
    · exact there
  | some copied =>
    have sameKey : (Field.detail key) = .detail copied.1 := inherited?_eq_some inherits
    cases sameKey
    rw [detail?_apply inherits]
    split
    · rfl
    · exact there

/-- An assignment keeps what is kept of details. -/
theorem apply_advances (policy : WritePolicy) (captures : Captures) (a : Assignment)
    (record : Record) : record.Advances policy (a.apply policy captures record).1 where
  own key own := by
    have view := (FieldView.detail key).view_apply own captures a record
    have same : (a.apply policy captures record).1.detail? key = _ := view
    rw [same]
    split
    · exact Value.kept_accrue _ _
    · exact .refl _
  present key there := apply_present policy captures a record key there

end Assignment

namespace Write

variable (policy : WritePolicy) (start : Record) (writes : List Write)

theorem apply_advances (w : Write) (record : Record) :
    record.Advances policy (w.apply policy record) := by
  have advances := w.assignment.apply_advances (w.policy policy) w.visit.captures record
  exact ⟨fun key own => advances.own key own, advances.present⟩

theorem advances_of_mem_records :
    ∀ record ∈ records policy start writes, start.Advances policy record := by
  induction writes generalizing start with
  | nil =>
    intro record mem
    rw [List.mem_singleton.1 mem]
    exact .refl start
  | cons w rest ih =>
    intro record mem
    unfold records at mem
    rw [List.scanl_cons] at mem
    rcases List.mem_cons.1 mem with rfl | later
    · exact .refl record
    · exact (apply_advances policy w start).trans (ih _ record later)

/-- Of the records that writing passes through each advances to all that come after it. -/
theorem pairwise_records :
    (records policy start writes).Pairwise (Record.Advances policy) := by
  induction writes generalizing start with
  | nil => exact List.pairwise_singleton _ _
  | cons w rest ih =>
    unfold records
    rw [List.scanl_cons]
    refine List.pairwise_cons.2 ⟨fun record later => ?_, ih _⟩
    exact (apply_advances policy w start).trans (advances_of_mem_records policy _ rest record later)

end Write

/-- Records that come one after the other, of a scrape that starts with these defaults. -/
structure DetailsStable (definition : Definition) (options : ScrapeOptions) (defaults : Details)
    (records : List Record) : Prop where
  /-- A scalar that a media type declares stays a value of its kind. -/
  scalars : ∀ key value, ¬Scraper.Inherits definition options key →
    defaults.find? key = some value → value.kind ∈ [.string, .number, .boolean] →
    ∀ r ∈ records, ∃ later, r.detail? key = some later ∧ later.kind = value.kind
  /-- An array that a media type declares stays an array, which starts as declared. -/
  arrays : ∀ key items, ¬Scraper.Inherits definition options key →
    defaults.find? key = some (.array items) →
    ∀ r ∈ records, ∃ more, r.detail? key = some (.array (items ++ more))
  /-- An array only grows, at its end. -/
  growing : records.Pairwise fun before after => ∀ key items,
    ¬Scraper.Inherits definition options key → before.detail? key = some (.array items) →
    ∃ more, after.detail? key = some (.array (items ++ more))
  /-- Once a detail is a scalar or an array, its kind is fixed. -/
  fixed : records.Pairwise fun before after => ∀ key value,
    ¬Scraper.Inherits definition options key → before.detail? key = some value →
    value.kind ∈ [.string, .number, .boolean, .array] →
    ∃ later, after.detail? key = some later ∧ later.kind = value.kind
  /-- No detail goes away, inherited or not. -/
  present : records.Pairwise fun before after => ∀ key,
    (before.detail? key).isSome = true → (after.detail? key).isSome = true

namespace Scraper

variable (definition : Definition) (options : ScrapeOptions) (defaults : Details) (record : Record)

/-- The records that an item passes through, from the fresh one on. -/
def passing (found : Option (List Evaluation)) : List Record :=
  Write.records (writePolicy definition options) (record.reset defaults) (writes found)

theorem getLast?_passing (found : Option (List Evaluation)) :
    (passing definition options defaults record found).getLast? =
      some (answerFrom definition options defaults record found).2 := by
  rw [passing, Write.records, List.getLast?_scanl, ← answerFrom_record]

theorem passing_stable (found : Option (List Evaluation)) :
    DetailsStable definition options defaults
      (passing definition options defaults record found) := by
  have own : ∀ {key}, ¬Inherits definition options key →
      Assignment.inherited? (writePolicy definition options) (.detail key) = none :=
    fun {key} => (inherited?_eq_none_iff definition options key).2
  have fixed : ∀ kind, kind ∈ [ValueKind.string, .number, .boolean, .array] →
      kind.isFixed = true := by decide
  have fromStart := Write.advances_of_mem_records (writePolicy definition options)
    (record.reset defaults) (writes found)
  have pairwise := Write.pairwise_records (writePolicy definition options)
    (record.reset defaults) (writes found)
  refine ⟨?_, ?_, pairwise.imp ?_, pairwise.imp ?_, pairwise.imp ?_⟩
  · intro key value notInherited declared scalar r mem
    have isFixed : value.kind.isFixed = true :=
      fixed _ (List.mem_append_left [ValueKind.array] scalar)
    obtain ⟨later, found, keeps⟩ := (fromStart r mem).own key (own notInherited) value declared
    exact ⟨later, found, keeps.kind isFixed⟩
  · intro key items notInherited declared r mem
    obtain ⟨later, found, keeps⟩ := (fromStart r mem).own key (own notInherited) _ declared
    obtain ⟨more, rfl⟩ := keeps.array items rfl
    exact ⟨more, found⟩
  · intro before after advances key items notInherited array
    obtain ⟨later, found, keeps⟩ := advances.own key (own notInherited) _ array
    obtain ⟨more, rfl⟩ := keeps.array items rfl
    exact ⟨more, found⟩
  · intro before after advances key value notInherited there kind
    obtain ⟨later, found, keeps⟩ := advances.own key (own notInherited) value there
    exact ⟨later, found, keeps.kind (fixed _ kind)⟩
  · intro before after advances
    exact advances.present

end Scraper

/-- Declared details keep their type in every scrape. Of the records that an item passes through,
one after each assignment, the last is the record that the scrape leaves; and from each to all
that come later scalars keep their kind, arrays grow at their end and no detail goes away. -/
theorem Scraper.details_keep_types {σ : Type} {s : Scraper (StateM σ)} {fileName : Regex}
    {defaults : Details} (ready : s.preparation = .ready fileName defaults)
    (options : ScrapeOptions) (w : σ) :
    (∀ record,
      let found := ((s.evaluations options record.location).run w).1
      let records := passing s.definition options defaults record found
      records.head? = some (record.reset defaults) ∧
        records.getLast? = some ((s.seen options record).run w).1.2 ∧
        DetailsStable s.definition options defaults records) ∧
    ∀ location create, ∃ items, ((s.seenEach options location create).run w).1 = .ok items ∧
      List.Forall₂ (fun item found =>
        let records := passing s.definition options defaults (create found.1) (some found.2)
        records.head? = some ((create found.1).reset defaults) ∧
          records.getLast? = some item.record ∧
          DetailsStable s.definition options defaults records) items
        ((s.evaluationsEach options location).run w).1 := by
  have prepared := ready_of_preparation ready
  constructor
  · intro record found records
    have last := getLast?_passing s.definition options defaults record found
    rw [seen_eq prepared, StateT.run_map]
    exact ⟨List.head?_scanl, last, passing_stable s.definition options defaults record found⟩
  · intro location create
    rw [seenEach_eq prepared, StateT.run_map]
    refine ⟨_, rfl, ?_⟩
    refine List.forall₂_map_left_iff.2 (List.forall₂_same.2 fun item _ => ?_)
    have last := getLast?_passing s.definition options defaults (create item.1) (some item.2)
    exact ⟨List.head?_scanl, last,
      passing_stable s.definition options defaults (create item.1) (some item.2)⟩

/-- The tracks of an album stay an array after each of its six assignments. -/
theorem Scraper.details_keep_types_albums :
    let album := Record.fresh "one" Dict.empty
    let found := ((readyAlbums.evaluations {} "one").run shelf).1
    let records := passing readyAlbums.definition {} albumDetails album found
    records.length = 7 ∧ records.getLast? = some ((readyAlbums.seen {} album).run shelf).1.2 ∧
      ∀ r ∈ records, ∃ tracks, r.detail? "tracks" = some (.array tracks) := by
  intro album found records
  have ready : readyAlbums.preparation = .ready albumName albumDetails := rfl
  obtain ⟨-, last, stable⟩ := (details_keep_types ready {} shelf).1 album
  have notInherited : ¬Inherits readyAlbums.definition {} "tracks" := by
    rintro ⟨on, -⟩
    cases on
  have declared : albumDetails.find? "tracks" = some (.array []) :=
    Dict.find?_insert_self Dict.empty "tracks" _
  exact ⟨by decide +kernel, last, stable.arrays "tracks" [] notInherited declared⟩

end Gleaner
