import Gleaner.Proofs.Items
import Gleaner.Proofs.World
import Mathlib.Data.List.Forall2

set_option autoImplicit false

/-!
A scrape is complete exactly when no procedure failed. What goes wrong with a template or with a
value that is written is warned of, and counts for nothing else.
-/
namespace Gleaner

/-- None of the warnings tells that a procedure failed. -/
def Mild (warnings : List Warning) : Prop :=
  ∀ warning ∈ warnings, warning.isFailure = false

theorem Mild.nil : Mild [] := fun _ mem => nomatch mem

theorem Mild.append {first second : List Warning} (one : Mild first) (other : Mild second) :
    Mild (first ++ second) :=
  fun warning mem => (List.mem_append.1 mem).elim (one warning) (other warning)

theorem countP_isFailure_eq_zero {warnings : List Warning} :
    warnings.countP Warning.isFailure = 0 ↔ Mild warnings := by
  simp only [List.countP_eq_zero, Bool.not_eq_true, Mild]

mutual

theorem expandValue_mild (captures : Captures) : ∀ value, Mild (expandValue captures value).2
  | .string template => fun _ warned => isFailure_malformed warned
  | .array items => by
    simp only [expandValue]
    exact expandValues_mild captures items
  | .null => .nil
  | .boolean _ => .nil
  | .number _ => .nil
  | .object _ => .nil

theorem expandValues_mild (captures : Captures) : ∀ items, Mild (expandValues captures items).2
  | [] => .nil
  | item :: items => by
    simp only [expandValues]
    exact (expandValue_mild captures item).append (expandValues_mild captures items)

end

namespace Assignment

theorem rejection_mild (field : Field) (r : Rejection) : Mild [rejection field r] := by
  intro warning mem
  rw [List.mem_singleton.1 mem]
  rfl

theorem writeImages_mild (importing : Bool) (field : Field) (items : List Value)
    (record : Record) : Mild (writeImages importing field items record).2 := by
  induction items generalizing record with
  | nil => exact .nil
  | cons item items ih =>
    simp only [writeImages]
    split
    · exact ih _
    · exact (rejection_mild field _).append (ih record)

theorem writeExpanded_mild (importing : Bool) (field : Field) (value : Value) (record : Record) :
    Mild (writeExpanded importing field value record).2 := by
  unfold writeExpanded
  split
  · exact writeImages_mild _ _ _ _
  · exact writeImages_mild _ _ _ _
  · split
    · exact .nil
    · exact rejection_mild _ _

theorem apply_mild (policy : WritePolicy) (captures : Captures) (a : Assignment)
    (record : Record) : Mild (a.apply policy captures record).2 := by
  unfold apply
  split
  · exact .nil
  · exact (expandValue_mild captures a.value).append (writeExpanded_mild _ _ _ _)

theorem applyAll_mild (policy : WritePolicy) (captures : Captures) (assignments : List Assignment)
    (record : Record) : Mild (applyAll policy captures assignments record).2 := by
  induction assignments generalizing record with
  | nil => exact .nil
  | cons a rest ih => exact (apply_mild policy captures a record).append (ih _)

end Assignment

/-- Writing adds no failures to those that a walk tells. -/
theorem Step.countP_writeAll (policy : WritePolicy) (steps : List Step) (record : Record) :
    (writeAll policy steps record).2.countP Warning.isFailure = steps.countP Step.isFailure := by
  induction steps generalizing record with
  | nil => rfl
  | cons step rest ih =>
    simp only [writeAll, List.countP_append, ih, List.countP_cons]
    cases step with
    | warned warning =>
      simp only [write, Step.isFailure, List.countP_singleton]
      exact Nat.add_comm _ _
    | visited procedure captures =>
      rw [write, countP_isFailure_eq_zero.2 (Assignment.applyAll_mild _ _ _ _)]
      simp only [Step.isFailure, Bool.false_eq_true, ↓reduceIte]
      omega

/-- What a report of evaluations tells: whether any of them failed, and each failure once. -/
structure Report.Accounts (report : Report) (found : List Evaluation) : Prop where
  outcome : report.outcome =
    if Evaluation.failuresAll found = 0 then Outcome.complete else Outcome.incomplete
  complete_iff : report.outcome = .complete ↔ Mild report.warnings
  failures : report.warnings.countP Warning.isFailure = Evaluation.failuresAll found

theorem Scraper.itemFrom_accounts (definition : Definition) (options : ScrapeOptions)
    (defaults : Details) (record : Record) (found : List Evaluation) :
    (itemFrom definition options defaults record found).report.Accounts found := by
  have tells := Evaluation.walkAll_tells found
  have failures : (itemFrom definition options defaults record found).report.warnings.countP
      Warning.isFailure = Evaluation.failuresAll found :=
    (Step.countP_writeAll _ _ _).trans tells.failures
  have outcome : (itemFrom definition options defaults record found).report.outcome =
      if Evaluation.failuresAll found = 0 then Outcome.complete else Outcome.incomplete := by
    simp only [itemFrom, itemOf, Report.ofRun, tells.succeeded, beq_iff_eq]
  refine ⟨outcome, ?_, failures⟩
  rw [outcome, ← countP_isFailure_eq_zero, failures]
  by_cases none : Evaluation.failuresAll found = 0
  · simp [none]
  · simp [none]

/-- Scraping comes to a report, and so it does for each item of a location; it has the effects of
the evaluations. A report that is no mismatch is complete exactly when it tells of no failure, and
it tells each failed evaluation once; a mismatch comes with no warnings. -/
theorem Scraper.report_tells_failures {σ : Type} {s : Scraper (StateM σ)} {fileName : Regex}
    {defaults : Details} (ready : s.preparation = .ready fileName defaults)
    (options : ScrapeOptions) (w : σ) :
    (∀ record, ∃ report, ((s.seen options record).run w).1.1 = .ok report ∧
      ((s.seen options record).run w).2 =
        ((s.evaluations options record.location).run w).2 ∧
      match ((s.evaluations options record.location).run w).1 with
      | none => report.outcome = .mismatch ∧ report.warnings = []
      | some found => report.Accounts found) ∧
    ∀ location create, ∃ items, ((s.seenEach options location create).run w).1 = .ok items ∧
      ((s.seenEach options location create).run w).2 =
        ((s.evaluationsEach options location).run w).2 ∧
      List.Forall₂ (fun item found => item.report.Accounts found.2) items
        ((s.evaluationsEach options location).run w).1 := by
  have prepared := ready_of_preparation ready
  constructor
  · intro record
    rw [seen_eq prepared, StateT.run_map]
    generalize (s.evaluations options record.location).run w = run
    obtain ⟨found, w⟩ := run
    cases found with
    | none => exact ⟨Report.mismatch, rfl, rfl, rfl, rfl⟩
    | some found =>
      exact ⟨_, rfl, rfl, itemFrom_accounts s.definition options defaults record found⟩
  · intro location create
    rw [seenEach_eq prepared, StateT.run_map]
    refine ⟨_, rfl, rfl, ?_⟩
    refine List.forall₂_map_left_iff.2 (List.forall₂_same.2 fun item _ => ?_)
    exact itemFrom_accounts s.definition options defaults (create item.1) item.2

/-- An album whose lyrics cannot be read is incomplete, for that one failure. -/
theorem Scraper.report_tells_failures_albums :
    ∃ report, ((readyAlbums.seen {} (.fresh "one" Dict.empty)).run shelf).1.1 =
        .ok report ∧
      report.outcome = .incomplete ∧ report.warnings.countP Warning.isFailure = 1 := by
  have ready : readyAlbums.preparation = .ready albumName albumDetails := rfl
  obtain ⟨report, answer, -, accounts⟩ :=
    (report_tells_failures ready {} shelf).1 (.fresh "one" Dict.empty)
  have failures : ((readyAlbums.evaluations {} "one").run shelf).1.map Evaluation.failuresAll =
      some 1 := by decide +kernel
  obtain ⟨found, evaluated, failed⟩ := Option.map_eq_some_iff.1 failures
  simp only [Record.fresh, evaluated] at accounts
  refine ⟨report, answer, ?_, ?_⟩
  · rw [accounts.outcome, failed]
    rfl
  · rw [accounts.failures, failed]

end Gleaner
