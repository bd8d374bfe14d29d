import Gleaner.Proofs.Commuting
import Gleaner.Proofs.Settled
import Gleaner.Proofs.Validation
import Mathlib.Data.List.Forall2

set_option autoImplicit false

/-!
Siblings that write to different fields may stand in any order. A definition stays valid when they
are reordered, and its items stay the same but for the order of the warnings.
-/
namespace Gleaner

namespace Procedure

/-- Independent siblings in another order: those at hand, or some below one of them. -/
inductive Reordered : List Procedure → List Procedure → Prop
  | here {ps qs : List Procedure} (independent : ps.Pairwise Independent) (perm : ps.Perm qs) :
      Reordered ps qs
  | deeper {children children' : List Procedure} (inside : Reordered children children')
      (before after : List Procedure) (source searchFor : String)
      (repeats askUser importing : Bool) (assignments : List Assignment) :
      Reordered
        (before ++ .node source searchFor repeats askUser importing assignments children :: after)
        (before ++ .node source searchFor repeats askUser importing assignments children' :: after)

variable {ps qs : List Procedure}

theorem Reordered.walkAll (reordered : Reordered ps qs) (access : Access Id)
    (captures : Captures) :
    Walk.SameEffect (walkAll access captures ps).run (walkAll access captures qs).run := by
  induction reordered generalizing captures with
  | here independent perm => exact walkAll_perm access captures perm independent
  | deeper inside before after source searchFor repeats askUser importing assignments ih =>
    have changed := walk_congr access captures source searchFor repeats askUser importing
      assignments ih
    simp only [walkAll_append, Procedure.walkAll, Id.run_bind, Id.run_pure]
    exact (Walk.SameEffect.refl _).append (changed.append (.refl _))

theorem Reordered.wellFormed (reordered : Reordered ps qs) {last : Option Nat}
    (wellFormed : ∀ p ∈ ps, p.WellFormed last) : ∀ q ∈ qs, q.WellFormed last := by
  induction reordered generalizing last with
  | here independent perm =>
    intro q mem
    exact wellFormed q (perm.mem_iff.2 mem)
  | deeper inside before after source searchFor repeats askUser importing assignments ih =>
    obtain ⟨front, rest⟩ := List.forall_mem_append.1 wellFormed
    obtain ⟨parent, back⟩ := List.forall_mem_cons.1 rest
    refine List.forall_mem_append.2 ⟨front, List.forall_mem_cons.2 ⟨?_, back⟩⟩
    cases parent with
    | node sourceGiven sourceWithin searchGiven searchWithin assignable below =>
      exact .node sourceGiven sourceWithin searchGiven searchWithin assignable (ih below)

end Procedure

open Procedure (Reordered)

theorem Definition.validate_reordered {definition : Definition} {procedures : List Procedure}
    (reordered : Reordered definition.procedures procedures) {fileName : Regex}
    (valid : definition.validate = .ok fileName) :
    Definition.validate { definition with procedures } = .ok fileName := by
  have accepted := (definition.validate_eq_ok_iff fileName).1 valid
  exact (Definition.validate_eq_ok_iff _ fileName).2
    ⟨accepted.compiled, reordered.wellFormed accepted.procedures⟩

/-- Items that differ at most in the order of their warnings. -/
structure ScrapedItem.SameButOrder (x y : ScrapedItem) : Prop where
  record : x.record = y.record
  outcome : x.report.outcome = y.report.outcome
  warnings : x.report.warnings.Perm y.report.warnings

namespace Scraper

variable {definition : Definition} {procedures : List Procedure}
  {files : String → Except SourceError String} {rule : Rule}

theorem stillItem_reordered (reordered : Reordered definition.procedures procedures)
    (options : ScrapeOptions) (seed : Captures) (record : Record) :
    (stillItem definition options files rule seed record).SameButOrder
      (stillItem { definition with procedures } options files rule seed record) := by
  obtain ⟨succeeded, steps⟩ :=
    reordered.walkAll (Access.still definition.name files rule) seed
  obtain ⟨records, warnings⟩ := steps (writePolicy definition options) record
  exact {
    record := records
    outcome := by simp only [stillItem, itemOf, Report.ofRun, succeeded]
    warnings := warnings }

end Scraper

/-- Siblings that write to different fields, anywhere in a definition, may be put in another order:
with an operator who answers by a rule, every scrape comes to the same record and outcome, and
warns of the same in some order. -/
theorem siblings_commute {definition : Definition} {procedures : List Procedure}
    (reordered : Reordered definition.procedures procedures) {prompted : Bool}
    {types : String → Option Details}
    (prepared : ((World.scraper definition prompted).prepare types).1 = .ok ()) {w : World}
    {answers : PromptRequest → Option (List Captures)}
    (rule : ∀ earlier request, w.operator (earlier ++ [request]) = answers request)
    (held held' : SourceCache) (options : ScrapeOptions) :
    let new := World.scraper { definition with procedures } prompted
    let s := { ((World.scraper definition prompted).prepare types).2 with cache := held }
    let t := { (new.prepare types).2 with cache := held' }
    (new.prepare types).1 = .ok () ∧
    (∀ record, ∃ x y : ScrapedItem,
      ((s.seen options record).run w).1 = (.ok x.report, x.record) ∧
      ((t.seen options record).run w).1 = (.ok y.report, y.record) ∧ x.SameButOrder y) ∧
    ∀ location create, ∃ xs ys : List ScrapedItem,
      ((s.seenEach options location create).run w).1 = .ok xs ∧
      ((t.seenEach options location create).run w).1 = .ok ys ∧
      List.Forall₂ ScrapedItem.SameButOrder xs ys := by
  intro new
  obtain ⟨fileName, defaults, valid, known, after⟩ := Scraper.prepare_of_pending rfl prepared
  have after' : new.prepare types =
      (.ok (), { new with preparation := .ready fileName defaults }) :=
    Scraper.prepare_of_valid rfl (Definition.validate_reordered reordered valid) known
  rw [after, after']
  intro s t
  have sInWorld : s.InWorld := World.scraper_inWorld definition prompted _ held
  have tInWorld : t.InWorld := World.scraper_inWorld { definition with procedures } prompted _ held'
  have sRuled := s.ruled_of_asks options answers
  have tRuled : t.Ruled options (if options.askUser && s.prompter.isSome then some answers
    else none) := sRuled
  have still := World.still_of_answers rule (options.askUser && s.prompter.isSome)
  refine ⟨rfl, fun record => ?_, fun location create => ?_⟩
  · obtain ⟨seed, asked, chosen⟩ := sInWorld.run_chooseSeed options record.location
      (Scraper.seeds definition fileName record.location) w
    have one := sInWorld.run_seen rfl sRuled chosen (still.logged asked)
    have other := tInWorld.run_seen rfl tRuled chosen (still.logged asked)
    rw [one, other]
    cases seed with
    | none => exact ⟨⟨_, _⟩, ⟨_, _⟩, rfl, rfl, rfl, rfl, .refl _⟩
    | some seed =>
      exact ⟨_, _, rfl, rfl, Scraper.stillItem_reordered reordered options seed _⟩
  · refine ⟨_, _, sInWorld.run_seenEach rfl sRuled still location create,
      tInWorld.run_seenEach rfl tRuled still location create, ?_⟩
    rw [List.forall₂_map_left_iff, List.forall₂_map_right_iff]
    exact List.forall₂_same.2 fun seed _ => Scraper.stillItem_reordered reordered options seed _

def trackRule : Procedure :=
  .node "one.txt" "Track: ([a-z]+)" true false false [⟨.name, .string "$1"⟩] []

def coverRule : Procedure :=
  .node "one.txt" "Cover: ([a-z]+)" false false false [⟨.icon, .string "$1.png"⟩] []

/-- Albums with their tracks and their cover, one rule for each, below a common one. -/
def coveredAlbums (children : List Procedure) : Definition :=
  { albums with procedures := [.node "$0.txt" "Track" false false false [] children] }

/-- The cover of an album may be searched for before its tracks or after them. -/
theorem siblings_commute_albums :
    let prepared children := (World.scraper (coveredAlbums children) true).prepare albumTypes
    let s := { (prepared [trackRule, coverRule]).2 with cache := {} }
    let t := { (prepared [coverRule, trackRule]).2 with cache := {} }
    Reordered (coveredAlbums [trackRule, coverRule]).procedures
      (coveredAlbums [coverRule, trackRule]).procedures ∧
    (prepared [trackRule, coverRule]).1 = .ok () ∧ (prepared [coverRule, trackRule]).1 = .ok () ∧
    ∃ x y : ScrapedItem,
      ((s.seen {} { location := "one" }).run shelf).1 = (.ok x.report, x.record) ∧
      ((t.seen {} { location := "one" }).run shelf).1 = (.ok y.report, y.record) ∧
      x.SameButOrder y ∧ x.record.name = some "dusk" ∧
      x.record.icons = [⟨"sky.png", false⟩] := by
  intro prepared s t
  have independent : [trackRule, coverRule].Pairwise Procedure.Independent := by
    simp [trackRule, coverRule, Procedure.Independent, Procedure.fields, Procedure.fieldsAll]
  have reordered : Reordered (coveredAlbums [trackRule, coverRule]).procedures
      (coveredAlbums [coverRule, trackRule]).procedures :=
    .deeper (.here independent (.swap coverRule trackRule [])) [] [] _ _ _ _ _ _
  have accepted : (prepared [trackRule, coverRule]).1.isOk = true := by decide +kernel
  have ready : (prepared [trackRule, coverRule]).1 = .ok () := eq_ok_of_isOk accepted
  have declines : ∀ earlier request, shelf.operator (earlier ++ [request]) = none :=
    fun _ _ => rfl
  obtain ⟨ready', single, -⟩ := siblings_commute reordered ready declines {} {} {}
  obtain ⟨x, y, one, other, same⟩ := single { location := "one" }
  have filled : ((s.seen {} { location := "one" }).run shelf).1.2.name = some "dusk" ∧
      ((s.seen {} { location := "one" }).run shelf).1.2.icons = [⟨"sky.png", false⟩] := by
    decide +kernel
  rw [one] at filled
  exact ⟨reordered, ready, ready', x, y, one, other, same, filled⟩

end Gleaner
