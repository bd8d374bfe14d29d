import Gleaner.Definition.Document
import Gleaner.Proofs.Items
import Gleaner.Proofs.Observation
import Gleaner.Proofs.Rearranging
import Mathlib.Data.List.Nodup

set_option autoImplicit false

/-!
The order of assignments to different fields does not matter. A document holds the assignments of a
procedure in key order, and nothing depends on that: with the assignments in another order, every
scrape asks the same and comes to the same. Main statement: `Assignment.order_immaterial`.
-/
namespace Gleaner

open Procedure (RearrangedAll DistinctAll)

/-- A report, but for the order of its warnings. -/
def Report.unordered (report : Report) : Outcome × Multiset Warning :=
  (report.outcome, report.warnings)

/-- An item, but for the order of its warnings. -/
def ScrapedItem.unordered (item : ScrapedItem) : Record × Outcome × Multiset Warning :=
  (item.record, item.report.unordered)

/-- The item that a walk leads to, but for the order of its warnings. -/
def Effect.item (effect : Effect) (policy : WritePolicy) (record : Record) :
    Record × Outcome × Multiset Warning :=
  let written := effect.write policy record
  (written.1, if effect.succeeded then .complete else .incomplete, written.2)

/-- The answer and the record that a walk leads to, if there is one. -/
def Effect.answer (policy : WritePolicy) (record : Record) :
    Option Effect → Except EngineError (Outcome × Multiset Warning) × Record
  | none => (.ok Report.mismatch.unordered, record)
  | some effect =>
      let item := effect.item policy record
      (.ok item.2, item.1)

/-- What the walk over evaluations comes to. -/
def Evaluation.effect (found : List Evaluation) : Effect :=
  (Evaluation.walkAll found).effect

namespace Scraper

/-- Answers are a function of what the walks come to, but for the order of the warnings. -/
theorem unordered_answerFrom (definition : Definition) (options : ScrapeOptions)
    (defaults : Details) (record : Record) (found : Option (List Evaluation)) :
    let answer := answerFrom definition options defaults record found
    (answer.1.map Report.unordered, answer.2) =
      Effect.answer (writePolicy definition options) (record.reset defaults)
        (found.map Evaluation.effect) := by
  cases found <;> rfl

theorem unordered_itemsFrom (definition : Definition) (options : ScrapeOptions)
    (defaults : Details) (create : Captures → Record) (found : List (Captures × List Evaluation)) :
    (itemsFrom definition options defaults create found).map ScrapedItem.unordered =
      (found.map (Prod.map id Evaluation.effect)).map fun walked =>
        walked.2.item (writePolicy definition options) ((create walked.1).reset defaults) := by
  simp only [itemsFrom, List.map_map]
  rfl

section Scrapes

variable {m : Type → Type}

/-- The scraper with other procedures, and with another cache. -/
def withProcedures (s : Scraper m) (procedures : List Procedure) (cache : SourceCache) :
    Scraper m :=
  { s with definition := { s.definition with procedures }, cache }

variable {s : Scraper m} {procedures : List Procedure}

theorem examine_rearranged {definition : Definition}
    (rearranged : RearrangedAll definition.procedures procedures)
    (types : String → Option Details) (found : Regex × Details) :
    examine { definition with procedures } types = .ok found ↔
      examine definition types = .ok found := by
  have accepted := Definition.validate_rearranged rearranged
  unfold examine
  cases valid : definition.validate with
  | ok fileName => rw [(accepted fileName).2 valid]
  | error e =>
    cases valid' : Definition.validate { definition with procedures } with
    | ok fileName =>
      rw [(accepted fileName).1 valid'] at valid
      cases valid
    | error e' => exact iff_of_false nofun nofun

/-- Preparing settles the same with the assignments in another order. -/
theorem prepare_rearranged (rearranged : RearrangedAll s.definition.procedures procedures)
    (cache : SourceCache) (types : String → Option Details) :
    ((s.withProcedures procedures cache).prepare types).1.isOk = (s.prepare types).1.isOk ∧
      ((s.withProcedures procedures cache).prepare types).2 =
        (s.prepare types).2.withProcedures procedures cache := by
  have examined := examine_rearranged rearranged types
  have same : (s.withProcedures procedures cache).preparation = s.preparation := rfl
  unfold prepare
  rw [same]
  cases s.preparation with
  | ready fileName defaults => exact ⟨rfl, rfl⟩
  | refused => exact ⟨rfl, rfl⟩
  | pending =>
    cases found : examine s.definition types with
    | ok settled =>
      have found' : examine (s.withProcedures procedures cache).definition types = .ok settled :=
        (examined settled).2 found
      rw [found']
      exact ⟨rfl, rfl⟩
    | error e =>
      cases found' : examine (s.withProcedures procedures cache).definition types with
      | ok settled =>
        rw [(examined settled).1 found'] at found
        cases found
      | error e' => exact ⟨rfl, rfl⟩

variable [Monad m] [LawfulMonad m]
  (rearranged : RearrangedAll s.definition.procedures procedures)
  (distinct : DistinctAll s.definition.procedures) (held : SourceCache) (options : ScrapeOptions)

include rearranged distinct

theorem evaluate_rearranged (seed : Captures) :
    LooksSame Evaluation.effect (s.evaluate options seed)
      ((s.withProcedures procedures held).evaluate options seed) := by
  have walks := rearranged.walkAll (s.access options) distinct seed
  rw [Procedure.walkAll_eq, Procedure.walkAll_eq] at walks
  exact (walks.of_map.run {}).bind fun ran ran' same => .pure (Prod.mk.inj same).1

theorem evaluations_rearranged (location : String) :
    LooksSame (Option.map Evaluation.effect) (s.evaluations options location)
      ((s.withProcedures procedures held).evaluations options location) := by
  have ready : (s.withProcedures procedures held).ready = s.ready := rfl
  unfold evaluations
  rw [ready]
  cases s.ready with
  | error e => exact .refl _ _
  | ok prepared =>
    refine .after (fun seed => ?_) (s.chooseSeed options location
      (seeds s.definition prepared.1 location))
    cases seed with
    | none => exact .refl _ _
    | some seed =>
      exact (evaluate_rearranged rearranged distinct held options seed).bind
        fun found found' same => .pure (congrArg some same)

theorem evaluateEach_rearranged (seeds : List Captures) :
    LooksSame (List.map (Prod.map id Evaluation.effect)) (s.evaluateEach options seeds)
      ((s.withProcedures procedures held).evaluateEach options seeds) := by
  refine .mapM (fun seed => ?_) seeds
  exact (evaluate_rearranged rearranged distinct held options seed).bind
    fun found found' same => .pure (congrArg (Prod.mk seed) same)

/-- With the assignments in another order an item is scraped alike, but for the order in which is
warned. -/
theorem seen_rearranged (record : Record) :
    LooksSame (fun seen => (seen.1.map Report.unordered, seen.2)) (s.seen options record)
      ((s.withProcedures procedures held).seen options record) := by
  have same : (s.withProcedures procedures held).ready = s.ready := rfl
  cases ready : s.ready with
  | error e =>
    rw [ready] at same
    simp only [seen, scrape_of_error ready, scrape_of_error same, pure_bind]
    exact .refl _ _
  | ok prepared =>
    rw [ready] at same
    rw [seen_eq ready, seen_eq same]
    refine (evaluations_rearranged rearranged distinct held options record.location).map
      fun found found' alike => ?_
    rw [unordered_answerFrom, unordered_answerFrom, alike]
    rfl

/-- So are the items of a location. -/
theorem seenEach_rearranged (location : String) (create : Captures → Record) :
    LooksSame (Except.map (List.map ScrapedItem.unordered)) (s.seenEach options location create)
      ((s.withProcedures procedures held).seenEach options location create) := by
  have same : (s.withProcedures procedures held).ready = s.ready := rfl
  cases ready : s.ready with
  | error e =>
    rw [ready] at same
    simp only [seenEach, scrapeEach_of_error ready, scrapeEach_of_error same, pure_bind]
    exact .refl _ _
  | ok prepared =>
    rw [ready] at same
    rw [seenEach_eq ready, seenEach_eq same]
    simp only [evaluationsEach, ready, same]
    refine (evaluateEach_rearranged rearranged distinct held options _).map
      fun found found' alike => ?_
    refine congrArg Except.ok ?_
    rw [unordered_itemsFrom, unordered_itemsFrom, alike]
    rfl

end Scrapes

end Scraper

/-- Different keys name different fields. -/
theorem Field.ofKey_injective : Function.Injective ofKey :=
  Function.LeftInverse.injective key_ofKey

namespace Procedure

/-- The assignments of a document are to different fields, as its keys are different. -/
theorem nodup_assignments? {part : Option Tree} {assignments : List Assignment}
    (read : assignments? part = some assignments) :
    (assignments.map Assignment.field).Nodup := by
  obtain ⟨set, -, rfl⟩ := Option.map_eq_some_iff.1 read
  have fields : (set.entries.map fun entry => (⟨Field.ofKey entry.1, entry.2⟩ : Assignment)).map
      Assignment.field = set.keys.map Field.ofKey := by
    simp only [Dict.keys, List.map_map]
    rfl
  rw [fields]
  exact set.keys_nodup.map Field.ofKey_injective

theorem distinct_ofParts? {children : List Procedure} (below : DistinctAll children)
    {parts : List (Option Tree)} {procedure : Procedure}
    (read : ofParts? children parts = some procedure) : procedure.Distinct := by
  unfold ofParts? at read
  split at read
  · simp only [Option.bind_eq_bind, Option.bind_eq_some_iff, Option.some.injEq] at read
    obtain ⟨_, -, _, -, _, -, _, -, _, -, assignments, set, rfl⟩ := read
    exact ⟨nodup_assignments? set, below⟩
  · cases read

mutual

theorem distinct_ofTree? (surplus : Surplus) : ∀ (tree : Tree) {procedure : Procedure},
    ofTree? surplus tree = some procedure → procedure.Distinct
  | .table entries, procedure, read => by
    simp only [ofTree?, Option.bind_eq_bind, Option.bind_eq_some_iff] at read
    obtain ⟨children, below, parts, -, read⟩ := read
    exact distinct_ofParts? (distinct_childrenIn? surplus entries below) read
  | .list items, procedure, read => by
    simp only [ofTree?, Option.bind_eq_bind, Option.bind_eq_some_iff] at read
    obtain ⟨children, below, parts, -, read⟩ := read
    exact distinct_ofParts? (distinct_childrenAt? surplus 6 items below) read
  | .null, _, read => nomatch read
  | .boolean _, _, read => nomatch read
  | .integer _, _, read => nomatch read
  | .float _, _, read => nomatch read
  | .text _, _, read => nomatch read

theorem distinct_childrenIn? (surplus : Surplus) : ∀ (entries : List (String × Tree))
    {children : List Procedure},
    childrenIn? surplus entries = some children → DistinctAll children
  | [], children, read => by
    cases read
    trivial
  | (key, tree) :: rest, children, read => by
    unfold childrenIn? at read
    split at read
    · exact distinct_listOf? surplus tree read
    · exact distinct_childrenIn? surplus rest read

theorem distinct_childrenAt? (surplus : Surplus) : ∀ (skipped : Nat) (items : List Tree)
    {children : List Procedure},
    childrenAt? surplus skipped items = some children → DistinctAll children
  | _, [], children, read => by
    cases read
    trivial
  | 0, tree :: rest, children, read => distinct_listOf? surplus tree read
  | skipped + 1, tree :: rest, children, read => distinct_childrenAt? surplus skipped rest read

theorem distinct_listOf? (surplus : Surplus) : ∀ (tree : Tree) {procedures : List Procedure},
    listOf? surplus tree = some procedures → DistinctAll procedures
  | .list items, _, read => distinct_allOf? surplus items read
  | .table _, _, read => nomatch read
  | .null, _, read => nomatch read
  | .boolean _, _, read => nomatch read
  | .integer _, _, read => nomatch read
  | .float _, _, read => nomatch read
  | .text _, _, read => nomatch read

theorem distinct_allOf? (surplus : Surplus) : ∀ (items : List Tree) {procedures : List Procedure},
    allOf? surplus items = some procedures → DistinctAll procedures
  | [], procedures, read => by
    cases read
    trivial
  | tree :: rest, procedures, read => by
    simp only [allOf?, Option.bind_eq_bind, Option.bind_eq_some_iff, Option.some.injEq] at read
    obtain ⟨first, one, others, more, rfl⟩ := read
    exact ⟨distinct_ofTree? surplus tree one, distinct_allOf? surplus rest more⟩

end

theorem distinct_list? {surplus : Surplus} {part : Option Tree} {procedures : List Procedure}
    (read : list? surplus part = some procedures) : DistinctAll procedures := by
  cases part with
  | none =>
    cases read
    trivial
  | some tree => exact distinct_listOf? surplus tree read

end Procedure

/-- In a definition that is read from a document no procedure assigns to one field twice. -/
theorem Definition.distinct_ofTree? {surplus : Surplus} {tree : Tree} {definition : Definition}
    (read : ofTree? surplus tree = some definition) : DistinctAll definition.procedures := by
  simp only [ofTree?, Option.bind_eq_bind, Option.bind_eq_some_iff] at read
  obtain ⟨parts, -, read⟩ := read
  unfold ofParts? at read
  split at read
  · simp only [Option.bind_eq_bind, Option.bind_eq_some_iff, Option.some.injEq] at read
    obtain ⟨_, -, _, -, _, -, _, -, _, -, procedures, listed, rfl⟩ := read
    exact Procedure.distinct_list? listed
  · cases read

variable {σ : Type}

/-- Two scrapes asked the same, and came to the same, but for the order in which they warn. -/
structure Observation.SameButOrder (x y : Observation σ) : Prop where
  answer : x.answer.map Report.unordered = y.answer.map Report.unordered
  record : x.record = y.record
  events : x.events = y.events
  outside : x.outside = y.outside

/-- What is seen of scraping the items of a location. -/
structure ItemsObservation (σ : Type) where
  answer : Except EngineError (List ScrapedItem)
  /-- What was asked of the outside, in order. -/
  events : List Event
  /-- What the outside became. -/
  outside : σ

structure ItemsObservation.SameButOrder (x y : ItemsObservation σ) : Prop where
  answer : x.answer.map (List.map ScrapedItem.unordered) =
    y.answer.map (List.map ScrapedItem.unordered)
  events : x.events = y.events
  outside : x.outside = y.outside

namespace Scraper

/-- Scrapes the items of a location when the outside is in the state `w`. -/
def observeEach (s : Scraper (Logged σ)) (options : ScrapeOptions) (location : String)
    (create : Captures → Record) (w : σ) : ItemsObservation σ :=
  let ran := ((s.seenEach options location create).run []).run w
  ⟨ran.1.1, ran.1.2, ran.2⟩

variable {s : Scraper (Logged σ)} {procedures : List Procedure}
  (rearranged : RearrangedAll s.definition.procedures procedures)
  (distinct : DistinctAll s.definition.procedures) (held : SourceCache) (options : ScrapeOptions)

include rearranged distinct

theorem observe_rearranged (record : Record) (w : σ) :
    (s.observe options record w).SameButOrder
      ((s.withProcedures procedures held).observe options record w) := by
  have ran := ((seen_rearranged rearranged distinct held options record).run []).run w
  obtain ⟨seen, outside⟩ := Prod.mk.inj ran
  obtain ⟨seen, events⟩ := Prod.mk.inj seen
  obtain ⟨answer, record⟩ := Prod.mk.inj seen
  exact ⟨answer, record, events, outside⟩

theorem observeEach_rearranged (location : String) (create : Captures → Record) (w : σ) :
    (s.observeEach options location create w).SameButOrder
      ((s.withProcedures procedures held).observeEach options location create w) := by
  have ran := ((seenEach_rearranged rearranged distinct held options location create).run []).run w
  obtain ⟨seen, outside⟩ := Prod.mk.inj ran
  obtain ⟨answer, events⟩ := Prod.mk.inj seen
  exact ⟨answer, events, outside⟩

end Scraper

/-- Assignments to different fields may be written in any order. The assignments of a document are
to different fields. And where all procedures of a definition have assignments to different fields,
these may be in any order, at every procedure: such a definition is as good as the other, and with
any reader and any operator each scrape asks the same and comes to the same, but for the order in
which it warns. -/
theorem Assignment.order_immaterial :
    (∀ (policy : WritePolicy) (captures : Captures) (assignments assignments' : List Assignment),
      (assignments.map field).Nodup → assignments.Perm assignments' → ∀ record,
        (applyAll policy captures assignments record).1 =
            (applyAll policy captures assignments' record).1 ∧
          (applyAll policy captures assignments record).2.Perm
            (applyAll policy captures assignments' record).2) ∧
    (∀ (surplus : Surplus) (tree : Tree),
      (∀ procedure, Procedure.ofTree? surplus tree = some procedure → procedure.Distinct) ∧
      ∀ definition, Definition.ofTree? surplus tree = some definition →
        DistinctAll definition.procedures) ∧
    ∀ (definition : Definition) (procedures : List Procedure), DistinctAll definition.procedures →
      RearrangedAll definition.procedures procedures →
      ∀ (σ : Type) (reader : Reader (StateM σ)) (prompter : Option (Prompter (StateM σ)))
        (types : String → Option Details) (held held' : SourceCache),
        let prepared := (Scraper.logging definition reader prompter).prepare types
        let prepared' := (Scraper.logging { definition with procedures } reader prompter).prepare
          types
        let s := { prepared.2 with cache := held }
        let t := { prepared'.2 with cache := held' }
        prepared'.1.isOk = prepared.1.isOk ∧
        (∀ options record w,
          (s.observe options record w).SameButOrder (t.observe options record w)) ∧
        ∀ options location create w, (s.observeEach options location create w).SameButOrder
          (t.observeEach options location create w) := by
  refine ⟨fun policy captures assignments assignments' distinct perm record => ?_, ?_, ?_⟩
  · exact applyAll_perm policy captures perm distinct record
  · exact fun surplus tree => ⟨fun procedure => Procedure.distinct_ofTree? surplus tree,
      fun definition => Definition.distinct_ofTree?⟩
  · intro definition procedures distinct rearranged σ reader prompter types held held' prepared
      prepared' s t
    have same : s.definition = definition := congrArg Scraper.definition
      ((Scraper.logging definition reader prompter).prepare_scraper types)
    obtain ⟨accepted, after⟩ := Scraper.prepare_rearranged
      (s := Scraper.logging definition reader prompter) rearranged {} types
    have beside : t = s.withProcedures procedures held' :=
      congrArg (fun scraper => { scraper with cache := held' }) after
    rw [← same] at rearranged distinct
    rw [beside]
    exact ⟨accepted, Scraper.observe_rearranged rearranged distinct held',
      Scraper.observeEach_rearranged rearranged distinct held'⟩

/-- The tracks of an album, as a document has them: in key order. -/
def keyedTracks : List Assignment :=
  [⟨.icon, .string "$1.png"⟩, ⟨.name, .string "$1"⟩, ⟨.detail "tracks", .string "$1"⟩]

/-- The same assignments in the order of a definition that was not read from a document. -/
def builtTracks : List Assignment :=
  [⟨.detail "tracks", .string "$1"⟩, ⟨.icon, .string "$1.png"⟩, ⟨.name, .string "$1"⟩]

/-- The rule for the tracks of an album. -/
def trackProcedure (assignments : List Assignment) : Procedure :=
  .node "$0.txt" "Track: ([a-z]+)" true false false assignments []

/-- Albums with their tracks, as a document. -/
def trackDocument : Tree :=
  .table [("name", .text "albums"), ("type", .text "album"), ("filename", .text "[a-z]+"),
    ("procedures", .list [.table [("source", .text "$0.txt"),
      ("searchFor", .text "Track: ([a-z]+)"), ("repeat", .boolean true),
      ("set", .table [("name", .text "$1"), ("tracks", .text "$1"), ("icon", .text "$1.png")])]])]

/-- Albums that are read from a document and those with the assignments in another order are
scraped alike. -/
theorem Assignment.order_immaterial_albums :
    let definition := { albums with procedures := [trackProcedure keyedTracks] }
    let built := { albums with procedures := [trackProcedure builtTracks] }
    let prepared := (Scraper.logging definition World.reader none).prepare albumTypes
    let prepared' := (Scraper.logging built World.reader none).prepare albumTypes
    let s := { prepared.2 with cache := {} }
    let t := { prepared'.2 with cache := {} }
    let x := s.observe {} { location := "one" } shelf
    let y := t.observe {} { location := "one" } shelf
    let record : Record := { location := "one" }
    let matched : Captures := ⟨[some "Track: dawn", some "dawn"]⟩
    Definition.ofTree? .ignored trackDocument = some definition ∧
    DistinctAll definition.procedures ∧
    RearrangedAll definition.procedures built.procedures ∧
    (keyedTracks.map field).Nodup ∧ keyedTracks.Perm builtTracks ∧
    (applyAll ⟨false, none⟩ matched keyedTracks record).1 =
      (applyAll ⟨false, none⟩ matched builtTracks record).1 ∧
    prepared.1.isOk = true ∧ prepared'.1.isOk = prepared.1.isOk ∧ x.SameButOrder y ∧
    y.record.name = some "dusk" ∧ y.reads = ["one.txt"] := by
  intro definition built prepared prepared' s t x y record matched
  have read : Definition.ofTree? .ignored trackDocument = some definition := rfl
  have perm : keyedTracks.Perm builtTracks := (List.perm_append_comm :
    (keyedTracks.take 2 ++ keyedTracks.drop 2).Perm _)
  obtain ⟨written, documents, scrapes⟩ := order_immaterial
  have distinct : DistinctAll definition.procedures := (documents .ignored trackDocument).2 _ read
  have rearranged : RearrangedAll definition.procedures built.procedures :=
    .cons (.node _ _ _ _ _ perm .nil) .nil
  have fields : (keyedTracks.map field).Nodup := distinct.1.1
  obtain ⟨records, -⟩ := written ⟨false, none⟩ matched keyedTracks builtTracks fields perm record
  obtain ⟨accepted, single, -⟩ := scrapes definition built.procedures distinct rearranged World
    World.reader none albumTypes {} {}
  have ready : prepared.1.isOk = true := by decide +kernel
  have filled : y.record.name = some "dusk" ∧ y.reads = ["one.txt"] := by decide +kernel
  exact ⟨read, distinct, rearranged, fields, perm, records, ready, accepted,
    single {} { location := "one" } shelf, filled⟩

end Gleaner
