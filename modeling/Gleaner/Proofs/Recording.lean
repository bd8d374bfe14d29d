import Gleaner.Proofs.Caching
import Gleaner.Proofs.Calls
import Mathlib.Data.List.Dedup
import Mathlib.Data.Finset.Card

set_option autoImplicit false

/-!
Exchanges with the outside, each with what came of it. A cache that is used for one item mirrors the
reads that were made for it: it holds the texts of those that succeeded, and nothing else.
-/
namespace Gleaner

/-- What was asked of the outside, and what came of it. -/
inductive Exchange where
  | read (reference : String) (found : Except SourceError String)
  | asked (request : PromptRequest) (answer : Option (List Captures))

namespace Exchange

/-- The reference of a read. -/
def reference? : Exchange → Option String
  | .read reference _ => some reference
  | .asked _ _ => none

/-- The reference of a read that succeeded. -/
def obtained? : Exchange → Option String
  | .read reference (.ok _) => some reference
  | _ => none

/-- The references that were read, in order. -/
def reads (exchanges : List Exchange) : List String :=
  exchanges.filterMap reference?

/-- The references that were read with success, in order. -/
def obtained (exchanges : List Exchange) : List String :=
  exchanges.filterMap obtained?

theorem mem_obtained_iff {exchanges : List Exchange} {reference : String} :
    reference ∈ obtained exchanges ↔ ∃ text, .read reference (.ok text) ∈ exchanges := by
  constructor
  · intro mem
    obtain ⟨exchange, here, same⟩ := List.mem_filterMap.1 mem
    cases exchange with
    | asked request answer => cases same
    | read other found =>
      cases found with
      | error e => cases same
      | ok text =>
        cases same
        exact ⟨text, here⟩
  · rintro ⟨text, mem⟩
    exact List.mem_filterMap.2 ⟨_, mem, rfl⟩

@[simp] theorem reads_nil : reads [] = [] := rfl

@[simp] theorem reads_append (first second : List Exchange) :
    reads (first ++ second) = reads first ++ reads second :=
  List.filterMap_append

end Exchange

variable {σ : Type}

/-- Programs with an outside in a state of its own, beside a log of the exchanges with it. -/
abbrev Recorded (σ : Type) := StateM (List Exchange × σ)

/-- Logs each read with what came of it. -/
def Reader.recorded (reader : Reader (StateM σ)) : Reader (Recorded σ) where
  name := reader.name
  read reference s :=
    let ran := (reader.read reference).run s.2
    (ran.1, s.1 ++ [.read reference ran.1], ran.2)

/-- Logs each request with its answer. -/
def Prompter.recorded (prompter : Prompter (StateM σ)) : Prompter (Recorded σ) where
  choose request s :=
    let ran := (prompter.choose request).run s.2
    (ran.1, s.1 ++ [.asked request ran.1], ran.2)

/-- Runs a program with a log of its own, which is returned beside the result. -/
def apart {α : Type} (x : Recorded σ α) : Recorded σ (α × List Exchange) := fun s =>
  let ran := x.run ([], s.2)
  ((ran.1, ran.2.1), s.1 ++ ran.2.1, ran.2.2)

/-- Logs grow at the end, so that an own log is the part of the whole that was added. -/
theorem run_apart_of_run {α : Type} {x : Recorded σ α} {a : α} {own : List Exchange} {w w' : σ}
    (ran : ∀ log, x.run (log, w) = (a, log ++ own, w')) (log : List Exchange) :
    (apart x).run (log, w) = ((a, own), log ++ own, w') := by
  have alone := ran []
  rw [List.nil_append] at alone
  simp only [apart, StateT.run] at alone ⊢
  rw [alone]

namespace Scraper

/-- A scraper that logs its exchanges, and is not prepared yet. -/
def recording (definition : Definition) (reader : Reader (StateM σ))
    (prompter : Option (Prompter (StateM σ))) : Scraper (Recorded σ) where
  definition
  reader := reader.recorded
  prompter := prompter.map Prompter.recorded

end Scraper

namespace SourceCache

/-- The cache holds the texts of the reads that succeeded, and patterns as they compile. -/
structure Mirrors (cache : SourceCache) (since : List Exchange) : Prop where
  contents : ∀ reference text, cache.contents.find? reference = some text ↔
    .read reference (.ok text) ∈ since
  compiled : cache.Compiled

variable {cache : SourceCache} {since : List Exchange}

theorem empty_mirrors : empty.Mirrors [] where
  contents _ _ := iff_of_false nofun List.not_mem_nil
  compiled := empty_compiled

theorem Mirrors.isCached_iff (mirrors : cache.Mirrors since) (reference : String) :
    cache.isCached reference = true ↔ ∃ text, .read reference (.ok text) ∈ since := by
  simp only [isCached, Dict.contains, Option.isSome_iff_exists, mirrors.contents]

/-- As many sources are held as different references were read with success. -/
theorem Mirrors.size_eq (mirrors : cache.Mirrors since) :
    cache.size = (Exchange.obtained since).toFinset.card := by
  have same : cache.contents.keys.toFinset = (Exchange.obtained since).toFinset := by
    ext reference
    have held := mirrors.isCached_iff reference
    rw [← Exchange.mem_obtained_iff] at held
    rw [List.mem_toFinset, List.mem_toFinset, ← held]
    exact (cache.contents.contains_iff_mem_keys reference).symm
  rw [← same, List.toFinset_card_of_nodup cache.contents.keys_nodup]
  exact (List.length_map _).symm

/-- What is read when nothing is held is held from then on, if reading it succeeded. -/
theorem Mirrors.read (mirrors : cache.Mirrors since) {reference : String}
    (missing : cache.contents.find? reference = none) (found : Except SourceError String) :
    Mirrors (match found with
      | .ok text => { cache with contents := cache.contents.insert reference text }
      | .error _ => cache) (since ++ [.read reference found]) := by
  cases found with
  | error e =>
    refine ⟨fun other text => ?_, mirrors.compiled⟩
    rw [mirrors.contents]
    simp
  | ok new =>
    refine ⟨fun other text => ?_, mirrors.compiled⟩
    rw [Dict.find?_insert]
    by_cases same : reference = other
    · subst same
      have before : Exchange.read reference (.ok text) ∉ since := by
        rw [← mirrors.contents, missing]
        exact nofun
      simp [before, eq_comm]
    · have other_ne : other ≠ reference := Ne.symm same
      rw [if_neg same, mirrors.contents]
      simp [other_ne]

theorem Mirrors.pattern (mirrors : cache.Mirrors since) (text : String) :
    (cache.pattern text).2.Mirrors since where
  contents := by simpa only [pattern_contents] using mirrors.contents
  compiled := mirrors.compiled.pattern_snd text

variable (reader : Reader (StateM σ))

theorem run_resolve_of_held {reference text : String}
    (held : cache.contents.find? reference = some text) (s : List Exchange × σ) :
    (cache.resolve reader.recorded reference).run s = ((.ok text, cache), s) := by
  simp only [resolve, held]
  rfl

theorem run_resolve_of_missing {reference : String}
    (missing : cache.contents.find? reference = none) (log : List Exchange) (w : σ) :
    let found := (reader.read reference).run w
    (cache.resolve reader.recorded reference).run (log, w) =
      ((found.1, match found.1 with
        | .ok text => { cache with contents := cache.contents.insert reference text }
        | .error _ => cache), log ++ [.read reference found.1], found.2) := by
  intro found
  have read : (reader.recorded.read reference).run (log, w) =
      (found.1, log ++ [.read reference found.1], found.2) := rfl
  simp only [resolve, missing]
  rw [StateT.run_bind, read]
  cases found.1 <;> rfl

end SourceCache

/-- Started with a cache that mirrors what was exchanged before, a program comes to a result with
new exchanges such as `P` says, and with a cache that mirrors them all. -/
def Tells {α : Type} (x : StateT SourceCache (Recorded σ) α)
    (P : List Exchange → α → List Exchange → Prop) : Prop :=
  ∀ cache since w, SourceCache.Mirrors cache since → ∃ a cache' new w',
    (∀ log, (x.run cache).run (log, w) = ((a, cache'), log ++ new, w')) ∧
      SourceCache.Mirrors cache' (since ++ new) ∧ P since a new

namespace Tells

variable {α β : Type} {x : StateT SourceCache (Recorded σ) α}
  {f : α → StateT SourceCache (Recorded σ) β} {P : List Exchange → α → List Exchange → Prop}
  {Q : List Exchange → β → List Exchange → Prop}

theorem pure {a : α} (holds : ∀ since, P since a []) :
    Tells (Pure.pure a : StateT SourceCache (Recorded σ) α) P := by
  intro cache since w mirrors
  refine ⟨a, cache, [], w, fun log => ?_, ?_, holds since⟩
  · rw [List.append_nil]
    rfl
  · rwa [List.append_nil]

theorem bind {R : α → List Exchange → β → List Exchange → Prop} (first : Tells x P)
    (next : ∀ a, Tells (f a) (R a))
    (both : ∀ since a new b more, P since a new → R a (since ++ new) b more →
      Q since b (new ++ more)) :
    Tells (x >>= f) Q := by
  intro cache since w mirrors
  obtain ⟨a, cache₁, new, w₁, ran, mirrors₁, holds⟩ := first cache since w mirrors
  obtain ⟨b, cache₂, more, w₂, ran₂, mirrors₂, holds₂⟩ := next a cache₁ (since ++ new) w₁ mirrors₁
  refine ⟨b, cache₂, new ++ more, w₂, fun log => ?_, ?_, both since a new b more holds holds₂⟩
  · rw [StateT.run_bind, StateT.run_bind, ran, ← List.append_assoc]
    exact ran₂ (log ++ new)
  · rwa [← List.append_assoc]

/-- What comes next may be told from what came before. -/
theorem seq (first : Tells x P)
    (next : ∀ a, Tells (f a) fun so b more => ∀ since new, so = since ++ new → P since a new →
      Q since b (new ++ more)) :
    Tells (x >>= f) Q :=
  first.bind next fun since _ new _ _ holds both => both since new rfl holds

theorem mono (tells : Tells x P) {P' : List Exchange → α → List Exchange → Prop}
    (weaker : ∀ since a new, P since a new → P' since a new) : Tells x P' := by
  intro cache since w mirrors
  obtain ⟨a, cache', new, w', ran, mirrors', holds⟩ := tells cache since w mirrors
  exact ⟨a, cache', new, w', ran, mirrors', weaker since a new holds⟩

end Tells

section Access

variable (reader : Reader (StateM σ)) (prompter : Prompter (StateM σ))

/-- A text comes from a read that succeeded, now or before; there is at most one read now. -/
theorem tells_resolve (reference : String) :
    Tells (fun cache => cache.resolve reader.recorded reference) fun since found new =>
      (∀ text, found = .ok text → .read reference (.ok text) ∈ since ++ new) ∧
        (Exchange.reads new).length ≤ 1 := by
  intro cache since w mirrors
  cases held : cache.contents.find? reference with
  | some text =>
    have before := (mirrors.contents reference text).1 held
    refine ⟨.ok text, cache, [], w, fun log => ?_, ?_, ?_, Nat.zero_le 1⟩
    · rw [List.append_nil]
      exact SourceCache.run_resolve_of_held reader held (log, w)
    · rwa [List.append_nil]
    · rintro text' same
      cases same
      exact List.mem_append_left _ before
  | none =>
    have ran := SourceCache.run_resolve_of_missing reader held
    refine ⟨_, _, _, _, fun log => ran log w, mirrors.read held _, ?_, Nat.le_refl 1⟩
    intro text found
    rw [found]
    exact List.mem_append_right _ (List.mem_singleton.2 rfl)

theorem tells_compile (text : String) :
    Tells (fun cache => (pure (cache.pattern text) : Recorded σ (Option Regex × SourceCache)))
      fun _ compiled new => compiled = Regex.compile? text ∧ new = [] := by
  intro cache since w mirrors
  refine ⟨(cache.pattern text).1, (cache.pattern text).2, [], w, fun log => ?_, ?_,
    mirrors.compiled.pattern_fst text, rfl⟩
  · rw [List.append_nil]
    rfl
  · rw [List.append_nil]
    exact mirrors.pattern text

theorem tells_choose (request : PromptRequest) :
    Tells (StateT.lift (prompter.recorded.choose request)) fun _ answer new =>
      new = [.asked request answer] := by
  intro cache since w mirrors
  let answered := (prompter.choose request).run w
  refine ⟨answered.1, cache, [.asked request answered.1], answered.2, fun log => rfl, ?_, rfl⟩
  refine ⟨fun reference text => ?_, mirrors.compiled⟩
  rw [mirrors.contents]
  simp

end Access

/-- Texts come from reads that succeeded, patterns are compiled, and answers are those of an
operator who was asked. -/
structure Access.Told (access : Access (StateT SourceCache (Recorded σ))) : Prop where
  resolve : ∀ reference, Tells (access.resolve reference) fun since found new =>
    (∀ text, found = .ok text → .read reference (.ok text) ∈ since ++ new) ∧
      (Exchange.reads new).length ≤ 1
  compile : ∀ text, Tells (access.compile text) fun _ compiled new =>
    compiled = Regex.compile? text ∧ new = []
  prompter : ∀ prompter, access.prompter = some prompter →
    ∀ request, Tells (prompter.choose request) fun _ answer new =>
      new = [.asked request answer]

namespace Scraper

/-- The scraper logs its exchanges. -/
structure Records (s : Scraper (Recorded σ)) : Prop where
  reader : ∃ reader : Reader (StateM σ), s.reader = reader.recorded
  prompter : ∃ prompter : Option (Prompter (StateM σ)), s.prompter = prompter.map Prompter.recorded

variable {s : Scraper (Recorded σ)}

theorem Records.with_cache (records : s.Records) (preparation : Preparation)
    (cache : SourceCache) : Records { s with preparation, cache } :=
  ⟨records.reader, records.prompter⟩

theorem Records.told (records : s.Records) (options : ScrapeOptions) :
    (s.access options).Told where
  resolve reference := by
    obtain ⟨reader, same⟩ := records.reader
    have told := tells_resolve reader reference
    rw [← same] at told
    exact told
  compile text := tells_compile text
  prompter prompter there request := by
    obtain ⟨recorded, same⟩ := records.prompter
    obtain ⟨plain, given, rfl⟩ := Option.map_eq_some_iff.1 there
    obtain ⟨-, asked⟩ := Option.ite_none_right_eq_some.1 given
    rw [same] at asked
    obtain ⟨operator, -, rfl⟩ := Option.map_eq_some_iff.1 asked
    exact tells_choose operator request

end Scraper

end Gleaner
