import Gleaner.Proofs.Calls
import Gleaner.Proofs.Correspondence
import Gleaner.Proofs.Observation

set_option autoImplicit false

/-!
An operator who leaves the choice to the procedure, or who makes that very choice himself, is not
missed: scraping comes to the same with him and without him, whatever the outside does.
-/
namespace Gleaner

namespace PromptRequest

/-- What is chosen when nobody is asked. -/
def default (r : PromptRequest) : List Captures :=
  Procedure.keep r.repeated r.candidates

/-- The operator declines, or chooses what is chosen without him. -/
def Neutral (r : PromptRequest) (answer : Option (List Captures)) : Prop :=
  answer = none ∨ answer = some r.default

end PromptRequest

namespace Procedure

theorem keep_keep (repeats : Bool) (candidates : List Captures) :
    keep repeats (keep repeats candidates) = keep repeats candidates := by
  cases repeats with
  | true => rfl
  | false => cases candidates <;> rfl

theorem head?_keep (repeats : Bool) (candidates : List Captures) :
    (keep repeats candidates).head? = candidates.head? := by
  cases repeats with
  | true => rfl
  | false => cases candidates <;> rfl

/-- The first match is the first of all matches. -/
theorem keep_all (repeats : Bool) (regex : Regex) (text : String) :
    (if repeats then regex.all text else (regex.first? text).toList) =
      keep repeats (regex.all text) := by
  cases repeats with
  | true => rfl
  | false => simp [keep, ← Regex.head?_all, List.take_one]

theorem select_unasked {m : Type → Type} [Monad m] {access : Access m} {askUser : Bool}
    (unasked : (if askUser then access.prompter else none) = none) (repeats : Bool)
    (reference pattern : String) (regex : Regex) (text : String) :
    select access repeats askUser reference pattern regex text =
      pure (keep repeats (regex.all text)) := by
  simp only [select, unasked, keep_all]

end Procedure

namespace PromptRequest.Neutral

variable {r : PromptRequest} {answer : Option (List Captures)}

theorem keep_getD (neutral : r.Neutral answer) :
    Procedure.keep r.repeated (answer.getD r.candidates) = r.default := by
  rcases neutral with rfl | rfl
  · rfl
  · exact Procedure.keep_keep _ _

theorem head?_getD (neutral : r.Neutral answer) :
    (answer.getD r.candidates).head? = r.candidates.head? := by
  rcases neutral with rfl | rfl
  · rfl
  · exact Procedure.head?_keep _ _

end PromptRequest.Neutral

variable {m n : Type → Type} [Monad m] [Monad n]

/-- A neutral operator is related to one who is not there. -/
def Correspondence.Neutral (c : Correspondence m n) (prompter : Prompter m) : Prop :=
  ∀ request : PromptRequest, ∃ answer, request.Neutral answer ∧
    c.Related (prompter.choose request) (pure answer)

namespace Correspondence.Neutral

variable [LawfulMonad n] {c : Correspondence m n} {prompter : Prompter m}

theorem lift (neutral : c.Neutral prompter) (state : Type) :
    (c.stateT state).Neutral ⟨fun request => StateT.lift (prompter.choose request)⟩ := by
  intro request
  obtain ⟨answer, changesNothing, related⟩ := neutral request
  refine ⟨answer, changesNothing, fun s => ?_⟩
  have lifted := c.related_bind related fun answer => c.related_pure (answer, s)
  rwa [pure_bind] at lifted

theorem chooseAmong (neutral : c.Neutral prompter) (access : Access m) (repeats : Bool)
    (reference pattern : String) (candidates : List Captures) :
    c.Related (Procedure.chooseAmong access prompter repeats reference pattern candidates)
      (pure (Procedure.keep repeats candidates)) := by
  unfold Procedure.chooseAmong
  split
  · cases repeats <;> exact c.related_pure _
  · obtain ⟨answer, changesNothing, related⟩ :=
      neutral ⟨access.scraper, reference, pattern, candidates, repeats⟩
    have chosen := c.related_bind related fun answer =>
      c.related_pure (Procedure.keep repeats (answer.getD candidates))
    rw [pure_bind, changesNothing.keep_getD] at chosen
    exact chosen

/-- What is selected when a neutral operator may be asked is what is selected without one. -/
theorem select {a : Access m} {b : Access n}
    (neutral : ∀ prompter, a.prompter = some prompter → c.Neutral prompter)
    (nobody : b.prompter = none) (repeats askUser : Bool) (reference pattern : String)
    (regex : Regex) (text : String) :
    c.Related (Procedure.select a repeats askUser reference pattern regex text)
      (Procedure.select b repeats askUser reference pattern regex text) := by
  have silent : (if askUser then b.prompter else none) = none := by
    rw [nobody]
    cases askUser <;> rfl
  rw [Procedure.select_unasked silent]
  cases asked : (if askUser then a.prompter else none) with
  | none =>
    rw [Procedure.select_unasked asked]
    exact c.related_pure _
  | some prompter =>
    have there : a.prompter = some prompter :=
      (Option.ite_none_right_eq_some.1 asked).2
    simp only [Procedure.select, asked]
    exact (neutral prompter there).chooseAmong _ _ _ _ _

/-- The choice of a seed that an operator is asked for is the first candidate after all. -/
theorem head? (neutral : c.Neutral prompter) (request : PromptRequest) :
    c.Related (prompter.choose request >>= fun answer =>
        pure (answer.getD request.candidates).head?)
      (pure request.candidates.head?) := by
  obtain ⟨answer, changesNothing, related⟩ := neutral request
  have chosen := c.related_bind related fun answer =>
    c.related_pure (answer.getD request.candidates).head?
  rwa [pure_bind, changesNothing.head?_getD] at chosen

end Correspondence.Neutral

namespace ScrapeOptions

def asking (options : ScrapeOptions) : ScrapeOptions := { options with askUser := true }

def silent (options : ScrapeOptions) : ScrapeOptions := { options with askUser := false }

end ScrapeOptions

namespace Scraper

/-- A scraper whose reads are related to themselves, and whose operator is neutral. -/
structure Neutral (c : Correspondence m m) (s : Scraper m) : Prop where
  read : ∀ reference, c.Related (s.reader.read reference) (s.reader.read reference)
  prompter : ∀ prompter, s.prompter = some prompter → c.Neutral prompter

/-- Who is asked in a scrape is the operator of the scraper. -/
theorem access_prompter {s : Scraper m} {options : ScrapeOptions}
    {prompter : Prompter (StateT SourceCache m)}
    (there : (s.access options).prompter = some prompter) :
    options.askUser = true ∧ ∃ plain, s.prompter = some plain ∧
      prompter = ⟨fun request => StateT.lift (plain.choose request)⟩ := by
  obtain ⟨plain, found, rfl⟩ := Option.map_eq_some_iff.1 there
  obtain ⟨asks, present⟩ := Option.ite_none_right_eq_some.1 found
  exact ⟨asks, plain, present, rfl⟩

namespace Neutral

variable [LawfulMonad m] {c : Correspondence m m} {s : Scraper m}

theorem access (neutral : s.Neutral c) (options : ScrapeOptions) :
    (c.stateT SourceCache).Concur (s.access options.asking) (s.access options.silent) where
  resolve reference cache := Correspondence.resolve_related neutral.read cache reference
  compile text cache := c.related_pure _
  select := by
    refine Correspondence.Neutral.select (fun prompter there => ?_) rfl
    obtain ⟨-, plain, present, rfl⟩ := access_prompter there
    exact (neutral.prompter plain present).lift SourceCache

theorem chooseSeed (neutral : s.Neutral c) (options : ScrapeOptions) (location : String)
    (candidates : List Captures) :
    c.Related (s.chooseSeed options.asking location candidates)
      (s.chooseSeed options.silent location candidates) := by
  have silent : s.chooseSeed options.silent location candidates = pure candidates.head? := by
    simp [Scraper.chooseSeed, ScrapeOptions.silent]
  rw [silent]
  unfold Scraper.chooseSeed
  split
  · exact c.related_pure _
  · next prompter asked =>
    have there : s.prompter = some prompter :=
      (Option.ite_none_right_eq_some.1 asked).2
    exact (neutral.prompter prompter there).head?
      ⟨s.definition.name, location, s.definition.fileName, candidates, false⟩

theorem execute (neutral : s.Neutral c) (options : ScrapeOptions) (seed : Captures)
    (record : Record) {α : Type} {f g : ScrapedItem × Scraper m → m α}
    (next : ∀ item cache, c.Related (f (item, { s with cache })) (g (item, { s with cache }))) :
    c.Related (s.execute options.asking seed record >>= f)
      (s.execute options.silent seed record >>= g) := by
  have walks := (neutral.access options).walkAll seed s.definition.procedures {}
  simp only [Scraper.execute, bind_assoc, pure_bind]
  -- How an item is written does not depend on asking, so that equal walks give equal items.
  exact c.related_bind walks fun walked => next _ walked.2

/-- What is seen of an item is related, whether a neutral operator is asked or not. -/
theorem seen (neutral : s.Neutral c) (options : ScrapeOptions) (record : Record) :
    c.Related (s.seen options.asking record) (s.seen options.silent record) := by
  unfold Scraper.seen
  cases found : s.ready with
  | error e =>
    rw [scrape_of_error found, scrape_of_error found, pure_bind]
    exact c.related_pure _
  | ok prepared =>
    rw [scrape_of_ready found, scrape_of_ready found, bind_assoc, bind_assoc]
    refine c.related_bind (neutral.chooseSeed options _ _) fun seed => ?_
    cases seed with
    | none =>
      simp only [scrapeSeeded, pure_bind]
      exact c.related_pure _
    | some seed =>
      simp only [scrapeSeeded, bind_assoc, pure_bind]
      exact neutral.execute options seed _ fun item cache => c.related_pure _

end Neutral

/-- Where nobody is asked, it does not matter who is there. -/
theorem seen_silent [LawfulMonad m] (s : Scraper m) (prompter : Option (Prompter m))
    (options : ScrapeOptions) (record : Record) :
    seen { s with prompter } options.silent record = s.seen options.silent record := by
  have silent : ∀ location candidates,
      chooseSeed { s with prompter } options.silent location candidates =
        s.chooseSeed options.silent location candidates := by
    intro location candidates
    simp [Scraper.chooseSeed, ScrapeOptions.silent]
  unfold seen
  cases found : s.ready with
  | error e =>
    have refused : ready { s with prompter } = .error e := found
    rw [scrape_of_error found, scrape_of_error refused, pure_bind, pure_bind]
  | ok prepared =>
    have prepared' : ready { s with prompter } = .ok prepared := found
    rw [scrape_of_ready found, scrape_of_ready prepared', silent, bind_assoc, bind_assoc]
    refine bind_congr fun seed => ?_
    cases seed with
    | none => simp only [scrapeSeeded, pure_bind]
    | some seed =>
      have access : Scraper.access { s with prompter } options.silent =
          s.access options.silent := rfl
      simp only [scrapeSeeded, Scraper.execute, bind_assoc, pure_bind, access]

end Scraper

variable {σ L : Type}

theorem run_run_bind {α β : Type} (x : StateT L (StateM σ) α) (f : α → StateT L (StateM σ) β)
    (l : L) (w : σ) :
    ((x >>= f).run l).run w =
      ((f ((x.run l).run w).1.1).run ((x.run l).run w).1.2).run ((x.run l).run w).2 := rfl

/-- Two programs come to the same after the same events, and leave the outside alike; each logs
the events in its own way. -/
def LogsApart (log log' : L → Event → L) {α : Type} (x y : StateT L (StateM σ) α) : Prop :=
  ∀ w, ∃ (a : α) (events : List Event) (w' : σ),
    (∀ l, (x.run l).run w = ((a, events.foldl log l), w')) ∧
      ∀ l, (y.run l).run w = ((a, events.foldl log' l), w')

namespace LogsApart

variable {log log' : L → Event → L} {α β : Type}

theorem pure (a : α) : LogsApart log log' (Pure.pure a) (Pure.pure a : StateT L (StateM σ) α) :=
  fun w => ⟨a, [], w, fun _ => rfl, fun _ => rfl⟩

theorem bind {x y : StateT L (StateM σ) α} {f g : α → StateT L (StateM σ) β}
    (first : LogsApart log log' x y) (next : ∀ a, LogsApart log log' (f a) (g a)) :
    LogsApart log log' (x >>= f) (y >>= g) := by
  intro w
  obtain ⟨a, events, w₁, runX, runY⟩ := first w
  obtain ⟨b, more, w₂, runF, runG⟩ := next a w₁
  refine ⟨b, events ++ more, w₂, fun l => ?_, fun l => ?_⟩
  · rw [run_run_bind, runX, List.foldl_append]
    exact runF _
  · rw [run_run_bind, runY, List.foldl_append]
    exact runG _

end LogsApart

def loggingApart (log log' : L → Event → L) :
    Correspondence (StateT L (StateM σ)) (StateT L (StateM σ)) where
  Related := LogsApart log log'
  related_pure := LogsApart.pure
  related_bind := LogsApart.bind

namespace Event

def log (events : List Event) (event : Event) : List Event := events ++ [event]

/-- Requests are not logged. -/
def logRead (events : List Event) : Event → List Event
  | .read reference => events ++ [.read reference]
  | .asked _ => events

theorem foldl_log (events before : List Event) : events.foldl log before = before ++ events := by
  induction events generalizing before with
  | nil => rw [List.foldl_nil, List.append_nil]
  | cons event rest ih =>
    rw [List.foldl_cons, ih, log, List.append_assoc, List.singleton_append]

theorem reads_foldl_logRead (events before : List Event) :
    reads (events.foldl logRead before) = reads before ++ reads events := by
  induction events generalizing before with
  | nil => rw [List.foldl_nil, reads_nil, List.append_nil]
  | cons event rest ih =>
    rw [List.foldl_cons, ih]
    cases event with
    | read reference => simp [logRead, reads, reference?]
    | asked request => rfl

theorem requests_foldl_logRead (events before : List Event) :
    requests (events.foldl logRead before) = requests before := by
  induction events generalizing before with
  | nil => rfl
  | cons event rest ih =>
    rw [List.foldl_cons, ih]
    cases event with
    | read reference => simp [logRead]
    | asked request => rfl

end Event

/-- An operator who answers by a rule. -/
def Prompter.answering (answers : PromptRequest → Option (List Captures)) :
    Prompter (StateM σ) where
  choose request := pure (answers request)

/-- Nothing is seen of two scrapes that tells one from the other, requests aside. -/
structure Observation.SameSeen (x y : Observation σ) : Prop where
  answer : x.answer = y.answer
  record : x.record = y.record
  reads : x.reads = y.reads
  outside : x.outside = y.outside

namespace Scraper

variable {s : Scraper (Logged σ)}

theorem neutral_logged {reader : Reader (StateM σ)} (reads : s.reader = reader.logged)
    (neutral : ∀ prompter, s.prompter = some prompter →
      (loggingApart Event.log Event.logRead).Neutral prompter) :
    s.Neutral (loggingApart Event.log Event.logRead) where
  read reference := by
    rw [reads]
    exact fun w => ⟨_, [.read reference], _, fun _ => rfl, fun _ => rfl⟩
  prompter := neutral

theorem Neutral.observe (neutral : s.Neutral (loggingApart Event.log Event.logRead))
    (options : ScrapeOptions) (record : Record) (w : σ) :
    (s.observe options.asking record w).SameSeen (s.observe options.silent record w) ∧
      (s.observe options.silent record w).requests = [] := by
  obtain ⟨seen, events, w', asked, silent⟩ := neutral.seen options record w
  have withRequests := asked []
  have withReads := silent []
  rw [Event.foldl_log] at withRequests
  simp only [Scraper.observe, withRequests, withReads]
  refine ⟨⟨rfl, rfl, ?_, rfl⟩, Event.requests_foldl_logRead events []⟩
  exact (Event.reads_foldl_logRead events []).symm

/-- With no asking there are no requests, whoever is there. -/
theorem observe_silent {reader : Reader (StateM σ)} (reads : s.reader = reader.logged)
    (options : ScrapeOptions) (record : Record) (w : σ) :
    (s.observe options.silent record w).requests = [] ∧
      ∀ prompter, Scraper.observe { s with prompter } options.silent record w =
        s.observe options.silent record w := by
  have same : ∀ prompter, Scraper.observe { s with prompter } options.silent record w =
      s.observe options.silent record w := by
    intro prompter
    simp only [Scraper.observe, s.seen_silent prompter options record]
  have nobody : Scraper.Neutral (loggingApart Event.log Event.logRead)
      { s with prompter := none } := neutral_logged reads fun _ none => nomatch none
  exact ⟨same none ▸ (nobody.observe options record w).2, same⟩

end Scraper

end Gleaner
