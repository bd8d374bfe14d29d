import Gleaner.Proofs.ByteOrder
import Gleaner.Proofs.Layering

set_option autoImplicit false

/-!
The layers that settings are loaded from: files and environment variables. Main statement:
`Settings.load_layered`; where a layer gives no table for the settings of the web it covers those
below, see `Settings.load_covered`.
-/
namespace Gleaner

namespace Files

variable (files : Files)

/-- The document in a file, if it can be read and is well-formed. -/
def content? (format : DocumentFormat) (path : String) : Option Tree :=
  match files.read path with
  | .ok bytes => (Text.decode? bytes).bind (Document.parse? format)
  | .error _ => none

/-- What a file gives to the settings: nothing, if there is no such file. -/
def layer? (format : DocumentFormat) (path : String) : Option Tree :=
  if files.isFile path then files.content? format path else some (.table [])

/-- What the files in the directory of settings give, if there is such a directory. -/
def directoryLayers? : Option String → Option (List Tree)
  | some directory =>
      Settings.fileNames.mapM fun file => files.layer? file.1 (Path.join directory file.2)
  | none => some []

/-- What the file gives that the user names; it has to be there. -/
def namedLayer? : Option String → Option Tree
  | none => some (.table [])
  | some path =>
      if files.isFile path then
        (DocumentFormat.ofPath? path).bind fun format => files.content? format path
      else none

/-- The layers of the settings above the standard ones, the first of them at the bottom: the files
in the directory of settings, the file that the user names, and the environment. -/
def layers? (environment : Environment) (explicit : Option String) : Option (List Tree) := do
  let found ← files.directoryLayers? environment.settingsDirectory?
  let named ← files.namedLayer? explicit
  some (found ++ [named, environment.settings])

variable {files} {listing : String → Option (List Path.Name)}

theorem isFile_store (path : String) :
    (files.store listing : FileStore Id).isFile path = pure (files.isFile path) := rfl

theorem content?_store (format : DocumentFormat) (path : String) :
    Document.content? (files.store listing : FileStore Id) format path =
      pure (files.content? format path) := by
  have read : (files.store listing : FileStore Id).read path = pure (files.read path) := rfl
  unfold Document.content? content?
  rw [read]
  cases files.read path <;> rfl

theorem ofFile?_store (format : DocumentFormat) (path : String) :
    Settings.ofFile? (files.store listing : FileStore Id) format path =
      pure (files.layer? format path) := by
  unfold Settings.ofFile? layer?
  rw [isFile_store, content?_store, pure_bind]
  cases files.isFile path <;> rfl

theorem ofDirectory?_store (directory : String) (names : List (DocumentFormat × String)) :
    Settings.ofDirectory? (files.store listing : FileStore Id) directory names =
      pure (names.mapM fun file => files.layer? file.1 (Path.join directory file.2)) := by
  induction names with
  | nil => rfl
  | cons file rest ih =>
    obtain ⟨format, name⟩ := file
    rw [Settings.ofDirectory?, ofFile?_store, ih, List.mapM_cons]
    rfl

/-- A file that the user names is a layer, if it can be one at all. -/
theorem ofExplicit?_store {explicit : Option String} {named : Option Tree}
    (given : (Settings.ofExplicit? (files.store listing : FileStore Id) explicit).run = .ok named) :
    named = files.namedLayer? explicit := by
  cases explicit with
  | none =>
    cases given
    rfl
  | some path =>
    simp only [Settings.ofExplicit?, Settings.formatOf, isFile_store, content?_store,
      pure_bind] at given
    unfold namedLayer?
    cases there : files.isFile path with
    | false =>
      rw [there] at given
      cases given
    | true =>
      rw [there] at given
      cases known : DocumentFormat.ofPath? path with
      | none =>
        rw [known] at given
        cases given
      | some format =>
        rw [known] at given
        cases given
        simp only [there, ↓reduceIte, known, Option.bind_some]

end Files

namespace Settings

variable {files : Files} {listing : String → Option (List Path.Name)} {environment : Environment}
  {explicit : Option String}

/-- Settings that are gathered are read from the layers. -/
theorem gather_store {s : Settings}
    (done : (gather (files.store listing : FileStore Id) environment explicit).run = .ok s) :
    ∃ layers, files.layers? environment explicit = some layers ∧
      ofTree? .ignored (standard environment.settingsDirectory?) (Tree.mergeAll layers) =
        some s := by
  unfold gather at done
  unfold Files.layers?
  generalize environment.settingsDirectory? = directory at done ⊢
  cases outcome : (ofExplicit? (files.store listing : FileStore Id) explicit).run with
  | error e =>
    cases directory <;>
      simp only [Files.ofDirectory?_store, pure_bind, Id.run_bind, outcome] at done <;> cases done
  | ok named =>
    have read : (do
        let found ← files.directoryLayers? directory
        let named ← named
        ofTree? .ignored (standard directory)
          (Tree.mergeAll (found ++ [named, environment.settings]))) = some s := by
      cases directory <;>
      · simp only [Files.ofDirectory?_store, pure_bind, Id.run_bind, outcome] at done
        split at done
        · next read =>
          cases done
          exact read
        · cases done
    simp only [Option.bind_eq_bind, Option.bind_eq_some_iff] at read
    obtain ⟨found, directoryLayers, named, given, read⟩ := read
    refine ⟨found ++ [named, environment.settings], ?_, read⟩
    rw [directoryLayers, ← Files.ofExplicit?_store outcome, given]
    rfl

theorem checkDirectories_store {settings : List (String × String)}
    (valid : (checkDirectories (files.store listing : FileStore Id) settings).run = .ok ()) :
    ∀ setting ∈ settings, files.isDirectory setting.2 = true := by
  induction settings with
  | nil => exact List.forall_mem_nil _
  | cons setting rest ih =>
    obtain ⟨key, path⟩ := setting
    have asked : (files.store listing : FileStore Id).isDirectory path =
      pure (files.isDirectory path) := rfl
    simp only [checkDirectories, checkDirectory, asked, pure_bind] at valid
    cases there : files.isDirectory path with
    | false =>
      rw [there] at valid
      cases valid
    | true =>
      rw [there] at valid
      exact List.forall_mem_cons.2 ⟨there, ih valid⟩

theorem validate_store {s : Settings}
    (valid : (validate (files.store listing : FileStore Id) s).run = .ok ()) :
    0 < s.web.timeoutSeconds ∧ ∀ setting ∈ s.directories, files.isDirectory setting.2 = true := by
  unfold validate at valid
  split at valid
  · cases valid
  · next positive => exact ⟨Nat.pos_of_ne_zero positive, checkDirectories_store valid⟩

end Settings

theorem Document.isTable_of_parse? {format : DocumentFormat} {text : String} {tree : Tree}
    (read : parse? format text = some tree) : tree.isTable = true := by
  obtain ⟨whole, -, kept⟩ := Option.bind_eq_some_iff.1 read
  split at kept
  · cases kept
    rfl
  · cases kept

theorem Tree.isTable_mergeAll {layers : List Tree}
    (tables : ∀ layer ∈ layers, layer.isTable = true) :
    (mergeAll layers).isTable = true :=
  List.foldlRecOn (motive := (isTable · = true)) layers _ rfl fun below _ layer mem =>
    (isTable_merge below layer).trans (tables layer mem)

namespace Environment

theorem ne_nil_of_settingPath? {name : String} {path : List String}
    (set : settingPath? name = some path) : path ≠ [] := by
  simp only [settingPath?, Option.ite_none_right_eq_some, Option.ite_none_left_eq_some,
    Option.some.injEq] at set
  obtain ⟨-, -, rfl⟩ := set
  exact fun empty => Text.splitChars_ne_nil _ (List.map_eq_nil_iff.1 empty)

/-- What the variables set is a table. -/
theorem isTable_settings (environment : Environment) : environment.settings.isTable = true := by
  refine Tree.isTable_mergeAll fun layer mem => ?_
  obtain ⟨entry, -, set⟩ := List.mem_filterMap.1 mem
  obtain ⟨path, found, rfl⟩ := Option.map_eq_some_iff.1 set
  cases path with
  | nil => exact absurd rfl (ne_nil_of_settingPath? found)
  | cons key keys => rfl

end Environment

namespace Files

open Assurance

variable {files : Files}

/-- A layer of settings: a table with its entries in key order, as are all tables in it. -/
def IsLayer (tree : Tree) : Prop := tree.Orderly ∧ tree.isTable = true

theorem isLayer_of_content? {format : DocumentFormat} {path : String} {tree : Tree}
    (read : files.content? format path = some tree) : IsLayer tree := by
  unfold content? at read
  split at read
  · obtain ⟨text, -, read⟩ := Option.bind_eq_some_iff.1 read
    exact ⟨Document.parse?_orderly read, Document.isTable_of_parse? read⟩
  · cases read

theorem isLayer_empty : IsLayer (.table []) := ⟨.empty, rfl⟩

theorem isLayer_of_layer? {format : DocumentFormat} {path : String} {tree : Tree}
    (read : files.layer? format path = some tree) : IsLayer tree := by
  unfold layer? at read
  split at read
  · exact isLayer_of_content? read
  · cases read
    exact isLayer_empty

theorem isLayer_of_directoryLayers? {directory : Option String} {layers : List Tree}
    (read : files.directoryLayers? directory = some layers) :
    ∀ layer ∈ layers, IsLayer layer := by
  cases directory with
  | none =>
    cases read
    exact List.forall_mem_nil _
  | some directory =>
    have each : whereDone.Ensures (Settings.fileNames.mapM fun file =>
        files.layer? file.1 (Path.join directory file.2)) fun layers =>
          ∀ layer ∈ layers, IsLayer layer :=
      ensures_mapM fun file _ tree => isLayer_of_layer?
    exact each layers read

theorem isLayer_of_namedLayer? {explicit : Option String} {tree : Tree}
    (read : files.namedLayer? explicit = some tree) : IsLayer tree := by
  unfold namedLayer? at read
  split at read
  · cases read
    exact isLayer_empty
  · obtain ⟨-, read⟩ := Option.ite_none_right_eq_some.1 read
    obtain ⟨format, -, read⟩ := Option.bind_eq_some_iff.1 read
    exact isLayer_of_content? read

theorem isLayer_of_layers? {environment : Environment} {explicit : Option String}
    {layers : List Tree} (read : files.layers? environment explicit = some layers) :
    ∀ layer ∈ layers, IsLayer layer := by
  simp only [layers?, Option.bind_eq_bind, Option.bind_eq_some_iff, Option.some.injEq] at read
  obtain ⟨found, inside, named, given, rfl⟩ := read
  have last : IsLayer environment.settings :=
    ⟨environment.settings_orderly, environment.isTable_settings⟩
  exact List.forall_mem_append.2 ⟨isLayer_of_directoryLayers? inside, List.forall_mem_cons.2
    ⟨isLayer_of_namedLayer? given, List.forall_mem_singleton.2 last⟩⟩

end Files

/-- Settings that are loaded come from the layers: each is as the last layer has it that gives it,
or as the standard settings have it. Of the settings of the web this is so among the layers in force
there: a layer that gives `http` as a table leaves the tables below it in force, and one that gives
anything else leaves none of the layers below it, so that the standard settings stand in for them.
The timeout is positive, and the directories are there. -/
theorem Settings.load_layered {files : Files} {listing : String → Option (List Path.Name)}
    {environment : Environment} {explicit : Option String} {s : Settings}
    (loaded : (load (files.store listing : FileStore Id) environment explicit).run = .ok s) :
    (∃ layers, files.layers? environment explicit = some layers ∧
      Layered (standard environment.settingsDirectory?) layers s) ∧
    0 < s.web.timeoutSeconds ∧ files.isDirectory s.scrapers = true ∧
    files.isDirectory s.types = true ∧
    ∀ root, s.root = some root → files.isDirectory root = true := by
  unfold load at loaded
  cases found : (gather (files.store listing : FileStore Id) environment explicit).run with
  | error e =>
    simp only [Id.run_bind, found] at loaded
    cases loaded
  | ok gathered =>
    simp only [Id.run_bind, found] at loaded
    cases valid : (gathered.validate (files.store listing : FileStore Id)).run with
    | error e =>
      rw [valid] at loaded
      cases loaded
    | ok done =>
      rw [valid] at loaded
      cases loaded
      obtain ⟨layers, given, read⟩ := gather_store found
      obtain ⟨positive, there⟩ := validate_store valid
      have each := Files.isLayer_of_layers? given
      have layered := layered_of_mergeAll (fun layer mem => (each layer mem).1)
        (fun layer mem => (each layer mem).2) read
      refine ⟨⟨layers, given, layered⟩, positive, ?_, ?_, fun root set => ?_⟩
      · exact there ("scrapers", s.scrapers) List.mem_cons_self
      · exact there ("types", s.types) (List.mem_cons_of_mem _ List.mem_cons_self)
      · refine there ("root", root) (List.mem_append_right _ ?_)
        rw [set]
        exact List.mem_singleton_self _

/-- Files with settings, among them one with the given text. -/
def settingFiles (own : String) : Files where
  read path :=
    if path = "/home/.config/sift/config.toml" then
      .ok (Text.bytes "ask_user = true\n[http]\ntimeout_seconds = 5\n")
    else if path = "own.json" then .ok (Text.bytes own)
    else .error .missing
  isFile path := path = "/home/.config/sift/config.toml" ∨ path = "own.json"
  isDirectory path :=
    path = "/home/.config/sift/scrapers" ∨ path = "/home/.config/sift/types"

/-- An environment in which the web is not to be used. -/
def offline : Environment where
  entries := [("HOME", "/home"), ("SIFT_HTTP__ENABLED", "false")]

theorem eq_ok_of_toOption {ε α : Type} {outcome : Except ε α} {a : α}
    (found : outcome.toOption = some a) : outcome = .ok a := by
  cases outcome with
  | error e => cases found
  | ok b => rw [Option.some.inj found]

/-- Three layers with tables of settings of the web, each of which gives one of them. -/
theorem Settings.load_layered_offline :
    let files := settingFiles "\x7b\"http\": \x7b\"user_agent\": \"own\"\x7d\x7d"
    let s : Settings :=
      { scrapers := "/home/.config/sift/scrapers", types := "/home/.config/sift/types",
        askUser := true, web := ⟨false, 5, "own"⟩ }
    (load (files.store fun _ => none : FileStore Id) offline (some "own.json")).run = .ok s ∧
    (∃ layers, files.layers? offline (some "own.json") = some layers ∧
      Layered (standard offline.settingsDirectory?) layers s) ∧ 0 < s.web.timeoutSeconds := by
  intro files s
  have same : ((load (files.store fun _ => none : FileStore Id) offline
      (some "own.json")).run.toOption) = some s := by decide +kernel
  have loaded : (load (files.store fun _ => none : FileStore Id) offline
      (some "own.json")).run = .ok s := eq_ok_of_toOption same
  obtain ⟨layered, positive, -⟩ := load_layered loaded
  exact ⟨loaded, layered, positive⟩

/-- A file in which `http` is null covers the timeout of the file below it: the last layer that
gives a timeout gives five seconds, and yet it is thirty. -/
theorem Settings.load_covered :
    let files := settingFiles "\x7b\"http\": null\x7d"
    ∃ layers s, files.layers? offline (some "own.json") = some layers ∧
      (load (files.store fun _ => none : FileStore Id) offline (some "own.json")).run = .ok s ∧
      (((layers.filterMap (·.get? "http")).filterMap (·.get? "timeout_seconds")).getLast? =
        some (.integer 5)) ∧
      s.web.toTree.get? "timeout_seconds" = some (.integer 30) := by
  intro files
  have given : ((files.layers? offline (some "own.json")).bind fun layers =>
      ((layers.filterMap (·.get? "http")).filterMap (·.get? "timeout_seconds")).getLast?.bind
        count?) = some 5 := by decide +kernel
  have loaded : (load (files.store fun _ => none : FileStore Id) offline
      (some "own.json")).run.toOption.map (·.web.timeoutSeconds) = some 30 := by decide +kernel
  obtain ⟨layers, layered, last⟩ := Option.bind_eq_some_iff.1 given
  obtain ⟨tree, found, five⟩ := Option.bind_eq_some_iff.1 last
  obtain ⟨s, loaded, thirty⟩ := Option.map_eq_some_iff.1 loaded
  have tree_eq := eq_of_count? tree 5 five
  subst tree_eq
  refine ⟨layers, s, layered, eq_ok_of_toOption loaded, found, ?_⟩
  rw [WebSettings.toTree, thirty]
  rfl

end Gleaner
