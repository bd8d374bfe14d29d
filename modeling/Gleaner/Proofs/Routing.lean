import Gleaner.Files.Tree
import Gleaner.Source.Local

set_option autoImplicit false

/-!
Which reader a reference goes to. The scheme alone decides, in any case of its letters and whatever
characters follow it, and the scheme of a local reference makes no difference to what is read. Main
statement: `Reference.routed`.
-/
namespace Gleaner

namespace Reference

/-- The text begins with the scheme, in any case of its letters. -/
def Begins (scheme : String) (text : List Char) : Prop :=
  ∃ first rest, text = first ++ rest ∧ first.map Char.toLower = scheme.toList

/-- Only ASCII characters have an ASCII character in lower case. -/
theorem utf8Size_of_toLower {c : Char} (ascii : c.toLower.val ≤ 0x7f) : c.utf8Size = 1 := by
  refine if_pos ?_
  unfold Char.toLower at ascii
  split at ascii
  · next upper => exact UInt32.le_trans upper.2 (by decide)
  · exact ascii

theorem byteLength_of_toLower {first : List Char}
    (ascii : ∀ c ∈ first.map Char.toLower, c.val ≤ 0x7f) :
    Text.byteLength first = first.length := by
  induction first with
  | nil => rfl
  | cons c cs ih =>
    obtain ⟨here, others⟩ := List.forall_mem_cons.1 ascii
    rw [Text.byteLength_cons, utf8Size_of_toLower here, ih others, List.length_cons, Nat.add_comm]

theorem takeBytes?_isPrefix {n : Nat} {text start : List Char}
    (taken : takeBytes? n text = some start) : start <+: text := by
  induction text generalizing n start with
  | nil =>
    cases n with
    | zero => cases taken; exact List.nil_prefix
    | succ n => cases taken
  | cons c cs ih =>
    cases n with
    | zero => cases taken; exact List.nil_prefix
    | succ n =>
      obtain ⟨-, more⟩ := Option.ite_none_right_eq_some.1 taken
      obtain ⟨rest, later, rfl⟩ := Option.map_eq_some_iff.1 more
      exact List.cons_prefix_cons.2 ⟨rfl, ih later⟩

/-- What has no more bytes than are taken is taken whole. -/
theorem isPrefix_takeBytes? {n : Nat} {first rest start : List Char}
    (fits : Text.byteLength first ≤ n) (taken : takeBytes? n (first ++ rest) = some start) :
    first <+: start := by
  induction first generalizing n start with
  | nil => exact List.nil_prefix
  | cons c cs ih =>
    have positive := c.utf8Size_pos
    rw [Text.byteLength_cons] at fits
    cases n with
    | zero => omega
    | succ n =>
      obtain ⟨-, more⟩ := Option.ite_none_right_eq_some.1 taken
      obtain ⟨others, later, rfl⟩ := Option.map_eq_some_iff.1 more
      exact List.cons_prefix_cons.2 ⟨rfl, ih (by omega) later⟩

theorem head_isPrefix (reference : String) : (head reference).toList <+: reference.toList := by
  unfold head
  split
  · next start taken =>
    rw [String.toList_ofList]
    exact takeBytes?_isPrefix taken
  · exact List.prefix_rfl

/-- A scheme of eight bytes at most shows in the head of a reference just if the reference begins
with it. Where the head does not end with a character it is all of the reference. -/
theorem startsWith_head_iff {scheme : String}
    (ascii : scheme.toList.all (·.val ≤ 0x7f) = true) (short : scheme.toList.length ≤ 8)
    (reference : String) :
    Text.startsWith scheme (Text.lowerAscii (head reference)) = true ↔
      Begins scheme reference.toList := by
  rw [Text.startsWith, List.isPrefixOf_iff_prefix, Text.lowerAscii, String.toList_ofList,
    List.prefix_map_iff]
  constructor
  · rintro ⟨first, within, same⟩
    obtain ⟨rest, whole⟩ := within.trans (head_isPrefix reference)
    exact ⟨first, rest, whole.symm, same.symm⟩
  · rintro ⟨first, rest, whole, same⟩
    refine ⟨first, ?_, same.symm⟩
    have length : first.length = scheme.toList.length := by rw [← same, List.length_map]
    have lower : ∀ c ∈ first.map Char.toLower, c.val ≤ 0x7f := fun c mem =>
      of_decide_eq_true (List.all_eq_true.1 ascii c (same ▸ mem))
    have bytes := byteLength_of_toLower lower
    unfold head
    split
    · next start taken =>
      rw [whole] at taken
      rw [String.toList_ofList]
      exact isPrefix_takeBytes? (by omega) taken
    · exact ⟨rest, whole.symm⟩

theorem isRemote_iff (reference : String) :
    isRemote reference = true ↔
      Begins "http://" reference.toList ∨ Begins "https://" reference.toList := by
  have http : "http://".toList.all (·.val ≤ 0x7f) = true := by decide
  have https : "https://".toList.all (·.val ≤ 0x7f) = true := by decide
  rw [isRemote, Bool.or_eq_true, startsWith_head_iff http (by decide),
    startsWith_head_iff https (by decide)]

/-- A reference with the scheme of local references is none to the web. -/
theorem isRemote_schemed (reference : String) : isRemote (localScheme ++ reference) = false := by
  refine Bool.eq_false_iff.2 fun remote => ?_
  have other (scheme : String) (letter : scheme.toList.head? = some 'h') :
      ¬Begins scheme (localScheme ++ reference).toList := by
    rintro ⟨first, rest, whole, same⟩
    rw [String.toList_append] at whole
    cases first with
    | nil =>
      rw [← same] at letter
      cases letter
    | cons c cs =>
      have initial : 'f' = c := List.head_eq_of_cons_eq whole
      rw [← same, ← initial] at letter
      exact absurd (Option.some.inj letter) (by decide)
  rcases (isRemote_iff _).1 remote with begins | begins
  · exact other "http://" (by decide) begins
  · exact other "https://" (by decide) begins

theorem ofText_schemed {reference : String} (near : isRemote reference = false)
    (bare : Text.startsWith localScheme reference = false) :
    ofText (localScheme ++ reference) = ofText reference := by
  have schemed : Text.startsWith localScheme (localScheme ++ reference) = true := by
    rw [Text.startsWith, String.toList_append]
    exact List.isPrefixOf_iff_prefix.2 (List.prefix_append _ _)
  have dropped : Text.withoutStart localScheme (localScheme ++ reference) = reference := by
    rw [Text.withoutStart, if_pos schemed, String.toList_append, List.drop_left,
      String.ofList_toList]
  have kept : Text.withoutStart localScheme reference = reference := by
    rw [Text.withoutStart, bare, if_neg Bool.false_ne_true]
  rw [ofText, ofText, isRemote_schemed, near, dropped, kept]
  rfl

end Reference

namespace Reader

open Reference (isRemote Begins localScheme)

variable {m : Type → Type} [Monad m]

/-- What becomes of a file that a reference leads to. -/
def settle (reference path : String) :
    Except FileFault (List UInt8) → Except SourceError String
  | .ok content => textOf path content
  | .error fault => .error (faultOf reference fault)

theorem settle_supported (reference path : String) (found : Except FileFault (List UInt8)) :
    ∀ e, settle reference path found = .error e → e.kind ≠ .unsupported := by
  intro e failed
  cases found with
  | ok content =>
    simp only [settle, textOf] at failed
    split at failed
    · cases failed
    · cases failed
      exact nofun
  | error fault =>
    cases failed
    cases fault <;> exact nofun

/-- The reference shows in what an error is about, and nowhere else. -/
theorem mapError_settle (reference reference' path : String) :
    Except.mapError SourceError.kind ∘ settle reference path =
      Except.mapError SourceError.kind ∘ settle reference' path := by
  funext found
  cases found with
  | ok content => rfl
  | error fault => cases fault <;> rfl

/-- A local reference is read from one file, which its path and the root name. -/
theorem read_files [LawfulMonad m] (store : FileStore m) (root : Option String)
    {reference : String} (near : isRemote reference = false) :
    ∃ path, (Reference.ofText reference).path? root = some path ∧
      (files store root).read reference = settle reference path <$> store.read path := by
  have named : ∃ path, (Reference.ofText reference).path? root = some path := by
    rw [Reference.ofText, near]
    cases root with
    | none => exact ⟨_, rfl⟩
    | some root => exact ⟨_, rfl⟩
  obtain ⟨path, named⟩ := named
  refine ⟨path, named, ?_⟩
  simp only [files, named, map_eq_pure_bind]
  refine bind_congr fun found => ?_
  cases found with
  | ok content => rfl
  | error fault => rfl

theorem dispatch_near (store : FileStore m) (root : Option String) (remote : Option (Reader m))
    {reference : String} (near : isRemote reference = false) :
    (dispatch (files store root) remote).read reference = (files store root).read reference := by
  simp only [dispatch, near, Bool.false_eq_true, ↓reduceIte]

/-- Where a reference goes and what becomes of it, with or without a root. -/
structure Routes (store : FileStore m) (root : Option String) (reference : String) : Prop where
  scheme : isRemote reference = true ↔
    Begins "http://" reference.toList ∨ Begins "https://" reference.toList
  fetched : isRemote reference = true → ∀ remote : Reader m,
    (dispatch (files store root) (some remote)).read reference = remote.read reference
  refused : isRemote reference = true →
    (dispatch (files store root) none).read reference = pure (.error ⟨.unsupported, reference⟩)
  near : isRemote reference = false → ∀ remote : Option (Reader m),
    (dispatch (files store root) remote).read reference = (files store root).read reference
  supported : isRemote reference = false → ∃ path settle,
    (files store root).read reference = settle <$> store.read path ∧
      ∀ found e, settle found = .error e → e.kind ≠ .unsupported
  schemed : isRemote reference = false → Text.startsWith "file://" reference = false →
    ∀ remote : Option (Reader m),
      Except.mapError SourceError.kind <$>
          (dispatch (files store root) remote).read ("file://" ++ reference) =
        Except.mapError SourceError.kind <$>
          (dispatch (files store root) remote).read reference

end Reader

namespace Reference

open Reader

variable {m : Type → Type} [Monad m]

theorem routed [LawfulMonad m] (store : FileStore m) (root : Option String) (reference : String) :
    Routes store root reference where
  scheme := isRemote_iff reference
  fetched remote reader := by simp only [dispatch, remote, ↓reduceIte]
  refused remote := by simp only [dispatch, remote, ↓reduceIte]
  near apart remote := dispatch_near store root remote apart
  supported apart := by
    obtain ⟨path, -, read⟩ := read_files store root apart
    exact ⟨path, _, read, settle_supported reference path⟩
  schemed apart bare remote := by
    obtain ⟨path, named, read⟩ := read_files store root apart
    obtain ⟨path', named', read'⟩ := read_files store root (isRemote_schemed reference)
    rw [ofText_schemed apart bare, named] at named'
    cases named'
    have same := dispatch_near store root remote (isRemote_schemed reference)
    rw [localScheme] at same read'
    rw [dispatch_near store root remote apart, read, same, read', ← comp_map, ← comp_map,
      mapError_settle]

/-- A file of albums in a directory. -/
def albumShelf : FileTree :=
  (FileTree.empty "/media").write "albums.nfo" [0x41, 0x6c, 0x62, 0x75, 0x6d, 0x73]

theorem routed_albums :
    isRemote "HTTPS://albums.example" = true ∧ isRemote "albums.nfo" = false ∧
      Text.startsWith "file://" "albums.nfo" = false ∧
      Routes (m := Id) albumShelf.store (some "/media") "albums.nfo" ∧
      Routes (m := Id) albumShelf.store none "HTTPS://albums.example" :=
  ⟨by decide, by decide, by decide, routed _ _ _, routed _ _ _⟩

end Reference

end Gleaner
