import Gleaner.Dict

set_option autoImplicit false

/-!
What is found in a dictionary after an entry was put into it or taken out of it; and that what is
found is all there is to a dictionary.
-/
namespace Gleaner

variable {α : Type}

namespace Entries

@[simp] theorem find?_nil (key : String) : find? key ([] : List (String × α)) = none := rfl

theorem find?_cons (key : String) (e : String × α) (entries : List (String × α)) :
    find? key (e :: entries) = if e.1 = key then some e.2 else find? key entries := by
  by_cases same : e.1 = key
  · simp [find?, same]
  · simp [find?, same]

theorem find?_insert (other key : String) (value : α) (entries : List (String × α)) :
    find? other (insert key value entries) =
      if key = other then some value else find? other entries := by
  induction entries with
  | nil => simp only [insert, find?_cons, find?_nil]
  | cons head tail ih =>
    simp only [insert]
    split
    · rw [find?_cons]
    · split
      · next same =>
        rw [find?_cons, find?_cons, ← same]
        split <;> rfl
      · next apart =>
        rw [find?_cons, find?_cons, ih]
        by_cases here : head.1 = other
        · have apart : key ≠ other := fun same => apart (same.trans here.symm)
          simp only [here, ↓reduceIte, apart]
        · simp only [here, ↓reduceIte]

theorem find?_eq_none_of_lt {key : String} {entries : List (String × α)}
    (below : ∀ e ∈ entries, key < e.1) : find? key entries = none := by
  rw [find?, Option.map_eq_none_iff, List.find?_eq_none]
  intro e mem same
  have less := below e mem
  rw [eq_of_beq same] at less
  exact String.lt_irrefl key less

/-- Of two lists in which the same is found neither starts before the other. -/
theorem not_lt_of_find?_eq {key other : String} {value value' : α}
    {tail tail' : List (String × α)} (sorted : Sorted ((other, value') :: tail'))
    (same : ∀ k, find? k ((key, value) :: tail) = find? k ((other, value') :: tail')) :
    ¬ key < other := by
  intro before
  have found := same key
  rw [find?_cons, if_pos rfl, find?_eq_none_of_lt] at found
  · cases found
  · intro e mem
    rcases List.mem_cons.1 mem with rfl | mem
    · exact before
    · exact String.lt_trans before ((List.pairwise_cons.1 sorted).1 e mem)

theorem eq_of_find?_eq {entries entries' : List (String × α)} (sorted : Sorted entries)
    (sorted' : Sorted entries') (same : ∀ key, find? key entries = find? key entries') :
    entries = entries' := by
  induction entries generalizing entries' with
  | nil =>
    cases entries' with
    | nil => rfl
    | cons e tail =>
      have found := same e.1
      rw [find?_cons, if_pos rfl] at found
      cases found
  | cons e tail ih =>
    cases entries' with
    | nil =>
      have found := same e.1
      rw [find?_cons, if_pos rfl] at found
      cases found
    | cons e' tail' =>
      have keys : e.1 = e'.1 := String.le_antisymm
        (String.not_lt.1 (not_lt_of_find?_eq sorted fun k => (same k).symm))
        (String.not_lt.1 (not_lt_of_find?_eq sorted' same))
      have values : e.2 = e'.2 := by
        have found := same e.1
        rwa [find?_cons, find?_cons, if_pos rfl, if_pos keys.symm, Option.some.injEq] at found
      have tails : ∀ key, find? key tail = find? key tail' := by
        intro key
        by_cases here : e.1 = key
        · rw [find?_eq_none_of_lt (here ▸ (List.pairwise_cons.1 sorted).1),
            find?_eq_none_of_lt (here ▸ keys ▸ (List.pairwise_cons.1 sorted').1)]
        · have found := same key
          rwa [find?_cons, find?_cons, if_neg here, if_neg (keys ▸ here)] at found
      rw [Prod.ext keys values,
        ih (List.pairwise_cons.1 sorted).2 (List.pairwise_cons.1 sorted').2 tails]

/-- What is found under a key is the entry that has it. -/
theorem find?_eq_some_iff {entries : List (String × α)} (sorted : Sorted entries) (key : String)
    (value : α) : find? key entries = some value ↔ (key, value) ∈ entries := by
  induction entries with
  | nil => exact iff_of_false nofun List.not_mem_nil
  | cons head tail ih =>
    obtain ⟨first, sorted⟩ := List.pairwise_cons.1 sorted
    rw [find?_cons, List.mem_cons]
    by_cases here : head.1 = key
    · rw [if_pos here]
      constructor
      · intro found
        exact .inl (Prod.ext here.symm (Option.some.inj found).symm)
      · rintro (same | mem)
        · rw [← same]
        · exact absurd (here ▸ first (key, value) mem) (String.lt_irrefl key)
    · rw [if_neg here, ih sorted]
      refine ⟨.inr, fun found => found.resolve_left fun same => ?_⟩
      exact here (congrArg Prod.fst same).symm

end Entries

namespace Dict

theorem find?_insert (d : Dict α) (other key : String) (value : α) :
    (d.insert key value).find? other = if key = other then some value else d.find? other :=
  Entries.find?_insert other key value d.entries

@[simp] theorem find?_insert_self (d : Dict α) (key : String) (value : α) :
    (d.insert key value).find? key = some value := by
  rw [find?_insert, if_pos rfl]

theorem find?_insert_of_ne (d : Dict α) {other key : String} (value : α) (apart : key ≠ other) :
    (d.insert key value).find? other = d.find? other := by
  rw [find?_insert, if_neg apart]

/-- An entry with a new key takes nothing from the others. -/
theorem find?_insert_of_missing {d : Dict α} {key : String} (missing : d.contains key = false)
    (value : α) (other : String) :
    (d.insert key value).find? other =
      (d.find? other).or (if key = other then some value else none) := by
  rw [find?_insert]
  by_cases same : key = other
  · rw [contains, Option.isSome_eq_false_iff, Option.isNone_iff_eq_none] at missing
    rw [if_pos same, if_pos same, ← same, missing, Option.none_or]
  · rw [if_neg same, if_neg same, Option.or_none]

theorem ext_find? {d d' : Dict α} (same : ∀ key, d.find? key = d'.find? key) : d = d' := by
  cases d with
  | mk entries sorted =>
    cases d' with
    | mk entries' sorted' =>
      cases Entries.eq_of_find?_eq sorted sorted' same
      rfl

theorem find?_eq_some_iff (d : Dict α) (key : String) (value : α) :
    d.find? key = some value ↔ (key, value) ∈ d.entries :=
  Entries.find?_eq_some_iff d.sorted key value

theorem find?_erase (d : Dict α) (other key : String) :
    (d.erase key).find? other = if key = other then none else d.find? other := by
  refine Option.ext fun value => ?_
  rw [find?_eq_some_iff, erase, List.mem_filter, bne_iff_ne]
  by_cases same : key = other
  · rw [if_pos same]
    exact iff_of_false (fun kept => kept.2 same.symm) nofun
  · rw [if_neg same, find?_eq_some_iff]
    exact and_iff_left fun back => same back.symm

theorem contains_insert (d : Dict α) (other key : String) (value : α) :
    (d.insert key value).contains other = (key == other || d.contains other) := by
  by_cases same : key = other
  · simp [contains, same]
  · simp [contains, find?_insert, same]

theorem contains_iff_mem_keys (d : Dict α) (key : String) :
    d.contains key = true ↔ key ∈ d.keys := by
  rw [contains, Option.isSome_iff_exists, keys, List.mem_map]
  constructor
  · rintro ⟨value, found⟩
    exact ⟨(key, value), (d.find?_eq_some_iff key value).1 found, rfl⟩
  · rintro ⟨e, mem, rfl⟩
    exact ⟨e.2, (d.find?_eq_some_iff e.1 e.2).2 mem⟩

theorem keys_sorted (d : Dict α) : d.keys.Pairwise (· < ·) :=
  List.pairwise_map.2 d.sorted

theorem keys_nodup (d : Dict α) : d.keys.Nodup := by
  refine d.keys_sorted.imp ?_
  rintro key other less rfl
  exact String.lt_irrefl key less

end Dict

end Gleaner
