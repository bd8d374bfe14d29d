set_option autoImplicit false

/-!
Dictionaries with text keys, kept in key order. Keys compare by code point, which is the order of
their UTF-8 bytes.
-/
namespace Gleaner

namespace Entries

variable {α : Type}

/-- Puts an entry at its place in key order; an entry with that key is replaced. -/
def insert (key : String) (value : α) : List (String × α) → List (String × α)
  | [] => [(key, value)]
  | e :: es =>
      if key < e.1 then (key, value) :: e :: es
      else if key = e.1 then (key, value) :: es
      else e :: insert key value es

/-- Inserts one entry after the other, so that of two with one key the later stays. -/
def ofList (entries : List (String × α)) : List (String × α) :=
  entries.foldl (fun acc e => insert e.1 e.2 acc) []

def find? (key : String) (entries : List (String × α)) : Option α :=
  (entries.find? fun e => e.1 == key).map (·.2)

/-- Keys strictly increase. -/
def Sorted (entries : List (String × α)) : Prop :=
  entries.Pairwise fun a b => a.1 < b.1

theorem mem_insert {key : String} {value : α} {entries : List (String × α)} {e : String × α}
    (h : e ∈ insert key value entries) : e = (key, value) ∨ e ∈ entries := by
  induction entries with
  | nil => simpa [insert] using h
  | cons head tail ih =>
    simp only [insert] at h
    split at h
    · simpa using h
    · split at h
      · rcases List.mem_cons.1 h with h | h
        · exact .inl h
        · exact .inr (List.mem_cons_of_mem _ h)
      · rcases List.mem_cons.1 h with h | h
        · exact .inr (h ▸ List.mem_cons_self ..)
        · rcases ih h with h | h
          · exact .inl h
          · exact .inr (List.mem_cons_of_mem _ h)

theorem lt_of_not_lt_of_ne {a b : String} (not_lt : ¬ a < b) (ne : a ≠ b) : b < a :=
  Decidable.byContradiction fun h =>
    ne (String.le_antisymm (String.not_lt.1 h) (String.not_lt.1 not_lt))

theorem sorted_insert (key : String) (value : α) {entries : List (String × α)}
    (sorted : Sorted entries) : Sorted (insert key value entries) := by
  induction entries with
  | nil => simp [insert, Sorted]
  | cons head tail ih =>
    have parts := List.pairwise_cons.1 sorted
    simp only [insert]
    split
    · next before =>
      refine List.pairwise_cons.2 ⟨fun e mem => ?_, sorted⟩
      rcases List.mem_cons.1 mem with rfl | mem
      · exact before
      · exact String.lt_trans before (parts.1 e mem)
    · next notBefore =>
      split
      · next same => exact List.pairwise_cons.2 ⟨fun e mem => same ▸ parts.1 e mem, parts.2⟩
      · next other =>
        refine List.pairwise_cons.2 ⟨fun e mem => ?_, ih parts.2⟩
        rcases mem_insert mem with rfl | mem
        · exact lt_of_not_lt_of_ne notBefore other
        · exact parts.1 e mem

end Entries

/-- Entries with strictly increasing keys. -/
structure Dict (α : Type) where
  entries : List (String × α)
  sorted : Entries.Sorted entries

namespace Dict

variable {α : Type}

def empty : Dict α := ⟨[], List.Pairwise.nil⟩

instance : Inhabited (Dict α) := ⟨empty⟩

def insert (d : Dict α) (key : String) (value : α) : Dict α :=
  ⟨Entries.insert key value d.entries, Entries.sorted_insert key value d.sorted⟩

def ofList (entries : List (String × α)) : Dict α :=
  entries.foldl (fun d e => d.insert e.1 e.2) empty

def find? (d : Dict α) (key : String) : Option α :=
  Entries.find? key d.entries

def contains (d : Dict α) (key : String) : Bool :=
  (d.find? key).isSome

def erase (d : Dict α) (key : String) : Dict α :=
  ⟨d.entries.filter fun e => e.1 != key, d.sorted.sublist List.filter_sublist⟩

def keys (d : Dict α) : List String :=
  d.entries.map (·.1)

def values (d : Dict α) : List α :=
  d.entries.map (·.2)

def size (d : Dict α) : Nat :=
  d.entries.length

def isEmpty (d : Dict α) : Bool :=
  d.entries.isEmpty

end Dict

end Gleaner
