import Gleaner.Proofs.ByteOrder
import Gleaner.Proofs.JsonReading
import Gleaner.Proofs.Whole

set_option autoImplicit false

/-!
Values survive their JSON form: what is read is equal to what was written, so that values that
differ have different texts. Main statement: `Value.survives_json`.
-/
namespace Gleaner

/-- Equality of numbers. The sign of a zero does not count, and NaN equals nothing. -/
def Binary64.equals (x y : Binary64) : Bool :=
  x.isZero && y.isZero || x == y && x != nan

theorem Json.writeItems_eq_map (layout : Layout) (level : Nat) (items : List Tree) :
    writeItems layout level items = items.map (writeAt layout level) := by
  induction items with
  | nil => rfl
  | cons t ts ih => rw [writeItems, ih, List.map_cons]

theorem Json.writeEntries_eq_map (layout : Layout) (level : Nat) (entries : List (String × Tree)) :
    writeEntries layout level entries = entries.map fun e =>
      writeText e.1 ++ ':' :: (layout.afterColon ++ writeAt layout level e.2) := by
  induction entries with
  | nil => rfl
  | cons e es ih => rw [writeEntries, ih, List.map_cons]

theorem Binary64.equals_of_settled_eq {x y : Binary64} (number : x ≠ nan)
    (same : x.settled = y.settled) : x.equals y = true := by
  have other : ∀ {z : Binary64}, z.isZero = false → z ≠ zero := by
    rintro z nonzero rfl
    cases nonzero
  rw [equals]
  cases first : x.isZero <;> cases second : y.isZero <;>
    simp only [settled, first, second, Bool.false_eq_true, ↓reduceIte] at same
  · simp [← same, number]
  · exact absurd same (other first)
  · exact absurd same.symm (other second)
  · rfl

namespace Value

/-- A value with at most `depth` levels of arrays and objects, in which every number is whole and
below the limit. Members of an object are in key order. -/
inductive Portable : Nat → Value → Prop
  | null {depth : Nat} : Portable depth .null
  | boolean {depth : Nat} (b : Bool) : Portable depth (.boolean b)
  | number {depth : Nat} {x : Binary64} {n : Int} (whole : x.toInt? = some n)
      (below : n.natAbs < wholeLimit) : Portable depth (.number x)
  | string {depth : Nat} (s : String) : Portable depth (.string s)
  | array {depth : Nat} {items : List Value} (each : ∀ v ∈ items, Portable depth v) :
      Portable (depth + 1) (.array items)
  | object {depth : Nat} {members : List (String × Value)} (sorted : Entries.Sorted members)
      (each : ∀ m ∈ members, Portable depth m.2) : Portable (depth + 1) (.object members)

mutual

/-- Equality of values, number by number. -/
def equals : Value → Value → Bool
  | .null, .null => true
  | .boolean b, .boolean c => b == c
  | .number x, .number y => x.equals y
  | .string s, .string t => s == t
  | .array items, .array others => itemsEqual items others
  | .object members, .object others => membersEqual members others
  | _, _ => false

def itemsEqual : List Value → List Value → Bool
  | [], [] => true
  | v :: vs, w :: ws => equals v w && itemsEqual vs ws
  | _, _ => false

def membersEqual : List (String × Value) → List (String × Value) → Bool
  | [], [] => true
  | (key, v) :: ms, (other, w) :: others => key == other && equals v w && membersEqual ms others
  | _, _ => false

end

mutual

/-- The value without the signs of zeros. -/
def settled : Value → Value
  | .null => .null
  | .boolean b => .boolean b
  | .number x => .number x.settled
  | .string s => .string s
  | .array items => .array (settledItems items)
  | .object members => .object (settledMembers members)

def settledItems : List Value → List Value
  | [] => []
  | v :: vs => settled v :: settledItems vs

def settledMembers : List (String × Value) → List (String × Value)
  | [] => []
  | (key, v) :: ms => (key, settled v) :: settledMembers ms

end

/-- How JSON spells a value: a number as an integer in decimal digits, an object with its members in
the order of the bytes of their keys. -/
inductive Spelled (layout : Json.Layout) : Nat → Value → List Char → Prop
  | null {level : Nat} : Spelled layout level .null "null".toList
  | boolean {level : Nat} (b : Bool) :
      Spelled layout level (.boolean b) (if b then "true".toList else "false".toList)
  | number {level : Nat} {x : Binary64} {n : Int} (whole : x.toInt? = some n) {digits : List Char}
      (nonempty : digits ≠ []) (decimal : ∀ c ∈ digits, Text.isDigit c = true)
      (shortest : digits.head? = some '0' → digits = ['0'])
      (exact : Text.ofDigits digits = n.natAbs) :
      Spelled layout level (.number x) (if n < 0 then '-' :: digits else digits)
  | string {level : Nat} (s : String) : Spelled layout level (.string s) (Json.writeText s)
  | array {level : Nat} {items : List Value} (spell : Value → List Char)
      (each : ∀ v ∈ items, Spelled layout (level + 1) v (spell v)) :
      Spelled layout level (.array items)
        (Json.bracketed layout level '[' ']' (items.map spell))
  | object {level : Nat} {members : List (String × Value)} (spell : Value → List Char)
      (each : ∀ m ∈ members, Spelled layout (level + 1) m.2 (spell m.2))
      (increasing : members.Pairwise fun m m' => Text.bytes m.1 < Text.bytes m'.1) :
      Spelled layout level (.object members)
        (Json.bracketed layout level '\x7b' '\x7d' (members.map fun m =>
          Json.writeText m.1 ++ ':' :: (layout.afterColon ++ spell m.2)))

/-- What a way to write JSON keeps of a value. -/
structure Survives (layout : Json.Layout) (write : Tree → String) (v : Value) : Prop where
  back : (Json.read? (write v.toTree)).map ofTree = some v.settled
  apart : ∀ w : Value, w.Portable Json.nestingLimit → v.equals w = false →
    write v.toTree ≠ write w.toTree
  spelled : Spelled layout 0 v (write v.toTree).toList

theorem toTrees_eq_map (items : List Value) : toTrees items = items.map toTree := by
  induction items with
  | nil => rfl
  | cons v vs ih => rw [toTrees, ih, List.map_cons]

theorem toEntries_eq_map (members : List (String × Value)) :
    toEntries members = members.map fun m => (m.1, m.2.toTree) := by
  induction members with
  | nil => rfl
  | cons m ms ih => rw [toEntries, ih, List.map_cons]

theorem ofTrees_eq_map (trees : List Tree) : ofTrees trees = trees.map ofTree := by
  induction trees with
  | nil => rfl
  | cons t ts ih => rw [ofTrees, ih, List.map_cons]

theorem ofEntries_eq_map (entries : List (String × Tree)) :
    ofEntries entries = entries.map fun e => (e.1, ofTree e.2) := by
  induction entries with
  | nil => rfl
  | cons e es ih => rw [ofEntries, ih, List.map_cons]

theorem settledItems_eq_map (items : List Value) : settledItems items = items.map settled := by
  induction items with
  | nil => rfl
  | cons v vs ih => rw [settledItems, ih, List.map_cons]

theorem settledMembers_eq_map (members : List (String × Value)) :
    settledMembers members = members.map fun m => (m.1, m.2.settled) := by
  induction members with
  | nil => rfl
  | cons m ms ih => rw [settledMembers, ih, List.map_cons]

theorem numberTree_of_whole {x : Binary64} {n : Int} (whole : x.toInt? = some n)
    (below : n.natAbs < wholeLimit) : numberTree x = .integer n := by
  simp only [numberTree, whole, below, ↓reduceIte]

/-- Whole numbers come back but for the sign of zero, and all else as it was. -/
theorem Portable.ofTree_toTree {depth : Nat} {v : Value} (portable : v.Portable depth) :
    ofTree v.toTree = v.settled := by
  induction portable with
  | null => rfl
  | boolean b => rfl
  | number whole below =>
    rw [toTree, numberTree_of_whole whole below, ofTree, Binary64.ofInt_of_toInt? whole, settled]
  | string s => rfl
  | array each ih =>
    rw [toTree, ofTree, settled, toTrees_eq_map, ofTrees_eq_map, settledItems_eq_map, List.map_map]
    exact congrArg Value.array (List.map_congr_left ih)
  | object sorted each ih =>
    rw [toTree, ofTree, settled, toEntries_eq_map, ofEntries_eq_map, settledMembers_eq_map,
      List.map_map]
    exact congrArg Value.object (List.map_congr_left fun m mem => congrArg (m.1, ·) (ih m mem))

theorem Portable.settled_settled {depth : Nat} {v : Value} (portable : v.Portable depth) :
    v.settled.settled = v.settled := by
  induction portable with
  | null => rfl
  | boolean b => rfl
  | @number depth x n whole below =>
    refine congrArg Value.number ?_
    cases zero : x.isZero <;> simp [Binary64.settled, zero]
  | string s => rfl
  | array each ih =>
    rw [settled, settled, settledItems_eq_map, settledItems_eq_map, List.map_map]
    exact congrArg Value.array (List.map_congr_left ih)
  | object sorted each ih =>
    rw [settled, settled, settledMembers_eq_map, settledMembers_eq_map, List.map_map]
    exact congrArg Value.object (List.map_congr_left fun m mem => congrArg (m.1, ·) (ih m mem))

theorem wholeLimit_le : wholeLimit ≤ twoPow 63 := by decide +kernel

theorem Portable.plain {depth : Nat} {v : Value} (portable : v.Portable depth) :
    Json.Plain depth v.toTree := by
  induction portable with
  | null => exact .null
  | boolean b => exact .boolean b
  | @number depth x n whole below =>
    have limit := wholeLimit_le
    have most : Json.significandLimit = 2 * twoPow 63 - 1 :=
      congrArg (· - 1) (twoPow_succ 63)
    rw [toTree, numberTree_of_whole whole below]
    exact .integer (by omega) (by omega)
  | string s => exact .text s
  | array each ih =>
    rw [toTree, toTrees_eq_map]
    exact .list (List.forall_mem_map.2 ih)
  | object sorted each ih =>
    rw [toTree, toEntries_eq_map]
    exact .table (List.pairwise_map.2 sorted) (List.forall_mem_map.2 ih)

theorem itemsEqual_of_forall {items others : List Value}
    (each : ∀ v ∈ items, ∀ w : Value, v.settled = w.settled → v.equals w = true)
    (same : items.map settled = others.map settled) : itemsEqual items others = true := by
  induction items generalizing others with
  | nil =>
    cases others with
    | nil => rfl
    | cons w ws => cases same
  | cons v vs ih =>
    cases others with
    | nil => cases same
    | cons w ws =>
      obtain ⟨first, rest⟩ := List.forall_mem_cons.1 each
      obtain ⟨head, tail⟩ := List.cons.inj same
      rw [itemsEqual, first w head, ih rest tail, Bool.and_self]

theorem membersEqual_of_forall {members others : List (String × Value)}
    (each : ∀ m ∈ members, ∀ w : Value, m.2.settled = w.settled → m.2.equals w = true)
    (same : members.map (fun m => (m.1, m.2.settled)) = others.map fun m => (m.1, m.2.settled)) :
    membersEqual members others = true := by
  induction members generalizing others with
  | nil =>
    cases others with
    | nil => rfl
    | cons m' ms' => cases same
  | cons m ms ih =>
    cases others with
    | nil => cases same
    | cons m' ms' =>
      obtain ⟨first, rest⟩ := List.forall_mem_cons.1 each
      obtain ⟨head, tail⟩ := List.cons.inj same
      obtain ⟨key, value⟩ := Prod.mk.inj head
      rw [membersEqual, key, beq_self_eq_true, first m'.2 value, ih rest tail]
      rfl

/-- Values that differ in signs of zeros at most are equal. -/
theorem Portable.equals_of_settled_eq {depth : Nat} {v : Value} (portable : v.Portable depth)
    {w : Value} (same : v.settled = w.settled) : v.equals w = true := by
  induction portable generalizing w with
  | null =>
    cases w <;> cases same
    rfl
  | boolean b =>
    cases w <;> cases same
    exact beq_self_eq_true b
  | @number depth x n whole below =>
    have number : x ≠ .nan := by
      rintro rfl
      cases whole
    cases w <;> try cases same
    exact Binary64.equals_of_settled_eq number (Value.number.inj same)
  | string s =>
    cases w <;> cases same
    exact beq_self_eq_true s
  | array each ih =>
    cases w <;> try cases same
    rw [settled, settled, settledItems_eq_map, settledItems_eq_map] at same
    exact itemsEqual_of_forall (fun v mem w => ih v mem) (Value.array.inj same)
  | object sorted each ih =>
    cases w <;> try cases same
    rw [settled, settled, settledMembers_eq_map, settledMembers_eq_map] at same
    exact membersEqual_of_forall (fun m mem w => ih m mem) (Value.object.inj same)

theorem Portable.spelled {depth : Nat} {v : Value} (portable : v.Portable depth)
    (layout : Json.Layout) (level : Nat) :
    Spelled layout level v (Json.writeAt layout level v.toTree) := by
  induction portable generalizing level with
  | null => exact .null
  | boolean b => exact .boolean b
  | @number depth x n whole below =>
    rw [toTree, numberTree_of_whole whole below, Json.writeAt, Json.writeInteger]
    refine .number whole Nat.toDigits_ne_nil (fun c => Text.isDigit_of_mem_decimalDigits) ?_
      (Text.ofDigits_decimalDigits _)
    intro zero
    by_cases positive : 0 < n.natAbs
    · exact absurd zero (Text.head?_decimalDigits positive)
    · rw [Nat.eq_zero_of_not_pos positive]
      rfl
  | string s => exact .string s
  | array each ih =>
    rw [toTree, Json.writeAt, toTrees_eq_map, Json.writeItems_eq_map, List.map_map]
    exact .array _ fun v mem => ih v mem (level + 1)
  | @object depth members sorted each ih =>
    rw [toTree, Json.writeAt, toEntries_eq_map, Json.writeEntries_eq_map, List.map_map]
    refine .object (fun v => Json.writeAt layout (level + 1) v.toTree)
      (fun m mem => ih m mem (level + 1)) ?_
    exact sorted.imp fun {m m'} before => (Text.lt_iff_bytes_lt m.1 m'.1).1 before

/-- Reading undoes writing, in any layout; so the text settles the value. -/
theorem Portable.survives {v : Value} (portable : v.Portable Json.nestingLimit)
    {layout : Json.Layout} (blanks : layout.Plain) :
    v.Survives layout fun t => String.ofList (Json.writeAt layout 0 t) where
  back := by
    rw [Json.read?_writeAt blanks portable.plain, Option.map_some, portable.ofTree_toTree]
  apart w portable' differ same := by
    have read := Json.read?_writeAt blanks portable.plain
    rw [same, Json.read?_writeAt blanks portable'.plain, Option.some.injEq] at read
    have settled := portable'.ofTree_toTree
    rw [read, portable.ofTree_toTree] at settled
    rw [portable.equals_of_settled_eq settled] at differ
    cases differ
  spelled := by
    rw [String.toList_ofList]
    exact portable.spelled layout 0

end Value

/-- A value of at most 127 levels, in which all numbers are whole and below the limit, comes back
equal from its JSON text, compact or indented. -/
theorem Value.survives_json {v : Value} (portable : v.Portable Json.nestingLimit) :
    v.equals v.settled = true ∧ v.Survives Json.compact Json.write ∧
      v.Survives Json.indented Json.writeIndented :=
  ⟨portable.equals_of_settled_eq portable.settled_settled.symm,
    portable.survives Json.compact_plain, portable.survives Json.indented_plain⟩

/-- An object with a text that is escaped and the two kinds of numbers that are read apart. -/
def trackList : Value :=
  .object [("title", .string "Say \"yes\"\n"),
    ("years", .array [.number Binary64.zero.neg, .number (Binary64.ofInt (-1984)), .null])]

/-- The zero in the list comes back without its sign. -/
theorem Value.survives_json_trackList :
    trackList.Portable Json.nestingLimit ∧ trackList.equals trackList.settled = true ∧
      Json.write trackList.toTree =
        "\x7b\"title\":\"Say \\\"yes\\\"\\n\",\"years\":[0,-1984,null]\x7d" ∧
      (Json.read? (Json.write trackList.toTree)).map ofTree = some trackList.settled := by
  have portable : trackList.Portable Json.nestingLimit := by
    refine .object (List.pairwise_pair.2 (by decide)) ?_
    simp only [List.forall_mem_cons, List.not_mem_nil, false_implies, implies_true, and_true]
    refine ⟨.string _, .array ?_⟩
    simp only [List.forall_mem_cons, List.not_mem_nil, false_implies, implies_true, and_true]
    exact ⟨.number (n := 0) (by decide +kernel) (by decide +kernel),
      .number (n := -1984) (by decide +kernel) (by decide +kernel), .null⟩
  obtain ⟨equal, compact, -⟩ := survives_json portable
  exact ⟨portable, equal, by decide +kernel, compact.back⟩

end Gleaner
