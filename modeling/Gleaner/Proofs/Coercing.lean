import Gleaner.Proofs.Writing

set_option autoImplicit false

/-!
Values that are coerced one after the other, each to what is there by then. The kind of what is
there decides alone: arrays take everything, scalars keep their kind, and anything else gives way
until there is an array or a scalar. Main statement: `Value.coercion_by_kind`.
-/
namespace Gleaner

namespace ValueKind

/-- Kinds that values are converted to. -/
def isScalar : ValueKind → Bool
  | .boolean | .number | .string => true
  | _ => false

/-- Kinds that give way to any value. -/
def isLoose : ValueKind → Bool
  | .null | .object => true
  | _ => false

end ValueKind

namespace Value

/-- What becomes of a value where a scalar of the given kind is. -/
def convert : ValueKind → Value → Except Rejection Value
  | .boolean, v => asBoolean v
  | .number, v => asNumber v
  | .string, v => asString v
  | _, v => .ok v

/-- What becomes of each of some values, where a value that is rejected changes nothing. -/
def coerceAll : Option Value → List Value → List (Except Rejection Value)
  | _, [] => []
  | existing, v :: vs => coerce existing v :: coerceAll (accrue existing v) vs

/-- What is there after some values. -/
def accrueAll (existing : Option Value) (incoming : List Value) : Option Value :=
  incoming.foldl accrue existing

/-- Nothing is there, or something that gives way. -/
def GivesWay (existing : Option Value) : Prop :=
  ∀ v, existing = some v → v.kind.isLoose = true

variable {existing : Option Value} {v w : Value}

theorem accrue_of_ok (accepted : coerce existing v = .ok w) : accrue existing v = some w := by
  rw [accrue, accepted]

theorem accrue_of_error {r : Rejection} (rejected : coerce existing v = .error r) :
    accrue existing v = existing := by
  rw [accrue, rejected]

theorem coerce_of_givesWay (loose : GivesWay existing) (v : Value) : coerce existing v = .ok v := by
  cases existing with
  | none => rfl
  | some current =>
    cases current with
    | null | object members => rfl
    | boolean b | number x | string s | array items => exact nomatch loose _ rfl

theorem coerce_of_isScalar {current : Value} (scalar : current.kind.isScalar = true) (v : Value) :
    coerce (some current) v = convert current.kind v := by
  cases current with
  | boolean b | number x | string s => rfl
  | null | array items | object members => cases scalar

/-- A value is converted to the kind that is asked for, or rejected with all that there is to tell
of it. -/
theorem convert_cases {kind : ValueKind} (scalar : kind.isScalar = true) (v : Value) :
    (∃ w, convert kind v = .ok w ∧ w.kind = kind) ∨ convert kind v = .error ⟨kind, v.kind, v⟩ := by
  cases kind with
  | null | array | object => cases scalar
  | string =>
    cases v with
    | string s | number x | boolean b => exact .inl ⟨_, rfl, rfl⟩
    | null | array items | object members => exact .inr rfl
  | number =>
    cases v with
    | string s =>
      simp only [convert, asNumber]
      split
      · exact .inl ⟨_, rfl, rfl⟩
      · exact .inr rfl
    | number x | boolean b => exact .inl ⟨_, rfl, rfl⟩
    | null | array items | object members => exact .inr rfl
  | boolean =>
    cases v with
    | string s =>
      simp only [convert, asBoolean]
      split
      · exact .inl ⟨_, rfl, rfl⟩
      · exact .inr rfl
    | number x | boolean b => exact .inl ⟨_, rfl, rfl⟩
    | null | array items | object members => exact .inr rfl

/-- A value is rejected only by a scalar, with the kinds of both. -/
theorem eq_of_rejected {r : Rejection} (rejected : coerce existing v = .error r) :
    ∃ current, existing = some current ∧ r = ⟨current.kind, v.kind, v⟩ := by
  cases existing with
  | none => cases rejected
  | some current =>
    refine ⟨current, rfl, ?_⟩
    cases scalar : current.kind.isScalar with
    | true =>
      rw [coerce_of_isScalar scalar] at rejected
      rcases convert_cases scalar v with ⟨w, accepted, -⟩ | same
      · rw [accepted] at rejected
        cases rejected
      · rw [same] at rejected
        exact (Except.error.inj rejected).symm
    | false =>
      cases current with
      | boolean b | number x | string s => cases scalar
      | null | array items | object members => cases rejected

theorem coerceAll_append (existing : Option Value) (before after : List Value) :
    coerceAll existing (before ++ after) =
      coerceAll existing before ++ coerceAll (accrueAll existing before) after := by
  induction before generalizing existing with
  | nil => rfl
  | cons v vs ih =>
    rw [List.cons_append, coerceAll, ih, coerceAll]
    rfl

theorem accrueAll_cons (existing : Option Value) (v : Value) (vs : List Value) :
    accrueAll existing (v :: vs) = accrueAll (accrue existing v) vs := rfl

theorem accrueAll_append (existing : Option Value) (before after : List Value) :
    accrueAll existing (before ++ after) = accrueAll (accrueAll existing before) after :=
  List.foldl_append

/-- The outcome at a place is that of the value there, with what the values before it came to. -/
theorem getElem?_coerceAll (existing : Option Value) (incoming : List Value) (i : Nat) :
    (coerceAll existing incoming)[i]? =
      incoming[i]?.map (coerce (accrueAll existing (incoming.take i))) := by
  induction incoming generalizing existing i with
  | nil => rfl
  | cons v vs ih =>
    cases i with
    | zero => rfl
    | succ i => exact ih (accrue existing v) i

/-- What a list of values comes to where an array is. -/
structure Grown (items incoming : List Value) : Prop where
  accepted : ∀ outcome ∈ coerceAll (some (.array items)) incoming, outcome.isOk = true
  result : accrueAll (some (.array items)) incoming = some (.array (items ++ incoming))

theorem grown (items incoming : List Value) : Grown items incoming := by
  induction incoming generalizing items with
  | nil =>
    refine ⟨nofun, ?_⟩
    rw [List.append_nil]
    rfl
  | cons v vs ih =>
    obtain ⟨accepted, result⟩ := ih (items ++ [v])
    refine ⟨List.forall_mem_cons.2 ⟨rfl, accepted⟩, ?_⟩
    rw [List.append_assoc, List.singleton_append] at result
    exact result

/-- The value, if a scalar of the given kind takes it. -/
def converted? (kind : ValueKind) (v : Value) : Option Value :=
  (convert kind v).toOption

/-- What a list of values comes to where a scalar is. -/
structure Converted (current : Value) (incoming : List Value) : Prop where
  outcomes : coerceAll (some current) incoming = incoming.map (convert current.kind)
  result : accrueAll (some current) incoming =
    some ((incoming.filterMap (converted? current.kind)).getLast?.getD current)
  kind : ∀ v, accrueAll (some current) incoming = some v → v.kind = current.kind

theorem accrue_of_isScalar {current : Value} (scalar : current.kind.isScalar = true) (v : Value) :
    ∃ next, accrue (some current) v = some next ∧ next.kind = current.kind ∧
      (converted? current.kind v).getD current = next := by
  have coerced := coerce_of_isScalar scalar v
  rcases convert_cases scalar v with ⟨w, accepted, kind⟩ | rejected
  · refine ⟨w, accrue_of_ok (coerced.trans accepted), kind, ?_⟩
    rw [converted?, accepted]
    rfl
  · refine ⟨current, accrue_of_error (coerced.trans rejected), rfl, ?_⟩
    rw [converted?, rejected]
    rfl

theorem converted {current : Value} (scalar : current.kind.isScalar = true)
    (incoming : List Value) : Converted current incoming := by
  induction incoming generalizing current with
  | nil => exact ⟨rfl, rfl, fun v same => congrArg kind (Option.some.inj same).symm⟩
  | cons v vs ih =>
    obtain ⟨next, stored, kind, taken⟩ := accrue_of_isScalar scalar v
    obtain ⟨outcomes, result, kinds⟩ := ih (kind ▸ scalar : next.kind.isScalar = true)
    have first : accrueAll (some current) (v :: vs) = accrueAll (some next) vs :=
      congrArg (accrueAll · vs) stored
    refine ⟨?_, ?_, fun w there => (kinds w (first ▸ there)).trans kind⟩
    · rw [coerceAll, stored, outcomes, coerce_of_isScalar scalar, kind, List.map_cons]
    · rw [first, result, kind, ← taken, List.filterMap_cons]
      cases converted? current.kind v with
      | none => rfl
      | some w => rw [List.getLast?_cons, Option.getD_some, Option.getD_some]

/-- What a list of values comes to where nothing is, or something that gives way: each replaces the
one before it, up to the first that stays. -/
structure Replaced (existing : Option Value) (incoming : List Value) : Prop where
  loose : (∀ v ∈ incoming, v.kind.isLoose = true) →
    coerceAll existing incoming = incoming.map .ok ∧
      accrueAll existing incoming = incoming.getLast?.or existing
  settled : ∀ before first after, incoming = before ++ first :: after →
    (∀ v ∈ before, v.kind.isLoose = true) →
    coerceAll existing incoming =
        (before ++ [first]).map .ok ++ coerceAll (some first) after ∧
      accrueAll existing incoming = accrueAll (some first) after

theorem accrue_of_givesWay (loose : GivesWay existing) (v : Value) : accrue existing v = some v :=
  accrue_of_ok (coerce_of_givesWay loose v)

theorem givesWay_some (loose : v.kind.isLoose = true) : GivesWay (some v) :=
  fun _ same => Option.some.inj same ▸ loose

theorem coerced_of_loose (loose : GivesWay existing) {incoming : List Value}
    (all : ∀ v ∈ incoming, v.kind.isLoose = true) :
    coerceAll existing incoming = incoming.map .ok ∧
      accrueAll existing incoming = incoming.getLast?.or existing := by
  induction incoming generalizing existing with
  | nil => exact ⟨rfl, rfl⟩
  | cons v vs ih =>
    obtain ⟨here, all⟩ := List.forall_mem_cons.1 all
    obtain ⟨outcomes, result⟩ := ih (givesWay_some here) all
    rw [coerceAll, accrueAll_cons, coerce_of_givesWay loose, accrue_of_givesWay loose]
    refine ⟨congrArg _ outcomes, result.trans ?_⟩
    rw [List.getLast?_cons]
    cases vs.getLast? <;> rfl

theorem replaced (loose : GivesWay existing) (incoming : List Value) :
    Replaced existing incoming where
  loose := coerced_of_loose loose
  settled before first after split all := by
    obtain ⟨outcomes, result⟩ := coerced_of_loose loose all
    have still : GivesWay (accrueAll existing before) := by
      intro v there
      rw [result] at there
      cases last : before.getLast? with
      | none =>
        rw [last] at there
        exact loose v there
      | some w =>
        rw [last] at there
        exact Option.some.inj there ▸ all w (List.mem_of_getLast? last)
    subst split
    rw [coerceAll_append, accrueAll_append, outcomes, coerceAll, accrueAll_cons,
      coerce_of_givesWay still, accrue_of_givesWay still, List.map_append, List.append_assoc]
    exact ⟨rfl, rfl⟩

/-- What values come to that are coerced one after the other. -/
structure Coerced (start : Option Value) (incoming : List Value) : Prop where
  array : ∀ items, start = some (.array items) → Grown items incoming
  scalar : ∀ current, start = some current → current.kind.isScalar = true →
    Converted current incoming
  other : GivesWay start → Replaced start incoming
  rejected : ∀ i r, (coerceAll start incoming)[i]? = some (.error r) →
    ∃ current v, accrueAll start (incoming.take i) = some current ∧ incoming[i]? = some v ∧
      r = ⟨current.kind, v.kind, v⟩

/-- Arrays take all values at their end, as they are. A scalar keeps its kind, which decides with
each value alone what becomes of it, and the last value that was taken stays. What else there is, or
nothing, is replaced until there is an array or a scalar. A rejection has the value, its kind, and
the kind of what was there. -/
theorem coercion_by_kind (start : Option Value) (incoming : List Value) :
    Coerced start incoming where
  array items there := grown items incoming
  scalar current there scalar := converted scalar incoming
  other loose := replaced loose incoming
  rejected i r rejected := by
    rw [getElem?_coerceAll, Option.map_eq_some_iff] at rejected
    obtain ⟨v, there, rejected⟩ := rejected
    obtain ⟨current, stored, same⟩ := eq_of_rejected rejected
    exact ⟨current, v, stored, there, same⟩

end Value

end Gleaner
