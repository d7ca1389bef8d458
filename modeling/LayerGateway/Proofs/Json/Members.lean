import LayerGateway.Proofs.Json.Nesting

/-!
# Members of objects

An object is known by what is found under its keys.

* `Json.member?` looks up a member, and `IsObject` says that a value is an object whose members
  are in order, every key once.
* `eq_of_member?` says that such objects are equal when the same is found in them.
-/

namespace LayerGateway.Json

def member? (key : String) : Json → Option Json
  | .object members => Rows.find? key members
  | _ => none

/-- A value that is an object with its members in order. -/
def IsObject (json : Json) : Prop :=
  ∃ map : Members, json = .object map.rows

theorem member?_ofMembers {key : String} {value : Json} (members later : List (String × Json))
    (absent : ∀ member ∈ later, member.1 ≠ key) :
    (ofMembers (members ++ (key, value) :: later)).member? key = some value :=
  OrderedMap.get?_ofRows absent

theorem eq_of_member? {first second : Json} (firstObject : IsObject first)
    (secondObject : IsObject second) (same : ∀ key, first.member? key = second.member? key) :
    first = second := by
  obtain ⟨map, rfl⟩ := firstObject
  obtain ⟨other, rfl⟩ := secondObject
  have equal : map = other := OrderedMap.ext_get? same
  rw [equal]

theorem mem_of_member?_ofMembers {key : String} {value : Json} {members : List (String × Json)}
    (found : (ofMembers members).member? key = some value) : (key, value) ∈ members :=
  OrderedMap.mem_ofRows (Rows.mem_of_find? found)

theorem member?_ofMembers_eq_none {key : String} {members : List (String × Json)}
    (absent : ∀ member ∈ members, member.1 ≠ key) : (ofMembers members).member? key = none :=
  Option.eq_none_iff_forall_ne_some.2 fun _ found => absent _ (mem_of_member?_ofMembers found) rfl

/-! ## Members that are `null` or missing -/

variable {value other : Option Json}

theorem filter_ne_null (notNull : value ≠ some .null) : value.filter (· ≠ .null) = value := by
  cases value with
  | none => rfl
  | some json =>
    have json_ne : json ≠ .null := fun null => notNull (congrArg some null)
    simp [Option.filter, json_ne]

theorem eq_of_getD (given : value ≠ none) (otherGiven : other ≠ none)
    (same : value.getD .null = other.getD .null) : value = other := by
  cases value with
  | none => exact absurd rfl given
  | some json =>
    cases other with
    | none => exact absurd rfl otherGiven
    | some _ => exact congrArg some same

end LayerGateway.Json
