import LayerGateway.Json.Decode
import LayerGateway.Proofs.Except
import LayerGateway.Proofs.OrderedMap

/-!
# How deep values nest

A text is read only as deep as its reader allows, so whether a value is read back depends on how
deep it nests, and where.  Besides, an object is read with its members in order, whatever order
they were written in.

* `Json.depth` counts the arrays and objects that are open at once, and `Json.Canonical` says that
  all objects of a value list their members in order.
* `Origin.limit` is what is read of a value in which nothing but its depth can be wrong, and
  `toJson_ofJson` says that a canonical value is read from its own document in this way.
* `toJson_fine` says the converse: what is read is canonical and no deeper than was allowed.
-/

namespace LayerGateway.Json

/-! ## Depth -/

mutual

/-- How many arrays and objects of a value are open at once. -/
def depth : Json → Nat
  | .null | .bool _ | .number _ | .string _ => 0
  | .array items => depthItems items + 1
  | .object members => depthMembers members + 1

def depthItems : List Json → Nat
  | [] => 0
  | item :: rest => max (depth item) (depthItems rest)

/-- The depth of the deepest value of some members. -/
def depthMembers : List (String × Json) → Nat
  | [] => 0
  | (_, value) :: rest => max (depth value) (depthMembers rest)

end

theorem depthItems_le_iff {items : List Json} {bound : Nat} :
    depthItems items ≤ bound ↔ ∀ item ∈ items, item.depth ≤ bound := by
  induction items with
  | nil => simp [depthItems]
  | cons item items ih => rw [depthItems, Nat.max_le, ih, List.forall_mem_cons]

theorem depthMembers_le_iff {members : List (String × Json)} {bound : Nat} :
    depthMembers members ≤ bound ↔ ∀ member ∈ members, member.2.depth ≤ bound := by
  induction members with
  | nil => simp [depthMembers]
  | cons member members ih => rw [depthMembers, Nat.max_le, ih, List.forall_mem_cons]

/-! ## Values of which every part has a property -/

/-- Every number of a value has the one property, and the members of every object the other. -/
inductive Every (number : Number → Prop) (object : List (String × Json) → Prop) : Json → Prop where
  | null : Every number object .null
  | bool (value : Bool) : Every number object (.bool value)
  | number {value : Number} (has : number value) : Every number object (.number value)
  | string (value : String) : Every number object (.string value)
  | array {items : List Json} (each : ∀ item ∈ items, Every number object item) :
      Every number object (.array items)
  | object {members : List (String × Json)} (has : object members)
      (each : ∀ member ∈ members, Every number object member.2) :
      Every number object (.object members)

theorem Every.items {number : Number → Prop} {object : List (String × Json) → Prop}
    {items : List Json} (every : Every number object (.array items)) :
    ∀ item ∈ items, Every number object item := by
  cases every with
  | array each => exact each

theorem Every.members {number : Number → Prop} {object : List (String × Json) → Prop}
    {members : List (String × Json)} (every : Every number object (.object members)) :
    ∀ member ∈ members, Every number object member.2 := by
  cases every with
  | object has each => exact each

/-- All objects of a value list their members in order, every key once. -/
abbrev Canonical : Json → Prop :=
  Every (fun _ => True) Rows.Sorted

/-- A canonical value that nests no deeper than `bound`. -/
structure Fine (bound : Nat) (json : Json) : Prop where
  canonical : json.Canonical
  depth : json.depth ≤ bound

theorem Fine.items {items : List Json} {bound : Nat} (fine : Fine bound (.array items)) :
    ∃ less, bound = less + 1 ∧ ∀ item ∈ items, Fine less item := by
  cases bound with
  | zero => exact absurd fine.depth (Nat.not_succ_le_zero _)
  | succ less =>
    have shallow := depthItems_le_iff.1 (Nat.le_of_succ_le_succ fine.depth)
    exact ⟨less, rfl, fun item member => ⟨fine.canonical.items item member, shallow item member⟩⟩

theorem Fine.members {members : List (String × Json)} {bound : Nat}
    (fine : Fine bound (.object members)) :
    ∃ less, bound = less + 1 ∧ ∀ member ∈ members, Fine less member.2 := by
  cases bound with
  | zero => exact absurd fine.depth (Nat.not_succ_le_zero _)
  | succ less =>
    have shallow := depthMembers_le_iff.1 (Nat.le_of_succ_le_succ fine.depth)
    exact ⟨less, rfl, fun member among =>
      ⟨fine.canonical.members member among, shallow member among⟩⟩

theorem fine_object {map : Members} {bound : Nat}
    (each : ∀ row ∈ map.rows, Fine bound row.2) : Fine (bound + 1) (.object map.rows) := by
  refine ⟨.object map.sorted fun row member => (each row member).canonical, ?_⟩
  have shallow : depthMembers map.rows ≤ bound :=
    depthMembers_le_iff.2 fun row member => (each row member).depth
  exact Nat.succ_le_succ shallow

theorem Fine.mono {json : Json} {bound further : Nat} (fine : Fine bound json)
    (le : bound ≤ further) : Fine further json :=
  ⟨fine.canonical, Nat.le_trans fine.depth le⟩

/-! ## Documents of values -/

namespace Document

theorem ofJsonItems_eq (items : List Json) : ofJsonItems items = items.map ofJson := by
  induction items with
  | nil => rfl
  | cons item items ih => rw [ofJsonItems, ih, List.map_cons]

theorem ofJsonMembers_eq (members : List (String × Json)) :
    ofJsonMembers members = members.map fun member => (.ok member.1, ofJson member.2) := by
  induction members with
  | nil => rfl
  | cons member members ih => rw [ofJsonMembers, ih, List.map_cons]

end Document

/-! ## Limits -/

namespace Origin

variable {α β : Type} {origin : Origin} {depth further : Nat}

/-- Whether so many arrays and objects may be open inside one another. -/
def admits (origin : Origin) (depth : Nat) : Bool :=
  match origin with
  | .text bound => decide (depth ≤ bound)
  | .member | .value => true

/-- What is read of a value of some depth in which nothing else is wrong. -/
def limit (origin : Origin) (depth : Nat) (value : α) : Read α :=
  if origin.admits depth then .ok value else .error (.grammar .tooDeep)

theorem admits_max (origin : Origin) (depth further : Nat) :
    origin.admits (max depth further) = (origin.admits depth && origin.admits further) := by
  cases origin with
  | text bound => simp only [admits, Nat.max_le, Bool.decide_and]
  | member | value => rfl

theorem limit_zero (origin : Origin) (value : α) : origin.limit 0 value = .ok value := by
  cases origin with
  | text bound => simp [limit, admits]
  | member | value => rfl

theorem limit_text {depth bound : Nat} (shallow : depth ≤ bound) (value : α) :
    (text bound).limit depth value = .ok value :=
  if_pos (decide_eq_true shallow)

theorem limit_bind {value : α} {next : α → Read β} {result : β}
    (followed : next value = origin.limit further result) :
    (origin.limit depth value >>= next) = origin.limit (max depth further) result := by
  rw [limit, limit, admits_max]
  cases admitted : origin.admits depth with
  | false => rfl
  | true =>
    rw [Bool.true_and]
    exact followed

theorem limit_done {value : α} {next : α → Read β} {result : β}
    (followed : next value = .ok result) :
    (origin.limit depth value >>= next) = origin.limit depth result := by
  rw [limit, limit]
  cases origin.admits depth with
  | false => rfl
  | true => exact followed

theorem map_limit (value : α) (f : α → β) :
    (origin.limit depth value).map f = origin.limit depth (f value) := by
  rw [limit, limit]
  cases origin.admits depth <;> rfl

/-- An array or object adds one level to what is inside it. -/
theorem enter_bind {next : Origin → Read α} {result : α}
    (inside : ∀ inner, next inner = inner.limit depth result) :
    (origin.enter >>= next) = origin.limit (depth + 1) result := by
  cases origin with
  | text bound =>
    cases bound with
    -- No array or object may be opened, and there is one.
    | zero => rfl
    | succ bound =>
      have admitted : (text (bound + 1)).admits (depth + 1) = (text bound).admits depth := by
        simp [admits]
      rw [limit, admitted]
      exact inside (text bound)
  | member => exact inside .member
  | value => exact inside .value

end Origin

/-! ## Values of documents -/

theorem toItems_ofJson {items : List Json}
    (reads : ∀ item ∈ items, ∀ origin : Origin,
      (Document.ofJson item).toJson origin = origin.limit item.depth item) (origin : Origin) :
    Document.toItems origin (Document.ofJsonItems items) =
      origin.limit (depthItems items) items := by
  induction items with
  | nil => exact (origin.limit_zero []).symm
  | cons item items ih =>
    have rest := ih fun other member => reads other (List.mem_cons_of_mem _ member)
    rw [Document.ofJsonItems, Document.toItems, reads item List.mem_cons_self, depthItems]
    refine Origin.limit_bind ?_
    rw [rest]
    exact Origin.limit_done rfl

theorem toMembers_ofJson {members : List (String × Json)}
    (reads : ∀ member ∈ members, ∀ origin : Origin,
      (Document.ofJson member.2).toJson origin = origin.limit member.2.depth member.2)
    (origin : Origin) :
    Document.toMembers origin (Document.ofJsonMembers members) =
      origin.limit (depthMembers members) members := by
  induction members with
  | nil => exact (origin.limit_zero []).symm
  | cons member members ih =>
    have rest := ih fun other further => reads other (List.mem_cons_of_mem _ further)
    rw [Document.ofJsonMembers, Document.toMembers, depthMembers]
    change ((Document.ofJson member.2).toJson origin >>= _) = _
    rw [reads member List.mem_cons_self]
    refine Origin.limit_bind ?_
    rw [rest]
    exact Origin.limit_done rfl

/-- A canonical value is read from its own document, as far as it may nest. -/
theorem toJson_ofJson {json : Json} (canonical : json.Canonical) (origin : Origin) :
    (Document.ofJson json).toJson origin = origin.limit json.depth json := by
  induction canonical generalizing origin with
  | null | bool _ | number _ | string _ => exact (origin.limit_zero _).symm
  | @array items _ ih =>
    rw [Document.ofJson, Document.toJson]
    refine Origin.enter_bind fun inner => ?_
    rw [toItems_ofJson ih]
    exact Origin.limit_done rfl
  | @object members sorted _ ih =>
    rw [Document.ofJson, Document.toJson]
    refine Origin.enter_bind fun inner => ?_
    rw [toMembers_ofJson ih]
    -- Members that are in order stay as they are.
    have same : ofMembers members = .object members := by
      rw [ofMembers, OrderedMap.rows_ofRows sorted]
    rw [← same]
    exact Origin.limit_done rfl

/-! ## Values that were read -/

theorem fine_ofMembers {members : List (String × Json)} {bound : Nat}
    (each : ∀ member ∈ members, Fine bound member.2) : Fine (bound + 1) (ofMembers members) :=
  fine_object fun row member => each row (OrderedMap.mem_ofRows member)

mutual

/-- What is read of a text is canonical and nests no deeper than was allowed. -/
theorem toJson_fine {document : Document} {bound : Nat} {json : Json}
    (read : document.toJson (.text bound) = .ok json) : Fine bound json := by
  cases document with
  | null | bool _ =>
    cases read
    exact ⟨by constructor, Nat.zero_le _⟩
  | number value =>
    cases value with
    | none => cases read
    | some value =>
      cases read
      exact ⟨.number trivial, Nat.zero_le _⟩
  | string text =>
    cases text with
    | error cause => cases read
    | ok text =>
      cases read
      exact ⟨.string text, Nat.zero_le _⟩
  | array items ending =>
    rw [Document.toJson] at read
    obtain ⟨inner, entered, read⟩ := ok_of_bind read
    obtain ⟨values, readItems, read⟩ := ok_of_bind read
    obtain ⟨_, _, read⟩ := ok_of_bind read
    cases read
    cases bound with
    | zero => cases entered
    -- One level is used up by the array itself.
    | succ bound =>
      cases entered
      have each := toItems_fine readItems
      refine ⟨.array fun item member => (each item member).canonical, ?_⟩
      have shallow : depthItems values ≤ bound :=
        depthItems_le_iff.2 fun item member => (each item member).depth
      exact Nat.succ_le_succ shallow
  | object members ending =>
    rw [Document.toJson] at read
    obtain ⟨inner, entered, read⟩ := ok_of_bind read
    obtain ⟨values, readMembers, read⟩ := ok_of_bind read
    obtain ⟨_, _, read⟩ := ok_of_bind read
    cases read
    cases bound with
    | zero => cases entered
    | succ bound =>
      cases entered
      exact fine_ofMembers (toMembers_fine readMembers)
  | broken token onRead onSkip => cases read

theorem toItems_fine {items : List Document} {bound : Nat} {values : List Json}
    (read : Document.toItems (.text bound) items = .ok values) :
    ∀ value ∈ values, Fine bound value := by
  cases items with
  | nil =>
    cases read
    exact nofun
  | cons item items =>
    rw [Document.toItems] at read
    obtain ⟨first, readFirst, read⟩ := ok_of_bind read
    obtain ⟨others, readOthers, read⟩ := ok_of_bind read
    cases read
    exact List.forall_mem_cons.2 ⟨toJson_fine readFirst, toItems_fine readOthers⟩

theorem toMembers_fine {members : List DocumentMember} {bound : Nat}
    {values : List (String × Json)}
    (read : Document.toMembers (.text bound) members = .ok values) :
    ∀ value ∈ values, Fine bound value.2 := by
  cases members with
  | nil =>
    cases read
    exact nofun
  | cons member members =>
    obtain ⟨key, value⟩ := member
    rw [Document.toMembers] at read
    obtain ⟨name, _, read⟩ := ok_of_bind read
    obtain ⟨first, readFirst, read⟩ := ok_of_bind read
    obtain ⟨others, readOthers, read⟩ := ok_of_bind read
    cases read
    exact List.forall_mem_cons.2 ⟨toJson_fine readFirst, toMembers_fine readOthers⟩

end

/-- What is read there nests no deeper than `bound`: more of a text that may nest so deep, or the
document of a value that does not. -/
inductive Within (bound : Nat) : Origin → Document → Prop where
  | text (document : Document) : Within bound (.text bound) document
  | value {json : Json} (fine : Fine bound json) : Within bound .value (Document.ofJson json)

namespace Within

variable {bound : Nat} {origin inner : Origin} {document : Document}

theorem toJson_fine (within : Within bound origin document) {json : Json}
    (read : document.toJson origin = .ok json) : Fine bound json := by
  cases within with
  | text _ => exact Json.toJson_fine read
  | value fine =>
    rw [toJson_ofJson fine.canonical] at read
    cases read
    exact fine

theorem items {items : List Document} {ending : ArrayEnd}
    (within : Within bound origin (.array items ending)) (entered : origin.enter = .ok inner) :
    ∃ less, bound = less + 1 ∧ ∀ item ∈ items, Within less inner item := by
  generalize same : Document.array items ending = document at within
  cases within with
  | text _ =>
    cases bound with
    | zero => cases entered
    | succ less =>
      cases entered
      exact ⟨less, rfl, fun item _ => .text item⟩
  | @value json fine =>
    cases json with
    | array values =>
      cases entered
      obtain ⟨less, rfl, each⟩ := fine.items
      refine ⟨less, rfl, fun item member => ?_⟩
      rw [Document.ofJson, Document.ofJsonItems_eq] at same
      cases same
      obtain ⟨value, among, rfl⟩ := List.mem_map.1 member
      exact .value (each value among)
    | _ => cases same

theorem members {members : List DocumentMember} {ending : ObjectEnd}
    (within : Within bound origin (.object members ending)) (entered : origin.enter = .ok inner) :
    ∃ less, bound = less + 1 ∧ ∀ member ∈ members, Within less inner member.2 := by
  generalize same : Document.object members ending = document at within
  cases within with
  | text _ =>
    cases bound with
    | zero => cases entered
    | succ less =>
      cases entered
      exact ⟨less, rfl, fun member _ => .text member.2⟩
  | @value json fine =>
    cases json with
    | object values =>
      cases entered
      obtain ⟨less, rfl, each⟩ := fine.members
      refine ⟨less, rfl, fun member among => ?_⟩
      rw [Document.ofJson, Document.ofJsonMembers_eq] at same
      cases same
      obtain ⟨value, further, rfl⟩ := List.mem_map.1 among
      exact .value (each value further)
    | _ => cases same

end Within

end LayerGateway.Json
