import LayerGateway.Proofs.Geo.Parsing
import LayerGateway.Proofs.Json.Records

/-!
# Features and collections as objects

What is read as a feature can be read as an object, and holds what the object holds.

* `Feature.Carries` and `FeatureCollection.Carries` say which members of an object are where in
  what is read of it, and which are kept as they are.
* `decoder_readsOff` says that whatever is read is carried by the object in the text.
* `Explicit` objects are those in which nothing is missing that would be written, and there is
  only one that carries a given feature or collection.
-/

namespace LayerGateway

open Json (Decodes IsConstant IsObject ReadsOff)
open OrderedMap (get?_insert)

/-! ## Features -/

namespace Feature

/-- The names of the members that a feature knows. -/
def names : List String :=
  ["type", "id", "geometry", "properties"]

theorem field?_eq_none_iff {key : String} : shape.field? key = none ↔ key ∉ names :=
  Json.Shape.field?_eq_none_iff

/-- A feature holds what an object does: the members it knows, of which all but the type may be
missing or `null`, and the others as they are. -/
structure Carries (json : Json) (feature : Feature) : Prop where
  object : IsObject json
  type : ∃ type, json.member? "type" = some type ∧ IsConstant "Feature" type
  id : feature.id = (json.member? "id").filter (· ≠ .null)
  geometry : feature.geometry = (json.member? "geometry").getD .null
  properties : Json.ofObject? feature.properties = (json.member? "properties").getD .null
  extra : ∀ key, feature.extra.get? key = if key ∈ names then none else json.member? key

/-! ### Reading -/

/-- What has been read of a feature is what the members say that were read. -/
structure Draft.Carries (map : Members) (draft : Draft) : Prop where
  kind : draft.kind.isSome = (map.get? "type").isSome
  type : ∀ type, map.get? "type" = some type → IsConstant "Feature" type
  id : draft.id = (map.get? "id").filter (· ≠ .null)
  geometry : draft.geometry = (map.get? "geometry").getD .null
  properties : Json.ofObject? draft.properties = (map.get? "properties").getD .null

theorem carries_blank : Draft.Carries .empty {} :=
  ⟨rfl, nofun, rfl, rfl, rfl⟩

theorem mirrors : shape.Mirrors Draft.Carries where
  field := by
    intro field among
    simp only [shape, List.mem_cons, List.not_mem_nil, or_false] at among
    rcases among with rfl | rfl | rfl | rfl
    · refine Json.Shape.mirrors_of (Json.readsOff_constant _) fun map draft json _ constant held => ?_
      exact ⟨by simp, by simpa using constant, by simp [get?_insert, held.id],
        by simp [get?_insert, held.geometry], by simp [get?_insert, held.properties]⟩
    · refine Json.Shape.mirrors_of Json.readsOff_optional_anyValue fun map draft json id same held => ?_
      exact ⟨by simp [get?_insert, held.kind], by simpa [get?_insert] using held.type,
        by simp [same], by simp [get?_insert, held.geometry],
        by simp [get?_insert, held.properties]⟩
    · refine Json.Shape.mirrors_of Json.readsOff_anyValue fun map draft json geometry same held => ?_
      exact ⟨by simp [get?_insert, held.kind], by simpa [get?_insert] using held.type,
        by simp [get?_insert, held.id], by simp [same], by simp [get?_insert, held.properties]⟩
    · refine Json.Shape.mirrors_of Json.readsOff_optional_anyObject
        fun map draft json properties same held => ?_
      exact ⟨by simp [get?_insert, held.kind], by simpa [get?_insert] using held.type,
        by simp [get?_insert, held.id], by simp [get?_insert, held.geometry], by simp [same]⟩
  foreign := by
    intro map draft key json foreign held
    have other : ∀ name ∈ names, name ≠ key := by
      rintro name member rfl
      exact field?_eq_none_iff.1 foreign member
    simp only [names, List.forall_mem_cons] at other
    obtain ⟨type, id, geometry, properties, -⟩ := other
    constructor
    · rw [OrderedMap.get?_insert_of_ne _ type, held.kind]
    · rw [OrderedMap.get?_insert_of_ne _ type]
      exact held.type
    · rw [OrderedMap.get?_insert_of_ne _ id, held.id]
    · rw [OrderedMap.get?_insert_of_ne _ geometry, held.geometry]
    · rw [OrderedMap.get?_insert_of_ne _ properties, held.properties]

theorem decoder_readsOff : ReadsOff decoder Carries := by
  intro bound origin document feature within read
  obtain ⟨⟨draft, extra⟩, opened, read⟩ := ok_of_bind read
  obtain ⟨kind, given, read⟩ := ok_of_bind read
  cases read
  obtain ⟨_, decoded, map, rfl, held, further⟩ :=
    Json.Shape.opened_readsOff mirrors carries_blank within opened
  refine ⟨_, decoded, ⟨map, rfl⟩, ?_, held.id, held.geometry, held.properties, further⟩
  have known := held.kind.symm.trans (congrArg Option.isSome (Json.required_eq_ok.1 given))
  obtain ⟨type, found⟩ := Option.isSome_iff_exists.1 known
  exact ⟨type, found, held.type type found⟩

/-- An object carries one feature at most. -/
theorem Carries.unique {json : Json} {feature other : Feature} (carries : Carries json feature)
    (otherCarries : Carries json other) : feature = other := by
  have id := carries.id.trans otherCarries.id.symm
  have geometry := carries.geometry.trans otherCarries.geometry.symm
  have properties := Json.ofObject?_injective (carries.properties.trans otherCarries.properties.symm)
  have extra : feature.extra = other.extra := OrderedMap.ext_get? fun key =>
    (carries.extra key).trans (otherCarries.extra key).symm
  cases feature
  cases other
  simp_all

/-- An object in which the type is a text and no other known member is missing; only the
identifier may be, and it is not `null`. -/
structure Explicit (json : Json) : Prop where
  type : json.member? "type" = some (.string "Feature")
  id : json.member? "id" ≠ some .null
  geometry : json.member? "geometry" ≠ none
  properties : json.member? "properties" ≠ none

/-- Only one explicit object carries a feature. -/
theorem Carries.eq_of_explicit {json other : Json} {feature : Feature}
    (carries : Carries json feature) (explicit : Explicit json)
    (otherCarries : Carries other feature) (otherExplicit : Explicit other) : json = other := by
  refine Json.eq_of_member? carries.object otherCarries.object fun key => ?_
  by_cases known : key ∈ names
  · simp only [names, List.mem_cons, List.not_mem_nil, or_false] at known
    rcases known with rfl | rfl | rfl | rfl
    · rw [explicit.type, otherExplicit.type]
    · have id := carries.id.symm.trans otherCarries.id
      rwa [Json.filter_ne_null explicit.id, Json.filter_ne_null otherExplicit.id] at id
    · exact Json.eq_of_getD explicit.geometry otherExplicit.geometry
        (carries.geometry.symm.trans otherCarries.geometry)
    · exact Json.eq_of_getD explicit.properties otherExplicit.properties
        (carries.properties.symm.trans otherCarries.properties)
  · have extra := (carries.extra key).symm.trans (otherCarries.extra key)
    rwa [if_neg known, if_neg known] at extra

/-! ### Writing -/

section Writing

variable {feature : Feature}

/-- No member of a feature is written twice. -/
theorem nodup_members (wellFormed : feature.WellFormed) : (feature.members.map (·.1)).Nodup := by
  have foreign : ∀ key ∈ feature.extra.keys, key ∉ names := by
    intro key member
    obtain ⟨row, among, rfl⟩ := List.mem_map.1 member
    exact field?_eq_none_iff.1 (wellFormed.extra row among)
  have keys : feature.members.map (·.1) =
      ("type" :: (feature.id.map fun _ => "id").toList ++ ["geometry", "properties"]) ++
        feature.extra.keys := by
    cases given : feature.id <;> simp [members, OrderedMap.keys, given]
  have known : ("type" :: (feature.id.map fun _ => "id").toList ++
      ["geometry", "properties"]).Sublist names := by
    cases feature.id <;> simp [names]
  rw [keys]
  refine List.nodup_append.2 ⟨known.nodup (by decide), feature.extra.nodup_keys, ?_⟩
  rintro key among _ member rfl
  exact foreign key member (known.subset among)

theorem member?_toJson (wellFormed : feature.WellFormed) {key : String} {value : Json}
    (member : (key, value) ∈ feature.members) : feature.toJson.member? key = some value :=
  OrderedMap.get?_ofRows_of_mem (nodup_members wellFormed) member

theorem properties_toJson (wellFormed : feature.WellFormed) :
    feature.toJson.member? "properties" = some (Json.ofObject? feature.properties) :=
  member?_toJson wellFormed (by simp [members, Json.ofObject?])

theorem decodes_toJson (wellFormed : feature.WellFormed) :
    Decodes Json.anyValue feature.written feature.toJson :=
  Json.decodes_object (Json.toMembers_ofJson fun member among =>
    Json.toJson_ofJson (wellFormed.canonical member among))

theorem canonical_toJson (wellFormed : feature.WellFormed) : feature.toJson.Canonical :=
  .object (OrderedMap.sorted _) fun row member =>
    wellFormed.canonical row (OrderedMap.mem_ofRows member)

/-- The value of a feature carries it. -/
theorem carries_toJson (wellFormed : feature.WellFormed) : Carries feature.toJson feature := by
  have shallow := Nat.le_refl feature.written.depth
  have read := decodes_written wellFormed (.text feature.written.depth)
  have readValue := decodes_toJson wellFormed (.text feature.written.depth)
  rw [Json.Origin.limit_text shallow] at read readValue
  obtain ⟨json, decoded, carries⟩ := decoder_readsOff (.text _) read
  cases decoded.symm.trans readValue
  exact carries

/-- Nothing is missing in the value of a feature. -/
theorem explicit_toJson (wellFormed : feature.WellFormed) : Explicit feature.toJson := by
  have geometry : feature.toJson.member? "geometry" = some feature.geometry :=
    member?_toJson wellFormed (by simp [members])
  refine ⟨member?_toJson wellFormed (by simp [members]), fun null => ?_, ?_, ?_⟩
  · have written := Json.mem_of_member?_ofMembers null
    have foreign : ("id", Json.null) ∉ feature.extra.rows := fun member =>
      field?_eq_none_iff.1 (wellFormed.extra _ member) (by simp [names])
    have given : feature.id = some .null := by
      simpa [members, foreign, eq_comm] using written
    exact wellFormed.id given
  · rw [geometry]
    exact Option.some_ne_none _
  · rw [properties_toJson wellFormed]
    exact Option.some_ne_none _

/-- Every field is read in the value of a feature, whatever was read before. -/
theorem exists_set (wellFormed : feature.WellFormed) {member : String × Json}
    (among : member ∈ (OrderedMap.ofRows feature.members).rows) {field : Json.Field Draft}
    (known : shape.field? member.1 = some field) (draft : Draft) :
    ∃ next, field.set .value (Json.Document.ofJson member.2) draft = .ok next := by
  obtain ⟨-, id, geometry, properties, -⟩ := forall_members.1 wellFormed.canonical
  have written := OrderedMap.mem_ofRows among
  simp only [members, List.mem_append, List.mem_cons, List.not_mem_nil, or_false, Option.mem_toList,
    Option.map_eq_some_iff] at written
  rcases written with ((rfl | ⟨value, given, rfl⟩) | rfl | rfl) | foreign
  · cases known
    exact ⟨_, Json.Shape.set_of (Json.decodes_constant "Feature") _ _ _ .value⟩
  · cases known
    have notNull : value ≠ .null := fun null => wellFormed.id (given.trans (congrArg some null))
    have decodes := Json.decodes_optional (Json.decodes_anyValue (id value given)) notNull
    exact ⟨_, Json.Shape.set_of decodes _ _ _ .value⟩
  · cases known
    exact ⟨_, Json.Shape.set_of (Json.decodes_anyValue geometry) _ _ _ .value⟩
  · cases known
    exact ⟨_, Json.Shape.set_of (decodes_properties properties) _ _ _ .value⟩
  · cases (wellFormed.extra member foreign).symm.trans known

/-- The value of a feature is read as that feature. -/
theorem decode_toJson (wellFormed : feature.WellFormed) :
    Json.decodeValue decoder feature.toJson = .ok feature := by
  have canonical := canonical_toJson wellFormed
  obtain ⟨draft, extra, opened, held⟩ :=
    Json.Shape.exists_opened mirrors carries_blank canonical.members
      fun member among field known draft => exists_set wellFormed among known draft
  -- The draft has a type, since the object has one.
  have type : feature.toJson.member? "type" = some (.string "Feature") :=
    member?_toJson wellFormed (by simp [members])
  obtain ⟨_, kind⟩ := Option.isSome_iff_exists.1 (held.kind.trans (congrArg Option.isSome type))
  have read : decoder .value (Json.Document.ofJson feature.toJson) =
      .ok ⟨draft.id, draft.geometry, draft.properties, .ofRows extra⟩ := by
    rw [decoder, toJson, Json.ofMembers, bind_of_ok opened]
    exact bind_of_ok (Json.required_eq_ok.2 kind) _
  have carries := decoder_readsOff.of_value canonical read
  rw [Json.decodeValue, read, carries.unique (carries_toJson wellFormed)]

end Writing

end Feature

/-! ## Collections -/

namespace FeatureCollection

/-- The names of the members that a collection knows. -/
def names : List String :=
  ["type", "features"]

theorem field?_eq_none_iff {key : String} : shape.field? key = none ↔ key ∉ names :=
  Json.Shape.field?_eq_none_iff

/-- A collection holds what an object does: its features in their order, if there are any, and the
members it does not know as they are. -/
structure Carries (json : Json) (collection : FeatureCollection) : Prop where
  object : IsObject json
  type : ∃ type, json.member? "type" = some type ∧ IsConstant "FeatureCollection" type
  features : ∃ items, (json.member? "features").getD (.array []) = .array items ∧
    List.Forall₂ Feature.Carries items collection.features
  extra : ∀ key, collection.extra.get? key = if key ∈ names then none else json.member? key

/-! ### Reading -/

/-- What has been read of a collection is what the members say that were read. -/
structure Draft.Carries (map : Members) (draft : Draft) : Prop where
  kind : draft.kind.isSome = (map.get? "type").isSome
  type : ∀ type, map.get? "type" = some type → IsConstant "FeatureCollection" type
  features : ∃ items, (map.get? "features").getD (.array []) = .array items ∧
    List.Forall₂ Feature.Carries items draft.features

theorem carries_blank : Draft.Carries .empty {} :=
  ⟨rfl, nofun, [], rfl, .nil⟩

theorem mirrors : shape.Mirrors Draft.Carries where
  field := by
    intro field among
    simp only [shape, List.mem_cons, List.not_mem_nil, or_false] at among
    rcases among with rfl | rfl
    · refine Json.Shape.mirrors_of (Json.readsOff_constant _) fun map draft json _ constant held => ?_
      exact ⟨by simp, by simpa using constant, by simpa [get?_insert] using held.features⟩
    · refine Json.Shape.mirrors_of (Json.readsOff_listOf Feature.decoder_readsOff)
        fun map draft json features given held => ?_
      obtain ⟨items, rfl, carried⟩ := given
      exact ⟨by simp [get?_insert, held.kind], by simpa [get?_insert] using held.type,
        items, by simp, carried⟩
  foreign := by
    intro map draft key json foreign held
    have other : ∀ name ∈ names, name ≠ key := by
      rintro name member rfl
      exact field?_eq_none_iff.1 foreign member
    simp only [names, List.forall_mem_cons] at other
    obtain ⟨type, features, -⟩ := other
    constructor
    · rw [OrderedMap.get?_insert_of_ne _ type, held.kind]
    · rw [OrderedMap.get?_insert_of_ne _ type]
      exact held.type
    · rw [OrderedMap.get?_insert_of_ne _ features]
      exact held.features

theorem decoder_readsOff : ReadsOff decoder Carries := by
  intro bound origin document collection within read
  obtain ⟨⟨draft, extra⟩, opened, read⟩ := ok_of_bind read
  obtain ⟨kind, given, read⟩ := ok_of_bind read
  cases read
  obtain ⟨_, decoded, map, rfl, held, further⟩ :=
    Json.Shape.opened_readsOff mirrors carries_blank within opened
  refine ⟨_, decoded, ⟨map, rfl⟩, ?_, held.features, further⟩
  have known := held.kind.symm.trans (congrArg Option.isSome (Json.required_eq_ok.1 given))
  obtain ⟨type, found⟩ := Option.isSome_iff_exists.1 known
  exact ⟨type, found, held.type type found⟩

/-- An object carries one collection at most. -/
theorem Carries.unique {json : Json} {collection other : FeatureCollection}
    (carries : Carries json collection) (otherCarries : Carries json other) :
    collection = other := by
  obtain ⟨items, found, carried⟩ := carries.features
  obtain ⟨_, otherFound, otherCarried⟩ := otherCarries.features
  cases found.symm.trans otherFound
  have features : collection.features = other.features :=
    List.right_unique_forall₂' (fun _ _ _ first second => first.unique second) carried otherCarried
  have extra : collection.extra = other.extra := OrderedMap.ext_get? fun key =>
    (carries.extra key).trans (otherCarries.extra key).symm
  cases collection
  cases other
  simp_all

/-- An object in which the type is a text and the features are there, all of them explicit. -/
structure Explicit (json : Json) : Prop where
  type : json.member? "type" = some (.string "FeatureCollection")
  features : ∃ items, json.member? "features" = some (.array items) ∧
    ∀ item ∈ items, Feature.Explicit item

/-- Only one explicit object carries a collection. -/
theorem Carries.eq_of_explicit {json other : Json} {collection : FeatureCollection}
    (carries : Carries json collection) (explicit : Explicit json)
    (otherCarries : Carries other collection) (otherExplicit : Explicit other) : json = other := by
  refine Json.eq_of_member? carries.object otherCarries.object fun key => ?_
  by_cases known : key ∈ names
  · simp only [names, List.mem_cons, List.not_mem_nil, or_false] at known
    rcases known with rfl | rfl
    · rw [explicit.type, otherExplicit.type]
    · obtain ⟨items, found, carried⟩ := carries.features
      obtain ⟨others, otherFound, otherCarried⟩ := otherCarries.features
      obtain ⟨_, given, each⟩ := explicit.features
      obtain ⟨_, otherGiven, otherEach⟩ := otherExplicit.features
      rw [given] at found ⊢
      rw [otherGiven] at otherFound ⊢
      cases found
      cases otherFound
      have both := (List.forall₂_and_left _ _).2 ⟨each, carried⟩
      have otherBoth := (List.forall₂_and_left _ _).2 ⟨otherEach, otherCarried⟩
      have same : items = others := List.left_unique_forall₂'
        (fun _ _ _ first second => first.2.eq_of_explicit first.1 second.2 second.1) both otherBoth
      rw [same]
  · have extra := (carries.extra key).symm.trans (otherCarries.extra key)
    rwa [if_neg known, if_neg known] at extra

/-! ### Writing -/

section Writing

def members (collection : FeatureCollection) : List (String × Json) :=
  [("type", .string "FeatureCollection"),
   ("features", .array (collection.features.map Feature.toJson))]
    ++ collection.extra.rows

variable {collection : FeatureCollection}

/-- No member of a collection is written twice. -/
theorem nodup_members (wellFormed : collection.WellFormed) :
    (collection.members.map (·.1)).Nodup := by
  have foreign : ∀ key ∈ collection.extra.keys, key ∉ names := by
    intro key member
    obtain ⟨row, among, rfl⟩ := List.mem_map.1 member
    exact field?_eq_none_iff.1 (wellFormed.extra row among)
  have keys : collection.members.map (·.1) = names ++ collection.extra.keys := by
    simp [members, names, OrderedMap.keys]
  rw [keys]
  refine List.nodup_append.2 ⟨by decide, collection.extra.nodup_keys, ?_⟩
  rintro key among _ member rfl
  exact foreign key member among

theorem member?_toJson (wellFormed : collection.WellFormed) {key : String} {value : Json}
    (member : (key, value) ∈ collection.members) : collection.toJson.member? key = some value :=
  OrderedMap.get?_ofRows_of_mem (nodup_members wellFormed) member

theorem decodes_toJson (wellFormed : collection.WellFormed) :
    Decodes Json.anyValue collection.written collection.toJson := by
  have features := Json.decodes_array fun feature member =>
    Feature.decodes_toJson (wellFormed.features feature member)
  refine Json.decodes_object (Json.toMembers_cons _ (Json.decodes_anyValue (.string _))
    (Json.toMembers_cons _ features ?_))
  exact Json.toMembers_ofJson fun member among =>
    Json.toJson_ofJson (wellFormed.canonical member among)

theorem canonical_toJson (wellFormed : collection.WellFormed) : collection.toJson.Canonical := by
  refine .object (OrderedMap.sorted _) fun row member => ?_
  have written : row ∈ collection.members := OrderedMap.mem_ofRows member
  simp only [members, List.mem_append, List.mem_cons, List.not_mem_nil, or_false] at written
  rcases written with (rfl | rfl) | foreign
  · exact .string _
  · refine .array fun item among => ?_
    obtain ⟨feature, further, rfl⟩ := List.mem_map.1 among
    exact Feature.canonical_toJson (wellFormed.features feature further)
  · exact wellFormed.canonical row foreign

/-- The value of a collection carries it. -/
theorem carries_toJson (wellFormed : collection.WellFormed) :
    Carries collection.toJson collection := by
  have shallow := Nat.le_refl collection.written.depth
  have read := decodes_written wellFormed (.text collection.written.depth)
  have readValue := decodes_toJson wellFormed (.text collection.written.depth)
  rw [Json.Origin.limit_text shallow] at read readValue
  obtain ⟨json, decoded, carries⟩ := decoder_readsOff (.text _) read
  cases decoded.symm.trans readValue
  exact carries

/-- Nothing is missing in the value of a collection. -/
theorem explicit_toJson (wellFormed : collection.WellFormed) : Explicit collection.toJson := by
  refine ⟨member?_toJson wellFormed (by simp [members]),
    collection.features.map Feature.toJson,
    member?_toJson wellFormed (by simp [members]), fun item among => ?_⟩
  obtain ⟨feature, further, rfl⟩ := List.mem_map.1 among
  exact Feature.explicit_toJson (wellFormed.features feature further)

/-- Every field is read in the value of a collection, whatever was read before. -/
theorem exists_set (wellFormed : collection.WellFormed) {member : String × Json}
    (among : member ∈ (OrderedMap.ofRows collection.members).rows) {field : Json.Field Draft}
    (known : shape.field? member.1 = some field) (draft : Draft) :
    ∃ next, field.set .value (Json.Document.ofJson member.2) draft = .ok next := by
  have features : Json.listOf Feature.decoder .value
      (Json.Document.ofJson (.array (collection.features.map Feature.toJson))) =
        .ok collection.features := by
    rw [Json.Document.ofJson, Json.Document.ofJsonItems_eq, List.map_map, Json.listOf]
    have each := Json.mapM_decode fun feature member =>
      Feature.decode_toJson (wellFormed.features feature member)
    exact bind_of_ok each _
  have written : member ∈ collection.members := OrderedMap.mem_ofRows among
  simp only [members, List.mem_append, List.mem_cons, List.not_mem_nil, or_false] at written
  rcases written with (rfl | rfl) | foreign
  · cases known
    exact ⟨_, Json.Shape.set_of (Json.decodes_constant "FeatureCollection") _ _ _ .value⟩
  · cases known
    exact ⟨_, congrArg (Except.map _) features⟩
  · cases (wellFormed.extra member foreign).symm.trans known

/-- The value of a collection is read as that collection. -/
theorem decode_toJson (wellFormed : collection.WellFormed) :
    Json.decodeValue decoder collection.toJson = .ok collection := by
  have canonical := canonical_toJson wellFormed
  obtain ⟨draft, extra, opened, held⟩ :=
    Json.Shape.exists_opened mirrors carries_blank canonical.members
      fun member among field known draft => exists_set wellFormed among known draft
  have type : collection.toJson.member? "type" = some (.string "FeatureCollection") :=
    member?_toJson wellFormed (by simp [members])
  obtain ⟨_, kind⟩ := Option.isSome_iff_exists.1 (held.kind.trans (congrArg Option.isSome type))
  have read : decoder .value (Json.Document.ofJson collection.toJson) =
      .ok ⟨draft.features, .ofRows extra⟩ := by
    have opened : shape.opened {} Json.anyValue .value (Json.Document.ofJson collection.toJson) =
      .ok (draft, extra) := opened
    rw [decoder, bind_of_ok opened]
    exact bind_of_ok (Json.required_eq_ok.2 kind) _
  have carries := decoder_readsOff.of_value canonical read
  rw [Json.decodeValue, read, carries.unique (carries_toJson wellFormed)]

end Writing

end FeatureCollection

end LayerGateway
