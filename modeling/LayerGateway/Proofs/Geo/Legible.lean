import LayerGateway.Proofs.Geo.Parsing

/-!
# Features that can be read again

A legible feature is read from its own text as long as it nests no deeper than it may.  What the
store makes of legible features is legible: one with another address, or one that takes over the
address of another.  A collection of legible features is read again exactly when it is shallow,
that is, when none of its features nests too deep for the two levels around it.
-/

namespace LayerGateway

/-! ## Values -/

namespace Json

/-- A value that is read from its own text where `bound` more arrays and objects may be
opened. -/
structure Legible (bound : Nat) (json : Json) : Prop where
  fine : Fine bound json
  survives : json.Survives

variable {bound further : Nat} {json : Json} {map : Members}

theorem Legible.mono (legible : json.Legible bound) (le : bound ≤ further) :
    json.Legible further :=
  ⟨legible.fine.mono le, legible.survives⟩

theorem legible_string (text : String) : (string text).Legible bound :=
  ⟨⟨.string text, Nat.zero_le _⟩, .string text⟩

theorem legible_object (each : ∀ row ∈ map.rows, row.2.Legible bound) :
    (object map.rows).Legible (bound + 1) :=
  ⟨fine_object fun row member => (each row member).fine,
    .object trivial fun row member => (each row member).survives⟩

theorem Legible.rows (legible : (object map.rows).Legible (bound + 1)) :
    ∀ row ∈ map.rows, row.2.Legible bound := by
  obtain ⟨less, same, fine⟩ := legible.fine.members
  cases same
  exact fun row member => ⟨fine row member, legible.survives.members row member⟩

theorem Legible.insert (legible : (object map.rows).Legible (bound + 1)) {value : Json}
    (given : value.Legible bound) (key : String) :
    (object (map.insert key value).rows).Legible (bound + 1) :=
  legible_object (Rows.forall_mem_insert given legible.rows)

end Json

/-! ## Features -/

namespace Feature

/-- A feature that is read from its own text where `bound` more arrays and objects may be
opened. -/
structure Legible (bound : Nat) (feature : Feature) : Prop where
  wellFormed : feature.WellFormed
  survives : feature.written.Survives
  depth : feature.written.depth ≤ bound

variable {feature stored : Feature} {bound further : Nat}

theorem Legible.mono (legible : feature.Legible bound) (le : bound ≤ further) :
    feature.Legible further :=
  ⟨legible.wellFormed, legible.survives, Nat.le_trans legible.depth le⟩

theorem Legible.members (legible : feature.Legible (bound + 1)) :
    ∀ member ∈ feature.members, member.2.Legible bound := by
  have shallow := Json.depthMembers_le_iff.1 (Nat.le_of_succ_le_succ legible.depth)
  exact fun member among => ⟨⟨legible.wellFormed.canonical member among, shallow member among⟩,
    legible.survives.members member among⟩

theorem legible_of_members (id : feature.id ≠ some .null)
    (extra : ∀ row ∈ feature.extra.rows, shape.field? row.1 = none)
    (each : ∀ member ∈ feature.members, member.2.Legible bound) : feature.Legible (bound + 1) := by
  have shallow : Json.depthMembers feature.members ≤ bound :=
    Json.depthMembers_le_iff.2 fun member among => (each member among).fine.depth
  exact ⟨⟨id, extra, fun member among => (each member among).fine.canonical⟩,
    .object trivial fun member among => (each member among).survives, Nat.succ_le_succ shallow⟩

theorem Legible.withProperty (legible : feature.Legible (bound + 2)) {value : Json}
    (given : value.Legible bound) (key : String) :
    (feature.withProperty key value).Legible (bound + 2) := by
  obtain ⟨kind, id, geometry, properties, extra⟩ := forall_members.1 legible.members
  refine legible_of_members legible.wellFormed.id legible.wellFormed.extra
    (forall_members.2 ⟨kind, id, geometry, ?_, extra⟩)
  -- A feature without properties gets a level for the first one.
  have former : (Json.object (feature.properties.getD .empty).rows).Legible (bound + 1) := by
    cases given : feature.properties with
    | none => exact Json.legible_object fun row member => absurd member List.not_mem_nil
    | some map =>
      rw [given] at properties
      exact properties
  exact former.insert given key

/-- The address of a feature is a property, which stands two levels deep. -/
theorem Legible.address (legible : stored.Legible (bound + 2)) {value : Json}
    (address : stored.address? = some value) : value.Legible bound := by
  obtain ⟨map, given, found⟩ := Option.bind_eq_some_iff.1 address
  obtain ⟨-, -, -, properties, -⟩ := forall_members.1 legible.members
  rw [given] at properties
  exact properties.rows (addressKey, value) (map.mem_of_get? found)

theorem Legible.replacing (legible : feature.Legible (bound + 2))
    (former : stored.Legible (bound + 2)) : (feature.replacing stored).Legible (bound + 2) := by
  unfold Feature.replacing
  split
  · next value address => exact legible.withProperty (former.address address) addressKey
  · exact legible

theorem Legible.withGeoId (legible : feature.Legible (bound + 2)) (geoId : String) :
    (feature.withGeoId geoId).Legible (bound + 2) :=
  legible.withProperty (Json.legible_string geoId) addressKey

theorem legible_of_parsed (parsed : Json.Parsed decoder feature)
    (survives : feature.written.Survives) : feature.Legible Json.maxDepth :=
  ⟨(of_parsed parsed).1, survives, (of_parsed parsed).2⟩

end Feature

/-! ## Collections -/

namespace FeatureCollection

/-- A collection whose features are legible, and whose further members are where they stand. -/
structure Legible (bound : Nat) (collection : FeatureCollection) : Prop where
  features : ∀ feature ∈ collection.features, feature.Legible bound
  extra : ∀ row ∈ collection.extra.rows, shape.field? row.1 = none
  values : ∀ row ∈ collection.extra.rows, row.2.Legible (Json.maxDepth - 1)

/-- No feature nests too deep to be read inside of a collection. -/
def Shallow (collection : FeatureCollection) : Prop :=
  ∀ feature ∈ collection.features, feature.written.depth + 2 ≤ Json.maxDepth

instance (collection : FeatureCollection) : Decidable collection.Shallow :=
  inferInstanceAs (Decidable (∀ feature ∈ collection.features, _))

variable {collection : FeatureCollection} {bound : Nat}

theorem Legible.wellFormed (legible : collection.Legible bound) : collection.WellFormed :=
  ⟨fun feature member => (legible.features feature member).wellFormed, legible.extra,
    fun row member => (legible.values row member).fine.canonical⟩

theorem survives_written_iff : collection.written.Survives ↔
    (∀ feature ∈ collection.features, feature.written.Survives) ∧
      ∀ row ∈ collection.extra.rows, row.2.Survives := by
  constructor
  · intro survives
    have each := survives.members
    simp only [List.forall_mem_append, List.forall_mem_cons] at each
    exact ⟨List.forall_mem_map.1 each.1.2.1.items, each.2⟩
  · rintro ⟨features, extra⟩
    refine .object trivial ?_
    simp only [List.forall_mem_append, List.forall_mem_cons]
    exact ⟨⟨.string _, .array (List.forall_mem_map.2 features), List.forall_mem_nil _⟩, extra⟩

theorem Legible.survives (legible : collection.Legible bound) : collection.written.Survives :=
  survives_written_iff.2 ⟨fun feature member => (legible.features feature member).survives,
    fun row member => (legible.values row member).survives⟩

theorem Legible.shallow_iff (legible : collection.Legible bound) :
    collection.Shallow ↔ collection.written.depth ≤ Json.maxDepth := by
  have whole := depth_written_le_iff collection (Json.maxDepth - 2)
  constructor
  · intro shallow
    exact whole.2 ⟨fun feature member => Nat.le_sub_of_add_le (shallow feature member),
      fun row member => (legible.values row member).fine.depth⟩
  · intro depth feature member
    exact Nat.add_le_of_le_sub (by decide) ((whole.1 depth).1 feature member)

/-- What the store reads of a collection that it wrote. -/
theorem Legible.ofBytes_bytes (legible : collection.Legible bound) :
    ofBytes collection.bytes =
      if collection.Shallow then .ok collection else .error (.grammar .tooDeep) := by
  rw [FeatureCollection.ofBytes_bytes legible.wellFormed legible.survives, Json.Origin.limit]
  simp only [Json.Origin.admits, legible.shallow_iff, decide_eq_true_eq]

theorem Legible.mono (legible : collection.Legible bound) {further : Nat} (le : bound ≤ further) :
    collection.Legible further :=
  ⟨fun feature member => (legible.features feature member).mono le, legible.extra, legible.values⟩

theorem Legible.shallow (legible : collection.Legible (Json.maxDepth - 2)) : collection.Shallow :=
  fun feature member => Nat.add_le_of_le_sub (by decide) (legible.features feature member).depth

theorem legible_empty : (empty : FeatureCollection).Legible bound where
  features _ member := absurd member List.not_mem_nil
  extra _ member := absurd member List.not_mem_nil
  values _ member := absurd member List.not_mem_nil

theorem Legible.with_features (legible : collection.Legible bound) {features : List Feature}
    (each : ∀ feature ∈ features, feature.Legible bound) :
    { collection with features }.Legible bound :=
  ⟨each, legible.extra, legible.values⟩

/-- A collection that was read is not only legible but shallow, since its features were read
inside of it. -/
theorem legible_of_parsed (parsed : Json.Parsed decoder collection)
    (survives : collection.written.Survives) : collection.Legible (Json.maxDepth - 2) := by
  obtain ⟨wellFormed, depth⟩ := of_parsed parsed
  obtain ⟨features, extra⟩ := (depth_written_le_iff collection (Json.maxDepth - 2)).1 depth
  obtain ⟨featuresSurvive, extraSurvives⟩ := survives_written_iff.1 survives
  exact ⟨fun feature member => ⟨wellFormed.features feature member,
      featuresSurvive feature member, features feature member⟩, wellFormed.extra,
    fun row member => ⟨⟨wellFormed.canonical row member, extra row member⟩,
      extraSurvives row member⟩⟩

end FeatureCollection

end LayerGateway
