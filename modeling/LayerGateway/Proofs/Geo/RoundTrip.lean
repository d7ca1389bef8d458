import LayerGateway.Geo.Collection
import LayerGateway.Proofs.Json.Decoding
import LayerGateway.Proofs.Json.Printing

/-!
# What is written of a collection is read

A collection is written as an object whose first members are its fields.  When none of its
further members has the name of a field, and its numbers survive, nothing can be wrong with its
text but its depth: `FeatureCollection.ofBytes_bytes` says what is read of it.
-/

namespace LayerGateway

open Json (Decodes Reads)

/-! ## Features -/

namespace Feature

def written (feature : Feature) : Json :=
  .object feature.members

/-- A feature whose members can be told apart by their names, and whose values keep their
order. -/
structure WellFormed (feature : Feature) : Prop where
  id : feature.id ≠ some .null
  extra : ∀ row ∈ feature.extra.rows, shape.field? row.1 = none
  canonical : ∀ member ∈ feature.members, member.2.Canonical

variable {feature : Feature}

theorem forall_members {property : Json → Prop} :
    (∀ member ∈ feature.members, property member.2) ↔
      property (.string "Feature") ∧ (∀ id, feature.id = some id → property id) ∧
        property feature.geometry ∧
        property (feature.properties.elim .null fun map => .object map.rows) ∧
        ∀ row ∈ feature.extra.rows, property row.2 := by
  have identified : (∀ member ∈ (feature.id.map fun id => ("id", id)).toList, property member.2) ↔
      ∀ id, feature.id = some id → property id := by
    cases feature.id <;> simp
  simp only [members, List.forall_mem_append, List.forall_mem_cons, List.not_mem_nil,
    false_implies, implies_true, true_and, identified, and_assoc]

theorem decodes_properties {properties : Option Members}
    (canonical : (properties.elim .null fun map => .object map.rows : Json).Canonical) :
    Decodes (Json.optional Json.anyObject)
      (properties.elim .null fun map => .object map.rows) properties := by
  cases properties with
  | none => exact Json.decodes_null _
  | some map => exact Json.decodes_optional (Json.decodes_anyObject canonical.members) nofun

theorem fills_members (wellFormed : feature.WellFormed) :
    shape.Fills [] {} feature.members
      (⟨some (), feature.id, feature.geometry, feature.properties⟩, feature.extra.rows) := by
  obtain ⟨-, id, geometry, properties, extra⟩ := forall_members.1 wellFormed.canonical
  have geometry := Json.decodes_anyValue geometry
  have properties := decodes_properties properties
  have extra := Json.Shape.fills_foreign wellFormed.extra extra
  -- The members behind `id`, whether that one is there or not.
  have rest (seen : List String) (draft : Draft) (first : "geometry" ∉ seen ∧ "properties" ∉ seen) :
      shape.Fills seen draft
        (("geometry", feature.geometry) ::
          ("properties", feature.properties.elim .null fun map => .object map.rows) ::
            feature.extra.rows)
        ({ draft with geometry := feature.geometry, properties := feature.properties },
          feature.extra.rows) := by
    refine .known rfl first.1 (Json.Shape.set_of geometry _ _ _) ?_
    refine .known rfl (by simp [first.2]) (Json.Shape.set_of properties _ _ _) ?_
    exact extra _ _
  refine .known rfl nofun (Json.Shape.set_of (Json.decodes_constant "Feature") _ _ _) ?_
  cases given : feature.id with
  | none => exact rest _ _ (by decide)
  | some value =>
    have notNull : value ≠ .null := fun null => wellFormed.id (given.trans (congrArg some null))
    have id := Json.decodes_optional (Json.decodes_anyValue (id value given)) notNull
    refine .known rfl (by decide) (Json.Shape.set_of id _ _ _) ?_
    exact rest _ _ (by decide)

theorem decodes_written (wellFormed : feature.WellFormed) :
    Decodes decoder feature.written feature := by
  intro origin
  rw [decoder, written, Json.Shape.decodes_opened (fills_members wellFormed) origin]
  refine Json.Origin.limit_done ?_
  change Except.ok { feature with extra := .ofRows feature.extra.rows } = _
  rw [OrderedMap.ofRows_rows]

/-! ### Other addresses -/

theorem wellFormed_ofGeometry {geometry : Json} (canonical : geometry.Canonical) :
    (ofGeometry geometry).WellFormed where
  id := (Option.some_ne_none _).symm
  extra := fun _ member => absurd member List.not_mem_nil
  canonical := forall_members.2 ⟨.string _, fun _ given => (Option.some_ne_none _ given.symm).elim,
    canonical, .null, fun _ member => absurd member List.not_mem_nil⟩

theorem WellFormed.withProperty (wellFormed : feature.WellFormed) {value : Json}
    (canonical : value.Canonical) (key : String) : (feature.withProperty key value).WellFormed := by
  obtain ⟨kind, id, geometry, properties, extra⟩ := forall_members.1 wellFormed.canonical
  refine ⟨wellFormed.id, wellFormed.extra, forall_members.2 ⟨kind, id, geometry, ?_, extra⟩⟩
  have former : ∀ row ∈ (feature.properties.getD .empty).rows, row.2.Canonical := by
    cases given : feature.properties with
    | none => exact fun row member => absurd member List.not_mem_nil
    | some map =>
      rw [given] at properties
      exact properties.members
  exact .object (OrderedMap.sorted _) (Rows.forall_mem_insert canonical former)

theorem WellFormed.withGeoId (wellFormed : feature.WellFormed) (geoId : String) :
    (feature.withGeoId geoId).WellFormed :=
  wellFormed.withProperty (.string geoId) addressKey

theorem WellFormed.address {stored : Feature} (wellFormed : stored.WellFormed) {value : Json}
    (address : stored.address? = some value) : value.Canonical := by
  obtain ⟨map, given, found⟩ := Option.bind_eq_some_iff.1 address
  obtain ⟨-, -, -, properties, -⟩ := forall_members.1 wellFormed.canonical
  rw [given] at properties
  exact properties.members (addressKey, value) (map.mem_of_get? found)

theorem WellFormed.replacing {stored : Feature} (wellFormed : feature.WellFormed)
    (former : stored.WellFormed) :
    (feature.replacing stored).WellFormed := by
  unfold Feature.replacing
  split
  · next value address => exact wellFormed.withProperty (former.address address) addressKey
  · exact wellFormed

end Feature

/-! ## Collections -/

namespace FeatureCollection

def written (collection : FeatureCollection) : Json :=
  .object <|
    [("type", .string "FeatureCollection"),
     ("features", .array (collection.features.map Feature.written))]
      ++ collection.extra.rows

theorem print_eq (collection : FeatureCollection) : collection.print = collection.written.print := by
  have features : (Json.array (collection.features.map Feature.written)).print =
      Json.arrayText (collection.features.map Feature.print) := by
    rw [Json.print, Json.printItems_eq, List.map_map]
    rfl
  rw [print, ← features]
  rfl

/-- A collection of well-formed features whose members can be told apart by their names. -/
structure WellFormed (collection : FeatureCollection) : Prop where
  features : ∀ feature ∈ collection.features, feature.WellFormed
  extra : ∀ row ∈ collection.extra.rows, shape.field? row.1 = none
  canonical : ∀ row ∈ collection.extra.rows, row.2.Canonical

variable {collection : FeatureCollection}

theorem decodes_written (wellFormed : collection.WellFormed) :
    Decodes decoder collection.written collection := by
  have features : Decodes (Json.listOf Feature.decoder)
      (.array (collection.features.map Feature.written)) collection.features :=
    Json.decodes_listOf fun feature member =>
      Feature.decodes_written (wellFormed.features feature member)
  have fills : shape.Fills [] {}
      ([("type", .string "FeatureCollection"),
        ("features", .array (collection.features.map Feature.written))]
          ++ collection.extra.rows)
      (⟨some (), collection.features⟩, collection.extra.rows) := by
    refine .known rfl nofun (Json.Shape.set_of (Json.decodes_constant "FeatureCollection") _ _ _) ?_
    refine .known rfl (by decide) (Json.Shape.set_of features _ _ _) ?_
    exact Json.Shape.fills_foreign wellFormed.extra wellFormed.canonical _ _
  intro origin
  rw [decoder, written, Json.Shape.decodes_opened fills origin]
  refine Json.Origin.limit_done ?_
  change Except.ok { collection with extra := .ofRows collection.extra.rows } = _
  rw [OrderedMap.ofRows_rows]

/-- What is read of the bytes of a collection. -/
theorem ofBytes_bytes (wellFormed : collection.WellFormed)
    (survives : collection.written.Survives) :
    ofBytes collection.bytes =
      (Json.Origin.text Json.maxDepth).limit collection.written.depth collection := by
  have read := (Json.reads_print survives).ofBytes
  rw [ofBytes, bytes, print_eq, read, Json.decode, decodes_written wellFormed]
  exact Json.Origin.limit_done rfl

/-- A feature stands two levels deep in its collection. -/
theorem depth_written_le_iff (collection : FeatureCollection) (bound : Nat) :
    collection.written.depth ≤ bound + 2 ↔
      (∀ feature ∈ collection.features, feature.written.depth ≤ bound) ∧
        ∀ row ∈ collection.extra.rows, row.2.depth ≤ bound + 1 := by
  have features : Json.depthItems (collection.features.map Feature.written) ≤ bound ↔
      ∀ feature ∈ collection.features, feature.written.depth ≤ bound := by
    rw [Json.depthItems_le_iff, List.forall_mem_map]
  rw [written, Json.depth, Nat.succ_le_succ_iff, Json.depthMembers_le_iff, List.forall_mem_append]
  simp [Json.depth, features]

end FeatureCollection

end LayerGateway
