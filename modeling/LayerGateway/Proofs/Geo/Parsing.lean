import LayerGateway.Http.Handler
import LayerGateway.Proofs.Geo.RoundTrip

/-!
# Collections that were read

Whatever is read as a feature or a collection is well formed, and nests no deeper than its text
was allowed to.  That is so of bodies, and of arguments, which were read as free-form values
before.
-/

namespace LayerGateway

open Json (Decoder Document Fine Origin Within)

/-- A value that was read from a text of its own, or from a value inside another text. -/
inductive Json.Parsed {α : Type} (decoder : Decoder α) (value : α) : Prop where
  | text (source : Json.Source) (read : Json.decode decoder source = .ok value)
  | argument {document : Document} {bound : Nat} {json : Json} (deep : bound ≤ Json.maxDepth)
      (parsed : document.toJson (.text bound) = .ok json)
      (read : Json.decodeValue decoder json = .ok value)

theorem Json.Parsed.within {α : Type} {decoder : Decoder α} {value : α}
    (parsed : Json.Parsed decoder value) :
    ∃ origin document, Within Json.maxDepth origin document ∧
      decoder origin document = .ok value := by
  cases parsed with
  | text source read =>
    obtain ⟨read, decoded, ended⟩ := ok_of_bind read
    cases trailing : source.trailing with
    | true =>
      rw [trailing] at ended
      cases ended
    | false =>
      rw [trailing] at ended
      cases ended
      exact ⟨_, _, .text _, decoded⟩
  | argument deep parsed read =>
    exact ⟨_, _, .value ((Json.toJson_fine parsed).mono deep), read⟩

theorem parsed_of_body {α : Type} {what : String} {decoder : Decoder α} {body : Bytes} {value : α}
    (accepted : Http.decodeBody what decoder body = .ok value) : Json.Parsed decoder value :=
  .text _ (mapError_eq_ok.1 accepted)

theorem parsed_of_argument {α : Type} {field : String} {decoder : Decoder α} {document : Document}
    {bound : Nat} {json : Json} {value : α} (deep : bound ≤ Json.maxDepth)
    (given : document.toJson (.text bound) = .ok json)
    (accepted : embedded field decoder json = .ok value) : Json.Parsed decoder value := by
  have read := mapError_eq_ok.1 accepted
  split at read
  -- An argument that is a text holds a text of its own.
  · exact .text _ read
  · exact .argument deep given read

/-! ## Features -/

namespace Feature

/-- What has been read of a feature nests no deeper than `bound`. -/
structure Draft.Fine (bound : Nat) (draft : Draft) : Prop where
  id : ∀ id, draft.id = some id → id ≠ .null ∧ Json.Fine bound id
  geometry : Json.Fine bound draft.geometry
  properties : ∀ map, draft.properties = some map → Json.Fine bound (.object map.rows)

theorem fine_blank (bound : Nat) : Draft.Fine bound {} where
  id _ given := by cases given
  geometry := ⟨.null, Nat.zero_le _⟩
  properties _ given := by cases given

theorem keeps_fine : shape.Keeps Draft.Fine := by
  intro field among bound origin document draft next within fine set
  -- One case for each field of the shape, in its order.
  obtain ⟨value, read, rfl⟩ | ⟨value, read, rfl⟩ | ⟨value, read, rfl⟩ | ⟨value, read, rfl⟩ :
      (∃ value, Json.constant "Feature" origin document = .ok value ∧
        { draft with kind := some value } = next) ∨
      (∃ value, Json.optional Json.anyValue origin document = .ok value ∧
        { draft with id := value } = next) ∨
      (∃ value, Json.anyValue origin document = .ok value ∧
        { draft with geometry := value } = next) ∨
      (∃ value, Json.optional Json.anyObject origin document = .ok value ∧
        { draft with properties := value } = next) := by
    simp only [shape, List.mem_cons, List.not_mem_nil, or_false] at among
    rcases among with rfl | rfl | rfl | rfl
    · exact .inl (map_eq_ok.1 set)
    · exact .inr (.inl (map_eq_ok.1 set))
    · exact .inr (.inr (.inl (map_eq_ok.1 set)))
    · exact .inr (.inr (.inr (map_eq_ok.1 set)))
  · exact ⟨fine.id, fine.geometry, fine.properties⟩
  · refine ⟨fun id given => ?_, fine.geometry, fine.properties⟩
    cases given
    obtain ⟨notNull, decoded⟩ := Json.of_optional read
    exact ⟨Json.toJson_ne_null notNull decoded, within.toJson_fine decoded⟩
  · exact ⟨fine.id, within.toJson_fine read, fine.properties⟩
  · refine ⟨fine.id, fine.geometry, fun map given => ?_⟩
    cases given
    obtain ⟨-, decoded⟩ := Json.of_optional read
    exact Json.anyObject_within within decoded

theorem decoder_within {bound : Nat} {origin : Origin} {document : Document} {feature : Feature}
    (within : Within bound origin document) (read : decoder origin document = .ok feature) :
    feature.WellFormed ∧ feature.written.depth ≤ bound := by
  obtain ⟨⟨draft, extra⟩, opened, read⟩ := ok_of_bind read
  obtain ⟨_, _, read⟩ := ok_of_bind read
  cases read
  obtain ⟨less, rfl, fine, foreign⟩ := Json.Shape.opened_within keeps_fine
    fine_blank within opened
  have each : ∀ member ∈ members ⟨draft.id, draft.geometry, draft.properties, .ofRows extra⟩,
      Json.Fine less member.2 := by
    refine forall_members.2 ⟨⟨.string _, Nat.zero_le _⟩, fun id given => (fine.id id given).2,
      fine.geometry, ?_, fun row among => (foreign row (OrderedMap.mem_ofRows among)).2⟩
    cases given : draft.properties with
    | none => exact ⟨.null, Nat.zero_le _⟩
    | some map => exact fine.properties map given
  refine ⟨⟨fun null => (fine.id _ null).1 rfl, fun row among => ?_, fun member among => ?_⟩, ?_⟩
  · exact (foreign row (OrderedMap.mem_ofRows among)).1
  · exact (each member among).canonical
  · exact Nat.succ_le_succ (Json.depthMembers_le_iff.2 fun member among => (each member among).depth)

theorem of_parsed {feature : Feature} (parsed : Json.Parsed decoder feature) :
    feature.WellFormed ∧ feature.written.depth ≤ Json.maxDepth := by
  obtain ⟨_, _, within, read⟩ := parsed.within
  exact decoder_within within read

end Feature

/-! ## Collections -/

namespace FeatureCollection

/-- Features that have been read, one level below what `bound` allows for. -/
def Draft.Fine (bound : Nat) (draft : Draft) : Prop :=
  ∀ feature ∈ draft.features, feature.WellFormed ∧ feature.written.depth + 1 ≤ bound

theorem fine_blank (bound : Nat) : Draft.Fine bound {} :=
  fun _ member => absurd member List.not_mem_nil

theorem keeps_fine : shape.Keeps Draft.Fine := by
  intro field among bound origin document draft next within fine set
  simp only [shape, List.mem_cons, List.not_mem_nil, or_false] at among
  rcases among with rfl | rfl
  · obtain ⟨_, _, rfl⟩ := map_eq_ok.1 set
    exact fine
  · obtain ⟨features, read, rfl⟩ := map_eq_ok.1 set
    obtain ⟨less, rfl, each⟩ := Json.listOf_within within read
    intro feature member
    obtain ⟨_, _, inside, decoded⟩ := each feature member
    obtain ⟨wellFormed, shallow⟩ := Feature.decoder_within inside decoded
    exact ⟨wellFormed, Nat.succ_le_succ shallow⟩

theorem decoder_within {bound : Nat} {origin : Origin} {document : Document}
    {collection : FeatureCollection} (within : Within (bound + 2) origin document)
    (read : decoder origin document = .ok collection) :
    collection.WellFormed ∧ collection.written.depth ≤ bound + 2 := by
  obtain ⟨⟨draft, extra⟩, opened, read⟩ := ok_of_bind read
  obtain ⟨_, _, read⟩ := ok_of_bind read
  cases read
  obtain ⟨less, same, fine, foreign⟩ := Json.Shape.opened_within keeps_fine
    fine_blank within opened
  obtain rfl : bound + 1 = less := Nat.succ.inj same
  -- A collection without the member `features` has an empty list, which is written all the same.
  refine ⟨⟨fun feature member => (fine feature member).1, fun row among => ?_,
    fun row among => ?_⟩, (depth_written_le_iff _ bound).2 ⟨fun feature member => ?_, fun row among => ?_⟩⟩
  · exact (foreign row (OrderedMap.mem_ofRows among)).1
  · exact (foreign row (OrderedMap.mem_ofRows among)).2.canonical
  · exact Nat.le_of_succ_le_succ (fine feature member).2
  · exact (foreign row (OrderedMap.mem_ofRows among)).2.depth

theorem of_parsed {collection : FeatureCollection} (parsed : Json.Parsed decoder collection) :
    collection.WellFormed ∧ collection.written.depth ≤ Json.maxDepth := by
  obtain ⟨_, _, within, read⟩ := parsed.within
  exact decoder_within within read

end FeatureCollection

end LayerGateway
