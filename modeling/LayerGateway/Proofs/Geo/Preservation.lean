import LayerGateway.Proofs.Geo.Legible
import LayerGateway.Proofs.Geo.Members

/-!
# Features and collections outlast their texts

A feature or a collection that is read of a text and written is read again as it was.  As a value
the text that is written differs from the one that was read only where a member was missing, or
`null`, or the type was written in another way.

* `Feature.Kept` and `FeatureCollection.Kept` say what becomes of every member.
* `Json.Outlasts` is a round trip, and `features_outlast` says that all of them are like that.
-/

namespace LayerGateway

open Json (Decodes ReadsOff)

/-- The text of a value as it is read. -/
def Json.Source.ofChars (text : List Char) : Json.Source :=
  .ofBytes (Text.encodeChars text)

/-! ## Round trips -/

namespace Json

variable {α : Type} {decoder : Decoder α} {carries : Json → α → Prop} {source : Source} {value : α}

/-- What was read of a text is read again when it is printed.  Both texts are read as values too,
of which the second keeps what it should of the first, and equals it if that is explicit. -/
structure Outlasts (decoder : Decoder α) (print : α → List Char) (kept : Json → Json → Prop)
    (explicit : Json → Prop) (source : Source) (value : α) : Prop where
  again : decode decoder (.ofChars (print value)) = .ok value
  values : ∃ given printed, decode anyValue source = .ok given ∧
    decode anyValue (.ofChars (print value)) = .ok printed ∧
    kept given printed ∧ (explicit given → printed = given)

theorem ReadsOff.of_source (readsOff : ReadsOff decoder carries)
    (read : decode decoder source = .ok value) :
    ∃ json, decode anyValue source = .ok json ∧ carries json value := by
  obtain ⟨decoded, here, ended⟩ := ok_of_bind read
  cases trailing : source.trailing with
  | true =>
    rw [trailing] at ended
    cases ended
  | false =>
    rw [trailing] at ended
    cases ended
    obtain ⟨json, readHere, related⟩ := readsOff (.text source.document) here
    refine ⟨json, ?_, related⟩
    rw [decode, anyValue, bind_of_ok readHere, trailing]
    rfl

/-- What is decoded of the text of a value. -/
theorem decode_ofChars {written : Json} (survives : written.Survives)
    (shallow : written.depth ≤ maxDepth) (decodes : Decodes decoder written value) :
    decode decoder (.ofChars written.print) = .ok value := by
  rw [Source.ofChars, (reads_print survives).ofBytes, decode, decodes, Origin.limit_text shallow]
  rfl

theorem outlasts_of_written {print : α → List Char} {kept : Json → Json → Prop}
    {explicit : Json → Prop} {written json : Json} (readsOff : ReadsOff decoder carries)
    (read : decode decoder source = .ok value) (prints : print value = written.print)
    (survives : written.Survives) (shallow : written.depth ≤ maxDepth)
    (decodes : Decodes decoder written value) (decodesValue : Decodes anyValue written json)
    (keeps : ∀ given, carries given value → kept given json ∧ (explicit given → json = given)) :
    Outlasts decoder print kept explicit source value := by
  obtain ⟨given, decoded, carried⟩ := readsOff.of_source read
  constructor
  · rw [prints]
    exact decode_ofChars survives shallow decodes
  · refine ⟨given, json, decoded, ?_, keeps given carried⟩
    rw [prints]
    exact decode_ofChars survives shallow decodesValue

end Json

/-! ## Features -/

namespace Feature

/-- What becomes of the value of a feature that is read and written.  All members that a feature
does not know stay, and so do its geometry and its properties, which are `null` if they were
missing. -/
structure Kept (given written : Json) : Prop where
  type : written.member? "type" = some (.string "Feature")
  id : written.member? "id" = (given.member? "id").filter (· ≠ .null)
  geometry : written.member? "geometry" = some ((given.member? "geometry").getD .null)
  properties : written.member? "properties" = some ((given.member? "properties").getD .null)
  foreign : ∀ key, key ∉ names → written.member? key = given.member? key

variable {given : Json} {feature : Feature}

theorem Carries.kept (carries : Carries given feature) (wellFormed : feature.WellFormed) :
    Kept given feature.toJson := by
  have written := carries_toJson wellFormed
  have explicit := explicit_toJson wellFormed
  constructor
  · exact explicit.type
  · rw [← carries.id, written.id, Json.filter_ne_null explicit.id]
  · rw [← carries.geometry]
    exact member?_toJson wellFormed (by simp [members])
  · rw [← carries.properties]
    exact properties_toJson wellFormed
  · intro key foreign
    have extra := (written.extra key).symm.trans (carries.extra key)
    rwa [if_neg foreign, if_neg foreign] at extra

theorem print_eq (feature : Feature) : feature.print = feature.written.print := by
  rw [print, written, Json.print]

theorem outlasts {source : Json.Source} (read : Json.decode decoder source = .ok feature)
    (survives : feature.written.Survives) :
    Json.Outlasts decoder print Kept Explicit source feature := by
  obtain ⟨wellFormed, shallow⟩ := of_parsed (.text source read)
  refine Json.outlasts_of_written decoder_readsOff read feature.print_eq survives shallow
    (decodes_written wellFormed) (decodes_toJson wellFormed) fun given carries => ?_
  exact ⟨carries.kept wellFormed, fun explicit =>
    (carries_toJson wellFormed).eq_of_explicit (explicit_toJson wellFormed) carries explicit⟩

end Feature

/-! ## Collections -/

namespace FeatureCollection

/-- What becomes of the value of a collection that is read and written.  All members that a
collection does not know stay, and so do its features, one by one and in their order. -/
structure Kept (given written : Json) : Prop where
  type : written.member? "type" = some (.string "FeatureCollection")
  features : ∃ items later, (given.member? "features").getD (.array []) = .array items ∧
    written.member? "features" = some (.array later) ∧ List.Forall₂ Feature.Kept items later
  foreign : ∀ key, key ∉ names → written.member? key = given.member? key

variable {given : Json} {collection : FeatureCollection}

theorem Carries.kept (carries : Carries given collection) (wellFormed : collection.WellFormed) :
    Kept given collection.toJson := by
  constructor
  · exact (explicit_toJson wellFormed).type
  · obtain ⟨items, found, carried⟩ := carries.features
    refine ⟨items, collection.features.map Feature.toJson, found,
      member?_toJson wellFormed (by simp [members]), List.forall₂_map_right_iff.2 ?_⟩
    have both := (List.forall₂_and_left _ _).2 ⟨wellFormed.features, carried.flip⟩
    exact .flip (both.imp fun feature item held => held.2.kept held.1)
  · intro key foreign
    have extra := ((carries_toJson wellFormed).extra key).symm.trans (carries.extra key)
    rwa [if_neg foreign, if_neg foreign] at extra

theorem outlasts {source : Json.Source} (read : Json.decode decoder source = .ok collection)
    (survives : collection.written.Survives) :
    Json.Outlasts decoder print Kept Explicit source collection := by
  obtain ⟨wellFormed, shallow⟩ := of_parsed (.text source read)
  refine Json.outlasts_of_written decoder_readsOff read collection.print_eq survives shallow
    (decodes_written wellFormed) (decodes_toJson wellFormed) fun given carries => ?_
  exact ⟨carries.kept wellFormed, fun explicit =>
    (carries_toJson wellFormed).eq_of_explicit (explicit_toJson wellFormed) carries explicit⟩

end FeatureCollection

/-- Whatever text is read as a feature or as a collection, what is read outlasts it.  Printed and
read again it is the same, and the value that is printed keeps all that the text said: the order of
the features, their properties and the members that mean nothing here.  If the text left nothing
out that is always written, it is the same value. -/
theorem features_outlast (source : Json.Source) :
    (∀ feature : Feature, Json.decode Feature.decoder source = .ok feature →
      feature.written.Survives →
        Json.Outlasts Feature.decoder Feature.print Feature.Kept Feature.Explicit source feature) ∧
    (∀ collection : FeatureCollection,
      Json.decode FeatureCollection.decoder source = .ok collection →
      collection.written.Survives →
        Json.Outlasts FeatureCollection.decoder FeatureCollection.print FeatureCollection.Kept
          FeatureCollection.Explicit source collection) :=
  ⟨fun _ => Feature.outlasts, fun _ => FeatureCollection.outlasts⟩

/-- A collection whose type comes last, with a feature that has no geometry and a type written as
an object, and with a member of its own at either level. -/
def wayward : Json.Source :=
  .ofChars <|
    "\x7b\"note\":[1],\"features\":[".toList ++
    "\x7b\"type\":\x7b\"Feature\":null\x7d,\"size\":2,\"properties\":\x7b\"a\":true\x7d\x7d".toList ++
    "],\"type\":\"FeatureCollection\"\x7d".toList

def waywardCollection : FeatureCollection where
  features := [
    { id := none
      geometry := .null
      properties := some (OrderedMap.empty.insert "a" (.bool true))
      extra := OrderedMap.empty.insert "size" (.number (.integer 2)) }]
  extra := OrderedMap.empty.insert "note" (.array [.number (.integer 1)])

theorem features_outlast_wayward :
    Json.decode FeatureCollection.decoder wayward = .ok waywardCollection ∧
      waywardCollection.written.Survives ∧
      Json.Outlasts FeatureCollection.decoder FeatureCollection.print FeatureCollection.Kept
        FeatureCollection.Explicit wayward waywardCollection := by
  have read : Json.decode FeatureCollection.decoder wayward = .ok waywardCollection := by
    decide +kernel
  have survives : waywardCollection.written.Survives := by
    refine FeatureCollection.survives_written_iff.2 ⟨?_, ?_⟩
    · refine List.forall_mem_singleton.2 (.object trivial (Feature.forall_members.2 ?_))
      exact ⟨.string _, nofun, .null, .object trivial (List.forall_mem_singleton.2 (.bool true)),
        List.forall_mem_singleton.2 (.number (by decide))⟩
    · exact List.forall_mem_singleton.2 (.array (List.forall_mem_singleton.2 (.number (by decide))))
  exact ⟨read, survives, (features_outlast wayward).2 waywardCollection read survives⟩

end LayerGateway
