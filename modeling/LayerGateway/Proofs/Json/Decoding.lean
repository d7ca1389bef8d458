import LayerGateway.Proofs.Except
import LayerGateway.Proofs.Json.Nesting

/-!
# Decoding item by item

How a list is decoded when every item is, and an object when every field is.  `Decodes` says that
a decoder reads the document of a value as it should and fails only where the value nests too
deep; there is a rule for every kind of decoder that free-form values pass through.
-/

namespace LayerGateway.Json

variable {α σ ε : Type}

theorem mapM_decode {decoder : Decoder α} {origin : Origin} {document : α → Document}
    {values : List α} (decodes : ∀ value ∈ values, decoder origin (document value) = .ok value) :
    (values.map document).mapM (decoder origin) = .ok values := by
  induction values with
  | nil => rfl
  | cons value values ih =>
    rw [List.map_cons, List.mapM_cons, decodes value List.mem_cons_self,
      ih fun other member => decodes other (List.mem_cons_of_mem _ member)]
    rfl

theorem decode_listOf {decoder : Decoder α} {depth : Nat} {document : α → Document}
    {values : List α}
    (decodes : ∀ value ∈ values, decoder (.text depth) (document value) = .ok value) :
    listOf decoder (.text (depth + 1)) (.array (values.map document) .closed) = .ok values := by
  have inner := mapM_decode decodes
  simp only [listOf, Origin.enter]
  change (List.mapM (decoder (.text depth)) (values.map document) >>= _) = _
  rw [inner]
  rfl

/-! ## Values -/

/-- A decoder reads the document of one value as another, as far as the first may nest. -/
def Decodes (decoder : Decoder α) (json : Json) (value : α) : Prop :=
  ∀ origin, decoder origin (Document.ofJson json) = origin.limit json.depth value

theorem decodes_anyValue {json : Json} (canonical : json.Canonical) : Decodes anyValue json json :=
  toJson_ofJson canonical

theorem decodes_constant (name : String) : Decodes (constant name) (.string name) () := by
  intro origin
  have named : constant name origin (Document.ofJson (.string name)) = .ok () := by
    simp [Document.ofJson, constant, readable, mapError_ok, bind, Except.bind, pure, Except.pure]
  rw [named]
  exact (origin.limit_zero ()).symm

theorem decodes_null (decoder : Decoder α) : Decodes (optional decoder) .null none :=
  fun origin => (origin.limit_zero none).symm

theorem decodes_optional {decoder : Decoder α} {json : Json} {value : α}
    (decodes : Decodes decoder json value) (notNull : json ≠ .null) :
    Decodes (optional decoder) json (some value) := by
  intro origin
  have given : optional decoder origin (Document.ofJson json) =
      (decoder origin (Document.ofJson json)).map some := by
    cases json with
    | null => exact absurd rfl notNull
    | _ => rfl
  rw [given, decodes, Origin.map_limit]

theorem mapM_limit {decoder : Decoder α} {json : α → Json} {values : List α}
    (decodes : ∀ value ∈ values, Decodes decoder (json value) value) (origin : Origin) :
    (Document.ofJsonItems (values.map json)).mapM (decoder origin) =
      origin.limit (depthItems (values.map json)) values := by
  induction values with
  | nil => exact (origin.limit_zero []).symm
  | cons value values ih =>
    have rest := ih fun other member => decodes other (List.mem_cons_of_mem _ member)
    rw [List.map_cons, Document.ofJsonItems, List.mapM_cons, decodes value List.mem_cons_self,
      depthItems]
    refine Origin.limit_bind ?_
    rw [rest]
    exact Origin.limit_done rfl

theorem decodes_listOf {decoder : Decoder α} {json : α → Json} {values : List α}
    (decodes : ∀ value ∈ values, Decodes decoder (json value) value) :
    Decodes (listOf decoder) (.array (values.map json)) values := by
  intro origin
  rw [Document.ofJson, listOf]
  refine Origin.enter_bind fun inner => ?_
  rw [mapM_limit decodes]
  exact Origin.limit_done rfl

theorem decodes_anyObject {map : Members} (canonical : ∀ row ∈ map.rows, row.2.Canonical) :
    Decodes anyObject (.object map.rows) map := by
  intro origin
  rw [Document.ofJson, anyObject]
  refine Origin.enter_bind fun inner => ?_
  rw [toMembers_ofJson fun row member => toJson_ofJson (canonical row member)]
  exact Origin.limit_done (congrArg Except.ok map.ofRows_rows)

/-! ## Values that were decoded -/

theorem toJson_ne_null {document : Document} {origin : Origin} {json : Json}
    (notNull : document ≠ .null) (read : document.toJson origin = .ok json) : json ≠ .null := by
  rintro rfl
  cases document with
  | null => exact notNull rfl
  | bool _ | broken _ _ _ => cases read
  | number value => cases value <;> cases read
  | string text => cases text <;> cases read
  | array items ending =>
    rw [Document.toJson] at read
    obtain ⟨_, _, read⟩ := ok_of_bind read
    obtain ⟨_, _, read⟩ := ok_of_bind read
    obtain ⟨_, _, read⟩ := ok_of_bind read
    cases read
  | object members ending =>
    rw [Document.toJson] at read
    obtain ⟨_, _, read⟩ := ok_of_bind read
    obtain ⟨_, _, read⟩ := ok_of_bind read
    obtain ⟨_, _, read⟩ := ok_of_bind read
    cases read

variable {origin : Origin} {document : Document} {bound : Nat}

theorem of_optional {decoder : Decoder α} {value : α}
    (read : optional decoder origin document = .ok (some value)) :
    document ≠ .null ∧ decoder origin document = .ok value := by
  cases document with
  | null => cases read
  | _ =>
    obtain ⟨_, decoded, same⟩ := map_eq_ok.1 read
    cases same
    exact ⟨nofun, decoded⟩

theorem of_optional_none {decoder : Decoder α}
    (read : optional decoder origin document = .ok none) : document = .null := by
  cases document with
  | null => rfl
  | _ =>
    obtain ⟨_, _, same⟩ := map_eq_ok.1 read
    cases same

theorem required_eq_ok {name : String} {given : Option α} {value : α} :
    required name given = .ok value ↔ given = some value := by
  cases given <;> simp [required]

theorem mismatch_ne_ok {document : Document} {expected : String} {value : α} :
    document.mismatch expected ≠ .ok value := by
  intro read
  obtain ⟨_, _, read⟩ := ok_of_bind read
  cases read

theorem listOf_within {decoder : Decoder α} {values : List α}
    (within : Within bound origin document)
    (read : listOf decoder origin document = .ok values) :
    ∃ less, bound = less + 1 ∧
      ∀ value ∈ values, ∃ inner item, Within less inner item ∧ decoder inner item = .ok value := by
  cases document with
  | array items ending =>
    obtain ⟨inner, entered, read⟩ := ok_of_bind read
    obtain ⟨decoded, each, read⟩ := ok_of_bind read
    obtain ⟨_, _, read⟩ := ok_of_bind read
    cases read
    obtain ⟨less, rfl, inside⟩ := within.items entered
    refine ⟨less, rfl, fun value member => ?_⟩
    obtain ⟨item, among, here⟩ := of_mapM each value member
    exact ⟨inner, item, inside item among, here⟩
  | _ => exact absurd read mismatch_ne_ok

theorem anyObject_within {map : Members} (within : Within bound origin document)
    (read : anyObject origin document = .ok map) : Fine bound (.object map.rows) := by
  cases document with
  | object members ending =>
    obtain ⟨inner, entered, read⟩ := ok_of_bind read
    obtain ⟨values, each, read⟩ := ok_of_bind read
    obtain ⟨_, checked, read⟩ := ok_of_bind read
    cases read
    -- As a value the document is read in the same steps.
    refine within.toJson_fine ?_
    rw [Document.toJson, bind_of_ok entered, bind_of_ok each, bind_of_ok checked]
    rfl
  | _ => exact absurd read mismatch_ne_ok

/-! ## Records -/

namespace Shape

variable {shape : Shape σ} {origin : Origin} {other : String → Document → Read (List ε)}
  {seen : List String} {draft next : σ} {key : String} {value : Document} {field : Field σ}

theorem fill_known (known : shape.field? key = some field) (first : key ∉ seen)
    (rest : List DocumentMember) :
    shape.fill origin other seen draft ((.ok key, value) :: rest) =
      field.set origin value draft >>= fun next =>
        shape.fill origin other (key :: seen) next rest := by
  rw [fill]
  simp only [readable, mapError_ok, bind, Except.bind, known, first, if_false]

theorem fill_field (known : shape.field? key = some field) (first : key ∉ seen)
    (set : field.set origin value draft = .ok next) (rest : List DocumentMember) :
    shape.fill origin other seen draft ((.ok key, value) :: rest) =
      shape.fill origin other (key :: seen) next rest := by
  rw [fill_known known first, set]
  rfl

theorem fill_foreign (foreign : shape.field? key = none) (rest : List DocumentMember) :
    shape.fill origin other seen draft ((.ok key, value) :: rest) =
      other key value >>= fun extra =>
        shape.fill origin other seen draft rest >>= fun filled =>
          .ok (filled.1, extra ++ filled.2) := by
  rw [fill]
  simp only [readable, mapError_ok, bind, Except.bind, foreign, pure, Except.pure]

/-- Members fill a draft, and some of them are no fields, as far as all of them may nest. -/
def Fills (shape : Shape σ) (seen : List String) (draft : σ) (members : List (String × Json))
    (result : σ × List (String × Json)) : Prop :=
  ∀ origin, shape.fill origin (fun key value => do return [(key, ← anyValue origin value)]) seen
    draft (Document.ofJsonMembers members) = origin.limit (depthMembers members) result

variable {json : Json} {members : List (String × Json)} {result : σ × List (String × Json)}

theorem set_of {decoder : Decoder α} {content : α} (decodes : Decodes decoder json content)
    (name : String) (put : α → σ → σ) (draft : σ) (origin : Origin) :
    (Field.of name decoder put).set origin (Document.ofJson json) draft =
      origin.limit json.depth (put content draft) := by
  rw [Field.of]
  change (decoder origin (Document.ofJson json)).map _ = _
  rw [decodes, Origin.map_limit]

theorem Fills.known (known : shape.field? key = some field) (first : key ∉ seen)
    (set : ∀ origin, field.set origin (Document.ofJson json) draft = origin.limit json.depth next)
    (rest : shape.Fills (key :: seen) next members result) :
    shape.Fills seen draft ((key, json) :: members) result := by
  intro origin
  rw [Document.ofJsonMembers, fill_known known first, set, depthMembers]
  exact Origin.limit_bind (rest origin)

/-- Members of which none is a field leave the draft as it is. -/
theorem fills_foreign (foreign : ∀ member ∈ members, shape.field? member.1 = none)
    (canonical : ∀ member ∈ members, member.2.Canonical) (seen : List String) (draft : σ) :
    shape.Fills seen draft members (draft, members) := by
  intro origin
  induction members with
  | nil => exact (origin.limit_zero _).symm
  | cons member members ih =>
    obtain ⟨key, json⟩ := member
    obtain ⟨here, others⟩ := List.forall_mem_cons.1 foreign
    obtain ⟨read, rest⟩ := List.forall_mem_cons.1 canonical
    have kept : (origin.limit json.depth json >>= fun json => Except.ok [(key, json)]) =
        origin.limit json.depth [(key, json)] := Origin.limit_done rfl
    rw [Document.ofJsonMembers, fill_foreign here, depthMembers, anyValue, toJson_ofJson read]
    change (origin.limit json.depth json >>= fun json => .ok [(key, json)]) >>= _ = _
    rw [kept]
    refine Origin.limit_bind ?_
    rw [ih others rest]
    exact Origin.limit_done rfl

theorem decodes_opened {blank : σ} (fills : shape.Fills [] blank members result) :
    Decodes (shape.opened blank anyValue) (.object members) result := by
  intro origin
  rw [Document.ofJson, opened]
  refine Origin.enter_bind fun inner => ?_
  change (shape.fill inner _ [] blank (Document.ofJsonMembers members) >>= _) = _
  rw [fills inner]
  exact Origin.limit_done rfl

/-! ## Records that were decoded -/

/-- Whatever a field reads, the draft keeps a property, which may speak of how deep it reads. -/
def Keeps (shape : Shape σ) (property : Nat → σ → Prop) : Prop :=
  ∀ field ∈ shape.fields, ∀ {bound : Nat} {origin : Origin} {document : Document} {draft next : σ},
    Within bound origin document → property bound draft →
      field.set origin document draft = .ok next → property bound next

theorem fill_within {bound : Nat} {property : Nat → σ → Prop} (keeps : shape.Keeps property)
    {documents : List DocumentMember}
    (within : ∀ member ∈ documents, Within bound origin member.2) (holds : property bound draft)
    (filled : shape.fill origin (fun key value => do return [(key, ← anyValue origin value)]) seen
      draft documents = .ok result) :
    property bound result.1 ∧ ∀ row ∈ result.2, shape.field? row.1 = none ∧ Fine bound row.2 := by
  induction documents generalizing seen draft result with
  | nil =>
    cases filled
    exact ⟨holds, nofun⟩
  | cons member documents ih =>
    obtain ⟨key, document⟩ := member
    obtain ⟨here, rest⟩ := List.forall_mem_cons.1 within
    rcases key with cause | key
    · cases filled
    · cases known : shape.field? key with
      | some field =>
        by_cases first : key ∈ seen
        -- A field that comes twice is refused.
        · rw [fill] at filled
          simp only [readable, mapError_ok, bind, Except.bind, known, first, if_true] at filled
          cases filled
        · rw [fill_known known first] at filled
          obtain ⟨next, set, filled⟩ := ok_of_bind filled
          exact ih rest (keeps field (List.mem_of_find?_eq_some known) here holds set) filled
      | none =>
        rw [fill_foreign known] at filled
        obtain ⟨extra, added, filled⟩ := ok_of_bind filled
        obtain ⟨json, read, kept⟩ := ok_of_bind added
        cases kept
        obtain ⟨later, filledRest, filled⟩ := ok_of_bind filled
        cases filled
        obtain ⟨holds, foreign⟩ := ih rest holds filledRest
        exact ⟨holds, List.forall_mem_cons.2 ⟨⟨known, here.toJson_fine read⟩, foreign⟩⟩

theorem opened_within {bound : Nat} {property : Nat → σ → Prop} (keeps : shape.Keeps property)
    {blank : σ} (holds : ∀ bound, property bound blank) {document : Document}
    (within : Within bound origin document)
    (read : shape.opened blank anyValue origin document = .ok result) :
    ∃ less, bound = less + 1 ∧ property less result.1 ∧
      ∀ row ∈ result.2, shape.field? row.1 = none ∧ Fine less row.2 := by
  cases document with
  | object members ending =>
    obtain ⟨inner, entered, read⟩ := ok_of_bind read
    obtain ⟨filled, fill, read⟩ := ok_of_bind read
    obtain ⟨_, _, read⟩ := ok_of_bind read
    cases read
    obtain ⟨less, rfl, inside⟩ := within.members entered
    exact ⟨less, rfl, fill_within keeps inside (holds less) fill⟩
  | _ => exact absurd read mismatch_ne_ok

end Shape

end LayerGateway.Json
