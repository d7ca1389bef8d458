import LayerGateway.Proofs.Json.Decoding
import LayerGateway.Proofs.Json.Members
import Mathlib.Data.List.Forall2

/-!
# What records are read off

A document that is read as a record can also be read as a value, and then nothing is in the record
but what stands in the value.

* `ReadsOff` says of a decoder how its results are related to the values; there is a rule for
  every kind of decoder that the fields of features and collections use.
* `Shape.Mirrors` is what a field does to such a relation between the members that were read and
  the draft, and `opened_readsOff` is what follows for the whole object.
-/

namespace LayerGateway.Json

variable {α σ : Type}

/-- Where the decoder reads something, a value can be read, which has this relation to it. -/
def ReadsOff (decoder : Decoder α) (relation : Json → α → Prop) : Prop :=
  ∀ ⦃bound : Nat⦄ ⦃origin : Origin⦄ ⦃document : Document⦄ ⦃value : α⦄,
    Within bound origin document → decoder origin document = .ok value →
      ∃ json, document.toJson origin = .ok json ∧ relation json value

/-- A value that is decoded has the relation itself. -/
theorem ReadsOff.of_value {decoder : Decoder α} {relation : Json → α → Prop} {json : Json} {value : α}
    (readsOff : ReadsOff decoder relation) (canonical : json.Canonical)
    (read : decoder .value (Document.ofJson json) = .ok value) : relation json value := by
  obtain ⟨other, decoded, related⟩ := readsOff (.value ⟨canonical, Nat.le_refl _⟩) read
  have same : (Document.ofJson json).toJson .value = .ok json := toJson_ofJson canonical .value
  cases same.symm.trans decoded
  exact related

theorem readsOff_anyValue : ReadsOff anyValue Eq :=
  fun _ _ _ value _ read => ⟨value, read, rfl⟩

theorem readsOff_optional_anyValue :
    ReadsOff (optional anyValue) fun json value => value = (some json).filter (· ≠ .null) := by
  intro bound origin document value _ read
  cases value with
  | none =>
    obtain rfl := of_optional_none read
    exact ⟨.null, rfl, rfl⟩
  | some json =>
    obtain ⟨notNull, decoded⟩ := of_optional read
    have kept : (some json).filter (· ≠ .null) = some json := by
      simp [Option.filter, toJson_ne_null notNull decoded]
    exact ⟨json, decoded, kept.symm⟩

theorem anyObject_toJson {origin : Origin} {document : Document} {map : Members}
    (read : anyObject origin document = .ok map) :
    document.toJson origin = .ok (.object map.rows) := by
  cases document with
  | object members ending =>
    obtain ⟨inner, entered, read⟩ := ok_of_bind read
    obtain ⟨values, each, read⟩ := ok_of_bind read
    obtain ⟨_, checked, read⟩ := ok_of_bind read
    cases read
    -- As a value the document is read in the same steps.
    rw [Document.toJson, bind_of_ok entered, bind_of_ok each, bind_of_ok checked]
    rfl
  | _ => exact absurd read mismatch_ne_ok

/-- An object, or `null` for none. -/
def ofObject? (members : Option Members) : Json :=
  members.elim .null fun map => .object map.rows

theorem ofObject?_injective {first second : Option Members}
    (same : ofObject? first = ofObject? second) : first = second := by
  cases first with
  | none =>
    cases second with
    | none => rfl
    | some other => cases same
  | some map =>
    cases second with
    | none => cases same
    | some other => exact congrArg some (OrderedMap.ext (Json.object.inj same))

theorem readsOff_optional_anyObject :
    ReadsOff (optional anyObject) fun json value => ofObject? value = json := by
  intro bound origin document value _ read
  cases value with
  | none =>
    obtain rfl := of_optional_none read
    exact ⟨.null, rfl, rfl⟩
  | some map => exact ⟨_, anyObject_toJson (of_optional read).2, rfl⟩

def IsConstant (name : String) (json : Json) : Prop :=
  json = .string name ∨ json = .object [(name, .null)]

theorem key_of_named {name : String} {key : Except GrammarError String} (ran : (do
      let key ← readable key
      if key = name then return () else throw (.unknownVariant key name) : Read Unit) = .ok ()) :
    key = .ok name := by
  obtain ⟨key, readKey, ran⟩ := ok_of_bind ran
  split at ran
  · next same => rw [← same, mapError_eq_ok.1 readKey]
  · cases ran

/-- As an object a constant has one member, which is `null`, and nothing is wrong with it. -/
theorem of_constant_object {name : String} {bound : Nat} {origin : Origin}
    {members : List DocumentMember} {ending : ObjectEnd}
    (within : Within bound origin (.object members ending))
    (read : constant name origin (.object members ending) = .ok ()) :
    (∃ inner, origin.enter = .ok inner) ∧ members = [(.ok name, .null)] ∧ ending = .closed := by
  generalize same : Document.object members ending = document at within
  cases within with
  | text _ =>
    obtain ⟨_, entered, inside⟩ := ok_of_bind read
    refine ⟨⟨_, entered⟩, ?_⟩
    clear read
    rcases members with _ | ⟨⟨key, value⟩, rest⟩
    · cases ending with
      | badKey key => exact absurd inside mismatch_ne_ok
      | noColon key cut =>
        obtain ⟨_, -, inside⟩ := ok_of_bind inside
        cases inside
      | _ => cases inside
    · obtain ⟨_, isName, inside⟩ := ok_of_bind inside
      obtain ⟨_, isUnit, closed⟩ := ok_of_bind inside
      clear inside
      rw [key_of_named isName]
      cases value with
      | null =>
        cases rest with
        | nil => cases ending <;> first | exact ⟨rfl, rfl⟩ | cases closed
        | cons _ _ => cases closed
      | _ => exact absurd isUnit mismatch_ne_ok
  | @value json fine =>
    cases json with
    | object _ =>
      rw [Document.ofJson] at same
      rcases members with _ | ⟨⟨key, value⟩, _ | ⟨_, _⟩⟩
      · cases read
      · obtain ⟨_, isName, isUnit⟩ := ok_of_bind read
        rw [key_of_named isName]
        cases value with
        | null => exact ⟨⟨.value, rfl⟩, rfl, (Document.object.inj same).2⟩
        | _ => exact absurd isUnit mismatch_ne_ok
      · cases read
    | _ => cases same

theorem readsOff_constant (name : String) :
    ReadsOff (constant name) fun json _ => IsConstant name json := by
  intro bound origin document value within read
  cases document with
  | string text =>
    obtain rfl := key_of_named read
    exact ⟨.string name, rfl, .inl rfl⟩
  | object members ending =>
    obtain ⟨⟨inner, entered⟩, rfl, rfl⟩ := of_constant_object within read
    refine ⟨.object [(name, .null)], ?_, .inr rfl⟩
    rw [Document.toJson, bind_of_ok entered]
    rfl
  | broken token _ _ =>
    cases origin with
    | text _ => cases token <;> cases read
    | member | value => cases token <;> exact absurd read mismatch_ne_ok
  | _ =>
    cases origin with
    | text _ => cases read
    | member | value => exact absurd read mismatch_ne_ok

theorem mapM_readsOff {decoder : Decoder α} {relation : Json → α → Prop}
    (readsOff : ReadsOff decoder relation) {bound : Nat} {origin : Origin}
    {documents : List Document} {values : List α}
    (within : ∀ item ∈ documents, Within bound origin item)
    (read : documents.mapM (decoder origin) = .ok values) :
    ∃ items, Document.toItems origin documents = .ok items ∧
      List.Forall₂ relation items values := by
  induction documents generalizing values with
  | nil =>
    cases read
    exact ⟨[], rfl, .nil⟩
  | cons item documents ih =>
    obtain ⟨here, further⟩ := List.forall_mem_cons.1 within
    rw [List.mapM_cons] at read
    obtain ⟨value, readHere, read⟩ := ok_of_bind read
    obtain ⟨others, readRest, read⟩ := ok_of_bind read
    cases read
    obtain ⟨json, decoded, related⟩ := readsOff here readHere
    obtain ⟨items, decodedRest, allRelated⟩ := ih further readRest
    refine ⟨json :: items, ?_, .cons related allRelated⟩
    rw [Document.toItems, decoded, decodedRest]
    rfl

theorem readsOff_listOf {decoder : Decoder α} {relation : Json → α → Prop}
    (readsOff : ReadsOff decoder relation) :
    ReadsOff (listOf decoder) fun json values =>
      ∃ items, json = .array items ∧ List.Forall₂ relation items values := by
  intro bound origin document values within read
  cases document with
  | array documents ending =>
    obtain ⟨inner, entered, read⟩ := ok_of_bind read
    obtain ⟨decoded, each, read⟩ := ok_of_bind read
    obtain ⟨_, checked, read⟩ := ok_of_bind read
    cases read
    obtain ⟨less, rfl, inside⟩ := within.items entered
    obtain ⟨items, readItems, related⟩ := mapM_readsOff readsOff inside each
    refine ⟨.array items, ?_, items, rfl, related⟩
    rw [Document.toJson, bind_of_ok entered, bind_of_ok readItems, bind_of_ok checked]
    rfl
  | _ => exact absurd read mismatch_ne_ok

/-! ## Records -/

theorem toMembers_of_ok {origin : Origin} {document : Document} {json : Json} {key : String}
    {documents : List DocumentMember} {values : List (String × Json)}
    (readHere : document.toJson origin = .ok json)
    (readRest : Document.toMembers origin documents = .ok values) :
    Document.toMembers origin ((.ok key, document) :: documents) = .ok ((key, json) :: values) := by
  rw [Document.toMembers]
  change (document.toJson origin >>= _) = _
  rw [bind_of_ok readHere, bind_of_ok readRest]
  rfl

namespace Shape

variable {shape : Shape σ} {holds : Members → σ → Prop}

def names (shape : Shape σ) : List String :=
  shape.fields.map (·.name)

theorem field?_eq_none_iff {key : String} : shape.field? key = none ↔ key ∉ shape.names := by
  rw [field?, List.find?_eq_none, names]
  simp

/-- Whatever a member is, the draft goes on to hold what the members say. -/
structure Mirrors (shape : Shape σ) (holds : Members → σ → Prop) : Prop where
  field : ∀ field ∈ shape.fields, ∀ ⦃bound : Nat⦄ ⦃origin : Origin⦄ ⦃document : Document⦄
    ⦃map : Members⦄ ⦃draft next : σ⦄, Within bound origin document → holds map draft →
      field.set origin document draft = .ok next →
        ∃ json, document.toJson origin = .ok json ∧ holds (map.insert field.name json) next
  foreign : ∀ ⦃map : Members⦄ ⦃draft : σ⦄ ⦃key : String⦄ (json : Json), shape.field? key = none →
    holds map draft → holds (map.insert key json) draft

theorem mirrors_of {decoder : Decoder α} {relation : Json → α → Prop} {name : String}
    {put : α → σ → σ} (readsOff : ReadsOff decoder relation)
    (takes : ∀ ⦃map draft json value⦄, relation json value → holds map draft →
      holds (map.insert name json) (put value draft)) ⦃bound : Nat⦄ ⦃origin : Origin⦄
    ⦃document : Document⦄ ⦃map : Members⦄ ⦃draft next : σ⦄ (within : Within bound origin document)
    (held : holds map draft) (set : (Field.of name decoder put).set origin document draft = .ok next) :
    ∃ json, document.toJson origin = .ok json ∧ holds (map.insert name json) next := by
  obtain ⟨value, read, rfl⟩ := map_eq_ok.1 set
  obtain ⟨json, decoded, related⟩ := readsOff within read
  exact ⟨json, decoded, takes related held⟩

theorem fill_readsOff (mirrors : shape.Mirrors holds) {bound : Nat} {origin : Origin}
    {seen : List String} {map : Members} {draft : σ} {documents : List DocumentMember}
    {result : σ × List (String × Json)} (held : holds map draft)
    (within : ∀ member ∈ documents, Within bound origin member.2)
    (filled : shape.fill origin (fun key value => do return [(key, ← anyValue origin value)]) seen
      draft documents = .ok result) :
    ∃ values, Document.toMembers origin documents = .ok values ∧
      holds (values.foldl (fun map row => map.insert row.1 row.2) map) result.1 ∧
      result.2 = values.filter fun row => (shape.field? row.1).isNone := by
  induction documents generalizing seen map draft result with
  | nil =>
    cases filled
    exact ⟨[], rfl, held, rfl⟩
  | cons member documents ih =>
    obtain ⟨key, document⟩ := member
    obtain ⟨here, rest⟩ := List.forall_mem_cons.1 within
    rcases key with cause | key
    · cases filled
    cases known : shape.field? key with
    | some field =>
      have named : field.name = key := by
        simpa using List.find?_some known
      -- A field that is there again is refused.
      by_cases first : key ∈ seen
      · rw [fill] at filled
        simp only [readable, mapError_ok, bind, Except.bind, known, first, if_true] at filled
        cases filled
      · rw [fill_known known first] at filled
        obtain ⟨next, set, filled⟩ := ok_of_bind filled
        obtain ⟨json, readHere, nextHeld⟩ :=
          mirrors.field field (List.mem_of_find?_eq_some known) here held set
        rw [named] at nextHeld
        obtain ⟨values, readRest, lastHeld, extras⟩ := ih nextHeld rest filled
        refine ⟨(key, json) :: values, toMembers_of_ok readHere readRest, lastHeld, ?_⟩
        rw [extras, List.filter_cons_of_neg (by simp [known])]
    | none =>
      -- What is no field is kept as a further member, and the draft stays as it is.
      rw [fill_foreign known] at filled
      obtain ⟨extra, added, filled⟩ := ok_of_bind filled
      obtain ⟨json, readHere, kept⟩ := ok_of_bind added
      cases kept
      obtain ⟨later, filledRest, filled⟩ := ok_of_bind filled
      cases filled
      obtain ⟨values, readRest, lastHeld, extras⟩ :=
        ih (mirrors.foreign json known held) rest filledRest
      refine ⟨(key, json) :: values, toMembers_of_ok readHere readRest, lastHeld, ?_⟩
      rw [extras, List.filter_cons_of_pos (by simp [known])]
      rfl

/-- What is read of an object is held by its members, and the further members are those that
are no fields. -/
theorem opened_readsOff (mirrors : shape.Mirrors holds) {blank : σ} (held : holds .empty blank) :
    ReadsOff (shape.opened blank anyValue) fun json result =>
      ∃ map : Members, json = .object map.rows ∧ holds map result.1 ∧
        ∀ key, (OrderedMap.ofRows result.2).get? key =
          if key ∈ shape.names then none else map.get? key := by
  intro bound origin document result within read
  cases document with
  | object members ending =>
    obtain ⟨inner, entered, read⟩ := ok_of_bind read
    obtain ⟨filled, fill, read⟩ := ok_of_bind read
    obtain ⟨_, checked, read⟩ := ok_of_bind read
    cases read
    obtain ⟨less, rfl, inside⟩ := within.members entered
    obtain ⟨values, readMembers, lastHeld, extras⟩ := fill_readsOff mirrors held inside fill
    refine ⟨_, ?_, OrderedMap.ofRows values, rfl, lastHeld, fun key => ?_⟩
    · rw [Document.toJson, bind_of_ok entered, bind_of_ok readMembers, bind_of_ok checked]
      rfl
    · rw [extras, OrderedMap.get?_ofRows_filter (fun key => (shape.field? key).isNone)]
      by_cases known : key ∈ shape.names
      · rw [if_pos known, if_neg]
        simpa using mt field?_eq_none_iff.1 (not_not_intro known)
      · rw [if_neg known, if_pos]
        simpa using field?_eq_none_iff.2 known
  | _ => exact absurd read mismatch_ne_ok

/-- An object without repetitions is read if every field is, whatever order they come in. -/
theorem exists_fill {members : List (String × Json)} {seen : List String} {draft : σ}
    (canonical : ∀ member ∈ members, member.2.Canonical) (once : (members.map (·.1)).Nodup)
    (first : ∀ key ∈ members.map (·.1), key ∉ seen)
    (sets : ∀ member ∈ members, ∀ field, shape.field? member.1 = some field →
      ∀ draft, ∃ next, field.set .value (Document.ofJson member.2) draft = .ok next) :
    ∃ result, shape.fill .value (fun key value => do return [(key, ← anyValue .value value)]) seen
      draft (Document.ofJsonMembers members) = .ok result := by
  induction members generalizing seen draft with
  | nil => exact ⟨_, rfl⟩
  | cons member members ih =>
    obtain ⟨key, json⟩ := member
    obtain ⟨canonicalHere, canonicalRest⟩ := List.forall_mem_cons.1 canonical
    obtain ⟨setsHere, setsRest⟩ := List.forall_mem_cons.1 sets
    obtain ⟨foreign, onceRest⟩ := List.nodup_cons.1 once
    obtain ⟨firstHere, firstRest⟩ := List.forall_mem_cons.1 first
    rw [Document.ofJsonMembers]
    cases known : shape.field? key with
    | some field =>
      obtain ⟨next, set⟩ := setsHere field known draft
      rw [fill_field known firstHere set]
      refine ih canonicalRest onceRest (fun other member => ?_) setsRest
      rintro (_ | ⟨_, again⟩)
      · exact foreign member
      · exact firstRest other member again
    | none =>
      obtain ⟨result, filled⟩ := ih canonicalRest onceRest firstRest setsRest
      have read : anyValue .value (Document.ofJson json) = .ok json :=
        decodes_anyValue canonicalHere .value
      rw [fill_foreign known, read, filled]
      exact ⟨_, rfl⟩

theorem exists_opened (mirrors : shape.Mirrors holds) {blank : σ} (held : holds .empty blank)
    {map : Members} (canonical : ∀ member ∈ map.rows, member.2.Canonical)
    (sets : ∀ member ∈ map.rows, ∀ field, shape.field? member.1 = some field →
      ∀ draft, ∃ next, field.set .value (Document.ofJson member.2) draft = .ok next) :
    ∃ draft extra, shape.opened blank anyValue .value (Document.ofJson (.object map.rows)) =
      .ok (draft, extra) ∧ holds map draft := by
  have first : ∀ key ∈ map.rows.map (·.1), key ∉ [] := nofun
  obtain ⟨⟨draft, extra⟩, filled⟩ := exists_fill canonical map.nodup_keys first sets
  have opens : shape.opened blank anyValue .value (Document.ofJson (.object map.rows)) =
      .ok (draft, extra) := by
    rw [Document.ofJson, opened]
    change (shape.fill .value _ [] blank (Document.ofJsonMembers map.rows) >>= _) = _
    rw [filled]
    rfl
  obtain ⟨other, same, lastHeld, -⟩ :=
    (opened_readsOff mirrors held).of_value (.object map.sorted canonical) opens
  have equal : map = other := OrderedMap.ext (Json.object.inj same)
  exact ⟨draft, extra, opens, equal ▸ lastHeld⟩

end Shape

/-! ## Values that were written -/

section Written

variable {members values : List (String × Json)} {json value : Json}

theorem toMembers_cons (key : String) (decodes : Decodes anyValue json value)
    (rest : ∀ origin, Document.toMembers origin (Document.ofJsonMembers members) =
      origin.limit (depthMembers members) values) (origin : Origin) :
    Document.toMembers origin (Document.ofJsonMembers ((key, json) :: members)) =
      origin.limit (depthMembers ((key, json) :: members)) ((key, value) :: values) := by
  rw [Document.ofJsonMembers, Document.toMembers, depthMembers]
  change (anyValue origin (Document.ofJson json) >>= _) = _
  rw [decodes]
  refine Origin.limit_bind ?_
  rw [rest]
  exact Origin.limit_done rfl

/-- An object is read with the values of its members, whatever order they were written in. -/
theorem decodes_object (reads : ∀ origin, Document.toMembers origin
      (Document.ofJsonMembers members) = origin.limit (depthMembers members) values) :
    Decodes anyValue (.object members) (ofMembers values) := by
  intro origin
  rw [anyValue, Document.ofJson, Document.toJson]
  refine Origin.enter_bind fun inner => ?_
  rw [reads]
  exact Origin.limit_done rfl

theorem decodes_array {items : List α} {written read : α → Json}
    (decodes : ∀ item ∈ items, Decodes anyValue (written item) (read item)) :
    Decodes anyValue (.array (items.map written)) (.array (items.map read)) := by
  have each (origin : Origin) : Document.toItems origin
      (Document.ofJsonItems (items.map written)) =
        origin.limit (depthItems (items.map written)) (items.map read) := by
    induction items with
    | nil => exact (origin.limit_zero []).symm
    | cons item items ih =>
      obtain ⟨here, further⟩ := List.forall_mem_cons.1 decodes
      rw [List.map_cons, Document.ofJsonItems, Document.toItems, depthItems]
      change (anyValue origin (Document.ofJson (written item)) >>= _) = _
      rw [here]
      refine Origin.limit_bind ?_
      rw [ih further]
      exact Origin.limit_done rfl
  intro origin
  rw [anyValue, Document.ofJson, Document.toJson]
  refine Origin.enter_bind fun inner => ?_
  rw [each]
  exact Origin.limit_done rfl

end Written

end LayerGateway.Json
