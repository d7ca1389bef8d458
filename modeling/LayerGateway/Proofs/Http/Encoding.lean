import LayerGateway.Http.Resource
import LayerGateway.Http.Target
import LayerGateway.Proofs.Except
import LayerGateway.Proofs.Http.Form
import LayerGateway.Proofs.Text.Utf8
import Mathlib.Data.List.TakeWhile

/-!
# Targets of requests

Any text can be put into a path or a query: each of its bytes is encoded.

* `decode?_encoded` and `formText_encoded` say that the text is read again, in a path and in a
  query.
* `ofPath?_pathOf` says which resource is found at a path of given names, and `formField_queryOf`
  what is found in a query of one field.
* `Target.Plain.ofText?` says that a target is read of its text, unless that is too long.
-/

namespace LayerGateway.Http

/-! ## Encoded text -/

/-- Bytes as they can be written anywhere in a path or a query: each of them encoded. -/
def percentEncode (bytes : Bytes) : List Char :=
  bytes.flatMap fun byte => '%' :: Text.hexOfByte byte

/-- A text as a part of a path or a query. -/
def encoded (text : String) : List Char :=
  percentEncode (Text.encode text)

def encodingChars : List Char :=
  "%0123456789abcdef".toList

theorem percentDecode_percentEncode (bytes : Bytes) :
    percentDecode (percentEncode bytes) = bytes := by
  induction bytes with
  | nil => rfl
  | cons byte bytes ih =>
    have small : byte.toNat < 256 := byte.toNat_lt
    have high := Text.hexDigit?_digitChar (byte.toNat / 16) (by omega)
    have low := Text.hexDigit?_digitChar (byte.toNat % 16) (by omega)
    have whole : byte.toNat / 16 * 16 + byte.toNat % 16 = byte.toNat := by omega
    change percentDecode ('%' :: Nat.digitChar (byte.toNat / 16) ::
      Nat.digitChar (byte.toNat % 16) :: percentEncode bytes) = _
    rw [percentDecode, if_pos rfl, high, low]
    dsimp only
    rw [ih, whole, UInt8.ofNat_toNat]

theorem percentDecode_ne_nil {text : List Char} (some : text ≠ []) : percentDecode text ≠ [] := by
  have char (c : Char) (rest : Bytes) : String.utf8EncodeChar c ++ rest ≠ [] := by
    have size := String.length_utf8EncodeChar c
    have positive := c.utf8Size_pos
    intro nothing
    rw [(List.append_eq_nil_iff.1 nothing).1] at size
    exact absurd size (by simp; omega)
  rcases text with _ | ⟨c, _ | ⟨d, _ | ⟨e, text⟩⟩⟩
  · exact absurd rfl some
  · rw [percentDecode, ← List.append_nil (String.utf8EncodeChar c)]
    exact char c []
  · rw [percentDecode]
    exact char c _
  · rw [percentDecode]
    split
    · exact List.cons_ne_nil _ _
    · exact char c _

theorem digitChar_mem : ∀ d < 16, Nat.digitChar d ∈ encodingChars := by
  decide

theorem mem_percentEncode (bytes : Bytes) : ∀ c ∈ percentEncode bytes, c ∈ encodingChars := by
  intro c member
  obtain ⟨byte, -, among⟩ := List.mem_flatMap.1 member
  have small : byte.toNat < 256 := byte.toNat_lt
  simp only [Text.hexOfByte, List.mem_cons, List.not_mem_nil, or_false] at among
  rcases among with rfl | rfl | rfl
  · decide
  · exact digitChar_mem _ (by omega)
  · exact digitChar_mem _ (by omega)

section Encoded

variable (text : String)

theorem not_mem_encoded {c : Char} (foreign : c ∉ encodingChars) : c ∉ encoded text :=
  fun member => foreign (mem_percentEncode _ c member)

theorem decode?_encoded : Text.decode? (percentDecode (encoded text)) = some text := by
  rw [encoded, percentDecode_percentEncode, Text.decode?_encode]

theorem formText_encoded : formText (encoded text) = text := by
  have noPlus : (encoded text).map (fun c => if c = '+' then ' ' else c) = encoded text := by
    refine (List.map_congr_left fun c member => if_neg ?_).trans (List.map_id _)
    rintro rfl
    exact not_mem_encoded text (by decide) member
  rw [formText, noPlus, encoded, percentDecode_percentEncode, Text.lossy_encode]

end Encoded

theorem encoded_ne_nil {text : String} (named : text ≠ "") : encoded text ≠ [] := by
  intro nothing
  have decoded := decode?_encoded text
  rw [nothing] at decoded
  exact named (Option.some_inj.1 decoded).symm

/-! ## Paths -/

/-- A name of a path that is written as it is. -/
def PlainName (name : List Char) : Prop :=
  '/' ∉ name ∧ name.all Target.isPathChar = true

instance : DecidablePred PlainName := fun name =>
  inferInstanceAs (Decidable ('/' ∉ name ∧ name.all Target.isPathChar = true))

theorem all_encoded {allowed : Char → Bool} (all : encodingChars.all allowed = true)
    (text : String) : (encoded text).all allowed = true :=
  List.all_eq_true.2 fun c member => List.all_eq_true.1 all c (mem_percentEncode _ c member)

theorem plainName_encoded (text : String) : PlainName (encoded text) :=
  ⟨not_mem_encoded text (by decide), all_encoded (by decide) text⟩

def pathOf (names : List (List Char)) : List Char :=
  names.flatMap ('/' :: ·)

theorem intercalate_cons_flatMap (first : List Char) (names : List (List Char)) :
    ['/'].intercalate (first :: names) = first ++ pathOf names := by
  induction names generalizing first with
  | nil => simp [pathOf]
  | cons name names ih =>
    rw [List.intercalate_cons_cons, ih, pathOf, pathOf, List.flatMap_cons]
    simp

/-- The names of a path are found again, whatever was encoded in them. -/
theorem ofPath?_pathOf {names : List (List Char)} (plain : ∀ name ∈ names, PlainName name) :
    Resource.ofPath? (pathOf names) = Resource.all.findSome? fun resource =>
      (Resource.match? resource.path names).map (resource, ·) := by
  have cut : Text.pieces '/' (['/'].intercalate ([] :: names)) = [] :: names :=
    Text.pieces_intercalate (List.cons_ne_nil _ _)
      (List.forall_mem_cons.2 ⟨List.not_mem_nil, fun name member => (plain name member).1⟩)
  rw [intercalate_cons_flatMap, List.nil_append] at cut
  rw [Resource.ofPath?, cut]

theorem decodeParameters_encoded (parameters : List (String × String)) :
    decodeParameters (parameters.map fun parameter => ⟨parameter.1, encoded parameter.2⟩) =
      .ok (parameters.map (·.2)) := by
  induction parameters with
  | nil => rfl
  | cons parameter parameters ih =>
    rw [List.map_cons, decodeParameters, decode?_encoded, ih]
    rfl

/-- The last name of a path is not empty. -/
theorem getLast?_match? {segments : List Segment} {texts : List (List Char)}
    {parameters : List Resource.Parameter}
    (matched : Resource.match? segments texts = some parameters) {name : String}
    (ends : segments.getLast? = some (.parameter name)) :
    ∃ parameter, parameters.getLast? = some parameter ∧ parameter.text ≠ [] := by
  induction segments generalizing texts parameters with
  | nil => cases ends
  | cons segment segments ih =>
    rcases texts with _ | ⟨text, texts⟩
    · cases segment <;> cases matched
    cases segment with
    | fixed fixed =>
      rw [Resource.match?] at matched
      split at matched
      · refine ih matched ?_
        cases segments with
        | nil => cases ends
        | cons next segments => exact ends
      · cases matched
    | parameter here =>
      rw [Resource.match?] at matched
      split at matched
      · cases matched
      next some =>
        obtain ⟨others, further, rfl⟩ := Option.map_eq_some_iff.1 matched
        cases segments with
        | nil =>
          cases texts with
          | nil =>
            cases further
            exact ⟨_, rfl, fun none => some ⟨none, rfl⟩⟩
          | cons next texts => cases further
        | cons next segments =>
          obtain ⟨parameter, last, nonempty⟩ := ih further ends
          refine ⟨parameter, ?_, nonempty⟩
          rw [List.getLast?_cons, last]
          rfl
theorem getLast?_decodeParameters {parameters : List Resource.Parameter} {values : List String}
    (decoded : decodeParameters parameters = .ok values) {parameter : Resource.Parameter}
    (last : parameters.getLast? = some parameter) :
    ∃ value, values.getLast? = some value ∧
      Text.decode? (percentDecode parameter.text) = some value := by
  induction parameters generalizing values with
  | nil => cases last
  | cons first parameters ih =>
    rw [decodeParameters] at decoded
    split at decoded
    · next value here =>
      obtain ⟨others, further, rfl⟩ := map_eq_ok.1 decoded
      cases parameters with
      | nil =>
        cases further
        cases last
        exact ⟨value, rfl, here⟩
      | cons second parameters =>
        obtain ⟨final, ends, read⟩ := ih further last
        refine ⟨final, ?_, read⟩
        rw [List.getLast?_cons, ends]
        rfl
    · cases decoded

/-- What stands at the end of a path is never the empty text. -/
theorem last_ne_empty {path : List Char} {resource : Resource}
    {parameters : List Resource.Parameter} {values : List String} {name : String}
    (found : Resource.ofPath? path = some (resource, parameters))
    (decoded : decodeParameters parameters = .ok values)
    (ends : resource.path.getLast? = some (.parameter name)) : values.getLast? ≠ some "" := by
  unfold Resource.ofPath? at found
  split at found
  · obtain ⟨_, -, matched⟩ := List.exists_of_findSome?_eq_some found
    obtain ⟨_, matched, same⟩ := Option.map_eq_some_iff.1 matched
    cases same
    obtain ⟨parameter, last, some⟩ := getLast?_match? matched ends
    obtain ⟨value, lastValue, read⟩ := getLast?_decodeParameters decoded last
    rw [lastValue]
    rintro ⟨rfl⟩
    exact Text.decode?_ne_empty (percentDecode_ne_nil some) read
  · cases found

/-! ## Queries -/

def queryOf (name value : String) : List Char :=
  name.toList ++ '=' :: encoded value

/-- The query is read as the form that it is, if there is nothing to be encoded in the name. -/
theorem formField_queryOf {name : String} (plain : formText name.toList = name)
    (noPair : '&' ∉ name.toList) (noValue : '=' ∉ name.toList) (value : String) :
    formField name (queryOf name value) = .ok (some value) := by
  have whole : '&' ∉ queryOf name value := by
    simp [queryOf, noPair, not_mem_encoded value (c := '&') (by decide)]
  have taken : (queryOf name value).takeWhile (· ≠ '=') = name.toList := by
    rw [queryOf, List.takeWhile_append_of_pos]
    · simp
    · intro c member
      have differ : c ≠ '=' := fun same => noValue (same ▸ member)
      simpa using differ
  have pair : pairOf (queryOf name value) = (name, value) := by
    rw [pairOf, taken, plain, queryOf, List.drop_length_add_append]
    exact congrArg (name, ·) (formText_encoded value)
  have pairs : formPairs (queryOf name value) = [(name, value)] := by
    have nonempty : queryOf name value ≠ [] := by simp [queryOf]
    rw [formPairs_eq, Text.pieces_whole whole]
    simp [nonempty, pair]
  simp [formField, pairs]

/-! ## Whole targets -/

namespace Target

/-- A target as it is written: its path, and its query behind a question mark. -/
def text (target : Target) : List Char :=
  target.path ++ '?' :: target.query

/-- A target whose characters may stand where they do. -/
structure Plain (target : Target) : Prop where
  absolute : target.path.head? = some '/'
  path : target.path.all isPathChar = true
  query : target.query.all isQueryChar = true

theorem Plain.ofText? {target : Target} (plain : target.Plain)
    (short : (Text.encodeChars target.text).length ≤ lengthLimit) :
    ofText? target.text = some target := by
  obtain ⟨absolute, path, query⟩ := plain
  have pathEnds : target.text.takeWhile (fun c => c != '?' && c != '#') = target.path := by
    rw [text, List.takeWhile_append_of_pos]
    · simp
    · intro c member
      have allowed := List.all_eq_true.1 path c member
      simp only [isPathChar, Bool.and_eq_true] at allowed
      simp [allowed.2, allowed.1.2]
  have queryEnds : ('?' :: target.query).takeWhile (· != '#') = '?' :: target.query := by
    rw [List.takeWhile_eq_self_iff]
    refine List.forall_mem_cons.2 ⟨by decide, fun c member => ?_⟩
    have allowed := List.all_eq_true.1 query c member
    simp only [isQueryChar, Bool.and_eq_true] at allowed
    exact allowed.2
  have read : ofPath? target.text = some target := by
    rw [ofPath?, pathEnds, text, List.drop_left, queryEnds]
    simp [path, query]
  have slash : target.text.head? = some '/' := by
    rw [text, List.head?_append, absolute]
    rfl
  have notAll : target.text ≠ ['*'] := by
    intro all
    rw [all] at slash
    cases slash
  rw [Target.ofText?, if_neg (Nat.not_lt.2 short), if_neg notAll, if_pos slash, read]

/-- A target of names and of one field is plain. -/
theorem plain_pathOf {names : List (List Char)} (some : names ≠ [])
    (plain : ∀ name ∈ names, PlainName name) {field : String}
    (allowed : field.toList.all isQueryChar = true) (value : String) :
    (⟨pathOf names, queryOf field value⟩ : Target).Plain where
  absolute := by
    cases names with
    | nil => exact absurd rfl some
    | cons name names => rfl
  path := by
    rw [pathOf, List.all_flatMap, List.all_eq_true]
    exact fun name member => (plain name member).2
  query := by
    have encoding := @all_encoded isQueryChar (by decide) value
    have equals : isQueryChar '=' = true := by decide
    rw [queryOf, List.all_append, List.all_cons, allowed, equals, encoding]
    rfl

end Target

end LayerGateway.Http
