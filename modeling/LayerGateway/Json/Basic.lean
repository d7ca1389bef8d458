import LayerGateway.Decimal.Layout
import LayerGateway.OrderedMap

/-!
# JSON values

The free-form values that features, commands and journal entries carry.  Objects
list their members in key order and hold every key once; `Json.ofMembers` builds
them so, the last value of a repeated key winning.
-/

namespace LayerGateway

/-- A JSON number: an integer where the text is one that fits 64 bits, signed or
unsigned, and a binary floating-point number otherwise. -/
inductive Number where
  | integer (value : Int)
  | real (value : Decimal.Binary64)
  deriving DecidableEq, Repr

/-- A JSON value. -/
inductive Json where
  | null
  | bool (value : Bool)
  | number (value : Number)
  | string (value : String)
  | array (items : List Json)
  | object (members : List (String × Json))
  deriving Repr, Inhabited

/-- The members of an object, in key order. -/
abbrev Members := OrderedMap String Json

namespace Json

mutual

def decEq : (first second : Json) → Decidable (first = second)
  | .null, .null => .isTrue rfl
  | .bool a, .bool b => decidable_of_iff (a = b) (by simp)
  | .number a, .number b => decidable_of_iff (a = b) (by simp)
  | .string a, .string b => decidable_of_iff (a = b) (by simp)
  | .array a, .array b =>
      match decEqItems a b with
      | .isTrue h => .isTrue (by rw [h])
      | .isFalse h => .isFalse (by simpa using h)
  | .object a, .object b =>
      match decEqMembers a b with
      | .isTrue h => .isTrue (by rw [h])
      | .isFalse h => .isFalse (by simpa using h)
  | .null, .bool _ | .null, .number _ | .null, .string _ | .null, .array _ | .null, .object _
  | .bool _, .null | .bool _, .number _ | .bool _, .string _ | .bool _, .array _
  | .bool _, .object _ | .number _, .null | .number _, .bool _ | .number _, .string _
  | .number _, .array _ | .number _, .object _ | .string _, .null | .string _, .bool _
  | .string _, .number _ | .string _, .array _ | .string _, .object _ | .array _, .null
  | .array _, .bool _ | .array _, .number _ | .array _, .string _ | .array _, .object _
  | .object _, .null | .object _, .bool _ | .object _, .number _ | .object _, .string _
  | .object _, .array _ => .isFalse (by simp)

def decEqItems : (first second : List Json) → Decidable (first = second)
  | [], [] => .isTrue rfl
  | [], _ :: _ | _ :: _, [] => .isFalse (by simp)
  | a :: as, b :: bs =>
      match decEq a b, decEqItems as bs with
      | .isTrue h, .isTrue hs => .isTrue (by rw [h, hs])
      | .isFalse h, _ => .isFalse (by simp [h])
      | _, .isFalse h => .isFalse (by simp [h])

def decEqMembers : (first second : List (String × Json)) → Decidable (first = second)
  | [], [] => .isTrue rfl
  | [], _ :: _ | _ :: _, [] => .isFalse (by simp)
  | (k, a) :: as, (l, b) :: bs =>
      if hk : k = l then
        match decEq a b, decEqMembers as bs with
        | .isTrue h, .isTrue hs => .isTrue (by rw [hk, h, hs])
        | .isFalse h, _ => .isFalse (by simp [h])
        | _, .isFalse h => .isFalse (by simp [h])
      else .isFalse (by simp [hk])

end

instance : DecidableEq Json := decEq

/-- The object with the given members, the last value of a repeated key winning. -/
def ofMembers (members : List (String × Json)) : Json :=
  .object (OrderedMap.ofRows members).rows

def ofInt (value : Int) : Json :=
  .number (.integer value)

/-- A text, or `null` for none. -/
def ofText? : Option String → Json
  | some text => .string text
  | none => .null

end Json

end LayerGateway
