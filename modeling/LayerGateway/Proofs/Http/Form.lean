import LayerGateway.Http.Target
import LayerGateway.Proofs.Text.Pieces

/-!
# Queries without a field

A field can be taken out of a query, and the others are what they were.
-/

namespace LayerGateway.Http

/-- The name and the value in a piece of a form. -/
def pairOf (piece : List Char) : String × String :=
  let name := piece.takeWhile (· ≠ '=')
  (formText name, formText (piece.drop (name.length + 1)))

def withoutField (name : String) (query : List Char) : List Char :=
  ['&'].intercalate ((Text.pieces '&' query).filter fun piece => (pairOf piece).1 ≠ name)

theorem formPairs_eq (query : List Char) :
    formPairs query = ((Text.pieces '&' query).filter (· ≠ [])).map pairOf := rfl

theorem formPairs_withoutField (name : String) (query : List Char) :
    formPairs (withoutField name query) = (formPairs query).filter (·.1 ≠ name) := by
  have kept : formPairs (withoutField name query) =
      (((Text.pieces '&' query).filter fun piece => (pairOf piece).1 ≠ name).filter
        (· ≠ [])).map pairOf := by
    rw [formPairs_eq, withoutField]
    generalize pieces : (Text.pieces '&' query).filter (fun piece =>
      (pairOf piece).1 ≠ name) = left
    by_cases some : left = []
    · rw [some]
      rfl
    · rw [Text.pieces_intercalate some fun piece member => ?_]
      rw [← pieces] at member
      exact Text.not_mem_of_mem_pieces (List.mem_filter.1 member).1
  rw [kept, formPairs_eq, List.filter_map, List.filter_filter, List.filter_filter]
  congr 2
  funext piece
  exact Bool.and_comm _ _

theorem formField_withoutField_self (name : String) (query : List Char) :
    formField name (withoutField name query) = .ok none := by
  have pairs : (formPairs (withoutField name query)).filter (·.1 == name) = [] := by
    rw [formPairs_withoutField, List.filter_filter, List.filter_eq_nil_iff]
    intro pair member
    by_cases same : pair.1 = name <;> simp [same]
  rw [formField, pairs]

theorem formField_withoutField_of_ne {name other : String} (differ : other ≠ name)
    (query : List Char) : formField other (withoutField name query) = formField other query := by
  have pairs : (formPairs (withoutField name query)).filter (·.1 == other) =
      (formPairs query).filter (·.1 == other) := by
    rw [formPairs_withoutField, List.filter_filter]
    apply List.filter_congr
    intro pair member
    by_cases same : pair.1 = other
    · simp [same, differ]
    · simp [same]
  rw [formField, formField, pairs]

end LayerGateway.Http
