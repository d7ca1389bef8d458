/-!
# Maps with ordered keys

A map is a list of rows in strictly increasing key order, so that two maps with
the same rows are equal and every listing comes out sorted.  `Rows` holds the
operations on plain row lists, which JSON objects use as they are; `OrderedMap`
carries the order in its type.  The order of text keys is the order of their
UTF-8 bytes, which is also the order of their code points.
-/

namespace LayerGateway

namespace Rows

variable {κ ν : Type} [Ord κ]

/-- Puts a row in its place, over the row of the same key if there is one. -/
def insert (key : κ) (value : ν) : List (κ × ν) → List (κ × ν)
  | [] => [(key, value)]
  | row :: rest =>
      match compare key row.1 with
      | .lt => (key, value) :: row :: rest
      | .eq => (key, value) :: rest
      | .gt => row :: insert key value rest

def find? (key : κ) (rows : List (κ × ν)) : Option ν :=
  (rows.find? fun row => compare key row.1 == .eq).map (·.2)

def erase (key : κ) (rows : List (κ × ν)) : List (κ × ν) :=
  rows.filter fun row => compare key row.1 != .eq

/-- Strictly increasing keys. -/
def Sorted (rows : List (κ × ν)) : Prop :=
  rows.Pairwise fun first second => compare first.1 second.1 = .lt

/-- A key that is in the rows after an insertion was inserted or there before. -/
theorem mem_insert {key : κ} {value : ν} {rows : List (κ × ν)} {row : κ × ν}
    (h : row ∈ insert key value rows) : row = (key, value) ∨ row ∈ rows := by
  induction rows with
  | nil => exact .inl (by simpa [insert] using h)
  | cons head rest ih =>
      simp only [insert] at h
      split at h
      · simpa using h
      · rcases List.mem_cons.1 h with h | h
        · exact .inl h
        · exact .inr (List.mem_cons_of_mem _ h)
      · rcases List.mem_cons.1 h with h | h
        · exact .inr (h ▸ List.mem_cons_self)
        · rcases ih h with h | h
          · exact .inl h
          · exact .inr (List.mem_cons_of_mem _ h)

/-- Insertion keeps the order. -/
theorem sorted_insert [Std.TransOrd κ] [Std.LawfulEqOrd κ] (key : κ) (value : ν)
    {rows : List (κ × ν)} (sorted : Sorted rows) : Sorted (insert key value rows) := by
  induction rows with
  | nil => simp [insert, Sorted]
  | cons head rest ih =>
      obtain ⟨below, rest_sorted⟩ := List.pairwise_cons.1 sorted
      simp only [insert]
      split
      next smaller =>
        refine List.pairwise_cons.2 ⟨fun row member => ?_, sorted⟩
        rcases List.mem_cons.1 member with rfl | member
        · exact smaller
        · exact Std.TransCmp.lt_trans smaller (below row member)
      next same =>
        have : key = head.1 := Std.LawfulEqCmp.eq_of_compare same
        exact List.pairwise_cons.2 ⟨fun row member => this ▸ below row member, rest_sorted⟩
      next larger =>
        refine List.pairwise_cons.2 ⟨fun row member => ?_, ih rest_sorted⟩
        rcases mem_insert member with rfl | member
        · exact Std.OrientedCmp.lt_of_gt larger
        · exact below row member

/-- Erasing keeps the order. -/
theorem sorted_erase (key : κ) {rows : List (κ × ν)} (sorted : Sorted rows) :
    Sorted (erase key rows) :=
  List.Pairwise.filter _ sorted

end Rows

/-- A map from keys to values whose rows are in key order. -/
structure OrderedMap (κ ν : Type) [Ord κ] where
  rows : List (κ × ν)
  sorted : Rows.Sorted rows

namespace OrderedMap

variable {κ ν : Type} [Ord κ]

@[ext]
theorem ext {first second : OrderedMap κ ν} (h : first.rows = second.rows) : first = second := by
  cases first
  cases second
  simp_all

instance [DecidableEq κ] [DecidableEq ν] : DecidableEq (OrderedMap κ ν) := fun first second =>
  if h : first.rows = second.rows then .isTrue (ext h)
  else .isFalse fun same => h (same ▸ rfl)

def empty : OrderedMap κ ν :=
  ⟨[], List.Pairwise.nil⟩

instance : EmptyCollection (OrderedMap κ ν) := ⟨empty⟩

instance : Inhabited (OrderedMap κ ν) := ⟨empty⟩

def insert [Std.TransOrd κ] [Std.LawfulEqOrd κ] (map : OrderedMap κ ν) (key : κ) (value : ν) :
    OrderedMap κ ν :=
  ⟨Rows.insert key value map.rows, Rows.sorted_insert key value map.sorted⟩

def erase (map : OrderedMap κ ν) (key : κ) : OrderedMap κ ν :=
  ⟨Rows.erase key map.rows, Rows.sorted_erase key map.sorted⟩

def filter (keep : κ × ν → Bool) (map : OrderedMap κ ν) : OrderedMap κ ν :=
  ⟨map.rows.filter keep, List.Pairwise.filter _ map.sorted⟩

def get? (map : OrderedMap κ ν) (key : κ) : Option ν :=
  Rows.find? key map.rows

def contains (map : OrderedMap κ ν) (key : κ) : Bool :=
  (map.get? key).isSome

def keys (map : OrderedMap κ ν) : List κ :=
  map.rows.map (·.1)

/-- The rows with keys from `low` to `high`, both included. -/
def between (map : OrderedMap κ ν) (low high : κ) : List (κ × ν) :=
  map.rows.filter fun row => compare low row.1 != .gt && compare row.1 high != .gt

/-- The map of some rows, the last one of a key winning. -/
def ofRows [Std.TransOrd κ] [Std.LawfulEqOrd κ] (rows : List (κ × ν)) : OrderedMap κ ν :=
  rows.foldl (fun map row => map.insert row.1 row.2) empty

end OrderedMap

end LayerGateway
