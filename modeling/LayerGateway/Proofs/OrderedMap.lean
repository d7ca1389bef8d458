import LayerGateway.OrderedMap

/-!
# Looking up in ordered maps

What `insert`, `erase` and `filter` do to a look-up, and that the rows of a map are exactly
what can be looked up in it.  `filter_insert_of_above` is about a group of rows that ends
below the inserted key: there the new row becomes the last one of its group.
-/

namespace LayerGateway

namespace Rows

variable {κ ν : Type} [Ord κ] [Std.LawfulEqOrd κ]

theorem find?_cons_self (key : κ) (value : ν) (rows : List (κ × ν)) :
    find? key ((key, value) :: rows) = some value := by
  simp [find?]

theorem find?_cons_of_ne {key : κ} {row : κ × ν} (other : row.1 ≠ key)
    (rows : List (κ × ν)) : find? key (row :: rows) = find? key rows := by
  have differ : compare key row.1 ≠ .eq := fun same =>
    other (Std.LawfulEqCmp.eq_of_compare same).symm
  simp [find?, differ]

@[simp] theorem find?_erase_self (key : κ) (rows : List (κ × ν)) :
    find? key (erase key rows) = none := by
  simp [find?, erase, List.find?_eq_none]

theorem find?_erase_of_ne {key other : κ} (differ : other ≠ key) (rows : List (κ × ν)) :
    find? other (erase key rows) = find? other rows := by
  induction rows with
  | nil => rfl
  | cons row rest ih =>
    by_cases here : row.1 = other
    · subst here
      have kept : (compare key row.1 != .eq) = true := by
        simpa using differ.symm
      rw [erase, List.filter_cons, if_pos kept]
      exact (find?_cons_self row.1 row.2 _).trans (find?_cons_self row.1 row.2 _).symm
    · rw [find?_cons_of_ne here, ← ih, erase, erase, List.filter_cons]
      split
      · exact find?_cons_of_ne here _
      · rfl

theorem mem_of_find? {key : κ} {value : ν} {rows : List (κ × ν)}
    (found : find? key rows = some value) : (key, value) ∈ rows := by
  simp only [find?, Option.map_eq_some_iff] at found
  obtain ⟨row, found, rfl⟩ := found
  have same : key = row.1 := by
    simpa using List.find?_some found
  exact same ▸ List.mem_of_find?_eq_some found

theorem filter_insert_of_not (test : κ → Bool) {key : κ} (value : ν) (rows : List (κ × ν))
    (fails : test key = false) :
    (insert key value rows).filter (fun row => test row.1) =
      rows.filter (fun row => test row.1) := by
  induction rows with
  | nil => simp [insert, fails]
  | cons head rest ih =>
    simp only [insert]
    split
    next => rw [List.filter_cons_of_neg (by simp [fails])]
    next same =>
      have same : key = head.1 := Std.LawfulEqCmp.eq_of_compare same
      rw [List.filter_cons_of_neg (by simp [fails]),
        List.filter_cons_of_neg (by simp [← same, fails])]
    next =>
      simp only [List.filter_cons, ih]

@[simp] theorem find?_insert_self (key : κ) (value : ν) (rows : List (κ × ν)) :
    find? key (insert key value rows) = some value := by
  induction rows with
  | nil => exact find?_cons_self key value []
  | cons row rest ih =>
    simp only [insert]
    split
    next => exact find?_cons_self key value _
    next => exact find?_cons_self key value _
    next above =>
      -- The row stands behind one of another key.
      rw [find?_cons_of_ne _ _, ih]
      rintro rfl
      simp at above

theorem find?_insert_of_ne {key other : κ} (differ : other ≠ key) (value : ν)
    (rows : List (κ × ν)) : find? other (insert key value rows) = find? other rows := by
  induction rows with
  | nil => exact find?_cons_of_ne differ.symm []
  | cons row rest ih =>
    simp only [insert]
    split
    next => exact find?_cons_of_ne differ.symm _
    next same =>
      have : key = row.1 := Std.LawfulEqCmp.eq_of_compare same
      rw [find?_cons_of_ne differ.symm, find?_cons_of_ne (this ▸ differ.symm)]
    next =>
      by_cases here : row.1 = other
      · subst here
        exact (find?_cons_self row.1 row.2 _).trans (find?_cons_self row.1 row.2 _).symm
      · rw [find?_cons_of_ne here, find?_cons_of_ne here, ih]

/-- In sorted rows no key comes twice, so every row is found under its key. -/
theorem find?_of_mem {rows : List (κ × ν)} (sorted : Sorted rows) {row : κ × ν}
    (member : row ∈ rows) : find? row.1 rows = some row.2 := by
  induction rows with
  | nil => cases member
  | cons head rest ih =>
    obtain ⟨below, restSorted⟩ := List.pairwise_cons.1 sorted
    rcases List.mem_cons.1 member with rfl | member
    · exact find?_cons_self row.1 row.2 rest
    · rw [find?_cons_of_ne _ _, ih restSorted member]
      intro same
      have := below row member
      rw [same] at this
      simp at this

variable [Std.TransOrd κ] in
theorem keys_insert_of_find? {key : κ} {old : ν} {rows : List (κ × ν)} (sorted : Sorted rows)
    (found : find? key rows = some old) (value : ν) :
    (insert key value rows).map (·.1) = rows.map (·.1) := by
  induction rows with
  | nil => cases found
  | cons head rest ih =>
    obtain ⟨below, restSorted⟩ := List.pairwise_cons.1 sorted
    simp only [insert]
    split
    next smaller =>
      -- The row that was found would lie above the first one and below it.
      rcases List.mem_cons.1 (mem_of_find? found) with here | further
      · simp [← here] at smaller
      · have above := Std.OrientedCmp.gt_of_lt (below _ further)
        rw [smaller] at above
        cases above
    next same =>
      rw [List.map_cons, List.map_cons, Std.LawfulEqCmp.eq_of_compare same]
    next larger =>
      have other : head.1 ≠ key := by
        rintro rfl
        simp at larger
      rw [find?_cons_of_ne other] at found
      rw [List.map_cons, List.map_cons, ih restSorted found]

variable [Std.TransOrd κ] in
/-- A row whose key passes a test becomes the last one that does when it lies above the
others. -/
theorem filter_insert_of_above (test : κ → Bool) {key : κ} (value : ν) {rows : List (κ × ν)}
    (passes : test key = true)
    (above : ∀ row ∈ rows, test row.1 = true → compare row.1 key = .lt)
    (sorted : Sorted rows) :
    (insert key value rows).filter (fun row => test row.1) =
      rows.filter (fun row => test row.1) ++ [(key, value)] := by
  induction rows with
  | nil => simp [insert, passes]
  | cons head rest ih =>
    obtain ⟨below, restSorted⟩ := List.pairwise_cons.1 sorted
    have restAbove : ∀ row ∈ rest, test row.1 = true → compare row.1 key = .lt :=
      fun row member => above row (List.mem_cons_of_mem _ member)
    -- Nothing from a row on that is not below the key can pass.
    have none_passes (notBelow : compare head.1 key ≠ .lt) :
        ∀ row ∈ head :: rest, test row.1 = false := by
      intro row member
      rcases List.mem_cons.1 member with rfl | member
      · exact Bool.eq_false_iff.2 fun test => notBelow (above _ List.mem_cons_self test)
      · refine Bool.eq_false_iff.2 fun test => notBelow ?_
        exact Std.TransCmp.lt_trans (below row member) (restAbove row member test)
    simp only [insert]
    split
    next smaller =>
      have silent := none_passes fun lower => by
        have := Std.OrientedCmp.gt_of_lt lower
        simp [smaller] at this
      rw [List.filter_cons_of_pos (by simpa using passes),
        List.filter_eq_nil_iff.2 (by simpa using silent)]
      rfl
    next same =>
      have same : key = head.1 := Std.LawfulEqCmp.eq_of_compare same
      have silent := none_passes (by simp [same])
      exact absurd passes (by simp [same, silent head List.mem_cons_self])
    next =>
      by_cases headPasses : test head.1 = true
      · simp [headPasses, ih restAbove restSorted]
      · simp [headPasses, ih restAbove restSorted]

/-- In sorted rows a key above the first one is above none of the others. -/
theorem find?_eq_none_of_below {key : κ} {rows : List (κ × ν)}
    (below : ∀ row ∈ rows, compare key row.1 = .lt) : find? key rows = none := by
  cases found : find? key rows with
  | none => rfl
  | some value =>
    have same := below _ (mem_of_find? found)
    simp at same

variable [Std.TransOrd κ] in
/-- Sorted rows in which the same is found are the same. -/
theorem ext_find? {first second : List (κ × ν)} (sorted : Sorted first) (other : Sorted second)
    (same : ∀ key, find? key first = find? key second) : first = second := by
  induction first generalizing second with
  | nil =>
    cases second with
    | nil => rfl
    | cons row rest => cases (same row.1).trans (find?_cons_self row.1 row.2 rest)
  | cons row rest ih =>
    obtain ⟨below, restSorted⟩ := List.pairwise_cons.1 sorted
    cases second with
    | nil => cases (same row.1).symm.trans (find?_cons_self row.1 row.2 rest)
    | cons head tail =>
      obtain ⟨above, tailSorted⟩ := List.pairwise_cons.1 other
      have there : row ∈ head :: tail :=
        mem_of_find? ((same row.1).symm.trans (find?_cons_self row.1 row.2 rest))
      have here : head ∈ row :: rest :=
        mem_of_find? ((same head.1).trans (find?_cons_self head.1 head.2 tail))
      -- Each of the first rows is among those of the other list, and so neither is below.
      have equal : row = head := by
        rcases List.mem_cons.1 there with equal | further
        · exact equal
        rcases List.mem_cons.1 here with equal | later
        · exact equal.symm
        have lower := Std.OrientedCmp.gt_of_lt (above row further)
        rw [below head later] at lower
        cases lower
      subst equal
      refine congrArg (row :: ·) (ih restSorted tailSorted fun key => ?_)
      by_cases own : row.1 = key
      · subst own
        rw [find?_eq_none_of_below below, find?_eq_none_of_below above]
      · have found := same key
        rwa [find?_cons_of_ne own, find?_cons_of_ne own] at found

theorem forall_mem_insert {κ ν : Type} [Ord κ] {property : κ × ν → Prop} {key : κ} {value : ν}
    {rows : List (κ × ν)} (has : property (key, value)) (each : ∀ row ∈ rows, property row) :
    ∀ row ∈ insert key value rows, property row := by
  intro row member
  rcases mem_insert member with rfl | before
  · exact has
  · exact each row before

/-- A row with a key above all others is put at the end. -/
theorem insert_of_above {κ ν : Type} [Ord κ] [Std.TransOrd κ] {key : κ} (value : ν)
    {rows : List (κ × ν)}
    (above : ∀ row ∈ rows, compare row.1 key = .lt) :
    insert key value rows = rows ++ [(key, value)] := by
  induction rows with
  | nil => rfl
  | cons head rest ih =>
    have larger : compare key head.1 = .gt :=
      Std.OrientedCmp.gt_of_lt (above head List.mem_cons_self)
    simp only [insert, larger]
    rw [ih fun row member => above row (List.mem_cons_of_mem _ member)]
    rfl

end Rows

namespace OrderedMap

variable {κ ν : Type} [Ord κ]

variable [Std.LawfulEqOrd κ]

@[simp] theorem get?_erase_self (map : OrderedMap κ ν) (key : κ) :
    (map.erase key).get? key = none :=
  Rows.find?_erase_self key map.rows

theorem get?_erase_of_ne (map : OrderedMap κ ν) {key other : κ} (differ : other ≠ key) :
    (map.erase key).get? other = map.get? other :=
  Rows.find?_erase_of_ne differ map.rows

theorem mem_of_get? (map : OrderedMap κ ν) {key : κ} {value : ν}
    (found : map.get? key = some value) : (key, value) ∈ map.rows :=
  Rows.mem_of_find? found

theorem mem_rows_iff (map : OrderedMap κ ν) {row : κ × ν} :
    row ∈ map.rows ↔ map.get? row.1 = some row.2 :=
  ⟨Rows.find?_of_mem map.sorted, Rows.mem_of_find?⟩

theorem nodup_keys (map : OrderedMap κ ν) : map.keys.Nodup := by
  refine List.pairwise_map.2 (map.sorted.imp fun below same => ?_)
  rw [same] at below
  simp at below

theorem mem_keys_iff (map : OrderedMap κ ν) {key : κ} :
    key ∈ map.keys ↔ map.contains key = true := by
  rw [keys, List.mem_map, contains, Option.isSome_iff_exists]
  constructor
  · rintro ⟨row, member, rfl⟩
    exact ⟨row.2, map.mem_rows_iff.1 member⟩
  · rintro ⟨value, found⟩
    exact ⟨(key, value), map.mem_of_get? found, rfl⟩

theorem get?_filter (map : OrderedMap κ ν) (keep : κ × ν → Bool) (key : κ) :
    (map.filter keep).get? key = (map.get? key).filter fun value => keep (key, value) := by
  ext value
  have held : (key, value) ∈ map.rows ↔ map.get? key = some value := map.mem_rows_iff
  have kept : (key, value) ∈ (map.filter keep).rows ↔ (map.filter keep).get? key = some value :=
    (map.filter keep).mem_rows_iff
  rw [Option.filter_eq_some_iff, ← held, ← kept]
  exact List.mem_filter

variable [Std.TransOrd κ]

@[simp] theorem get?_insert_self (map : OrderedMap κ ν) (key : κ) (value : ν) :
    (map.insert key value).get? key = some value :=
  Rows.find?_insert_self key value map.rows

theorem keys_insert_of_get? (map : OrderedMap κ ν) {key : κ} {old : ν}
    (found : map.get? key = some old) (value : ν) : (map.insert key value).keys = map.keys :=
  Rows.keys_insert_of_find? map.sorted found value

theorem get?_insert_of_ne (map : OrderedMap κ ν) {key other : κ} (differ : other ≠ key)
    (value : ν) : (map.insert key value).get? other = map.get? other :=
  Rows.find?_insert_of_ne differ value map.rows

/-- Maps in which the same is found are the same. -/
theorem ext_get? {first second : OrderedMap κ ν}
    (same : ∀ key, first.get? key = second.get? key) : first = second :=
  ext (Rows.ext_find? first.sorted second.sorted same)

theorem get?_insert [DecidableEq κ] (map : OrderedMap κ ν) (key other : κ) (value : ν) :
    (map.insert key value).get? other = if other = key then some value else map.get? other := by
  split
  · next same => rw [same, get?_insert_self]
  · next differ => exact get?_insert_of_ne map differ value

/-! ## Maps of rows -/

theorem mem_foldl_insert {rows : List (κ × ν)} {map : OrderedMap κ ν} {row : κ × ν}
    (member : row ∈ (rows.foldl (fun map row => map.insert row.1 row.2) map).rows) :
    row ∈ map.rows ∨ row ∈ rows := by
  induction rows generalizing map with
  | nil => exact .inl member
  | cons head rest ih =>
    rcases ih member with inserted | later
    · rcases Rows.mem_insert inserted with rfl | before
      · exact .inr List.mem_cons_self
      · exact .inl before
    · exact .inr (List.mem_cons_of_mem _ later)

theorem mem_ofRows {rows : List (κ × ν)} {row : κ × ν} (member : row ∈ (ofRows rows).rows) :
    row ∈ rows :=
  (mem_foldl_insert member).resolve_left (List.not_mem_nil)

-- Every row goes to the end, since those before it are below it.
theorem rows_foldl_insert {rows : List (κ × ν)} {map : OrderedMap κ ν}
    (sorted : Rows.Sorted (map.rows ++ rows)) :
    (rows.foldl (fun map row => map.insert row.1 row.2) map).rows = map.rows ++ rows := by
  induction rows generalizing map with
  | nil => simp
  | cons head rest ih =>
    have above : ∀ row ∈ map.rows, compare row.1 head.1 = .lt := fun row member =>
      (List.pairwise_append.1 sorted).2.2 row member head List.mem_cons_self
    have inserted : (map.insert head.1 head.2).rows = map.rows ++ [head] :=
      Rows.insert_of_above head.2 above
    have split : map.rows ++ head :: rest = (map.insert head.1 head.2).rows ++ rest := by
      rw [inserted, List.append_assoc]
      rfl
    rw [List.foldl_cons, split, ih (split ▸ sorted)]

theorem rows_ofRows {rows : List (κ × ν)} (sorted : Rows.Sorted rows) :
    (ofRows rows).rows = rows :=
  rows_foldl_insert sorted

theorem get?_foldl_insert_of_absent {key : κ} {rows : List (κ × ν)} {map : OrderedMap κ ν}
    (absent : ∀ row ∈ rows, row.1 ≠ key) :
    (rows.foldl (fun map row => map.insert row.1 row.2) map).get? key = map.get? key := by
  induction rows generalizing map with
  | nil => rfl
  | cons row rows ih =>
    obtain ⟨other, others⟩ := List.forall_mem_cons.1 absent
    rw [List.foldl_cons, ih others, get?_insert_of_ne map other.symm]

/-- The last row of a key counts. -/
theorem get?_ofRows {key : κ} {value : ν} {rows later : List (κ × ν)}
    (absent : ∀ row ∈ later, row.1 ≠ key) :
    (ofRows (rows ++ (key, value) :: later)).get? key = some value := by
  rw [ofRows, List.foldl_append, List.foldl_cons, get?_foldl_insert_of_absent absent,
    get?_insert_self]

/-- Where no key comes twice, every row counts. -/
theorem get?_ofRows_of_mem {rows : List (κ × ν)} (once : (rows.map (·.1)).Nodup) {key : κ}
    {value : ν} (member : (key, value) ∈ rows) : (ofRows rows).get? key = some value := by
  obtain ⟨before, later, rfl⟩ := List.append_of_mem member
  refine get?_ofRows fun other further same => ?_
  rw [List.map_append, List.map_cons] at once
  have apart := (List.nodup_cons.1 (List.nodup_append.1 once).2.1).1
  exact apart (List.mem_map.2 ⟨other, further, same⟩)

/-- Rows that are picked by their keys make the map in which the others are missing. -/
theorem get?_ofRows_filter (test : κ → Bool) (rows : List (κ × ν)) (key : κ) :
    (ofRows (rows.filter fun row => test row.1)).get? key =
      if test key then (ofRows rows).get? key else none := by
  have agrees (first second : OrderedMap κ ν)
      (same : second.get? key = if test key then first.get? key else none) :
      ((rows.filter fun row => test row.1).foldl (fun map row => map.insert row.1 row.2)
        second).get? key =
        if test key then (rows.foldl (fun map row => map.insert row.1 row.2) first).get? key
        else none := by
    induction rows generalizing first second with
    | nil => exact same
    | cons row rows ih =>
      rw [List.foldl_cons, List.filter_cons]
      split
      · next kept =>
        refine ih _ _ ?_
        by_cases here : row.1 = key
        · subst here
          rw [get?_insert_self, get?_insert_self, if_pos kept]
        · rw [get?_insert_of_ne _ (Ne.symm here), get?_insert_of_ne _ (Ne.symm here), same]
      · next dropped =>
        refine ih _ _ ?_
        by_cases here : row.1 = key
        · subst here
          rw [same, if_neg dropped, if_neg dropped]
        · rw [get?_insert_of_ne _ (Ne.symm here), same]
  exact agrees empty empty (by split <;> rfl)

@[simp] theorem ofRows_rows (map : OrderedMap κ ν) : ofRows map.rows = map :=
  ext (rows_ofRows map.sorted)

end OrderedMap

end LayerGateway
