import LayerGateway.Proofs.Store.Isolation

/-!
# The names of the layers

A backend lists the names of its layers in order.  In memory the names are the keys themselves and
on disk their bytes are, but a new name goes to the same place in either, since the order is the
same.  `Backend.Lists` says which names a backend lists; a commit enters a name among them
(`DatasourceId.entered`), and a removal takes it out.
-/

namespace LayerGateway

/-- Names in order together with another one, which may be among them already. -/
def DatasourceId.entered (id : DatasourceId) : List DatasourceId → List DatasourceId
  | [] => [id]
  | other :: others =>
      match compare id.text other.text with
      | .lt => id :: other :: others
      | .eq => id :: others
      | .gt => other :: id.entered others

/-! ## Keys made of names -/

section Keys

variable {κ ν : Type} [Ord κ] {key : DatasourceId → κ} {ids : List DatasourceId}
  {rows : List (κ × ν)}

-- The rows and the names are walked along together.
theorem Rows.keys_insert (ordered : ∀ id other, compare (key id) (key other) =
      compare id.text other.text) (same : rows.map (·.1) = ids.map key) (id : DatasourceId)
    (value : ν) : (insert (key id) value rows).map (·.1) = (id.entered ids).map key := by
  induction rows generalizing ids with
  | nil =>
    cases ids with
    | nil => rfl
    | cons other others => cases same
  | cons row rows ih =>
    cases ids with
    | nil => cases same
    | cons other others =>
      obtain ⟨here, rest⟩ := List.cons.inj same
      simp only [insert, DatasourceId.entered, here, ordered]
      cases compare id.text other.text with
      | lt => simp [here, rest]
      | eq => simp [rest]
      | gt => simp [here, ih rest]

theorem Rows.keys_erase (ordered : ∀ id other, compare (key id) (key other) =
      compare id.text other.text) (same : rows.map (·.1) = ids.map key) (id : DatasourceId) :
    (erase (key id) rows).map (·.1) = (ids.filter (· != id)).map key := by
  have kept : (rows.map (·.1)).filter (fun other => compare (key id) other != .eq) =
      (ids.map key).filter fun other => compare (key id) other != .eq := by rw [same]
  rw [List.filter_map, List.filter_map] at kept
  refine kept.trans (congrArg _ (List.filter_congr fun other _ => ?_))
  rw [Function.comp_apply, ordered, Bool.eq_iff_iff, bne_iff_ne, bne_iff_ne]
  refine not_congr ⟨fun equal => ?_, fun equal => ?_⟩
  · exact congrArg DatasourceId.mk (Std.LawfulEqCmp.eq_of_compare equal).symm
  · rw [equal]
    exact Std.ReflCmp.compare_self

theorem OrderedMap.mem_iff_contains [Std.LawfulEqOrd κ] {map : OrderedMap κ ν}
    (keys : map.keys = ids.map key)
    (injective : ∀ {id other : DatasourceId}, key id = key other → id = other) {id : DatasourceId} :
    id ∈ ids ↔ map.contains (key id) = true := by
  rw [← mem_keys_iff, keys, List.mem_map]
  refine ⟨fun member => ⟨id, member, rfl⟩, ?_⟩
  rintro ⟨other, member, same⟩
  exact injective same ▸ member

end Keys

/-! ## Backends -/

namespace Backend

/-- A backend has layers of these names, in this order. -/
inductive Lists : Backend → List DatasourceId → Prop where
  | memory {held : Memory} {ids : List DatasourceId} (keys : held.keys = ids.map (·.text)) :
      Lists (.memory held) ids
  | disk {tables : Disk} {ids : List DatasourceId}
      (keys : tables.layers.keys = ids.map fun id => Text.encode id.text) :
      Lists (.disk tables) ids

variable {backend : Backend} {ids : List DatasourceId} {id : DatasourceId}

theorem Lists.commit (lists : backend.Lists ids) (id : DatasourceId) (timestamp : Int)
    (content : Bytes) : (backend.commit id timestamp content).Lists (id.entered ids) := by
  cases lists with
  | memory keys => exact .memory (Rows.keys_insert (fun _ _ => rfl) keys id _)
  | disk keys => exact .disk (Rows.keys_insert (fun _ _ => Text.compare_encode _ _) keys id _)

theorem Lists.remove (lists : backend.Lists ids) (id : DatasourceId) :
    (backend.remove id).Lists (ids.filter (· != id)) := by
  cases lists with
  | memory keys => exact .memory (Rows.keys_erase (fun _ _ => rfl) keys id)
  | disk keys => exact .disk (Rows.keys_erase (fun _ _ => Text.compare_encode _ _) keys id)

theorem Lists.taken_eq (lists : backend.Lists ids) : backend.taken = ids := by
  cases lists with
  | memory keys =>
    rw [taken, keys, List.map_map]
    exact List.map_id ids
  | disk keys =>
    rw [taken, keys, List.filterMap_map]
    have decoded : (fun key => (Text.decode? key).map DatasourceId.mk) ∘
        (fun id : DatasourceId => Text.encode id.text) = some := by
      funext id
      simp [Text.decode?_encode]
    rw [decoded, List.filterMap_some]

theorem Lists.names_eq (lists : backend.Lists ids) : backend.names = .ok ids := by
  cases lists with
  | memory keys =>
    rw [names, keys, List.map_map]
    exact congrArg Except.ok (List.map_id ids)
  | disk keys =>
    simp only [names, Disk.names, keys]
    clear keys
    -- Every key is the bytes of a name, so that none of them is at fault.
    induction ids with
    | nil => rfl
    | cons id ids ih =>
      rw [List.map_cons, List.mapM_cons, ih]
      simp only [Text.firstFault?_encode, Text.lossy_encode]
      rfl

theorem contains_memory {held : Memory} : (memory held).contains id = held.contains id.text := by
  rw [contains, content?, Option.isSome_map, OrderedMap.contains]

theorem contains_disk {tables : Disk} :
    (disk tables).contains id = tables.layers.contains (Text.encode id.text) :=
  rfl

theorem Lists.mem_iff (lists : backend.Lists ids) : id ∈ ids ↔ backend.contains id = true := by
  cases lists with
  | memory keys =>
    rw [contains_memory]
    exact OrderedMap.mem_iff_contains keys fun same => congrArg DatasourceId.mk same
  | disk keys =>
    rw [contains_disk]
    exact OrderedMap.mem_iff_contains keys fun same =>
      congrArg DatasourceId.mk (Text.encode_injective same)

theorem Lists.nodup (lists : backend.Lists ids) : (ids.map (·.text)).Nodup := by
  cases lists with
  | @memory held _ keys => exact keys ▸ held.nodup_keys
  | @disk tables _ keys =>
    have nodup : ((ids.map (·.text)).map Text.encode).Nodup := by
      rw [List.map_map]
      exact keys ▸ tables.layers.nodup_keys
    exact List.Pairwise.of_map Text.encode (fun _ _ differ same => differ (same ▸ rfl)) nodup

end Backend

end LayerGateway
