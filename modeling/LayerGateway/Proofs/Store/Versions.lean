import LayerGateway.Proofs.Store.Isolation

/-!
# The versions a backend keeps

In memory the versions of a layer are rows under their times; on disk they are rows under
snapshot keys among those of all other layers.  `Backend.Keeps` says of either that a list of
versions is kept of a layer, the last one being its content.  What follows says how a backend
that keeps them answers, and what it keeps after a change.
-/

namespace LayerGateway

/-- Versions in order of their times, all of them times that a key can hold. -/
structure Chronological {α : Type} (versions : List (Int × α)) : Prop where
  increasing : versions.Pairwise fun earlier later => earlier.1 < later.1
  inRange : ∀ version ∈ versions, SnapshotKey.InRange version.1

def SnapshotKey.row (id : DatasourceId) (version : Int × Bytes) : Bytes × Bytes :=
  (SnapshotKey.encode id version.1, version.2)

/-- In memory a version behind all others is added at the end. -/
theorem Memory.versions_commit_of_above (held : Memory) (id : DatasourceId) {timestamp : Int}
    (content : Bytes) (above : ∀ version ∈ held.versions id, version.1 < timestamp) :
    (held.commit id timestamp content).versions id =
      held.versions id ++ [(timestamp, content)] := by
  -- Whether there was a layer or not, its versions were these rows.
  have before : (((held.get? id.text).map StoredLayer.versions).getD OrderedMap.empty).rows =
      held.versions id := by
    rw [Memory.versions]
    cases held.get? id.text <;> rfl
  have last := Rows.insert_of_above content fun row member =>
    Int.compare_eq_lt.2 (above row (before ▸ member))
  simp only [Memory.versions, Memory.commit, OrderedMap.get?_insert_self, Option.map_some,
    Option.getD_some]
  exact last.trans (congrArg (· ++ [(timestamp, content)]) before)

namespace Backend

/-- A backend keeps these versions of a layer, and the last one as its content. -/
inductive Keeps (id : DatasourceId) : Backend → List (Int × Bytes) → Prop where
  | memory {held : Memory} {versions : List (Int × Bytes)} (rows : held.versions id = versions)
      (content : (held.get? id.text).map (·.content) = versions.getLast?.map (·.2)) :
      Keeps id (.memory held) versions
  | disk {tables : Disk} {versions : List (Int × Bytes)}
      (rows : tables.rows id = versions.map (SnapshotKey.row id))
      (content : tables.layers.get? (Text.encode id.text) = versions.getLast?.map (·.2)) :
      Keeps id (.disk tables) versions

variable {backend : Backend} {id : DatasourceId} {versions : List (Int × Bytes)}

/-! ## Answers -/

theorem Keeps.content?_eq (keeps : Keeps id backend versions) :
    backend.content? id = versions.getLast?.map (·.2) := by
  cases keeps with
  | memory _ content => exact content
  | disk _ content => exact content

theorem stamp_row (id : DatasourceId) {version : Int × Bytes}
    (inRange : SnapshotKey.InRange version.1) :
    Disk.stamp (SnapshotKey.row id version).1 = .ok version.1 := by
  simp only [Disk.stamp, SnapshotKey.row, SnapshotKey.timestamp?_encode id inRange]

theorem mapM_stamp (id : DatasourceId)
    (inRange : ∀ version ∈ versions, SnapshotKey.InRange version.1) :
    (versions.map (SnapshotKey.row id)).mapM (fun row => Disk.stamp row.1) =
      .ok (versions.map (·.1)) := by
  induction versions with
  | nil => rfl
  | cons version versions ih =>
    obtain ⟨here, rest⟩ := List.forall_mem_cons.1 inRange
    rw [List.map_cons, List.mapM_cons, stamp_row id here, ih rest]
    rfl

theorem Keeps.stamps_eq (keeps : Keeps id backend versions)
    (chronological : Chronological versions) :
    backend.stamps id = .ok (versions.map (·.1)) := by
  cases keeps with
  | memory rows _ => rw [stamps, rows]
  | disk rows _ => rw [stamps, Disk.stamps, rows, mapM_stamp id chronological.inRange]

theorem Keeps.lastStamp_eq (keeps : Keeps id backend versions)
    (chronological : Chronological versions) :
    backend.lastStamp id = .ok (versions.getLast?.map (·.1)) := by
  cases keeps with
  | memory rows _ => rw [lastStamp, rows]
  | disk rows _ =>
    rw [lastStamp, Disk.lastStamp, rows, List.getLast?_map]
    cases last : versions.getLast? with
    | none => rfl
    | some version =>
      have inRange := chronological.inRange version (List.mem_of_getLast? last)
      simp only [Option.map_some, stamp_row id inRange]
      rfl

theorem filter_row (id : DatasourceId) {timestamp : Int}
    (inRange : SnapshotKey.InRange timestamp) (chronological : Chronological versions) :
    (versions.map (SnapshotKey.row id)).filter
        (fun row => compare row.1 (SnapshotKey.encode id timestamp) != .gt) =
      (versions.filter (·.1 ≤ timestamp)).map (SnapshotKey.row id) := by
  rw [List.filter_map]
  refine congrArg _ (List.filter_congr fun version member => ?_)
  have order := SnapshotKey.compare_encode id (chronological.inRange version member) inRange
  rw [Function.comp_apply, SnapshotKey.row, order, Bool.eq_iff_iff, bne_iff_ne,
    Int.compare_ne_gt, decide_eq_true_iff]

theorem Keeps.versionAt_eq (keeps : Keeps id backend versions)
    (chronological : Chronological versions) {timestamp : Int}
    (small : timestamp < Decimal.signedBound) :
    backend.versionAt id timestamp = .ok (versions.filter (·.1 ≤ timestamp)).getLast? := by
  by_cases negative : timestamp < 0
  · -- No version is as old as that.
    have none_reached : versions.filter (·.1 ≤ timestamp) = [] := by
      refine List.filter_eq_nil_iff.2 fun version member => ?_
      have notNegative := (chronological.inRange version member).1
      simp only [decide_eq_true_eq]
      omega
    unfold versionAt
    rw [if_pos negative, none_reached]
    rfl
  · unfold versionAt
    rw [if_neg negative]
    cases keeps with
    | memory rows _ => simp only [Memory.versionAt, rows]
    | disk rows _ =>
      have inRange : SnapshotKey.InRange timestamp := ⟨by omega, small⟩
      simp only [Disk.versionAt, Disk.between_eq_filter, rows,
        filter_row id inRange chronological, List.getLast?_map]
      cases last : (versions.filter (·.1 ≤ timestamp)).getLast? with
      | none => rfl
      | some version =>
        have member := (List.mem_filter.1 (List.mem_of_getLast? last)).1
        simp only [Option.map_some, stamp_row id (chronological.inRange version member)]
        rfl

/-! ## Changes -/

theorem keeps_of_sameLayer {later : Backend} (keeps : Keeps id backend versions)
    (same : SameLayer id later backend) : Keeps id later versions := by
  cases same with
  | memory same =>
    cases keeps with
    | memory rows content =>
      refine .memory ?_ (same ▸ content)
      rw [← rows, Memory.versions, Memory.versions, same]
  | disk sameContent sameRows =>
    cases keeps with
    | disk rows content => exact .disk (sameRows.trans rows) (sameContent.trans content)

theorem Keeps.commit (keeps : Keeps id backend versions) (chronological : Chronological versions)
    {timestamp : Int} (inRange : SnapshotKey.InRange timestamp)
    (above : ∀ version ∈ versions, version.1 < timestamp) (content : Bytes) :
    Keeps id (backend.commit id timestamp content) (versions ++ [(timestamp, content)]) := by
  cases keeps with
  | @memory held _ rows _ =>
    refine .memory ?_ (by simp [Memory.commit])
    rw [held.versions_commit_of_above id content (by rwa [rows]), rows]
  | @disk tables _ rows _ =>
    refine .disk ?_ (by simp [Disk.commit])
    have passes : (SnapshotKey.stem id).isPrefixOf (SnapshotKey.encode id timestamp) = true :=
      List.isPrefixOf_iff_prefix.2 (SnapshotKey.stem_prefix_encode id timestamp)
    have last := Rows.filter_insert_of_above (SnapshotKey.stem id).isPrefixOf content passes
      (fun row member starts => ?_) tables.snapshots.sorted
    · rw [List.map_append, ← rows]
      exact last
    · have kept : row ∈ tables.rows id := List.mem_filter.2 ⟨member, starts⟩
      rw [rows] at kept
      obtain ⟨version, earlier, rfl⟩ := List.mem_map.1 kept
      rw [SnapshotKey.row, SnapshotKey.compare_encode id (chronological.inRange _ earlier) inRange]
      exact Int.compare_eq_lt.2 (above version earlier)

theorem keeps_remove (backend : Backend) (id : DatasourceId) : Keeps id (backend.remove id) [] := by
  cases backend with
  | memory held => exact .memory (by simp [Memory.versions]) (by simp)
  | disk tables =>
    refine .disk ?_ (by simp [Disk.remove])
    simp only [Disk.rows, Disk.remove, OrderedMap.filter, List.filter_filter, List.map_nil]
    exact List.filter_eq_nil_iff.2 fun row _ => by simp

end Backend

end LayerGateway
