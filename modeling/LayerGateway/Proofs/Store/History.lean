import LayerGateway.Store.Layers

/-!
# What was committed

The history of a store is told without looking into it, from the operations it was asked and
the answers it gave: an `Archive` holds, for every layer, the collections that were accepted
since the layer was made or last deleted, each with the reading of the clock at that moment.
`stamped` turns these readings into the times of versions.  `Stands` says of events in order that
one of them did something which no later one has undone.
-/

namespace LayerGateway

variable {α : Type}

/-! ## Times of versions -/

/-- Each commit under the reading of the clock or, if that is not behind the time before it,
under the next time. -/
def stampedFrom (last : Int) : List (Int × α) → List (Int × α)
  | [] => []
  | (now, content) :: later =>
      (max now (last + 1), content) :: stampedFrom (max now (last + 1)) later

/-- The versions that commits make; the first one has the reading of the clock as it is. -/
def stamped : List (Int × α) → List (Int × α)
  | [] => []
  | (now, content) :: later => (now, content) :: stampedFrom now later

def lastTime? (versions : List (Int × α)) : Option Int :=
  versions.getLast?.map (·.1)

theorem nextStamp_eq (now last : Int) : LayerStore.nextStamp now (some last) = max now (last + 1) := by
  simp only [LayerStore.nextStamp]
  split <;> omega

theorem stampedFrom_snoc (last : Int) (commits : List (Int × α)) (now : Int) (content : α) :
    stampedFrom last (commits ++ [(now, content)]) =
      stampedFrom last commits ++
        [(max now ((lastTime? (stampedFrom last commits)).getD last + 1), content)] := by
  induction commits generalizing last with
  | nil => rfl
  | cons commit commits ih =>
    obtain ⟨before, held⟩ := commit
    rw [List.cons_append, stampedFrom, stampedFrom, ih, List.cons_append]
    -- The last time of a list with a head is that of the rest, or the head's.
    have lastOfRest : (lastTime? ((max before (last + 1), held) ::
        stampedFrom (max before (last + 1)) commits)).getD last =
          (lastTime? (stampedFrom (max before (last + 1)) commits)).getD
            (max before (last + 1)) := by
      simp only [lastTime?, List.getLast?_cons, Option.map_some, Option.getD_some]
      cases (stampedFrom (max before (last + 1)) commits).getLast? <;> rfl
    rw [lastOfRest]

/-- A new commit makes a new last version, at the time that a store gives to it. -/
theorem stamped_snoc (commits : List (Int × α)) (now : Int) (content : α) :
    stamped (commits ++ [(now, content)]) =
      stamped commits ++ [(LayerStore.nextStamp now (lastTime? (stamped commits)), content)] := by
  cases commits with
  | nil => rfl
  | cons commit commits =>
    obtain ⟨first, held⟩ := commit
    have last : lastTime? (stamped ((first, held) :: commits)) =
        some ((lastTime? (stampedFrom first commits)).getD first) := by
      simp only [lastTime?, stamped, List.getLast?_cons, Option.map_some]
      cases (stampedFrom first commits).getLast? <;> rfl
    rw [last, nextStamp_eq, List.cons_append, stamped, stamped, stampedFrom_snoc, List.cons_append]

theorem stampedFrom_above (last : Int) (commits : List (Int × α)) :
    ∀ version ∈ stampedFrom last commits, last < version.1 := by
  induction commits generalizing last with
  | nil => exact nofun
  | cons commit commits ih =>
    intro version member
    rcases List.mem_cons.1 member with rfl | member
    · simp only
      omega
    · have := ih _ version member
      omega

theorem stampedFrom_increasing (last : Int) (commits : List (Int × α)) :
    (stampedFrom last commits).Pairwise fun earlier later => earlier.1 < later.1 := by
  induction commits generalizing last with
  | nil => exact .nil
  | cons commit commits ih =>
    exact List.pairwise_cons.2 ⟨stampedFrom_above _ commits, ih _⟩

theorem stamped_increasing (commits : List (Int × α)) :
    (stamped commits).Pairwise fun earlier later => earlier.1 < later.1 := by
  cases commits with
  | nil => exact .nil
  | cons commit commits =>
    exact List.pairwise_cons.2 ⟨stampedFrom_above _ commits, stampedFrom_increasing _ commits⟩

theorem stampedFrom_contents (last : Int) (commits : List (Int × α)) :
    (stampedFrom last commits).map (·.2) = commits.map (·.2) := by
  induction commits generalizing last with
  | nil => rfl
  | cons commit commits ih => rw [stampedFrom, List.map_cons, List.map_cons, ih]

theorem stamped_contents (commits : List (Int × α)) :
    (stamped commits).map (·.2) = commits.map (·.2) := by
  cases commits with
  | nil => rfl
  | cons commit commits => rw [stamped, List.map_cons, List.map_cons, stampedFrom_contents]

/-! ## What stands -/

/-- One of the events, after those before it, did something, and all later ones let it stand. -/
def Stands {ε : Type _} (does : List ε → ε → Prop) (lets : ε → Prop) (events : List ε) : Prop :=
  ∃ earlier event later, events = earlier ++ event :: later ∧ does earlier event ∧
    ∀ other ∈ later, lets other

section Stands

variable {ε : Type _} {does : List ε → ε → Prop} {lets : ε → Prop} {events : List ε} {event : ε}

theorem not_stands_nil : ¬ Stands does lets [] := by
  rintro ⟨earlier, event, later, split, -⟩
  simp at split

theorem stands_snoc :
    Stands does lets (events ++ [event]) ↔
      does events event ∨ lets event ∧ Stands does lets events := by
  constructor
  · rintro ⟨earlier, doing, later, split, done, stands⟩
    rcases List.eq_nil_or_concat later with rfl | ⟨between, last, rfl⟩
    -- It was done by the last event, or by one before it.
    · obtain ⟨rfl, same⟩ := List.append_inj' split rfl
      obtain rfl := List.head_eq_of_cons_eq same
      exact .inl done
    · rw [List.concat_eq_append] at split stands
      rw [← List.cons_append, ← List.append_assoc] at split
      obtain ⟨rfl, same⟩ := List.append_inj' split rfl
      obtain rfl := List.head_eq_of_cons_eq same
      refine .inr ⟨stands event (by simp), earlier, doing, between, rfl, done, ?_⟩
      exact fun other member => stands other (List.mem_append_left _ member)
  · rintro (done | ⟨stands, earlier, doing, later, rfl, done, before⟩)
    · exact ⟨events, event, [], rfl, done, nofun⟩
    · refine ⟨earlier, doing, later ++ [event], by simp, done, fun other member => ?_⟩
      rcases List.mem_append.1 member with among | last
      · exact before other among
      · obtain rfl := List.mem_singleton.1 last
        exact stands

end Stands

/-! ## Archives -/

/-- The commits of every layer since it was made or last deleted, oldest first, each with the
reading of the clock. -/
abbrev Archive := DatasourceId → List (Int × FeatureCollection)

namespace Archive

def empty : Archive :=
  fun _ => []

def set (archive : Archive) (id : DatasourceId) (commits : List (Int × FeatureCollection)) :
    Archive :=
  fun other => if other = id then commits else archive other

def last? (archive : Archive) (id : DatasourceId) : Option FeatureCollection :=
  (archive id).getLast?.map (·.2)

/-- Which collection an accepted operation commits to which layer: a feature is added behind
those that were there, under the address that was answered, or put in the place of the first
one with its address. -/
def committed? (archive : Archive) :
    LayerOperation α → α → Option (DatasourceId × FeatureCollection)
  | .newLayer, id => some (id, .empty)
  | .insertLayer id collection, _ => some (id, collection)
  | .insertFeature id feature, geoId => do
      let collection ← archive.last? id
      let added := if feature.geoId?.isNone then feature.withGeoId geoId else feature
      return (id, { collection with features := collection.features ++ [added] })
  | .editFeature id geoId _, stored => do
      let collection ← archive.last? id
      let place ← collection.position? geoId
      return (id, { collection with features := collection.features.set place stored })
  | _, _ => none

/-- The archive after an operation.  What was rejected leaves no trace. -/
def after (archive : Archive) (now : Int) (operation : LayerOperation α)
    (result : Except StoreError α) : Archive :=
  match operation, result with
  | _, .error _ => archive
  | .deleteLayer id, .ok _ => archive.set id []
  | operation, .ok answer =>
      match archive.committed? operation answer with
      | some (id, collection) => archive.set id (archive id ++ [(now, collection)])
      | none => archive

@[simp] theorem set_self (archive : Archive) (id : DatasourceId)
    (commits : List (Int × FeatureCollection)) : archive.set id commits id = commits :=
  if_pos rfl

theorem set_of_ne (archive : Archive) {id other : DatasourceId} (differ : other ≠ id)
    (commits : List (Int × FeatureCollection)) : archive.set id commits other = archive other :=
  if_neg differ

theorem set_same (archive : Archive) (id : DatasourceId) : archive.set id (archive id) = archive := by
  funext other
  unfold set
  split
  · next same => rw [same]
  · rfl

theorem set_set (archive : Archive) (id : DatasourceId)
    (former commits : List (Int × FeatureCollection)) :
    (archive.set id former).set id commits = archive.set id commits := by
  funext other
  unfold set
  split <;> rfl

end Archive

/-! ## Runs -/

/-- An operation, and what the clock reads when it is carried out. -/
structure Request where
  Answer : Type
  operation : LayerOperation Answer
  now : Int

/-- A store on its way, with the names it gives next and what was committed to it. -/
structure Course where
  store : LayerStore
  names : Names
  archive : Archive

namespace Course

def start (store : LayerStore) (names : Names) : Course :=
  ⟨store, names, .empty⟩

def step (course : Course) (request : Request) : Course :=
  let (result, store, names) :=
    course.store.run request.operation request.now course.names
  ⟨store, names, course.archive.after request.now request.operation result⟩

def run (course : Course) (requests : List Request) : Course :=
  requests.foldl step course

end Course

end LayerGateway
