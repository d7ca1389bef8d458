import LayerGateway.Proofs.Registry
import Mathlib.Data.List.Induction

/-!
# The registry as a ledger of owners

Seen from outside the registry is a ledger: a finite map from access keys to what their
customers own.

* `Ledger.Step` says what each operation answers and what it makes of the ledger, in terms of
  look-ups alone.
* `Registry.Holds` relates the table to the ledger: the rows are the records of the ledger,
  each under its own key.
* `step_of_holds` is one operation, and `keeps_ledger` says that whatever is asked of the
  registry, one operation after the other, goes the way of a ledger.
-/

namespace LayerGateway

/-! ## Ledgers -/

/-- What a customer owns, every datasource once. -/
structure Ownership where
  datasources : List DatasourceId := []
  tilelayers : List TileLayer := []
  once : datasources.Nodup := by exact List.nodup_nil

namespace Ownership

variable {ownership : Ownership} {datasource : DatasourceId}

def record (ownership : Ownership) (key : AccessKey) : Customer :=
  ⟨key, ownership.datasources, ownership.tilelayers⟩

/-- One more datasource, behind the others unless it is there. -/
def give (ownership : Ownership) (datasource : DatasourceId) : Ownership :=
  if owned : datasource ∈ ownership.datasources then ownership
  else
    { ownership with
      datasources := ownership.datasources ++ [datasource]
      once := List.nodup_append.2 ⟨ownership.once, by simp, by
        rintro id member _ new rfl
        exact owned (List.mem_singleton.1 new ▸ member)⟩ }

/-- One datasource less, if it is there. -/
def take (ownership : Ownership) (datasource : DatasourceId) : Ownership :=
  { ownership with
    datasources := ownership.datasources.erase datasource
    once := ownership.once.sublist List.erase_sublist }

/-- What a record says somebody owns: its datasources are given one after the other. -/
def ofRecord (customer : Customer) : Ownership :=
  customer.datasources.foldl give { tilelayers := customer.tilelayers }

end Ownership

/-- Who owns what. -/
abbrev Ledger : Type :=
  AccessKey → Option Ownership

namespace Ledger

def blank : Ledger := fun _ => none

def set (ledger : Ledger) (key : AccessKey) (ownership : Ownership) : Ledger :=
  fun other => if other = key then some ownership else ledger other

theorem set_same {ledger : Ledger} {key : AccessKey} {ownership : Ownership}
    (known : ledger key = some ownership) : ledger.set key ownership = ledger := by
  funext other
  unfold set
  split
  · next here => rw [here, known]
  · rfl

def Knows (ledger : Ledger) (key : AccessKey) : Prop :=
  ∃ ownership, ledger key = some ownership

/-- Keys in the order of their bytes, no key twice. -/
def InOrder (keys : List AccessKey) : Prop :=
  keys.Pairwise fun first second =>
    compare (Text.encode first.text) (Text.encode second.text) = .lt

end Ledger

/-- The key that an operation is about, if it asks for a customer who is there. -/
def RegistryOperation.key? {Answer : Type} : RegistryOperation Answer → Option AccessKey
  | .get key | .isOwner key _ | .add key _ | .remove key _ => some key
  | .create | .put _ | .list | .ownersOf _ => none

/-- What an operation answers, and what it makes of a ledger.  The candidates are tried for the
key of a new customer. -/
inductive Ledger.Step (candidates : List AccessKey) (ledger : Ledger) :
    {Answer : Type} → RegistryOperation Answer → Except RegistryError Answer → Ledger → Prop where
  | created {before after : List AccessKey} {key : AccessKey}
      (tried : candidates = before ++ key :: after)
      (taken : ∀ other ∈ before, ledger.Knows other) (free : ¬ ledger.Knows key) :
      Step candidates ledger .create (.ok ⟨key, [], []⟩) (ledger.set key {})
  | exhausted (taken : ∀ key ∈ candidates, ledger.Knows key) :
      Step candidates ledger .create (.error .keysExhausted) ledger
  | put (customer : Customer) :
      Step candidates ledger (.put customer) (.ok ())
        (ledger.set customer.apikey (.ofRecord customer))
  | unknown {Answer : Type} {operation : RegistryOperation Answer} {key : AccessKey}
      (about : operation.key? = some key) (unknown : ¬ ledger.Knows key) :
      Step candidates ledger operation (.error (.customerNotFound key)) ledger
  | got {key : AccessKey} {ownership : Ownership} (known : ledger key = some ownership) :
      Step candidates ledger (.get key) (.ok (ownership.record key)) ledger
  | asked {key : AccessKey} {ownership : Ownership} (known : ledger key = some ownership)
      (datasource : DatasourceId) :
      Step candidates ledger (.isOwner key datasource)
        (.ok (decide (datasource ∈ ownership.datasources))) ledger
  | listed {keys : List AccessKey} (inOrder : InOrder keys)
      (exactly : ∀ key, key ∈ keys ↔ ledger.Knows key) :
      Step candidates ledger .list (.ok keys) ledger
  | owners {keys : List AccessKey} {datasource : DatasourceId} (inOrder : InOrder keys)
      (exactly : ∀ key, key ∈ keys ↔
        ∃ ownership, ledger key = some ownership ∧ datasource ∈ ownership.datasources) :
      Step candidates ledger (.ownersOf datasource) (.ok keys) ledger
  | added {key : AccessKey} {ownership : Ownership} (known : ledger key = some ownership)
      (datasource : DatasourceId) :
      Step candidates ledger (.add key datasource)
        (.ok ((ownership.give datasource).record key))
        (ledger.set key (ownership.give datasource))
  | removed {key : AccessKey} {ownership : Ownership} (known : ledger key = some ownership)
      (datasource : DatasourceId) :
      Step candidates ledger (.remove key datasource)
        (.ok ((ownership.take datasource).record key))
        (ledger.set key (ownership.take datasource))

/-! ## Records of a ledger -/

namespace Ownership

variable (ownership : Ownership) (key : AccessKey) (datasource : DatasourceId)

theorem has_record :
    (ownership.record key).has datasource = decide (datasource ∈ ownership.datasources) := by
  rw [Bool.eq_iff_iff, Customer.has_iff, decide_eq_true_iff]
  rfl

theorem record_give :
    (ownership.give datasource).record key = (ownership.record key).add datasource := by
  unfold give Customer.add
  rw [has_record]
  split
  · next owned => rw [if_pos (decide_eq_true owned)]
  · next foreign =>
    rw [if_neg (by simpa using foreign)]
    rfl

theorem record_take :
    (ownership.take datasource).record key = (ownership.record key).remove datasource := by
  simp only [record, take, Customer.remove, ownership.once.erase_eq_filter]

theorem give_give : (ownership.give datasource).give datasource = ownership.give datasource := by
  have owned : datasource ∈ (ownership.give datasource).datasources := by
    unfold give
    split
    · assumption
    · simp
  rw [give, dif_pos owned]

theorem take_take : (ownership.take datasource).take datasource = ownership.take datasource := by
  have gone : datasource ∉ ownership.datasources.erase datasource :=
    ownership.once.not_mem_erase
  simp only [take, List.erase_of_not_mem gone]

variable {ownership key} in
theorem record_injective {kept : Ownership}
    (same : ownership.record key = kept.record key) : ownership = kept := by
  cases ownership
  cases kept
  cases same
  rfl

/-- Giving one datasource after the other adds the first of each that is not there. -/
theorem record_foldl_give (datasources : List DatasourceId) :
    (datasources.foldl give ownership).record key =
      { ownership.record key with
        datasources := ownership.datasources ++
          (datasources.removeAll ownership.datasources).eraseDups } := by
  induction datasources generalizing ownership with
  | nil => simp [record]
  | cons datasource others ih =>
    rw [List.foldl_cons, ih]
    by_cases owned : datasource ∈ ownership.datasources
    · rw [give, dif_pos owned, List.cons_removeAll]
      simp [owned]
    · have apart : (others.removeAll ownership.datasources).filter (!· == datasource) =
          others.removeAll (ownership.datasources ++ [datasource]) := by
        rw [List.removeAll, List.removeAll, List.filter_filter]
        refine List.filter_congr fun id _ => ?_
        rw [Bool.eq_iff_iff]
        simp [and_comm]
      rw [give, dif_neg owned, List.cons_removeAll]
      simp only [List.contains_eq_mem, owned, decide_false, if_true, List.eraseDups_cons, apart]
      simp [record]

theorem record_ofRecord (customer : Customer) :
    (ofRecord customer).record customer.apikey = customer.dedup := by
  rw [ofRecord, record_foldl_give]
  have all : customer.datasources.removeAll [] = customer.datasources := by simp [List.removeAll]
  simp only [record, Customer.dedup, all, List.nil_append]

end Ownership

/-! ## Tables of records -/

theorem exists_map_eq {α β : Type} {f : α → β} {items : List β}
    (each : ∀ item ∈ items, ∃ origin, f origin = item) :
    ∃ origins : List α, origins.map f = items := by
  induction items with
  | nil => exact ⟨[], rfl⟩
  | cons item items ih =>
    obtain ⟨origin, rfl⟩ := each _ List.mem_cons_self
    obtain ⟨origins, rfl⟩ := ih fun other member => each other (List.mem_cons_of_mem _ member)
    exact ⟨origin :: origins, rfl⟩

namespace Registry

variable {registry : Registry} {ledger : Ledger} {key : AccessKey} {ownership : Ownership}

def rowOf (key : AccessKey) (ownership : Ownership) : Bytes × Bytes :=
  (Text.encode key.text, (ownership.record key).bytes)

/-- The rows are the records of a ledger, each under its own key. -/
def Holds (registry : Registry) (ledger : Ledger) : Prop :=
  ∀ row, row ∈ registry.rows.rows ↔
    ∃ key ownership, ledger key = some ownership ∧ row = rowOf key ownership

theorem holds_empty : Holds {} .blank :=
  fun _ => ⟨nofun, nofun⟩

theorem encode_eq_iff {other : AccessKey} :
    Text.encode other.text = Text.encode key.text ↔ other = key :=
  ⟨fun same => congrArg AccessKey.mk (Text.encode_injective same), fun same => same ▸ rfl⟩

namespace Holds

theorem get?_eq (holds : registry.Holds ledger) (key : AccessKey) :
    registry.rows.get? (Text.encode key.text) =
      (ledger key).map fun ownership => (rowOf key ownership).2 := by
  cases known : ledger key with
  | some ownership => exact registry.rows.mem_rows_iff.1 ((holds _).2 ⟨key, ownership, known, rfl⟩)
  | none =>
    cases found : registry.rows.get? (Text.encode key.text) with
    | none => rfl
    | some row =>
      obtain ⟨other, ownership, owned, same⟩ := (holds _).1 (registry.rows.mem_of_get? found)
      obtain rfl := encode_eq_iff.1 (congrArg Prod.fst same)
      cases known.symm.trans owned

theorem load_eq (holds : registry.Holds ledger) (key : AccessKey) :
    registry.load key = .ok ((ledger key).map fun ownership => ownership.record key) := by
  have found := holds.get?_eq key
  cases known : ledger key with
  | some ownership =>
    rw [known] at found
    exact load_of_get? found (ownership.record key).ofBytes_bytes
  | none =>
    rw [known] at found
    simp only [load, found]
    rfl

theorem get_of_known (holds : registry.Holds ledger) (known : ledger key = some ownership) :
    registry.get key = .ok (ownership.record key) :=
  get_of_load (by rw [holds.load_eq, known]; rfl)

theorem get_of_unknown (holds : registry.Holds ledger) (unknown : ledger key = none) :
    registry.get key = .error (.customerNotFound key) := by
  have free : registry.load key = .ok none := by rw [holds.load_eq, unknown]; rfl
  rw [get, bind_of_ok free]
  rfl

/-- Writing a record changes one entry. -/
theorem store (holds : registry.Holds ledger) (key : AccessKey) (ownership : Ownership) :
    (registry.store (ownership.record key)).Holds (ledger.set key ownership) := by
  intro row
  rw [OrderedMap.mem_rows_iff, Registry.store, OrderedMap.get?_insert]
  split
  · next here =>
    constructor
    · intro stored
      refine ⟨key, ownership, if_pos rfl, ?_⟩
      exact Prod.ext here (Option.some.inj stored).symm
    · rintro ⟨other, kept, owned, rfl⟩
      obtain rfl := encode_eq_iff.1 here
      rw [Ledger.set, if_pos rfl] at owned
      cases owned
      rfl
  · next elsewhere =>
    rw [← OrderedMap.mem_rows_iff, holds row]
    refine exists_congr fun other => exists_congr fun kept => and_congr_left ?_
    rintro rfl
    have other_ne : other ≠ key := fun same => elsewhere (encode_eq_iff.2 same)
    rw [Ledger.set, if_neg other_ne]

end Holds

/-! ## Lists of keys -/

theorem rowOf_injective {other : AccessKey} {kept : Ownership}
    (same : rowOf key ownership = rowOf other kept) : key = other ∧ ownership = kept := by
  obtain ⟨sameKey, sameBytes⟩ := Prod.mk.inj same
  obtain rfl := encode_eq_iff.1 sameKey
  have read := congrArg Customer.ofBytes sameBytes
  rw [Customer.ofBytes_bytes, Customer.ofBytes_bytes] at read
  exact ⟨rfl, Ownership.record_injective (Except.ok.inj read)⟩

namespace Holds

/-- The rows of a table, from the first to the last, are entries of the ledger. -/
theorem exists_entries (holds : registry.Holds ledger) :
    ∃ entries : List (AccessKey × Ownership),
      registry.rows.rows = entries.map (fun entry => rowOf entry.1 entry.2) ∧
        ∀ key ownership, (key, ownership) ∈ entries ↔ ledger key = some ownership := by
  have each : ∀ row ∈ registry.rows.rows, ∃ entry : AccessKey × Ownership,
      rowOf entry.1 entry.2 = row := by
    intro row member
    obtain ⟨key, ownership, -, same⟩ := (holds row).1 member
    exact ⟨(key, ownership), same.symm⟩
  obtain ⟨entries, rows⟩ := exists_map_eq each
  refine ⟨entries, rows.symm, fun key ownership => ?_⟩
  have among : (key, ownership) ∈ entries ↔ rowOf key ownership ∈ registry.rows.rows := by
    rw [← rows, List.mem_map]
    constructor
    · exact fun member => ⟨_, member, rfl⟩
    · rintro ⟨⟨other, kept⟩, member, same⟩
      obtain ⟨rfl, rfl⟩ := rowOf_injective same
      exact member
  rw [among, holds]
  constructor
  · rintro ⟨other, kept, owned, same⟩
    obtain ⟨rfl, rfl⟩ := rowOf_injective same
    exact owned
  · exact fun owned => ⟨key, ownership, owned, rfl⟩

theorem list_step (holds : registry.Holds ledger) (candidates : List AccessKey) :
    ledger.Step candidates .list (.ok registry.list) ledger := by
  obtain ⟨entries, rows, owned⟩ := holds.exists_entries
  have listed : registry.list = entries.map (·.1) := by
    simp [list, OrderedMap.keys, rows, rowOf, Text.lossy_encode]
  rw [listed]
  refine .listed ?_ fun key => ?_
  · have sorted := registry.rows.sorted
    rw [rows] at sorted
    exact List.pairwise_map.2 (List.pairwise_map.1 sorted)
  · simp [Ledger.Knows, ← owned]

theorem ownersOf_step (holds : registry.Holds ledger) (candidates : List AccessKey)
    (datasource : DatasourceId) :
    ledger.Step candidates (.ownersOf datasource) (registry.ownersOf datasource) ledger := by
  obtain ⟨entries, rows, owned⟩ := holds.exists_entries
  have read : registry.rows.rows.mapM (fun row =>
      (Customer.ofBytes row.2).mapError RegistryError.unreadable) =
        .ok (entries.map fun entry => entry.2.record entry.1) := by
    rw [rows]
    clear rows owned
    induction entries with
    | nil => rfl
    | cons entry entries ih =>
      rw [List.map_cons, List.mapM_cons, ih, rowOf, Customer.ofBytes_bytes]
      rfl
  have listed : registry.ownersOf datasource =
      .ok ((entries.filter fun entry => datasource ∈ entry.2.datasources).map (·.1)) := by
    rw [ownersOf, bind_of_ok read, List.filter_map, List.map_map]
    simp only [Function.comp_def, Ownership.has_record]
    rfl
  rw [listed]
  refine .owners ?_ fun key => ?_
  · have sorted := registry.rows.sorted
    rw [rows] at sorted
    exact List.pairwise_map.2 ((List.pairwise_map.1 sorted).filter _)
  · simp [← owned]

end Holds

/-! ## Operations on a table -/

variable (holds : registry.Holds ledger)
include holds

theorem Holds.createFrom {tried candidates : List AccessKey}
    (taken : ∀ key ∈ tried, ledger.Knows key) :
    ∃ later, ledger.Step (tried ++ candidates) .create (registry.createFrom candidates).1 later ∧
      (registry.createFrom candidates).2.1.Holds later := by
  -- The candidates that were tried go over to those that are taken.
  induction candidates generalizing tried with
  | nil => exact ⟨ledger, .exhausted (by simpa using taken), holds⟩
  | cons key others ih =>
    have loaded := holds.load_eq key
    rw [Registry.createFrom]
    cases known : ledger key with
    | none =>
      rw [known] at loaded
      simp only [loaded, Option.map_none]
      exact ⟨_, .created rfl taken (by simp [Ledger.Knows, known]), holds.store key {}⟩
    | some ownership =>
      rw [known] at loaded
      simp only [loaded, Option.map_some]
      rw [List.append_cons]
      refine ih fun other member => ?_
      rcases List.mem_append.1 member with before | here
      · exact taken other before
      · obtain rfl := List.mem_singleton.1 here
        exact ⟨ownership, known⟩

theorem Holds.modify {change : Customer → Customer} {changed : Ownership}
    (known : ledger key = some ownership)
    (changes : change (ownership.record key) = changed.record key) :
    ∃ later, registry.modify key change = .ok (changed.record key, later) ∧
      later.Holds (ledger.set key changed) := by
  rw [Registry.modify, bind_of_ok (holds.get_of_known known), changes]
  refine ⟨_, rfl, ?_⟩
  split
  · next same =>
    obtain rfl := Ownership.record_injective same
    rwa [Ledger.set_same known]
  · exact holds.store key changed

theorem Holds.modify_of_unknown (unknown : ledger key = none) (change : Customer → Customer) :
    registry.modify key change = .error (.customerNotFound key) := by
  rw [Registry.modify, holds.get_of_unknown unknown]
  rfl

theorem Holds.add (known : ledger key = some ownership) (datasource : DatasourceId) :
    ∃ later, registry.add key datasource = .ok ((ownership.give datasource).record key, later) ∧
      later.Holds (ledger.set key (ownership.give datasource)) :=
  holds.modify known (ownership.record_give key datasource).symm

theorem Holds.remove (known : ledger key = some ownership) (datasource : DatasourceId) :
    ∃ later, registry.remove key datasource = .ok ((ownership.take datasource).record key, later) ∧
      later.Holds (ledger.set key (ownership.take datasource)) :=
  holds.modify known (ownership.record_take key datasource).symm

/-- What is asked of the table is answered as the ledger says, and the table holds what comes of
the ledger. -/
theorem step_of_holds {Answer : Type} (operation : RegistryOperation Answer) (names : Names) :
    ∃ later, ledger.Step (names.keyCandidates keyAttempts) operation
        (registry.run operation names).1 later ∧
      (registry.run operation names).2.1.Holds later := by
  have not_knows {key : AccessKey} (unknown : ledger key = none) : ¬ ledger.Knows key := by
    simp [Ledger.Knows, unknown]
  cases operation with
  | create =>
    have untried : ∀ key ∈ ([] : List AccessKey), ledger.Knows key := nofun
    exact holds.createFrom untried
  | put customer =>
    refine ⟨_, .put customer, ?_⟩
    rw [run, put, ← Ownership.record_ofRecord]
    exact holds.store _ _
  | get key =>
    refine ⟨ledger, ?_, holds⟩
    cases known : ledger key with
    | none =>
      simp only [run, holds.get_of_unknown known]
      exact .unknown rfl (not_knows known)
    | some ownership =>
      simp only [run, holds.get_of_known known]
      exact .got known
  | isOwner key datasource =>
    refine ⟨ledger, ?_, holds⟩
    cases known : ledger key with
    | none =>
      simp only [run, isOwner, holds.get_of_unknown known]
      exact .unknown rfl (not_knows known)
    | some ownership =>
      simp only [run, isOwner, bind_of_ok (holds.get_of_known known), Ownership.has_record]
      exact .asked known datasource
  | list => exact ⟨ledger, holds.list_step _, holds⟩
  | ownersOf datasource => exact ⟨ledger, holds.ownersOf_step _ datasource, holds⟩
  | add key datasource =>
    cases known : ledger key with
    | none =>
      simp only [run, Registry.add, holds.modify_of_unknown known]
      exact ⟨ledger, .unknown rfl (not_knows known), holds⟩
    | some ownership =>
      obtain ⟨later, added, laterHolds⟩ := holds.add known datasource
      simp only [run, added]
      exact ⟨_, .added known datasource, laterHolds⟩
  | remove key datasource =>
    cases known : ledger key with
    | none =>
      simp only [run, Registry.remove, holds.modify_of_unknown known]
      exact ⟨ledger, .unknown rfl (not_knows known), holds⟩
    | some ownership =>
      obtain ⟨later, removed, laterHolds⟩ := holds.remove known datasource
      simp only [run, removed]
      exact ⟨_, .removed known datasource, laterHolds⟩

/-- The ledger leaves no choice of the table. -/
theorem Holds.unique {other : Registry} (otherHolds : other.Holds ledger) : other = registry := by
  have same : other.rows = registry.rows := by
    refine OrderedMap.ext_get? fun key => Option.ext fun row => ?_
    have found (map : OrderedMap Bytes Bytes) : (key, row) ∈ map.rows ↔ map.get? key = some row :=
      map.mem_rows_iff
    rw [← found, ← found, otherHolds, holds]
  cases other
  cases registry
  exact congrArg Registry.mk same

omit holds

/-! ## Changes made twice -/

/-- Who makes a change is answered what is then there, and may make it again. -/
def Settles (registry : Registry) (key : AccessKey)
    (change : Registry → Except RegistryError (Customer × Registry)) : Prop :=
  ∀ customer later, change registry = .ok (customer, later) →
    later.get key = .ok customer ∧ change later = .ok (customer, later)

theorem Holds.settles (holds : registry.Holds ledger) {change : Customer → Customer}
    {effect : Ownership → Ownership}
    (changes : ∀ ownership, change (ownership.record key) = (effect ownership).record key)
    (settled : ∀ ownership, effect (effect ownership) = effect ownership) :
    registry.Settles key (·.modify key change) := by
  intro customer later changed
  cases known : ledger key with
  | none => cases (holds.modify_of_unknown known change).symm.trans changed
  | some ownership =>
    obtain ⟨_, ran, laterHolds⟩ := holds.modify known (changes ownership)
    cases ran.symm.trans changed
    have knownLater : ledger.set key (effect ownership) key = some (effect ownership) := if_pos rfl
    obtain ⟨last, ranAgain, lastHolds⟩ := laterHolds.modify knownLater (changes _)
    rw [settled] at ranAgain lastHolds
    rw [Ledger.set_same knownLater] at lastHolds
    cases laterHolds.unique lastHolds
    exact ⟨laterHolds.get_of_known knownLater, ranAgain⟩

end Registry

/-! ## Runs -/

/-- An operation on the registry, whatever it answers. -/
structure RegistryRequest where
  {Answer : Type}
  operation : RegistryOperation Answer

/-- The registry after some requests, with the names that are given next.  At first it is
empty. -/
def Registry.after (names : Names) (requests : List RegistryRequest) : Registry × Names :=
  requests.foldl (fun (registry, names) request => (registry.run request.operation names).2)
    ({}, names)

/-- The ledger after some requests, each of which was answered by the registry as the ledger
says.  Eight candidates are tried for the key of a new customer. -/
inductive Ledger.After (names : Names) : List RegistryRequest → Ledger → Prop where
  | blank : After names [] .blank
  | step {requests : List RegistryRequest} {ledger later : Ledger} {request : RegistryRequest}
      (before : After names requests ledger)
      (step : ledger.Step
        ((List.range 8).map fun n => names.keys ((Registry.after names requests).2.nextKey + n))
        request.operation
        ((Registry.after names requests).1.run request.operation
          (Registry.after names requests).2).1 later) :
      After names (requests ++ [request]) later

namespace Registry

variable {names : Names} {earlier : List RegistryRequest} {ledger : Ledger}

theorem after_snoc (request : RegistryRequest) : after names (earlier ++ [request]) =
    ((after names earlier).1.run request.operation (after names earlier).2).2 := by
  rw [after, List.foldl_append]
  rfl

/-- The candidates always come from the same row. -/
theorem keys_after (requests : List RegistryRequest) :
    (after names requests).2.keys = names.keys := by
  induction requests using List.reverseRecOn with
  | nil => rfl
  | append_singleton requests request ih =>
    obtain ⟨operation⟩ := request
    rw [after_snoc, ← ih]
    cases operation with
    | create | put _ | get _ | isOwner _ _ | list | ownersOf _ => rfl
    | add key datasource | remove key datasource =>
      simp only [run]
      split <;> rfl

theorem ledger_goesOn (reached : Ledger.After names earlier ledger)
    (holds : (after names earlier).1.Holds ledger) (requests : List RegistryRequest) :
    ∃ later, Ledger.After names (earlier ++ requests) later ∧
      (after names (earlier ++ requests)).1.Holds later := by
  -- The requests go over to the earlier ones, one by one.
  induction requests generalizing earlier ledger with
  | nil => exact ⟨ledger, by rwa [List.append_nil], by rwa [List.append_nil]⟩
  | cons request requests ih =>
    obtain ⟨between, step, betweenHolds⟩ :=
      step_of_holds holds request.operation (after names earlier).2
    -- The candidates of the step are those of the row, from the next place on.
    rw [Names.keyCandidates, keys_after] at step
    rw [List.append_cons]
    refine ih (reached.step step) ?_
    rwa [after_snoc]

/-- Whatever is asked of the registry, and whatever keys are made up for new customers, it goes
the way of a ledger, which alone decides what is in the table.  Who is given a datasource or
loses one is answered what is then kept of him, and nothing changes when that is done again.
A new customer gets the first of eight keys that nobody has, or none. -/
theorem keeps_ledger (names : Names) (requests : List RegistryRequest) :
    ∃ ledger, Ledger.After names requests ledger ∧
      (∀ registry : Registry, registry.Holds ledger ↔ registry = (after names requests).1) ∧
      ∀ key datasource,
        (after names requests).1.Settles key (·.add key datasource) ∧
        (after names requests).1.Settles key (·.remove key datasource) := by
  have started : (after names []).1.Holds .blank := holds_empty
  obtain ⟨ledger, reached, holds⟩ := ledger_goesOn .blank started requests
  rw [List.nil_append] at reached holds
  refine ⟨ledger, reached, fun registry => ⟨holds.unique, fun same => same ▸ holds⟩, ?_⟩
  intro key datasource
  constructor
  · exact holds.settles (fun ownership => (ownership.record_give key datasource).symm)
      fun ownership => ownership.give_give datasource
  · exact holds.settles (fun ownership => (ownership.record_take key datasource).symm)
      fun ownership => ownership.take_take datasource

/-- A key is found behind seven that are taken, and then none is left. -/
theorem keeps_ledger_colliding :
    let names : Names :=
      { Names.behind [] [] [] with keys := fun n => ⟨if n < 7 then "taken" else "free"⟩ }
    let taken : RegistryRequest := ⟨.put ⟨⟨"taken"⟩, [⟨"d"⟩, ⟨"d"⟩], []⟩⟩
    let first := after names [taken]
    let second := after names [taken, ⟨.create⟩]
    (first.1.run .create first.2).1 = .ok ⟨⟨"free"⟩, [], []⟩ ∧
    (second.1.run .create second.2).1 = .error .keysExhausted ∧
    ∃ ledger, Ledger.After names [taken, ⟨.create⟩] ledger ∧
      ledger ⟨"free"⟩ = some {} ∧
      (ledger ⟨"taken"⟩).map (·.datasources) = some [⟨"d"⟩] := by
  intro names taken first second
  obtain ⟨ledger, reached, holds, -⟩ := keeps_ledger names [taken, ⟨.create⟩]
  -- What the table holds decides what is in the ledger.
  have held : second.1.Holds ledger := (holds second.1).2 rfl
  have free : second.1.load ⟨"free"⟩ = .ok (some ⟨⟨"free"⟩, [], []⟩) := by decide +kernel
  have put : second.1.load ⟨"taken"⟩ = .ok (some ⟨⟨"taken"⟩, [⟨"d"⟩], []⟩) := by decide +kernel
  rw [held.load_eq, Except.ok.injEq, Option.map_eq_some_iff] at free put
  obtain ⟨ownership, owned, same⟩ := free
  obtain ⟨kept, owns, record⟩ := put
  refine ⟨by decide +kernel, by decide +kernel, ledger, reached, ?_, ?_⟩
  · rw [owned]
    exact congrArg some (Ownership.record_injective same)
  · rw [owns]
    exact congrArg (some ·.datasources) record

end Registry

end LayerGateway
