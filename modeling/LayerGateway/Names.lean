import LayerGateway.Customer
import LayerGateway.Supply

/-!
# Names that the gateway gives

The gateway makes up access keys, datasource names and feature addresses.  Where they
come from is no matter of the gateway; it takes one candidate after the other from
three rows and remembers how far it got in each.
-/

namespace LayerGateway

/-- The rows of candidates and the next place in each. -/
structure Names where
  keys : Nat → AccessKey
  datasources : Supply DatasourceId
  features : Nat → String
  nextKey : Nat := 0
  nextDatasource : Nat := 0
  nextFeature : Nat := 0

namespace Names

/-- Names numbered behind stems, padded to the usual lengths of twelve, 32 and sixteen
characters when the stems have five, eight and eight. -/
def behind (key datasource feature : List Char) : Names where
  keys n := ⟨numbered key 7 n⟩
  datasources := .ofInjective (fun n => ⟨numbered datasource 24 n⟩) fun _ _ same =>
    numbered_injective _ _ (DatasourceId.mk.inj same)
  features := numbered feature 8

def keyCandidates (names : Names) (count : Nat) : List AccessKey :=
  (List.range count).map fun n => names.keys (names.nextKey + n)

/-- The state after taking some candidates for access keys. -/
def skipKeys (names : Names) (count : Nat) : Names :=
  { names with nextKey := names.nextKey + count }

/-- The next datasource name, taken or not. -/
def datasource (names : Names) : DatasourceId × Names :=
  (names.datasources.candidate names.nextDatasource,
    { names with nextDatasource := names.nextDatasource + 1 })

def freeDatasource (names : Names) (taken : List DatasourceId) : DatasourceId × Names :=
  let n := names.datasources.firstFree taken names.nextDatasource
  (names.datasources.candidate n, { names with nextDatasource := n + 1 })

def feature (names : Names) : String × Names :=
  (names.features names.nextFeature, { names with nextFeature := names.nextFeature + 1 })

end Names

end LayerGateway
