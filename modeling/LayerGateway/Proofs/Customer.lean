import LayerGateway.Customer
import LayerGateway.Proofs.Json.Decoding
import LayerGateway.Proofs.Json.Reading

/-!
# Records are read back

The bytes of a customer's record are read as that record, whatever texts it holds, and no
operation on a record changes whose it is or its base maps.
-/

namespace LayerGateway

open Json (Document Reads)

/-! ## Base maps -/

namespace TileLayer

/-- The text of a base map as a document. -/
def document (layer : TileLayer) : Document :=
  .object [(.ok "url", .string (.ok layer.url)), (.ok "name", .string (.ok layer.name))] .closed

theorem reads_print (layer : TileLayer) :
    Reads (Json.objectText (Json.printMembers layer.members)) layer.document :=
  Json.reads_objectText
    [⟨"url", _, _, Json.reads_stringText layer.url⟩,
     ⟨"name", _, _, Json.reads_stringText layer.name⟩]

theorem decode_document (layer : TileLayer) (depth : Nat) :
    decoder (.text (depth + 1)) layer.document = .ok layer := rfl

end TileLayer

/-! ## Printed records -/

namespace Customer

def document (customer : Customer) : Document :=
  .object
    [(.ok "apikey", .string (.ok customer.apikey.text)),
     (.ok "datasources", .array (customer.datasources.map fun id => .string (.ok id.text)) .closed),
     (.ok "tilelayers", .array (customer.tilelayers.map TileLayer.document) .closed)] .closed

theorem reads_print (customer : Customer) : Reads customer.print customer.document := by
  have ids : ∀ id ∈ customer.datasources,
      Reads (Json.stringText id.text) (.string (.ok id.text)) :=
    fun id _ => Json.reads_stringText id.text
  have layers : ∀ layer ∈ customer.tilelayers,
      Reads (Json.objectText (Json.printMembers layer.members)) layer.document :=
    fun layer _ => layer.reads_print
  have apikey := Json.reads_stringText customer.apikey.text
  have datasources := Json.reads_arrayText (fun id : DatasourceId => Json.stringText id.text)
    (fun id => .string (.ok id.text)) ids
  have tilelayers := Json.reads_arrayText
    (fun layer : TileLayer => Json.objectText (Json.printMembers layer.members))
    TileLayer.document layers
  exact Json.reads_objectText
    [⟨"apikey", _, _, apikey⟩, ⟨"datasources", _, _, datasources⟩,
     ⟨"tilelayers", _, _, tilelayers⟩]

theorem decode_document (customer : Customer) :
    decoder (.text Json.maxDepth) customer.document = .ok customer := by
  -- The record opens one level of nesting, each of its lists another.
  have datasources : Json.listOf DatasourceId.decoder (.text 126)
      (.array (customer.datasources.map fun id => .string (.ok id.text)) .closed) =
        .ok customer.datasources :=
    Json.decode_listOf fun _ _ => rfl
  have tilelayers : Json.listOf TileLayer.decoder (.text 126)
      (.array (customer.tilelayers.map TileLayer.document) .closed) = .ok customer.tilelayers :=
    Json.decode_listOf fun layer _ => layer.decode_document 124
  have keySet : (Json.Field.of "apikey" AccessKey.decoder fun apikey (draft : Draft) =>
      { draft with apikey := some apikey }).set (.text 126) (.string (.ok customer.apikey.text))
        {} = .ok ⟨some customer.apikey, [], []⟩ := rfl
  have filled : shape.closed {} (.text Json.maxDepth) customer.document =
      .ok ⟨some customer.apikey, customer.datasources, customer.tilelayers⟩ := by
    simp only [Json.Shape.closed, document]
    change (shape.fill (.text 126) Json.Shape.skip [] {} _ >>= _) = _
    rw [Json.Shape.fill_field (show shape.field? "apikey" = some _ from rfl) (by simp) keySet]
    rw [Json.Shape.fill_field (show shape.field? "datasources" = some _ from rfl) (by simp)
      (congrArg (Except.map _) datasources)]
    rw [Json.Shape.fill_field (show shape.field? "tilelayers" = some _ from rfl) (by simp)
      (congrArg (Except.map _) tilelayers)]
    rfl
  rw [decoder, filled]
  rfl

/-- What is written of a record is read as that record. -/
theorem ofBytes_bytes (customer : Customer) : ofBytes customer.bytes = .ok customer := by
  rw [ofBytes, bytes, customer.reads_print.ofBytes, Json.decode, customer.decode_document]
  rfl

/-! ## Changed records -/

variable (customer : Customer) (datasource : DatasourceId)

@[simp] theorem apikey_add : (customer.add datasource).apikey = customer.apikey := by
  unfold add
  split <;> rfl

@[simp] theorem apikey_remove : (customer.remove datasource).apikey = customer.apikey := rfl

@[simp] theorem remove_remove :
    (customer.remove datasource).remove datasource = customer.remove datasource := by
  simp [remove, List.filter_filter]

variable {customer datasource}

theorem add_of_has (owns : customer.has datasource = true) :
    customer.add datasource = customer :=
  if_pos owns

theorem remove_of_not_has (foreign : customer.has datasource = false) :
    customer.remove datasource = customer := by
  have others : customer.datasources.filter (· != datasource) = customer.datasources := by
    refine List.filter_eq_self.2 fun id member => bne_iff_ne.2 ?_
    rintro rfl
    exact Bool.eq_false_iff.1 foreign (List.contains_iff_mem.2 member)
  rw [remove, others]

/-! ## What a record lists -/

variable {other : DatasourceId}

theorem has_iff : customer.has datasource = true ↔ datasource ∈ customer.datasources :=
  List.contains_iff_mem

theorem has_add : (customer.add datasource).has other = true ↔
    other = datasource ∨ customer.has other = true := by
  unfold add
  split
  · next owns =>
    refine ⟨.inr, ?_⟩
    rintro (rfl | owned)
    · exact owns
    · exact owned
  · simp only [has_iff, List.mem_append, List.mem_singleton]
    exact or_comm

theorem has_remove : (customer.remove datasource).has other = true ↔
    customer.has other = true ∧ other ≠ datasource := by
  simp [has_iff, remove]

theorem has_dedup : customer.dedup.has datasource = true ↔ datasource ∈ customer.datasources := by
  simp [has_iff, dedup]

theorem nodup_add (single : customer.datasources.Nodup) :
    (customer.add datasource).datasources.Nodup := by
  unfold add
  split
  · exact single
  · next foreign =>
    refine List.nodup_append.2 ⟨single, List.nodup_cons.2 ⟨nofun, List.nodup_nil⟩, ?_⟩
    rintro id member _ new rfl
    obtain rfl := List.mem_singleton.1 new
    exact foreign (has_iff.2 member)

theorem nodup_eraseDups (ids : List DatasourceId) : ids.eraseDups.Nodup := by
  match ids with
  | [] => exact List.nodup_nil
  | id :: others =>
    rw [List.eraseDups_cons]
    exact List.nodup_cons.2 ⟨by simp, nodup_eraseDups _⟩
termination_by ids.length
decreasing_by
  have := List.length_filter_le (fun other => !other == id) others
  simp only [List.length_cons]
  omega

end Customer

end LayerGateway
