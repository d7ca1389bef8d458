import LayerGateway.Live.Event
import LayerGateway.Proofs.Json.Decoding
import LayerGateway.Proofs.Json.Integers
import LayerGateway.Proofs.Json.OneLine

/-!
# Change events are read in their own text
-/

namespace LayerGateway.LayerChanged

open Json (Document)

/-- The times that an event can have. -/
def Timed (event : LayerChanged) : Prop :=
  Decimal.isSigned event.timestamp = true

instance (event : LayerChanged) : Decidable event.Timed :=
  inferInstanceAs (Decidable (_ = true))

variable {event : LayerChanged}

theorem Timed.bounds (timed : event.Timed) :
    -Decimal.signedBound ≤ event.timestamp ∧ event.timestamp < Decimal.signedBound := by
  simpa [Timed, Decimal.isSigned] using timed

def written (event : LayerChanged) : Json :=
  .object event.members

theorem print_eq (event : LayerChanged) : event.print = event.written.print := rfl

theorem printable_print (event : LayerChanged) : Json.Printable event.print :=
  Json.printable_print event.written

theorem Timed.written_survives (timed : event.Timed) : event.written.Survives := by
  obtain ⟨low, high⟩ := timed.bounds
  have bounds : Decimal.signedBound ≤ Decimal.wordBound := by decide
  have time : (Json.ofInt event.timestamp).Survives :=
    .number (Number.survives_integer low (by omega))
  refine .object trivial ?_
  simp only [members, List.forall_mem_cons, List.not_mem_nil, false_implies, implies_true, and_true]
  exact ⟨.string _, .string _, time⟩

theorem Timed.decode_written (timed : event.Timed) :
    decoder (.text Json.maxDepth) (Document.ofJson event.written) = .ok event := by
  have datasource : (Json.Field.of "datasource" DatasourceId.decoder fun id (draft : Draft) =>
      { draft with datasource := some id }).set (.text 126)
        (.string (.ok event.datasource.text)) {} = .ok ⟨some event.datasource, none, none⟩ := rfl
  have method : (Json.Field.of "method" Json.anyText fun method (draft : Draft) =>
      { draft with method := some method }).set (.text 126) (.string (.ok event.method))
        ⟨some event.datasource, none, none⟩ =
          .ok ⟨some event.datasource, some event.method, none⟩ := rfl
  have read : Json.int64 (.text 126) (.number (some (.integer event.timestamp))) =
      .ok event.timestamp := by
    rw [Json.int64, if_pos timed.bounds.2]
  have timestamp : (Json.Field.of "timestamp" Json.int64 fun timestamp (draft : Draft) =>
      { draft with timestamp := some timestamp }).set (.text 126)
        (.number (some (.integer event.timestamp)))
        ⟨some event.datasource, some event.method, none⟩ =
          .ok ⟨some event.datasource, some event.method, some event.timestamp⟩ :=
    congrArg (Except.map _) read
  have filled : shape.closed {} (.text Json.maxDepth) (Document.ofJson event.written) =
      .ok ⟨some event.datasource, some event.method, some event.timestamp⟩ := by
    simp only [Json.Shape.closed, written, members, Document.ofJson, Document.ofJsonMembers]
    change (shape.fill (.text 126) Json.Shape.skip [] {} _ >>= _) = _
    rw [Json.Shape.fill_field (show shape.field? "datasource" = some _ from rfl) (by simp)
      datasource]
    rw [Json.Shape.fill_field (show shape.field? "method" = some _ from rfl) (by simp) method]
    rw [Json.ofInt, Document.ofJson, Json.Shape.fill_field
      (show shape.field? "timestamp" = some _ from rfl) (by simp) timestamp]
    rfl
  rw [decoder, filled]
  rfl

theorem Timed.decode_print (timed : event.Timed) :
    Json.decode decoder (.ofText (String.ofList event.print)) = .ok event := by
  have read := (Json.reads_print timed.written_survives).ofText
  rw [← print_eq] at read
  rw [read, Json.decode, timed.decode_written]
  rfl

end LayerGateway.LayerChanged
