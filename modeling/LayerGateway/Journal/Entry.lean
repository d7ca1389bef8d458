import LayerGateway.Json.Decode

/-!
# Journal entries

An entry records one accepted change: the name of the command and its payload.
-/

namespace LayerGateway

structure JournalEntry where
  method : String
  data : Json
  deriving DecidableEq

namespace JournalEntry

/-- The members of an entry in the order in which they are written. -/
def members (entry : JournalEntry) : List (String × Json) :=
  [("method", .string entry.method), ("data", entry.data)]

def print (entry : JournalEntry) : List Char :=
  Json.objectText (Json.printMembers entry.members)

structure Draft where
  method : Option String := none
  data : Option Json := none

def shape : Json.Shape Draft where
  name := "struct JournalEntry"
  fields :=
    [.of "method" Json.anyText fun method draft => { draft with method := some method },
     .of "data" Json.anyValue fun data draft => { draft with data := some data }]

def decoder : Json.Decoder JournalEntry := fun origin document => do
  let draft ← shape.closed {} origin document
  return ⟨← Json.required "method" draft.method, ← Json.required "data" draft.data⟩

end JournalEntry

end LayerGateway
