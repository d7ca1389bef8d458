import LayerGateway.Customer

/-!
# Arguments of commands

What a request may carry beside its method.  Everything is optional; what a command
needs is looked for at the top and then in the member `data`, where older clients
put it.
-/

namespace LayerGateway

/-- The member `data` of a request. -/
structure Payload where
  apikey : Option AccessKey := none
  datasources : Option (List DatasourceId) := none
  tilelayers : Option (List TileLayer) := none
  datasource : Option DatasourceId := none
  geoId : Option Json := none
  timestamp : Option Json := none
  layer : Option Json := none
  feature : Option Json := none
  deriving DecidableEq

structure Arguments where
  apikey : Option AccessKey := none
  datasource : Option DatasourceId := none
  geoId : Option Json := none
  file : Option String := none
  timestamp : Option Json := none
  layer : Option Json := none
  feature : Option Json := none
  data : Option Payload := none
  deriving DecidableEq

open Json (optional anyValue)

/-- The members of `data`. -/
def Payload.shape : Json.Shape Payload where
  name := "struct CommandData"
  fields :=
    [.of "apikey" (optional AccessKey.decoder) fun apikey draft => { draft with apikey },
     .of "datasources" (optional (Json.listOf DatasourceId.decoder)) fun datasources draft =>
       { draft with datasources },
     .of "tilelayers" (optional (Json.listOf TileLayer.decoder)) fun tilelayers draft =>
       { draft with tilelayers },
     .of "datasource" (optional DatasourceId.decoder) fun datasource draft =>
       { draft with datasource },
     .of "geo_id" (optional anyValue) fun geoId draft => { draft with geoId },
     .of "timestamp" (optional anyValue) fun timestamp draft => { draft with timestamp },
     .of "layer" (optional anyValue) fun layer draft => { draft with layer },
     .of "feature" (optional anyValue) fun feature draft => { draft with feature }]

/-- Reads the member `data`. -/
def Payload.decoder : Json.Decoder Payload :=
  Payload.shape.closed {}

namespace Arguments

def shape : Json.Shape Arguments where
  name := "struct CommandArgs"
  fields :=
    [.of "apikey" (optional AccessKey.decoder) fun apikey draft => { draft with apikey },
     .of "datasource" (optional DatasourceId.decoder) fun datasource draft =>
       { draft with datasource },
     .of "geo_id" (optional anyValue) fun geoId draft => { draft with geoId },
     .of "file" (optional (Json.textCalled "path string")) fun file draft => { draft with file },
     .of "timestamp" (optional anyValue) fun timestamp draft => { draft with timestamp },
     .of "layer" (optional anyValue) fun layer draft => { draft with layer },
     .of "feature" (optional anyValue) fun feature draft => { draft with feature },
     .of "data" (optional Payload.decoder) fun data draft => { draft with data }]

def decoder : Json.Decoder Arguments :=
  shape.closed {}

/-- The access key, the one at the top first. -/
def key? (arguments : Arguments) : Option AccessKey :=
  arguments.apikey <|> arguments.data.bind (·.apikey)

/-- The access key that a command is about: the one in `data` first, because the one at
the top says who is asking. -/
def subjectKey? (arguments : Arguments) : Option AccessKey :=
  arguments.data.bind (·.apikey) <|> arguments.apikey

/-- The datasource; an empty name counts as none. -/
def datasource? (arguments : Arguments) : Option DatasourceId :=
  (arguments.datasource <|> arguments.data.bind (·.datasource)).filter (·.text != "")

/-- The address of a feature. -/
def geoId? (arguments : Arguments) : Option Json :=
  arguments.geoId <|> arguments.data.bind (·.geoId)

def timestamp? (arguments : Arguments) : Option Json :=
  arguments.timestamp <|> arguments.data.bind (·.timestamp)

def layer? (arguments : Arguments) : Option Json :=
  arguments.layer <|> arguments.data.bind (·.layer)

def feature? (arguments : Arguments) : Option Json :=
  arguments.feature <|> arguments.data.bind (·.feature)

end Arguments

end LayerGateway
