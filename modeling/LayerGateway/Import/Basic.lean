import LayerGateway.Geo.Collection
import LayerGateway.Import.Converter

/-!
# Importing files

A file becomes a feature collection.  Its type is told by the extension of its name:
GeoJSON is read as it is, shapefiles go through a converter, and nothing else is known.
-/

namespace LayerGateway

inductive ImportError where
  | unsupported (extension : String)
  | missing (path : String)
  | unreadable (cause : Json.ReadError)
  | converter (failure : ConverterFailure)
  | file (cause : FileError)
  deriving DecidableEq, Repr

namespace ImportError

def message : ImportError → String
  | .unsupported extension => s!"unsupported file type: {extension}"
  | .missing path => s!"file not found: {path}"
  | .unreadable cause => s!"invalid feature collection: {cause.message}"
  | .converter failure => s!"converter failed: {failure.message}"
  | .file cause => s!"io error: {cause.message}"

/-- Whether the request is to blame, and not the converter or the files. -/
def isBadRequest : ImportError → Bool
  | .unsupported _ | .missing _ | .unreadable _ => true
  | .converter _ | .file _ => false

end ImportError

namespace FeatureCollection

/-- The type of a file: its extension in lower-case letters. -/
def fileType (path : String) : String :=
  ((Path.extension? path).getD "").map Char.toLower

def ofFile (bytes : Bytes) : Except ImportError FeatureCollection :=
  (ofBytes bytes).mapError .unreadable

def load (files : Files) (converter : Converter) (path : String) :
    Except ImportError FeatureCollection := do
  unless ← (files.contains path).mapError .file do throw (.missing path)
  match fileType path with
  | "geojson" | "json" => ofFile (← (files.read path).mapError .file)
  | "shp" => do
      let converted ← (converter files path).mapError .converter
      ofFile (← converted.mapError .file)
  | other => throw (.unsupported other)

end FeatureCollection

end LayerGateway
