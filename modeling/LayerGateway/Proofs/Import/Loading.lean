import LayerGateway.Gateway.Error
import LayerGateway.Proofs.Except
import LayerGateway.Proofs.Files.Path

/-!
# Which files become collections

A file is loaded if something is where its path leads to and the path says what kind of file that
is: GeoJSON is read as it stands, a shapefile as the converter leaves it.

* `Loadable` says which collection is loaded, `load_eq_ok_iff` that it is.
* `Unloadable` says what goes wrong otherwise and whose fault that is, `load_eq_error_iff` that it
  is told so.
* `load_of_not_shapefile` says that only shapefiles are converted.
-/

namespace LayerGateway.FeatureCollection

variable {files : Files} {converter : Converter} {path kind : String} {bytes : Bytes}
  {collection : FeatureCollection} {error : ImportError} {blame : FailureKind}

/-! ## Kinds of files -/

/-- The last name of a path ends with a dot and the kind of the file, whatever its case. -/
def HasType (path kind : String) : Prop :=
  ∃ stem extension, Path.lastName? path = some (stem ++ "." ++ extension) ∧ stem ≠ "" ∧
    '.' ∉ extension.toList ∧ extension.map Char.toLower = kind

theorem fileType_eq_iff (named : kind ≠ "") : fileType path = kind ↔ HasType path kind := by
  unfold fileType HasType
  constructor
  · intro same
    cases found : Path.extension? path with
    | none =>
      have nothing : "".map Char.toLower = "" := by simp [← String.toList_inj]
      rw [found, Option.getD_none, nothing] at same
      exact absurd same.symm named
    | some extension =>
      rw [found] at same
      obtain ⟨stem, last, some, dotless⟩ := Path.extension?_eq_some_iff.1 found
      exact ⟨stem, extension, last, some, dotless, same⟩
  · rintro ⟨stem, extension, last, some, dotless, rfl⟩
    rw [Path.extension?_eq_some_iff.2 ⟨stem, last, some, dotless⟩, Option.getD_some]

/-- The bytes of such a file are GeoJSON. -/
def IsGeoJson (path : String) : Prop :=
  HasType path "geojson" ∨ HasType path "json"

def IsShapefile (path : String) : Prop :=
  HasType path "shp"

theorem isGeoJson_iff : IsGeoJson path ↔ fileType path = "geojson" ∨ fileType path = "json" := by
  rw [IsGeoJson, fileType_eq_iff (by decide), fileType_eq_iff (by decide)]

theorem isShapefile_iff : IsShapefile path ↔ fileType path = "shp" :=
  (fileType_eq_iff (by decide)).symm

/-! ## What is loaded -/

/-- The collection that a file is loaded as. -/
inductive Loadable (files : Files) (converter : Converter) (path : String) :
    FeatureCollection → Prop where
  | geoJson {bytes : Bytes} {collection : FeatureCollection}
      (there : files.contains path = .ok true) (kind : IsGeoJson path)
      (read : files.read path = .ok bytes) (decoded : ofBytes bytes = .ok collection) :
      Loadable files converter path collection
  | shapefile {bytes : Bytes} {collection : FeatureCollection}
      (there : files.contains path = .ok true) (kind : IsShapefile path)
      (converted : converter files path = .ok (.ok bytes))
      (decoded : ofBytes bytes = .ok collection) : Loadable files converter path collection

/-- Why a file is not loaded, and whether that is the fault of the request or of what the gateway
rests on. -/
inductive Unloadable (files : Files) (converter : Converter) (path : String) :
    FailureKind → ImportError → Prop where
  | unreachable {cause : FileError} (searched : files.contains path = .error cause) :
      Unloadable files converter path .storage (.file cause)
  | missing (absent : files.contains path = .ok false) :
      Unloadable files converter path .badRequest (.missing path)
  | unsupported (there : files.contains path = .ok true) (noGeoJson : ¬ IsGeoJson path)
      (noShapefile : ¬ IsShapefile path) :
      Unloadable files converter path .badRequest (.unsupported (fileType path))
  | unread {cause : FileError} (there : files.contains path = .ok true) (kind : IsGeoJson path)
      (failed : files.read path = .error cause) :
      Unloadable files converter path .storage (.file cause)
  | undecodable {bytes : Bytes} {cause : Json.ReadError} (there : files.contains path = .ok true)
      (kind : IsGeoJson path) (read : files.read path = .ok bytes)
      (failed : ofBytes bytes = .error cause) :
      Unloadable files converter path .badRequest (.unreadable cause)
  | unconverted {failure : ConverterFailure} (there : files.contains path = .ok true)
      (kind : IsShapefile path) (failed : converter files path = .error failure) :
      Unloadable files converter path .storage (.converter failure)
  | noOutput {cause : FileError} (there : files.contains path = .ok true)
      (kind : IsShapefile path) (converted : converter files path = .ok (.error cause)) :
      Unloadable files converter path .storage (.file cause)
  | undecodableOutput {bytes : Bytes} {cause : Json.ReadError}
      (there : files.contains path = .ok true) (kind : IsShapefile path)
      (converted : converter files path = .ok (.ok bytes))
      (failed : ofBytes bytes = .error cause) :
      Unloadable files converter path .badRequest (.unreadable cause)

theorem load_of_geoJson (there : files.contains path = .ok true) (kind : IsGeoJson path) :
    load files converter path = ((files.read path).mapError .file).bind ofFile := by
  rw [load, there]
  rcases isGeoJson_iff.1 kind with type | type
  all_goals
    simp only [type]
    rfl

theorem load_of_shapefile (there : files.contains path = .ok true) (kind : IsShapefile path) :
    load files converter path =
      ((converter files path).mapError .converter).bind fun converted =>
        (converted.mapError .file).bind ofFile := by
  rw [load, there]
  simp only [isShapefile_iff.1 kind]
  rfl

theorem load_of_unsupported (there : files.contains path = .ok true)
    (noGeoJson : ¬ IsGeoJson path) (noShapefile : ¬ IsShapefile path) :
    load files converter path = .error (.unsupported (fileType path)) := by
  rw [isGeoJson_iff, not_or] at noGeoJson
  rw [isShapefile_iff] at noShapefile
  rw [load, there]
  generalize fileType path = type at noGeoJson noShapefile
  simp only [mapError_ok, bind, Except.bind, if_true]
  split
  · exact absurd rfl noGeoJson.1
  · exact absurd rfl noGeoJson.2
  · exact absurd rfl noShapefile
  · rfl

theorem load_of_loadable (loadable : Loadable files converter path collection) :
    load files converter path = .ok collection := by
  cases loadable with
  | geoJson there kind read decoded =>
    rw [load_of_geoJson there kind, read]
    exact mapError_eq_ok.2 decoded
  | shapefile there kind converted decoded =>
    rw [load_of_shapefile there kind, converted]
    exact mapError_eq_ok.2 decoded

theorem load_of_unloadable (unloadable : Unloadable files converter path blame error) :
    load files converter path = .error error := by
  cases unloadable with
  | unreachable searched =>
    rw [load, searched]
    rfl
  | missing absent =>
    rw [load, absent]
    rfl
  | unsupported there noGeoJson noShapefile => exact load_of_unsupported there noGeoJson noShapefile
  | unread there kind failed =>
    rw [load_of_geoJson there kind, failed]
    rfl
  | undecodable there kind read failed =>
    rw [load_of_geoJson there kind, read]
    exact mapError_eq_error.2 ⟨_, failed, rfl⟩
  | unconverted there kind failed =>
    rw [load_of_shapefile there kind, failed]
    rfl
  | noOutput there kind converted =>
    rw [load_of_shapefile there kind, converted]
    rfl
  | undecodableOutput there kind converted failed =>
    rw [load_of_shapefile there kind, converted]
    exact mapError_eq_error.2 ⟨_, failed, rfl⟩

theorem loadable_or_unloadable (files : Files) (converter : Converter) (path : String) :
    (∃ collection, Loadable files converter path collection) ∨
      ∃ blame error, Unloadable files converter path blame error := by
  cases searched : files.contains path with
  | error cause => exact .inr ⟨_, _, .unreachable searched⟩
  | ok found =>
    cases found with
    | false => exact .inr ⟨_, _, .missing searched⟩
    | true =>
      by_cases geoJson : IsGeoJson path
      · cases read : files.read path with
        | error cause => exact .inr ⟨_, _, .unread searched geoJson read⟩
        | ok bytes =>
          cases decoded : ofBytes bytes with
          | error cause => exact .inr ⟨_, _, .undecodable searched geoJson read decoded⟩
          | ok collection => exact .inl ⟨_, .geoJson searched geoJson read decoded⟩
      by_cases shapefile : IsShapefile path
      · cases converted : converter files path with
        | error failure => exact .inr ⟨_, _, .unconverted searched shapefile converted⟩
        | ok output =>
          cases output with
          | error cause => exact .inr ⟨_, _, .noOutput searched shapefile converted⟩
          | ok bytes =>
            cases decoded : ofBytes bytes with
            | error cause =>
              exact .inr ⟨_, _, .undecodableOutput searched shapefile converted decoded⟩
            | ok collection => exact .inl ⟨_, .shapefile searched shapefile converted decoded⟩
      · exact .inr ⟨_, _, .unsupported searched geoJson shapefile⟩

/-- Which files are loaded, and as what. -/
theorem load_eq_ok_iff :
    load files converter path = .ok collection ↔ Loadable files converter path collection := by
  refine ⟨fun loaded => ?_, load_of_loadable⟩
  obtain ⟨other, loadable⟩ | ⟨blame, error, unloadable⟩ :=
    loadable_or_unloadable files converter path
  · cases loaded.symm.trans (load_of_loadable loadable)
    exact loadable
  · cases loaded.symm.trans (load_of_unloadable unloadable)

/-- Why the others are not, and who is to blame. -/
theorem load_eq_error_iff :
    load files converter path = .error error ↔
      ∃ blame, Unloadable files converter path blame error := by
  refine ⟨fun failed => ?_, fun ⟨_, unloadable⟩ => load_of_unloadable unloadable⟩
  obtain ⟨collection, loadable⟩ | ⟨blame, other, unloadable⟩ :=
    loadable_or_unloadable files converter path
  · cases failed.symm.trans (load_of_loadable loadable)
  · cases failed.symm.trans (load_of_unloadable unloadable)
    exact ⟨blame, unloadable⟩

/-- The kind of the failure that is answered. -/
theorem Unloadable.kind_eq (unloadable : Unloadable files converter path blame error) :
    (GatewayError.file error).kind = blame := by
  cases unloadable <;> rfl

/-- Only shapefiles that are there are converted. -/
theorem load_of_not_shapefile (other : Converter)
    (noShapefile : ¬ (files.contains path = .ok true ∧ IsShapefile path)) :
    load files other path = load files converter path := by
  cases loaded : load files converter path with
  | ok collection =>
    cases load_eq_ok_iff.1 loaded with
    | geoJson there kind read decoded => exact load_of_loadable (.geoJson there kind read decoded)
    | shapefile there kind _ _ => exact absurd ⟨there, kind⟩ noShapefile
  | error error =>
    obtain ⟨blame, unloadable⟩ := load_eq_error_iff.1 loaded
    refine load_of_unloadable (?_ : Unloadable files other path blame error)
    cases unloadable with
    | unreachable searched => exact .unreachable searched
    | missing absent => exact .missing absent
    | unsupported there noGeoJson noShapefile => exact .unsupported there noGeoJson noShapefile
    | unread there kind failed => exact .unread there kind failed
    | undecodable there kind read failed => exact .undecodable there kind read failed
    | unconverted there kind _ | noOutput there kind _ | undecodableOutput there kind _ _ =>
      exact absurd ⟨there, kind⟩ noShapefile

end LayerGateway.FeatureCollection
