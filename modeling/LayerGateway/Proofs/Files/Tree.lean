import LayerGateway.Files.Tree
import LayerGateway.Proofs.Except

/-!
# Trees that grow

Nothing that the gateway does to a tree takes a folder away or removes a name, so a path that
led somewhere goes on leading there.  What was written to a file is therefore found in it later.

* `Files.Grows` and `Files.Extends` compare two trees; a tree extends another if all its files
  are as they were, too.
* `Files.Holds files path content` says that a path leads to a file with some content which can
  be written again.
-/

namespace LayerGateway.Files

variable {files later : Files} {location other : Location} {entry : FileEntry} {path : String}
  {names : List String} {content : Bytes}

/-! ## Entries -/

/-- A row that is replaced keeps its location. -/
theorem keepsLocation (location other : Location) (entry : FileEntry) :
    ((fun row : Location × FileEntry => row.1 == other) ∘ fun row =>
      if row.1 = location then (location, entry) else row) = (·.1 == other) := by
  funext row
  by_cases same : row.1 = location <;> simp [same]

theorem entry?_put_self (inside : location ≠ []) :
    Files.entry? (files.put location entry) location = some entry := by
  unfold put entry?
  rw [if_neg inside]
  split
  · next there =>
    obtain ⟨row, found⟩ := Option.isSome_iff_exists.1 there
    have own : row.1 = location := by simpa using List.find?_some found
    rw [List.find?_map, keepsLocation, found]
    simp [own]
  · next absent =>
    have none := Option.not_isSome_iff_eq_none.1 absent
    simp [List.find?_append, none]

theorem entry?_put_of_ne (differ : other ≠ location) :
    Files.entry? (files.put location entry) other = files.entry? other := by
  unfold put entry?
  by_cases root : other = []
  · rw [if_pos root, if_pos root]
  rw [if_neg root, if_neg root]
  split
  · rw [List.find?_map, keepsLocation]
    cases found : files.entries.find? (·.1 == other) with
    | none => rfl
    | some row =>
      have own : row.1 = other := by simpa using List.find?_some found
      simp [own, differ]
  · simp [List.find?_append, Ne.symm differ]

@[simp] theorem current_put : (files.put location entry).current = files.current := by
  unfold put
  split <;> rfl

/-! ## Growing -/

/-- What is a folder is one later, and what is there stays there. -/
structure Grows (files later : Files) : Prop where
  current : later.current = files.current
  folder : ∀ location, files.entry? location = some .folder →
    later.entry? location = some .folder
  present : ∀ location, (files.entry? location).isSome → (later.entry? location).isSome

/-- Everything that is there stays as it is. -/
structure Extends (files later : Files) : Prop where
  current : later.current = files.current
  entry : ∀ location entry, files.entry? location = some entry →
    later.entry? location = some entry

theorem Extends.refl (files : Files) : Extends files files :=
  ⟨rfl, fun _ _ found => found⟩

theorem Extends.trans {last : Files} (first : Extends files later) (second : Extends later last) :
    Extends files last :=
  ⟨second.current.trans first.current, fun location entry found =>
    second.entry location entry (first.entry location entry found)⟩

theorem Extends.grows (grown : Extends files later) : Grows files later where
  current := grown.current
  folder location found := grown.entry location .folder found
  present location there := by
    obtain ⟨entry, found⟩ := Option.isSome_iff_exists.1 there
    exact Option.isSome_iff_exists.2 ⟨entry, grown.entry location entry found⟩

theorem extends_put (free : files.entry? location = none) (entry : FileEntry) :
    Extends files (files.put location entry) := by
  refine ⟨current_put, fun other kept found => ?_⟩
  have differ : other ≠ location := by
    rintro rfl
    cases free.symm.trans found
  rw [entry?_put_of_ne differ, found]

theorem grows_put (noFolder : files.entry? location ≠ some .folder) (entry : FileEntry) :
    Grows files (files.put location entry) := by
  have inside : location ≠ [] := by
    rintro rfl
    exact noFolder rfl
  refine ⟨current_put, fun other found => ?_, fun other there => ?_⟩
  · have differ : other ≠ location := by
      rintro rfl
      exact noFolder found
    rw [entry?_put_of_ne differ, found]
  · by_cases same : other = location
    · rw [same, entry?_put_self inside]
      rfl
    · rwa [entry?_put_of_ne same]

/-! ## Walking -/

theorem walk_append (files : Files) (location : Location) (first second : List String) :
    files.walk location (first ++ second) =
      files.walk location first >>= fun between => files.walk between second := by
  induction first generalizing location with
  | nil => rfl
  | cons name first ih =>
    simp only [List.cons_append, walk]
    cases files.entry? location with
    | none => rfl
    | some entry =>
      cases entry with
      | file content mode => rfl
      | folder =>
        dsimp only
        split
        · exact ih _
        split
        · rfl
        split
        · exact ih _
        · rfl

/-- A walk goes on from folders only. -/
theorem folder_of_walk_cons {name : String} {found : Location}
    (walked : files.walk location (name :: names) = .ok found) :
    files.entry? location = some .folder := by
  rw [walk] at walked
  split at walked
  · next folder => exact folder
  · cases walked
  · cases walked

theorem Grows.walk (grown : Grows files later) {found : Location}
    (walked : files.walk location names = .ok found) : later.walk location names = .ok found := by
  induction names generalizing location with
  | nil => exact walked
  | cons name names ih =>
    have folder := folder_of_walk_cons walked
    rw [Files.walk, folder] at walked
    rw [Files.walk, grown.folder location folder]
    dsimp only at walked ⊢
    split at walked
    · next above =>
      rw [if_pos above]
      exact ih walked
    · next below =>
      rw [if_neg below]
      split at walked
      · cases walked
      · next short =>
        rw [if_neg short]
        split at walked
        · next there =>
          rw [if_pos (grown.present _ there)]
          exact ih walked
        · cases walked

theorem Grows.start (grown : Grows files later) (path : String) :
    later.start path = files.start path := by
  rw [Files.start, Files.start, grown.current]

/-! ## Places -/

/-- The place of a new entry is a name in a folder. -/
theorem place_cases (placed : files.place path = .ok location) :
    demandPath path = .ok () ∧
      ((Path.names path = [] ∧ location = files.start path) ∨
        ∃ above name folder, Path.names path = above ++ [name] ∧
          files.walk (files.start path) above = .ok folder ∧ files.entry? folder = some .folder ∧
          if name = ".." then location = folder.dropLast
          else ¬ nameLimit < name.utf8ByteSize ∧ location = folder ++ [name]) := by
  obtain ⟨_, demanded, placed⟩ := ok_of_bind placed
  refine ⟨demanded, ?_⟩
  split at placed
  · next empty =>
    cases placed
    exact .inl ⟨List.reverse_eq_nil_iff.1 empty, rfl⟩
  · next name above reversed =>
    obtain ⟨folder, walked, placed⟩ := ok_of_bind placed
    refine .inr ⟨above.reverse, name, folder, by rw [← List.reverse_cons, ← reversed,
      List.reverse_reverse], walked, ?_⟩
    split at placed
    · next isFolder =>
      refine ⟨isFolder, ?_⟩
      by_cases up : name = ".."
      · rw [if_pos up] at placed ⊢
        cases placed
        rfl
      · rw [if_neg up] at placed ⊢
        by_cases long : nameLimit < name.utf8ByteSize
        · rw [if_pos long] at placed
          cases placed
        · rw [if_neg long] at placed
          cases placed
          exact ⟨long, rfl⟩
    · cases placed

theorem walk_last {name : String} {folder : Location} (isFolder : files.entry? folder = some .folder)
    (possible : if name = ".." then location = folder.dropLast
      else ¬ nameLimit < name.utf8ByteSize ∧ location = folder ++ [name])
    (there : (files.entry? location).isSome) : files.walk folder [name] = .ok location := by
  rw [walk, isFolder]
  dsimp only
  by_cases up : name = ".."
  · rw [if_pos up] at possible ⊢
    rw [possible]
    rfl
  · rw [if_neg up] at possible ⊢
    obtain ⟨short, rfl⟩ := possible
    rw [if_neg short, if_pos there]
    rfl

/-- What is at the place of a new entry is where the path leads to. -/
theorem walk_of_place (placed : files.place path = .ok location)
    (there : (files.entry? location).isSome) :
    files.walk (files.start path) (Path.names path) = .ok location := by
  obtain ⟨-, ⟨empty, rfl⟩ | ⟨above, name, folder, split, walked, isFolder, possible⟩⟩ :=
    place_cases placed
  · rw [empty]
    rfl
  · rw [split, walk_append, walked]
    exact walk_last isFolder possible there

theorem Grows.place (grown : Grows files later) (placed : files.place path = .ok location) :
    later.place path = .ok location := by
  obtain ⟨demanded, ⟨empty, rfl⟩ | ⟨above, name, folder, split, walked, isFolder, possible⟩⟩ :=
    place_cases placed
  · rw [Files.place, bind_of_ok demanded, empty, grown.start]
    rfl
  · have reversed : (above ++ [name]).reverse = name :: above.reverse := by simp
    rw [Files.place, bind_of_ok demanded, split, reversed]
    dsimp only
    rw [List.reverse_reverse, grown.start, bind_of_ok (grown.walk walked),
      grown.folder folder isFolder]
    dsimp only
    by_cases up : name = ".."
    · rw [if_pos up] at possible ⊢
      rw [possible]
      rfl
    · rw [if_neg up] at possible ⊢
      rw [if_neg possible.1, possible.2]
      rfl

/-- A path leads nowhere but to the place of a new entry. -/
theorem eq_place_of_walk (placed : files.place path = .ok location)
    (walked : files.walk (files.start path) (Path.names path) = .ok other) : other = location := by
  obtain ⟨-, ⟨empty, rfl⟩ | ⟨above, name, folder, split, led, isFolder, possible⟩⟩ :=
    place_cases placed
  · rw [empty] at walked
    cases walked
    rfl
  · rw [split, walk_append, bind_of_ok led, walk, isFolder] at walked
    dsimp only at walked
    by_cases up : name = ".."
    · rw [if_pos up] at possible walked
      cases walked
      exact possible.symm
    · rw [if_neg up] at possible walked
      rw [if_neg possible.1] at walked
      split at walked
      · cases walked
        exact possible.2.symm
      · cases walked

/-- Nothing is missing above a place that a path leads to. -/
theorem place_ne_missing (demanded : demandPath path = .ok ())
    (walked : files.walk (files.start path) (Path.names path) = .ok location) :
    files.place path ≠ .error .missing := by
  rw [place, bind_of_ok demanded]
  intro missing
  split at missing
  · cases missing
  · next name above reversed =>
    have split : Path.names path = above.reverse ++ [name] := by
      rw [← List.reverse_cons, ← reversed, List.reverse_reverse]
    rw [split, walk_append] at walked
    obtain ⟨folder, walked, last⟩ := ok_of_bind walked
    rw [bind_of_ok walked, folder_of_walk_cons last] at missing
    dsimp only at missing
    split at missing
    · cases missing
    split at missing
    · cases missing
    · cases missing

/-! ## Folders -/

theorem locate_of_walk (demanded : demandPath path = .ok ())
    (walked : files.walk (files.start path) (Path.names path) = .ok location)
    (fits : Path.namesFolder path = false ∨ files.entry? location = some .folder) :
    files.locate path = .ok location := by
  have passes : (Path.namesFolder path && files.entry? location != some .folder) = false := by
    rcases fits with file | folder
    · rw [file, Bool.false_and]
    · simp [folder]
  rw [locate, bind_of_ok demanded, bind_of_ok walked, passes]
  rfl

theorem walk_of_locate (located : files.locate path = .ok location) :
    demandPath path = .ok () ∧
      files.walk (files.start path) (Path.names path) = .ok location := by
  obtain ⟨_, demanded, located⟩ := ok_of_bind located
  obtain ⟨found, walked, located⟩ := ok_of_bind located
  split at located
  · cases located
  · cases located
    exact ⟨demanded, walked⟩

theorem isFolder_iff : files.isFolder path = true ↔ demandPath path = .ok () ∧
    ∃ location, files.walk (files.start path) (Path.names path) = .ok location ∧
      files.entry? location = some .folder := by
  unfold isFolder
  constructor
  · intro folder
    split at folder
    · next location located =>
      obtain ⟨demanded, walked⟩ := walk_of_locate located
      exact ⟨demanded, location, walked, beq_iff_eq.1 folder⟩
    · cases folder
  · rintro ⟨demanded, location, walked, folder⟩
    rw [locate_of_walk demanded walked (.inr folder)]
    exact beq_iff_eq.2 folder

theorem Grows.isFolder (grown : Grows files later) (folder : files.isFolder path = true) :
    later.isFolder path = true := by
  obtain ⟨demanded, location, walked, isFolder⟩ := isFolder_iff.1 folder
  have walked := grown.walk walked
  rw [← grown.start] at walked
  exact isFolder_iff.2 ⟨demanded, location, walked, grown.folder location isFolder⟩

theorem makeFolder_ok (made : files.makeFolder path = .ok later) :
    Extends files later ∧ later.isFolder path = true := by
  obtain ⟨location, placed, made⟩ := ok_of_bind made
  split at made
  · cases made
  · next free =>
    cases made
    have extended := extends_put free .folder
    have inside : location ≠ [] := by
      rintro rfl
      cases free
    have isFolder : Files.entry? (files.put location .folder) location = some .folder :=
      entry?_put_self inside
    have stillPlaced := extended.grows.place placed
    have walked := walk_of_place stillPlaced (isFolder ▸ rfl)
    exact ⟨extended, isFolder_iff.2 ⟨(place_cases placed).1, location, walked, isFolder⟩⟩

/-- The last folder is made, or was there, behind those above it if any had to be made. -/
theorem makeFolders_go_cases {depth : Nat} (made : makeFolders.go files depth path = .ok later) :
    (path = "" ∧ later = files) ∨
      ∃ between,
        (between = files ∨ ∃ fewer above, depth = fewer + 1 ∧
          makeFolders.go files fewer above = .ok between) ∧
        (between.makeFolder path = .ok later ∨ later = between ∧ between.isFolder path = true) := by
  unfold makeFolders.go at made
  split at made
  · next none =>
    cases made
    exact .inl ⟨none, rfl⟩
  refine .inr ?_
  split at made
  · next here =>
    cases made
    exact ⟨files, .inl rfl, .inl here⟩
  · split at made
    · next fewer above parent =>
      obtain ⟨between, madeAbove, made⟩ := ok_of_bind made
      refine ⟨between, .inr ⟨fewer, above, rfl, madeAbove⟩, ?_⟩
      split at made
      · next here =>
        cases made
        exact .inl here
      · split at made
        · next folder =>
          cases made
          exact .inr ⟨rfl, folder⟩
        · cases made
    · cases made
  · split at made
    · next folder =>
      cases made
      exact ⟨files, .inl rfl, .inr ⟨rfl, folder⟩⟩
    · cases made

-- The induction is on how many folders above may have to be made.
theorem makeFolders_go_ok {depth : Nat} {path : String} {later : Files}
    (made : makeFolders.go files depth path = .ok later) :
    Extends files later ∧ (path = "" ∨ later.isFolder path = true) := by
  induction depth using Nat.strongRecOn generalizing path later with
  | ind depth ih =>
    obtain ⟨none, rfl⟩ | ⟨between, upTo, here⟩ := makeFolders_go_cases made
    · exact ⟨.refl _, .inl none⟩
    have extended : Extends files between := by
      rcases upTo with rfl | ⟨fewer, above, rfl, madeAbove⟩
      · exact .refl _
      · exact (ih fewer (Nat.lt_succ_self fewer) madeAbove).1
    rcases here with here | ⟨rfl, folder⟩
    · obtain ⟨further, folder⟩ := makeFolder_ok here
      exact ⟨extended.trans further, .inr folder⟩
    · exact ⟨extended, .inr folder⟩

/-- A folder that is there need not be made. -/
theorem makeFolders_of_isFolder (folder : path = "" ∨ files.isFolder path = true) :
    files.makeFolders path = .ok files := by
  unfold makeFolders makeFolders.go
  split
  · rfl
  · next named =>
    have isFolder := folder.resolve_left named
    obtain ⟨demanded, location, walked, there⟩ := isFolder_iff.1 isFolder
    cases placed : files.place path with
    | error cause =>
      have refused : files.makeFolder path = .error cause := by
        rw [makeFolder, placed]
        rfl
      rw [refused]
      split
      · next made => cases made
      · next missing =>
        cases missing
        exact absurd placed (place_ne_missing demanded walked)
      · next other _ => exact if_pos isFolder
    | ok place =>
      have refused : files.makeFolder path = .error .exists := by
        rw [makeFolder, bind_of_ok placed, ← eq_place_of_walk placed walked, there]
        rfl
      rw [refused]
      exact if_pos isFolder

/-! ## Files -/

/-- A path leads to a file with some content, below folders that are there. -/
structure Holds (files : Files) (path : String) (content : Bytes) : Prop where
  file : ∃ location mode, files.place path = .ok location ∧
    files.entry? location = some (.file content mode)
  named : Path.namesFolder path = false
  above : (Path.parent? path).getD "" = "" ∨
    files.isFolder ((Path.parent? path).getD "") = true

theorem Holds.read (holds : files.Holds path content) : files.read path = .ok content := by
  obtain ⟨location, mode, placed, found⟩ := holds.file
  have walked := walk_of_place placed (found ▸ rfl)
  have located := locate_of_walk (place_cases placed).1 walked (.inl holds.named)
  rw [Files.read, bind_of_ok located, found]
  rfl

theorem holds_put {mode : Nat} (placed : files.place path = .ok location)
    (noFolder : files.entry? location ≠ some .folder) (named : Path.namesFolder path = false)
    (above : (Path.parent? path).getD "" = "" ∨
      files.isFolder ((Path.parent? path).getD "") = true) (content : Bytes) :
    (files.put location (.file content mode)).Holds path content := by
  have grown := grows_put noFolder (.file content mode)
  have inside : location ≠ [] := by
    rintro rfl
    exact noFolder rfl
  exact ⟨⟨location, mode, grown.place placed, entry?_put_self inside⟩, named,
    above.imp id grown.isFolder⟩

/-- A file that is there can be written, and keeps what is written. -/
theorem Holds.update (holds : files.Holds path content) (mode : Nat) (change : Bytes → Bytes) :
    ∃ later, files.update path mode change = .ok later ∧ later.Holds path (change content) := by
  obtain ⟨location, oldMode, placed, found⟩ := holds.file
  refine ⟨files.put location (.file (change content) oldMode), ?_, ?_⟩
  · rw [Files.update, bind_of_ok placed, found]
    simp only [holds.named]
    rfl
  · exact holds_put placed (by simp [found]) holds.named holds.above _

/-- Where there was no file, there is one afterwards. -/
theorem holds_of_update {mode : Nat} {change : Bytes → Bytes}
    (above : (Path.parent? path).getD "" = "" ∨
      files.isFolder ((Path.parent? path).getD "") = true)
    (absent : ∀ content, files.read path ≠ .ok content)
    (updated : files.update path mode change = .ok later) : later.Holds path (change []) := by
  obtain ⟨location, placed, updated⟩ := ok_of_bind updated
  split at updated
  · cases updated
  · next content oldMode found =>
    split at updated
    · cases updated
    · next named =>
      have holds : files.Holds path content :=
        ⟨⟨location, oldMode, placed, found⟩, by simpa using named, above⟩
      exact absurd holds.read (absent content)
  · next free =>
    split at updated
    · cases updated
    · next named =>
      cases updated
      exact holds_put placed (by simp [free]) (by simpa using named) above _

end LayerGateway.Files
