import LayerGateway.Proofs.Files.Tree
import LayerGateway.Proofs.Text.Pieces

/-!
# The folder and the extension of a file

The folder of a path is the way to its last name, written anew: empty names and dots are left
out, so that it is never longer than the path.  A file that can be read therefore lies in a
folder that its path names, and can be written again.

* `Path.names_folder` says where the folder of a path leads to.
* `Files.holds_of_read` says that whoever can read a file can write to it.
* `Path.extension?_eq_some_iff` says which paths have an extension.
-/

namespace LayerGateway

/-! ## Names -/

namespace Path

open Text (pieces)

variable {path : String} {above : List String}

/-- Whether a piece of a path is a name. -/
def isName (piece : List Char) : Bool :=
  !decide (piece = [] ∨ piece = ['.'])

theorem isName_iff {piece : List Char} : isName piece = true ↔ ¬ (piece = [] ∨ piece = ['.']) := by
  rw [isName, Bool.not_eq_true', decide_eq_false_iff_not]

/-- The names of a path are pieces of it. -/
theorem map_toList_names (path : String) :
    (names path).map String.toList = (pieces '/' path.toList).filter isName := by
  unfold names
  generalize pieces '/' path.toList = list
  induction list with
  | nil => rfl
  | cons piece list ih =>
    by_cases skipped : piece = [] ∨ piece = ['.']
    · rw [List.filterMap_cons, if_pos skipped, ih,
        List.filter_cons_of_neg fun named => isName_iff.1 named skipped]
    · rw [List.filterMap_cons, if_neg skipped, List.map_cons, ih, String.toList_ofList,
        List.filter_cons_of_pos (isName_iff.2 skipped)]

theorem isAbsolute_iff : isAbsolute path = true ↔ ∃ rest, path.toList = '/' :: rest := by
  rw [isAbsolute, String.startsWith_string_iff]
  exact ⟨fun ⟨rest, same⟩ => ⟨rest, same.symm⟩, fun ⟨rest, same⟩ => ⟨rest, same.symm⟩⟩

/-- A path starts at the root if it has nothing before its first slash. -/
theorem isAbsolute_iff_pieces :
    isAbsolute path = true ↔ ∃ second others, pieces '/' path.toList = [] :: second :: others := by
  rw [isAbsolute_iff]
  constructor
  · rintro ⟨rest, same⟩
    obtain ⟨second, others, cut⟩ := List.exists_cons_of_ne_nil (Text.pieces_ne_nil rest)
    exact ⟨second, others, by rw [same, pieces, if_pos rfl, cut]⟩
  · rintro ⟨second, others, cut⟩
    rw [← Text.intercalate_pieces '/' path.toList, cut, List.intercalate_cons_cons]
    exact ⟨_, rfl⟩

/-- The pieces of the folder of a path, of which `above` are the names. -/
def folderPieces (path : String) (above : List String) : List (List Char) :=
  (if isAbsolute path then [[]] else []) ++ above.map String.toList

/-- The folder of a path as it is written. -/
theorem parent?_eq (some : above ≠ []) (inside : (names path).dropLast = above) :
    ∃ folder, parent? path = Option.some folder ∧
      folder.toList = ['/'].intercalate (folderPieces path above) := by
  obtain ⟨first, others, rfl⟩ := List.exists_cons_of_ne_nil some
  rw [parent?, inside]
  refine ⟨_, rfl, ?_⟩
  rw [String.toList_append, String.toList_intercalate, folderPieces]
  split
  · rw [List.map_cons, List.singleton_append, List.intercalate_cons_cons]
    rfl
  · rfl

theorem folderPieces_sublist (inside : (names path).dropLast = above) :
    (folderPieces path above).Sublist (pieces '/' path.toList) := by
  have names : (above.map String.toList).Sublist ((pieces '/' path.toList).filter isName) := by
    rw [← map_toList_names, ← inside, List.map_dropLast]
    exact List.dropLast_sublist _
  unfold folderPieces
  split
  · next absolute =>
    obtain ⟨second, others, cut⟩ := isAbsolute_iff_pieces.1 absolute
    rw [cut, List.filter_cons_of_neg (by decide)] at names
    rw [cut]
    exact (names.trans List.filter_sublist).cons_cons _
  · exact names.trans List.filter_sublist

/-- The folder of a path is written with some of its characters. -/
theorem toList_folder_sublist {folder : String} (inside : (names path).dropLast = above)
    (written : folder.toList = ['/'].intercalate (folderPieces path above)) :
    folder.toList.Sublist path.toList := by
  rw [written, ← Text.intercalate_pieces '/' path.toList]
  exact Text.intercalate_sublist ['/'] (folderPieces_sublist inside)

theorem isName_of_mem (inside : (names path).dropLast = above) :
    ∀ piece ∈ above.map String.toList, isName piece = true := by
  intro piece member
  rw [← inside, List.map_dropLast, map_toList_names] at member
  exact (List.mem_filter.1 ((List.dropLast_sublist _).subset member)).2

/-! ## The folder -/

section Folder

variable {folder : String} (some : above ≠ []) (inside : (names path).dropLast = above)
  (written : folder.toList = ['/'].intercalate (folderPieces path above))

include some inside written

theorem pieces_folder : pieces '/' folder.toList = folderPieces path above := by
  have nonempty : folderPieces path above ≠ [] := by
    rw [folderPieces]
    exact List.append_ne_nil_of_right_ne_nil _ (mt List.map_eq_nil_iff.1 some)
  rw [written, Text.pieces_intercalate nonempty fun piece member =>
    Text.not_mem_of_mem_pieces ((folderPieces_sublist inside).subset member)]

theorem isAbsolute_folder : isAbsolute folder = isAbsolute path := by
  rw [Bool.eq_iff_iff, isAbsolute_iff_pieces, pieces_folder some inside written, folderPieces]
  cases absolute : isAbsolute path with
  | true =>
    obtain ⟨first, others, rfl⟩ := List.exists_cons_of_ne_nil some
    exact ⟨fun _ => rfl, fun _ => ⟨_, _, rfl⟩⟩
  | false =>
    -- A relative path starts with a name.
    refine ⟨fun ⟨second, others, cut⟩ => ?_, nofun⟩
    rw [if_neg nofun, List.nil_append] at cut
    have first : [] ∈ above.map String.toList := cut ▸ List.mem_cons_self
    exact absurd (isName_of_mem inside [] first) (by decide)

/-- The folder of a path is reached by its names but the last. -/
theorem names_folder : names folder = above := by
  refine (List.map_inj_right fun _ _ => String.toList_injective).1 ?_
  rw [map_toList_names, pieces_folder some inside written, folderPieces, List.filter_append,
    List.filter_eq_self.2 (isName_of_mem inside)]
  split <;> rfl

end Folder

/-! ## Extensions -/

/-- An extension stands behind the last dot of the last name, which does not start with it. -/
theorem extension?_eq_some_iff {extension : String} :
    extension? path = some extension ↔
      ∃ stem, lastName? path = some (stem ++ "." ++ extension) ∧ stem ≠ "" ∧
        '.' ∉ extension.toList := by
  rw [extension?, Option.bind_eq_some_iff]
  constructor
  · rintro ⟨name, last, found⟩
    split at found
    · next ending before reversed =>
      split at found
      · cases found
      next dotted =>
      cases found
      have cut : pieces '.' name.toList = before.reverse ++ [ending] := by
        rw [← List.reverse_reverse (pieces '.' name.toList), reversed, List.reverse_cons]
      have whole (piece : List Char) (among : piece ∈ before.reverse ++ [ending]) : '.' ∉ piece :=
        Text.not_mem_of_mem_pieces (cut ▸ among)
      have pieces : pieces '.' (['.'].intercalate before.reverse) = before.reverse :=
        Text.pieces_intercalate (fun none => dotted (.inl (List.reverse_eq_nil_iff.1 none)))
          fun piece among => whole piece (List.mem_append_left _ among)
      have dotless := whole ending List.mem_concat_self
      have split : name.toList = ['.'].intercalate before.reverse ++ '.' :: ending :=
        Text.pieces_injective '.' (by rw [cut, Text.pieces_concat _ dotless, pieces])
      refine ⟨String.ofList (['.'].intercalate before.reverse), ?_, fun none => ?_, ?_⟩
      · rw [last, Option.some_inj, ← String.toList_inj, split]
        simp
      · -- A name that starts with its last dot has nothing before it.
        rw [String.ofList_eq_empty_iff.1 none] at pieces
        exact dotted (.inr (List.reverse_eq_iff.1 pieces.symm))
      · rwa [String.toList_ofList]
    · cases found
  · rintro ⟨stem, last, some, dotless⟩
    refine ⟨_, last, ?_⟩
    have written : (stem ++ "." ++ extension).toList = stem.toList ++ '.' :: extension.toList := by
      simp
    have nonempty : pieces '.' stem.toList ≠ [] := Text.pieces_ne_nil _
    have named : pieces '.' stem.toList ≠ [[]] := fun single =>
      some (String.toList_inj.1 (Text.pieces_injective '.' single))
    rw [written, Text.pieces_concat _ dotless, List.reverse_append]
    simp [nonempty, named]

end Path

/-! ## Files -/

namespace Files

variable {files : Files} {path folder : String} {location : Location} {content : Bytes}

theorem demandPath_eq_ok : demandPath path = .ok () ↔
    '\x00' ∉ path.toList ∧ path.utf8ByteSize ≤ pathLimit ∧ path ≠ "" := by
  unfold demandPath
  constructor
  · intro demanded
    split at demanded
    · cases demanded
    split at demanded
    · cases demanded
    split at demanded
    · cases demanded
    next noNul short some => exact ⟨by simpa using noNul, Nat.le_of_not_lt short, some⟩
  · rintro ⟨noNul, short, some⟩
    rw [if_neg (by simpa using noNul), if_neg (Nat.not_lt.2 short), if_neg some]

theorem utf8ByteSize_sublist (fewer : folder.toList.Sublist path.toList) :
    folder.utf8ByteSize ≤ path.utf8ByteSize := by
  have size (c : Char) (rest : List Char) :
      (String.ofList (c :: rest)).utf8ByteSize =
        c.utf8Size + (String.ofList rest).utf8ByteSize := by
    rw [← List.singleton_append, String.ofList_append, String.utf8ByteSize_append]
    simp
  rw [← String.ofList_toList (s := folder), ← String.ofList_toList (s := path)]
  generalize folder.toList = few, path.toList = list at fewer
  induction fewer with
  | slnil => exact Nat.le_refl _
  | cons c _ ih =>
    rw [size]
    omega
  | cons_cons c _ ih =>
    rw [size, size]
    omega

/-- Whatever is no longer than a path and has no other characters is a path, too. -/
theorem demandPath_sublist (demanded : demandPath path = .ok ()) (some : folder ≠ "")
    (fewer : folder.toList.Sublist path.toList) : demandPath folder = .ok () := by
  obtain ⟨noNul, short, -⟩ := demandPath_eq_ok.1 demanded
  refine demandPath_eq_ok.2 ⟨fun nul => noNul (fewer.subset nul), ?_, some⟩
  exact Nat.le_trans (utf8ByteSize_sublist fewer) short

theorem isFolder_root (files : Files) : files.isFolder "/" = true := by
  refine isFolder_iff.2 ⟨rfl, [], ?_, rfl⟩
  have root : files.start "/" = [] := if_pos (Path.isAbsolute_iff.2 ⟨[], rfl⟩)
  have nothing : Path.names "/" = [] := by decide
  rw [root, nothing]
  rfl

/-- A walk along the names of a path leads to the place of an entry with its last name. -/
theorem place_of_walk {above : List String} {name : String} (demanded : demandPath path = .ok ())
    (split : Path.names path = above ++ [name])
    (walked : files.walk (files.start path) above = .ok location) {last : Location}
    (there : files.walk location [name] = .ok last) : files.place path = .ok last := by
  have isFolder := folder_of_walk_cons there
  have reversed : (above ++ [name]).reverse = name :: above.reverse := by simp
  rw [place, bind_of_ok demanded, split, reversed]
  dsimp only
  rw [List.reverse_reverse, bind_of_ok walked, isFolder]
  dsimp only
  rw [walk, isFolder] at there
  dsimp only at there
  split at there
  · next up =>
    rw [if_pos up]
    cases there
    rfl
  · next below =>
    rw [if_neg below]
    split at there
    · cases there
    · next short =>
      rw [if_neg short]
      split at there
      · cases there
        rfl
      · cases there

/-- The folder of a path is there if a walk along the names leads to it. -/
theorem isFolder_parent {above : List String} {name : String} (demanded : demandPath path = .ok ())
    (split : Path.names path = above ++ [name])
    (walked : files.walk (files.start path) above = .ok location)
    (isFolder : files.entry? location = some .folder) :
    (Path.parent? path).getD "" = "" ∨ files.isFolder ((Path.parent? path).getD "") = true := by
  have inside : (Path.names path).dropLast = above := by rw [split, List.dropLast_concat]
  by_cases some : above = []
  · have parent : Path.parent? path = .some (if Path.isAbsolute path then "/" else "") := by
      rw [Path.parent?, inside, some, split]
      simp
    rw [parent]
    cases Path.isAbsolute path with
    | true => exact .inr (isFolder_root files)
    | false => exact .inl rfl
  · obtain ⟨folder, parent, written⟩ := Path.parent?_eq some inside
    have names := Path.names_folder some inside written
    have start : files.start folder = files.start path := by
      rw [Files.start, Files.start, Path.isAbsolute_folder some inside written]
    have notEmpty : folder ≠ "" := by
      rintro rfl
      exact some names.symm
    rw [parent]
    refine .inr (isFolder_iff.2 ⟨?_, location, ?_, isFolder⟩)
    · exact demandPath_sublist demanded notEmpty (Path.toList_folder_sublist inside written)
    · rwa [Option.getD_some, start, names]

/-- A file that can be read can be written. -/
theorem holds_of_read (read : files.read path = .ok content) : files.Holds path content := by
  obtain ⟨location, located, found⟩ := ok_of_bind read
  obtain ⟨demanded, walked⟩ := walk_of_locate located
  obtain ⟨mode, file⟩ : ∃ mode, files.entry? location = some (.file content mode) := by
    split at found
    · next mode file =>
      cases found
      exact ⟨mode, file⟩
    · cases found
  have named : Path.namesFolder path = false := by
    rw [locate, bind_of_ok demanded, bind_of_ok walked, file] at located
    cases named : Path.namesFolder path with
    | false => rfl
    | true =>
      rw [named] at located
      cases located
  -- The path names nothing but its start, or a last name in the folder of the others.
  rcases List.eq_nil_or_concat (Path.names path) with nothing | ⟨above, name, split⟩
  · refine ⟨⟨location, mode, ?_, file⟩, named, .inl ?_⟩
    · rw [nothing] at walked
      cases walked
      rw [place, bind_of_ok demanded, nothing]
      rfl
    · rw [Path.parent?, nothing]
      rfl
  · rw [List.concat_eq_append] at split
    rw [split, walk_append] at walked
    obtain ⟨folder, walked, last⟩ := ok_of_bind walked
    exact ⟨⟨location, mode, place_of_walk demanded split walked last, file⟩, named,
      isFolder_parent demanded split walked (folder_of_walk_cons last)⟩

end Files

end LayerGateway
