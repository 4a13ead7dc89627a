import EntityGen.Model.Files
import EntityGen.Proofs.File.Growth

/-!
Contract: what the files of a model are read from.

Owns:
- `KeepsModels`, trees that differ only by directories and by files of a foreign
  extension;
- the files of a model, and their classes, in such trees.

Does not own: who makes those directories and files.

A root that is a directory stands for the files below it by their extension, so a
foreign one is never listed. A root that is a file has to have the extension of
models itself: a file of any extension is read if it is named.
-/

namespace EntityGen

open FileTree (Grows OnlyDirectoriesAdded below?)

/-- A name that ends in a dot and an extension. -/
def EndsIn (extension name : String) : Prop :=
  ∃ stem, name = stem ++ "." ++ extension

/-- An extension of other files than those of models. -/
structure ForeignExtension (extension : String) : Prop where
  noDot : '.' ∉ extension.toList
  noSlash : '/' ∉ extension.toList
  long : 2 ≤ extension.length
  foreign : extension ≠ Model.modelSuffix

/-! ## Foreign names -/

section Foreign

variable {extension name : String} (isForeign : ForeignExtension extension)

include isForeign

theorem ForeignExtension.splitName_ne (ends : EndsIn extension name) :
    (FilePath.splitName name).2 ≠ some Model.modelSuffix := by
  obtain ⟨stem, rfl⟩ := ends
  rcases FilePath.splitName_of_extension stem isForeign.noDot with none | same
  · simp [none]
  · rw [same]
    simpa using isForeign.foreign

theorem ForeignExtension.isName (ends : EndsIn extension name) : FilePath.IsName name := by
  obtain ⟨stem, rfl⟩ := ends
  apply FilePath.isName_of_length
  have long := isForeign.long
  have dot : ".".length = 1 := rfl
  rw [String.length_append, String.length_append, dot]
  omega

/-- A file of a model does not lie where a foreign name leads. -/
theorem ForeignExtension.not_endsIn {path : FilePath}
    (isModel : path.extension? = some Model.modelSuffix) (current : Location) :
    ∀ last ∈ (path.locationFrom current).getLast?, ¬ EndsIn extension last := by
  intro last isLast ends
  obtain ⟨file, isFile, hasSuffix⟩ := Option.bind_eq_some_iff.mp isModel
  rw [FilePath.getLast?_locationFrom isFile] at isLast
  obtain rfl := Option.some.inj isLast
  exact isForeign.splitName_ne ends hasSuffix

/-- A path that is continued by a foreign name is not listed as a model. -/
theorem ForeignExtension.extension?_join_ne (ends : EndsIn extension name) (path : FilePath) :
    (path.join (.ofString name)).extension? ≠ some Model.modelSuffix := by
  obtain ⟨stem, rfl⟩ := ends
  have written : (stem ++ "." ++ extension).toList = stem.toList ++ '.' :: extension.toList := by
    simp
  have free : '/' ∉ '.' :: extension.toList := by
    rw [List.mem_cons, not_or]
    exact ⟨by decide, isForeign.noSlash⟩
  obtain ⟨front, isLast⟩ := Text.exists_getLast?_pieces_append stem.toList free
  have lastPiece : (FilePath.ofString (stem ++ "." ++ extension)).pieces.getLast? =
      some (String.ofList front ++ "." ++ extension) := by
    rw [FilePath.ofString, written, List.getLast?_map, isLast, Option.map_some]
    apply congrArg
    apply String.toList_injective
    simp
  obtain ⟨before, inParts⟩ := List.getLast?_eq_some_iff.mp lastPiece
  obtain ⟨more, joined⟩ := FilePath.exists_pieces_join path inParts
  have lastEnds : EndsIn extension (String.ofList front ++ "." ++ extension) := ⟨_, rfl⟩
  have named := FilePath.fileName?_concat more (isForeign.isName lastEnds)
  rw [← joined] at named
  intro isModel
  rw [FilePath.extension?, named] at isModel
  exact isForeign.splitName_ne lastEnds isModel

end Foreign

/-! ## Trees with the same models -/

/-- What a listing of model files looks over: directories and foreign names. -/
def Overlooked (extension : String) (found : Location × Entry) : Prop :=
  found.2 = .directory ∨ ∃ name ∈ found.1.getLast?, EndsIn extension name

/-- `after` has grown from `before` by directories and by files of an extension; other
files hold what they held, and are listed in the same order. -/
structure KeepsModels (extension : String) (before after : FileTree) : Prop where
  grows : Grows before after
  files : ∀ location, (∀ name ∈ location.getLast?, ¬ EndsIn extension name) →
    after.files location = before.files location
  listing : ∀ view : Location × Entry → Option FilePath,
    (∀ found, Overlooked extension found → view found = none) →
      after.entries.filterMap view = before.entries.filterMap view

namespace KeepsModels

variable {extension : String}

theorem refl (tree : FileTree) : KeepsModels extension tree tree :=
  ⟨Grows.refl tree, fun _ _ => rfl, fun _ _ => rfl⟩

theorem trans {first second third : FileTree} (earlier : KeepsModels extension first second)
    (later : KeepsModels extension second third) : KeepsModels extension first third :=
  ⟨earlier.grows.trans later.grows,
    fun location other => (later.files location other).trans (earlier.files location other),
    fun view overlooks => (later.listing view overlooks).trans (earlier.listing view overlooks)⟩

end KeepsModels

section Place

variable {extension : String} {tree : FileTree} {location : Location}

end Place

/-! ## Reading models -/

section Reading

variable {extension : String} {before after : FileTree}

/-- The model files below a directory, as one view of the entries of a tree. -/
def listedModel (directory : Location) (root : FilePath) (found : Location × Entry) :
    Option FilePath :=
  (below? directory found.1).bind fun names =>
    match found.2 with
    | .directory => none
    | .file _ =>
      let path := root.continuedBy names
      if FileTree.isShort (root.continuedBy names.dropLast) ∧
          path.extension? = some Model.modelSuffix then some path
      else none

theorem below?_eq_some_iff {directory location : Location} {names : List String} :
    below? directory location = some names ↔ names ≠ [] ∧ location = directory ++ names := by
  unfold below?
  cases rest : directory.isPrefixOf? location with
  | none =>
      simp only [reduceCtorEq, false_iff, not_and]
      rintro - rfl
      have found : directory.isPrefixOf? (directory ++ names) = some names :=
        List.isPrefixOf?_eq_some_iff_append_eq.mpr rfl
      rw [found] at rest
      cases rest
  | some found =>
      rw [List.isPrefixOf?_eq_some_iff_append_eq] at rest
      subst rest
      cases found with
      | nil => simp
      | cons first others =>
          simp only [Option.some.injEq, List.append_cancel_left_eq]
          constructor
          · rintro rfl
            exact ⟨List.cons_ne_nil _ _, rfl⟩
          · exact fun both => both.2

/-- A listed file lies behind names in directories that can be entered, and has the
extension of models. -/
theorem listedModel_eq_some_iff {directory : Location} {root path : FilePath}
    {found : Location × Entry} :
    listedModel directory root found = some path ↔
      ∃ names content, names ≠ [] ∧ found = (directory ++ names, .file content) ∧
        FileTree.isShort (root.continuedBy names.dropLast) = true ∧
        path.extension? = some Model.modelSuffix ∧ root.continuedBy names = path := by
  obtain ⟨location, entry⟩ := found
  unfold listedModel
  simp only [Option.bind_eq_some_iff, below?_eq_some_iff]
  constructor
  · rintro ⟨names, ⟨nonempty, rfl⟩, listed⟩
    cases entry with
    | directory => cases listed
    | file content =>
        obtain ⟨⟨entered, isModel⟩, same⟩ := Option.ite_none_right_eq_some.mp listed
        obtain rfl := Option.some.inj same
        exact ⟨names, content, nonempty, rfl, entered, isModel, rfl⟩
  · rintro ⟨names, content, nonempty, same, entered, isModel, rfl⟩
    obtain ⟨rfl, rfl⟩ := Prod.mk.inj same
    exact ⟨names, ⟨nonempty, rfl⟩, if_pos ⟨entered, isModel⟩⟩

theorem listedModel_of_overlooked (isForeign : ForeignExtension extension)
    (directory : Location) (root : FilePath) {found : Location × Entry}
    (overlooked : Overlooked extension found) : listedModel directory root found = none := by
  rw [Option.eq_none_iff_forall_ne_some]
  intro path listed
  obtain ⟨names, content, nonempty, rfl, -, isModel, rfl⟩ := listedModel_eq_some_iff.mp listed
  rcases overlooked with isDirectory | ⟨name, isLast, ends⟩
  · cases isDirectory
  · rw [List.getLast?_append_of_ne_nil _ nonempty] at isLast
    obtain ⟨front, rfl⟩ := List.getLast?_eq_some_iff.mp isLast
    rw [FilePath.continuedBy, List.foldl_append] at isModel
    exact isForeign.extension?_join_ne ends (root.continuedBy front) isModel

theorem filesOfRoot_directory {tree : FileTree} {root : FilePath} {directory : Location}
    (followed : tree.follow root = .ok directory) (isDirectory : tree.isDirectory root = true) :
    Model.filesOfRoot tree root =
      .ok (tree.entries.filterMap (listedModel directory root)) := by
  unfold Model.filesOfRoot FileTree.filesBelow FileTree.entriesBelow
  rw [if_pos isDirectory, followed, Result.ok_bind, List.filterMap_filterMap]
  show Except.ok (List.filter _ _) = _
  rw [List.filter_filterMap]
  congr 2
  funext ⟨location, entry⟩
  unfold listedModel
  cases below? directory location with
  | none => rfl
  | some names =>
      cases entry with
      | directory => rfl
      | file content =>
          cases entered : FileTree.isShort (root.continuedBy names.dropLast) with
          | false => simp [entered]
          | true =>
              by_cases isModel : (root.continuedBy names).extension? = some Model.modelSuffix
              · simp [entered, isModel]
              · simp [entered, isModel]

theorem Grows.filesOfRoot_file (grown : Grows before after) {root : FilePath}
    {files : List FilePath} (noDirectory : before.isDirectory root = false)
    (found : Model.filesOfRoot before root = .ok files) :
    files = [root] ∧ Model.filesOfRoot after root = .ok [root] := by
  unfold Model.filesOfRoot at found ⊢
  rw [noDirectory, if_neg Bool.false_ne_true] at found
  obtain ⟨entry, isEntry, rfl⟩ := Result.map_eq_ok_iff.mp found
  obtain ⟨location, followed, lies⟩ :=
    FileTree.entryAt_eq_ok_iff.mp (Result.mapError_eq_ok_iff.mp isEntry)
  have isFile : (before.files location).isSome := by
    cases entry with
    | directory =>
        rw [FileTree.isDirectory_iff.mpr ⟨location, followed, lies⟩] at noDirectory
        cases noDirectory
    | file content => rw [FileTree.files_eq_some_iff.mpr lies, Option.isSome_some]
  obtain ⟨content, holds⟩ := Option.isSome_iff_exists.mp (grown.file location isFile)
  have entryAfter : after.entryAt root = .ok (.file content) :=
    FileTree.entryAt_eq_ok_iff.mpr
      ⟨location, grown.follow followed, FileTree.files_eq_some_iff.mp holds⟩
  have stillNone : after.isDirectory root = false := by
    rw [FileTree.isDirectory, entryAfter]
  rw [stillNone, entryAfter]
  exact ⟨rfl, rfl⟩

theorem mem_of_mem_withoutRepeats {paths : List FilePath} {path : FilePath}
    (member : path ∈ Model.withoutRepeats paths) : path ∈ paths := by
  fun_induction Model.withoutRepeats paths with
  | case1 => exact member
  | case2 last => exact member
  | case3 first second others same inductionHypothesis =>
      rcases List.mem_cons.mp (inductionHypothesis member) with rfl | inOthers
      · exact List.mem_cons_self ..
      · exact List.mem_cons_of_mem _ (List.mem_cons_of_mem _ inOthers)
  | case4 first second others different inductionHypothesis =>
      rcases List.mem_cons.mp member with rfl | inOthers
      · exact List.mem_cons_self ..
      · exact List.mem_cons_of_mem _ (inductionHypothesis inOthers)

variable (isForeign : ForeignExtension extension)

namespace KeepsModels

variable (kept : KeepsModels extension before after)

include isForeign kept

/-- The files for which a root stands, all with the extension of models, are the same
in a tree with the same models. -/
theorem filesOfRoot {root : FilePath} {files : List FilePath}
    (named : before.isDirectory root = false → root.extension? = some Model.modelSuffix)
    (found : Model.filesOfRoot before root = .ok files) :
    Model.filesOfRoot after root = .ok files ∧
      ∀ file ∈ files, file.extension? = some Model.modelSuffix := by
  cases isDirectory : before.isDirectory root with
  | true =>
      obtain ⟨directory, followed, -⟩ := FileTree.isDirectory_iff.mp isDirectory
      rw [filesOfRoot_directory followed isDirectory] at found
      obtain rfl := Except.ok.inj found
      rw [filesOfRoot_directory (kept.grows.follow followed) (kept.grows.isDirectory isDirectory),
        kept.listing _ fun entry => listedModel_of_overlooked isForeign directory root]
      refine ⟨rfl, fun file member => ?_⟩
      obtain ⟨entry, -, listed⟩ := List.mem_filterMap.mp member
      obtain ⟨-, -, -, -, -, isModel, -⟩ := listedModel_eq_some_iff.mp listed
      exact isModel
  | false =>
      obtain ⟨rfl, foundAfter⟩ := Grows.filesOfRoot_file kept.grows isDirectory found
      exact ⟨foundAfter, by simpa using named isDirectory⟩

theorem filesOfRoots {roots files : List FilePath}
    (named : ∀ root ∈ roots, before.isDirectory root = false →
      root.extension? = some Model.modelSuffix)
    (found : Model.filesOfRoots before roots = .ok files) :
    Model.filesOfRoots after roots = .ok files ∧
      ∀ file ∈ files, file.extension? = some Model.modelSuffix := by
  induction roots generalizing files with
  | nil =>
      obtain rfl := Except.ok.inj found
      exact ⟨rfl, fun _ member => absurd member List.not_mem_nil⟩
  | cons root others inductionHypothesis =>
      rw [List.forall_mem_cons] at named
      obtain ⟨first, ofRoot, found⟩ := Result.bind_eq_ok_iff.mp found
      obtain ⟨rest, ofOthers, same⟩ := Result.bind_eq_ok_iff.mp found
      obtain rfl := Except.ok.inj same
      obtain ⟨rootAfter, rootNamed⟩ := kept.filesOfRoot isForeign named.1 ofRoot
      obtain ⟨othersAfter, othersNamed⟩ := inductionHypothesis named.2 ofOthers
      refine ⟨?_, List.forall_mem_append.mpr ⟨rootNamed, othersNamed⟩⟩
      rw [Model.filesOfRoots, rootAfter, Result.ok_bind, othersAfter]
      rfl

theorem readFile {path : FilePath} {classes : List Model.ClassDecl}
    (isModel : path.extension? = some Model.modelSuffix)
    (read : Model.readFile before path = .ok classes) :
    Model.readFile after path = .ok classes := by
  obtain ⟨text, textRead, classesRead⟩ := Result.bind_eq_ok_iff.mp read
  obtain ⟨location, followed, holds⟩ :=
    FileTree.readText_eq_ok_iff.mp (Result.mapError_eq_ok_iff.mp textRead)
  have notForeign := isForeign.not_endsIn isModel before.current
  rw [← FileTree.locationFrom_of_follow followed] at notForeign
  have textAfter : after.readText path = .ok text := by
    refine FileTree.readText_eq_ok_iff.mpr ⟨location, kept.grows.follow followed, ?_⟩
    rw [kept.files location notForeign]
    exact holds
  rw [Model.readFile, textAfter]
  exact classesRead

theorem readFilesFrom {paths : List FilePath} {known classes : List Model.ClassDecl}
    {notes : List ProgressNote}
    (areModels : ∀ path ∈ paths, path.extension? = some Model.modelSuffix)
    (read : Model.readFilesFrom before known paths = (.ok classes, notes)) :
    Model.readFilesFrom after known paths = (.ok classes, notes) := by
  induction paths generalizing known notes with
  | nil => exact read
  | cons path others inductionHypothesis =>
      rw [List.forall_mem_cons] at areModels
      rw [Model.readFilesFrom] at read ⊢
      split at read
      · cases read
      · next found ofPath =>
          rw [kept.readFile isForeign areModels.1 ofPath]
          dsimp only at read ⊢
          split at read
          · cases read
          · next extended _ =>
              rcases rest : Model.readFilesFrom before extended others with ⟨result, more⟩
              rw [rest] at read
              obtain ⟨rfl, rfl⟩ := Prod.mk.inj read
              rw [inductionHypothesis areModels.2 rest]

/-- A model that was read is read in the same way from a tree with the same models. -/
theorem readFiles {roots : List FilePath} {classes : List Model.ClassDecl}
    {notes : List ProgressNote}
    (named : ∀ root ∈ roots, before.isDirectory root = false →
      root.extension? = some Model.modelSuffix)
    (read : Model.readFiles before roots = (.ok classes, notes)) :
    Model.readFiles after roots = (.ok classes, notes) := by
  unfold Model.readFiles at read ⊢
  split at read
  · cases read
  · next paths isPaths =>
      obtain ⟨files, found, rfl⟩ := Result.map_eq_ok_iff.mp isPaths
      obtain ⟨foundAfter, areModels⟩ := kept.filesOfRoots isForeign named found
      have pathsAfter : Model.modelPaths after roots = .ok
          (Model.withoutRepeats (files.mergeSort fun left right => !right.before left)) := by
        rw [Model.modelPaths, foundAfter]
        rfl
      rw [pathsAfter]
      apply kept.readFilesFrom isForeign _ read
      intro path member
      exact areModels path (List.mem_mergeSort.mp (mem_of_mem_withoutRepeats member))

end KeepsModels

end Reading

end EntityGen
