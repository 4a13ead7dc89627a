import EntityGen.Proofs.Model.Listing
import Mathlib.Data.List.Pairwise

/-!
Contract: one file of a model that is reached from several roots.

Owns:
- `Respelled`, the places that two roots reach by different components;
- `DeclaredOnce`, models without a class that is declared a second time at any place;
- which listings name one place twice, and what that means for reading such a model.

Does not own: the order of the listing, and the reading of one file.

A place is the file meant; paths name it in many ways. A listing drops repeats by the
components of the paths. The components of a listed path are those of its root and the
names behind, so two roots agree on all common files as soon as one of them continues
the components of the other by the names that lead from place to place.
-/

namespace EntityGen.Model

/-! ## Places of files -/

/-- The root is a file at this location, or a directory with a model file there. -/
def StandsFor (tree : FileTree) (root : FilePath) (location : Location) : Prop :=
  ∃ files, filesOfRoot tree root = .ok files ∧
    ∃ file ∈ files, file.locationFrom tree.current = location

/-- One of the roots stands for the file at this location. -/
def Reached (tree : FileTree) (roots : List FilePath) (location : Location) : Prop :=
  ∃ root ∈ roots, StandsFor tree root location

/-- Two of the roots stand for the file at this location, and `inner` is not spelled as
`outer` with the names behind it that lead from its place to that of `inner`. -/
def Respelled (tree : FileTree) (roots : List FilePath) (location : Location) : Prop :=
  ∃ outer ∈ roots, ∃ inner ∈ roots, StandsFor tree outer location ∧ StandsFor tree inner location ∧
    ∃ names, inner.locationFrom tree.current = outer.locationFrom tree.current ++ names ∧
      inner.components ≠ outer.components ++ names.map Component.name

/-- The file at this location is a model that declares a class of this name. -/
def FileDeclares (tree : FileTree) (location : Location) (name : String) : Prop :=
  ∃ text classes, tree.files location = some (.text text) ∧ readModel text = .ok classes ∧
    ∃ decl ∈ classes, decl.name = name

/-- Over all places that the roots reach, no class is declared a second time. -/
structure DeclaredOnce (tree : FileTree) (roots : List FilePath) : Prop where
  inFile : ∀ location text name, Reached tree roots location →
    tree.files location = some (.text text) → readModel text ≠ .error (.declaredTwice "class" name)
  acrossFiles : ∀ first second name, Reached tree roots first → Reached tree roots second →
    FileDeclares tree first name → FileDeclares tree second name → first = second

section Places

variable {tree : FileTree} {path : FilePath} {roots paths : List FilePath}

theorem files_of_readText {text : String} (read : tree.readText path = .ok text) :
    tree.files (path.locationFrom tree.current) = some (.text text) := by
  obtain ⟨location, followed, holds⟩ := FileTree.readText_eq_ok_iff.mp read
  rwa [FileTree.locationFrom_of_follow followed] at holds

/-- What is read by way of a path is the model at the place to which it leads. -/
theorem exists_text_of_readFile {classes : List ClassDecl}
    (read : readFile tree path = .ok classes) :
    ∃ text, tree.files (path.locationFrom tree.current) = some (.text text) ∧
      readModel text = .ok classes := by
  obtain ⟨text, textRead, ofText⟩ := Result.bind_eq_ok_iff.mp read
  exact ⟨text, files_of_readText (Result.mapError_eq_ok_iff.mp textRead),
    Result.mapError_eq_ok_iff.mp ofText⟩

theorem fileDeclares_of_pathDeclares {name : String} (declares : PathDeclares tree path name) :
    FileDeclares tree (path.locationFrom tree.current) name := by
  obtain ⟨classes, read, declared⟩ := declares
  obtain ⟨text, holds, ofText⟩ := exists_text_of_readFile read
  exact ⟨text, classes, holds, ofText, declared⟩

/-- A path that can be read declares what the file declares to which it leads. -/
theorem pathDeclares_of_fileDeclares {name : String} {classes : List ClassDecl}
    (read : readFile tree path = .ok classes)
    (declares : FileDeclares tree (path.locationFrom tree.current) name) :
    PathDeclares tree path name := by
  obtain ⟨text, holds, ofText⟩ := exists_text_of_readFile read
  obtain ⟨other, found, otherHolds, ofOther, declared⟩ := declares
  rw [holds] at otherHolds
  obtain rfl := Content.text.inj (Option.some.inj otherHolds)
  rw [ofText] at ofOther
  obtain rfl := Except.ok.inj ofOther
  exact ⟨classes, read, declared⟩

/-- The places reached are those of the listed paths. -/
theorem reached_iff (listed : modelPaths tree roots = .ok paths) {location : Location} :
    Reached tree roots location ↔ ∃ path ∈ paths, path.locationFrom tree.current = location := by
  constructor
  · rintro ⟨root, isRoot, files, ofRoot, file, member, rfl⟩
    obtain ⟨path, isListed, alike⟩ := exists_mem_modelPaths listed isRoot ofRoot member
    exact ⟨path, isListed, FilePath.locationFrom_of_components alike _⟩
  · rintro ⟨path, isListed, rfl⟩
    obtain ⟨root, isRoot, ofRoot, found, member⟩ := exists_root_of_mem_modelPaths listed isListed
    exact ⟨root, isRoot, ofRoot, found, path, member, rfl⟩

/-- Of two listed paths that declare one name in a model that was read, one is the
other. -/
theorem eq_of_fileDeclares (listed : modelPaths tree roots = .ok paths)
    {classes : List ClassDecl} {left right : FilePath} {name : String}
    (read : (readFiles tree roots).1 = .ok classes) (isLeft : left ∈ paths)
    (isRight : right ∈ paths)
    (leftDeclares : FileDeclares tree (left.locationFrom tree.current) name)
    (rightDeclares : FileDeclares tree (right.locationFrom tree.current) name) : left = right := by
  rw [readFiles, listed] at read
  have noneKnown : (([] : List ClassDecl).map (·.name)).Nodup := List.nodup_nil
  have apart := (declareApart_of_readFilesFrom noneKnown read).2
  obtain ⟨ofLeft, leftRead⟩ := exists_readFile_of_readFilesFrom read left isLeft
  obtain ⟨ofRight, rightRead⟩ := exists_readFile_of_readFilesFrom read right isRight
  by_contra notSame
  apply apart.forall isLeft isRight notSame name
  constructor
  · exact pathDeclares_of_fileDeclares leftRead leftDeclares
  · exact pathDeclares_of_fileDeclares rightRead rightDeclares

/-- A model that was read declares each class once. -/
theorem declaredOnce_of_readFiles (listed : modelPaths tree roots = .ok paths)
    {classes : List ClassDecl} (read : (readFiles tree roots).1 = .ok classes) :
    DeclaredOnce tree roots where
  inFile := by
    intro location text name reached holds refused
    obtain ⟨path, isListed, rfl⟩ := (reached_iff listed).mp reached
    rw [readFiles, listed] at read
    obtain ⟨found, ofPath⟩ := exists_readFile_of_readFilesFrom read path isListed
    obtain ⟨other, alsoHolds, ofText⟩ := exists_text_of_readFile ofPath
    rw [holds] at alsoHolds
    obtain rfl := Content.text.inj (Option.some.inj alsoHolds)
    rw [refused] at ofText
    cases ofText
  acrossFiles := by
    intro first second name firstReached secondReached firstDeclares secondDeclares
    obtain ⟨left, isLeft, rfl⟩ := (reached_iff listed).mp firstReached
    obtain ⟨right, isRight, rfl⟩ := (reached_iff listed).mp secondReached
    rw [eq_of_fileDeclares listed read isLeft isRight firstDeclares secondDeclares]

end Places

/-! ## Roots that are respelled -/

section Respelling

/-- Two files continue their roots by names. Where one root lies behind the other, they
have the same components if and only if that root continues the other by names, too. -/
theorem components_eq_iff_of_names {outer inner left right : FilePath} {names rest : List String}
    (leftParts : left.components = outer.components ++ (names ++ rest).map Component.name)
    (rightParts : right.components = inner.components ++ rest.map Component.name) :
    left.components = right.components ↔
      inner.components = outer.components ++ names.map Component.name := by
  rw [leftParts, rightParts, List.map_append, ← List.append_assoc, List.append_left_inj, eq_comm]

variable {tree : FileTree} {roots paths : List FilePath} {location : Location}
variable (hasNames : tree.HasNames) (listed : modelPaths tree roots = .ok paths)

include hasNames listed

theorem respelled_of_listed {left right : FilePath} (isLeft : left ∈ paths)
    (isRight : right ∈ paths) (different : left.components ≠ right.components)
    (leftThere : left.locationFrom tree.current = location)
    (rightThere : right.locationFrom tree.current = location) : Respelled tree roots location := by
  obtain ⟨first, isFirst, ofFirst, firstFound, inFirst⟩ :=
    exists_root_of_mem_modelPaths listed isLeft
  obtain ⟨second, isSecond, ofSecond, secondFound, inSecond⟩ :=
    exists_root_of_mem_modelPaths listed isRight
  have firstStands : StandsFor tree first location :=
    ⟨ofFirst, firstFound, left, inFirst, leftThere⟩
  have secondStands : StandsFor tree second location :=
    ⟨ofSecond, secondFound, right, inSecond, rightThere⟩
  obtain ⟨leftNames, leftParts, leftPlace⟩ :=
    exists_names_of_mem_filesOfRoot hasNames firstFound inFirst
  obtain ⟨rightNames, rightParts, rightPlace⟩ :=
    exists_names_of_mem_filesOfRoot hasNames secondFound inSecond
  -- Both roots lie above the file, so one of them lies at or below the other.
  have samePlace : first.locationFrom tree.current ++ leftNames =
      second.locationFrom tree.current ++ rightNames := by
    rw [← leftPlace, ← rightPlace, leftThere, rightThere]
  rcases List.append_eq_append_iff.mp samePlace with
    ⟨names, secondBehind, rfl⟩ | ⟨names, firstBehind, rfl⟩
  · refine ⟨first, isFirst, second, isSecond, firstStands, secondStands, names, secondBehind, ?_⟩
    rwa [ne_eq, ← components_eq_iff_of_names leftParts rightParts]
  · refine ⟨second, isSecond, first, isFirst, secondStands, firstStands, names, firstBehind, ?_⟩
    rw [ne_eq, ← components_eq_iff_of_names rightParts leftParts]
    exact different.symm

theorem exists_listed_of_respelled (respelled : Respelled tree roots location) :
    ∃ left ∈ paths, ∃ right ∈ paths, left.components ≠ right.components ∧
      left.locationFrom tree.current = location ∧ right.locationFrom tree.current = location := by
  obtain ⟨outer, isOuter, inner, isInner, outerStands, innerStands, names, behind, apart⟩ :=
    respelled
  obtain ⟨ofOuter, outerFound, outerFile, inOuter, outerThere⟩ := outerStands
  obtain ⟨ofInner, innerFound, innerFile, inInner, innerThere⟩ := innerStands
  obtain ⟨outerNames, outerParts, outerPlace⟩ :=
    exists_names_of_mem_filesOfRoot hasNames outerFound inOuter
  obtain ⟨innerNames, innerParts, innerPlace⟩ :=
    exists_names_of_mem_filesOfRoot hasNames innerFound inInner
  have sameNames : outerNames = names ++ innerNames := by
    rw [outerThere, ← innerThere, innerPlace, behind, List.append_assoc,
      List.append_cancel_left_eq] at outerPlace
    exact outerPlace.symm
  subst sameNames
  have different : outerFile.components ≠ innerFile.components := by
    rwa [ne_eq, components_eq_iff_of_names outerParts innerParts]
  obtain ⟨left, isLeft, leftParts⟩ := exists_mem_modelPaths listed isOuter outerFound inOuter
  obtain ⟨right, isRight, rightParts⟩ := exists_mem_modelPaths listed isInner innerFound inInner
  refine ⟨left, isLeft, right, isRight, ?_, ?_, ?_⟩
  · rwa [leftParts, rightParts]
  · rw [FilePath.locationFrom_of_components leftParts, outerThere]
  · rw [FilePath.locationFrom_of_components rightParts, innerThere]

/-- A place is listed twice if and only if two roots reach it by different components. -/
theorem nodup_places_iff : (paths.map (·.locationFrom tree.current)).Nodup ↔
    ∀ location, ¬ Respelled tree roots location := by
  constructor
  · intro distinct location respelled
    obtain ⟨left, isLeft, right, isRight, different, leftThere, rightThere⟩ :=
      exists_listed_of_respelled hasNames listed respelled
    have same := List.inj_on_of_nodup_map distinct isLeft isRight (leftThere.trans rightThere.symm)
    exact different (congrArg FilePath.components same)
  · intro alike
    rw [List.Nodup, List.pairwise_map]
    refine (pairwise_modelPaths listed).imp_of_mem ?_
    intro left right isLeft isRight isBefore samePlace
    exact alike _ (respelled_of_listed hasNames listed isLeft isRight
      (FilePath.components_ne_of_before isBefore) samePlace rfl)

/-- Files of places that no root respells are read without a class that was declared
before, if each class is declared once. -/
theorem readFiles_ne_declaredTwice (once : DeclaredOnce tree roots)
    (alike : ∀ location name, Respelled tree roots location → ¬ FileDeclares tree location name)
    (path : FilePath) (name : String) :
    (readFiles tree roots).1 ≠ .error (.within path (.declaredTwice "class" name)) := by
  intro failed
  rw [readFiles, listed] at failed
  have apart : paths.Pairwise (DeclareApart tree) := by
    refine (pairwise_modelPaths listed).imp_of_mem ?_
    intro left right isLeft isRight isBefore shared both
    have leftDeclares := fileDeclares_of_pathDeclares both.1
    have samePlace := once.acrossFiles _ _ shared ((reached_iff listed).mpr ⟨left, isLeft, rfl⟩)
      ((reached_iff listed).mpr ⟨right, isRight, rfl⟩) leftDeclares
      (fileDeclares_of_pathDeclares both.2)
    exact alike _ shared (respelled_of_listed hasNames listed isLeft isRight
      (FilePath.components_ne_of_before isBefore) rfl samePlace.symm) leftDeclares
  have noneKnown : (([] : List ClassDecl).map (·.name)).Nodup := List.nodup_nil
  obtain ⟨refused, isListed, ofRefused⟩ :=
    exists_readFile_eq_error noneKnown (by simp) apart failed
  -- What is left is a file that declares the class twice on its own.
  rcases Result.bind_eq_error_iff.mp ofRefused with unread | ⟨text, textRead, ofText⟩
  · obtain ⟨fault, -, same⟩ := Result.mapError_eq_error_iff.mp unread
    cases (ModelError.within.inj same).2
  · obtain ⟨fault, ofText, same⟩ := Result.mapError_eq_error_iff.mp ofText
    obtain ⟨-, rfl⟩ := ModelError.within.inj same
    have holds := files_of_readText (Result.mapError_eq_ok_iff.mp textRead)
    exact once.inFile _ text name ((reached_iff listed).mpr ⟨refused, isListed, rfl⟩) holds ofText

/-- A model that was read declares no class in a file that two roots reach by different
components. -/
theorem not_fileDeclares_of_readFiles {classes : List ClassDecl} {name : String}
    (read : (readFiles tree roots).1 = .ok classes) (respelled : Respelled tree roots location) :
    ¬ FileDeclares tree location name := by
  intro declares
  obtain ⟨left, isLeft, right, isRight, different, leftThere, rightThere⟩ :=
    exists_listed_of_respelled hasNames listed respelled
  have same := eq_of_fileDeclares listed read isLeft isRight (leftThere.symm ▸ declares)
    (rightThere.symm ▸ declares)
  exact different (congrArg FilePath.components same)

end Respelling

/-- **A file that several roots reach is listed once, unless they reach it by different
components.** The files of roots that exist can be listed, and two of the listed paths lead
to one place just when two roots respell it. While no file at such a place declares a
class, a model in which each class is declared once is not refused for a class declared
twice; and every model that is read is of this kind. -/
theorem modelPaths_lists_places_once_iff {tree : FileTree} {roots : List FilePath}
    (hasNames : tree.HasNames)
    (exist : ∀ root ∈ roots, ∃ entry, tree.entryAt root = .ok entry) :
    ∃ paths, modelPaths tree roots = .ok paths ∧
      ((paths.map (·.locationFrom tree.current)).Nodup ↔
        ∀ location, ¬ Respelled tree roots location) ∧
      (DeclaredOnce tree roots →
        (∀ location name, Respelled tree roots location → ¬ FileDeclares tree location name) →
        ∀ path name,
          (readFiles tree roots).1 ≠ .error (.within path (.declaredTwice "class" name))) ∧
      ∀ classes, (readFiles tree roots).1 = .ok classes → DeclaredOnce tree roots ∧
        ∀ location name, Respelled tree roots location → ¬ FileDeclares tree location name := by
  obtain ⟨files, found⟩ := exists_filesOfRoots exist
  have listed := modelPaths_eq_ok_iff.mpr ⟨files, found, rfl⟩
  refine ⟨_, listed, nodup_places_iff hasNames listed,
    readFiles_ne_declaredTwice hasNames listed, fun classes read => ?_⟩
  exact ⟨declaredOnce_of_readFiles listed read,
    fun location name => not_fileDeclares_of_readFiles hasNames listed read⟩

private def shelf : FileTree :=
  let books := "<model><class name=\"Book\"/></model>"
  let authors := "<model><class name=\"Author\"/></model>"
  (FileTree.layOut {} ["m", "b.xml"] (.file (.text books))).layOut ["m", "a.xml"]
    (.file (.text authors))

private def overlapping : List FilePath := [.ofString "m/./a.xml", .ofString "m"]

private def respelled : List FilePath := [.ofString "./m/a.xml", .ofString "m/a.xml"]

private theorem shelf_hasNames : shelf.HasNames := by
  unfold FileTree.HasNames FilePath.IsName
  decide +kernel

private theorem modelPaths_overlapping :
    modelPaths shelf overlapping = .ok [.ofString "m/./a.xml", .ofString "m/b.xml"] := by
  have found : filesOfRoots shelf overlapping =
      .ok [.ofString "m/./a.xml", .ofString "m/a.xml", .ofString "m/b.xml"] := by
    decide +kernel
  have same : (FilePath.ofString "m/./a.xml").sameAs (.ofString "m/a.xml") = true := by
    decide +kernel
  have different : (FilePath.ofString "m/./a.xml").sameAs (.ofString "m/b.xml") = false := by
    decide +kernel
  rw [modelPaths_eq_ok_iff]
  refine ⟨_, found, ?_⟩
  rw [List.mergeSort_of_pairwise (by decide +kernel)]
  simp [withoutRepeats, same, different]

private theorem exist_of_isOk {tree : FileTree} {roots : List FilePath}
    (areOk : ∀ root ∈ roots, (tree.entryAt root).isOk = true) :
    ∀ root ∈ roots, ∃ entry, tree.entryAt root = .ok entry := by
  intro root member
  have isOk := areOk root member
  cases isEntry : tree.entryAt root with
  | error cause => simp [isEntry, Except.isOk, Except.toBool] at isOk
  | ok entry => exact ⟨entry, rfl⟩

/-- A folder and a file in it can be roots together, in another spelling of the same
components. -/
theorem overlapping_listed_once :
    shelf.HasNames ∧ (∀ root ∈ overlapping, ∃ entry, shelf.entryAt root = .ok entry) ∧
      (∀ location, ¬ Respelled shelf overlapping location) ∧
      (readFiles shelf overlapping).1 = .ok [{ name := "Author" }, { name := "Book" }] ∧
      DeclaredOnce shelf overlapping := by
  have exist : ∀ root ∈ overlapping, ∃ entry, shelf.entryAt root = .ok entry :=
    exist_of_isOk (by decide +kernel)
  obtain ⟨paths, listed, once, -, ofRead⟩ := modelPaths_lists_places_once_iff shelf_hasNames exist
  rw [modelPaths_overlapping] at listed
  obtain rfl := Except.ok.inj listed
  have read : (readFiles shelf overlapping).1 =
      .ok [{ name := "Author" }, { name := "Book" }] := by
    rw [readFiles, modelPaths_overlapping]
    decide +kernel
  exact ⟨shelf_hasNames, exist, once.mp (by decide +kernel), read, (ofRead _ read).1⟩

/-- A file that is named once from the current directory and once without it is listed
twice, and its only class counts as declared twice. -/
theorem respelled_root_listed_twice :
    (∀ root ∈ respelled, ∃ entry, shelf.entryAt root = .ok entry) ∧
      modelPaths shelf respelled = .ok respelled ∧
      respelled.map (·.locationFrom shelf.current) = [["m", "a.xml"], ["m", "a.xml"]] ∧
      DeclaredOnce shelf respelled ∧
      (readFiles shelf respelled).1 =
        .error (.within (.ofString "m/a.xml") (.declaredTwice "class" "Author")) := by
  have exist : ∀ root ∈ respelled, ∃ entry, shelf.entryAt root = .ok entry :=
    exist_of_isOk (by decide +kernel)
  have found : filesOfRoots shelf respelled = .ok respelled := by decide +kernel
  have different : (FilePath.ofString "./m/a.xml").sameAs (.ofString "m/a.xml") = false := by
    decide +kernel
  have listed : modelPaths shelf respelled = .ok respelled := by
    rw [modelPaths_eq_ok_iff]
    refine ⟨_, found, ?_⟩
    rw [List.mergeSort_of_pairwise (by decide +kernel)]
    simp [respelled, withoutRepeats, different]
  have places : respelled.map (·.locationFrom shelf.current) =
      [["m", "a.xml"], ["m", "a.xml"]] := by
    decide +kernel
  have oneFile : ∀ location, Reached shelf respelled location → location = ["m", "a.xml"] := by
    intro location reached
    obtain ⟨path, member, rfl⟩ := (reached_iff listed).mp reached
    have inPlaces := List.mem_map_of_mem (f := (·.locationFrom shelf.current)) member
    rw [places] at inPlaces
    simpa using inPlaces
  refine ⟨exist, listed, places, ⟨?_, ?_⟩, ?_⟩
  · intro location text name reached holds refused
    obtain rfl := oneFile location reached
    have isAuthors : shelf.files ["m", "a.xml"] =
        some (.text "<model><class name=\"Author\"/></model>") := by
      decide +kernel
    rw [isAuthors] at holds
    obtain rfl := Content.text.inj (Option.some.inj holds)
    have read : readModel "<model><class name=\"Author\"/></model>" =
        .ok [{ name := "Author" }] := by
      decide +kernel
    rw [read] at refused
    cases refused
  · intro first second name firstReached secondReached _ _
    rw [oneFile first firstReached, oneFile second secondReached]
  · rw [readFiles, listed]
    decide +kernel

end EntityGen.Model
