import EntityGen.Proofs.File.Reordered
import EntityGen.Proofs.File.Walk
import EntityGen.Proofs.Model.ReadFiles
import Mathlib.Data.List.Sort

/-!
Contract: what the listing of a model depends on.

Owns:
- `SpellsFile`, the components under which roots stand for files;
- the listed paths as the sorted list of these components;
- roots in another order or repeated, and trees that list their entries in another order.

Does not own: places that are reached by different components.

Of several spellings of one path the first listed one is kept, so the order of roots decides
which one is read. A longer spelling can be too long to be opened, and only that makes a
difference: a path that can be opened leads where its components lead.
-/

namespace EntityGen

open FileTree (Grows Reordered)

/-- A tree as a file system holds it: every place is listed once, behind names that can
be written in a path. -/
structure FileTree.IsProper (tree : FileTree) : Prop where
  hasNames : tree.HasNames
  noNul : ∀ found ∈ tree.entries, ∀ name ∈ found.1, Char.ofNat 0 ∉ name.toList
  once : (tree.entries.map (·.1)).Nodup

theorem FileTree.IsProper.mem_entries_iff {tree : FileTree} (proper : tree.IsProper)
    {location : Location} {entry : Entry} (nonempty : location ≠ []) :
    tree.lookup location = some entry ↔ (location, entry) ∈ tree.entries := by
  rw [FileTree.lookup, if_neg (by simpa using nonempty),
    FileTree.lookup_eq_some_iff_mem proper.once]

/-- The names behind a directory can be written in a path. -/
theorem FileTree.IsProper.areNames {tree : FileTree} (proper : tree.IsProper)
    {directory : Location} {names : List String} {entry : Entry}
    (isEntry : (directory ++ names, entry) ∈ tree.entries) :
    ∀ name ∈ names, FilePath.IsName name ∧ '/' ∉ name.toList :=
  fun name member => proper.hasNames _ isEntry name (List.mem_append_right _ member)

namespace Model

/-- Every path that continues a root to an entry below it is short enough to be opened. -/
def SpellsShort (tree : FileTree) (root : FilePath) : Prop :=
  ∀ found ∈ tree.entriesBelow (root.locationFrom tree.current),
    FileTree.isShort (root.continuedBy found.1) = true

/-- The components of a file for which a root stands: its own if it is no directory, or else
its own and the names that lead from it to a file with the extension of models. -/
inductive SpellsFile (tree : FileTree) (root : FilePath) : List Component → Prop
  | itself : tree.isDirectory root = false → SpellsFile tree root root.components
  | below {names : List String} {last : String} {content : Content} :
      tree.isDirectory root = true →
      tree.lookup (root.locationFrom tree.current ++ names) = some (.file content) →
      names.getLast? = some last → (FilePath.splitName last).2 = some modelSuffix →
      SpellsFile tree root (root.components ++ names.map Component.name)

variable {tree other : FileTree} {roots others paths : List FilePath}

/-! ## Listed components -/

/-- The listed components are those of the files of the roots. -/
theorem mem_components_modelPaths_iff (listed : modelPaths tree roots = .ok paths)
    {components : List Component} :
    components ∈ paths.map FilePath.components ↔
      ∃ root ∈ roots, ∃ files, filesOfRoot tree root = .ok files ∧
        components ∈ files.map FilePath.components := by
  constructor
  · intro member
    obtain ⟨path, isPath, rfl⟩ := List.mem_map.mp member
    obtain ⟨root, isRoot, files, found, inFiles⟩ := exists_root_of_mem_modelPaths listed isPath
    exact ⟨root, isRoot, files, found, List.mem_map_of_mem inFiles⟩
  · rintro ⟨root, isRoot, files, found, member⟩
    obtain ⟨file, inFiles, rfl⟩ := List.mem_map.mp member
    obtain ⟨path, isPath, same⟩ := exists_mem_modelPaths listed isRoot found inFiles
    exact List.mem_map.mpr ⟨path, isPath, same⟩

/-- Of two files with the same components that of the first root is listed. -/
theorem modelPaths_of_same_components {first second file twin : FilePath}
    (ofFirst : filesOfRoot tree first = .ok [file])
    (ofSecond : filesOfRoot tree second = .ok [twin])
    (same : file.components = twin.components) :
    modelPaths tree [first, second] = .ok [file] := by
  have found : filesOfRoots tree [first, second] = .ok [file, twin] := by
    rw [filesOfRoots, ofFirst, Result.ok_bind, filesOfRoots, ofSecond]
    rfl
  have sameKey : file.key = twin.key := FilePath.key_eq_iff.mpr same
  have notBefore : (!twin.before file) = true := FilePath.not_before_iff.mpr sameKey.le
  have sorted : [file, twin].Pairwise fun left right => (!right.before left) = true :=
    List.pairwise_pair.mpr notBefore
  rw [modelPaths_eq_ok_iff]
  refine ⟨_, found, ?_⟩
  rw [List.mergeSort_of_pairwise sorted]
  simp [withoutRepeats, FilePath.sameAs_iff.mpr same]

/-- Two listings with the same components have them in the same order. -/
theorem map_components_eq {left right : List FilePath}
    (leftSorted : left.Pairwise fun path later => path.before later = true)
    (rightSorted : right.Pairwise fun path later => path.before later = true)
    (same : ∀ components, components ∈ left.map FilePath.components ↔
      components ∈ right.map FilePath.components) :
    left.map FilePath.components = right.map FilePath.components := by
  have sortedKeys : ∀ {list : List FilePath},
      list.Pairwise (fun path later => path.before later = true) →
        ((list.map FilePath.components).map (·.map Component.key)).Pairwise (· < ·) := by
    intro list sorted
    rw [List.map_map, List.pairwise_map]
    exact sorted.imp FilePath.before_iff.mp
  have sameKeys := (sortedKeys leftSorted).eq_of_mem_iff (sortedKeys rightSorted) fun key => by
    rw [List.mem_map, List.mem_map]
    exact exists_congr fun components => and_congr_left fun _ => same components
  exact List.map_injective_iff.mpr (List.map_injective_iff.mpr Component.key_injective) sameKeys

theorem fileName?_continuedBy {root : FilePath} {names : List String} {last : String}
    (areNames : ∀ name ∈ names, FilePath.IsName name ∧ '/' ∉ name.toList)
    (isLast : names.getLast? = some last) : (root.continuedBy names).fileName? = some last := by
  obtain ⟨front, rfl⟩ := List.getLast?_eq_some_iff.mp isLast
  have nonempty : front ++ [last] ≠ [] := by simp
  rw [FilePath.continuedBy_eq_join areNames root nonempty,
    FilePath.join_names root nonempty fun name member => (areNames name member).1,
    ← List.append_assoc]
  exact FilePath.fileName?_concat _ (areNames last (by simp)).1

theorem extension?_continuedBy {root : FilePath} {names : List String} {last : String}
    (areNames : ∀ name ∈ names, FilePath.IsName name ∧ '/' ∉ name.toList)
    (isLast : names.getLast? = some last) :
    (root.continuedBy names).extension? = (FilePath.splitName last).2 := by
  rw [FilePath.extension?, fileName?_continuedBy areNames isLast]
  rfl

theorem mem_entriesBelow {directory : Location} {names : List String} {entry : Entry}
    (nonempty : names ≠ []) (isEntry : (directory ++ names, entry) ∈ tree.entries) :
    (names, entry) ∈ tree.entriesBelow directory := by
  refine List.mem_filterMap.mpr ⟨_, isEntry, ?_⟩
  rw [below?_eq_some_iff.mpr ⟨nonempty, rfl⟩]
  rfl

theorem isShort_continuedBy_dropLast {root : FilePath} {names : List String}
    (areNames : ∀ name ∈ names, FilePath.IsName name ∧ '/' ∉ name.toList)
    (short : FileTree.isShort (root.continuedBy names) = true) :
    FileTree.isShort (root.continuedBy names.dropLast) = true := by
  rcases List.eq_nil_or_concat' names with rfl | ⟨front, last, rfl⟩
  · exact short
  · rw [List.forall_mem_append] at areNames
    rw [FilePath.continuedBy, List.foldl_append] at short
    rw [List.dropLast_concat]
    exact FileTree.isShort_of_continuedBy areNames.2 short

/-! ## The files of one root -/

section Root

variable {root : FilePath} {files : List FilePath}

theorem filesOfRoot_file {entry : Entry} (noDirectory : tree.isDirectory root = false)
    (isEntry : tree.entryAt root = .ok entry) : filesOfRoot tree root = .ok [root] := by
  obtain ⟨found, isFound⟩ := exists_filesOfRoot isEntry
  obtain ⟨-, alone⟩ := Grows.filesOfRoot_file (Grows.refl tree) noDirectory isFound
  exact alone

/-- What is listed below a directory is listed in another tree, in some order. -/
theorem exists_filesOfRoot_reordered (reordered : Reordered tree other)
    (found : filesOfRoot tree root = .ok files) :
    ∃ twins, filesOfRoot other root = .ok twins ∧ files.Perm twins := by
  rcases filesOfRoot_cases found with
    ⟨directory, isDirectory, followed, rfl⟩ | ⟨entry, noDirectory, isEntry, rfl⟩
  · rw [reordered.follow] at followed
    rw [reordered.isDirectory] at isDirectory
    exact ⟨_, filesOfRoot_directory followed isDirectory, reordered.entries.filterMap _⟩
  · rw [reordered.isDirectory] at noDirectory
    rw [reordered.entryAt] at isEntry
    exact ⟨_, filesOfRoot_file noDirectory isEntry, List.Perm.refl _⟩

/-- A path for which a root stands is followed as its components are walked. -/
theorem follow_eq_walk_of_mem (proper : tree.IsProper)
    (short : tree.isDirectory root = true → SpellsShort tree root)
    (found : filesOfRoot tree root = .ok files) {file : FilePath} (member : file ∈ files) :
    tree.follow file = tree.walk file := by
  rcases filesOfRoot_cases found with
    ⟨directory, isDirectory, followed, rfl⟩ | ⟨entry, -, isEntry, rfl⟩
  · obtain ⟨entry, isEntry, listed⟩ := List.mem_filterMap.mp member
    obtain ⟨names, content, nonempty, rfl, -, -, rfl⟩ := listedModel_eq_some_iff.mp listed
    refine FileTree.follow_eq_walk_continuedBy (proper.areNames isEntry) ?_ followed ?_
    · exact fun name inNames => proper.noNul _ isEntry name (List.mem_append_right _ inNames)
    · refine short isDirectory (names, .file content) ?_
      rw [← FileTree.locationFrom_of_follow followed]
      exact mem_entriesBelow nonempty isEntry
  · obtain rfl := List.mem_singleton.mp member
    obtain ⟨location, followed, -⟩ := FileTree.entryAt_eq_ok_iff.mp isEntry
    rw [followed, FileTree.walk_of_follow followed]

/-- A path is listed below a directory exactly if the directory stands for a file by it. -/
theorem spellsFile_directory_iff (proper : tree.IsProper) (short : SpellsShort tree root)
    (isDirectory : tree.isDirectory root = true) {components : List Component} :
    SpellsFile tree root components ↔ ∃ found ∈ tree.entries, ∃ file,
      listedModel (root.locationFrom tree.current) root found = some file ∧
        file.components = components := by
  constructor
  · intro stands
    cases stands with
    | itself noDirectory =>
        rw [isDirectory] at noDirectory
        cases noDirectory
    | @below names last content _ lies isLast isModel =>
        have nonempty : names ≠ [] := by
          rintro rfl
          cases isLast
        have isEntry := (proper.mem_entries_iff (by simp [nonempty])).mp lies
        have areNames := proper.areNames isEntry
        have isBelow := mem_entriesBelow nonempty isEntry
        refine ⟨_, isEntry, root.continuedBy names, ?_,
          FilePath.components_continuedBy areNames root⟩
        refine listedModel_eq_some_iff.mpr ⟨names, content, nonempty, rfl,
          isShort_continuedBy_dropLast areNames (short _ isBelow), ?_, rfl⟩
        rw [extension?_continuedBy areNames isLast]
        exact isModel
  · rintro ⟨found, isEntry, file, listed, rfl⟩
    obtain ⟨names, content, nonempty, rfl, -, isModel, rfl⟩ := listedModel_eq_some_iff.mp listed
    have areNames := proper.areNames isEntry
    have lies := (proper.mem_entries_iff (by simp [nonempty])).mpr isEntry
    obtain ⟨last, isLast⟩ :=
      Option.ne_none_iff_exists'.mp (mt List.getLast?_eq_none_iff.mp nonempty)
    rw [extension?_continuedBy areNames isLast] at isModel
    rw [FilePath.components_continuedBy areNames]
    exact .below isDirectory lies isLast isModel

/-- The listed files of a root have the components by which it stands for a file. -/
theorem mem_components_filesOfRoot (proper : tree.IsProper)
    (short : tree.isDirectory root = true → SpellsShort tree root)
    (found : filesOfRoot tree root = .ok files) {components : List Component} :
    components ∈ files.map FilePath.components ↔ SpellsFile tree root components := by
  rcases filesOfRoot_cases found with
    ⟨directory, isDirectory, followed, rfl⟩ | ⟨entry, noDirectory, -, rfl⟩
  · rw [spellsFile_directory_iff proper (short isDirectory) isDirectory, List.mem_map,
      FileTree.locationFrom_of_follow followed]
    simp only [List.mem_filterMap]
    constructor
    · rintro ⟨file, ⟨entry, isEntry, listed⟩, same⟩
      exact ⟨entry, isEntry, file, listed, same⟩
    · rintro ⟨entry, isEntry, file, listed, same⟩
      exact ⟨file, ⟨entry, isEntry, listed⟩, same⟩
  · rw [List.map_singleton, List.mem_singleton]
    constructor
    · rintro rfl
      exact .itself noDirectory
    · intro stands
      cases stands with
      | itself _ => rfl
      | below isDirectory _ _ _ =>
          rw [noDirectory] at isDirectory
          cases isDirectory

end Root

/-! ## Roots in any order -/

section Roots

variable (reordered : Reordered tree other) (sameRoots : ∀ root, root ∈ others ↔ root ∈ roots)

include reordered sameRoots

theorem exists_modelPaths_reordered (listed : modelPaths tree roots = .ok paths) :
    ∃ twins, modelPaths other others = .ok twins := by
  have exist := exists_modelPaths_iff.mp ⟨paths, listed⟩
  refine exists_modelPaths_iff.mpr fun root member => ?_
  rw [← reordered.entryAt]
  exact exist root ((sameRoots root).mp member)

/-- A path for which one of the other roots stands in the other tree is one for which a root
stands. -/
theorem exists_root_of_reordered {twins : List FilePath}
    (listed : modelPaths tree roots = .ok paths) (twinsListed : modelPaths other others = .ok twins)
    {twin : FilePath} (member : twin ∈ twins) :
    ∃ root ∈ roots, ∃ files, filesOfRoot tree root = .ok files ∧ twin ∈ files := by
  obtain ⟨root, isOther, otherFiles, foundOther, inFiles⟩ :=
    exists_root_of_mem_modelPaths twinsListed member
  have isRoot := (sameRoots root).mp isOther
  obtain ⟨files, found⟩ :=
    exists_filesOfRoot_iff.mpr (exists_modelPaths_iff.mp ⟨paths, listed⟩ root isRoot)
  obtain ⟨twinFiles, foundTwins, perm⟩ := exists_filesOfRoot_reordered reordered found
  obtain rfl := Except.ok.inj (foundTwins.symm.trans foundOther)
  exact ⟨root, isRoot, files, found, perm.mem_iff.mpr inFiles⟩

end Roots

/-- The same roots stand for the same components, whatever their order. -/
theorem map_components_reordered (reordered : Reordered tree other)
    (sameRoots : ∀ root, root ∈ others ↔ root ∈ roots) {twins : List FilePath}
    (listed : modelPaths tree roots = .ok paths)
    (twinsListed : modelPaths other others = .ok twins) :
    twins.map FilePath.components = paths.map FilePath.components := by
  refine map_components_eq (pairwise_modelPaths twinsListed) (pairwise_modelPaths listed)
    fun components => ?_
  rw [mem_components_modelPaths_iff twinsListed, mem_components_modelPaths_iff listed]
  constructor
  · rintro ⟨root, isOther, files, found, member⟩
    obtain ⟨twinFiles, foundTwins, perm⟩ := exists_filesOfRoot_reordered reordered.symm found
    exact ⟨root, (sameRoots root).mp isOther, twinFiles, foundTwins,
      (perm.map _).mem_iff.mp member⟩
  · rintro ⟨root, isRoot, files, found, member⟩
    obtain ⟨twinFiles, foundTwins, perm⟩ := exists_filesOfRoot_reordered reordered found
    exact ⟨root, (sameRoots root).mpr isRoot, twinFiles, foundTwins,
      (perm.map _).mem_iff.mp member⟩

/-! ## Reading -/

/-- Added classes do not depend on the path that is named if one of them is known. -/
theorem toOption_addDistinct (left right : FilePath) (known found : List ClassDecl) :
    (addDistinct left known found).toOption = (addDistinct right known found).toOption := by
  induction found generalizing known with
  | nil => rfl
  | cons decl rest inductionHypothesis =>
      rw [addDistinct, addDistinct]
      split
      · rfl
      · exact inductionHypothesis _

/-- Files whose texts are read alike give the same classes, or none. -/
theorem toOption_takeFile {left right : FilePath}
    (same : tree.readText left = other.readText right) (known : List ClassDecl) :
    (takeFile tree known left).toOption = (takeFile other known right).toOption := by
  rw [takeFile, takeFile, readFile, readFile, same]
  cases other.readText right with
  | error fault => rfl
  | ok text =>
      show (((readModel text).mapError (.within left)) >>= addDistinct left known).toOption =
        (((readModel text).mapError (.within right)) >>= addDistinct right known).toOption
      cases readModel text with
      | error cause => rfl
      | ok found => exact toOption_addDistinct left right known found

theorem toOption_readFiles (listed : modelPaths tree roots = .ok paths) :
    (readFiles tree roots).1.toOption = (paths.foldlM (takeFile tree) []).toOption := by
  rw [readFiles_eq_bind, listed, Result.ok_bind, readFilesFrom_eq_foldlM]

/-- Listings of the same components are read alike if their paths are followed as their
components are walked. -/
theorem toOption_foldlM_takeFile {twins : List FilePath} (reordered : Reordered tree other)
    (same : twins.map FilePath.components = paths.map FilePath.components)
    (walked : ∀ path ∈ paths, tree.follow path = tree.walk path)
    (twinsWalked : ∀ twin ∈ twins, tree.follow twin = tree.walk twin)
    (known : List ClassDecl) :
    (twins.foldlM (takeFile other) known).toOption =
      (paths.foldlM (takeFile tree) known).toOption := by
  have equal : List.Forall₂ Eq (twins.map FilePath.components) (paths.map FilePath.components) :=
    same ▸ List.forall₂_same.mpr fun _ _ => rfl
  rw [List.forall₂_map_left_iff, List.forall₂_map_right_iff] at equal
  refine Result.toOption_foldlM_congr equal (fun twin isTwin path isPath alike before => ?_) known
  apply toOption_takeFile
  rw [← reordered.readText]
  exact FileTree.readText_of_components alike (twinsWalked twin isTwin) (walked path isPath)

/-- **The listing of a model is canonical.** The files of a model are listed in path order and
without repeats. If every path that continues a root can be opened, their components are those
by which the roots stand for files. Roots in any order and number, and a tree that lists its
entries in any order, lead to the same components, and then to the same classes or in both
cases to none. -/
theorem modelPaths_canonical (proper : tree.IsProper) (listed : modelPaths tree roots = .ok paths) :
    let short := ∀ root ∈ roots, tree.isDirectory root = true → SpellsShort tree root
    paths.Pairwise (fun left right => left.before right = true) ∧
      (short → ∀ components, components ∈ paths.map FilePath.components ↔
        ∃ root ∈ roots, SpellsFile tree root components) ∧
      ∀ other others, Reordered tree other → (∀ root, root ∈ others ↔ root ∈ roots) →
        ∃ twins, modelPaths other others = .ok twins ∧
          twins.map FilePath.components = paths.map FilePath.components ∧
            (short → (readFiles other others).1.toOption = (readFiles tree roots).1.toOption) := by
  intro short
  refine ⟨pairwise_modelPaths listed, fun isShort components => ?_, ?_⟩
  · rw [mem_components_modelPaths_iff listed]
    refine exists_congr fun root => and_congr_right fun isRoot => ?_
    obtain ⟨files, found⟩ :=
      exists_filesOfRoot_iff.mpr (exists_modelPaths_iff.mp ⟨paths, listed⟩ root isRoot)
    rw [← mem_components_filesOfRoot proper (isShort root isRoot) found, found]
    simp
  · intro other others reordered sameRoots
    obtain ⟨twins, twinsListed⟩ := exists_modelPaths_reordered reordered sameRoots listed
    have sameComponents := map_components_reordered reordered sameRoots listed twinsListed
    refine ⟨twins, twinsListed, sameComponents, fun isShort => ?_⟩
    rw [toOption_readFiles twinsListed, toOption_readFiles listed]
    refine toOption_foldlM_takeFile reordered sameComponents (fun path isPath => ?_)
      (fun twin isTwin => ?_) []
    · obtain ⟨root, isRoot, files, found, member⟩ := exists_root_of_mem_modelPaths listed isPath
      exact follow_eq_walk_of_mem proper (isShort root isRoot) found member
    · obtain ⟨root, isRoot, files, found, member⟩ :=
        exists_root_of_reordered reordered sameRoots listed twinsListed isTwin
      exact follow_eq_walk_of_mem proper (isShort root isRoot) found member

/-! ### A folder with two files -/

private def letterFolder : FileTree :=
  (FileTree.layOut {} ["m", "b.xml"] (.file (.text "<model><class name=\"B\"/></model>"))).layOut
    ["m", "a.xml"] (.file (.text "<model><class name=\"A\"/></model>"))

private def turnedFolder : FileTree :=
  { letterFolder with entries := letterFolder.entries.reverse }

private theorem modelPaths_letterFolder :
    modelPaths letterFolder [.ofString "m"] =
      .ok [.ofString "m/a.xml", .ofString "m/b.xml"] := by
  have found : filesOfRoots letterFolder [.ofString "m"] =
      .ok [.ofString "m/a.xml", .ofString "m/b.xml"] := by decide +kernel
  have different : (FilePath.ofString "m/a.xml").sameAs (.ofString "m/b.xml") = false := by
    decide +kernel
  rw [modelPaths_eq_ok_iff]
  refine ⟨_, found, ?_⟩
  rw [List.mergeSort_of_pairwise (by decide +kernel)]
  simp [withoutRepeats, different]

private theorem letterFolder_isProper : letterFolder.IsProper := by
  refine ⟨?_, by decide +kernel, by decide +kernel⟩
  unfold FileTree.HasNames FilePath.IsName
  decide +kernel

/-- A folder is listed once although it is named twice, and in path order although its entries
are listed the other way round. -/
theorem letterFolder_listed_alike :
    ∃ twins, modelPaths turnedFolder [.ofString "m", .ofString "m"] = .ok twins ∧
      twins.map FilePath.components =
        [[.name "m", .name "a.xml"], [.name "m", .name "b.xml"]] ∧
      (readFiles turnedFolder [.ofString "m", .ofString "m"]).1.toOption =
        some [{ name := "A" }, { name := "B" }] := by
  have reordered : Reordered letterFolder turnedFolder :=
    ⟨(List.reverse_perm _).symm, rfl, letterFolder_isProper.once⟩
  have short : ∀ root ∈ [FilePath.ofString "m"], letterFolder.isDirectory root = true →
      SpellsShort letterFolder root := by
    unfold SpellsShort
    decide +kernel
  have read : (readFiles letterFolder [.ofString "m"]).1.toOption =
      some [{ name := "A" }, { name := "B" }] := by
    rw [readFiles, modelPaths_letterFolder]
    decide +kernel
  obtain ⟨-, -, alike⟩ := modelPaths_canonical letterFolder_isProper modelPaths_letterFolder
  obtain ⟨twins, listed, sameComponents, sameClasses⟩ :=
    alike turnedFolder [.ofString "m", .ofString "m"] reordered (by simp)
  refine ⟨twins, listed, sameComponents.trans (by decide +kernel), ?_⟩
  rw [sameClasses short, read]

/-! ### A root that is spelled at length -/

/-- The folder `m`, with a number of pieces behind it that mean nothing. -/
private def dotted (count : Nat) : FilePath := ⟨"m" :: List.replicate count "."⟩

private def dottedFile (count : Nat) : FilePath := (dotted count).continuedBy ["a.xml"]

private def soleModel : Content := .text "<model><class name=\"A\"/></model>"

private def dottedFolder : FileTree :=
  FileTree.layOut {} ["m", "a.xml"] (.file soleModel)

private theorem isName_dotted : ∀ name ∈ ["a.xml"], FilePath.IsName name ∧ '/' ∉ name.toList := by
  unfold FilePath.IsName
  decide

private theorem eq_of_mem_dotted {count : Nat} {piece : String}
    (member : piece ∈ (dotted count).pieces) : piece = "m" ∨ piece = "." :=
  (List.mem_cons.mp member).imp id List.eq_of_mem_replicate

private theorem components_dottedFile (count : Nat) :
    (dottedFile count).components = [.name "m", .name "a.xml"] := by
  have skipped : (List.replicate count ".").filterMap Component.ofPiece? = [] :=
    List.filterMap_eq_nil_iff.mpr fun piece member => by
      rw [List.eq_of_mem_replicate member]
      rfl
  have isName : FilePath.IsName "m" := by
    unfold FilePath.IsName
    decide
  rw [dottedFile, FilePath.components_continuedBy isName_dotted, FilePath.components, dotted,
    FilePath.start_of_isName isName]
  show [] ++ Component.name "m" :: List.filterMap Component.ofPiece? _ ++ _ = _
  rw [skipped]
  rfl

private theorem size_dotted (count : Nat) :
    (dotted count).toString.utf8ByteSize = 2 * count + 1 := by
  induction count with
  | zero => rfl
  | succ count inductionHypothesis =>
      have longer : dotted (count + 1) = ⟨(dotted count).pieces ++ ["."]⟩ := by
        rw [dotted, List.replicate_succ']
        rfl
      have nonempty : (dotted count).pieces ≠ [] := List.cons_ne_nil _ _
      have size : ("/" ++ ".").utf8ByteSize = 2 := rfl
      rw [longer, FilePath.toString_concat nonempty, String.utf8ByteSize_append, size]
      show (dotted count).toString.utf8ByteSize + 2 = _
      omega

private theorem size_dottedFile (count : Nat) :
    (dottedFile count).toString.utf8ByteSize = 2 * count + 7 := by
  have ownBase : (dotted count).base = (dotted count).pieces := by
    refine if_neg fun atEnd => ?_
    rcases eq_of_mem_dotted (List.mem_of_getLast? atEnd) with same | same
    · exact absurd same (by decide)
    · exact absurd same (by decide)
  have inParts : dottedFile count = ⟨(dotted count).pieces ++ ["a.xml"]⟩ := by
    rw [dottedFile, FilePath.continuedBy_eq_join isName_dotted _ (List.cons_ne_nil _ _),
      FilePath.join_names _ (List.cons_ne_nil _ _) fun name member => (isName_dotted name member).1,
      ownBase]
  have nonempty : (dotted count).pieces ≠ [] := List.cons_ne_nil _ _
  have size : ("/" ++ "a.xml").utf8ByteSize = 6 := rfl
  rw [inParts, FilePath.toString_concat nonempty, String.utf8ByteSize_append, size]
  show (dotted count).toString.utf8ByteSize + 6 = _
  rw [size_dotted]

private theorem follow_dotted {count : Nat} (small : 2 * count + 1 ≤ FileTree.longestPath) :
    dottedFolder.follow (dotted count) = .ok ["m"] := by
  have checked : FileTree.checkPath (dotted count) = .ok () := by
    refine FileTree.checkPath_eq_ok_iff.mpr ⟨fun hasNul => ?_, fun isEmpty => ?_, ?_⟩
    · obtain ⟨piece, member, inPiece⟩ := (FilePath.mem_toString_iff (by decide)).mp hasNul
      rcases eq_of_mem_dotted member with rfl | rfl
      · exact absurd inPiece (by decide)
      · exact absurd inPiece (by decide)
    · have size := size_dotted count
      rw [isEmpty] at size
      cases size
    · rw [FileTree.isShort, size_dotted]
      exact decide_eq_true small
  have overDots : ∀ dots : Nat,
      (List.replicate dots ".").foldlM dottedFolder.stepInto ["m"] = .ok ["m"] := by
    intro dots
    induction dots with
    | zero => rfl
    | succ dots inductionHypothesis =>
        have stays : dottedFolder.stepInto ["m"] "." = .ok ["m"] := by decide +kernel
        rw [List.replicate_succ, List.foldlM_cons, stays]
        exact inductionHypothesis
  have entered : dottedFolder.stepInto [] "m" = .ok ["m"] := by decide +kernel
  rw [FileTree.follow, checked, Result.ok_bind]
  show ("m" :: List.replicate count ".").foldlM dottedFolder.stepInto _ = _
  have start : dottedFolder.startOf (dotted count) = [] := by
    cases count <;> rfl
  rw [start, List.foldlM_cons, entered]
  exact overDots count

private theorem filesOfRoot_dotted {count : Nat} (small : 2 * count + 1 ≤ FileTree.longestPath) :
    filesOfRoot dottedFolder (dotted count) = .ok [dottedFile count] := by
  have followed := follow_dotted small
  have isDirectory : dottedFolder.isDirectory (dotted count) = true :=
    FileTree.isDirectory_iff.mpr ⟨_, followed, by decide +kernel⟩
  have entries : dottedFolder.entries =
      [(["m", "a.xml"], .file soleModel), (["m"], .directory)] := by
    decide +kernel
  have entered : FileTree.isShort (dotted count) = true := by
    rw [FileTree.isShort, size_dotted]
    exact decide_eq_true small
  have isModel : (dottedFile count).extension? = some modelSuffix :=
    (extension?_continuedBy isName_dotted rfl).trans (by decide +kernel)
  have listed : listedModel ["m"] (dotted count) (["m", "a.xml"], .file soleModel) =
      some (dottedFile count) :=
    listedModel_eq_some_iff.mpr ⟨["a.xml"], _, List.cons_ne_nil _ _, rfl, entered, isModel, rfl⟩
  rw [filesOfRoot_directory followed isDirectory, entries, List.filterMap_cons_some listed]
  rfl

/-- A folder that is named shortly and at length is listed by the first of the two names, and
its file is read by the short one only. -/
theorem longer_name_is_not_read :
    (modelPaths dottedFolder [dotted 0, dotted 2045] = .ok [dottedFile 0] ∧
      modelPaths dottedFolder [dotted 2045, dotted 0] = .ok [dottedFile 2045]) ∧
      (dottedFile 0).components = (dottedFile 2045).components ∧
      (readFiles dottedFolder [dotted 0, dotted 2045]).1 = .ok [{ name := "A" }] ∧
      (readFiles dottedFolder [dotted 2045, dotted 0]).1.toOption = none := by
  have ofShort : filesOfRoot dottedFolder (dotted 0) = .ok [dottedFile 0] :=
    filesOfRoot_dotted (by decide)
  have ofLong : filesOfRoot dottedFolder (dotted 2045) = .ok [dottedFile 2045] :=
    filesOfRoot_dotted (by decide)
  have same : (dottedFile 0).components = (dottedFile 2045).components := by
    rw [components_dottedFile, components_dottedFile]
  have shortFirst := modelPaths_of_same_components ofShort ofLong same
  have longFirst := modelPaths_of_same_components ofLong ofShort same.symm
  refine ⟨⟨shortFirst, longFirst⟩, same, ?_, ?_⟩
  · rw [readFiles, shortFirst]
    decide +kernel
  · cases read : (readFiles dottedFolder [dotted 2045, dotted 0]).1 with
    | error cause => rfl
    | ok classes =>
        obtain ⟨paths, listed, together⟩ := exists_readFiles_iff.mp ⟨classes, read⟩
        obtain rfl := Except.ok.inj (longFirst.symm.trans listed)
        obtain ⟨found, text, isText, -⟩ := together.held _ (List.mem_singleton_self _)
        obtain ⟨location, followed, -⟩ := FileTree.readText_eq_ok_iff.mp isText
        have checked := (FileTree.follow_eq_ok_iff.mp followed).1
        have short := (FileTree.checkPath_eq_ok_iff.mp checked).2.2
        rw [FileTree.isShort, size_dottedFile] at short
        cases short

end Model
end EntityGen
