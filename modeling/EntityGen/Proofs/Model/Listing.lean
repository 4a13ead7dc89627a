import EntityGen.Proofs.File.Components
import EntityGen.Proofs.Model.Files
import EntityGen.Proofs.Model.Sound

/-!
Contract: the files of a model, as they are listed and read one after the other.

Owns:
- which paths are listed for the roots of a model, and in which order;
- the places to which these paths lead, behind the places of their roots;
- when reading the listed files meets a name that was declared before.

Does not own: places to which several of the paths lead.

Paths of the same components are listed once. That the order of paths is linear by
their keys is what brings them next to each other before repeats are dropped.
-/

namespace EntityGen

open FileTree (Grows)

/-- Every entry of a tree lies behind names that can be written in a path, as everything
in a file system does. -/
def FileTree.HasNames (tree : FileTree) : Prop :=
  ∀ found ∈ tree.entries, ∀ name ∈ found.1, FilePath.IsName name ∧ '/' ∉ name.toList

namespace Model

/-! ## Dropping repeats -/

theorem pairwise_withoutRepeats {paths : List FilePath}
    (sorted : paths.Pairwise fun left right => left.key ≤ right.key) :
    (withoutRepeats paths).Pairwise fun left right => left.before right = true := by
  fun_induction withoutRepeats paths with
  | case1 => exact List.Pairwise.nil
  | case2 last => exact List.pairwise_singleton _ _
  | case3 first second others same inductionHypothesis =>
      exact inductionHypothesis
        (sorted.sublist ((List.sublist_cons_self second others).cons_cons first))
  | case4 first second others different inductionHypothesis =>
      rw [List.pairwise_cons] at sorted
      refine List.pairwise_cons.mpr ⟨fun later member => ?_, inductionHypothesis sorted.2⟩
      have notSame : first.key ≠ second.key := by
        rwa [ne_eq, FilePath.key_eq_iff, ← FilePath.sameAs_iff]
      have firstBefore : first.key < second.key :=
        lt_of_le_of_ne (sorted.1 second (List.mem_cons_self ..)) notSame
      rw [FilePath.before_iff]
      rcases List.mem_cons.mp (mem_of_mem_withoutRepeats member) with rfl | inOthers
      · exact firstBefore
      · exact firstBefore.trans_le ((List.pairwise_cons.mp sorted.2).1 later inOthers)

theorem exists_mem_withoutRepeats {paths : List FilePath} {path : FilePath}
    (member : path ∈ paths) :
    ∃ kept ∈ withoutRepeats paths, kept.components = path.components := by
  fun_induction withoutRepeats paths generalizing path with
  | case1 => cases member
  | case2 last => exact ⟨path, member, rfl⟩
  | case3 first second others same inductionHypothesis =>
      rw [List.mem_cons, List.mem_cons] at member
      rcases member with rfl | rfl | inOthers
      · exact inductionHypothesis (List.mem_cons_self ..)
      · obtain ⟨kept, isKept, alike⟩ := inductionHypothesis (List.mem_cons_self ..)
        exact ⟨kept, isKept, alike.trans (FilePath.sameAs_iff.mp same)⟩
      · exact inductionHypothesis (List.mem_cons_of_mem first inOthers)
  | case4 first second others different inductionHypothesis =>
      rcases List.mem_cons.mp member with rfl | inOthers
      · exact ⟨path, List.mem_cons_self .., rfl⟩
      · obtain ⟨kept, isKept, alike⟩ := inductionHypothesis inOthers
        exact ⟨kept, List.mem_cons_of_mem first isKept, alike⟩

/-! ## Listing -/

section Listing

variable {tree : FileTree} {root : FilePath} {roots files paths : List FilePath}

theorem exists_filesOfRoot {entry : Entry} (isEntry : tree.entryAt root = .ok entry) :
    ∃ files, filesOfRoot tree root = .ok files := by
  cases isDirectory : tree.isDirectory root with
  | true =>
      obtain ⟨directory, followed, -⟩ := FileTree.isDirectory_iff.mp isDirectory
      exact ⟨_, filesOfRoot_directory followed isDirectory⟩
  | false =>
      refine ⟨[root], ?_⟩
      rw [filesOfRoot, isDirectory, if_neg Bool.false_ne_true, isEntry]
      rfl

theorem exists_filesOfRoots (exist : ∀ root ∈ roots, ∃ entry, tree.entryAt root = .ok entry) :
    ∃ files, filesOfRoots tree roots = .ok files := by
  induction roots with
  | nil => exact ⟨[], rfl⟩
  | cons root others inductionHypothesis =>
      rw [List.forall_mem_cons] at exist
      obtain ⟨entry, isEntry⟩ := exist.1
      obtain ⟨first, ofRoot⟩ := exists_filesOfRoot isEntry
      obtain ⟨rest, ofOthers⟩ := inductionHypothesis exist.2
      refine ⟨first ++ rest, ?_⟩
      rw [filesOfRoots, ofRoot, Result.ok_bind, ofOthers]
      rfl

theorem mem_filesOfRoots_iff (found : filesOfRoots tree roots = .ok files) {file : FilePath} :
    file ∈ files ↔
      ∃ root ∈ roots, ∃ ofRoot, filesOfRoot tree root = .ok ofRoot ∧ file ∈ ofRoot := by
  induction roots generalizing files with
  | nil =>
      obtain rfl := Except.ok.inj found
      simp
  | cons root others inductionHypothesis =>
      obtain ⟨first, ofFirst, found⟩ := Result.bind_eq_ok_iff.mp found
      obtain ⟨rest, ofOthers, same⟩ := Result.bind_eq_ok_iff.mp found
      obtain rfl := Except.ok.inj same
      rw [List.mem_append, inductionHypothesis ofOthers, List.exists_mem_cons_iff, ofFirst]
      simp

theorem modelPaths_eq_ok_iff :
    modelPaths tree roots = .ok paths ↔ ∃ files, filesOfRoots tree roots = .ok files ∧
      paths = withoutRepeats (files.mergeSort fun left right => !right.before left) := by
  rw [modelPaths, Result.map_eq_ok_iff]
  simp only [eq_comm]

/-- The files of a model are listed in path order, no two by the same components. -/
theorem pairwise_modelPaths (listed : modelPaths tree roots = .ok paths) :
    paths.Pairwise fun left right => left.before right = true := by
  obtain ⟨files, -, rfl⟩ := modelPaths_eq_ok_iff.mp listed
  exact pairwise_withoutRepeats (FilePath.pairwise_mergeSort files)

/-- A listed path is one for which a root stands. -/
theorem exists_root_of_mem_modelPaths (listed : modelPaths tree roots = .ok paths)
    {path : FilePath} (member : path ∈ paths) :
    ∃ root ∈ roots, ∃ ofRoot, filesOfRoot tree root = .ok ofRoot ∧ path ∈ ofRoot := by
  obtain ⟨files, found, rfl⟩ := modelPaths_eq_ok_iff.mp listed
  exact (mem_filesOfRoots_iff found).mp (List.mem_mergeSort.mp (mem_of_mem_withoutRepeats member))

/-- Every path for which a root stands is listed, in one spelling of its components. -/
theorem exists_mem_modelPaths (listed : modelPaths tree roots = .ok paths) (isRoot : root ∈ roots)
    (ofRoot : filesOfRoot tree root = .ok files) {file : FilePath} (member : file ∈ files) :
    ∃ path ∈ paths, path.components = file.components := by
  obtain ⟨all, found, rfl⟩ := modelPaths_eq_ok_iff.mp listed
  apply exists_mem_withoutRepeats
  rw [List.mem_mergeSort, mem_filesOfRoots_iff found]
  exact ⟨root, isRoot, files, ofRoot, member⟩

/-- A root stands for the models below it, or for itself. -/
theorem filesOfRoot_cases (found : filesOfRoot tree root = .ok files) :
    (∃ directory, tree.isDirectory root = true ∧ tree.follow root = .ok directory ∧
        files = tree.entries.filterMap (listedModel directory root)) ∨
      ∃ entry, tree.isDirectory root = false ∧ tree.entryAt root = .ok entry ∧
        files = [root] := by
  cases isDirectory : tree.isDirectory root with
  | true =>
      obtain ⟨directory, followed, -⟩ := FileTree.isDirectory_iff.mp isDirectory
      rw [filesOfRoot_directory followed isDirectory] at found
      exact .inl ⟨directory, rfl, followed, (Except.ok.inj found).symm⟩
  | false =>
      rw [filesOfRoot, isDirectory, if_neg Bool.false_ne_true] at found
      obtain ⟨entry, isEntry, rfl⟩ := Result.map_eq_ok_iff.mp found
      exact .inr ⟨entry, rfl, Result.mapError_eq_ok_iff.mp isEntry, rfl⟩

/-- A file for which a root stands continues the components and the place of the root by
the same names. -/
theorem exists_names_of_mem_filesOfRoot (hasNames : tree.HasNames)
    (found : filesOfRoot tree root = .ok files) {file : FilePath} (member : file ∈ files) :
    ∃ names, file.components = root.components ++ names.map Component.name ∧
      file.locationFrom tree.current = root.locationFrom tree.current ++ names := by
  rcases filesOfRoot_cases found with ⟨directory, -, -, rfl⟩ | ⟨entry, -, -, rfl⟩
  · obtain ⟨entry, isEntry, listed⟩ := List.mem_filterMap.mp member
    obtain ⟨names, content, -, rfl, -, -, rfl⟩ := listedModel_eq_some_iff.mp listed
    have areNames : ∀ name ∈ names, FilePath.IsName name ∧ '/' ∉ name.toList := by
      intro name inNames
      apply hasNames _ isEntry
      exact List.mem_append_right directory inNames
    exact ⟨names, FilePath.components_continuedBy areNames root,
      FilePath.locationFrom_continuedBy areNames root tree.current⟩
  · obtain rfl := List.mem_singleton.mp member
    exact ⟨[], by simp, by simp⟩

end Listing

/-! ## Reading -/

/-- The file to which a path leads is read, and declares a class of this name. -/
def PathDeclares (tree : FileTree) (path : FilePath) (name : String) : Prop :=
  ∃ classes, readFile tree path = .ok classes ∧ ∃ decl ∈ classes, decl.name = name

/-- No name is declared in both of the files to which two paths lead. -/
def DeclareApart (tree : FileTree) (left right : FilePath) : Prop :=
  ∀ name, ¬ (PathDeclares tree left name ∧ PathDeclares tree right name)

instance (tree : FileTree) : Std.Symm (DeclareApart tree) :=
  ⟨fun _ _ apart name both => apart name both.symm⟩

section Reading

variable {tree : FileTree} {path : FilePath} {paths : List FilePath}
variable {known found classes extended : List ClassDecl}

theorem pathDeclares_iff (read : readFile tree path = .ok found) {name : String} :
    PathDeclares tree path name ↔ name ∈ found.map (·.name) := by
  rw [List.mem_map]
  constructor
  · rintro ⟨classes, alsoRead, declared⟩
    rw [read] at alsoRead
    obtain rfl := Except.ok.inj alsoRead
    exact declared
  · exact fun declared => ⟨found, read, declared⟩

theorem exists_readFile_of_readFilesFrom (read : (readFilesFrom tree known paths).1 = .ok classes) :
    ∀ path ∈ paths, ∃ found, readFile tree path = .ok found := by
  induction paths generalizing known with
  | nil => simp
  | cons path others inductionHypothesis =>
      obtain ⟨found, extended, ofPath, -, ofOthers⟩ := readFilesFrom_cons_eq_ok_iff.mp read
      exact List.forall_mem_cons.mpr ⟨⟨found, ofPath⟩, inductionHypothesis ofOthers⟩

/-- The classes of a file are added to those known unless one of them is known. -/
theorem addDistinct_of_readFile (knownDistinct : (known.map (·.name)).Nodup)
    (read : readFile tree path = .ok found) :
    addDistinct path known found = .ok extended ↔
      extended = known ++ found ∧ ∀ name ∈ known.map (·.name), ¬ PathDeclares tree path name := by
  obtain ⟨text, -, ofText⟩ := Result.bind_eq_ok_iff.mp read
  have foundDistinct := (sound_of_readModel (Result.mapError_eq_ok_iff.mp ofText)).distinct
  simp only [addDistinct_eq_ok_iff knownDistinct, pathDeclares_iff read, List.map_append]
  apply and_congr_right
  intro _
  exact ⟨fun distinct name isKnown => List.disjoint_of_nodup_append distinct isKnown,
    fun apart => List.Nodup.append knownDistinct foundDistinct fun name => apart name⟩

/-- Files that are read one after the other declare names of their own. -/
theorem declareApart_of_readFilesFrom (knownDistinct : (known.map (·.name)).Nodup)
    (read : (readFilesFrom tree known paths).1 = .ok classes) :
    (∀ path ∈ paths, ∀ name ∈ known.map (·.name), ¬ PathDeclares tree path name) ∧
      paths.Pairwise (DeclareApart tree) := by
  induction paths generalizing known with
  | nil => exact ⟨by simp, List.Pairwise.nil⟩
  | cons path others inductionHypothesis =>
      obtain ⟨found, extended, ofPath, added, ofOthers⟩ := readFilesFrom_cons_eq_ok_iff.mp read
      have distinct := ((addDistinct_eq_ok_iff knownDistinct).mp added).2
      obtain ⟨rfl, isNew⟩ := (addDistinct_of_readFile knownDistinct ofPath).mp added
      obtain ⟨othersNew, othersApart⟩ := inductionHypothesis distinct ofOthers
      rw [List.map_append] at othersNew
      constructor
      · refine List.forall_mem_cons.mpr ⟨isNew, fun other member name isKnown => ?_⟩
        exact othersNew other member name (List.mem_append_left _ isKnown)
      · refine List.pairwise_cons.mpr ⟨fun other member name both => ?_, othersApart⟩
        have inFound := (pathDeclares_iff ofPath).mp both.1
        exact othersNew other member name (List.mem_append_right _ inFound) both.2

/-- Files that declare names of their own are read one after the other unless one of
them cannot be read. -/
theorem exists_readFile_eq_error {cause : ModelError}
    (knownDistinct : (known.map (·.name)).Nodup)
    (areNew : ∀ path ∈ paths, ∀ name ∈ known.map (·.name), ¬ PathDeclares tree path name)
    (apart : paths.Pairwise (DeclareApart tree))
    (failed : (readFilesFrom tree known paths).1 = .error cause) :
    ∃ path ∈ paths, readFile tree path = .error cause := by
  induction paths generalizing known with
  | nil => cases failed
  | cons path others inductionHypothesis =>
      rw [List.forall_mem_cons] at areNew
      rw [List.pairwise_cons] at apart
      rw [readFilesFrom] at failed
      split at failed
      · next refused ofPath =>
          obtain rfl := Except.error.inj failed
          exact ⟨path, List.mem_cons_self .., ofPath⟩
      · next found ofPath =>
          have added : addDistinct path known found = .ok (known ++ found) :=
            (addDistinct_of_readFile knownDistinct ofPath).mpr ⟨rfl, areNew.1⟩
          have distinct := ((addDistinct_eq_ok_iff knownDistinct).mp added).2
          have othersNew : ∀ other ∈ others, ∀ name ∈ (known ++ found).map (·.name),
              ¬ PathDeclares tree other name := by
            intro other member
            rw [List.map_append, List.forall_mem_append]
            refine ⟨areNew.2 other member, fun name inFound declares => ?_⟩
            exact apart.1 other member name ⟨(pathDeclares_iff ofPath).mpr inFound, declares⟩
          rw [added] at failed
          obtain ⟨refused, member, ofOther⟩ := inductionHypothesis distinct othersNew apart.2 failed
          exact ⟨refused, List.mem_cons_of_mem path member, ofOther⟩

end Reading

end Model
end EntityGen
