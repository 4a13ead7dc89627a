import EntityGen.Proofs.Model.Fault
import EntityGen.Proofs.Model.Listing

/-!
Contract: what reading the files of a model comes to.

Owns:
- when every root stands for files, and which root is the first that does not;
- when files are read together, and which of them is the first that is not;
- the classes that are read, and the one path that a failure names.

Does not own: the order in which files are listed, and the faults of one text.

Roots are looked up before any file is read, and the files are read one after the other. The
classes known at a file are those of the files before it, which is what makes a class that
is declared twice the fault of the later file.
-/

namespace EntityGen.Model

variable {tree : FileTree}

/-! ## Roots -/

theorem filesOfRoot_eq_error_iff {root : FilePath} {failure : ModelError} :
    filesOfRoot tree root = .error failure ↔
      ∃ fault, tree.entryAt root = .error fault ∧ failure = .within root (.unreadable fault) := by
  cases isEntry : tree.entryAt root with
  | ok entry =>
      obtain ⟨files, found⟩ := exists_filesOfRoot isEntry
      simp [found]
  | error fault =>
      have noDirectory : tree.isDirectory root = false := by
        rw [FileTree.isDirectory, isEntry]
      have failed : filesOfRoot tree root = .error (.within root (.unreadable fault)) := by
        rw [filesOfRoot, noDirectory, if_neg Bool.false_ne_true, isEntry]
        rfl
      simp [failed, eq_comm]

theorem exists_filesOfRoot_iff {root : FilePath} :
    (∃ files, filesOfRoot tree root = .ok files) ↔ ∃ entry, tree.entryAt root = .ok entry := by
  refine ⟨fun ⟨files, found⟩ => ?_, fun ⟨entry, isEntry⟩ => exists_filesOfRoot isEntry⟩
  cases isEntry : tree.entryAt root with
  | ok entry => exact ⟨entry, rfl⟩
  | error fault =>
      rw [filesOfRoot_eq_error_iff.mpr ⟨fault, isEntry, rfl⟩] at found
      cases found

theorem filesOfRoots_eq_mapM (tree : FileTree) (roots : List FilePath) :
    filesOfRoots tree roots = (roots.mapM (filesOfRoot tree)).map List.flatten := by
  induction roots with
  | nil => rfl
  | cons root others inductionHypothesis =>
      rw [filesOfRoots, inductionHypothesis, List.mapM_cons, Result.map_bind]
      refine Result.bind_congr_of_ok fun first _ => ?_
      cases others.mapM (filesOfRoot tree) <;> rfl

/-- The files of roots are listed exactly if every root leads to an entry. -/
theorem exists_modelPaths_iff {roots : List FilePath} :
    (∃ paths, modelPaths tree roots = .ok paths) ↔
      ∀ root ∈ roots, ∃ entry, tree.entryAt root = .ok entry := by
  constructor
  · rintro ⟨paths, listed⟩ root member
    obtain ⟨files, found, -⟩ := modelPaths_eq_ok_iff.mp listed
    rw [filesOfRoots_eq_mapM] at found
    obtain ⟨lists, each, -⟩ := Result.map_eq_ok_iff.mp found
    obtain ⟨list, -, ofRoot⟩ :=
      Result.exists_of_mem_forall₂ (Result.mapM_eq_ok_iff.mp each).flip member
    exact exists_filesOfRoot_iff.mp ⟨list, ofRoot⟩
  · intro exist
    obtain ⟨files, found⟩ := exists_filesOfRoots exist
    exact ⟨_, modelPaths_eq_ok_iff.mpr ⟨files, found, rfl⟩⟩

/-! ## One file -/

/-- The file to which a path leads is a text that declares these classes. -/
def FileHolds (tree : FileTree) (path : FilePath) (classes : List ClassDecl) : Prop :=
  ∃ text, tree.readText path = .ok text ∧ readModel text = .ok classes

theorem readFile_eq_ok_iff {path : FilePath} {classes : List ClassDecl} :
    readFile tree path = .ok classes ↔ FileHolds tree path classes := by
  rw [readFile, Result.bind_eq_ok_iff, FileHolds]
  simp only [Result.mapError_eq_ok_iff]

theorem FileHolds.distinct {path : FilePath} {classes : List ClassDecl}
    (holds : FileHolds tree path classes) : (classes.map (·.name)).Nodup := by
  obtain ⟨text, -, read⟩ := holds
  exact (sound_of_readModel read).distinct

/-- Files that are texts of models, no two of which declare the same name. -/
structure ReadTogether (tree : FileTree) (paths : List FilePath) : Prop where
  held : ∀ path ∈ paths, ∃ classes, FileHolds tree path classes
  apart : paths.Pairwise (DeclareApart tree)

theorem exists_readFilesFrom_iff {paths : List FilePath} :
    (∃ classes, (readFilesFrom tree [] paths).1 = .ok classes) ↔ ReadTogether tree paths := by
  constructor
  · rintro ⟨classes, read⟩
    refine ⟨fun path member => ?_, (declareApart_of_readFilesFrom (by simp) read).2⟩
    obtain ⟨found, ofPath⟩ := exists_readFile_of_readFilesFrom read path member
    exact ⟨found, readFile_eq_ok_iff.mp ofPath⟩
  · rintro ⟨held, apart⟩
    cases read : (readFilesFrom tree [] paths).1 with
    | ok classes => exact ⟨classes, rfl⟩
    | error cause =>
        obtain ⟨path, member, failed⟩ :=
          exists_readFile_eq_error (by simp) (by simp) apart read
        obtain ⟨classes, holds⟩ := held path member
        rw [readFile_eq_ok_iff.mpr holds] at failed
        cases failed

/-- The classes so far with those of the file to which a path leads. -/
def takeFile (tree : FileTree) (known : List ClassDecl) (path : FilePath) :
    Except ModelError (List ClassDecl) :=
  readFile tree path >>= addDistinct path known

theorem readFilesFrom_eq_foldlM (known : List ClassDecl) (paths : List FilePath) :
    (readFilesFrom tree known paths).1 = paths.foldlM (takeFile tree) known := by
  induction paths generalizing known with
  | nil => rfl
  | cons path others inductionHypothesis =>
      rw [List.foldlM_cons, takeFile, readFilesFrom]
      cases readFile tree path with
      | error cause => rfl
      | ok found =>
          rw [Result.ok_bind]
          dsimp only
          cases addDistinct path known found with
          | error cause => rfl
          | ok extended => exact inductionHypothesis extended

theorem readFiles_eq_bind (tree : FileTree) (roots : List FilePath) :
    (readFiles tree roots).1 =
      modelPaths tree roots >>= fun paths => (readFilesFrom tree [] paths).1 := by
  rw [readFiles]
  cases modelPaths tree roots <;> rfl

theorem exists_readFiles_iff {roots : List FilePath} :
    (∃ classes, (readFiles tree roots).1 = .ok classes) ↔
      ∃ paths, modelPaths tree roots = .ok paths ∧ ReadTogether tree paths := by
  simp only [readFiles_eq_bind, Result.bind_eq_ok_iff]
  rw [exists_comm]
  simp only [exists_and_left, exists_readFilesFrom_iff]

end EntityGen.Model
