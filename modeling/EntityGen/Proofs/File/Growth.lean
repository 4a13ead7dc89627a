import EntityGen.Proofs.File.Access
import Mathlib.Data.List.TakeWhile

/-!
Contract: file operations in a tree that has grown.

Owns:
- `Grows`, trees in which directories and files stay what they were;
- paths that lead on in a grown tree;
- operations that are done again where they have been done before.

Does not own: what the files hold.

Whether a path can be followed depends on the directories along it, and no
operation takes a directory away. What succeeded once therefore succeeds again,
and a directory that was made is found instead of made.
-/

namespace EntityGen.FileTree

/-! ## Growth -/

/-- Directories of `before` are directories in `after`, and files are files,
whatever they hold. -/
structure Grows (before after : FileTree) : Prop where
  current : after.current = before.current
  directory : ∀ location, before.lookup location = some .directory →
    after.lookup location = some .directory
  file : ∀ location, (before.files location).isSome → (after.files location).isSome

theorem files_eq_some_iff {tree : FileTree} {location : Location} {content : Content} :
    tree.files location = some content ↔ tree.lookup location = some (.file content) := by
  unfold files
  cases tree.lookup location with
  | none => simp
  | some entry => cases entry <;> simp

theorem lookup_ne_directory_of_file {tree : FileTree} {location : Location}
    (isFile : (tree.files location).isSome) : tree.lookup location ≠ some .directory := by
  obtain ⟨content, holds⟩ := Option.isSome_iff_exists.mp isFile
  rw [files_eq_some_iff.mp holds]
  simp

namespace Grows

theorem refl (tree : FileTree) : Grows tree tree :=
  ⟨rfl, fun _ isDirectory => isDirectory, fun _ isFile => isFile⟩

theorem trans {first second third : FileTree} (earlier : Grows first second)
    (later : Grows second third) : Grows first third :=
  ⟨later.current.trans earlier.current,
    fun location isDirectory => later.directory location (earlier.directory location isDirectory),
    fun location isFile => later.file location (earlier.file location isFile)⟩

end Grows

theorem OnlyDirectoriesAdded.grows {before after : FileTree}
    (added : OnlyDirectoriesAdded before after) : Grows before after := by
  refine ⟨added.current, fun location isDirectory => ?_, fun location isFile => ?_⟩
  · rcases added.lookup location with same | ⟨absent, -⟩
    · exact same.trans isDirectory
    · rw [absent] at isDirectory
      cases isDirectory
  · rw [added.files]
    exact isFile

section Place

variable {tree : FileTree} {location : Location}

theorem grows_place_file (noDirectory : tree.lookup location ≠ some .directory) (text : String) :
    Grows tree (tree.place location (.file (.text text))) := by
  have notRoot := ne_nil_of_lookup_ne noDirectory
  refine ⟨rfl, fun other isDirectory => ?_, fun other isFile => ?_⟩
  · have different : other ≠ location := by
      rintro rfl
      exact noDirectory isDirectory
    rw [lookup_place notRoot, if_neg different]
    exact isDirectory
  · rw [files_place notRoot, Files.write]
    by_cases same : other = location
    · simp [same]
    · rw [if_neg same]
      exact isFile

end Place

section Follow

variable {before after : FileTree} {location reached : Location}

theorem lookup_of_stepInto {tree : FileTree} {piece : String}
    (entered : tree.stepInto location piece = .ok reached) :
    tree.lookup location = some .directory := by
  unfold stepInto at entered
  split at entered
  · cases entered
  · cases entered
  · assumption

theorem Grows.stepInto (grown : Grows before after) {piece : String}
    (entered : before.stepInto location piece = .ok reached) :
    after.stepInto location piece = .ok reached := by
  have isDirectory := lookup_of_stepInto entered
  have stillDirectory := grown.directory location isDirectory
  unfold FileTree.stepInto at entered ⊢
  rw [isDirectory] at entered
  rw [stillDirectory]
  exact entered

theorem Grows.foldlM_stepInto (grown : Grows before after) {pieces : List String}
    (followed : pieces.foldlM before.stepInto location = .ok reached) :
    pieces.foldlM after.stepInto location = .ok reached := by
  induction pieces generalizing location with
  | nil => exact followed
  | cons piece others inductionHypothesis =>
      rw [List.foldlM_cons] at followed
      obtain ⟨next, entered, rest⟩ := Result.bind_eq_ok_iff.mp followed
      rw [List.foldlM_cons, grown.stepInto entered]
      exact inductionHypothesis rest

theorem Grows.startOf (grown : Grows before after) (path : FilePath) :
    after.startOf path = before.startOf path := by
  unfold FileTree.startOf
  rw [grown.current]

theorem Grows.locationFrom (grown : Grows before after) (path : FilePath) :
    path.locationFrom after.current = path.locationFrom before.current := by
  rw [grown.current]

theorem follow_eq_ok_iff {tree : FileTree} {path : FilePath} :
    tree.follow path = .ok reached ↔
      checkPath path = .ok () ∧ path.pieces.foldlM tree.stepInto (tree.startOf path) =
        .ok reached := by
  unfold follow
  rw [Result.bind_eq_ok_iff]
  constructor
  · rintro ⟨_, checked, followed⟩
    exact ⟨checked, followed⟩
  · rintro ⟨checked, followed⟩
    exact ⟨(), checked, followed⟩

theorem locationFrom_of_follow {tree : FileTree} {path : FilePath}
    (followed : tree.follow path = .ok reached) : reached = path.locationFrom tree.current :=
  foldlM_stepInto_eq_ok (follow_eq_ok_iff.mp followed).2

theorem Grows.follow (grown : Grows before after) {path : FilePath}
    (followed : before.follow path = .ok reached) : after.follow path = .ok reached := by
  rw [follow_eq_ok_iff] at followed ⊢
  rw [grown.startOf]
  exact ⟨followed.1, grown.foldlM_stepInto followed.2⟩

end Follow

theorem Grows.lastStep {before after : FileTree} (grown : Grows before after) {path : FilePath}
    {above : Location} {last : Option String}
    (found : before.lastStep path = .ok (above, last)) :
    after.lastStep path = .ok (above, last) := by
  unfold FileTree.lastStep at found ⊢
  obtain ⟨_, checked, found⟩ := Result.bind_eq_ok_iff.mp found
  obtain ⟨reached, followed, found⟩ := Result.bind_eq_ok_iff.mp found
  rw [checked, Result.ok_bind]
  dsimp only
  rw [grown.startOf, grown.foldlM_stepInto followed, Result.ok_bind]
  split at found
  · next isDirectory =>
      rw [grown.directory reached isDirectory]
      exact found
  · cases found
  · cases found

theorem entryAt_eq_ok_iff {tree : FileTree} {path : FilePath} {entry : Entry} :
    tree.entryAt path = .ok entry ↔
      ∃ location, tree.follow path = .ok location ∧ tree.lookup location = some entry := by
  unfold entryAt
  rw [Result.bind_eq_ok_iff]
  refine exists_congr fun location => and_congr_right fun _ => ?_
  cases tree.lookup location <;> simp

theorem isDirectory_iff {tree : FileTree} {path : FilePath} :
    tree.isDirectory path = true ↔
      ∃ location, tree.follow path = .ok location ∧ tree.lookup location = some .directory := by
  rw [← entryAt_eq_ok_iff]
  unfold isDirectory
  split
  · next isEntry => simp [isEntry]
  · next other => simpa using other

theorem Grows.isDirectory {before after : FileTree} (grown : Grows before after)
    {path : FilePath} (isDirectory : before.isDirectory path = true) :
    after.isDirectory path = true := by
  rw [isDirectory_iff] at isDirectory ⊢
  obtain ⟨location, followed, found⟩ := isDirectory
  exact ⟨location, grown.follow followed, grown.directory location found⟩

theorem readText_eq_ok_iff {tree : FileTree} {path : FilePath} {text : String} :
    tree.readText path = .ok text ↔
      ∃ location, tree.follow path = .ok location ∧
        tree.files location = some (.text text) := by
  simp only [files_eq_some_iff, ← entryAt_eq_ok_iff]
  unfold readText
  rw [Result.bind_eq_ok_iff]
  constructor
  · rintro ⟨entry, isEntry, read⟩
    split at read
    · cases read
    · obtain rfl := Except.ok.inj read
      exact isEntry
    · cases read
  · exact fun isEntry => ⟨_, isEntry, rfl⟩

/-! ## The last step of a path -/

section LastStep

variable {tree : FileTree} {path : FilePath} {location above : Location} {slashes : List String}

theorem foldlM_stepInto_slashes_iff {reached : Location}
    (areSlashes : ∀ piece ∈ slashes, piece.isEmpty = true) :
    slashes.foldlM tree.stepInto location = .ok reached ↔
      location = reached ∧ (slashes = [] ∨ tree.lookup location = some .directory) := by
  induction slashes with
  | nil => simp
  | cons first others inductionHypothesis =>
      rw [List.forall_mem_cons] at areSlashes
      obtain rfl := String.isEmpty_iff.mp areSlashes.1
      rw [List.foldlM_cons, Result.bind_eq_ok_iff]
      constructor
      · rintro ⟨next, entered, rest⟩
        have stays : next = location := stepInto_eq_ok entered
        subst next
        exact ⟨((inductionHypothesis areSlashes.2).mp rest).1, Or.inr (lookup_of_stepInto entered)⟩
      · rintro ⟨rfl, none | isDirectory⟩
        · cases none
        · refine ⟨location, by simp [stepInto, isDirectory], ?_⟩
          exact (inductionHypothesis areSlashes.2).mpr ⟨rfl, Or.inr isDirectory⟩

section Parts

variable {front : List String} {last : String}

/-- The last step of a path that is not slashes alone. -/
theorem lastStep_eq_ok_iff {step : Option String} (notSlash : last.isEmpty = false)
    (areSlashes : ∀ piece ∈ slashes, piece.isEmpty = true)
    (inParts : path.pieces = front ++ last :: slashes) :
    tree.lastStep path = .ok (above, step) ↔
      step = some last ∧ checkPath path = .ok () ∧
        front.foldlM tree.stepInto (tree.startOf path) = .ok above ∧
          tree.lookup above = some .directory := by
  unfold lastStep
  rw [inParts, FilePath.withoutTrailing_append notSlash areSlashes]
  simp only [Result.bind_eq_ok_iff, List.dropLast_concat, List.getLast?_concat]
  constructor
  · rintro ⟨_, checked, reached, followed, found⟩
    split at found
    · next isDirectory =>
        obtain ⟨rfl, rfl⟩ := Prod.mk.inj (Except.ok.inj found)
        exact ⟨rfl, checked, followed, isDirectory⟩
    · cases found
    · cases found
  · rintro ⟨rfl, checked, followed, isDirectory⟩
    exact ⟨(), checked, above, followed, by rw [isDirectory]⟩

/-- Where such a path leads. Slashes at its end need a directory. -/
theorem follow_eq_ok_iff_last (areSlashes : ∀ piece ∈ slashes, piece.isEmpty = true)
    (inParts : path.pieces = front ++ last :: slashes) :
    tree.follow path = .ok location ↔
      checkPath path = .ok () ∧ ∃ above,
        front.foldlM tree.stepInto (tree.startOf path) = .ok above ∧
          tree.stepInto above last = .ok location ∧
            (slashes = [] ∨ tree.lookup location = some .directory) := by
  rw [follow_eq_ok_iff, inParts, List.foldlM_append, Result.bind_eq_ok_iff]
  simp only [List.foldlM_cons, Result.bind_eq_ok_iff, foldlM_stepInto_slashes_iff areSlashes]
  refine and_congr_right fun _ => exists_congr fun above => and_congr_right fun _ => ?_
  constructor
  · rintro ⟨next, entered, rfl, behind⟩
    exact ⟨entered, behind⟩
  · rintro ⟨entered, behind⟩
    exact ⟨location, entered, rfl, behind⟩

end Parts

/-- A path of slashes has no last step. -/
theorem lastStep_slashes (areSlashes : ∀ piece ∈ path.pieces, piece.isEmpty = true) :
    tree.lastStep path = checkPath path >>= fun _ =>
      match tree.lookup (tree.startOf path) with
      | some .directory => .ok (tree.startOf path, none)
      | some (.file _) => .error .notDirectory
      | none => .error .notFound := by
  have noneLeft : (path.pieces.reverse.dropWhile (·.isEmpty)).reverse = [] := by
    rw [List.reverse_eq_nil_iff, List.dropWhile_eq_nil_iff]
    simpa using areSlashes
  unfold lastStep
  rw [noneLeft]
  rfl

theorem step_of_slashes {step : Option String}
    (areSlashes : ∀ piece ∈ path.pieces, piece.isEmpty = true)
    (found : tree.lastStep path = .ok (above, step)) : step = none := by
  rw [lastStep_slashes areSlashes] at found
  obtain ⟨_, -, found⟩ := Result.bind_eq_ok_iff.mp found
  split at found
  · exact (Prod.mk.inj (Except.ok.inj found)).2.symm
  · cases found
  · cases found

end LastStep

/-! ## Making a directory again -/

section Directories

variable {tree later reached : FileTree} {path : FilePath}

theorem makeDirectory_of_isDirectory (isDirectory : tree.isDirectory path = true) :
    tree.makeDirectory path = .error .alreadyExists := by
  obtain ⟨location, followed, found⟩ := isDirectory_iff.mp isDirectory
  rcases FilePath.trailing_or_last String.isEmpty path.pieces with
    areSlashes | ⟨front, last, slashes, notSlash, areSlashes, inParts⟩
  · obtain ⟨checked, overSlashes⟩ := follow_eq_ok_iff.mp followed
    rw [foldlM_stepInto_slashes_iff areSlashes] at overSlashes
    unfold makeDirectory
    rw [lastStep_slashes areSlashes, checked, overSlashes.1, Result.ok_bind, found]
    rfl
  · obtain ⟨checked, above, followedFront, entered, -⟩ :=
      (follow_eq_ok_iff_last areSlashes inParts).mp followed
    have lastFound : tree.lastStep path = .ok (above, some last) :=
      (lastStep_eq_ok_iff notSlash areSlashes inParts).mpr
        ⟨rfl, checked, followedFront, lookup_of_stepInto entered⟩
    unfold makeDirectory
    rw [lastFound, Result.ok_bind]
    split
    · rfl
    · rfl
    · rfl
    · next same =>
        cases same
        rw [entered, Result.ok_bind, found]

theorem isDirectory_of_makeDirectory (made : tree.makeDirectory path = .ok reached) :
    reached.isDirectory path = true := by
  have grown := (onlyDirectoriesAdded_makeDirectory made).grows
  obtain ⟨⟨above, step⟩, found, made⟩ := Result.bind_eq_ok_iff.mp made
  rcases FilePath.trailing_or_last String.isEmpty path.pieces with
    areSlashes | ⟨front, last, slashes, notSlash, areSlashes, inParts⟩
  · rw [step_of_slashes areSlashes found] at made
    cases made
  · obtain ⟨rfl, checked, followedFront, -⟩ := (lastStep_eq_ok_iff notSlash areSlashes inParts).mp found
    split at made
    · cases made
    · cases made
    · cases made
    · next same =>
        cases same
        obtain ⟨location, entered, made⟩ := Result.bind_eq_ok_iff.mp made
        split at made
        · cases made
        · next absent =>
            obtain rfl := Except.ok.inj made
            have noDirectory : tree.lookup location ≠ some .directory := by
              simp [absent]
            have placed : (tree.place location .directory).lookup location = some .directory := by
              rw [lookup_place (ne_nil_of_lookup_ne noDirectory), if_pos rfl]
            refine isDirectory_iff.mpr ⟨location, ?_, placed⟩
            rw [follow_eq_ok_iff_last areSlashes inParts, grown.startOf]
            exact ⟨checked, _, grown.foldlM_stepInto followedFront, grown.stepInto entered,
              Or.inr placed⟩

theorem isDirectory_of_orExisting {cause : FileError}
    (existing : tree.orExisting path cause = .ok ()) : tree.isDirectory path = true := by
  unfold orExisting at existing
  split at existing
  · next both => exact both.2
  · cases existing

theorem isDirectory_of_makeDirectories {outer : List FilePath}
    (made : tree.makeDirectories (path :: outer) = (.ok (), reached)) :
    reached.isDirectory path = true := by
  rw [makeDirectories] at made
  split at made
  · next extended here =>
      obtain ⟨-, rfl⟩ := Prod.mk.inj made
      exact isDirectory_of_makeDirectory here
  · split at made
    · cases (Prod.mk.inj made).1
    · split at made
      · next extended here =>
          obtain ⟨-, rfl⟩ := Prod.mk.inj made
          exact isDirectory_of_makeDirectory here
      · obtain ⟨existing, rfl⟩ := Prod.mk.inj made
        exact isDirectory_of_orExisting existing
  · obtain ⟨existing, rfl⟩ := Prod.mk.inj made
    exact isDirectory_of_orExisting existing

/-- Directories that were made once are there, and are not made again. -/
theorem Grows.makeDirectoryTree (grown : Grows reached later)
    (made : tree.makeDirectoryTree path = (.ok (), reached)) :
    later.makeDirectoryTree path = (.ok (), later) := by
  unfold FileTree.makeDirectoryTree at made ⊢
  cases paths : lineage path.components.length path with
  | nil => rfl
  | cons first outer =>
      rw [paths] at made
      have isDirectory := grown.isDirectory (isDirectory_of_makeDirectories made)
      rw [makeDirectories, makeDirectory_of_isDirectory isDirectory]
      simp [orExisting, isDirectory]

end Directories

/-! ## Writing again -/

section Writing

variable {tree written later : FileTree} {path : FilePath} {text : String}

/-- The last step of a path that ends in a name leads where the path leads. -/
theorem exists_lastStep_iff_follow {name : String} {location : Location}
    (atEnd : path.pieces.getLast? = some name) (notEmpty : name ≠ "") :
    (∃ above, tree.lastStep path = .ok (above, some name) ∧
      tree.stepInto above name = .ok location) ↔ tree.follow path = .ok location := by
  obtain ⟨front, inParts⟩ := List.getLast?_eq_some_iff.mp atEnd
  have noSlashes : ∀ piece ∈ ([] : List String), piece.isEmpty = true := by simp
  have notSlash : name.isEmpty = false := by simpa using notEmpty
  rw [follow_eq_ok_iff_last noSlashes inParts]
  simp only [lastStep_eq_ok_iff notSlash noSlashes inParts]
  constructor
  · rintro ⟨above, ⟨-, checked, followedFront, -⟩, entered⟩
    exact ⟨checked, above, followedFront, entered, Or.inl trivial⟩
  · rintro ⟨checked, above, followedFront, entered, -⟩
    exact ⟨above, ⟨trivial, checked, followedFront, lookup_of_stepInto entered⟩, entered⟩

/-- What a text is written to is named by the last piece of its path. -/
theorem exists_lastStep_of_writeText (wrote : tree.writeText path text = .ok written) :
    ∃ name above location, path.pieces.getLast? = some name ∧ FilePath.IsName name ∧
      tree.lastStep path = .ok (above, some name) ∧ tree.stepInto above name = .ok location := by
  obtain ⟨⟨above, step⟩, found, wrote⟩ := Result.bind_eq_ok_iff.mp wrote
  split at wrote
  · cases wrote
  · cases wrote
  · cases wrote
  · next name notDot notDots same =>
      cases same
      split at wrote
      · cases wrote
      · next openEnd =>
          have ends : path.pieces.getLast? ≠ some "" := by
            simpa using openEnd
          have atEnd := (lastStep_eq_ok ends found).2.symm
          have notEmpty : name ≠ "" := by
            intro same
            rw [same] at atEnd
            exact ends atEnd
          obtain ⟨location, entered, -⟩ := Result.bind_eq_ok_iff.mp wrote
          exact ⟨name, above, location, atEnd, ⟨notEmpty, notDot, notDots⟩, found, entered⟩

/-- A text can be written where a path ends in a name and leads to a place that is no
directory. -/
theorem writeText_eq_ok_iff :
    tree.writeText path text = .ok written ↔
      (∃ name, path.pieces.getLast? = some name ∧ FilePath.IsName name) ∧
        tree.follow path = .ok (path.locationFrom tree.current) ∧
          tree.lookup (path.locationFrom tree.current) ≠ some .directory ∧
            written = tree.place (path.locationFrom tree.current) (.file (.text text)) := by
  constructor
  · intro wrote
    obtain ⟨noDirectory, isWritten⟩ := writeText_eq_ok wrote
    obtain ⟨name, above, location, atEnd, isName, found, entered⟩ :=
      exists_lastStep_of_writeText wrote
    have followed : tree.follow path = .ok location :=
      (exists_lastStep_iff_follow atEnd isName.1).mp ⟨above, found, entered⟩
    rw [← locationFrom_of_follow followed] at noDirectory isWritten ⊢
    exact ⟨⟨name, atEnd, isName⟩, followed, noDirectory, isWritten⟩
  · rintro ⟨⟨name, atEnd, notEmpty, notDot, notDots⟩, followed, noDirectory, rfl⟩
    obtain ⟨above, found, entered⟩ := (exists_lastStep_iff_follow atEnd notEmpty).mpr followed
    have openEnd : ¬ (path.pieces.getLast? == some "") = true := by
      simpa [atEnd] using notEmpty
    unfold writeText
    rw [found, Result.ok_bind]
    split
    · next same => cases same
    · next same => exact absurd (Option.some.inj (Prod.mk.inj same).2) notDot
    · next same => exact absurd (Option.some.inj (Prod.mk.inj same).2) notDots
    · next same =>
        cases same
        rw [if_neg openEnd, entered, Result.ok_bind]
        split
        · next isDirectory => exact absurd isDirectory noDirectory
        · rfl

theorem grows_writeText (wrote : tree.writeText path text = .ok written) : Grows tree written := by
  obtain ⟨-, -, noDirectory, rfl⟩ := writeText_eq_ok_iff.mp wrote
  exact grows_place_file noDirectory text

/-- Where a text was written, another one can be written over it. -/
theorem Grows.writeText (grown : Grows written later)
    (wrote : tree.writeText path text = .ok written) (other : String) :
    (later.files (path.locationFrom tree.current)).isSome ∧
      later.writeText path other =
        .ok (later.place (path.locationFrom tree.current) (.file (.text other))) := by
  have grownHere := (grows_writeText wrote).trans grown
  obtain ⟨isNamed, followed, noDirectory, rfl⟩ := writeText_eq_ok_iff.mp wrote
  have isFile : (later.files (path.locationFrom tree.current)).isSome := by
    apply grown.file
    rw [files_place (ne_nil_of_lookup_ne noDirectory), Files.write, if_pos rfl]
    rfl
  refine ⟨isFile, writeText_eq_ok_iff.mpr ⟨isNamed, ?_, ?_, ?_⟩⟩
  · rw [grownHere.locationFrom]
    exact grownHere.follow followed
  · rw [grownHere.locationFrom]
    exact lookup_ne_directory_of_file isFile
  · rw [grownHere.locationFrom]

end Writing

end EntityGen.FileTree
