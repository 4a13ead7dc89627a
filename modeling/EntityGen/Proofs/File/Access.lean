import EntityGen.File.Access
import EntityGen.Proofs.File.Path
import EntityGen.Proofs.Result

/-!
Contract: what file operations leave in a tree.

Owns:
- the location that a path names, read off its pieces;
- the regular files of a tree and the tree with one of them written;
- trees that differ only by new directories;
- making directories and writing a text, each by its effect on the tree.

Does not own: when an operation fails.

Following a path checks that directories exist, but never changes where the
pieces lead. What an operation changes is therefore known from the path alone.
-/

namespace EntityGen

/-! ## Locations of paths -/

/-- The location to which one piece of a path leads. -/
def Location.step (location : Location) (piece : String) : Location :=
  if piece = "" ∨ piece = "." then location
  else if piece = ".." then location.dropLast
  else location ++ [piece]

/-- The location that a path names when relative paths start in `current`. -/
def FilePath.locationFrom (path : FilePath) (current : Location) : Location :=
  path.pieces.foldl Location.step (if path.isAbsolute then [] else current)

theorem Location.foldl_step_names {names : List String}
    (areNames : ∀ name ∈ names, FilePath.IsName name) (location : Location) :
    names.foldl Location.step location = location ++ names := by
  induction names generalizing location with
  | nil => simp
  | cons first others inductionHypothesis =>
      rw [List.forall_mem_cons] at areNames
      obtain ⟨⟨notEmpty, notDot, notDots⟩, areOthers⟩ := areNames
      rw [List.foldl_cons, inductionHypothesis areOthers, Location.step,
        if_neg (not_or.mpr ⟨notEmpty, notDot⟩), if_neg notDots, List.append_assoc]
      rfl

/-- A folder that is continued by names lies where it did, and the path leads on
along the names. -/
theorem FilePath.locationFrom_join (folder : FilePath) {names : List String}
    (nonempty : names ≠ []) (areNames : ∀ name ∈ names, IsName name) (current : Location) :
    (folder.join ⟨names⟩).locationFrom current = folder.locationFrom current ++ names := by
  obtain ⟨first, others, rfl⟩ := List.exists_cons_of_ne_nil nonempty
  have isName := areNames first (List.mem_cons_self ..)
  have basePlace : ∀ start : Location,
      folder.base.foldl Location.step start = folder.pieces.foldl Location.step start := by
    intro start
    unfold base
    split
    · next atEnd =>
        obtain ⟨before, same⟩ := List.getLast?_eq_some_iff.mp atEnd
        rw [same, List.dropLast_concat, List.foldl_append]
        rfl
    · rfl
  rw [join_names folder nonempty areNames, locationFrom, isAbsolute_base_append folder isName,
    List.foldl_append, Location.foldl_step_names areNames, basePlace, locationFrom]

theorem Location.foldl_step_fillers {fillers : List String}
    (areFillers : ∀ piece ∈ fillers, piece = "" ∨ piece = ".") (location : Location) :
    fillers.foldl Location.step location = location := by
  induction fillers with
  | nil => rfl
  | cons first others inductionHypothesis =>
      rw [List.forall_mem_cons] at areFillers
      rw [List.foldl_cons, Location.step, if_pos areFillers.1]
      exact inductionHypothesis areFillers.2

/-- A path with a file name leads to a place of this name. -/
theorem FilePath.getLast?_locationFrom {path : FilePath} {name : String}
    (isName : path.fileName? = some name) (current : Location) :
    (path.locationFrom current).getLast? = some name := by
  obtain ⟨front, behind, named, areFillers, inParts⟩ := exists_pieces_of_fileName? isName
  have ends : ∀ name' ∈ [name], IsName name' := by simpa using named
  rw [locationFrom, inParts, List.append_cons, List.foldl_append, List.foldl_append,
    Location.foldl_step_fillers areFillers, Location.foldl_step_names ends, List.getLast?_concat]

namespace FileTree

theorem stepInto_eq_ok {tree : FileTree} {location reached : Location} {piece : String}
    (followed : tree.stepInto location piece = .ok reached) : reached = location.step piece := by
  unfold stepInto at followed
  unfold Location.step
  split at followed
  · cases followed
  · cases followed
  · split at followed
    · next stays =>
        rw [if_pos stays]
        exact (Except.ok.inj followed).symm
    · next moves =>
        rw [if_neg moves]
        split at followed
        · next up =>
            rw [if_pos up]
            exact (Except.ok.inj followed).symm
        · next down =>
            rw [if_neg down]
            split at followed
            · cases followed
            · exact (Except.ok.inj followed).symm

theorem foldlM_stepInto_eq_ok {tree : FileTree} {pieces : List String}
    {location reached : Location}
    (followed : pieces.foldlM tree.stepInto location = .ok reached) :
    reached = pieces.foldl Location.step location := by
  induction pieces generalizing location with
  | nil => exact (Except.ok.inj followed).symm
  | cons piece others inductionHypothesis =>
      rw [List.foldlM_cons] at followed
      obtain ⟨next, first, rest⟩ := Result.bind_eq_ok_iff.mp followed
      rw [List.foldl_cons, ← stepInto_eq_ok first]
      exact inductionHypothesis rest

/-! ## Placing entries -/

private theorem lookup_filter_ne {entries : List (Location × Entry)} {location other : Location}
    (different : other ≠ location) :
    (entries.filter (·.1 != location)).lookup other = entries.lookup other := by
  induction entries with
  | nil => rfl
  | cons entry others inductionHypothesis =>
      by_cases here : entry.1 = location
      · have notOther : (other == entry.1) = false := by
          rw [here]
          exact beq_false_of_ne different
        rw [List.filter_cons_of_neg (by simp [here]), List.lookup_cons, notOther]
        exact inductionHypothesis
      · rw [List.filter_cons_of_pos (by simp [here]), List.lookup_cons, List.lookup_cons,
          inductionHypothesis]

/-- What lies in a tree after an entry was placed. -/
theorem lookup_place {tree : FileTree} {location : Location} (notRoot : location ≠ [])
    (entry : Entry) (other : Location) :
    (tree.place location entry).lookup other =
      if other = location then some entry else tree.lookup other := by
  unfold lookup place
  by_cases same : other = location
  · subst other
    rw [if_neg (by simpa using notRoot), if_pos rfl, List.lookup_cons, beq_self_eq_true]
  · have notFound : (other == location) = false := beq_false_of_ne same
    rw [if_neg same, List.lookup_cons, notFound]
    simp only [lookup_filter_ne same]

theorem ne_nil_of_lookup_ne {tree : FileTree} {location : Location}
    (noDirectory : tree.lookup location ≠ some .directory) : location ≠ [] := by
  rintro rfl
  exact noDirectory rfl

/-! ## Regular files -/

/-- The contents of regular files by location. -/
abbrev Files := Location → Option Content

/-- The regular files of a tree. -/
def files (tree : FileTree) : Files := fun location =>
  match tree.lookup location with
  | some (.file content) => some content
  | _ => none

/-- The files with a text written to a location, over what the file held. -/
def Files.write (files : Files) (location : Location) (text : String) : Files := fun other =>
  if other = location then some (.text text) else files other

theorem files_place {tree : FileTree} {location : Location} (notRoot : location ≠ [])
    (text : String) :
    (tree.place location (.file (.text text))).files = tree.files.write location text := by
  funext other
  unfold files Files.write
  rw [lookup_place notRoot]
  by_cases same : other = location
  · rw [if_pos same, if_pos same]
  · rw [if_neg same, if_neg same]

/-! ## New directories -/

/-- `after` differs from `before` by directories at locations where nothing
was. -/
structure OnlyDirectoriesAdded (before after : FileTree) : Prop where
  current : after.current = before.current
  lookup : ∀ location, after.lookup location = before.lookup location ∨
    before.lookup location = none ∧ after.lookup location = some .directory

namespace OnlyDirectoriesAdded

theorem refl (tree : FileTree) : OnlyDirectoriesAdded tree tree :=
  ⟨rfl, fun _ => Or.inl rfl⟩

theorem trans {first second third : FileTree} (earlier : OnlyDirectoriesAdded first second)
    (later : OnlyDirectoriesAdded second third) : OnlyDirectoriesAdded first third := by
  refine ⟨later.current.trans earlier.current, fun location => ?_⟩
  rcases earlier.lookup location with same | ⟨absent, made⟩
  · rw [← same]
    exact later.lookup location
  · rcases later.lookup location with kept | ⟨absentLater, -⟩
    · exact Or.inr ⟨absent, kept.trans made⟩
    · rw [made] at absentLater
      cases absentLater

theorem files {before after : FileTree} (added : OnlyDirectoriesAdded before after) :
    after.files = before.files := by
  funext location
  unfold FileTree.files
  rcases added.lookup location with same | ⟨absent, made⟩
  · rw [same]
  · rw [absent, made]

end OnlyDirectoriesAdded

theorem onlyDirectoriesAdded_place {tree : FileTree} {location : Location}
    (absent : tree.lookup location = none) :
    OnlyDirectoriesAdded tree (tree.place location .directory) := by
  have noDirectory : tree.lookup location ≠ some .directory := by
    simp [absent]
  have notRoot := ne_nil_of_lookup_ne noDirectory
  refine ⟨rfl, fun other => ?_⟩
  rw [lookup_place notRoot]
  by_cases same : other = location
  · subst other
    rw [if_pos rfl]
    exact Or.inr ⟨absent, rfl⟩
  · rw [if_neg same]
    exact Or.inl rfl

theorem makeDirectory_eq_ok {tree extended : FileTree} {path : FilePath}
    (made : tree.makeDirectory path = .ok extended) :
    ∃ location, tree.lookup location = none ∧ extended = tree.place location .directory := by
  obtain ⟨found, -, made⟩ := Result.bind_eq_ok_iff.mp made
  split at made
  · cases made
  · cases made
  · cases made
  · obtain ⟨location, -, made⟩ := Result.bind_eq_ok_iff.mp made
    split at made
    · cases made
    · next absent => exact ⟨location, absent, (Except.ok.inj made).symm⟩

theorem onlyDirectoriesAdded_makeDirectory {tree extended : FileTree} {path : FilePath}
    (made : tree.makeDirectory path = .ok extended) : OnlyDirectoriesAdded tree extended := by
  obtain ⟨location, absent, rfl⟩ := makeDirectory_eq_ok made
  exact onlyDirectoriesAdded_place absent

/-- What holds between trees of which one has one more directory, holds between the
ends of making several. -/
theorem makeDirectories_relates {relates : FileTree → FileTree → Prop}
    (refl : ∀ tree, relates tree tree)
    (trans : ∀ first second third, relates first second → relates second third →
      relates first third)
    (made : ∀ tree location, tree.lookup location = none →
      relates tree (tree.place location .directory))
    (tree : FileTree) (paths : List FilePath) : relates tree (tree.makeDirectories paths).2 := by
  have madeOne : ∀ {earlier extended : FileTree} {path : FilePath},
      earlier.makeDirectory path = .ok extended → relates earlier extended := by
    intro earlier extended path here
    obtain ⟨location, absent, rfl⟩ := makeDirectory_eq_ok here
    exact made earlier location absent
  induction paths with
  | nil => exact refl tree
  | cons path outer inductionHypothesis =>
      rw [makeDirectories]
      split
      · next extended here => exact madeOne here
      · split
        · next failed =>
            rw [failed] at inductionHypothesis
            exact inductionHypothesis
        · next reached outerMade =>
            rw [outerMade] at inductionHypothesis
            split
            · next extended here => exact trans _ _ _ inductionHypothesis (madeOne here)
            · exact inductionHypothesis
      · exact refl tree

theorem onlyDirectoriesAdded_makeDirectories (tree : FileTree) (paths : List FilePath) :
    OnlyDirectoriesAdded tree (tree.makeDirectories paths).2 :=
  makeDirectories_relates OnlyDirectoriesAdded.refl
    (fun _ _ _ earlier later => earlier.trans later)
    (fun _ _ absent => onlyDirectoriesAdded_place absent) tree paths

/-- Making a directory and those above it adds directories and nothing else, also
when it fails. -/
theorem onlyDirectoriesAdded_makeDirectoryTree (tree : FileTree) (path : FilePath) :
    OnlyDirectoriesAdded tree (tree.makeDirectoryTree path).2 :=
  onlyDirectoriesAdded_makeDirectories tree _

/-! ## Writing a text -/

private theorem withoutTrailingSlashes_eq {pieces : List String}
    (ends : pieces.getLast? ≠ some "") :
    (pieces.reverse.dropWhile (·.isEmpty)).reverse = pieces := by
  rcases List.eq_nil_or_concat' pieces with rfl | ⟨front, last, rfl⟩
  · rfl
  · rw [List.getLast?_concat] at ends
    have notEmpty : last.isEmpty = false := by
      simpa using ends
    exact FilePath.withoutTrailing_append notEmpty (by simp)

theorem lastStep_eq_ok {tree : FileTree} {path : FilePath} {directory : Location}
    {name : Option String} (ends : path.pieces.getLast? ≠ some "")
    (found : tree.lastStep path = .ok (directory, name)) :
    directory = path.pieces.dropLast.foldl Location.step (tree.startOf path) ∧
      name = path.pieces.getLast? := by
  unfold lastStep at found
  rw [withoutTrailingSlashes_eq ends] at found
  obtain ⟨-, -, found⟩ := Result.bind_eq_ok_iff.mp found
  obtain ⟨reached, followed, found⟩ := Result.bind_eq_ok_iff.mp found
  split at found
  · obtain ⟨rfl, rfl⟩ := Prod.mk.inj (Except.ok.inj found)
    exact ⟨foldlM_stepInto_eq_ok followed, rfl⟩
  · cases found
  · cases found

/-- A text is written to the location that its path names, where no directory
was. -/
theorem writeText_eq_ok {tree written : FileTree} {path : FilePath} {text : String}
    (wrote : tree.writeText path text = .ok written) :
    tree.lookup (path.locationFrom tree.current) ≠ some .directory ∧
      written = tree.place (path.locationFrom tree.current) (.file (.text text)) := by
  obtain ⟨found, last, wrote⟩ := Result.bind_eq_ok_iff.mp wrote
  split at wrote
  · cases wrote
  · cases wrote
  · cases wrote
  · next directory name _ _ =>
      split at wrote
      · cases wrote
      · next openEnd =>
          have ends : path.pieces.getLast? ≠ some "" := by
            simpa using openEnd
          obtain ⟨isDirectory, isName⟩ := lastStep_eq_ok ends last
          obtain ⟨location, entered, wrote⟩ := Result.bind_eq_ok_iff.mp wrote
          have isLocation : location = path.locationFrom tree.current := by
            obtain ⟨before, pieces⟩ := List.getLast?_eq_some_iff.mp isName.symm
            rw [stepInto_eq_ok entered, isDirectory, FilePath.locationFrom, pieces,
              List.dropLast_concat, List.foldl_append, List.foldl_cons, List.foldl_nil, startOf]
          subst isLocation
          split at wrote
          · cases wrote
          · next noDirectory => exact ⟨noDirectory, (Except.ok.inj wrote).symm⟩

theorem files_writeText {tree written : FileTree} {path : FilePath} {text : String}
    (wrote : tree.writeText path text = .ok written) :
    written.files = tree.files.write (path.locationFrom tree.current) text ∧
      written.current = tree.current := by
  obtain ⟨noDirectory, rfl⟩ := writeText_eq_ok wrote
  exact ⟨files_place (ne_nil_of_lookup_ne noDirectory) text, rfl⟩

end FileTree
end EntityGen
