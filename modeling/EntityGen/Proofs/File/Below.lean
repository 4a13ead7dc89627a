import EntityGen.Proofs.File.Path

/-!
Contract: which paths lie below a folder.

Owns:
- `LiesBelow` and `IsChildOf`, by the components behind those of the folder;
- `Inward`, the paths that lie below every folder to which they are joined;
- joined paths in which not every piece is a name;
- the components of a path after its extension was set.

Does not own: which paths are joined, and what a path leads to.

Joining looks at two things: whether the tail is absolute, which lets it stand alone,
and whether the folder has any piece of its own, without which the path starts where
the tail starts. Everything else are the steps of both, one after the other.
-/

namespace EntityGen.FilePath

/-- The path continues the folder by at least one component, and never goes up or back
to the root behind it. -/
def LiesBelow (folder path : FilePath) : Prop :=
  ∃ further, path.components = folder.components ++ further ∧ further ≠ [] ∧
    Component.parent ∉ further ∧ Component.root ∉ further

/-- The path continues the folder by one name. -/
def IsChildOf (folder path : FilePath) : Prop :=
  ∃ name, path.components = folder.components ++ [.name name]

/-- What the pieces of a path stand for, wherever it starts. -/
def steps (path : FilePath) : List Component :=
  path.pieces.filterMap Component.ofPiece?

/-- A path that has steps, none of them up, and no root to start from. -/
structure Inward (path : FilePath) : Prop where
  relative : path.isAbsolute = false
  nonempty : path.steps ≠ []
  neverUp : Component.parent ∉ path.steps

theorem steps_eq_nil_iff (path : FilePath) :
    path.steps = [] ↔ ∀ piece ∈ path.pieces, piece = "" ∨ piece = "." := by
  unfold steps
  rw [List.filterMap_eq_nil_iff]
  apply forall₂_congr
  intro piece _
  unfold Component.ofPiece?
  split
  · next filler => simp [filler]
  · next notFiller => split <;> simp [notFiller]

theorem parent_mem_steps_iff (path : FilePath) :
    Component.parent ∈ path.steps ↔ ".." ∈ path.pieces := by
  unfold steps
  rw [List.mem_filterMap]
  constructor
  · rintro ⟨piece, member, isUp⟩
    unfold Component.ofPiece? at isUp
    split at isUp
    · cases isUp
    · split at isUp
      · next isDots => exact isDots ▸ member
      · cases isUp
  · exact fun member => ⟨"..", member, rfl⟩

theorem root_not_mem_steps (path : FilePath) : Component.root ∉ path.steps := by
  intro member
  obtain ⟨piece, -, isStep⟩ := List.mem_filterMap.mp member
  unfold Component.ofPiece? at isStep
  split at isStep
  · cases isStep
  · split at isStep <;> cases isStep

theorem root_mem_components_iff (path : FilePath) :
    Component.root ∈ path.components ↔ path.isAbsolute = true := by
  show Component.root ∈ path.start ++ path.steps ↔ _
  simp only [List.mem_append, root_not_mem_steps path, or_false]
  rw [isAbsolute_iff_start]
  unfold start
  split
  · simp
  · split <;> simp

theorem root_not_mem_start {path : FilePath} (relative : path.isAbsolute = false) :
    Component.root ∉ path.start := by
  intro member
  have inPath : Component.root ∈ path.components := List.mem_append_left _ member
  rw [root_mem_components_iff, relative] at inPath
  cases inPath

theorem parent_not_mem_start (path : FilePath) : Component.parent ∉ path.start := by
  unfold start
  split
  · simp
  · split <;> simp

/-! ## Joining -/

section Joining

variable (folder : FilePath) {tail : FilePath}

theorem steps_base (folder : FilePath) : steps ⟨folder.base⟩ = folder.steps := by
  unfold steps base
  split
  · next atEnd =>
      obtain ⟨before, same⟩ := List.getLast?_eq_some_iff.mp atEnd
      rw [same, List.dropLast_concat, List.filterMap_append]
      simp [Component.ofPiece?]
  · rfl

theorem join_relative (relative : tail.isAbsolute = false) :
    folder.join tail = ⟨folder.base ++ tail.pieces⟩ := by
  unfold join base
  rw [relative]
  simp only [Bool.false_eq_true, if_false]
  split <;> rfl

theorem steps_join (relative : tail.isAbsolute = false) :
    (folder.join tail).steps = folder.steps ++ tail.steps := by
  rw [join_relative folder relative, ← steps_base folder]
  exact List.filterMap_append

/-- Where a relative path starts that was joined to a folder. -/
theorem start_join (relative : tail.isAbsolute = false) (written : tail.pieces ≠ []) :
    (folder.join tail).start = if folder.base = [] then tail.start else folder.start := by
  rw [join_relative folder relative]
  obtain ⟨pieces⟩ := folder
  obtain ⟨first, others, isTail⟩ := List.exists_cons_of_ne_nil written
  unfold base
  match pieces with
  | [] => rfl
  | [only] =>
      by_cases empty : only = ""
      · simp [empty]
      · simp [empty, start_cons]
  | front :: second :: more =>
      split
      · rw [List.dropLast_cons_of_ne_nil (List.cons_ne_nil _ _), List.cons_append, start_cons,
          start_cons]
        simp [isTail]
      · rw [List.cons_append, start_cons, start_cons]
        simp

theorem components_of_base_nil {folder : FilePath} (none : folder.base = []) :
    folder.components = [] := by
  obtain ⟨pieces⟩ := folder
  unfold base at none
  match pieces with
  | [] => rfl
  | [only] =>
      by_cases empty : only = ""
      · subst only
        rfl
      · simp [empty] at none
  | front :: second :: more =>
      split at none <;> simp at none

/-- A relative path adds its steps to a folder, and its start to one without pieces. -/
theorem components_join_relative (relative : tail.isAbsolute = false)
    (written : tail.pieces ≠ []) :
    (folder.join tail).components =
      folder.components ++ ((if folder.base = [] then tail.start else []) ++ tail.steps) := by
  show (folder.join tail).start ++ (folder.join tail).steps = _
  rw [start_join folder relative written, steps_join folder relative]
  split
  · next none =>
      have nothing : folder.steps = [] :=
        (List.append_eq_nil_iff.mp (components_of_base_nil none)).2
      rw [components_of_base_nil none, nothing, List.nil_append, List.nil_append]
  · rw [List.nil_append, ← List.append_assoc]
    rfl

/-- A joined path is absolute if one of its parts is. -/
theorem isAbsolute_join (written : tail.pieces ≠ []) :
    (folder.join tail).isAbsolute = (tail.isAbsolute || folder.isAbsolute) := by
  cases absolute : tail.isAbsolute with
  | true => rw [join, absolute, if_pos rfl, absolute, Bool.true_or]
  | false =>
      rw [Bool.false_or, Bool.eq_iff_iff, ← root_mem_components_iff, ← root_mem_components_iff,
        components_join_relative folder absolute written]
      split <;> simp [root_not_mem_start absolute, root_not_mem_steps]

/-- A path that starts with a name continues a folder by it, and by the steps behind. -/
theorem components_join_name {first : String} (isName : IsName first) (others : List String) :
    (folder.join ⟨first :: others⟩).components =
      folder.components ++ .name first :: steps ⟨others⟩ := by
  have atName : start ⟨first :: others⟩ = [] := start_of_isName isName others
  have relative : isAbsolute ⟨first :: others⟩ = false := by
    rw [Bool.eq_false_iff, Ne, isAbsolute_iff_start, atName]
    exact (List.cons_ne_nil _ _).symm
  rw [components_join_relative folder relative (List.cons_ne_nil _ _), atName, ite_self,
    List.nil_append, steps, List.filterMap_cons_some (ofPiece?_of_isName isName)]
  rfl

theorem isChildOf_join_name_iff {first : String} (isName : IsName first) (others : List String) :
    folder.IsChildOf (folder.join ⟨first :: others⟩) ↔
      ∀ piece ∈ others, piece = "" ∨ piece = "." := by
  rw [← steps_eq_nil_iff ⟨others⟩, IsChildOf, components_join_name folder isName]
  constructor
  · rintro ⟨name, same⟩
    exact (List.cons.inj (List.append_cancel_left same)).2
  · intro none
    exact ⟨first, by rw [none]⟩

/-- What lies below every folder is what never leads out of it. -/
theorem forall_liesBelow_join_iff (written : tail.pieces ≠ []) :
    (∀ folder : FilePath, folder.LiesBelow (folder.join tail)) ↔ tail.Inward := by
  constructor
  · intro below
    -- A folder of one name shows it: nothing that leads out of this one is below it.
    obtain ⟨further, continues, nonempty, neverUp, -⟩ := below ⟨["folder"]⟩
    cases absolute : tail.isAbsolute with
    | true =>
        rw [join, absolute, if_pos rfl] at continues
        have atRoot : tail.start = [.root] := isAbsolute_iff_start.mp absolute
        have starts : Component.root :: tail.steps = .name "folder" :: further := by
          rw [← List.singleton_append, ← atRoot]
          exact continues
        cases (List.cons.inj starts).1
    | false =>
        rw [components_join_relative _ absolute written] at continues
        have same := List.append_cancel_left continues
        have hasPieces : base ⟨["folder"]⟩ ≠ [] := by decide
        rw [if_neg hasPieces, List.nil_append] at same
        subst further
        exact ⟨absolute, nonempty, neverUp⟩
  · intro inward folder
    refine ⟨_, components_join_relative folder inward.relative written, ?_, ?_, ?_⟩
    · exact List.append_ne_nil_of_right_ne_nil _ inward.nonempty
    · rw [List.mem_append, not_or]
      refine ⟨?_, inward.neverUp⟩
      split
      · exact parent_not_mem_start tail
      · exact List.not_mem_nil
    · rw [List.mem_append, not_or]
      refine ⟨?_, root_not_mem_steps tail⟩
      split
      · exact root_not_mem_start inward.relative
      · exact List.not_mem_nil

end Joining

/-! ## Parts -/

theorem pieces_ofString_ne_nil (text : String) : (ofString text).pieces ≠ [] := by
  intro none
  exact Text.pieces_ne_nil '/' text.toList (List.map_eq_nil_iff.mp none)

theorem pieces_join_ne_nil (folder : FilePath) {tail : FilePath} (written : tail.pieces ≠ []) :
    (folder.join tail).pieces ≠ [] := by
  unfold join
  split
  · exact written
  · split <;> exact List.append_ne_nil_of_right_ne_nil _ written

theorem pieces_ofParts_ne_nil (parts : List String) : (ofParts parts).pieces ≠ [] := by
  induction parts using List.reverseRecOn with
  | nil => exact List.cons_ne_nil _ _
  | append_singleton front part _ =>
      rw [ofParts, List.foldl_append]
      exact pieces_join_ne_nil _ (pieces_ofString_ne_nil part)

theorem isAbsolute_ofParts (parts : List String) :
    (ofParts parts).isAbsolute = parts.any fun part => (ofString part).isAbsolute := by
  induction parts using List.reverseRecOn with
  | nil => rfl
  | append_singleton front part inductionHypothesis =>
      rw [ofParts, List.foldl_append, List.foldl_cons, List.foldl_nil,
        isAbsolute_join _ (pieces_ofString_ne_nil part), List.any_append, Bool.or_comm]
      rw [ofParts] at inductionHypothesis
      rw [inductionHypothesis]
      simp

theorem steps_ofParts {parts : List String}
    (relative : ∀ part ∈ parts, (ofString part).isAbsolute = false) :
    (ofParts parts).steps = parts.flatMap fun part => (ofString part).steps := by
  induction parts using List.reverseRecOn with
  | nil => rfl
  | append_singleton front part inductionHypothesis =>
      rw [List.forall_mem_append, List.forall_mem_singleton] at relative
      have before := inductionHypothesis relative.1
      rw [ofParts] at before
      rw [ofParts, List.foldl_append, List.foldl_cons, List.foldl_nil, steps_join _ relative.2,
        before, List.flatMap_append, List.flatMap_singleton]

/-- Parts lead inward if none of them is absolute or leads up, and one of them has a
step. -/
theorem inward_ofParts_iff {parts : List String} :
    (ofParts parts).Inward ↔
      (∀ part ∈ parts, (ofString part).isAbsolute = false ∧
        Component.parent ∉ (ofString part).steps) ∧
      ∃ part ∈ parts, (ofString part).steps ≠ [] := by
  have relativeIff : (ofParts parts).isAbsolute = false ↔
      ∀ part ∈ parts, (ofString part).isAbsolute = false := by
    rw [isAbsolute_ofParts, List.any_eq_false]
    simp
  constructor
  · intro inward
    have relative := relativeIff.mp inward.relative
    have neverUp := inward.neverUp
    have nonempty := inward.nonempty
    rw [steps_ofParts relative] at neverUp nonempty
    simp only [List.mem_flatMap, not_exists, not_and] at neverUp
    refine ⟨fun part member => ⟨relative part member, neverUp part member⟩, ?_⟩
    simpa [List.flatMap_eq_nil_iff] using nonempty
  · rintro ⟨each, hasStep⟩
    have relative := fun part member => (each part member).1
    refine ⟨relativeIff.mpr relative, ?_, ?_⟩
    · rw [steps_ofParts relative]
      simpa [List.flatMap_eq_nil_iff] using hasStep
    · rw [steps_ofParts relative, List.mem_flatMap]
      rintro ⟨part, member, up⟩
      exact (each part member).2 up

/-! ## Extensions -/

/-- Setting an extension changes the last name of a path, or nothing. -/
theorem withExtension_changes_last (path : FilePath) {extension : String}
    (long : 2 ≤ extension.length) :
    path.withExtension extension = path ∨
      ∃ front old new, path.components = front ++ [.name old] ∧
        (path.withExtension extension).components = front ++ [.name new] := by
  cases fileName : path.fileName? with
  | none => exact Or.inl (by rw [withExtension, fileName])
  | some name =>
      refine Or.inr ?_
      obtain ⟨front, behind, isName, filler, inParts⟩ := exists_pieces_of_fileName? fileName
      have isNew : IsName ((splitName name).1 ++ "." ++ extension) := by
        apply isName_of_length
        have dot : ".".length = 1 := rfl
        rw [String.length_append, String.length_append, dot]
        omega
      have trailing : ∀ piece ∈ behind, (piece == "" || piece == ".") = true := by
        simpa using filler
      have written : withoutTrailingFiller path.pieces = front ++ [name] := by
        rw [withoutTrailingFiller, inParts]
        exact withoutTrailing_append (by simp [isName.1, isName.2.1]) trailing
      have changed : path.withExtension extension =
          ⟨front ++ [(splitName name).1 ++ "." ++ extension]⟩ := by
        rw [withExtension, fileName]
        simp only [written, List.dropLast_concat]
      have fillerSteps : behind.filterMap Component.ofPiece? = [] := by
        rw [List.filterMap_eq_nil_iff]
        intro piece member
        exact if_pos (filler piece member)
      have sameStart : start ⟨front ++ [(splitName name).1 ++ "." ++ extension]⟩ =
          start ⟨front ++ name :: behind⟩ := by
        cases front with
        | nil => exact (start_of_isName isNew []).trans (start_of_isName isName behind).symm
        | cons first others =>
            rw [List.cons_append, List.cons_append, start_cons, start_cons]
            simp
      refine ⟨path.start ++ front.filterMap Component.ofPiece?, name,
        (splitName name).1 ++ "." ++ extension, ?_, ?_⟩
      · rw [components, inParts, List.filterMap_append,
          List.filterMap_cons_some (ofPiece?_of_isName isName), fillerSteps, List.append_assoc]
      · rw [changed, components, sameStart, List.filterMap_append,
          List.filterMap_cons_some (ofPiece?_of_isName isNew), List.filterMap_nil,
          ← List.append_assoc, ← inParts]

/-- A last name can be exchanged for another one below a folder. -/
theorem liesBelow_of_last {folder path other : FilePath} {front : List Component}
    {old new : String} (ends : path.components = front ++ [.name old])
    (otherEnds : other.components = front ++ [.name new]) (below : folder.LiesBelow path) :
    folder.LiesBelow other := by
  obtain ⟨further, continues, nonempty, neverUp, neverRoot⟩ := below
  rcases List.eq_nil_or_concat' further with none | ⟨inner, last, rfl⟩
  · exact absurd none nonempty
  · rw [ends, ← List.append_assoc] at continues
    obtain ⟨rfl, -⟩ := List.append_inj' continues rfl
    refine ⟨inner ++ [.name new], ?_, by simp, ?_, ?_⟩
    · rw [otherEnds, List.append_assoc]
    · simp only [List.mem_append, not_or] at neverUp
      simp [neverUp.1]
    · simp only [List.mem_append, not_or] at neverRoot
      simp [neverRoot.1]

theorem liesBelow_withExtension_iff {folder path : FilePath} {extension : String}
    (long : 2 ≤ extension.length) :
    folder.LiesBelow (path.withExtension extension) ↔ folder.LiesBelow path := by
  rcases withExtension_changes_last path long with same | ⟨front, old, new, ends, changed⟩
  · rw [same]
  · exact ⟨liesBelow_of_last changed ends, liesBelow_of_last ends changed⟩

end EntityGen.FilePath
