import EntityGen.Proofs.File.Components
import EntityGen.Proofs.File.Growth

/-!
Contract: paths that are followed as their components are walked.

Owns:
- the text of a path that is continued name by name;
- `walk`, where the components of a path lead;
- which paths are followed as they are walked, however they are spelled.

Does not own: what lies where a path leads.

A path is followed piece by piece, and a piece that means nothing still needs the directory
in which it stands. So a spelling can only fail where its components lead on. It does not in
a path that leads somewhere, nor in one that continues such a path by names and is short
enough to be opened.
-/

namespace EntityGen

/-! ## Continued paths -/

namespace FilePath

theorem mem_of_mem_base {path : FilePath} {piece : String}
    (member : piece ∈ path.base) : piece ∈ path.pieces := by
  unfold base at member
  split at member
  · exact List.dropLast_subset _ member
  · exact member

theorem toList_toString (path : FilePath) :
    path.toString.toList = Text.joined '/' (path.pieces.map String.toList) :=
  String.toList_ofList

theorem mem_toString_iff {path : FilePath} {c : Char} (notSlash : c ≠ '/') :
    c ∈ path.toString.toList ↔ ∃ piece ∈ path.pieces, c ∈ piece.toList := by
  rw [toList_toString]
  constructor
  · intro member
    rcases Text.mem_joined member with isSlash | ⟨part, isPart, inPart⟩
    · exact absurd isSlash notSlash
    · obtain ⟨piece, isPiece, rfl⟩ := List.mem_map.mp isPart
      exact ⟨piece, isPiece, inPart⟩
  · rintro ⟨piece, isPiece, inPiece⟩
    exact Text.mem_joined_of_mem (List.mem_map_of_mem isPiece) inPiece

/-- One piece more is a slash and the piece more. -/
theorem toString_concat {pieces : List String} (nonempty : pieces ≠ []) (last : String) :
    toString ⟨pieces ++ [last]⟩ = toString ⟨pieces⟩ ++ ("/" ++ last) := by
  apply String.toList_injective
  rw [toList_toString, List.map_append, List.map_singleton,
    Text.joined_concat (by simpa using nonempty), String.toList_append, toList_toString,
    String.toList_append]
  rfl

/-- A path that is continued by a name starts with its own text. -/
theorem exists_toString_join (path : FilePath) {name : String} (isName : IsName name) :
    ∃ behind, (path.join ⟨[name]⟩).toString = path.toString ++ behind := by
  rw [join_names path (List.cons_ne_nil _ _) (by simpa using isName)]
  unfold base
  split
  · next atEnd =>
      obtain ⟨front, inParts⟩ := List.getLast?_eq_some_iff.mp atEnd
      refine ⟨name, String.toList_injective ?_⟩
      rw [toList_toString, String.toList_append, toList_toString, inParts, List.dropLast_concat,
        List.map_append, List.map_append]
      exact Text.joined_concat_append (front.map String.toList) [] name.toList
  · obtain ⟨pieces⟩ := path
    rcases eq_or_ne pieces [] with rfl | nonempty
    · refine ⟨name, String.toList_injective ?_⟩
      rw [toList_toString, String.toList_append, toList_toString]
      rfl
    · exact ⟨_, toString_concat nonempty name⟩

section Names

variable {names : List String} (areNames : ∀ name ∈ names, IsName name ∧ '/' ∉ name.toList)

include areNames

theorem exists_toString_continuedBy (path : FilePath) :
    ∃ behind, (path.continuedBy names).toString = path.toString ++ behind := by
  induction names generalizing path with
  | nil => exact ⟨"", String.append_empty.symm⟩
  | cons first others inductionHypothesis =>
      rw [List.forall_mem_cons] at areNames
      obtain ⟨behindFirst, ofFirst⟩ := exists_toString_join path areNames.1.1
      obtain ⟨behind, ofOthers⟩ := inductionHypothesis areNames.2 (path.join ⟨[first]⟩)
      refine ⟨behindFirst ++ behind, ?_⟩
      rw [← String.append_assoc, ← ofFirst, ← ofOthers, continuedBy, List.foldl_cons,
        ofString_of_not_mem areNames.1.2, continuedBy]

end Names

end FilePath

namespace FileTree

/-! ## Paths that can be opened -/

theorem checkPath_eq_ok_iff {path : FilePath} :
    checkPath path = .ok () ↔
      Char.ofNat 0 ∉ path.toString.toList ∧ path.toString ≠ "" ∧ isShort path = true := by
  unfold checkPath isShort
  dsimp only
  rw [decide_eq_true_iff]
  simp only [List.contains_iff_mem, String.isEmpty_iff]
  split
  · next hasNul => simp [hasNul]
  · next noNul =>
      split
      · next isEmpty => simp [isEmpty]
      · next notEmpty =>
          split
          · next long => simp [Nat.not_le.mpr long]
          · next short => simp [noNul, notEmpty, Nat.le_of_not_gt short]

/-- A path is short if one that continues it is. -/
theorem isShort_of_continuedBy {path : FilePath} {names : List String}
    (areNames : ∀ name ∈ names, FilePath.IsName name ∧ '/' ∉ name.toList)
    (short : isShort (path.continuedBy names) = true) : isShort path = true := by
  obtain ⟨behind, longer⟩ := path.exists_toString_continuedBy areNames
  unfold isShort at short ⊢
  rw [decide_eq_true_iff] at short ⊢
  rw [longer, String.utf8ByteSize_append] at short
  exact (Nat.le_add_right _ _).trans short

/-! ## Walking -/

variable {tree : FileTree}

/-- Goes from a directory to what a component of a path names in it. -/
def enter (tree : FileTree) (location : Location) : Component → Except FileError Location
  | .root => .ok []
  | .current => .ok location
  | .parent => tree.stepInto location ".."
  | .name text => tree.stepInto location text

/-- Where the components of a path lead, without regard to how they are spelled. -/
def walk (tree : FileTree) (path : FilePath) : Except FileError Location :=
  path.components.foldlM tree.enter tree.current

theorem foldlM_enter_start (path : FilePath) :
    path.start.foldlM tree.enter tree.current = .ok (tree.startOf path) := by
  unfold FilePath.start startOf
  split
  · rfl
  · split <;> rfl

theorem foldlM_enter_of_stepInto {pieces : List String} {location reached : Location}
    (followed : pieces.foldlM tree.stepInto location = .ok reached) :
    (pieces.filterMap Component.ofPiece?).foldlM tree.enter location = .ok reached := by
  induction pieces generalizing location with
  | nil => exact followed
  | cons first others inductionHypothesis =>
      rw [List.foldlM_cons] at followed
      obtain ⟨next, entered, followed⟩ := Result.bind_eq_ok_iff.mp followed
      have rest := inductionHypothesis followed
      rcases FilePath.ofPiece?_cases first with
        ⟨filler, nothing⟩ | ⟨rfl, isParent⟩ | ⟨-, isName⟩
      · have stays : next = location := by
          rw [stepInto_eq_ok entered, Location.step, if_pos filler]
        rw [List.filterMap_cons_none nothing, ← stays]
        exact rest
      · rw [List.filterMap_cons_some isParent, List.foldlM_cons, enter, entered]
        exact rest
      · rw [List.filterMap_cons_some isName, List.foldlM_cons, enter, entered]
        exact rest

/-- A path that can be followed leads where its components do. -/
theorem walk_of_follow {path : FilePath} {location : Location}
    (followed : tree.follow path = .ok location) : tree.walk path = .ok location := by
  rw [walk, FilePath.components, List.foldlM_append, foldlM_enter_start]
  exact foldlM_enter_of_stepInto (follow_eq_ok_iff.mp followed).2

theorem foldlM_stepInto_base {path : FilePath} {location : Location}
    (followed : tree.follow path = .ok location) :
    path.base.foldlM tree.stepInto (tree.startOf path) = .ok location := by
  have overPieces := (follow_eq_ok_iff.mp followed).2
  unfold FilePath.base
  split
  · next atEnd =>
      obtain ⟨front, inParts⟩ := List.getLast?_eq_some_iff.mp atEnd
      rw [inParts, List.foldlM_append] at overPieces
      obtain ⟨reached, overFront, behind⟩ := Result.bind_eq_ok_iff.mp overPieces
      obtain ⟨next, entered, same⟩ := Result.bind_eq_ok_iff.mp behind
      obtain rfl := Except.ok.inj same
      rw [inParts, List.dropLast_concat, overFront, stepInto_eq_ok entered]
      rfl
  · exact overPieces

section Continued

variable {root : FilePath} {names : List String} {directory : Location}
variable (areNames : ∀ name ∈ names, FilePath.IsName name ∧ '/' ∉ name.toList)
variable (noNul : ∀ name ∈ names, Char.ofNat 0 ∉ name.toList)
variable (followed : tree.follow root = .ok directory)
variable (short : isShort (root.continuedBy names) = true)

include areNames noNul followed short

theorem checkPath_continuedBy : checkPath (root.continuedBy names) = .ok () := by
  rcases eq_or_ne names [] with rfl | nonempty
  · exact (follow_eq_ok_iff.mp followed).1
  · have rootChecked := checkPath_eq_ok_iff.mp (follow_eq_ok_iff.mp followed).1
    have inParts : (root.continuedBy names).pieces = root.base ++ names := by
      rw [FilePath.continuedBy_eq_join areNames root nonempty,
        FilePath.join_names root nonempty fun name member => (areNames name member).1]
    refine checkPath_eq_ok_iff.mpr ⟨fun hasNul => ?_, fun isEmpty => ?_, short⟩
    · rw [FilePath.mem_toString_iff (by decide), inParts] at hasNul
      obtain ⟨piece, isPiece, inPiece⟩ := hasNul
      rcases List.mem_append.mp isPiece with inRoot | isName
      · exact rootChecked.1 ((FilePath.mem_toString_iff (by decide)).mpr
          ⟨piece, FilePath.mem_of_mem_base inRoot, inPiece⟩)
      · exact noNul piece isName inPiece
    · obtain ⟨first, others, rfl⟩ := List.exists_cons_of_ne_nil nonempty
      have isName := (areNames first (List.mem_cons_self ..)).1
      obtain ⟨c, rest, written⟩ := List.exists_cons_of_ne_nil
        (mt String.toList_eq_nil_iff.mp isName.1)
      have inText : c ∈ (root.continuedBy (first :: others)).toString.toList := by
        rw [FilePath.toList_toString, inParts]
        refine Text.mem_joined_of_mem (List.mem_map_of_mem (a := first) (by simp)) ?_
        simp [written]
      rw [isEmpty] at inText
      cases inText

/-- Behind a path that leads to a directory, names are followed one by one. -/
theorem follow_continuedBy :
    tree.follow (root.continuedBy names) = names.foldlM tree.stepInto directory := by
  rcases eq_or_ne names [] with rfl | nonempty
  · exact followed
  · obtain ⟨first, others, rfl⟩ := List.exists_cons_of_ne_nil nonempty
    have isName := (areNames first (List.mem_cons_self ..)).1
    have inParts : root.continuedBy (first :: others) = ⟨root.base ++ first :: others⟩ := by
      rw [FilePath.continuedBy_eq_join areNames root nonempty,
        FilePath.join_names root nonempty fun name member => (areNames name member).1]
    have sameStart : tree.startOf ⟨root.base ++ first :: others⟩ = tree.startOf root := by
      rw [startOf, FilePath.isAbsolute_base_append root isName others]
      rfl
    rw [follow, checkPath_continuedBy areNames noNul followed short, inParts, sameStart,
      Result.ok_bind, List.foldlM_append, foldlM_stepInto_base followed]
    rfl

/-- A short path that continues one that leads to a directory is followed as its components
are walked. -/
theorem follow_eq_walk_continuedBy :
    tree.follow (root.continuedBy names) = tree.walk (root.continuedBy names) := by
  have overRoot := walk_of_follow followed
  rw [walk] at overRoot
  rw [follow_continuedBy areNames noNul followed short, walk,
    FilePath.components_continuedBy areNames, List.foldlM_append, overRoot, Result.ok_bind,
    List.foldlM_map]
  rfl

end Continued

/-- Paths that are followed as their components are walked lead alike if these are the
same. -/
theorem readText_of_components {left right : FilePath}
    (same : left.components = right.components) (leftWalked : tree.follow left = tree.walk left)
    (rightWalked : tree.follow right = tree.walk right) :
    tree.readText left = tree.readText right := by
  have sameWalk : tree.walk left = tree.walk right := by
    rw [walk, walk, same]
  rw [readText, readText, entryAt, entryAt, leftWalked, rightWalked, sameWalk]

end FileTree
end EntityGen
