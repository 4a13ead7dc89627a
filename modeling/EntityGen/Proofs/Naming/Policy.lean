import EntityGen.Naming.Policy
import EntityGen.Proofs.File.Path
import EntityGen.Proofs.Naming.SnakeCase

/-!
Contract: the file and the import path of a class, as lists of names.

Owns:
- `Storable`, the classes whose segments can be names in a path;
- the file of a storable class, piece by piece;
- `Plain`, the storable classes without dots, and the import path to one, piece
  by piece.

Does not own: the output folder, and where an import path leads.
-/

namespace EntityGen.NamingPolicy

variable {policy : NamingPolicy} {className : String}

/-- A class whose reduced name has segments, each of which stands for a name in a
path. -/
def Storable (policy : NamingPolicy) (className : String) : Prop :=
  policy.segments className ≠ [] ∧
    ∀ segment ∈ policy.segments className,
      '/' ∉ segment.toList ∧ segment ≠ "." ∧ segment ≠ ".."

instance (policy : NamingPolicy) (className : String) :
    Decidable (policy.Storable className) := by
  unfold Storable
  infer_instance

/-- A class whose reduced name has segments, none of which contains a slash or a
dot. -/
def Plain (policy : NamingPolicy) (className : String) : Prop :=
  policy.segments className ≠ [] ∧
    ∀ segment ∈ policy.segments className, '/' ∉ segment.toList ∧ '.' ∉ segment.toList

instance (policy : NamingPolicy) (className : String) : Decidable (policy.Plain className) := by
  unfold Plain
  infer_instance

/-- Segments are never empty. -/
theorem ne_empty_of_mem_segments {segment : String}
    (member : segment ∈ policy.segments className) : segment ≠ "" := by
  obtain ⟨characters, isPiece, rfl⟩ := List.mem_map.mp member
  have nonempty := (List.mem_filter.mp isPiece).2
  rintro empty
  rw [String.ofList_eq_empty_iff] at empty
  subst characters
  exact absurd nonempty (by simp)

/-- Names that are the same once reduced have the same segments. -/
theorem segments_eq_of_sameName {left right : String}
    (same : policy.sameName left right = true) :
    policy.segments left = policy.segments right := by
  have reduced : policy.reducedChars left = policy.reducedChars right := by
    apply String.ofList_injective
    exact eq_of_beq same
  unfold segments
  rw [reduced]

theorem Plain.storable (plain : policy.Plain className) : policy.Storable className := by
  refine ⟨plain.1, fun segment member => ⟨(plain.2 segment member).1, ?_, ?_⟩⟩
  all_goals
    rintro rfl
    exact absurd (plain.2 _ member).2 (by decide)

theorem plain_of_sameName {left right : String} (same : policy.sameName left right = true)
    (plain : policy.Plain right) : policy.Plain left := by
  unfold Plain
  rw [segments_eq_of_sameName same]
  exact plain

theorem importPath_eq_of_sameName {left right source : String}
    (same : policy.sameName left right = true) :
    policy.importPath left source = policy.importPath right source := by
  unfold importPath moduleName fileSegments
  rw [segments_eq_of_sameName same]

/-! ## Files -/

theorem fileSegments_ne_nil (storable : policy.Storable className) :
    policy.fileSegments className ≠ [] := by
  intro none
  exact storable.1 (List.map_eq_nil_iff.mp none)

theorem exists_fileSegments_concat (storable : policy.Storable className) :
    ∃ folders, policy.fileSegments className =
      folders ++ [Naming.snakeCase (policy.identifier className)] := by
  rcases List.eq_nil_or_concat' (policy.segments className) with none | ⟨outer, last, split⟩
  · exact absurd none storable.1
  · refine ⟨outer.map Naming.snakeCase, ?_⟩
    rw [fileSegments, identifier, split, List.map_append, List.getLast?_concat]
    rfl

private theorem not_mem_fileSegment {sign : Char} (positive : 0 < sign.toNat)
    (small : sign.toNat < 0x41)
    (free : ∀ segment ∈ policy.segments className, sign ∉ segment.toList) :
    ∀ segment ∈ policy.fileSegments className, sign ∉ segment.toList := by
  intro segment member inSegment
  obtain ⟨written, isSegment, rfl⟩ := List.mem_map.mp member
  exact free written isSegment (Naming.mem_of_mem_snakeCase positive small inSegment)

theorem slash_not_mem_fileSegment (storable : policy.Storable className) :
    ∀ segment ∈ policy.fileSegments className, '/' ∉ segment.toList :=
  not_mem_fileSegment (by decide) (by decide) fun segment member => (storable.2 segment member).1

theorem dot_not_mem_fileSegment (plain : policy.Plain className) :
    ∀ segment ∈ policy.fileSegments className, '.' ∉ segment.toList :=
  not_mem_fileSegment (by decide) (by decide) fun segment member => (plain.2 segment member).2

theorem isName_fileSegment (storable : policy.Storable className) :
    ∀ segment ∈ policy.fileSegments className, FilePath.IsName segment := by
  intro segment member
  obtain ⟨written, isSegment, rfl⟩ := List.mem_map.mp member
  obtain ⟨-, notDot, notDots⟩ := storable.2 written isSegment
  refine ⟨Naming.snakeCase_ne_empty (ne_empty_of_mem_segments isSegment), ?_, ?_⟩
  · exact fun same => notDot (Naming.eq_of_snakeCase_eq_dots (by simp) same)
  · exact fun same => notDots (Naming.eq_of_snakeCase_eq_dots (by simp) same)

/-- The file of a storable class has its segments as pieces. -/
theorem file_eq (storable : policy.Storable className) :
    policy.file className = ⟨policy.fileSegments className⟩ :=
  FilePath.ofParts_of_isName (fileSegments_ne_nil storable) (isName_fileSegment storable)
    (slash_not_mem_fileSegment storable)

theorem dot_not_mem_identifier (plain : policy.Plain className) :
    '.' ∉ (policy.identifier className).toList := by
  unfold identifier
  cases last : (policy.segments className).getLast? with
  | none => exact absurd (List.getLast?_eq_none_iff.mp last) plain.1
  | some name => exact (plain.2 name (List.mem_of_getLast? last)).2

theorem dot_not_mem_moduleName (plain : policy.Plain className) :
    '.' ∉ (policy.moduleName className).toList := by
  rw [moduleName, String.toList_ofList]
  intro member
  rcases Text.mem_joined member with isSlash | ⟨part, isPart, inPart⟩
  · exact absurd isSlash (by decide)
  · obtain ⟨segment, isSegment, rfl⟩ := List.mem_map.mp isPart
    exact dot_not_mem_fileSegment plain segment isSegment inPart

/-- The module path of a storable class has its segments as pieces. -/
theorem pieces_moduleName (storable : policy.Storable className) :
    Text.pieces '/' (policy.moduleName className).toList =
      (policy.fileSegments className).map String.toList := by
  rw [moduleName, String.toList_ofList]
  apply Text.pieces_joined
  · exact fun none => fileSegments_ne_nil storable (List.map_eq_nil_iff.mp none)
  · intro part member
    obtain ⟨segment, isSegment, rfl⟩ := List.mem_map.mp member
    exact slash_not_mem_fileSegment storable segment isSegment

/-- Storable classes with the same module path have the same segments. -/
theorem moduleName_eq_iff {other : String} (storable : policy.Storable className)
    (otherStorable : policy.Storable other) :
    policy.moduleName className = policy.moduleName other ↔
      policy.fileSegments className = policy.fileSegments other := by
  constructor
  · intro same
    have samePieces := pieces_moduleName storable
    rw [same, pieces_moduleName otherStorable] at samePieces
    exact (List.map_injective_iff.mpr (fun _ _ => String.toList_injective) samePieces).symm
  · intro same
    rw [moduleName, moduleName, same]

/-! ## Import paths -/

/-- The pieces of the way up from a file some folders below the output folder. -/
def upwardPieces : Nat → List String
  | 0 => ["."]
  | depth + 1 => List.replicate (depth + 1) ".."

private theorem pieces_upwards (depth : Nat) (text : List Char) :
    Text.pieces '/' ((upwards depth).toList ++ text) =
      (upwardPieces depth).map String.toList ++ Text.pieces '/' text := by
  match depth with
  | 0 => exact Text.pieces_append_cons ['.'] text
  | 1 => exact Text.pieces_append_cons ['.', '.'] text
  | deeper + 2 =>
      have shorter := pieces_upwards (deeper + 1) text
      have split : Text.pieces '/'
          (['.', '.'] ++ '/' :: ((upwards (deeper + 1)).toList ++ text)) = _ :=
        Text.pieces_append_cons _ _
      rw [shorter] at split
      rw [upwards, String.toList_append, List.append_assoc]
      exact split

/-- The import path to a plain class goes up and then down along its
segments. -/
theorem ofString_importPath {target : String} (plain : policy.Plain target) (source : String) :
    FilePath.ofString (policy.importPath target source) =
      ⟨upwardPieces ((policy.segments source).length - 1) ++ policy.fileSegments target⟩ := by
  have modulePieces := pieces_moduleName plain.storable
  rw [FilePath.ofString, importPath, String.toList_append, pieces_upwards, modulePieces,
    ← List.map_append, List.map_map]
  simp

end EntityGen.NamingPolicy
