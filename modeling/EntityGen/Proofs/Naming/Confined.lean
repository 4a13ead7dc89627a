import EntityGen.Proofs.File.Below
import EntityGen.Proofs.Naming.Policy

/-!
Contract: classes whose file stays below the folder that it is put into.

Owns:
- `Confined`, by the segments of the reduced name as the model has them;
- the pieces of a segment in snake case;
- that a class is confined exactly if the path of its file leads inward.

Does not own: the folder, and the extension of the file.

A segment is cut at slashes like any path, which a class name never means to be. What
the pieces of a segment do to a path does not change in snake case: only dots become
dots, and nothing becomes empty.
-/

namespace EntityGen

namespace FilePath

theorem ofString_snakeCase (text : String) :
    ofString (Naming.snakeCase text) = ⟨(ofString text).pieces.map Naming.snakeCase⟩ := by
  unfold ofString
  rw [Naming.pieces_snakeCase, List.map_map, List.map_map]
  congr 1
  apply List.map_congr_left
  intro piece _
  show _ = Naming.snakeCase (String.ofList piece)
  rw [Naming.snakeCase, String.toList_ofList]
  rfl

theorem snakeCase_eq_empty_iff {piece : String} : Naming.snakeCase piece = "" ↔ piece = "" := by
  constructor
  · intro vanished
    by_contra nonempty
    exact Naming.snakeCase_ne_empty nonempty vanished
  · rintro rfl
    decide

theorem snakeCase_eq_dot_iff {piece : String} : Naming.snakeCase piece = "." ↔ piece = "." := by
  constructor
  · exact Naming.eq_of_snakeCase_eq_dots (by simp)
  · rintro rfl
    decide

theorem snakeCase_eq_dots_iff {piece : String} :
    Naming.snakeCase piece = ".." ↔ piece = ".." := by
  constructor
  · exact Naming.eq_of_snakeCase_eq_dots (by simp)
  · rintro rfl
    decide

theorem isAbsolute_cons_cons_iff {first second : String} {more : List String} :
    isAbsolute ⟨first :: second :: more⟩ = true ↔ first = "" := by
  rw [isAbsolute_iff_start, start_cons]
  split
  · next empty => simp [empty]
  · next nonempty => split <;> simp [nonempty]

theorem isAbsolute_snakeCase (text : String) :
    (ofString (Naming.snakeCase text)).isAbsolute = (ofString text).isAbsolute := by
  rw [ofString_snakeCase]
  generalize ofString text = path
  obtain ⟨pieces⟩ := path
  match pieces with
  | [] => rfl
  | [only] => simp [isAbsolute]
  | first :: second :: more =>
      rw [List.map_cons, List.map_cons, Bool.eq_iff_iff, isAbsolute_cons_cons_iff,
        isAbsolute_cons_cons_iff, snakeCase_eq_empty_iff]

theorem parent_mem_steps_snakeCase_iff (text : String) :
    Component.parent ∈ (ofString (Naming.snakeCase text)).steps ↔
      ".." ∈ (ofString text).pieces := by
  rw [parent_mem_steps_iff, ofString_snakeCase, List.mem_map]
  simp only [snakeCase_eq_dots_iff, exists_eq_right]

theorem steps_snakeCase_ne_nil_iff (text : String) :
    (ofString (Naming.snakeCase text)).steps ≠ [] ↔
      ∃ piece ∈ (ofString text).pieces, piece ≠ "" ∧ piece ≠ "." := by
  rw [Ne, steps_eq_nil_iff, ofString_snakeCase]
  simp only [List.forall_mem_map, snakeCase_eq_empty_iff, snakeCase_eq_dot_iff, not_forall,
    not_or, exists_prop]

end FilePath

namespace NamingPolicy

variable {policy : NamingPolicy} {className : String}

/-- No segment of the reduced name starts at the root or goes up, and one of them has a
piece that is more than a dot. -/
@[mk_iff]
structure Confined (policy : NamingPolicy) (className : String) : Prop where
  relative : ∀ segment ∈ policy.segments className,
    (FilePath.ofString segment).isAbsolute = false
  neverUp : ∀ segment ∈ policy.segments className, ".." ∉ (FilePath.ofString segment).pieces
  named : ∃ segment ∈ policy.segments className,
    ∃ piece ∈ (FilePath.ofString segment).pieces, piece ≠ "" ∧ piece ≠ "."

instance (policy : NamingPolicy) (className : String) : Decidable (policy.Confined className) :=
  decidable_of_iff' _ (confined_iff policy className)

theorem inward_file_iff : (policy.file className).Inward ↔ policy.Confined className := by
  have named : (∃ part ∈ policy.fileSegments className, (FilePath.ofString part).steps ≠ []) ↔
      ∃ segment ∈ policy.segments className,
        ∃ piece ∈ (FilePath.ofString segment).pieces, piece ≠ "" ∧ piece ≠ "." := by
    simp only [← FilePath.steps_snakeCase_ne_nil_iff, fileSegments, List.mem_map,
      exists_exists_and_eq_and]
  rw [file, FilePath.inward_ofParts_iff, named, confined_iff, ← and_assoc, ← forall₂_and]
  simp only [fileSegments, List.forall_mem_map, FilePath.isAbsolute_snakeCase,
    FilePath.parent_mem_steps_snakeCase_iff]

end NamingPolicy

end EntityGen
