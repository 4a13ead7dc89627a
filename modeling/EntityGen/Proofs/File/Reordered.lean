import EntityGen.Proofs.File.Growth
import Mathlib.Data.List.Nodup

/-!
Contract: trees that list the same entries in another order.

Owns:
- `Reordered`, and lookups in trees that list every place once;
- paths that lead alike in both, and the texts that are read there.

Does not own: in which order the files below a directory are listed.
-/

namespace EntityGen.FileTree

/-- Where every place is listed once, looking a place up finds what is listed for it. -/
theorem lookup_eq_some_iff_mem {entries : List (Location × Entry)}
    (once : (entries.map (·.1)).Nodup) {location : Location} {entry : Entry} :
    entries.lookup location = some entry ↔ (location, entry) ∈ entries := by
  rw [List.lookup_eq_some_iff]
  constructor
  · rintro ⟨front, back, rfl, -⟩
    simp
  · intro member
    obtain ⟨front, back, rfl⟩ := List.append_of_mem member
    refine ⟨front, back, rfl, fun found inFront => ?_⟩
    rw [List.map_append, List.nodup_append] at once
    have different := once.2.2 _ (List.mem_map_of_mem inFront) location (by simp)
    simpa using different.symm

/-- The same entries at the same places and the same current directory, with every place
listed once. -/
structure Reordered (tree other : FileTree) : Prop where
  entries : tree.entries.Perm other.entries
  current : tree.current = other.current
  once : (tree.entries.map (·.1)).Nodup

namespace Reordered

variable {tree other : FileTree} (reordered : Reordered tree other)

include reordered

theorem symm : Reordered other tree :=
  ⟨reordered.entries.symm, reordered.current.symm,
    (reordered.entries.map (·.1)).nodup_iff.mp reordered.once⟩

theorem lookup (location : Location) : tree.lookup location = other.lookup location := by
  unfold FileTree.lookup
  split
  · rfl
  · apply Option.ext
    intro entry
    rw [lookup_eq_some_iff_mem reordered.once,
      lookup_eq_some_iff_mem reordered.symm.once,
      reordered.entries.mem_iff]

theorem stepInto : tree.stepInto = other.stepInto := by
  funext location piece
  rw [FileTree.stepInto, FileTree.stepInto, reordered.lookup]

theorem follow (path : FilePath) : tree.follow path = other.follow path := by
  rw [FileTree.follow, FileTree.follow, reordered.stepInto, startOf, startOf, reordered.current]

theorem entryAt (path : FilePath) : tree.entryAt path = other.entryAt path := by
  rw [FileTree.entryAt, FileTree.entryAt, reordered.follow]
  simp only [reordered.lookup]

theorem isDirectory (path : FilePath) : tree.isDirectory path = other.isDirectory path := by
  rw [FileTree.isDirectory, FileTree.isDirectory, reordered.entryAt]

theorem readText (path : FilePath) : tree.readText path = other.readText path := by
  rw [FileTree.readText, FileTree.readText, reordered.entryAt]

end Reordered
end EntityGen.FileTree
