import EntityGen.Proofs.File.Access
import Mathlib.Data.List.Lex
import Mathlib.Data.Prod.Lex
import Mathlib.Data.String.Basic

/-!
Contract: what the components of a path decide.

Owns:
- `FilePath.key`, which puts the order of paths into a linear order;
- sorted lists of paths;
- the place to which a path leads, by its components;
- a path that is continued name by name.

Does not own: which places there are.

Two paths of the same components are equal in the order, and lead to one place. The
converse fails: a path can lead to a place by way of other components.
-/

namespace EntityGen

/-! ## The order of paths -/

/-- The text by which names are ordered. -/
def Component.text : Component → String
  | .name text => text
  | _ => ""

/-- The rank of a component, then its text. -/
def Component.key (component : Component) : ℕ ×ₗ String :=
  toLex (component.rank, component.text)

theorem Component.key_injective : Function.Injective Component.key := by
  intro left right same
  obtain ⟨sameRank, sameText⟩ := Prod.mk.inj (toLex.injective same)
  cases left with
  | name text =>
      cases right with
      | name other => exact congrArg Component.name sameText
      | _ => cases sameRank
  | _ => cases right <;> first | rfl | cases sameRank

theorem Component.before_iff {left right : Component} :
    left.before right = true ↔ left.key < right.key := by
  unfold key
  rw [Prod.Lex.toLex_lt_toLex]
  cases left <;> cases right <;> simp [before, rank, text]

/-- The place to which a component leads from another one. -/
def Location.walk (location : Location) : Component → Location
  | .root => []
  | .current => location
  | .parent => location.dropLast
  | .name text => location ++ [text]

namespace FilePath

/-- The components of a path as keys, which are ordered as lists are. -/
def key (path : FilePath) : List (ℕ ×ₗ String) :=
  path.components.map Component.key

theorem key_eq_iff {left right : FilePath} :
    left.key = right.key ↔ left.components = right.components :=
  (List.map_injective_iff.mpr Component.key_injective).eq_iff

theorem componentsBefore_iff {left right : List Component} :
    componentsBefore left right = true ↔ left.map Component.key < right.map Component.key := by
  fun_induction componentsBefore left right with
  | case1 => simp
  | case2 first others => simp
  | case3 first others => simp
  | case4 left lefts right rights inductionHypothesis =>
      rw [List.map_cons, List.map_cons, List.cons_lt_cons_iff, Bool.or_eq_true, Bool.and_eq_true,
        Component.before_iff, beq_iff_eq, inductionHypothesis, Component.key_injective.eq_iff]

theorem before_iff {left right : FilePath} : left.before right = true ↔ left.key < right.key :=
  componentsBefore_iff

theorem components_ne_of_before {left right : FilePath} (isBefore : left.before right = true) :
    left.components ≠ right.components := by
  rw [ne_eq, ← key_eq_iff]
  exact ne_of_lt (before_iff.mp isBefore)

theorem not_before_iff {left right : FilePath} :
    (!right.before left) = true ↔ left.key ≤ right.key := by
  rw [Bool.not_eq_true', Bool.eq_false_iff, ne_eq, before_iff, not_lt]

theorem pairwise_mergeSort (paths : List FilePath) :
    (paths.mergeSort fun left right => !right.before left).Pairwise
      fun left right => left.key ≤ right.key := by
  refine (List.pairwise_mergeSort ?_ ?_ paths).imp not_before_iff.mp
  · intro first second third
    rw [not_before_iff, not_before_iff, not_before_iff]
    exact le_trans
  · intro left right
    rw [Bool.or_eq_true, not_before_iff, not_before_iff]
    exact le_total left.key right.key

/-! ## Places -/

theorem foldl_walk_pieces (pieces : List String) (location : Location) :
    (pieces.filterMap Component.ofPiece?).foldl Location.walk location =
      pieces.foldl Location.step location := by
  induction pieces generalizing location with
  | nil => rfl
  | cons first others inductionHypothesis =>
      rw [List.foldl_cons, ← inductionHypothesis, Location.step]
      rcases ofPiece?_cases first with
        ⟨filler, nothing⟩ | ⟨rfl, isParent⟩ | ⟨⟨notEmpty, notDot, notDots⟩, isName⟩
      · rw [List.filterMap_cons_none nothing, if_pos filler]
      · rw [List.filterMap_cons_some isParent]
        rfl
      · rw [List.filterMap_cons_some isName, if_neg (not_or.mpr ⟨notEmpty, notDot⟩),
          if_neg notDots]
        rfl

/-- Where a path leads is walked component by component. -/
theorem locationFrom_eq_foldl (path : FilePath) (current : Location) :
    path.locationFrom current = path.components.foldl Location.walk current := by
  have fromStart : path.start.foldl Location.walk current =
      if path.isAbsolute then [] else current := by
    unfold start
    split
    · rfl
    · split <;> rfl
  rw [locationFrom, components, List.foldl_append, fromStart, foldl_walk_pieces]

/-- Paths of the same components lead to one place. -/
theorem locationFrom_of_components {left right : FilePath}
    (same : left.components = right.components) (current : Location) :
    left.locationFrom current = right.locationFrom current := by
  rw [locationFrom_eq_foldl, locationFrom_eq_foldl, same]

/-! ## Names joined one by one -/

section Names

variable {names : List String} (areNames : ∀ name ∈ names, IsName name ∧ '/' ∉ name.toList)

include areNames

/-- A path that is continued name by name is joined to all names at once. -/
theorem continuedBy_eq_join (path : FilePath) (nonempty : names ≠ []) :
    path.continuedBy names = path.join ⟨names⟩ := by
  induction names generalizing path with
  | nil => exact absurd rfl nonempty
  | cons first others inductionHypothesis =>
      rw [List.forall_mem_cons] at areNames
      obtain ⟨⟨isName, free⟩, areOthers⟩ := areNames
      have continued : path.continuedBy (first :: others) =
          (path.join ⟨[first]⟩).continuedBy others := by
        rw [continuedBy, List.foldl_cons, ofString_of_not_mem free, continuedBy]
      rcases eq_or_ne others [] with rfl | more
      · exact continued
      · rw [continued, inductionHypothesis areOthers _ more,
          join_names_append path (List.cons_ne_nil _ _) more (by simpa using isName)
            fun name member => (areOthers name member).1]
        rfl

theorem components_continuedBy (path : FilePath) :
    (path.continuedBy names).components = path.components ++ names.map Component.name := by
  rcases eq_or_ne names [] with rfl | nonempty
  · exact (List.append_nil _).symm
  · rw [continuedBy_eq_join areNames path nonempty,
      components_join path nonempty fun name member => (areNames name member).1]

theorem locationFrom_continuedBy (path : FilePath) (current : Location) :
    (path.continuedBy names).locationFrom current = path.locationFrom current ++ names := by
  rcases eq_or_ne names [] with rfl | nonempty
  · exact (List.append_nil _).symm
  · rw [continuedBy_eq_join areNames path nonempty,
      locationFrom_join path nonempty fun name member => (areNames name member).1]

end Names

end FilePath
end EntityGen
