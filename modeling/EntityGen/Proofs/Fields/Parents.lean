import EntityGen.Proofs.Fields.Selection

/-!
Contract: models that name different parents outside of themselves.

Owns:
- idle parents, which the merge does not tell apart;
- that models which differ in such parents have the same merged table.

Does not own: the notes about parents that are not found.

A parent counts only as the name of another collected class. Two collectors can therefore
be filled with different parents, as long as these are the same or both give nothing.
-/

namespace EntityGen

open EntityGen.Model (ClassDecl)

/-- A parent that takes nothing from the class: no declared class, or the class itself. -/
def IdleParent (declared : List String) (className parent : String) : Prop :=
  parent ∉ declared ∨ parent = className

/-- Parents of a class that are the same, or both idle. -/
def SameParent (declared : List String) (className left right : String) : Prop :=
  left = right ∨ (IdleParent declared className left ∧ IdleParent declared className right)

/-- Two forms of one class that differ only in an idle parent. -/
structure Model.ClassDecl.Alike (declared : List String) (left right : ClassDecl) : Prop where
  name : left.name = right.name
  properties : left.properties = right.properties
  parent : Option.Rel (SameParent declared right.name) left.parent right.parent

namespace Collector

variable {declared : List String}

theorem fst_mergeChild_of_idle {parents : Std.TreeMap String String}
    {state : ClassTable × List AbsentParent} {child : String × FieldTable} {parent : String}
    (hasParent : parents[child.1]? = some parent)
    (idle : state.1.contains parent = false ∨ parent = child.1) :
    (mergeChild parents state child).1 = state.1 := by
  unfold mergeChild
  rw [hasParent]
  rcases idle with absent | rfl
  · simp only [absent, Bool.not_false, if_true]
  · simp only [beq_self_eq_true, if_true]
    split <;> rfl

/-! ## Collecting -/

/-- Collectors with one table of declared classes and parents that the merge does not tell
apart. -/
structure Alike (declared : List String) (left right : Collector) : Prop where
  groups : left.groups = right.groups
  table : left.table = right.table
  parents : ∀ name : String,
    Option.Rel (SameParent declared name) left.parents[name]? right.parents[name]?
  indexed : left.table.Indexed
  known : ∀ name ∈ left.table.classNames, name ∈ declared

namespace Alike

variable {left right : Collector}

theorem tableAfter_eq (alike : Alike declared left right) {decl other : ClassDecl}
    (same : decl.Alike declared other) : left.tableAfter decl = right.tableAfter other := by
  have sameChoice : left.chooses = right.chooses := by
    funext property
    rw [chooses, chooses, alike.groups]
  rw [tableAfter, tableAfter, tableFor, tableFor, sameChoice, alike.groups, alike.table, same.name,
    same.properties]

/-- Both forms of a class leave alike collectors alike. -/
theorem take (alike : Alike declared left right) {decl other : ClassDecl}
    (same : decl.Alike declared other) (isDeclared : decl.name ∈ declared) {table : ClassTable}
    (extended : Extends left.table table decl.name) :
    Alike declared { left.takeParent decl with table } { right.takeParent other with table } where
  groups := by rw [groups_takeParent, groups_takeParent, alike.groups]
  table := rfl
  parents := by
    intro name
    rw [getElem?_parents_takeParent, getElem?_parents_takeParent, same.name]
    by_cases isClass : other.name = name
    · rw [if_pos isClass, if_pos isClass]
      have sameParents := same.parent
      rw [isClass] at sameParents
      generalize decl.parent = ofDecl, other.parent = ofOther at sameParents ⊢
      cases sameParents with
      | none => exact alike.parents name
      | some sameParent => exact .some sameParent
    · rw [if_neg isClass, if_neg isClass]
      exact alike.parents name
  indexed := extended.indexed
  known := by
    intro name member
    rcases extended.names name member with rfl | before
    · exact isDeclared
    · exact alike.known name before

/-! ## Merging -/

/-- One step of the merge changes a table in the same way for both parents. -/
theorem fst_mergeChild_eq (alike : Alike declared left right)
    {state other : ClassTable × List AbsentParent} (sameTable : state.1 = other.1)
    (indexed : state.1.Indexed) (names : state.1.classNames = left.table.classNames)
    (child : String × FieldTable) :
    (mergeChild left.parents state child).1 = (mergeChild right.parents other child).1 := by
  have idle : ∀ {parent}, IdleParent declared child.1 parent →
      state.1.contains parent = false ∨ parent = child.1 := by
    intro parent isIdle
    refine isIdle.imp_left fun undeclared => ?_
    rw [Bool.eq_false_iff, ne_eq, ClassTable.contains_iff indexed, names]
    exact fun member => undeclared (alike.known parent member)
  match ofLeft : left.parents[child.1]?, ofRight : right.parents[child.1]?,
    alike.parents child.1 with
  | none, none, .none => simp only [mergeChild, ofLeft, ofRight, sameTable]
  | some parent, some _, .some (.inl rfl) =>
      simp only [mergeChild, ofLeft, ofRight, sameTable]
      split
      · rfl
      · split
        · exact sameTable
        · rfl
  | some _, some _, .some (.inr ⟨leftIdle, rightIdle⟩) =>
      rw [fst_mergeChild_of_idle ofLeft (idle leftIdle), sameTable,
        fst_mergeChild_of_idle ofRight (sameTable ▸ idle rightIdle)]

theorem merged_eq (alike : Alike declared left right) : left.merged.1 = right.merged.1 := by
  have fromAny : ∀ (children : List (String × FieldTable))
      (state other : ClassTable × List AbsentParent), state.1 = other.1 → state.1.Indexed →
      state.1.classNames = left.table.classNames →
      (children.foldl (mergeChild left.parents) state).1 =
        (children.foldl (mergeChild right.parents) other).1 := by
    intro children
    induction children with
    | nil => exact fun _ _ sameTable _ _ => sameTable
    | cons child others inductionHypothesis =>
        intro state other sameTable indexed names
        have sameStep := alike.fst_mergeChild_eq sameTable indexed names child
        apply inductionHypothesis _ _ sameStep (indexed_mergeChild indexed child)
        rw [← names, ClassTable.classNames, toList_mergeChild indexed, List.map_map]
        exact List.map_congr_left fun entry _ => takeFrom_fst _ child entry
  unfold merged
  rw [alike.table]
  exact fromAny _ _ _ rfl (alike.table ▸ alike.indexed) (by rw [alike.table])

end Alike

/-- Alike collectors take alike classes with the same merged table, or with the same
untyped field. -/
theorem merged_takeClasses_alike {classes others : List ClassDecl}
    (same : List.Forall₂ (ClassDecl.Alike declared) classes others)
    (areDeclared : ∀ decl ∈ classes, decl.name ∈ declared) {left right : Collector}
    (alike : Alike declared left right) :
    (left.takeClasses classes).map (·.merged.1) =
      (right.takeClasses others).map (·.merged.1) := by
  induction same generalizing left right with
  | nil => exact congrArg Except.ok alike.merged_eq
  | @cons decl other _ _ sameDecl _ inductionHypothesis =>
      rw [List.forall_mem_cons] at areDeclared
      obtain ⟨isDeclared, othersDeclared⟩ := areDeclared
      have sameTable := alike.tableAfter_eq sameDecl
      rw [takeClasses_cons, takeClasses_cons, ← sameTable]
      cases taken : left.tableAfter decl with
      | error untyped => rfl
      | ok table =>
          have extended := extends_tableAfter alike.indexed taken
          exact inductionHypothesis othersDeclared (alike.take sameDecl isDeclared extended)

/-- **Idle parents do not matter.** Models that differ only in idle parents have the same
merged table, for all choices of groups. -/
theorem merged_forGroups_alike {classes others : List ClassDecl}
    (same : List.Forall₂ (ClassDecl.Alike (classes.map ClassDecl.name)) classes others)
    (groups : List String) :
    ((forGroups groups).takeClasses classes).map (·.merged.1) =
      ((forGroups groups).takeClasses others).map (·.merged.1) := by
  apply merged_takeClasses_alike same
  · exact fun decl member => List.mem_map_of_mem member
  · exact {
      groups := rfl
      table := rfl
      parents := fun _ => .none
      indexed := ClassTable.indexed_empty
      known := fun name member => absurd member List.not_mem_nil }

end Collector
end EntityGen
