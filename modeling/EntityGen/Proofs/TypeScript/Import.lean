import EntityGen.Proofs.Model.Named
import EntityGen.Proofs.Naming.Policy
import EntityGen.TypeScript.File

/-!
Contract: the imports of a class file against the types of its fields.

Owns:
- the imports of a file as the first uses of their lines;
- the place at which fields first ask for an import;
- the agreement of field types and imports.

Does not own: where an import leads.

Field types and imports are made by different functions. What ties them is the
identifier of the class referred to: it is the name in the type, and it alone
decides whether the class is imported.
-/

namespace EntityGen.TypeScript

open EntityGen.Model (DataType Element dateTimeClass)

variable {policy : NamingPolicy} {source target : String} {fields : FieldTable}

/-! ## Which references are imported -/

/-- Classes of the same reduced name have the same identifier. -/
theorem identifier_eq_of_sameName {left right : String}
    (same : policy.sameName left right = true) :
    policy.identifier left = policy.identifier right := by
  unfold NamingPolicy.identifier
  rw [NamingPolicy.segments_eq_of_sameName same]

/-- A class goes without import exactly for its identifier. -/
theorem needsNoImport_iff :
    needsNoImport policy source target = true ↔
      policy.identifier target = dateTimeClass ∨
        policy.identifier target = policy.identifier source := by
  unfold needsNoImport
  simp only [Bool.or_eq_true, beq_iff_eq]
  constructor
  · rintro ((isMoment | sameIdentifier) | sameName)
    · exact Or.inl isMoment
    · exact Or.inr sameIdentifier
    · exact Or.inr (identifier_eq_of_sameName sameName)
  · exact Or.inl

/-- The import for which a field asks, as the identifiers decide it. -/
def askedImport? (policy : NamingPolicy) (source : String) (field : Field) : Option Import :=
  match field.type.element with
  | .scalar _ => none
  | .object target =>
    if policy.identifier target = dateTimeClass ∨
        policy.identifier target = policy.identifier source then none
    else some (importOf policy source target)

/-- The place of the first field that asks for an import of the given line. -/
def firstAsked (policy : NamingPolicy) (source : String) (fields : FieldTable) (line : String) :
    Nat :=
  fields.toList.findIdx fun field =>
    (askedImport? policy source field).any (·.line == line)

theorem askedImport?_eq_some_iff {field : Field} {imported : Import} :
    askedImport? policy source field = some imported ↔
      ∃ target, field.type.element = .object target ∧
        policy.identifier target ≠ dateTimeClass ∧
        policy.identifier target ≠ policy.identifier source ∧
        importOf policy source target = imported := by
  unfold askedImport?
  cases field.type.element with
  | scalar name => simp
  | object target =>
      by_cases without : policy.identifier target = dateTimeClass ∨
          policy.identifier target = policy.identifier source
      · simp only [if_pos without, Element.object.injEq]
        constructor
        · intro none
          cases none
        · rintro ⟨_, rfl, notMoment, notOwn, -⟩
          exact absurd without (not_or.mpr ⟨notMoment, notOwn⟩)
      · have needed := not_or.mp without
        simp [needed]

/-! ## The list of imports -/

theorem distinctLines_eq_firstUses (seen : List String) (imported : List Import) :
    distinctLines seen imported = Named.firstUses Import.line seen imported := by
  induction imported generalizing seen with
  | nil => rfl
  | cons first others inductionHypothesis =>
      unfold distinctLines Named.firstUses
      simp only [List.contains_iff_mem, inductionHypothesis]

/-- The imports of a file are the first uses of the lines for which its fields
ask. -/
theorem imports_eq_firstUses (policy : NamingPolicy) (source : String) (fields : FieldTable) :
    imports policy source fields =
      Named.firstUses Import.line [] (fields.toList.filterMap (askedImport? policy source)) := by
  unfold imports targets
  rw [distinctLines_eq_firstUses, List.filter_filterMap, List.map_filterMap]
  congr 2
  funext field
  unfold askedImport? DataType.target?
  cases field.type.element with
  | scalar name => rfl
  | object target =>
      simp only [← needsNoImport_iff]
      cases without : needsNoImport policy source target with
      | false => simp [without]
      | true => simp [without]

/-- Every import is asked for by a field. -/
theorem exists_asked_of_mem_imports {imported : Import}
    (member : imported ∈ imports policy source fields) :
    ∃ field ∈ fields.toList, askedImport? policy source field = some imported := by
  rw [imports_eq_firstUses] at member
  exact List.mem_filterMap.mp ((Named.firstUses_sublist _ _).subset member)

/-- A line for which a field asks occurs among the imports, and only once. -/
theorem count_line_of_asked {field : Field} (isField : field ∈ fields.toList) {imported : Import}
    (asked : askedImport? policy source field = some imported) :
    ((imports policy source fields).map Import.line).count imported.line = 1 := by
  have used : imported ∈ fields.toList.filterMap (askedImport? policy source) :=
    List.mem_filterMap.mpr ⟨field, isField, asked⟩
  rw [imports_eq_firstUses]
  apply List.count_eq_one_of_mem (Named.nodup_map_firstUses _ _)
  rw [Named.mem_map_firstUses]
  exact ⟨List.mem_map_of_mem used, List.not_mem_nil⟩

private theorem findIdx_filterMap_lt {α β : Type} {view : α → Option β} {left right : β → Bool}
    (items : List α)
    (before : (items.filterMap view).findIdx left < (items.filterMap view).findIdx right) :
    items.findIdx (fun item => (view item).any left) <
      items.findIdx (fun item => (view item).any right) := by
  induction items with
  | nil => exact before
  | cons item others inductionHypothesis =>
      rw [List.findIdx_cons, List.findIdx_cons]
      cases seen : view item with
      | none =>
          rw [List.filterMap_cons_none seen] at before
          exact Nat.succ_lt_succ (inductionHypothesis before)
      | some found =>
          rw [List.filterMap_cons_some seen, List.findIdx_cons, List.findIdx_cons] at before
          simp only [Option.any_some]
          cases isRight : right found with
          | true => simp [isRight] at before
          | false =>
              cases isLeft : left found with
              | true => exact Nat.succ_pos _
              | false =>
                  simp only [isLeft, isRight, cond_false] at before ⊢
                  exact Nat.succ_lt_succ (inductionHypothesis (Nat.lt_of_succ_lt_succ before))

/-- Imports stand in the order in which fields first ask for them. -/
theorem pairwise_firstAsked (policy : NamingPolicy) (source : String) (fields : FieldTable) :
    (imports policy source fields).Pairwise fun earlier later =>
      firstAsked policy source fields earlier.line <
        firstAsked policy source fields later.line := by
  rw [imports_eq_firstUses]
  exact (Named.pairwise_firstUses _ _).imp fun before => findIdx_filterMap_lt _ before

/-- A scalar field has no part in the imports. -/
theorem imports_without_scalar {before after : List Field} {scalar : Field} {name : String}
    (isScalar : scalar.type.element = .scalar name) :
    imports policy source ⟨before ++ scalar :: after⟩ =
      imports policy source ⟨before ++ after⟩ := by
  have nothing : askedImport? policy source scalar = none := by
    unfold askedImport?
    rw [isScalar]
  simp only [imports_eq_firstUses, FieldTable.toList, List.filterMap_append,
    List.filterMap_cons_none nothing]

/-! ## Types and imports -/

/-- The type of a field that refers to a class. -/
def referenceType (policy : NamingPolicy) (target : String) (collection : Bool) : String :=
  (if policy.identifier target = dateTimeClass then "string" else policy.identifier target) ++
    if collection then "[]" else ""

theorem fieldForm_of_object {type : DataType} (refers : type.element = .object target) :
    fieldForm policy type = .typed (referenceType policy target type.collection) := by
  unfold fieldForm referenceType memberType
  rw [refers]
  simp only [referenceName, momentAsText, beq_iff_eq]
  cases type.collection <;> simp

/-- **Types and imports agree.** A field that refers to a class has the
identifier of the class as its type, or `string` for a moment in time, with
brackets for a collection; and unless the identifier is that of a moment or of
the file itself, exactly one import has the line of the class. Nothing else is
imported: every import is asked for by such a field, scalar fields have no part
in the imports, lines do not repeat, and they stand in the order in which fields
first ask for them. Whether two names are the same once reduced never decides
about an import. -/
theorem types_and_imports_agree (policy : NamingPolicy) (source : String)
    (fields : FieldTable) :
    (∀ field ∈ fields.toList, ∀ target, field.type.element = .object target →
      fieldForm policy field.type = .typed (referenceType policy target field.type.collection) ∧
        (policy.identifier target ≠ dateTimeClass →
          policy.identifier target ≠ policy.identifier source →
          ((imports policy source fields).map Import.line).count
            (importOf policy source target).line = 1)) ∧
      (∀ imported ∈ imports policy source fields,
        imported.name ≠ dateTimeClass ∧ imported.name ≠ policy.identifier source ∧
          ∃ field ∈ fields.toList, ∃ target, field.type.element = .object target ∧
            imported = importOf policy source target) ∧
      (∀ before scalar after name, fields.toList = before ++ scalar :: after →
        scalar.type.element = .scalar name →
        imports policy source fields = imports policy source ⟨before ++ after⟩) ∧
      ((imports policy source fields).map Import.line).Nodup ∧
      (imports policy source fields).Pairwise (fun earlier later =>
        firstAsked policy source fields earlier.line <
          firstAsked policy source fields later.line) ∧
      ∀ target, needsNoImport policy source target = true ↔
        policy.identifier target = dateTimeClass ∨
          policy.identifier target = policy.identifier source := by
  refine ⟨fun field isField target refers => ⟨fieldForm_of_object refers, ?_⟩, ?_, ?_, ?_,
    pairwise_firstAsked policy source fields, fun target => needsNoImport_iff⟩
  · intro notMoment notOwn
    apply count_line_of_asked isField
    exact askedImport?_eq_some_iff.mpr ⟨target, refers, notMoment, notOwn, rfl⟩
  · intro imported member
    obtain ⟨field, isField, asked⟩ := exists_asked_of_mem_imports member
    obtain ⟨target, refers, notMoment, notOwn, rfl⟩ := askedImport?_eq_some_iff.mp asked
    exact ⟨notMoment, notOwn, field, isField, target, refers, rfl⟩
  · intro before scalar after name split isScalar
    have same : fields = ⟨before ++ scalar :: after⟩ := congrArg FieldTable.mk split
    rw [same]
    exact imports_without_scalar isScalar
  · rw [imports_eq_firstUses]
    exact Named.nodup_map_firstUses _ _

end EntityGen.TypeScript
