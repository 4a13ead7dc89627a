import EntityGen.Proofs.TypeScript.Import

/-!
Contract: the import line of a plain class says which import it is.

Owns:
- lines that are equal only for equal imports;
- the imports to which fields of a plain class lead.

Does not own: where an import leads.

A line holds its name and its path between fixed texts, and either could hold
parts of these. The dots tell them apart: a plain class has none but those of
the way up, with which its path starts.
-/

namespace EntityGen.TypeScript

variable {policy : NamingPolicy} {source target : String} {fields : FieldTable}

/-- What a line holds before its path. -/
def Import.opening (imported : Import) : String :=
  "import \x7b " ++ imported.name ++ " \x7d from '"

private theorem toList_line (imported : Import) :
    imported.line.toList = imported.opening.toList ++ imported.path.toList ++ "';".toList := by
  rw [Import.line, String.toList_append, String.toList_append, Import.opening]

private theorem toList_opening (imported : Import) :
    imported.opening.toList =
      "import \x7b ".toList ++ imported.name.toList ++ " \x7d from '".toList := by
  rw [Import.opening, String.toList_append, String.toList_append]

private theorem count_dot_opening (imported : Import) :
    imported.opening.toList.count '.' = imported.name.toList.count '.' := by
  have start : "import \x7b ".toList.count '.' = 0 := List.count_eq_zero.mpr (by simp)
  have finish : " \x7d from '".toList.count '.' = 0 := List.count_eq_zero.mpr (by simp)
  rw [toList_opening, List.count_append, List.count_append, start, finish, Nat.zero_add,
    Nat.add_zero]

private theorem dot_not_mem_opening {imported : Import} (free : '.' ∉ imported.name.toList) :
    '.' ∉ imported.opening.toList := by
  rw [← List.count_eq_zero, count_dot_opening, List.count_eq_zero]
  exact free

/-- Where names have no dot and paths start with one, lines are equal only for
equal imports. -/
theorem eq_of_line_eq {left right : Import} (leftName : '.' ∉ left.name.toList)
    (rightName : '.' ∉ right.name.toList) (leftPath : left.path.toList.head? = some '.')
    (rightPath : right.path.toList.head? = some '.') (same : left.line = right.line) :
    left = right := by
  have sameText := congrArg String.toList same
  rw [toList_line, toList_line] at sameText
  obtain ⟨leftRest, leftSplit⟩ := List.head?_eq_some_iff.mp leftPath
  obtain ⟨rightRest, rightSplit⟩ := List.head?_eq_some_iff.mp rightPath
  have samePieces := congrArg (Text.pieces '.') sameText
  rw [leftSplit, rightSplit, List.append_assoc, List.append_assoc, List.cons_append,
    List.cons_append, Text.pieces_append_cons, Text.pieces_append_cons,
    Text.pieces_of_not_mem (dot_not_mem_opening leftName),
    Text.pieces_of_not_mem (dot_not_mem_opening rightName)] at samePieces
  have sameOpening := (List.cons.inj samePieces).1
  have samePath : left.path = right.path := by
    rw [sameOpening, List.append_assoc, List.append_assoc] at sameText
    exact String.toList_injective (List.append_cancel_right (List.append_cancel_left sameText))
  have sameName : left.name = right.name := by
    rw [toList_opening, toList_opening] at sameOpening
    apply String.toList_injective
    exact List.append_cancel_left (List.append_cancel_right sameOpening)
  cases left
  cases right
  exact Import.mk.injEq .. ▸ ⟨sameName, samePath⟩

private theorem head?_upwards (depth : Nat) :
    (NamingPolicy.upwards depth).toList.head? = some '.' := by
  match depth with
  | 0 => rfl
  | 1 => rfl
  | deeper + 2 =>
      rw [NamingPolicy.upwards, String.toList_append]
      rfl

theorem head?_importPath (policy : NamingPolicy) (target source : String) :
    (policy.importPath target source).toList.head? = some '.' := by
  rw [NamingPolicy.importPath, String.toList_append, List.head?_append, head?_upwards]
  rfl

/-- The dots of a line: those of the name, of the way up and of the way down. -/
private theorem count_dot_line (policy : NamingPolicy) (source target : String) :
    (importOf policy source target).line.toList.count '.' =
      (policy.identifier target).toList.count '.' +
        (NamingPolicy.upwards ((policy.segments source).length - 1)).toList.count '.' +
          (policy.moduleName target).toList.count '.' := by
  have finish : "';".toList.count '.' = 0 := List.count_eq_zero.mpr (by simp)
  rw [toList_line, List.count_append, List.count_append, count_dot_opening, finish,
    Nat.add_zero, importOf, NamingPolicy.importPath, String.toList_append, List.count_append,
    Nat.add_assoc]

/-- No other class has the import line of a plain class. -/
theorem importOf_eq_of_line_eq {other : String} (plain : policy.Plain target)
    (same : (importOf policy source other).line = (importOf policy source target).line) :
    importOf policy source other = importOf policy source target := by
  have targetName := NamingPolicy.dot_not_mem_identifier plain
  -- Equal lines have equally many dots, and the way up is the same for both.
  have otherName : '.' ∉ (policy.identifier other).toList := by
    have counts := congrArg (fun line => line.toList.count '.') same
    simp only [count_dot_line, List.count_eq_zero.mpr targetName,
      List.count_eq_zero.mpr (NamingPolicy.dot_not_mem_moduleName plain)] at counts
    exact List.count_eq_zero.mp (by omega)
  exact eq_of_line_eq otherName targetName (head?_importPath policy other source)
    (head?_importPath policy target source) same

/-- A plain class to which a field refers is imported, unless it goes without
import. -/
theorem importOf_mem_imports (plain : policy.Plain target) {field : Field}
    (isField : field ∈ fields.toList) (refers : field.type.element = .object target)
    (needed : needsNoImport policy source target = false) :
    importOf policy source target ∈ imports policy source fields := by
  have asked : askedImport? policy source field = some (importOf policy source target) := by
    have identifiers := mt needsNoImport_iff.mpr (Bool.eq_false_iff.mp needed)
    rw [not_or] at identifiers
    exact askedImport?_eq_some_iff.mpr ⟨target, refers, identifiers.1, identifiers.2, rfl⟩
  have once := count_line_of_asked isField asked
  have occurs : (importOf policy source target).line ∈
      (imports policy source fields).map Import.line := by
    apply List.count_pos_iff.mp
    omega
  obtain ⟨imported, member, sameLine⟩ := List.mem_map.mp occurs
  obtain ⟨_, _, askedFirst⟩ := exists_asked_of_mem_imports member
  obtain ⟨other, -, -, -, rfl⟩ := askedImport?_eq_some_iff.mp askedFirst
  exact importOf_eq_of_line_eq plain sameLine ▸ member

end EntityGen.TypeScript
