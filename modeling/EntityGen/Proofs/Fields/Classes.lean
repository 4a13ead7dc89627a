import EntityGen.Fields.Classes
import EntityGen.Proofs.Model.Named

/-!
Contract: what the operations on fields and classes do, seen on their lists.

Owns:
- putting a field into a field table, and offering fields to one;
- `ClassTable.Indexed`, the agreement of classes and positions, and that every
  operation keeps it;
- entering and modifying as list operations.

Does not own: how a model is collected, and the merge.

Only under `Indexed` do the lists tell everything: it is what makes a lookup by
position find the class of the name that was looked up.
-/

namespace EntityGen

open EntityGen.Model (DataType)

namespace FieldTable

theorem entries_offer (table : FieldTable) (name : String) (type : DataType) :
    (table.offer name type).entries =
      (Named.add? Field.name ⟨name, type⟩ table.entries).getD table.entries := by
  unfold offer offer?
  cases Named.add? Field.name ⟨name, type⟩ table.entries <;> rfl

/-- Absorbing a table appends the first uses of names that are still free. -/
theorem absorb_eq (table other : FieldTable) :
    table.absorb other =
      ⟨table.entries ++ Named.firstUses Field.name table.names other.entries⟩ := by
  have onEntries : ∀ (offered : List Field) (known : FieldTable),
      (offered.foldl (fun result field => result.offer field.name field.type) known).entries =
        offered.foldl (fun entries field =>
          (Named.add? Field.name field entries).getD entries) known.entries := by
    intro offered
    induction offered with
    | nil => exact fun _ => rfl
    | cons field others inductionHypothesis =>
        intro known
        rw [List.foldl_cons, List.foldl_cons, inductionHypothesis, entries_offer]
  have entriesEqual := onEntries other.entries table
  rw [Named.foldl_add?] at entriesEqual
  exact congrArg FieldTable.mk entriesEqual

theorem names_put (table : FieldTable) (name : String) (type : DataType) :
    (table.put name type).names =
      if name ∈ table.names then table.names else table.names ++ [name] :=
  Named.map_nameOf_place _ _

end FieldTable

namespace ClassTable

/-- The names of the classes in order. -/
def classNames (table : ClassTable) : List String := table.toList.map Prod.fst

/-- A name has a position exactly if the class of that name stands there. -/
def Indexed (table : ClassTable) : Prop :=
  ∀ className position,
    table.position? className = some position ↔ table.classNames[position]? = some className

theorem indexed_empty : Indexed {} := by
  intro className position
  constructor
  · intro found
    exact absurd (show (none : Option Nat) = some position from found) (by simp)
  · intro found
    exact absurd (show (none : Option String) = some className from found) (by simp)

section Lookup

variable {table : ClassTable}

theorem contains_iff (indexed : table.Indexed) (className : String) :
    table.contains className = true ↔ className ∈ table.classNames := by
  rw [contains, Std.TreeMap.contains_eq_isSome_getElem?, Option.isSome_iff_exists,
    List.mem_iff_getElem?]
  exact exists_congr fun position => indexed className position

/-- No two classes have the same name. -/
theorem nodup_classNames (indexed : table.Indexed) : table.classNames.Nodup := by
  rw [List.nodup_iff_injective_getElem]
  intro left right same
  have leftFound := (indexed _ _).mpr (List.getElem?_eq_getElem left.isLt)
  have rightFound := (indexed _ _).mpr (List.getElem?_eq_getElem right.isLt)
  simp only at same
  rw [same, rightFound] at leftFound
  exact Fin.ext (Option.some.inj leftFound).symm

/-- The fields found under a name are those of the class of that name. -/
theorem get?_eq_some_iff (indexed : table.Indexed) (className : String) (fields : FieldTable) :
    table.get? className = some fields ↔ (className, fields) ∈ table.toList := by
  unfold get?
  constructor
  · intro found
    obtain ⟨position, positionFound, entryFound⟩ := Option.bind_eq_some_iff.mp found
    obtain ⟨entry, atPosition, rfl⟩ := Option.map_eq_some_iff.mp entryFound
    have listed : table.toList[position]? = some entry := by
      rw [toList, Array.getElem?_toList]
      exact atPosition
    have named := (indexed className position).mp positionFound
    rw [classNames, List.getElem?_map, listed, Option.map_some, Option.some.injEq] at named
    rw [← named]
    exact List.mem_of_getElem? listed
  · intro member
    obtain ⟨position, listed⟩ := List.mem_iff_getElem?.mp member
    have named : table.classNames[position]? = some className := by
      rw [classNames, List.getElem?_map, listed, Option.map_some]
    rw [(indexed className position).mpr named, Option.bind_some]
    rw [toList, Array.getElem?_toList] at listed
    rw [listed, Option.map_some]

theorem mem_classNames_iff (indexed : table.Indexed) (className : String) :
    className ∈ table.classNames ↔ ∃ fields, table.get? className = some fields := by
  simp only [get?_eq_some_iff indexed]
  rw [classNames, List.mem_map]
  constructor
  · rintro ⟨⟨_, fields⟩, member, rfl⟩
    exact ⟨fields, member⟩
  · rintro ⟨fields, member⟩
    exact ⟨_, member, rfl⟩

end Lookup

/-! ## Entering -/

section Enter

variable {table : ClassTable}

theorem toList_enter (indexed : table.Indexed) (className : String) :
    (table.enter className).toList =
      if className ∈ table.classNames then table.toList
      else table.toList ++ [(className, .empty)] := by
  unfold enter
  by_cases present : className ∈ table.classNames
  · rw [if_pos ((contains_iff indexed className).mpr present), if_pos present]
  · rw [if_neg (fun found => present ((contains_iff indexed className).mp found)),
      if_neg present]
    simp [toList]

private theorem getElem?_concat_eq_some_iff {names : List String} {last name : String}
    {position : Nat} :
    (names ++ [last])[position]? = some name ↔
      (last = name ∧ names.length = position) ∨ names[position]? = some name := by
  rcases Nat.lt_trichotomy position names.length with inside | atEnd | outside
  · rw [List.getElem?_append_left inside]
    exact ⟨Or.inr, fun found => found.resolve_left fun last => by omega⟩
  · subst atEnd
    simp
  · have shorter : names.length ≤ position := Nat.le_of_lt outside
    simp only [List.getElem?_append_right shorter, List.getElem?_eq_none shorter]
    rw [List.getElem?_eq_none (by simp; omega)]
    simp
    omega

theorem indexed_enter (indexed : table.Indexed) (className : String) :
    (table.enter className).Indexed := by
  by_cases present : table.contains className = true
  · rwa [enter, if_pos present]
  · have absent : className ∉ table.classNames :=
      fun member => present ((contains_iff indexed className).mpr member)
    have names : (table.enter className).classNames = table.classNames ++ [className] := by
      rw [classNames, toList_enter indexed, if_neg absent, List.map_append]
      rfl
    have size : table.classes.size = table.classNames.length := by
      simp [classNames, toList]
    intro name position
    have positionOf : (table.enter className).position? name =
        if className = name then some table.classNames.length else table.position? name := by
      simp only [enter, if_neg present, position?, Std.TreeMap.getElem?_insert,
        Std.LawfulEqOrd.compare_eq_iff_eq, size]
    rw [names, positionOf, getElem?_concat_eq_some_iff, ← indexed name position]
    by_cases same : className = name
    · subst name
      have notThere : table.position? className ≠ some position := fun found =>
        absent (List.mem_of_getElem? ((indexed className position).mp found))
      simp [notThere]
    · simp [same]

end Enter

/-! ## Modifying -/

section Modify

variable {table : ClassTable}

/-- The class of one name with its fields changed, and any other class as it
was. -/
def changeOne (className : String) (change : FieldTable → FieldTable)
    (entry : String × FieldTable) : String × FieldTable :=
  if entry.1 = className then (entry.1, change entry.2) else entry

@[simp] theorem changeOne_fst (className : String) (change : FieldTable → FieldTable)
    (entry : String × FieldTable) : (changeOne className change entry).1 = entry.1 := by
  unfold changeOne
  split <;> rfl

theorem toList_modify (indexed : table.Indexed) (className : String)
    (change : FieldTable → FieldTable) :
    (table.modify className change).toList = table.toList.map (changeOne className change) := by
  unfold modify
  cases found : table.position? className with
  | none =>
      have absent : className ∉ table.classNames := by
        intro member
        obtain ⟨position, named⟩ := List.mem_iff_getElem?.mp member
        rw [(indexed className position).mpr named] at found
        exact absurd found (by simp)
      have unchanged : ∀ entry ∈ table.toList, changeOne className change entry = entry := by
        intro entry member
        have different : entry.1 ≠ className := by
          rintro rfl
          exact absent (List.mem_map_of_mem member)
        rw [changeOne, if_neg different]
      rw [List.map_congr_left unchanged, List.map_id']
  | some position =>
      apply List.ext_getElem?
      intro other
      simp only [toList, Array.getElem?_toList, Array.getElem?_modify, List.getElem?_map]
      cases atOther : table.classes[other]? with
      | none => simp
      | some entry =>
          have otherNamed : table.classNames[other]? = some entry.1 := by
            rw [classNames, toList, List.getElem?_map, Array.getElem?_toList, atOther]
            rfl
          have here : position = other ↔ entry.1 = className := by
            have positioned := indexed className other
            rwa [found, otherNamed, Option.some.injEq, Option.some.injEq] at positioned
          by_cases same : entry.1 = className
          · rw [if_pos (here.mpr same), Option.map_some, Option.map_some, changeOne, if_pos same]
          · rw [if_neg fun equal => same (here.mp equal), Option.map_some, changeOne,
              if_neg same]

theorem indexed_modify (indexed : table.Indexed) (className : String)
    (change : FieldTable → FieldTable) : (table.modify className change).Indexed := by
  have names : (table.modify className change).classNames = table.classNames := by
    rw [classNames, toList_modify indexed, List.map_map, classNames]
    exact List.map_congr_left fun entry _ => changeOne_fst className change entry
  have positions : (table.modify className change).positions = table.positions := by
    unfold modify
    split <;> rfl
  intro name position
  rw [names, position?, positions]
  exact indexed name position

end Modify

end ClassTable
end EntityGen
