import EntityGen.Proofs.Fields.Classes
import EntityGen.Proofs.Model.Calls
import EntityGen.Proofs.Model.RoundTrip

/-!
Contract: field tables and classes after any calls that fill them.

Owns:
- the two calls on a field table, and the two on a class, as calls on their entries;
- that both containers keep the order of insertion, and what is found in them.

Does not own: the lists of entries that they share.

A field table is asked by names and types, a class by whole properties, and only a class
tells why it refuses an entry. What both hold is one list of named entries, filled by the
same calls.
-/

namespace EntityGen

open EntityGen.Model (ClassDecl DataType Property)
open EntityGen.Named (Call standing? usedNames)

namespace FieldTable

/-- The table that a call leaves, also when it refuses the field. -/
def perform (table : FieldTable) : Call Field → FieldTable
  | .place field => table.put field.name field.type
  | .add field => table.offer field.name field.type

/-- The table that calls leave, one after the other. -/
def afterCalls (calls : List (Call Field)) : FieldTable :=
  calls.foldl perform empty

theorem entries_perform (table : FieldTable) (call : Call Field) :
    (table.perform call).entries = Named.perform Field.name table.entries call := by
  cases call with
  | place field => rfl
  | add field => exact entries_offer table field.name field.type

theorem entries_afterCalls (calls : List (Call Field)) :
    (afterCalls calls).entries = Named.afterCalls Field.name calls :=
  (List.foldl_hom entries fun table call => (entries_perform table call).symm).symm

theorem isSome_offer? (table : FieldTable) (name : String) (type : DataType) :
    (table.offer? name type).isSome = true ↔ name ∉ table.names := by
  rw [offer?, Option.isSome_map]
  exact Named.add?_isSome_iff ⟨name, type⟩ table.entries

theorem offer_of_taken {table : FieldTable} {name : String} (isTaken : name ∈ table.names)
    (type : DataType) : table.offer name type = table := by
  have refused : table.offer? name type = none := by
    rw [← Option.not_isSome_iff_eq_none, isSome_offer?]
    exact not_not_intro isTaken
  rw [offer, refused, Option.getD_none]

theorem contains_iff (table : FieldTable) (name : String) :
    table.contains name = true ↔ name ∈ table.names := by
  rw [contains, get?, Option.isSome_map]
  exact Named.find?_isSome_iff Field.name name table.entries

end FieldTable

namespace Model.ClassDecl

/-- The class that a call leaves. A property that is refused leaves the class as it is. -/
def perform (decl : ClassDecl) : Call Property → ClassDecl
  | .place property => decl.redeclare property
  | .add property =>
    match decl.declare property with
    | .ok extended => extended
    | .error _ => decl

/-- The class of a name that calls leave, one after the other. -/
def afterCalls (className : String) (calls : List (Call Property)) : ClassDecl :=
  calls.foldl perform { name := className }

theorem perform_eq (decl : ClassDecl) (call : Call Property) :
    decl.perform call =
      { decl with properties := Named.perform Property.name decl.properties call } := by
  cases call with
  | place property => rfl
  | add property =>
      rw [perform, declare, declare?, Named.perform]
      cases Named.add? Property.name property decl.properties <;> rfl

/-- Calls change nothing but the properties. -/
theorem afterCalls_eq (className : String) (calls : List (Call Property)) :
    afterCalls className calls =
      { name := className, properties := Named.afterCalls Property.name calls } :=
  List.foldl_hom (fun properties => { name := className, properties := properties : ClassDecl })
    fun properties call => perform_eq { name := className, properties := properties } call

end Model.ClassDecl

/-- **Insertion order.** After any calls, a field table lists every name used, once, in the
order of the first calls, and finds under a name the type that was put last, or else the
one that was offered first. It takes an offer exactly if no call used the name, and stays
as it is otherwise. Its size and its other answers agree with the listed names. A class
keeps its properties by the same law, whole, and keeps its name and parent. A property whose
name was used is reported as declared twice and leaves the class as it was. -/
theorem containers_keep_insertion_order :
    (∀ calls : List (Call Field),
      let table := FieldTable.afterCalls calls
      table.names = (usedNames Field.name calls).eraseDups ∧
        (∀ name, table.get? name = (standing? Field.name calls name).map Field.type) ∧
        (∀ name type,
          ((table.offer? name type).isSome = true ↔ name ∉ usedNames Field.name calls) ∧
            (name ∈ usedNames Field.name calls → table.offer name type = table)) ∧
        table.size = table.names.length ∧
        (∀ name, table.contains name = true ↔ name ∈ table.names) ∧
        (table.isEmpty = true ↔ table.names = [])) ∧
      ∀ (className : String) (calls : List (Call Property)),
        let decl := ClassDecl.afterCalls className calls
        decl.name = className ∧ decl.parent = none ∧
          decl.properties.map Property.name = (usedNames Property.name calls).eraseDups ∧
          (∀ name, decl.property? name = standing? Property.name calls name) ∧
          ∀ property,
            (property.name ∉ usedNames Property.name calls →
              decl.declare property =
                .ok { decl with properties := decl.properties ++ [property] }) ∧
              (property.name ∈ usedNames Property.name calls →
                decl.declare property =
                    .error (.declaredTwice "property" (className ++ "::" ++ property.name)) ∧
                  decl.perform (.add property) = decl) := by
  refine ⟨fun calls => ?_, fun className calls => ?_⟩
  · intro table
    have entries : table.entries = Named.afterCalls Field.name calls :=
      FieldTable.entries_afterCalls calls
    have names : table.names = (usedNames Field.name calls).eraseDups := by
      rw [FieldTable.names, entries, Named.map_nameOf_afterCalls]
    have taken (name : String) : name ∈ table.names ↔ name ∈ usedNames Field.name calls := by
      rw [names, List.mem_eraseDups]
    refine ⟨names, fun name => ?_, fun name type => ⟨?_, fun isTaken => ?_⟩,
      (List.length_map _).symm, table.contains_iff, ?_⟩
    · rw [FieldTable.get?, entries, Named.find?_afterCalls]
    · rw [table.isSome_offer?, taken]
    · exact FieldTable.offer_of_taken ((taken name).mpr isTaken) type
    · rw [FieldTable.isEmpty, List.isEmpty_iff, FieldTable.names, List.map_eq_nil_iff]
  · intro decl
    have same : decl = { name := className, properties := Named.afterCalls Property.name calls } :=
      ClassDecl.afterCalls_eq className calls
    have properties : decl.properties = Named.afterCalls Property.name calls :=
      congrArg ClassDecl.properties same
    have taken (name : String) :
        name ∈ decl.properties.map Property.name ↔ name ∈ usedNames Property.name calls := by
      rw [properties, Named.mem_map_nameOf_afterCalls]
    refine ⟨congrArg ClassDecl.name same, congrArg ClassDecl.parent same, ?_, fun name => ?_,
      fun property => ⟨fun isFree => ?_, fun isTaken => ?_⟩⟩
    · rw [properties, Named.map_nameOf_afterCalls]
    · rw [ClassDecl.property?, properties, Named.find?_afterCalls]
    · exact ClassDecl.declare_of_free fun isTaken => isFree ((taken _).mp isTaken)
    · have refused : decl.declare property =
          .error (.declaredTwice "property" (className ++ "::" ++ property.name)) := by
        rw [ClassDecl.declare_of_taken ((taken _).mpr isTaken), ClassDecl.qualifiedName, same]
      rw [ClassDecl.perform, refused]
      exact ⟨rfl, rfl⟩

end EntityGen
