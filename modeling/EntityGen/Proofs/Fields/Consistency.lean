import EntityGen.Proofs.Fields.Merge

/-!
Contract: what can be relied on in every table of a collector.

Owns:
- `Consistent`, the tables in which no name stands twice and each is found where it
  stands;
- the tables on the way through the merge, child after child;
- that lookups, positions and the list of classes say the same in all of them.

Does not own: which classes and fields there are.

Classes and positions are kept side by side, and a call may stop in the middle of a
class. Every entry and every change of one class leaves the two in agreement, so
nothing has to be known about the calls, nor about the children that gave so far.
-/

namespace EntityGen

open EntityGen.Model (DataType)

namespace FieldTable

theorem nodup_names_put {table : FieldTable} (distinct : table.names.Nodup) (name : String)
    (type : DataType) : (table.put name type).names.Nodup := by
  rw [names_put]
  split
  · exact distinct
  · next new =>
      rw [List.nodup_append]
      refine ⟨distinct, List.nodup_singleton name, ?_⟩
      rintro _ isOld _ isNew rfl
      exact new (List.mem_singleton.mp isNew ▸ isOld)

theorem nodup_names_absorb {table : FieldTable} (distinct : table.names.Nodup)
    (other : FieldTable) : (table.absorb other).names.Nodup := by
  have names : (table.absorb other).names =
      table.names ++ (Named.firstUses Field.name table.names other.entries).map Field.name := by
    rw [absorb_eq]
    exact List.map_append
  rw [names, List.nodup_append]
  refine ⟨distinct, Named.nodup_map_firstUses _ _, ?_⟩
  rintro name isOwn _ isGained rfl
  exact ((Named.mem_map_firstUses _ _ name).mp isGained).2 isOwn

end FieldTable

namespace ClassTable

/-- Each class stands where its name is looked up, and no class has two fields of one
name. -/
structure Consistent (table : ClassTable) : Prop where
  indexed : table.Indexed
  distinctFields : ∀ entry ∈ table.toList, entry.2.names.Nodup

theorem consistent_empty : Consistent {} :=
  ⟨indexed_empty, fun _ member => absurd member List.not_mem_nil⟩

namespace Consistent

variable {table : ClassTable}

theorem enter (consistent : table.Consistent) (className : String) :
    (table.enter className).Consistent := by
  refine ⟨indexed_enter consistent.indexed className, ?_⟩
  rw [toList_enter consistent.indexed]
  split
  · exact consistent.distinctFields
  · rw [List.forall_mem_append, List.forall_mem_singleton]
    exact ⟨consistent.distinctFields, List.nodup_nil⟩

theorem modify (consistent : table.Consistent) (className : String)
    {change : FieldTable → FieldTable}
    (keeps : ∀ fields : FieldTable, fields.names.Nodup → (change fields).names.Nodup) :
    (table.modify className change).Consistent := by
  refine ⟨indexed_modify consistent.indexed className change, ?_⟩
  rw [toList_modify consistent.indexed]
  intro entry member
  obtain ⟨before, isBefore, rfl⟩ := List.mem_map.mp member
  have distinct := consistent.distinctFields before isBefore
  unfold changeOne
  split
  · exact keeps before.2 distinct
  · exact distinct

end Consistent

section Indexed

variable {table : ClassTable} (indexed : table.Indexed)

include indexed

/-- The class that a position names stands there. -/
theorem position?_eq_some_iff (className : String) (position : Nat) :
    table.position? className = some position ↔
      ∃ fields, table.classes[position]? = some (className, fields) := by
  rw [indexed, classNames, toList, List.getElem?_map, Array.getElem?_toList,
    Option.map_eq_some_iff]
  constructor
  · rintro ⟨⟨_, fields⟩, stands, rfl⟩
    exact ⟨fields, stands⟩
  · rintro ⟨fields, stands⟩
    exact ⟨_, stands, rfl⟩

theorem contains_eq_isSome_get? (className : String) :
    table.contains className = (table.get? className).isSome := by
  rw [Bool.eq_iff_iff, contains_iff indexed, mem_classNames_iff indexed,
    Option.isSome_iff_exists]

/-- There are as many positions as classes. -/
theorem size_positions : table.positions.size = table.size := by
  have sameNames : table.positions.keys.Perm table.classNames := by
    rw [List.perm_ext_iff_of_nodup Std.TreeMap.nodup_keys (nodup_classNames indexed)]
    intro className
    rw [Std.TreeMap.mem_keys, ← Std.TreeMap.contains_iff_mem]
    exact contains_iff indexed className
  rw [← Std.TreeMap.length_keys, sameNames.length_eq, classNames, List.length_map, toList,
    Array.length_toList, size]

end Indexed
end ClassTable

namespace Collector

theorem consistent_afterCalls (groups : List String) (calls : List CollectorCall) :
    (afterCalls groups calls).table.Consistent :=
  keeps_afterCalls ClassTable.Consistent
    (fun _ className consistent => consistent.enter className)
    (fun _ className fieldName type consistent => consistent.modify className
      fun _ distinct => FieldTable.nodup_names_put distinct fieldName type)
    ClassTable.consistent_empty groups calls

/-- The table in the merge after the first `count` classes gave to their parents. -/
def mergedUpTo (collector : Collector) (count : Nat) : ClassTable :=
  ((collector.table.toList.take count).foldl (mergeChild collector.parents)
    (collector.table, [])).1

theorem mergedUpTo_zero (collector : Collector) : collector.mergedUpTo 0 = collector.table := rfl

theorem mergedUpTo_size (collector : Collector) :
    collector.mergedUpTo collector.table.size = collector.merged.1 := by
  have all : collector.table.toList.take collector.table.size = collector.table.toList :=
    List.take_length
  rw [mergedUpTo, all, merged]

theorem consistent_mergedUpTo {collector : Collector} (consistent : collector.table.Consistent)
    (count : Nat) : (collector.mergedUpTo count).Consistent :=
  keeps_foldl_mergeChild ClassTable.Consistent
    (fun _ className fields consistent => consistent.modify className
      fun _ distinct => FieldTable.nodup_names_absorb distinct fields) _ consistent

/-- **Every table is consistent.** After any calls, also failed ones, the collected table,
the merged one and every table on the way between them agree with themselves: no two
classes and no two fields of a class share a name, the positions are exactly those at
which the named classes stand, a name is looked up with the fields that are listed for
it, and the sizes count the listed classes. -/
theorem tables_consistent (groups : List String) (calls : List CollectorCall) :
    let collector := afterCalls groups calls
    collector.mergedUpTo 0 = collector.table ∧
      collector.mergedUpTo collector.table.size = collector.merged.1 ∧
      ∀ count,
        let table := collector.mergedUpTo count
        table.classNames.Nodup ∧
          (∀ entry ∈ table.toList, entry.2.names.Nodup) ∧
          (∀ className position, table.position? className = some position ↔
            ∃ fields, table.classes[position]? = some (className, fields)) ∧
          (∀ className fields,
            table.get? className = some fields ↔ (className, fields) ∈ table.toList) ∧
          (∀ className, table.contains className = (table.get? className).isSome) ∧
          table.size = table.classNames.length ∧ table.positions.size = table.size ∧
          (table.isEmpty = true ↔ table.toList = []) := by
  intro collector
  refine ⟨mergedUpTo_zero collector, mergedUpTo_size collector, fun count => ?_⟩
  have consistent := consistent_mergedUpTo (consistent_afterCalls groups calls) count
  refine ⟨ClassTable.nodup_classNames consistent.indexed, consistent.distinctFields,
    ClassTable.position?_eq_some_iff consistent.indexed,
    ClassTable.get?_eq_some_iff consistent.indexed,
    ClassTable.contains_eq_isSome_get? consistent.indexed, ?_,
    ClassTable.size_positions consistent.indexed, ?_⟩
  · rw [ClassTable.classNames, List.length_map]
    rfl
  · rw [ClassTable.isEmpty, Array.isEmpty_iff, ClassTable.toList, Array.toList_eq_nil_iff]

end Collector
end EntityGen
