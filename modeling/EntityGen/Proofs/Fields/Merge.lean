import EntityGen.Proofs.Fields.Collector

/-!
Contract: what a class gains in the merge.

Owns:
- `offeredTo`, the collected fields of the children of a class;
- one step of the merge as a change of the class list, class by class;
- the names and types of the fields that a class has afterwards;
- the merged table of a collector after any calls.

Does not own: how parents and fields are collected.

The merge changes classes one after the other, and a class that gains fields may
later be read as a child. It is read from the collected list, though, so the
change of one class never depends on another one: every step maps one function
over the class list, and the functions of all steps can be run on each class
alone.
-/

namespace EntityGen
namespace Collector

/-- The fields that the children of a class offer to it, in the order of the
children. A class is no child of itself. -/
def offeredTo (parentOf : String → Option String) (classes : List (String × FieldTable))
    (className : String) : List Field :=
  (classes.filter fun child => child.1 ≠ className ∧ parentOf child.1 = some className).flatMap
    fun child => child.2.toList

/-- The fields that a class has after it was offered fields. -/
def gaining (own : FieldTable) (offered : List Field) : FieldTable :=
  ⟨own.toList ++ Named.firstUses Field.name own.names offered⟩

/-- Offers that are made one after the other are one list of offers. -/
theorem gaining_absorb (own other : FieldTable) (more : List Field) :
    gaining (own.absorb other) more = gaining own (other.toList ++ more) := by
  have names : (own.absorb other).names =
      own.names ++ (Named.firstUses Field.name own.names other.toList).map Field.name := by
    rw [FieldTable.absorb_eq, FieldTable.names, List.map_append]
    rfl
  have entries : (own.absorb other).toList =
      own.toList ++ Named.firstUses Field.name own.names other.toList := by
    rw [FieldTable.absorb_eq]
    rfl
  rw [gaining, gaining, names, entries, Named.firstUses_append, List.append_assoc]

/-! ## One step -/

/-- A class after the step of the merge in which `child` gives. -/
def takeFrom (parentOf : String → Option String) (child entry : String × FieldTable) :
    String × FieldTable :=
  if child.1 ≠ entry.1 ∧ parentOf child.1 = some entry.1 then (entry.1, entry.2.absorb child.2)
  else entry

@[simp] theorem takeFrom_fst (parentOf : String → Option String)
    (child entry : String × FieldTable) : (takeFrom parentOf child entry).1 = entry.1 := by
  unfold takeFrom
  split <;> rfl

theorem takeFrom_eq_changeOne {parentOf : String → Option String} {child : String × FieldTable}
    {parent : String} (hasParent : parentOf child.1 = some parent) (different : parent ≠ child.1) :
    takeFrom parentOf child = ClassTable.changeOne parent (·.absorb child.2) := by
  funext entry
  unfold takeFrom ClassTable.changeOne
  by_cases isParent : entry.1 = parent
  · rw [if_pos ⟨fun same => different (isParent ▸ same.symm), isParent ▸ hasParent⟩,
      if_pos isParent]
  · rw [if_neg isParent, if_neg]
    rintro ⟨-, given⟩
    rw [hasParent] at given
    exact isParent (Option.some.inj given).symm

section Kept

variable (Kept : ClassTable → Prop)
  (absorbs : ∀ table className fields, Kept table →
    Kept (table.modify className (·.absorb fields)))
  {parents : Std.TreeMap String String}

include absorbs

/-- What a table keeps when a class absorbs fields, it keeps in the merge. -/
theorem keeps_mergeChild {state : ClassTable × List AbsentParent} (kept : Kept state.1)
    (child : String × FieldTable) : Kept (mergeChild parents state child).1 := by
  unfold mergeChild
  split
  · exact kept
  · split
    · exact kept
    · split
      · exact kept
      · exact absorbs _ _ child.2 kept

theorem keeps_foldl_mergeChild (children : List (String × FieldTable))
    {state : ClassTable × List AbsentParent} (kept : Kept state.1) :
    Kept (children.foldl (mergeChild parents) state).1 := by
  induction children generalizing state with
  | nil => exact kept
  | cons child others inductionHypothesis =>
      exact inductionHypothesis (keeps_mergeChild Kept absorbs kept child)

end Kept

section Step

variable {parents : Std.TreeMap String String} {state : ClassTable × List AbsentParent}

theorem indexed_mergeChild (indexed : state.1.Indexed) (child : String × FieldTable) :
    (mergeChild parents state child).1.Indexed :=
  keeps_mergeChild ClassTable.Indexed
    (fun _ className _ indexed => ClassTable.indexed_modify indexed className _) indexed child

/-- One step of the merge changes each class by itself. -/
theorem toList_mergeChild (indexed : state.1.Indexed) (child : String × FieldTable) :
    (mergeChild parents state child).1.toList =
      state.1.toList.map (takeFrom (parents[·]?) child) := by
  have unchanged (none : ∀ entry ∈ state.1.toList,
      ¬ (child.1 ≠ entry.1 ∧ parents[child.1]? = some entry.1)) :
      state.1.toList = state.1.toList.map (takeFrom (parents[·]?) child) := by
    have same : ∀ entry ∈ state.1.toList, takeFrom (parents[·]?) child entry = entry :=
      fun entry member => if_neg (none entry member)
    rw [List.map_congr_left same, List.map_id']
  unfold mergeChild
  cases hasParent : parents[child.1]? with
  | none =>
      apply unchanged
      rintro entry - ⟨-, given⟩
      exact absurd (hasParent.symm.trans given) (by simp)
  | some parent =>
      simp only
      by_cases present : state.1.contains parent = true
      · simp only [present, Bool.not_true, Bool.false_eq_true, if_false]
        by_cases same : parent = child.1
        · simp only [same, beq_self_eq_true, if_true]
          apply unchanged
          rintro entry - ⟨different, given⟩
          rw [hasParent, same] at given
          exact different (Option.some.inj given)
        · simp only [beq_eq_false_iff_ne.mpr same, Bool.false_eq_true, if_false]
          rw [ClassTable.toList_modify indexed, takeFrom_eq_changeOne hasParent same]
      · simp only [present, Bool.not_false, if_true]
        apply unchanged
        rintro entry member ⟨-, given⟩
        rw [hasParent] at given
        obtain rfl := Option.some.inj given
        exact present ((ClassTable.contains_iff indexed _).mpr (List.mem_map_of_mem member))

end Step

/-! ## All steps -/

/-- The steps of the merge can be run on each class alone. -/
theorem toList_foldl_mergeChild (parents : Std.TreeMap String String)
    (children : List (String × FieldTable)) {state : ClassTable × List AbsentParent}
    (indexed : state.1.Indexed) :
    (children.foldl (mergeChild parents) state).1.toList =
      state.1.toList.map fun entry =>
        children.foldl (fun taken child => takeFrom (parents[·]?) child taken) entry := by
  induction children generalizing state with
  | nil => simp
  | cons child others inductionHypothesis =>
      rw [List.foldl_cons, inductionHypothesis (indexed_mergeChild indexed child),
        toList_mergeChild indexed, List.map_map]
      rfl

/-- What one class gains from all children. -/
theorem foldl_takeFrom (parentOf : String → Option String)
    (children : List (String × FieldTable)) (entry : String × FieldTable) :
    children.foldl (fun taken child => takeFrom parentOf child taken) entry =
      (entry.1, gaining entry.2 (offeredTo parentOf children entry.1)) := by
  induction children generalizing entry with
  | nil => simp [offeredTo, gaining, Named.firstUses, FieldTable.toList]
  | cons child others inductionHypothesis =>
      rw [List.foldl_cons, inductionHypothesis, takeFrom_fst]
      by_cases gives : child.1 ≠ entry.1 ∧ parentOf child.1 = some entry.1
      · have taken : takeFrom parentOf child entry = (entry.1, entry.2.absorb child.2) :=
          if_pos gives
        simp only [taken, offeredTo, List.filter_cons, decide_eq_true_eq, if_pos gives,
          List.flatMap_cons, gaining_absorb]
      · have same : takeFrom parentOf child entry = entry := if_neg gives
        simp only [same, offeredTo, List.filter_cons, decide_eq_true_eq, if_neg gives]

theorem indexed_merged {collector : Collector} (indexed : collector.table.Indexed) :
    collector.merged.1.Indexed :=
  keeps_foldl_mergeChild ClassTable.Indexed
    (fun _ className _ indexed => ClassTable.indexed_modify indexed className _) _ indexed

/-- The classes of the merged table are the collected ones, each with what its
children offer. -/
theorem toList_merged {collector : Collector} (indexed : collector.table.Indexed) :
    collector.merged.1.toList =
      collector.table.toList.map fun entry =>
        (entry.1, gaining entry.2
          (offeredTo (collector.parents[·]?) collector.table.toList entry.1)) := by
  rw [merged, toList_foldl_mergeChild _ _ indexed]
  exact List.map_congr_left fun entry _ => foldl_takeFrom _ _ entry

theorem get?_merged {collector : Collector} (indexed : collector.table.Indexed)
    (className : String) :
    collector.merged.1.get? className =
      (collector.table.get? className).map fun own =>
        gaining own (offeredTo (collector.parents[·]?) collector.table.toList className) := by
  apply Option.ext
  intro fields
  rw [ClassTable.get?_eq_some_iff (indexed_merged indexed), toList_merged indexed,
    List.mem_map, Option.map_eq_some_iff]
  constructor
  · rintro ⟨⟨name, own⟩, member, equal⟩
    obtain ⟨rfl, rfl⟩ := Prod.mk.inj equal
    exact ⟨own, (ClassTable.get?_eq_some_iff indexed _ _).mpr member, rfl⟩
  · rintro ⟨own, found, rfl⟩
    exact ⟨(className, own), (ClassTable.get?_eq_some_iff indexed _ _).mp found, rfl⟩

/-- The children of a class in a list of classes. -/
def childrenOf (parentOf : String → Option String) (classes : List (String × FieldTable))
    (className : String) : List (String × FieldTable) :=
  classes.filter fun child => child.1 ≠ className ∧ parentOf child.1 = some className

/-- A field has the type that the class collected, or else the type of the first child
that collected a field of the name. -/
theorem get?_gaining (parentOf : String → Option String) (classes : List (String × FieldTable))
    (className : String) (own : FieldTable) (name : String) :
    (gaining own (offeredTo parentOf classes className)).get? name =
      (own.get? name).or
        ((childrenOf parentOf classes className).findSome? (·.2.get? name)) := by
  have offers : (Named.find? Field.name name (offeredTo parentOf classes className)).map
      Field.type = (childrenOf parentOf classes className).findSome? (·.2.get? name) := by
    unfold offeredTo Named.find?
    rw [List.find?_flatMap, List.map_findSome?]
    rfl
  rw [← offers, FieldTable.get?, FieldTable.get?, ← Option.map_or]
  exact congrArg (Option.map Field.type)
    (Named.find?_append_firstUses name own.entries (offeredTo parentOf classes className))

theorem mem_names_gaining {own : FieldTable} {offered : List Field} {name : String} :
    name ∈ (gaining own offered).names ↔ name ∈ own.names ∨ name ∈ offered.map Field.name := by
  have names : (gaining own offered).names =
      own.names ++ (Named.firstUses Field.name own.names offered).map Field.name :=
    List.map_append
  rw [names, List.mem_append, Named.mem_map_firstUses]
  by_cases isOwn : name ∈ own.names <;> simp [isOwn]

/-- A gained field is one's own or an offer. -/
theorem mem_gaining {own : FieldTable} {offered : List Field} {field : Field}
    (member : field ∈ (gaining own offered).toList) : field ∈ own.toList ∨ field ∈ offered := by
  rcases List.mem_append.mp member with isOwn | gained
  · exact Or.inl isOwn
  · exact Or.inr ((Named.firstUses_sublist _ _).subset gained)

theorem mem_offeredTo {parentOf : String → Option String} {classes : List (String × FieldTable)}
    {className : String} {field : Field} :
    field ∈ offeredTo parentOf classes className ↔
      ∃ child ∈ classes, child.1 ≠ className ∧ parentOf child.1 = some className ∧
        field ∈ child.2.toList := by
  simp only [offeredTo, List.mem_flatMap, List.mem_filter, decide_eq_true_eq, and_assoc]

/-- **The merged table.** After any calls, also failed ones, the merge keeps the
classes and their order. Each class has the fields it collected itself, and
behind them the first use of every further name among the collected fields of
its children: of the classes, other than itself, for which it was noted last as
the parent. So no field comes from anywhere but the class and its children. -/
theorem merged_afterCalls (groups : List String) (calls : List CollectorCall) :
    let collected := (afterCalls groups calls).table
    let merged := (afterCalls groups calls).merged.1
    let mergedFields := fun className own =>
      gaining own (offeredTo (lastParent? calls) collected.toList className)
    merged.toList = collected.toList.map (fun entry => (entry.1, mergedFields entry.1 entry.2)) ∧
      (∀ className,
        merged.get? className = (collected.get? className).map (mergedFields className)) ∧
      ∀ entry ∈ merged.toList, ∀ field ∈ entry.2.toList,
        (∃ own, collected.get? entry.1 = some own ∧ field ∈ own.toList) ∨
          ∃ child ∈ collected.toList, child.1 ≠ entry.1 ∧
            lastParent? calls child.1 = some entry.1 ∧ field ∈ child.2.toList := by
  intro collected merged mergedFields
  have indexed : collected.Indexed := indexed_afterCalls groups calls
  have parents : ((afterCalls groups calls).parents[·]?) = lastParent? calls := by
    funext className
    exact getElem?_parents_afterCalls groups calls className
  have classes : merged.toList =
      collected.toList.map fun entry => (entry.1, mergedFields entry.1 entry.2) := by
    have general := toList_merged indexed
    rwa [parents] at general
  refine ⟨classes, fun className => ?_, fun entry member field isField => ?_⟩
  · have general := get?_merged indexed className
    rwa [parents] at general
  · rw [classes] at member
    obtain ⟨⟨name, own⟩, ownMember, rfl⟩ := List.mem_map.mp member
    rcases mem_gaining isField with isOwn | offered
    · exact Or.inl ⟨own, (ClassTable.get?_eq_some_iff indexed _ _).mpr ownMember, isOwn⟩
    · exact Or.inr (mem_offeredTo.mp offered)

end Collector
end EntityGen
