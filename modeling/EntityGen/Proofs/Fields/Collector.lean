import EntityGen.Fields.Collector
import EntityGen.Proofs.Fields.Classes

/-!
Contract: what a collector holds after any calls.

Owns:
- `CollectorCall`, the calls by which a collector is filled, and `afterCalls`;
- what every call keeps of a table, as that it is indexed;
- the parent of a class as the last one that a call noted.

Does not own: the merge.

A call can fail in the middle of a class. What it added until then stays, so the
laws are stated for the collector it leaves, whatever its result.
-/

namespace EntityGen

open EntityGen.Model (ClassDecl DataType Property)

/-- One call that fills a collector. -/
inductive CollectorCall where
  | takeClass (decl : ClassDecl)
  | takeField (className fieldName : String) (type : Option DataType)
  | noteParent (className parent : String)
deriving DecidableEq, Repr

namespace Collector

/-- The collector that a call leaves, also when the call fails. -/
def perform (collector : Collector) : CollectorCall → Collector
  | .takeClass decl => (collector.takeClass decl).2
  | .takeField className fieldName type => (collector.takeField className fieldName type).2
  | .noteParent className parent => collector.noteParent className parent

/-- The collector that calls leave, one after the other. -/
def afterCalls (groups : List String) (calls : List CollectorCall) : Collector :=
  calls.foldl perform (forGroups groups)

/-! ## What every call keeps -/

/-- What every single field keeps, the properties of a class keep. -/
theorem takeProperties_keeps (Kept : Collector → Prop) {className : String}
    (field : ∀ collector fieldName type,
      Kept collector → Kept (collector.takeField className fieldName type).2)
    (properties : List Property) {collector : Collector} (kept : Kept collector) :
    Kept (collector.takeProperties className properties).2 := by
  induction properties generalizing collector with
  | nil => exact kept
  | cons property others inductionHypothesis =>
      have next := field collector property.name property.type kept
      unfold takeProperties
      split
      · cases taken : collector.takeField className property.name property.type with
        | mk result reached =>
            rw [taken] at next
            cases result with
            | error untyped => exact next
            | ok _ => exact inductionHypothesis next
      · exact inductionHypothesis kept

section Tables

variable (Kept : ClassTable → Prop)
  (enters : ∀ table className, Kept table → Kept (table.enter className))
  (puts : ∀ table className fieldName type, Kept table →
    Kept (table.modify className (·.put fieldName type)))

include enters puts

/-- What a table keeps when a class is entered and when a field is put, it keeps in
every call. -/
theorem keeps_perform {collector : Collector} (kept : Kept collector.table)
    (call : CollectorCall) : Kept (collector.perform call).table := by
  have field : ∀ (reached : Collector) (className fieldName : String) (type : Option DataType),
      Kept reached.table → Kept (reached.takeField className fieldName type).2.table := by
    intro reached className fieldName type kept
    cases type with
    | none => exact kept
    | some found => exact puts _ className fieldName found (enters _ className kept)
  cases call with
  | takeClass decl =>
      have parentTaken : Kept (collector.takeParent decl).table := by
        unfold takeParent
        split
        · exact kept
        · exact kept
      have nameTaken : Kept ((collector.takeParent decl).takeName decl).table := by
        unfold takeName
        split
        · exact enters _ decl.name parentTaken
        · exact parentTaken
      exact takeProperties_keeps (fun reached => Kept reached.table)
        (fun reached fieldName type => field reached decl.name fieldName type)
        decl.properties nameTaken
  | takeField className fieldName type => exact field collector className fieldName type kept
  | noteParent className parent => exact kept

/-- What the empty table has and every call keeps, the table of a collector has after any
calls. -/
theorem keeps_afterCalls (initial : Kept {}) (groups : List String)
    (calls : List CollectorCall) : Kept (afterCalls groups calls).table := by
  have fromAny : ∀ collector : Collector, Kept collector.table →
      Kept (calls.foldl perform collector).table := by
    induction calls with
    | nil => exact fun _ kept => kept
    | cons call others inductionHypothesis =>
        intro collector kept
        exact inductionHypothesis _ (keeps_perform Kept enters puts kept call)
  exact fromAny _ initial

end Tables

/-- The table of a collector is indexed after any calls. -/
theorem indexed_afterCalls (groups : List String) (calls : List CollectorCall) :
    (afterCalls groups calls).table.Indexed :=
  keeps_afterCalls ClassTable.Indexed
    (fun _ className indexed => ClassTable.indexed_enter indexed className)
    (fun _ className _ _ indexed => ClassTable.indexed_modify indexed className _)
    ClassTable.indexed_empty groups calls

/-- Classes that are taken without failure are calls, one after the other. -/
theorem takeClasses_eq_ok {classes : List ClassDecl} {collector filled : Collector}
    (taken : collector.takeClasses classes = .ok filled) :
    filled = (classes.map CollectorCall.takeClass).foldl perform collector := by
  induction classes generalizing collector with
  | nil => exact (Except.ok.inj taken).symm
  | cons decl others inductionHypothesis =>
      rw [takeClasses] at taken
      rw [List.map_cons, List.foldl_cons, perform]
      split at taken
      · cases taken
      · next extended first =>
          rw [first]
          exact inductionHypothesis taken

/-! ## Parents -/

/-- The parent that a call notes for a class. A class that is taken notes its
parent even if one of its properties fails. -/
def notedParent? (className : String) : CollectorCall → Option String
  | .takeClass decl => if decl.name = className then decl.parent else none
  | .takeField _ _ _ => none
  | .noteParent name parent => if name = className then some parent else none

/-- The last parent that calls note for a class. -/
def lastParent? (calls : List CollectorCall) (className : String) : Option String :=
  (calls.filterMap (notedParent? className)).getLast?

theorem parents_takeField (collector : Collector) (className fieldName : String)
    (type : Option DataType) :
    (collector.takeField className fieldName type).2.parents = collector.parents := by
  cases type <;> rfl

theorem parents_takeName (collector : Collector) (decl : ClassDecl) :
    (collector.takeName decl).parents = collector.parents := by
  unfold takeName
  split <;> rfl

theorem parents_takeProperties (collector : Collector) (className : String)
    (properties : List Property) :
    (collector.takeProperties className properties).2.parents = collector.parents :=
  takeProperties_keeps (fun reached => reached.parents = collector.parents)
    (fun reached fieldName type kept =>
      (parents_takeField reached className fieldName type).trans kept) properties rfl

theorem getElem?_parents_noteParent (collector : Collector) (name parent className : String) :
    (collector.noteParent name parent).parents[className]? =
      if name = className then some parent else collector.parents[className]? := by
  simp only [noteParent, Std.TreeMap.getElem?_insert, Std.LawfulEqOrd.compare_eq_iff_eq]

theorem getElem?_parents_takeParent (collector : Collector) (decl : ClassDecl)
    (className : String) :
    (collector.takeParent decl).parents[className]? =
      (if decl.name = className then decl.parent else none).or collector.parents[className]? := by
  unfold takeParent
  cases hasParent : decl.parent with
  | none => simp
  | some parent =>
      simp only [getElem?_parents_noteParent]
      split <;> rfl

/-- A call replaces the parent of a class exactly if it notes one. -/
theorem getElem?_parents_perform (collector : Collector) (call : CollectorCall)
    (className : String) :
    (collector.perform call).parents[className]? =
      (notedParent? className call).or collector.parents[className]? := by
  cases call with
  | takeClass decl =>
      rw [perform, takeClass, parents_takeProperties, parents_takeName,
        getElem?_parents_takeParent, notedParent?]
  | takeField name fieldName type =>
      simp only [perform, parents_takeField, notedParent?, Option.none_or]
  | noteParent name parent =>
      simp only [perform, getElem?_parents_noteParent, notedParent?]
      split <;> rfl

/-- After any calls a class has the parent that was noted last. -/
theorem getElem?_parents_afterCalls (groups : List String) (calls : List CollectorCall)
    (className : String) :
    (afterCalls groups calls).parents[className]? = lastParent? calls className := by
  have fromAny : ∀ collector : Collector,
      (calls.foldl perform collector).parents[className]? =
        (lastParent? calls className).or collector.parents[className]? := by
    induction calls with
    | nil => exact fun _ => rfl
    | cons call others inductionHypothesis =>
        intro collector
        rw [List.foldl_cons, inductionHypothesis, getElem?_parents_perform, lastParent?,
          lastParent?, List.filterMap_cons]
        cases notedParent? className call with
        | none => rfl
        | some parent =>
            simp only [Option.some_or, List.getLast?_cons]
            cases (List.filterMap (notedParent? className) others).getLast? <;> rfl
  rw [afterCalls, fromAny]
  exact Option.or_none

end Collector
end EntityGen
