import EntityGen.Proofs.Model.Named
import Mathlib.Data.List.Induction

/-!
Contract: lists of named entries after any calls.

Owns:
- `Call`, the two calls by which such a list is filled, and `afterCalls`;
- `standing?`, what a name stands for after calls, told by the calls alone;
- the names of the list, and the entry that is found under a name.

Does not own: what the entries are, and which containers are filled this way.

A call that places an entry keeps the place of its name, a call that adds one keeps
the entry of its name. So the first call of a name decides where it stands, and the
last one that placed an entry decides what is found there.
-/

namespace EntityGen.Named

variable {α : Type}

/-- One call on a list of named entries. -/
inductive Call (α : Type) where
  /-- Puts an entry in the place of the one of its name, or at the end. -/
  | place (entry : α)
  /-- Puts an entry at the end, unless its name is taken. -/
  | add (entry : α)
deriving DecidableEq, Repr

namespace Call

def entry : Call α → α
  | place entry => entry
  | add entry => entry

def placed? : Call α → Option α
  | place entry => some entry
  | add _ => none

def added? : Call α → Option α
  | place _ => none
  | add entry => some entry

end Call

section Calls

variable (nameOf : α → String)

/-- The entries that a call leaves. -/
def perform (entries : List α) : Call α → List α
  | .place entry => Named.place nameOf entry entries
  | .add entry => (add? nameOf entry entries).getD entries

/-- The entries that calls leave, one after the other. -/
def afterCalls (calls : List (Call α)) : List α :=
  calls.foldl (perform nameOf) []

/-- The name that each call uses. -/
def usedNames (calls : List (Call α)) : List String :=
  calls.map fun call => nameOf call.entry

/-- What a name stands for after calls: the last entry that was placed under it, or else
the first one that was added. -/
def standing? (calls : List (Call α)) (name : String) : Option α :=
  (find? nameOf name (calls.filterMap Call.placed?).reverse).or
    (find? nameOf name (calls.filterMap Call.added?))

end Calls

variable {nameOf : α → String}

/-! ## One call -/

theorem find?_singleton (name : String) (entry : α) :
    find? nameOf name [entry] = if nameOf entry = name then some entry else none := by
  by_cases isName : nameOf entry = name <;> simp [find?, isName]

theorem find?_cons (name : String) (entry : α) (entries : List α) :
    find? nameOf name (entry :: entries) =
      (find? nameOf name [entry]).or (find? nameOf name entries) := by
  rw [← List.singleton_append]
  exact List.find?_append

/-- An entry that is placed is found from then on. -/
theorem find?_place (name : String) (entry : α) (entries : List α) :
    find? nameOf name (place nameOf entry entries) =
      (find? nameOf name [entry]).or (find? nameOf name entries) := by
  induction entries with
  | nil => exact Option.or_none.symm
  | cons first others inductionHypothesis =>
      rw [place, find?_cons name first others, ← Option.or_assoc]
      by_cases same : nameOf first = nameOf entry
      · -- The entry that loses its place was found under the same name.
        rw [if_pos (beq_iff_eq.mpr same), find?_cons]
        congr 1
        rw [find?_singleton, find?_singleton, same]
        split <;> rfl
      · rw [if_neg (by simpa using same), find?_cons, inductionHypothesis, ← Option.or_assoc]
        congr 1
        rw [find?_singleton, find?_singleton]
        by_cases isName : nameOf entry = name
        · rw [if_pos isName, if_neg fun isFirst => same (isFirst.trans isName.symm)]
          rfl
        · rw [if_neg isName, Option.or_none, Option.none_or]

theorem find?_getD_add? (name : String) (entry : α) (entries : List α) :
    find? nameOf name ((add? nameOf entry entries).getD entries) =
      (find? nameOf name entries).or (find? nameOf name [entry]) := by
  rw [getD_add?, find?_append_firstUses]

/-- Either call adds its name at the end, unless the name is there already. -/
theorem map_nameOf_perform (entries : List α) (call : Call α) :
    (perform nameOf entries call).map nameOf =
      if nameOf call.entry ∈ entries.map nameOf then entries.map nameOf
      else entries.map nameOf ++ [nameOf call.entry] := by
  cases call with
  | place entry => exact map_nameOf_place entry entries
  | add entry =>
      rw [perform, getD_add?, List.map_append, Call.entry]
      by_cases isTaken : nameOf entry ∈ entries.map nameOf
      · rw [firstUses_cons_taken isTaken, if_pos isTaken]
        exact List.append_nil _
      · rw [firstUses_cons_free isTaken, if_neg isTaken]
        rfl

theorem add?_isSome_iff (entry : α) (entries : List α) :
    (add? nameOf entry entries).isSome = true ↔ nameOf entry ∉ entries.map nameOf := by
  by_cases isTaken : nameOf entry ∈ entries.map nameOf
  · simp [add?_of_taken isTaken, isTaken]
  · simp [add?_of_free isTaken, isTaken]

/-! ## Many calls -/

theorem afterCalls_concat (calls : List (Call α)) (call : Call α) :
    afterCalls nameOf (calls ++ [call]) = perform nameOf (afterCalls nameOf calls) call :=
  List.foldl_concat ..

theorem eraseDups_concat (names : List String) (name : String) :
    (names ++ [name]).eraseDups =
      if name ∈ names then names.eraseDups else names.eraseDups ++ [name] := by
  rw [List.eraseDups_append]
  split
  · next isKnown => simp [List.removeAll, isKnown]
  · next isNew => simp [List.removeAll, isNew, List.eraseDups_cons]

/-- Every name that calls use stands once, in the order of the first calls. -/
theorem map_nameOf_afterCalls (calls : List (Call α)) :
    (afterCalls nameOf calls).map nameOf = (usedNames nameOf calls).eraseDups := by
  induction calls using List.reverseRecOn with
  | nil => rfl
  | append_singleton calls call inductionHypothesis =>
      have used : usedNames nameOf (calls ++ [call]) =
          usedNames nameOf calls ++ [nameOf call.entry] := List.map_append
      rw [afterCalls_concat, map_nameOf_perform, inductionHypothesis, used, eraseDups_concat]
      simp only [List.mem_eraseDups]

theorem mem_map_nameOf_afterCalls (calls : List (Call α)) (name : String) :
    name ∈ (afterCalls nameOf calls).map nameOf ↔ name ∈ usedNames nameOf calls := by
  rw [map_nameOf_afterCalls, List.mem_eraseDups]

theorem standing?_concat_place (calls : List (Call α)) (entry : α) (name : String) :
    standing? nameOf (calls ++ [.place entry]) name =
      (find? nameOf name [entry]).or (standing? nameOf calls name) := by
  have placed : (calls ++ [Call.place entry]).filterMap Call.placed? =
      calls.filterMap Call.placed? ++ [entry] := List.filterMap_append
  have added : (calls ++ [Call.place entry]).filterMap Call.added? =
      calls.filterMap Call.added? := by
    rw [List.filterMap_append]
    exact List.append_nil _
  rw [standing?, placed, added, List.reverse_concat, find?_cons, Option.or_assoc, standing?]

theorem standing?_concat_add (calls : List (Call α)) (entry : α) (name : String) :
    standing? nameOf (calls ++ [.add entry]) name =
      (standing? nameOf calls name).or (find? nameOf name [entry]) := by
  have placed : (calls ++ [Call.add entry]).filterMap Call.placed? =
      calls.filterMap Call.placed? := by
    rw [List.filterMap_append]
    exact List.append_nil _
  have added : (calls ++ [Call.add entry]).filterMap Call.added? =
      calls.filterMap Call.added? ++ [entry] := List.filterMap_append
  have behind : find? nameOf name (calls.filterMap Call.added? ++ [entry]) =
      (find? nameOf name (calls.filterMap Call.added?)).or (find? nameOf name [entry]) :=
    List.find?_append
  rw [standing?, placed, added, behind, ← Option.or_assoc, standing?]

/-- Under a name stands the last entry that was placed, or else the first one that was
added. -/
theorem find?_afterCalls (calls : List (Call α)) (name : String) :
    find? nameOf name (afterCalls nameOf calls) = standing? nameOf calls name := by
  induction calls using List.reverseRecOn with
  | nil => rfl
  | append_singleton calls call inductionHypothesis =>
      rw [afterCalls_concat]
      cases call with
      | place entry =>
          rw [perform, find?_place, inductionHypothesis, standing?_concat_place]
      | add entry =>
          rw [perform, find?_getD_add?, inductionHypothesis, standing?_concat_add]

end EntityGen.Named
