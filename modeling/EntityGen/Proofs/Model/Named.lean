import EntityGen.Model.Named
import Mathlib.Data.List.Nodup

/-!
Contract: the laws of lists in which entries are found by name.

Owns:
- `firstUses`, the entries of a list that are the first of their name;
- the names after an entry was placed;
- adding entries one by one as appending the first uses among them.

Does not own: what the entries are, and which lists are built this way.

An entry can lose its place to an entry of the list before it or to a name that
was taken beforehand; every law below treats the two alike.
-/

namespace EntityGen.Named

variable {α : Type} {nameOf : α → String}

/-- The entries whose name is neither taken nor the name of an entry before
them. -/
def firstUses (nameOf : α → String) (taken : List String) : List α → List α
  | [] => []
  | entry :: others =>
    if nameOf entry ∈ taken then firstUses nameOf taken others
    else entry :: firstUses nameOf (nameOf entry :: taken) others

theorem firstUses_cons_taken {taken : List String} {entry : α} (isTaken : nameOf entry ∈ taken)
    (others : List α) :
    firstUses nameOf taken (entry :: others) = firstUses nameOf taken others := by
  rw [firstUses, if_pos isTaken]

theorem firstUses_cons_free {taken : List String} {entry : α} (isFree : nameOf entry ∉ taken)
    (others : List α) :
    firstUses nameOf taken (entry :: others) =
      entry :: firstUses nameOf (nameOf entry :: taken) others := by
  rw [firstUses, if_neg isFree]

/-- Which names are taken matters, not in which order they are listed. -/
theorem firstUses_congr {taken alsoTaken : List String}
    (same : ∀ name, name ∈ taken ↔ name ∈ alsoTaken) (entries : List α) :
    firstUses nameOf taken entries = firstUses nameOf alsoTaken entries := by
  induction entries generalizing taken alsoTaken with
  | nil => rfl
  | cons entry others inductionHypothesis =>
      by_cases isTaken : nameOf entry ∈ taken
      · rw [firstUses_cons_taken isTaken, firstUses_cons_taken ((same _).mp isTaken)]
        exact inductionHypothesis same
      · have alsoFree : nameOf entry ∉ alsoTaken := fun member => isTaken ((same _).mpr member)
        rw [firstUses_cons_free isTaken, firstUses_cons_free alsoFree]
        congr 1
        apply inductionHypothesis
        intro name
        simp only [List.mem_cons, same name]

/-- The first uses in a list that continues another one. -/
theorem firstUses_append (taken : List String) (entries more : List α) :
    firstUses nameOf taken (entries ++ more) =
      firstUses nameOf taken entries ++
        firstUses nameOf (taken ++ (firstUses nameOf taken entries).map nameOf) more := by
  induction entries generalizing taken with
  | nil => simp [firstUses]
  | cons entry others inductionHypothesis =>
      rw [List.cons_append]
      by_cases isTaken : nameOf entry ∈ taken
      · rw [firstUses_cons_taken isTaken, firstUses_cons_taken isTaken]
        exact inductionHypothesis taken
      · rw [firstUses_cons_free isTaken, firstUses_cons_free isTaken, inductionHypothesis,
          List.cons_append]
        congr 2
        apply firstUses_congr
        intro name
        simp only [List.map_cons, List.mem_append, List.mem_cons]
        exact or_left_comm

theorem firstUses_sublist (taken : List String) (entries : List α) :
    (firstUses nameOf taken entries).Sublist entries := by
  induction entries generalizing taken with
  | nil => exact List.Sublist.slnil
  | cons entry others inductionHypothesis =>
      by_cases isTaken : nameOf entry ∈ taken
      · rw [firstUses_cons_taken isTaken]
        exact (inductionHypothesis taken).cons entry
      · rw [firstUses_cons_free isTaken]
        exact (inductionHypothesis _).cons_cons entry

/-- A name is used first exactly if it is used and not taken. -/
theorem mem_map_firstUses (taken : List String) (entries : List α) (name : String) :
    name ∈ (firstUses nameOf taken entries).map nameOf ↔
      name ∈ entries.map nameOf ∧ name ∉ taken := by
  induction entries generalizing taken with
  | nil => simp [firstUses]
  | cons entry others inductionHypothesis =>
      by_cases isTaken : nameOf entry ∈ taken
      · rw [firstUses_cons_taken isTaken, inductionHypothesis, List.map_cons, List.mem_cons]
        constructor
        · exact fun used => ⟨Or.inr used.1, used.2⟩
        · rintro ⟨rfl | used, isFree⟩
          · exact absurd isTaken isFree
          · exact ⟨used, isFree⟩
      · rw [firstUses_cons_free isTaken, List.map_cons, List.map_cons, List.mem_cons,
          List.mem_cons, inductionHypothesis]
        by_cases same : name = nameOf entry
        · simp [same, isTaken]
        · simp [same]

/-- No name has two first uses. -/
theorem nodup_map_firstUses (taken : List String) (entries : List α) :
    ((firstUses nameOf taken entries).map nameOf).Nodup := by
  induction entries generalizing taken with
  | nil => exact List.nodup_nil
  | cons entry others inductionHypothesis =>
      by_cases isTaken : nameOf entry ∈ taken
      · rw [firstUses_cons_taken isTaken]
        exact inductionHypothesis taken
      · rw [firstUses_cons_free isTaken, List.map_cons, List.nodup_cons]
        refine ⟨?_, inductionHypothesis _⟩
        rw [mem_map_firstUses]
        exact fun used => used.2 (List.mem_cons_self ..)

theorem name_free_of_mem_firstUses {taken : List String} {entries : List α} {entry : α}
    (member : entry ∈ firstUses nameOf taken entries) : nameOf entry ∉ taken :=
  ((mem_map_firstUses taken entries _).mp (List.mem_map_of_mem member)).2

private theorem findIdx_cons_of_ne {first entry : α} (different : nameOf first ≠ nameOf entry)
    (others : List α) :
    (first :: others).findIdx (nameOf · == nameOf entry) =
      others.findIdx (nameOf · == nameOf entry) + 1 := by
  rw [List.findIdx_cons, beq_eq_false_iff_ne.mpr different, cond_false]

/-- First uses stand in the order in which the names are first used. -/
theorem pairwise_firstUses (taken : List String) (entries : List α) :
    (firstUses nameOf taken entries).Pairwise fun earlier later =>
      entries.findIdx (nameOf · == nameOf earlier) <
        entries.findIdx (nameOf · == nameOf later) := by
  induction entries generalizing taken with
  | nil => exact List.Pairwise.nil
  | cons entry others inductionHypothesis =>
      -- An entry whose name is not that of the head stands one place further on.
      have shifted : ∀ moreTaken : List String, nameOf entry ∈ moreTaken →
          (firstUses nameOf moreTaken others).Pairwise fun earlier later =>
            (entry :: others).findIdx (nameOf · == nameOf earlier) <
              (entry :: others).findIdx (nameOf · == nameOf later) := by
        intro moreTaken headTaken
        refine (inductionHypothesis moreTaken).imp_of_mem ?_
        intro earlier later earlierIn laterIn before
        have earlierOther : nameOf entry ≠ nameOf earlier := fun same =>
          name_free_of_mem_firstUses earlierIn (same ▸ headTaken)
        have laterOther : nameOf entry ≠ nameOf later := fun same =>
          name_free_of_mem_firstUses laterIn (same ▸ headTaken)
        rw [findIdx_cons_of_ne earlierOther, findIdx_cons_of_ne laterOther]
        omega
      by_cases isTaken : nameOf entry ∈ taken
      · rw [firstUses_cons_taken isTaken]
        exact shifted taken isTaken
      · rw [firstUses_cons_free isTaken, List.pairwise_cons]
        refine ⟨fun later laterIn => ?_, shifted _ (List.mem_cons_self ..)⟩
        have laterOther : nameOf entry ≠ nameOf later := fun same =>
          name_free_of_mem_firstUses laterIn (same ▸ List.mem_cons_self ..)
        rw [findIdx_cons_of_ne laterOther, List.findIdx_cons, beq_self_eq_true, cond_true]
        omega

/-! ## Placing entries -/

/-- An entry that is placed keeps the place of its name, or adds the name at the end. -/
theorem map_nameOf_place (entry : α) (entries : List α) :
    (place nameOf entry entries).map nameOf =
      if nameOf entry ∈ entries.map nameOf then entries.map nameOf
      else entries.map nameOf ++ [nameOf entry] := by
  induction entries with
  | nil => rfl
  | cons first others inductionHypothesis =>
      by_cases same : nameOf first = nameOf entry
      · simp [place, same]
      · have different : nameOf entry ≠ nameOf first := fun equal => same equal.symm
        rw [place, if_neg (by simpa using same), List.map_cons, inductionHypothesis]
        simp only [List.map_cons, List.mem_cons, different, false_or]
        split <;> rfl

/-! ## Changing entries -/

section Changing

variable {change : α → α} (keeps : ∀ entry, nameOf (change entry) = nameOf entry)

include keeps

/-- A change that keeps names can be made before or after an entry is placed. -/
theorem map_place (entry : α) (entries : List α) :
    (place nameOf entry entries).map change =
      place nameOf (change entry) (entries.map change) := by
  induction entries with
  | nil => rfl
  | cons first others inductionHypothesis =>
      rw [List.map_cons, place, place, keeps, keeps]
      split
      · rfl
      · rw [List.map_cons, inductionHypothesis]

theorem map_firstUses (taken : List String) (entries : List α) :
    (firstUses nameOf taken entries).map change =
      firstUses nameOf taken (entries.map change) := by
  induction entries generalizing taken with
  | nil => rfl
  | cons entry others inductionHypothesis =>
      rw [List.map_cons, firstUses, firstUses, keeps]
      split
      · exact inductionHypothesis taken
      · rw [List.map_cons, inductionHypothesis]

end Changing

/-! ## Adding entries -/

theorem find?_isSome_iff (nameOf : α → String) (name : String) (entries : List α) :
    (find? nameOf name entries).isSome = true ↔ name ∈ entries.map nameOf := by
  simp [find?, List.find?_isSome]

/-- The first entry of a name that is not taken is a first use. -/
theorem find?_firstUses {taken : List String} {name : String} (isFree : name ∉ taken)
    (entries : List α) : find? nameOf name (firstUses nameOf taken entries) =
      find? nameOf name entries := by
  unfold find?
  induction entries generalizing taken with
  | nil => rfl
  | cons entry others inductionHypothesis =>
      by_cases isTaken : nameOf entry ∈ taken
      · have different : nameOf entry ≠ name := fun same => isFree (same ▸ isTaken)
        rw [firstUses_cons_taken isTaken, inductionHypothesis isFree,
          List.find?_cons_of_neg (by simpa using different)]
      · rw [firstUses_cons_free isTaken]
        by_cases same : nameOf entry = name
        · rw [List.find?_cons_of_pos (by simpa using same),
            List.find?_cons_of_pos (by simpa using same)]
        · rw [List.find?_cons_of_neg (by simpa using same),
            List.find?_cons_of_neg (by simpa using same)]
          apply inductionHypothesis
          simp only [List.mem_cons, not_or]
          exact ⟨fun equal => same equal.symm, isFree⟩

/-- An entry is found in a list, or else among the first uses behind it. -/
theorem find?_append_firstUses (name : String) (entries more : List α) :
    find? nameOf name (entries ++ firstUses nameOf (entries.map nameOf) more) =
      (find? nameOf name entries).or (find? nameOf name more) := by
  have parts (behind : List α) : find? nameOf name (entries ++ behind) =
      (find? nameOf name entries).or (find? nameOf name behind) := List.find?_append
  rw [parts]
  cases found : find? nameOf name entries with
  | some entry => rfl
  | none =>
      have isFree : name ∉ entries.map nameOf := by
        intro isTaken
        have isFound := (find?_isSome_iff nameOf name entries).mpr isTaken
        simp [found] at isFound
      rw [Option.none_or, Option.none_or, find?_firstUses isFree]

/-- Among distinct names, that of an entry is free before it. -/
theorem free_of_nodup {earlier others : List α} {entry : α}
    (distinct : ((earlier ++ entry :: others).map nameOf).Nodup) :
    nameOf entry ∉ earlier.map nameOf := by
  rw [List.map_append, List.nodup_append] at distinct
  intro isEarlier
  exact distinct.2.2 _ isEarlier _ (List.mem_cons_self ..) rfl

theorem add?_of_free {entry : α} {entries : List α} (isFree : nameOf entry ∉ entries.map nameOf) :
    add? nameOf entry entries = some (entries ++ [entry]) := by
  have notFound : ¬ (find? nameOf (nameOf entry) entries).isSome = true :=
    fun found => isFree ((find?_isSome_iff nameOf _ entries).mp found)
  rw [add?, if_neg notFound]

theorem add?_of_taken {entry : α} {entries : List α} (isTaken : nameOf entry ∈ entries.map nameOf) :
    add? nameOf entry entries = none := by
  rw [add?, if_pos ((find?_isSome_iff nameOf _ entries).mpr isTaken)]

theorem getD_add? (entry : α) (entries : List α) :
    (add? nameOf entry entries).getD entries =
      entries ++ firstUses nameOf (entries.map nameOf) [entry] := by
  by_cases isTaken : nameOf entry ∈ entries.map nameOf
  · rw [add?_of_taken isTaken, firstUses_cons_taken isTaken]
    exact (List.append_nil entries).symm
  · rw [add?_of_free isTaken, firstUses_cons_free isTaken]
    rfl

/-- Adding one entry after the other, each where its name is still free, appends
the first uses among them. -/
theorem foldl_add? (entries offered : List α) :
    offered.foldl (fun known entry => (add? nameOf entry known).getD known) entries =
      entries ++ firstUses nameOf (entries.map nameOf) offered := by
  induction offered generalizing entries with
  | nil => simp [firstUses]
  | cons entry others inductionHypothesis =>
      rw [List.foldl_cons, inductionHypothesis, getD_add?, List.map_append, List.append_assoc,
        ← firstUses_append, List.singleton_append]

end EntityGen.Named
