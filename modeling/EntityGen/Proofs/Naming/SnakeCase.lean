import EntityGen.Naming.SnakeCase
import EntityGen.Proofs.Text.LetterCase
import EntityGen.Proofs.Text.Split

/-!
Contract: what snake case keeps of an identifier.

Owns:
- the signs of a snake case form, that no identifier vanishes, and that none becomes a
  step of a path;
- the pieces of a snake case form between slashes.

Does not own: where words start.
-/

namespace EntityGen.Naming

open EntityGen.Text

private theorem mem_of_mem_snakeFrom {sign : Char} (positive : 0 < sign.toNat)
    (small : sign.toNat < 0x41) {text : List Char} {previous : Option Char}
    (member : sign ∈ snakeFrom previous text) : sign ∈ text := by
  induction text generalizing previous with
  | nil => exact member
  | cons c rest inductionHypothesis =>
      unfold snakeFrom at member
      split at member
      · rcases List.mem_append.mp member with inHead | inRest
        · rcases List.mem_append.mp inHead with boundary | lowered
          · split at boundary
            · obtain rfl := List.mem_singleton.mp boundary
              exact absurd small (by decide)
            · exact absurd boundary List.not_mem_nil
          · have same := eq_of_mem_lower lowered positive small
            exact same ▸ List.mem_cons_self ..
        · exact List.mem_cons_of_mem c (inductionHypothesis inRest)
      · rcases List.mem_cons.mp member with rfl | inRest
        · exact List.mem_cons_self ..
        · exact List.mem_cons_of_mem c (inductionHypothesis inRest)

/-- Snake case introduces no sign whose code is below the letters. -/
theorem mem_of_mem_snakeCase {sign : Char} (positive : 0 < sign.toNat)
    (small : sign.toNat < 0x41) {identifier : String}
    (member : sign ∈ (snakeCase identifier).toList) : sign ∈ identifier.toList := by
  rw [snakeCase, String.toList_ofList] at member
  exact mem_of_mem_snakeFrom positive small member

private theorem mem_snakeFrom_of_mem {sign : Char} (noUpper : isUpper sign = false)
    {text : List Char} {previous : Option Char} (member : sign ∈ text) :
    sign ∈ snakeFrom previous text := by
  induction text generalizing previous with
  | nil => exact member
  | cons c rest inductionHypothesis =>
      unfold snakeFrom
      rcases List.mem_cons.mp member with rfl | inRest
      · rw [noUpper, if_neg Bool.false_ne_true]
        exact List.mem_cons_self ..
      · split
        · exact List.mem_append_right _ (inductionHypothesis inRest)
        · exact List.mem_cons_of_mem c (inductionHypothesis inRest)

/-- A sign that is no letter stands behind the first sign of an identifier exactly if it does
so in snake case. -/
theorem mem_tail_snakeCase_iff {sign : Char} (positive : 0 < sign.toNat)
    (small : sign.toNat < 0x41) (noUpper : isUpper sign = false) {identifier : String} :
    sign ∈ (snakeCase identifier).toList.tail ↔ sign ∈ identifier.toList.tail := by
  rw [snakeCase, String.toList_ofList]
  cases identifier.toList with
  | nil => rfl
  | cons c rest =>
      have inRest : sign ∈ snakeFrom (some c) rest ↔ sign ∈ rest :=
        ⟨mem_of_mem_snakeFrom positive small, mem_snakeFrom_of_mem noUpper⟩
      rw [List.tail_cons, ← inRest, snakeFrom]
      split
      · next isUpperCase =>
          obtain ⟨lowered, others, isLower⟩ := List.exists_cons_of_ne_nil (lower_ne_nil c)
          have notLowered : sign ∉ others := by
            intro member
            have inLower : sign ∈ lower c := isLower ▸ List.mem_cons_of_mem lowered member
            rw [← eq_of_mem_lower inLower positive small, isUpperCase] at noUpper
            cases noUpper
          simp [startsWord, isLower, notLowered]
      · rfl

private theorem snakeFrom_ne_nil {text : List Char} (nonempty : text ≠ [])
    (previous : Option Char) : snakeFrom previous text ≠ [] := by
  cases text with
  | nil => exact absurd rfl nonempty
  | cons c rest =>
      unfold snakeFrom
      split
      · simp [lower_ne_nil]
      · exact List.cons_ne_nil _ _

theorem snakeCase_ne_empty {identifier : String} (nonempty : identifier ≠ "") :
    snakeCase identifier ≠ "" := by
  intro vanished
  have characters : identifier.toList ≠ [] := fun none =>
    nonempty (String.toList_eq_nil_iff.mp none)
  have text := String.toList_eq_nil_iff.mpr vanished
  rw [snakeCase, String.toList_ofList] at text
  exact snakeFrom_ne_nil characters none text

private theorem forall_eq_of_snakeFrom {sign : Char} (positive : 0 < sign.toNat)
    (small : sign.toNat < 0x41) {text : List Char} {previous : Option Char}
    (only : ∀ c ∈ snakeFrom previous text, c = sign) : ∀ c ∈ text, c = sign := by
  induction text generalizing previous with
  | nil => exact fun c member => absurd member List.not_mem_nil
  | cons c rest inductionHypothesis =>
      unfold snakeFrom at only
      rw [List.forall_mem_cons]
      split at only
      · refine ⟨?_, inductionHypothesis fun other member =>
          only other (List.mem_append_right _ member)⟩
        obtain ⟨lowered, others, isLower⟩ := List.exists_cons_of_ne_nil (lower_ne_nil c)
        have same : lowered = sign := only lowered (by simp [isLower])
        apply eq_of_mem_lower _ positive small
        rw [isLower, same]
        exact List.mem_cons_self ..
      · rw [List.forall_mem_cons] at only
        exact ⟨only.1, inductionHypothesis only.2⟩

private theorem snakeFrom_of_no_upper {text : List Char}
    (noUpper : ∀ c ∈ text, isUpper c = false) (previous : Option Char) :
    snakeFrom previous text = text := by
  induction text generalizing previous with
  | nil => rfl
  | cons c rest inductionHypothesis =>
      rw [List.forall_mem_cons] at noUpper
      rw [snakeFrom, noUpper.1, if_neg Bool.false_ne_true, inductionHypothesis noUpper.2]

/-- Only dots become dots. -/
theorem eq_of_snakeCase_eq_dots {identifier dots : String} (only : ∀ c ∈ dots.toList, c = '.')
    (same : snakeCase identifier = dots) : identifier = dots := by
  have characters : snakeFrom none identifier.toList = dots.toList := by
    rw [← same, snakeCase, String.toList_ofList]
  have written : ∀ c ∈ identifier.toList, c = '.' := by
    rw [← characters] at only
    exact forall_eq_of_snakeFrom (by decide) (by decide) only
  have noUpper : ∀ c ∈ identifier.toList, isUpper c = false := by
    intro c member
    rw [written c member]
    decide
  rw [snakeFrom_of_no_upper noUpper] at characters
  exact String.toList_injective characters

/-! ## Pieces -/

private theorem snakeFrom_slash (text : List Char) :
    snakeFrom (some '/') text = snakeFrom none text := by
  have noWord : ∀ rest, startsWord (some '/') rest = startsWord none rest := by
    intro rest
    have signs : isLower '/' = false ∧ '/'.isDigit = false ∧ isUpper '/' = false := by decide
    simp [startsWord, signs]
  cases text with
  | nil => rfl
  | cons c rest => rw [snakeFrom, snakeFrom, noWord]

/-- A slash parts words, so the texts before and behind it are lowered by themselves. -/
theorem snakeFrom_append_slash (previous : Option Char) (left right : List Char) :
    snakeFrom previous (left ++ '/' :: right) =
      snakeFrom previous left ++ '/' :: snakeFrom none right := by
  induction left generalizing previous with
  | nil =>
      have noUpper : ¬ isUpper '/' = true := by decide
      have head : snakeFrom previous ('/' :: right) = '/' :: snakeFrom (some '/') right :=
        if_neg noUpper
      rw [List.nil_append, head, snakeFrom_slash]
      rfl
  | cons c rest inductionHypothesis =>
      have sameWord : startsWord previous (rest ++ '/' :: right) = startsWord previous rest := by
        have noLower : isLower '/' = false := by decide
        cases rest with
        | nil => simp [startsWord, noLower]
        | cons d more => rfl
      rw [List.cons_append, snakeFrom, snakeFrom, sameWord, inductionHypothesis]
      split
      · rw [← List.append_assoc]
      · rw [List.cons_append]

theorem snakeFrom_joined (parts : List (List Char)) :
    snakeFrom none (joined '/' parts) = joined '/' (parts.map (snakeFrom none)) := by
  induction parts with
  | nil => rfl
  | cons first others inductionHypothesis =>
      cases others with
      | nil => rfl
      | cons second more =>
          rw [joined, snakeFrom_append_slash, inductionHypothesis]
          · rfl
          · exact List.cons_ne_nil _ _

/-- The pieces of a snake case form are the snake case forms of the pieces. -/
theorem pieces_snakeCase (identifier : String) :
    pieces '/' (snakeCase identifier).toList =
      (pieces '/' identifier.toList).map (snakeFrom none) := by
  have cut := joined_pieces '/' identifier.toList
  rw [snakeCase, String.toList_ofList, ← cut, snakeFrom_joined, cut]
  apply pieces_joined
  · exact fun none => pieces_ne_nil '/' _ (List.map_eq_nil_iff.mp none)
  · intro part member inPart
    obtain ⟨piece, isPiece, rfl⟩ := List.mem_map.mp member
    exact not_mem_of_mem_pieces isPiece (mem_of_mem_snakeFrom (by decide) (by decide) inPart)

end EntityGen.Naming
