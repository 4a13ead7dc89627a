import EntityGen.Text.Split

/-!
Contract: cutting and joining as inverses.

Owns:
- cutting a text without separator, and a text with one in its middle;
- cutting what was joined from parts without separators.

Does not own: the deletion of substrings.
-/

namespace EntityGen.Text

variable {separator : Char}

theorem pieces_of_not_mem {text : List Char} (free : separator ∉ text) :
    pieces separator text = [text] := by
  induction text with
  | nil => rfl
  | cons c rest inductionHypothesis =>
      have different : c ≠ separator := fun same => free (same ▸ List.mem_cons_self ..)
      have restFree : separator ∉ rest := fun member => free (List.mem_cons_of_mem c member)
      rw [pieces, if_neg different, inductionHypothesis restFree]

/-- A separator parts the pieces before it from those behind it. -/
theorem pieces_append_cons (left right : List Char) :
    pieces separator (left ++ separator :: right) =
      pieces separator left ++ pieces separator right := by
  induction left with
  | nil => simp [pieces]
  | cons c rest inductionHypothesis =>
      rw [List.cons_append, pieces, pieces, inductionHypothesis]
      split
      · rfl
      · cases equation : pieces separator rest with
        | nil => exact absurd equation (pieces_ne_nil separator rest)
        | cons first others => rfl

theorem not_mem_of_mem_pieces {text piece : List Char} (member : piece ∈ pieces separator text) :
    separator ∉ piece := by
  induction text generalizing piece with
  | nil =>
      obtain rfl := List.mem_singleton.mp member
      exact List.not_mem_nil
  | cons c rest inductionHypothesis =>
      rw [pieces] at member
      split at member
      · rcases List.mem_cons.mp member with rfl | inRest
        · exact List.not_mem_nil
        · exact inductionHypothesis inRest
      · next different =>
          cases equation : pieces separator rest with
          | nil => exact absurd equation (pieces_ne_nil separator rest)
          | cons first others =>
              rw [equation] at member inductionHypothesis
              rcases List.mem_cons.mp member with rfl | inOthers
              · have free := inductionHypothesis (List.mem_cons_self ..)
                exact fun inPiece => (List.mem_cons.mp inPiece).elim
                  (fun same => different same.symm) free
              · exact inductionHypothesis (List.mem_cons_of_mem _ inOthers)

/-- What stands behind all separators ends the last piece. -/
theorem exists_getLast?_pieces_append (left : List Char) {right : List Char}
    (free : separator ∉ right) :
    ∃ front, (pieces separator (left ++ right)).getLast? = some (front ++ right) := by
  induction left with
  | nil =>
      refine ⟨[], ?_⟩
      rw [List.nil_append, pieces_of_not_mem free]
      rfl
  | cons c rest inductionHypothesis =>
      obtain ⟨front, isLast⟩ := inductionHypothesis
      rw [List.cons_append, pieces]
      by_cases same : c = separator
      · refine ⟨front, ?_⟩
        rw [if_pos same, List.getLast?_cons_of_ne_nil (pieces_ne_nil separator _)]
        exact isLast
      · rw [if_neg same]
        cases equation : pieces separator (rest ++ right) with
        | nil => exact absurd equation (pieces_ne_nil separator _)
        | cons first others =>
            rw [equation] at isLast
            cases others with
            | nil =>
                obtain rfl := Option.some.inj isLast
                exact ⟨c :: front, rfl⟩
            | cons second more => exact ⟨front, isLast⟩

/-- Parts without separators are found again. -/
theorem pieces_joined {parts : List (List Char)} (nonempty : parts ≠ [])
    (free : ∀ part ∈ parts, separator ∉ part) :
    pieces separator (joined separator parts) = parts := by
  induction parts with
  | nil => exact absurd rfl nonempty
  | cons first others inductionHypothesis =>
      have firstFree : separator ∉ first := free first (List.mem_cons_self ..)
      cases others with
      | nil => exact pieces_of_not_mem firstFree
      | cons second more =>
          have othersFree : ∀ part ∈ second :: more, separator ∉ part := fun part member =>
            free part (List.mem_cons_of_mem first member)
          rw [joined, pieces_append_cons, pieces_of_not_mem firstFree,
            inductionHypothesis (List.cons_ne_nil _ _) othersFree, List.singleton_append]
          exact List.cons_ne_nil _ _

theorem joined_cons (first : List Char) (others : List (List Char)) :
    joined separator (first :: others) = first ++ others.flatMap (separator :: ·) := by
  induction others generalizing first with
  | nil => simp [joined]
  | cons second more inductionHypothesis =>
      rw [joined, inductionHypothesis, List.flatMap_cons, List.cons_append]
      exact List.cons_ne_nil _ _

/-- One part more is a separator and the part more. -/
theorem joined_concat {front : List (List Char)} (nonempty : front ≠ []) (last : List Char) :
    joined separator (front ++ [last]) = joined separator front ++ separator :: last := by
  obtain ⟨first, others, rfl⟩ := List.exists_cons_of_ne_nil nonempty
  rw [List.cons_append, joined_cons, joined_cons, List.flatMap_append, List.flatMap_singleton,
    List.append_assoc]

/-- A text behind the last part is a text behind the whole. -/
theorem joined_concat_append (front : List (List Char)) (last more : List Char) :
    joined separator (front ++ [last ++ more]) =
      joined separator (front ++ [last]) ++ more := by
  by_cases nonempty : front = []
  · subst nonempty
    rfl
  · rw [joined_concat nonempty, joined_concat nonempty, List.append_assoc, List.cons_append]

/-- A character of a joined text is a separator or comes from a part. -/
theorem mem_joined {parts : List (List Char)} {c : Char} (member : c ∈ joined separator parts) :
    c = separator ∨ ∃ part ∈ parts, c ∈ part := by
  cases parts with
  | nil => exact absurd member List.not_mem_nil
  | cons first others =>
      rw [joined_cons, List.mem_append, List.mem_flatMap] at member
      rcases member with inFirst | ⟨part, isPart, behind⟩
      · exact Or.inr ⟨first, List.mem_cons_self .., inFirst⟩
      · rcases List.mem_cons.mp behind with isSeparator | inPart
        · exact Or.inl isSeparator
        · exact Or.inr ⟨part, List.mem_cons_of_mem first isPart, inPart⟩

theorem mem_joined_of_mem {parts : List (List Char)} {part : List Char} {c : Char}
    (isPart : part ∈ parts) (inPart : c ∈ part) : c ∈ joined separator parts := by
  cases parts with
  | nil => cases isPart
  | cons first others =>
      rw [joined_cons, List.mem_append, List.mem_flatMap]
      rcases List.mem_cons.mp isPart with rfl | inOthers
      · exact Or.inl inPart
      · exact Or.inr ⟨part, inOthers, List.mem_cons_of_mem separator inPart⟩

end EntityGen.Text
