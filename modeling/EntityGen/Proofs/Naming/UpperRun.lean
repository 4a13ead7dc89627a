import EntityGen.Proofs.Naming.SnakeCase
import Mathlib.Data.List.DropRight

/-!
Contract: the underscores of snake case, told by whole runs of upper case letters.

Owns:
- `IsUpperRun`, the runs that cannot be made longer;
- `OpensWord`, the places where such a run opens a word;
- snake case as the lowered text with an underscore at each of these places.

Does not own: which letters have a case.

Snake case looks at the two neighbours of a letter and never at a run. The neighbours tell
where a run ends because no letter has both cases and no digit has any: a lower case letter
or a digit before a letter says that the run starts there, and a lower case letter behind it
says that the run is over.
-/

namespace EntityGen.Naming

open EntityGen.Text

/-- Upper case letters between two texts that do not continue them. -/
structure IsUpperRun (before run behind : List Char) : Prop where
  nonempty : run ≠ []
  upper : ∀ c ∈ run, isUpper c = true
  starts : ∀ c ∈ before.getLast?, isUpper c = false
  ends : ∀ c ∈ behind.head?, isUpper c = false

/-- The places of a text where a run opens a word: at its first letter behind a lower case
letter or a digit, and at the last of several letters in front of a lower case letter. -/
def OpensWord (text : List Char) (place : Nat) : Prop :=
  ∃ before run behind, text = before ++ run ++ behind ∧ IsUpperRun before run behind ∧
    ((place = before.length ∧
        ∃ c ∈ before.getLast?, isLower c = true ∨ c.isDigit = true) ∨
      (place + 1 = before.length + run.length ∧ 2 ≤ run.length ∧
        ∃ c ∈ behind.head?, isLower c = true))

/-! ## Runs and neighbours -/

variable {before rest : List Char} {c : Char}

theorem startsWord_eq_true_iff {previous : Option Char} :
    startsWord previous rest = true ↔
      ∃ d ∈ previous, isLower d = true ∨ d.isDigit = true ∨
        isUpper d = true ∧ ∃ e ∈ rest.head?, isLower e = true := by
  cases previous with
  | none => simp [startsWord]
  | some d => simp [startsWord, or_assoc, Option.any_eq_true]

/-- Behind a character that is not upper case, a run starts. -/
theorem isUpperRun_from (rest : List Char) (upper : isUpper c = true)
    (starts : ∀ d ∈ before.getLast?, isUpper d = false) :
    IsUpperRun before (c :: rest.takeWhile isUpper) (rest.dropWhile isUpper) := by
  refine ⟨List.cons_ne_nil _ _, ?_, starts, ?_⟩
  · rw [List.forall_mem_cons]
    exact ⟨upper, fun d member => List.mem_takeWhile_imp member⟩
  · intro d isFirst
    have notUpper := List.head?_dropWhile_not isUpper rest
    rw [Option.mem_def.mp isFirst] at notUpper
    exact notUpper

/-- In front of a character that is not upper case, a run ends. -/
theorem isUpperRun_to (before : List Char) (upper : isUpper c = true)
    (ends : ∀ d ∈ rest.head?, isUpper d = false) :
    IsUpperRun (before.rdropWhile isUpper) (before.rtakeWhile isUpper ++ [c]) rest := by
  refine ⟨List.append_ne_nil_of_right_ne_nil _ (List.cons_ne_nil _ _), ?_, ?_, ends⟩
  · rw [List.forall_mem_append, List.forall_mem_singleton]
    exact ⟨fun d member => List.mem_rtakeWhile_imp member, upper⟩
  · intro d isLast
    rw [List.rdropWhile, List.getLast?_reverse] at isLast
    have notUpper := List.head?_dropWhile_not isUpper before.reverse
    rw [Option.mem_def.mp isLast] at notUpper
    exact notUpper

/-- In front of the last of several letters of a run stands another one. -/
theorem IsUpperRun.upper_before_last {front behind : List Char}
    (isRun : IsUpperRun before (front ++ [c]) behind) (several : front ≠ []) :
    ∃ d ∈ (before ++ front).getLast?, isUpper d = true := by
  refine ⟨front.getLast several, ?_, ?_⟩
  · rw [List.getLast?_append_of_ne_nil _ several]
    exact List.getLast?_eq_some_getLast several
  · exact isRun.upper _ (List.mem_append_left _ (List.getLast_mem several))

/-- A run opens a word behind a lower case letter or a digit. -/
theorem opensWord_behind (upper : isUpper c = true) {d : Char} (isLast : d ∈ before.getLast?)
    (notUpper : isUpper d = false) (small : isLower d = true ∨ d.isDigit = true) :
    OpensWord (before ++ c :: rest) before.length := by
  have starts : ∀ other ∈ before.getLast?, isUpper other = false := by
    intro other isOther
    rwa [Option.mem_unique isOther isLast]
  refine ⟨before, _, _, ?_, isUpperRun_from rest upper starts, Or.inl ⟨rfl, d, isLast, small⟩⟩
  rw [List.append_assoc, List.cons_append, List.takeWhile_append_dropWhile]

/-- The last letter of a run opens a word in front of a lower case letter. -/
theorem opensWord_inside (upper : isUpper c = true) {d e : Char} (isLast : d ∈ before.getLast?)
    (upperBefore : isUpper d = true) (isFirst : e ∈ rest.head?) (lower : isLower e = true) :
    OpensWord (before ++ c :: rest) before.length := by
  have ends : ∀ other ∈ rest.head?, isUpper other = false := by
    intro other isOther
    rw [Option.mem_unique isOther isFirst]
    exact isUpper_of_isLower lower
  have whole : before.rdropWhile isUpper ++ before.rtakeWhile isUpper = before :=
    List.rdropWhile_append_rtakeWhile
  have several : 0 < (before.rtakeWhile isUpper).length := by
    obtain ⟨front, rfl⟩ := List.getLast?_eq_some_iff.mp isLast
    rw [List.rtakeWhile_concat_pos isUpper front d upperBefore, List.length_append]
    simp
  refine ⟨_, _, rest, ?_, isUpperRun_to before upper ends, Or.inr ⟨?_, ?_, e, isFirst, lower⟩⟩
  · rw [← List.append_assoc, whole, List.append_assoc, List.singleton_append]
  · have length := congrArg List.length whole
    rw [List.length_append] at length
    rw [List.length_append, List.length_singleton]
    omega
  · rw [List.length_append, List.length_singleton]
    omega

/-- A word opens at a letter exactly if the letter is upper case and its neighbours say so. -/
theorem opensWord_iff_startsWord (before : List Char) (c : Char) (rest : List Char) :
    OpensWord (before ++ c :: rest) before.length ↔
      isUpper c = true ∧ startsWord before.getLast? rest = true := by
  rw [startsWord_eq_true_iff]
  constructor
  · rintro ⟨outer, run, behind, split, isRun, ⟨atStart, d, isLast, small⟩ |
      ⟨atEnd, several, e, isFirst, small⟩⟩
    · rw [List.append_assoc] at split
      obtain ⟨rfl, tail⟩ := List.append_inj split atStart
      obtain ⟨first, more, rfl⟩ := List.exists_cons_of_ne_nil isRun.nonempty
      obtain ⟨rfl, -⟩ := List.cons.inj tail
      refine ⟨isRun.upper c (List.mem_cons_self ..), d, isLast, ?_⟩
      rcases small with lower | digit
      · exact Or.inl lower
      · exact Or.inr (Or.inl digit)
    · obtain ⟨front, last, rfl⟩ := (List.eq_nil_or_concat' run).resolve_left isRun.nonempty
      rw [List.length_append, List.length_singleton] at atEnd several
      have sameLength : before.length = (outer ++ front).length := by
        rw [List.length_append]
        omega
      rw [← List.append_assoc, List.append_assoc, List.singleton_append] at split
      obtain ⟨rfl, tail⟩ := List.append_inj split sameLength
      obtain ⟨rfl, rfl⟩ := List.cons.inj tail
      obtain ⟨d, isLast, upperBefore⟩ := isRun.upper_before_last (List.length_pos_iff.mp (by omega))
      exact ⟨isRun.upper c (by simp), d, isLast, Or.inr (Or.inr ⟨upperBefore, e, isFirst, small⟩)⟩
  · rintro ⟨upper, d, isLast, lower | digit | ⟨upperBefore, e, isFirst, lower⟩⟩
    · exact opensWord_behind upper isLast (isUpper_of_isLower lower) (Or.inl lower)
    · exact opensWord_behind upper isLast (isUpper_of_isDigit digit) (Or.inr digit)
    · exact opensWord_inside upper isLast upperBefore isFirst lower

/-- The places where words open can be told from the neighbours, so they can be computed. -/
theorem opensWord_iff {text : List Char} {place : Nat} :
    OpensWord text place ↔
      (text[place]?.any fun c => isUpper c &&
        startsWord (text.take place).getLast? (text.drop (place + 1))) = true := by
  by_cases inText : place < text.length
  · have split : text.take place ++ text[place] :: text.drop (place + 1) = text := by
      rw [← List.drop_eq_getElem_cons inText, List.take_append_drop]
    have length : (text.take place).length = place := List.length_take_of_le (by omega)
    have neighbours := opensWord_iff_startsWord (text.take place) text[place]
      (text.drop (place + 1))
    rw [split, length] at neighbours
    rw [neighbours, List.getElem?_eq_getElem inText, Option.any_some, Bool.and_eq_true]
  · rw [List.getElem?_eq_none (by omega), Option.any_none]
    refine iff_of_false ?_ Bool.false_ne_true
    rintro ⟨before, run, behind, rfl, isRun, atPlace⟩
    have nonempty := List.length_pos_iff.mpr isRun.nonempty
    simp only [List.length_append] at inText
    omega

instance (text : List Char) (place : Nat) : Decidable (OpensWord text place) :=
  decidable_of_iff' _ opensWord_iff

/-! ## Snake case -/

/-- Behind a text, snake case marks the places of the whole. -/
theorem snakeFrom_eq_flatten (before rest : List Char) :
    snakeFrom before.getLast? rest =
      (rest.mapIdx fun place c =>
        (if OpensWord (before ++ rest) (before.length + place) then ['_'] else []) ++
          if isUpper c then lower c else [c]).flatten := by
  induction rest generalizing before with
  | nil => rfl
  | cons c rest inductionHypothesis =>
      have sameText : before ++ [c] ++ rest = before ++ c :: rest := by simp
      have samePlace : ∀ place, (before ++ [c]).length + place = before.length + (place + 1) := by
        intro place
        rw [List.length_append, List.length_singleton]
        omega
      have behind := inductionHypothesis (before ++ [c])
      simp only [sameText, samePlace, List.getLast?_concat] at behind
      rw [snakeFrom, behind, List.mapIdx_cons, List.flatten_cons, Nat.add_zero]
      cases upper : isUpper c with
      | false => simp [opensWord_iff_startsWord, upper]
      | true => simp [opensWord_iff_startsWord, upper]

/-- **Snake case marks the runs of upper case letters.** It is the text with every upper case
letter lowered and with an underscore at each place where a run opens a word, and nowhere
else. -/
theorem snakeCase_marks_runs (identifier : String) :
    (snakeCase identifier).toList =
      (identifier.toList.mapIdx fun place c =>
        (if OpensWord identifier.toList place then ['_'] else []) ++
          if isUpper c then lower c else [c]).flatten := by
  have marked := snakeFrom_eq_flatten [] identifier.toList
  simp only [List.nil_append, List.length_nil, Nat.zero_add] at marked
  rw [snakeCase, String.toList_ofList]
  exact marked

example : snakeCase "MDEntry2Px" = "md_entry2_px" := by decide

end EntityGen.Naming
