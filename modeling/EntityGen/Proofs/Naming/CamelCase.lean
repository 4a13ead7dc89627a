import EntityGen.Proofs.Naming.Policy

/-!
Contract: the snake case form of identifiers that are put together from words.

Owns:
- `Word` and `camelCase`, the words of an identifier and the identifier;
- the words with underscores between them as its snake case form, and the way back;
- `Conventional`, the classes all of whose segments are such identifiers.

Does not own: the files of such classes.

A word ends in a lower case letter or a digit, so the capital behind it opens a word
whatever comes next. This is why a word has two letters: the capital of a shorter one and
the capital behind it would be one run.
-/

namespace EntityGen.Naming

open EntityGen.Text

/-- A basic lower case letter or a digit. -/
def isWordSign (c : Char) : Bool := c.isLower || c.isDigit

/-- A basic lower case letter, with at least one such letter or digit behind it. -/
structure Word where
  first : Char
  rest : List Char
  isLetter : first.isLower = true
  continued : rest ≠ []
  areSigns : rest.all isWordSign = true

def Word.letters (word : Word) : List Char := word.first :: word.rest

/-- A text with its first letter in upper case. -/
def capitalized : List Char → List Char
  | [] => []
  | c :: rest => c.toUpper :: rest

/-- The identifier of words: each with a capital, one behind the other. -/
def camelCase (words : List Word) : String :=
  String.ofList (words.flatMap fun word => capitalized word.letters)

/-- Words with underscores between them. -/
def underscored (words : List Word) : String :=
  String.ofList (joined '_' (words.map Word.letters))

/-- The identifier of the words between the underscores of a text. -/
def camelCaseOf (text : String) : String :=
  String.ofList ((pieces '_' text.toList).flatMap capitalized)

/-! ## Signs of words -/

theorem isUpper_of_isWordSign {c : Char} (sign : isWordSign c = true) : isUpper c = false := by
  rcases Bool.or_eq_true_iff.mp sign with small | digit
  · exact isUpper_of_isLower (isLower_of_basic small)
  · exact isUpper_of_isDigit digit

theorem isAlphanum_of_isWordSign {c : Char} (sign : isWordSign c = true) :
    c.isAlphanum = true := by
  rcases Bool.or_eq_true_iff.mp sign with small | digit
  · have letter : c.isAlpha = true := Bool.or_eq_true_iff.mpr (Or.inr small)
    exact Bool.or_eq_true_iff.mpr (Or.inl letter)
  · exact Bool.or_eq_true_iff.mpr (Or.inr digit)

theorem Word.isWordSign_of_mem_letters (word : Word) {c : Char} (member : c ∈ word.letters) :
    isWordSign c = true := by
  rcases List.mem_cons.mp member with rfl | inRest
  · rw [isWordSign, word.isLetter, Bool.true_or]
  · exact List.all_eq_true.mp word.areSigns c inRest

theorem Word.not_mem_letters (word : Word) {sign : Char} (other : sign.isAlphanum = false) :
    sign ∉ word.letters := by
  intro member
  rw [isAlphanum_of_isWordSign (word.isWordSign_of_mem_letters member)] at other
  cases other

theorem isAlphanum_toUpper {c : Char} (small : c.isLower = true) :
    c.toUpper.isAlphanum = true :=
  forall_basic (P := fun c => c.isLower = true → c.toUpper.isAlphanum = true) (by decide)
    (basic_of_isLower small) small

theorem not_mem_camelCase {words : List Word} {sign : Char} (other : sign.isAlphanum = false) :
    sign ∉ (camelCase words).toList := by
  intro member
  rw [camelCase, String.toList_ofList] at member
  obtain ⟨word, -, inWord⟩ := List.mem_flatMap.mp member
  rcases List.mem_cons.mp inWord with rfl | inRest
  · rw [isAlphanum_toUpper word.isLetter] at other
    cases other
  · exact word.not_mem_letters other (List.mem_cons_of_mem _ inRest)

/-! ## Snake case -/

/-- Signs of words stay as they are, and the last of them is behind. -/
theorem snakeFrom_signs {signs : List Char} (nonempty : signs ≠ [])
    (areSigns : signs.all isWordSign = true) (previous : Option Char) (tail : List Char) :
    ∃ last, isWordSign last = true ∧
      snakeFrom previous (signs ++ tail) = signs ++ snakeFrom (some last) tail := by
  induction signs generalizing previous with
  | nil => exact absurd rfl nonempty
  | cons c rest inductionHypothesis =>
      rw [List.all_cons, Bool.and_eq_true] at areSigns
      have kept : snakeFrom previous (c :: rest ++ tail) =
          c :: snakeFrom (some c) (rest ++ tail) := by
        rw [List.cons_append, snakeFrom, isUpper_of_isWordSign areSigns.1,
          if_neg Bool.false_ne_true]
      by_cases more : rest = []
      · subst more
        exact ⟨c, areSigns.1, kept⟩
      · obtain ⟨last, isSign, behind⟩ := inductionHypothesis more areSigns.2 (some c)
        exact ⟨last, isSign, by rw [kept, behind, List.cons_append]⟩

/-- A word with a capital becomes the word, behind an underscore if it opens one. -/
theorem snakeFrom_capitalized (word : Word) (previous : Option Char) (tail : List Char) :
    ∃ last, isWordSign last = true ∧
      snakeFrom previous (capitalized word.letters ++ tail) =
        (if startsWord previous (word.rest ++ tail) then ['_'] else []) ++ word.letters ++
          snakeFrom (some last) tail := by
  obtain ⟨isCapital, lowered⟩ := lower_toUpper word.isLetter
  obtain ⟨last, isSign, behind⟩ :=
    snakeFrom_signs word.continued word.areSigns (some word.first.toUpper) tail
  refine ⟨last, isSign, ?_⟩
  rw [Word.letters, capitalized, List.cons_append, snakeFrom, if_pos isCapital, lowered, behind]
  simp

theorem snakeFrom_words {last : Char} (isSign : isWordSign last = true) (words : List Word) :
    snakeFrom (some last) (words.flatMap fun word => capitalized word.letters) =
      (words.map Word.letters).flatMap ('_' :: ·) := by
  induction words generalizing last with
  | nil => rfl
  | cons word others inductionHypothesis =>
      have opens : ∀ rest, startsWord (some last) rest = true := by
        intro rest
        rcases Bool.or_eq_true_iff.mp isSign with small | digit
        · simp [startsWord, isLower_of_basic small]
        · simp [startsWord, digit]
      obtain ⟨next, nextIsSign, written⟩ := snakeFrom_capitalized word (some last)
        (others.flatMap fun word => capitalized word.letters)
      rw [List.flatMap_cons, written, opens, inductionHypothesis nextIsSign]
      simp

/-- The snake case form of an identifier has its words with underscores between them. -/
theorem snakeCase_camelCase (words : List Word) :
    snakeCase (camelCase words) = underscored words := by
  rw [snakeCase, camelCase, String.toList_ofList, underscored]
  cases words with
  | nil => rfl
  | cons word others =>
      obtain ⟨last, isSign, written⟩ := snakeFrom_capitalized word none
        (others.flatMap fun word => capitalized word.letters)
      have opensNone : ∀ rest, startsWord none rest = false := fun _ => rfl
      rw [List.flatMap_cons, written, opensNone, snakeFrom_words isSign, List.map_cons, joined_cons]
      simp

/-- The words can be read back. -/
theorem camelCaseOf_snakeCase {words : List Word} (nonempty : words ≠ []) :
    camelCaseOf (snakeCase (camelCase words)) = camelCase words := by
  have free : ∀ part ∈ words.map Word.letters, '_' ∉ part := by
    intro part member
    obtain ⟨word, -, rfl⟩ := List.mem_map.mp member
    exact word.not_mem_letters (by decide)
  have some : words.map Word.letters ≠ [] := by simpa using nonempty
  rw [snakeCase_camelCase, camelCaseOf, underscored, String.toList_ofList, pieces_joined some free,
    List.flatMap_map]
  rfl

end EntityGen.Naming

/-! ## Conventional classes -/

namespace EntityGen.NamingPolicy

variable {policy : NamingPolicy} {className : String}

/-- A class whose reduced name has segments, each an identifier of words. -/
def Conventional (policy : NamingPolicy) (className : String) : Prop :=
  policy.segments className ≠ [] ∧
    ∀ segment ∈ policy.segments className,
      ∃ words : List Naming.Word, words ≠ [] ∧ segment = Naming.camelCase words

theorem Conventional.plain (conventional : policy.Conventional className) :
    policy.Plain className := by
  refine ⟨conventional.1, fun segment member => ?_⟩
  obtain ⟨words, -, rfl⟩ := conventional.2 segment member
  exact ⟨Naming.not_mem_camelCase (by decide), Naming.not_mem_camelCase (by decide)⟩

/-- The segments of a conventional class can be read back from those of its file. -/
theorem Conventional.map_camelCaseOf (conventional : policy.Conventional className) :
    (policy.fileSegments className).map Naming.camelCaseOf = policy.segments className := by
  rw [fileSegments, List.map_map]
  conv_rhs => rw [← List.map_id (policy.segments className)]
  apply List.map_congr_left
  intro segment member
  obtain ⟨words, nonempty, rfl⟩ := conventional.2 segment member
  exact Naming.camelCaseOf_snakeCase nonempty

theorem Conventional.fileSegments_eq_iff {other : String}
    (conventional : policy.Conventional className) (otherIs : policy.Conventional other) :
    policy.fileSegments className = policy.fileSegments other ↔
      policy.segments className = policy.segments other := by
  constructor
  · intro same
    rw [← conventional.map_camelCaseOf, same, otherIs.map_camelCaseOf]
  · intro same
    rw [fileSegments, same, fileSegments]

end EntityGen.NamingPolicy
