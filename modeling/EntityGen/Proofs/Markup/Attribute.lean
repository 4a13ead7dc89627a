import EntityGen.Markup.Writer
import Mathlib.Data.List.Basic

/-!
Contract: attributes that are written are read back.

Owns:
- `IsWord`, the names of elements and attributes in the documented form;
- `Quotable`, the attributes that a tag can have, and a tag that has them;
- the reading of one attribute, place by place;
- name and attributes of a tag that was put together from them.

Does not own: where a tag ends, and what attributes mean.

A value stands between quotes of one kind, so it can have all characters but quotes of
both kinds. The documented form has double quotes only, and words for keys.
-/

namespace EntityGen.Markup

/-! ## Words -/

/-- A name made of letters. -/
def IsWord (name : String) : Prop :=
  name ≠ "" ∧ name.toList.all Char.isAlpha = true

instance (name : String) : Decidable (IsWord name) := by
  unfold IsWord
  infer_instance

theorem ne_of_isAlpha {c : Char} (letter : c.isAlpha = true) (sign : Char)
    (notLetter : sign.isAlpha = false) : c ≠ sign := by
  rintro rfl
  rw [letter] at notLetter
  cases notLetter

theorem isSpace_of_isAlpha {c : Char} (letter : c.isAlpha = true) : isSpace c = false := by
  apply eq_false_of_ne_true
  intro blank
  simp only [isSpace, Bool.or_eq_true, beq_iff_eq] at blank
  rcases blank with ((rfl | rfl) | rfl) | rfl
  all_goals exact absurd letter (by decide)

theorem IsWord.letters {name : String} (isWord : IsWord name) :
    ∀ c ∈ name.toList, c.isAlpha = true :=
  List.all_eq_true.mp isWord.2

theorem IsWord.exists_cons {name : String} (isWord : IsWord name) :
    ∃ first letters, name.toList = first :: letters ∧ first.isAlpha = true ∧
      ∀ c ∈ letters, c.isAlpha = true := by
  have letters := isWord.letters
  cases characters : name.toList with
  | nil => exact absurd (String.toList_eq_nil_iff.mp characters) isWord.1
  | cons first others =>
      rw [characters, List.forall_mem_cons] at letters
      exact ⟨first, others, rfl, letters.1, letters.2⟩

/-! ## Attributes that can be written -/

/-- A name that an attribute can have: it does not begin with a blank, and nothing behind
its first character ends it. -/
def IsKey (key : String) : Prop :=
  key.toList.head?.any (!isSpace ·) = true ∧ ∀ c ∈ key.toList.tail, c ≠ '=' ∧ isSpace c = false

instance (key : String) : Decidable (IsKey key) :=
  have := List.decidableBAll (fun c => c ≠ '=' ∧ isSpace c = false) key.toList.tail
  inferInstanceAs (Decidable (_ ∧ _))

theorem isKey_iff {key : String} :
    IsKey key ↔ ∃ first rest, key.toList = first :: rest ∧ isSpace first = false ∧
      ∀ c ∈ rest, c ≠ '=' ∧ isSpace c = false := by
  unfold IsKey
  cases key.toList with
  | nil => simp
  | cons first rest =>
      constructor
      · exact fun isKey => ⟨first, rest, rfl, by simpa using isKey.1, isKey.2⟩
      · rintro ⟨_, _, same, visible, unended⟩
        obtain ⟨rfl, rfl⟩ := List.cons.inj same
        exact ⟨by simpa using visible, unended⟩

theorem IsWord.isKey {key : String} (isWord : IsWord key) : IsKey key := by
  obtain ⟨first, rest, isKey, isLetter, areLetters⟩ := isWord.exists_cons
  refine isKey_iff.mpr ⟨first, rest, isKey, isSpace_of_isAlpha isLetter, fun c member => ?_⟩
  have letter := areLetters c member
  exact ⟨ne_of_isAlpha letter '=' (by decide), isSpace_of_isAlpha letter⟩

/-- The quotes for a value: double ones, unless the value has one of its own. -/
def quoteFor (value : String) : Char :=
  if '"' ∈ value.toList then '\'' else '"'

theorem isQuote_quoteFor (value : String) : isQuote (quoteFor value) = true := by
  unfold quoteFor
  split <;> rfl

namespace TagAttribute

/-- An attribute in the documented form: its key is a word, and its value has no double
quote. -/
def Admissible (given : TagAttribute) : Prop :=
  IsWord given.key ∧ '"' ∉ given.value.toList

/-- An attribute that a tag can have: its key can be a name, and its value does not have
quotes of both kinds. -/
def Quotable (given : TagAttribute) : Prop :=
  IsKey given.key ∧ ('"' ∉ given.value.toList ∨ '\'' ∉ given.value.toList)

instance (given : TagAttribute) : Decidable given.Quotable := by
  unfold Quotable
  infer_instance

/-- An attribute as it stands in a tag, in the quotes that its value allows. -/
def quoted (given : TagAttribute) : List Char :=
  ' ' :: given.key.toList ++
    '=' :: (quoteFor given.value :: given.value.toList ++ [quoteFor given.value])

theorem Admissible.quotable {given : TagAttribute} (admissible : given.Admissible) :
    given.Quotable :=
  ⟨admissible.1.isKey, Or.inl admissible.2⟩

theorem Quotable.quoteFor_not_mem {given : TagAttribute} (quotable : given.Quotable) :
    quoteFor given.value ∉ given.value.toList := by
  unfold quoteFor
  split
  · next hasDouble => exact quotable.2.resolve_left (not_not_intro hasDouble)
  · next noDouble => exact noDouble

theorem written_eq_quoted {given : TagAttribute} (free : '"' ∉ given.value.toList) :
    given.written = given.quoted := by
  rw [written, quoted, quoteFor, if_neg free]
  simp

end TagAttribute

/-! ## One attribute -/

section Steps

variable {known : KeyPositions} {place next : AttributePlace} {position : Nat} {c : Char}

theorem attributesFrom_of_incomplete {known' : KeyPositions}
    (step : AttributeStep.take known place position c = .ok ⟨next, known', none⟩)
    (rest : List Char) :
    attributesFrom known place position (c :: rest) =
      attributesFrom known' next (position + c.utf8Size) rest := by
  rw [attributesFrom, step]
  rfl

theorem attributesFrom_of_complete {known' : KeyPositions} {given : TagAttribute}
    (step : AttributeStep.take known place position c = .ok ⟨next, known', some given⟩)
    (rest : List Char) :
    attributesFrom known place position (c :: rest) =
      (given :: (attributesFrom known' next (position + c.utf8Size) rest).1,
        (attributesFrom known' next (position + c.utf8Size) rest).2) := by
  rw [attributesFrom, step]
  rfl

theorem exists_attributesFrom_key (known : KeyPositions) (start : Nat) {letters : List Char}
    (unended : ∀ c ∈ letters, c ≠ '=' ∧ isSpace c = false) (read : List Char) (position : Nat)
    (rest : List Char) :
    ∃ reached, attributesFrom known (.key start read) position (letters ++ rest) =
      attributesFrom known (.key start (letters.reverse ++ read)) reached rest := by
  induction letters generalizing read position with
  | nil => exact ⟨position, rfl⟩
  | cons letter others inductionHypothesis =>
      rw [List.forall_mem_cons] at unended
      have step : AttributeStep.take known (.key start read) position letter =
          .ok ⟨.key start (letter :: read), known, none⟩ := by
        simp [AttributeStep.take, unended.1]
      obtain ⟨reached, othersRead⟩ :=
        inductionHypothesis unended.2 (letter :: read) (position + letter.utf8Size)
      refine ⟨reached, ?_⟩
      rw [List.cons_append, attributesFrom_of_incomplete step, othersRead, List.reverse_cons,
        List.append_assoc, List.singleton_append]

theorem exists_attributesFrom_value (known : KeyPositions) (key : String) {quote : Char}
    {text : List Char} (free : quote ∉ text) (read : List Char) (position : Nat)
    (rest : List Char) :
    ∃ reached, attributesFrom known (.value key quote read) position (text ++ rest) =
      attributesFrom known (.value key quote (text.reverse ++ read)) reached rest := by
  induction text generalizing read position with
  | nil => exact ⟨position, rfl⟩
  | cons c others inductionHypothesis =>
      rw [List.mem_cons, not_or] at free
      have step : AttributeStep.take known (.value key quote read) position c =
          .ok ⟨.value key quote (c :: read), known, none⟩ := by
        simp [AttributeStep.take, Ne.symm free.1]
      obtain ⟨reached, othersRead⟩ :=
        inductionHypothesis free.2 (c :: read) (position + c.utf8Size)
      refine ⟨reached, ?_⟩
      rw [List.cons_append, attributesFrom_of_incomplete step, othersRead, List.reverse_cons,
        List.append_assoc, List.singleton_append]

theorem exists_attributesFrom_name {known : KeyPositions} {key : String} (isKey : IsKey key)
    (new : known.lookup key = none) (position : Nat) (rest : List Char) :
    ∃ start reached, attributesFrom known .blank position (key.toList ++ '=' :: rest) =
      attributesFrom ((key, start) :: known) (.equals key) reached rest := by
  obtain ⟨first, letters, whole, visible, unended⟩ := isKey_iff.mp isKey
  have begun : AttributeStep.take known .blank position first =
      .ok ⟨.key position [first], known, none⟩ := by
    simp [AttributeStep.take, visible]
  obtain ⟨atEquals, lettersRead⟩ := exists_attributesFrom_key known position unended [first]
    (position + first.utf8Size) ('=' :: rest)
  -- What was read of the key is kept last letter first.
  have isWhole : String.ofList (letters.reverse ++ [first]).reverse = key := by
    rw [List.reverse_append, List.reverse_reverse, List.reverse_singleton, List.singleton_append,
      ← whole, String.ofList_toList]
  have ended : AttributeStep.take known (.key position (letters.reverse ++ [first])) atEquals '=' =
      .ok ⟨.equals key, (key, position) :: known, none⟩ := by
    simp only [AttributeStep.take, if_pos, isWhole, AttributeStep.afterKey, new]
  refine ⟨position, atEquals + '='.utf8Size, ?_⟩
  rw [whole, List.cons_append, attributesFrom_of_incomplete begun, lettersRead,
    attributesFrom_of_incomplete ended]

/-- A value between quotes completes its attribute. -/
theorem exists_attributesFrom_quoted (known : KeyPositions) (key : String) {quote : Char}
    (isQuote : isQuote quote = true) {value : String} (free : quote ∉ value.toList)
    (position : Nat) (rest : List Char) :
    ∃ reached,
      attributesFrom known (.equals key) position (quote :: value.toList ++ quote :: rest) =
        (⟨key, value⟩ :: (attributesFrom known .blank reached rest).1,
          (attributesFrom known .blank reached rest).2) := by
  have opened : AttributeStep.take known (.equals key) position quote =
      .ok ⟨.value key quote [], known, none⟩ := by
    rw [AttributeStep.take, if_pos isQuote]
  obtain ⟨atQuote, valueRead⟩ := exists_attributesFrom_value known key free []
    (position + quote.utf8Size) (quote :: rest)
  have closed : AttributeStep.take known (.value key quote (value.toList.reverse ++ [])) atQuote
      quote = .ok ⟨.blank, known, some ⟨key, value⟩⟩ := by
    simp [AttributeStep.take]
  refine ⟨atQuote + quote.utf8Size, ?_⟩
  rw [List.cons_append, attributesFrom_of_incomplete opened, valueRead,
    attributesFrom_of_complete closed]

end Steps

/-! ## All attributes -/

theorem exists_attributesFrom_attribute {known : KeyPositions} {given : TagAttribute}
    (quotable : given.Quotable) (new : known.lookup given.key = none) (position : Nat)
    (rest : List Char) :
    ∃ start reached, attributesFrom known .blank position (given.quoted ++ rest) =
      (given :: (attributesFrom ((given.key, start) :: known) .blank reached rest).1,
        (attributesFrom ((given.key, start) :: known) .blank reached rest).2) := by
  have blankRead : AttributeStep.take known .blank position ' ' = .ok ⟨.blank, known, none⟩ := rfl
  obtain ⟨start, atValue, keyRead⟩ := exists_attributesFrom_name quotable.1 new
    (position + ' '.utf8Size)
    (quoteFor given.value :: given.value.toList ++ quoteFor given.value :: rest)
  obtain ⟨reached, valueRead⟩ := exists_attributesFrom_quoted ((given.key, start) :: known)
    given.key (isQuote_quoteFor given.value) quotable.quoteFor_not_mem atValue rest
  have inParts : given.quoted ++ rest = ' ' :: (given.key.toList ++
      '=' :: (quoteFor given.value :: given.value.toList ++ quoteFor given.value :: rest)) := by
    simp [TagAttribute.quoted]
  refine ⟨start, reached, ?_⟩
  rw [inParts, attributesFrom_of_incomplete blankRead, keyRead, valueRead]

theorem attributesFrom_flatMap_quoted {attributes : List TagAttribute} {known : KeyPositions}
    (quotable : ∀ given ∈ attributes, given.Quotable)
    (distinct : (attributes.map TagAttribute.key).Nodup)
    (new : ∀ given ∈ attributes, known.lookup given.key = none) (position : Nat) :
    attributesFrom known .blank position (attributes.flatMap TagAttribute.quoted) =
      (attributes, none) := by
  induction attributes generalizing known position with
  | nil => rfl
  | cons given others inductionHypothesis =>
      rw [List.forall_mem_cons] at quotable new
      rw [List.map_cons, List.nodup_cons] at distinct
      obtain ⟨start, reached, firstRead⟩ := exists_attributesFrom_attribute quotable.1 new.1
        position (others.flatMap TagAttribute.quoted)
      -- The key just read is known from now on, and no later attribute has it again.
      have stillNew : ∀ other ∈ others, ((given.key, start) :: known).lookup other.key = none := by
        intro other member
        have different : (other.key == given.key) = false := by
          apply beq_false_of_ne
          intro same
          exact distinct.1 (same ▸ List.mem_map_of_mem member)
        rw [List.lookup_cons, different]
        exact new.2 other member
      rw [List.flatMap_cons, firstRead,
        inductionHypothesis quotable.2 distinct.2 stillNew reached]

/-! ## Tags -/

section Tags

variable {name : String} {attributes : List TagAttribute}

/-- A name ends where the attributes begin. -/
theorem span_name (isName : ∀ c ∈ name.toList, isSpace c = false) {rest : List Char}
    (apart : ∀ c ∈ rest.head?, isSpace c = true) :
    (name.toList ++ rest).takeWhile (!isSpace ·) = name.toList ∧
      (name.toList ++ rest).dropWhile (!isSpace ·) = rest := by
  have inName : ∀ c ∈ name.toList, (!isSpace c) = true := by
    intro c member
    rw [isName c member, Bool.not_false]
  rw [List.takeWhile_append_of_pos inName, List.dropWhile_append_of_pos inName]
  cases rest with
  | nil => simp
  | cons first others => simp [apart first rfl]

/-- The tag of that name with the attributes in the quotes that their values allow. -/
def Tag.quoting (name : String) (attributes : List TagAttribute) : Tag :=
  ⟨name.toList ++ attributes.flatMap TagAttribute.quoted⟩

theorem span_quoting (isName : ∀ c ∈ name.toList, isSpace c = false) :
    (Tag.quoting name attributes).content.takeWhile (!isSpace ·) = name.toList ∧
      (Tag.quoting name attributes).content.dropWhile (!isSpace ·) =
        attributes.flatMap TagAttribute.quoted := by
  apply span_name isName
  cases attributes with
  | nil => simp
  | cons given others => simp [TagAttribute.quoted, isSpace]

theorem name_quoting (isName : ∀ c ∈ name.toList, isSpace c = false) :
    (Tag.quoting name attributes).name = name := by
  rw [Tag.name, (span_quoting isName).1, String.ofList_toList]

/-- Attributes with keys of their own are read back from a tag that has them. -/
theorem attributes_quoting (isName : ∀ c ∈ name.toList, isSpace c = false)
    (quotable : ∀ given ∈ attributes, given.Quotable)
    (distinct : (attributes.map TagAttribute.key).Nodup) :
    (Tag.quoting name attributes).attributes = (attributes, none) := by
  rw [Tag.attributes, (span_quoting isName).2]
  exact attributesFrom_flatMap_quoted quotable distinct (fun _ _ => rfl) _

theorem IsWord.visible (isWord : IsWord name) : ∀ c ∈ name.toList, isSpace c = false :=
  fun c member => isSpace_of_isAlpha (isWord.letters c member)

/-- The attributes of which a tag was put together are read back. -/
theorem attributes_ofAttributes (isWord : IsWord name)
    (admissible : ∀ given ∈ attributes, given.Admissible)
    (distinct : (attributes.map TagAttribute.key).Nodup) :
    (Tag.ofAttributes name attributes).attributes = (attributes, none) := by
  have written : attributes.flatMap TagAttribute.written =
      attributes.flatMap TagAttribute.quoted :=
    List.flatMap_congr fun given member =>
      TagAttribute.written_eq_quoted (admissible given member).2
  have sameTag : Tag.ofAttributes name attributes = Tag.quoting name attributes :=
    congrArg (fun rest => Tag.mk (name.toList ++ rest)) written
  rw [sameTag]
  exact attributes_quoting isWord.visible
    (fun given member => (admissible given member).quotable) distinct

end Tags

end EntityGen.Markup
