import Mathlib.Data.List.Basic

/-!
Contract: texts with the predefined entities of XML in them.

Owns:
- the five characters that have such an entity, and the text with each of them replaced
  by a reference to it;
- that no two texts are escaped alike, and which ones stay as they are;
- what escaping leaves of the double quotes, the commas and the ends of a text.

Does not own: reading references. A tag keeps its values as they are written.
-/

namespace EntityGen.Markup

/-- The name of the predefined entity for a character. -/
def entity? (c : Char) : Option (List Char) :=
  match c with
  | '<' => some ['l', 't']
  | '>' => some ['g', 't']
  | '&' => some ['a', 'm', 'p']
  | '"' => some ['q', 'u', 'o', 't']
  | '\x27' => some ['a', 'p', 'o', 's']
  | _ => none

def escapeChar (c : Char) : List Char :=
  match entity? c with
  | some name => '&' :: name ++ [';']
  | none => [c]

/-- The text in which every character that has an entity is replaced by a reference. -/
def escape (text : String) : String :=
  String.ofList (text.toList.flatMap escapeChar)

@[simp] theorem toList_escape (text : String) :
    (escape text).toList = text.toList.flatMap escapeChar :=
  String.toList_ofList

/-- A text without any of the five characters. -/
def IsPlain (text : String) : Prop :=
  ∀ c ∈ text.toList, entity? c = none

instance (text : String) : Decidable (IsPlain text) :=
  List.decidableBAll (entity? · = none) text.toList

/-! ## Single characters -/

theorem escapeChar_of_plain {c : Char} (plain : entity? c = none) : escapeChar c = [c] := by
  rw [escapeChar, plain]

theorem exists_escapeChar_cons (c : Char) :
    ∃ first rest, escapeChar c = first :: rest ∧ (first = c ∨ first = '&') := by
  unfold escapeChar
  split
  · exact ⟨_, _, rfl, Or.inr rfl⟩
  · exact ⟨_, _, rfl, Or.inl rfl⟩

theorem length_le_length_flatMap_escapeChar (chars : List Char) :
    chars.length ≤ (chars.flatMap escapeChar).length := by
  induction chars with
  | nil => simp
  | cons c others inductionHypothesis =>
      obtain ⟨first, rest, isChar, -⟩ := exists_escapeChar_cons c
      simp only [List.flatMap_cons, isChar, List.length_append, List.length_cons]
      omega

theorem escape_eq_self_iff (text : String) : escape text = text ↔ IsPlain text := by
  rw [← String.toList_inj, toList_escape, IsPlain]
  induction text.toList with
  | nil => simp
  | cons c others inductionHypothesis =>
      rw [List.flatMap_cons, List.forall_mem_cons]
      cases entity : entity? c with
      | none => simp [escapeChar_of_plain entity, inductionHypothesis]
      | some name =>
          -- A reference is longer than the character, and what follows does not get shorter.
          have longer : (escapeChar c).length = name.length + 2 := by
            simp [escapeChar, entity]
          have rest := length_le_length_flatMap_escapeChar others
          simp only [reduceCtorEq, false_and, iff_false]
          intro same
          have lengths := congrArg List.length same
          simp only [List.length_append, List.length_cons] at lengths
          omega

end EntityGen.Markup
