import EntityGen.Naming.Policy
import EntityGen.Proofs.Text.Split
import Mathlib.Data.List.Basic

/-!
Contract: what the base namespace takes from a class name.

Owns:
- the segments of names that are continued, or start, with separators;
- when a name starts with a namespace, by its pieces;
- the segments of a class name under a base namespace.

Does not own: texts that are removed wherever they occur.

The base namespace is cut from the text of a name, before the name is cut into segments. It
stays one segment because it has no separator itself and has to be followed by one.
-/

namespace EntityGen.NamingPolicy

open EntityGen.Model (separator)

/-! ## Segments -/

theorem segmentsOf_append_separator (left right : List Char) :
    segmentsOf (left ++ separator :: right) = segmentsOf left ++ segmentsOf right := by
  rw [segmentsOf, Text.pieces_append_cons, List.filter_append, List.map_append]
  rfl

theorem segmentsOf_separator (right : List Char) :
    segmentsOf (separator :: right) = segmentsOf right :=
  segmentsOf_append_separator [] right

theorem segmentsOf_of_not_mem {piece : List Char} (nonempty : piece ≠ [])
    (free : separator ∉ piece) : segmentsOf piece = [String.ofList piece] := by
  rw [segmentsOf, Text.pieces_of_not_mem free]
  simp [nonempty]

theorem withoutLeadingSeparators_separator (right : List Char) :
    withoutLeadingSeparators (separator :: right) = withoutLeadingSeparators right :=
  List.dropWhile_cons_of_pos (beq_self_eq_true separator)

theorem segmentsOf_withoutLeadingSeparators (name : List Char) :
    segmentsOf (withoutLeadingSeparators name) = segmentsOf name := by
  induction name with
  | nil => rfl
  | cons c rest inductionHypothesis =>
      by_cases same : c = separator
      · rw [same, withoutLeadingSeparators_separator, inductionHypothesis, segmentsOf_separator]
      · rw [withoutLeadingSeparators, List.dropWhile_cons_of_neg (by simpa using same)]

theorem head?_withoutLeadingSeparators_ne (name : List Char) :
    (withoutLeadingSeparators name).head? ≠ some separator := by
  intro isFirst
  have notSeparator := List.head?_dropWhile_not (· == separator) name
  rw [withoutLeadingSeparators] at isFirst
  rw [isFirst] at notSeparator
  exact absurd notSeparator (by decide)

/-! ## Names that start with a namespace -/

variable {first : String}

/-- A name with a separator starts with a namespace exactly if this is its first piece. -/
theorem namespace_prefix_iff (free : separator ∉ first.toList) (left right : List Char) :
    first.toList ++ [separator] <+: left ++ separator :: right ↔
      (Text.pieces separator left).head? = some first.toList := by
  have nonempty := Text.pieces_ne_nil separator left
  constructor
  · rintro ⟨rest, same⟩
    have samePieces := congrArg (Text.pieces separator) same
    rw [List.append_assoc, List.singleton_append, Text.pieces_append_cons,
      Text.pieces_append_cons, Text.pieces_of_not_mem free] at samePieces
    obtain ⟨piece, others, cut⟩ := List.exists_cons_of_ne_nil nonempty
    rw [cut, List.singleton_append, List.cons_append] at samePieces
    rw [cut, List.head?_cons, (List.cons.inj samePieces).1]
  · intro isFirst
    obtain ⟨others, cut⟩ := List.head?_eq_some_iff.mp isFirst
    have whole := Text.joined_pieces separator left
    rw [cut] at whole
    subst whole
    cases others with
    | nil => exact ⟨right, by simp [Text.joined]⟩
    | cons second more =>
        exact ⟨Text.joined separator (second :: more) ++ separator :: right,
          by simp [Text.joined]⟩

/-- Names with a separator start alike whether it is repeated or not. -/
theorem namespace_prefix_doubled_iff (free : separator ∉ first.toList) (left right : List Char) :
    first.toList ++ [separator] <+:
        withoutLeadingSeparators (left ++ separator :: separator :: right) ↔
      first.toList ++ [separator] <+: withoutLeadingSeparators (left ++ separator :: right) := by
  induction left with
  | nil =>
      rw [List.nil_append, List.nil_append, withoutLeadingSeparators_separator]
  | cons c rest inductionHypothesis =>
      by_cases same : c = separator
      · rw [same, List.cons_append, List.cons_append, withoutLeadingSeparators_separator,
          withoutLeadingSeparators_separator]
        exact inductionHypothesis
      · have kept : ∀ tail, withoutLeadingSeparators (c :: rest ++ tail) = c :: rest ++ tail :=
          fun tail => List.dropWhile_cons_of_neg (by simpa using same)
        rw [kept, kept, namespace_prefix_iff free, namespace_prefix_iff free]

/-! ## The base namespace -/

/-- The choices with a base namespace and nothing else. -/
def based (first : String) : NamingPolicy := { baseNamespace := some first }

theorem segments_based_of_begins (nonempty : first ≠ "") (free : separator ∉ first.toList)
    {className : String}
    (starts : first.toList ++ [separator] <+: withoutLeadingSeparators className.toList) :
    segmentsOf className.toList = first :: (based first).segments className := by
  obtain ⟨rest, same⟩ := starts
  have characters : first.toList ≠ [] := fun none => nonempty (String.toList_eq_nil_iff.mp none)
  have reduced : (based first).reducedChars className = withoutLeadingSeparators rest := by
    have found := List.isPrefixOf?_eq_some_iff_append_eq.mpr same
    simp only [reducedChars, based, withoutNamespace, found, List.foldl_nil]
  rw [segments, reduced, segmentsOf_withoutLeadingSeparators,
    ← segmentsOf_withoutLeadingSeparators className.toList, ← same, List.append_assoc,
    List.singleton_append, segmentsOf_append_separator, segmentsOf_of_not_mem characters free,
    String.ofList_toList, List.singleton_append]

theorem segments_based_of_not_begins {className : String}
    (starts : ¬ first.toList ++ [separator] <+: withoutLeadingSeparators className.toList) :
    (based first).segments className = segmentsOf className.toList := by
  have reduced : (based first).reducedChars className =
      withoutLeadingSeparators (withoutLeadingSeparators className.toList) := by
    cases found : (first.toList ++ [separator]).isPrefixOf?
        (withoutLeadingSeparators className.toList) with
    | none => simp only [reducedChars, based, withoutNamespace, found, List.foldl_nil]
    | some rest =>
        exact absurd ⟨rest, List.isPrefixOf?_eq_some_iff_append_eq.mp found⟩ starts
  rw [segments, reduced, segmentsOf_withoutLeadingSeparators, segmentsOf_withoutLeadingSeparators]

theorem segments_based_doubled (nonempty : first ≠ "") (free : separator ∉ first.toList)
    (left right : List Char) :
    (based first).segments (String.ofList (left ++ separator :: separator :: right)) =
      (based first).segments (String.ofList (left ++ separator :: right)) := by
  have samePieces : segmentsOf (left ++ separator :: separator :: right) =
      segmentsOf (left ++ separator :: right) := by
    rw [segmentsOf_append_separator, segmentsOf_append_separator, segmentsOf_separator]
  have sameStart := namespace_prefix_doubled_iff free left right
  rw [← String.toList_ofList (l := left ++ separator :: separator :: right),
    ← String.toList_ofList (l := left ++ separator :: right)] at samePieces sameStart
  by_cases starts : first.toList ++ [separator] <+: withoutLeadingSeparators
      (String.ofList (left ++ separator :: right)).toList
  · rw [segments_based_of_begins nonempty free starts,
      segments_based_of_begins nonempty free (sameStart.mpr starts)] at samePieces
    exact (List.cons.inj samePieces).2
  · rw [segments_based_of_not_begins starts, ← samePieces,
      segments_based_of_not_begins (mt sameStart.mp starts)]

/-- **The base namespace takes the first segment or nothing.** If a name without the separators
at its start begins with the namespace and a separator, its segments are its non-empty pieces
without the first one, which is the namespace. Otherwise they are all its non-empty pieces. A
separator counts once however often it is repeated, and no reduced name starts with one. -/
theorem base_takes_first_segment (nonempty : first ≠ "") (free : separator ∉ first.toList) :
    (∀ className : String,
      let starts := first.toList ++ [separator] <+: withoutLeadingSeparators className.toList
      (starts → segmentsOf className.toList = first :: (based first).segments className) ∧
        (¬ starts → (based first).segments className = segmentsOf className.toList) ∧
        ((based first).reducedName className).toList.head? ≠ some separator) ∧
    ∀ left right,
      (based first).segments (String.ofList (left ++ separator :: separator :: right)) =
        (based first).segments (String.ofList (left ++ separator :: right)) := by
  refine ⟨fun className => ⟨segments_based_of_begins nonempty free,
    segments_based_of_not_begins, ?_⟩, segments_based_doubled nonempty free⟩
  rw [reducedName, String.toList_ofList]
  exact head?_withoutLeadingSeparators_ne _

/-- A namespace is taken once from a name that repeats it, and not from a longer segment. -/
theorem app_is_taken_once :
    "App" ≠ "" ∧ separator ∉ "App".toList ∧
      (based "App").segments "\\\\App\\\\App\\WebApp\\Page" = ["App", "WebApp", "Page"] ∧
      (based "App").segments "Apps\\App\\Page" = ["Apps", "App", "Page"] := by
  have nonempty : "App" ≠ "" := by decide
  have free : separator ∉ "App".toList := by decide
  have law := (base_takes_first_segment nonempty free).1
  refine ⟨nonempty, free, ?_, ?_⟩
  · have taken := (law "\\\\App\\\\App\\WebApp\\Page").1 (by decide)
    have parts : segmentsOf "\\\\App\\\\App\\WebApp\\Page".toList =
        "App" :: ["App", "WebApp", "Page"] := by decide
    rw [parts] at taken
    exact (List.cons.inj taken).2.symm
  · rw [(law "Apps\\App\\Page").2.1 (by decide)]
    decide

end EntityGen.NamingPolicy
