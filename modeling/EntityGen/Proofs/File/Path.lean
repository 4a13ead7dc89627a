import EntityGen.File.Path
import EntityGen.Proofs.Text.Split
import Mathlib.Data.List.Basic
import Mathlib.Data.List.Induction

/-!
Contract: the components of paths that are put together from names.

Owns:
- `IsName`, the pieces that stand for a name;
- the components of a folder continued by names, whatever the folder looks like;
- the extension of a path that ends in a name.

Does not own: which names there are, and what a path leads to.

A folder may be written with slashes at its end, may be empty or may be the root
alone. Joining looks at the last piece for that reason; the components do not.
-/

namespace EntityGen.FilePath

theorem sameAs_iff {left right : FilePath} :
    left.sameAs right = true ↔ left.components = right.components :=
  beq_iff_eq

/-- A piece that stands for a name wherever it is written in a path. -/
def IsName (piece : String) : Prop := piece ≠ "" ∧ piece ≠ "." ∧ piece ≠ ".."

theorem ofPiece?_of_isName {piece : String} (isName : IsName piece) :
    Component.ofPiece? piece = some (.name piece) := by
  obtain ⟨notEmpty, notDot, notDots⟩ := isName
  rw [Component.ofPiece?, if_neg (not_or.mpr ⟨notEmpty, notDot⟩), if_neg notDots]

/-- What a piece is: nothing, the way up, or a name. -/
theorem ofPiece?_cases (piece : String) :
    (piece = "" ∨ piece = ".") ∧ Component.ofPiece? piece = none ∨
      piece = ".." ∧ Component.ofPiece? piece = some .parent ∨
        IsName piece ∧ Component.ofPiece? piece = some (.name piece) := by
  by_cases filler : piece = "" ∨ piece = "."
  · exact Or.inl ⟨filler, if_pos filler⟩
  · by_cases up : piece = ".."
    · refine Or.inr (Or.inl ⟨up, ?_⟩)
      rw [Component.ofPiece?, if_neg filler, if_pos up]
    · have isName : IsName piece :=
        ⟨fun empty => filler (Or.inl empty), fun dot => filler (Or.inr dot), up⟩
      exact Or.inr (Or.inr ⟨isName, ofPiece?_of_isName isName⟩)

theorem filterMap_ofPiece?_of_isName {names : List String}
    (areNames : ∀ name ∈ names, IsName name) :
    names.filterMap Component.ofPiece? = names.map Component.name := by
  induction names with
  | nil => rfl
  | cons first others inductionHypothesis =>
      have isName := areNames first (List.mem_cons_self ..)
      rw [List.filterMap_cons_some (ofPiece?_of_isName isName), List.map_cons,
        inductionHypothesis fun name member => areNames name (List.mem_cons_of_mem first member)]

/-- A text without a slash is one piece. -/
theorem ofString_of_not_mem {text : String} (free : '/' ∉ text.toList) :
    ofString text = ⟨[text]⟩ := by
  rw [ofString, Text.pieces_of_not_mem free, List.map_singleton, String.ofList_toList]

/-! ## Joining -/

/-- The pieces of a folder to which further pieces are joined. -/
def base (folder : FilePath) : List String :=
  if folder.pieces.getLast? = some "" then folder.pieces.dropLast else folder.pieces

theorem join_names (folder : FilePath) {names : List String} (nonempty : names ≠ [])
    (areNames : ∀ name ∈ names, IsName name) : folder.join ⟨names⟩ = ⟨folder.base ++ names⟩ := by
  obtain ⟨first, others, rfl⟩ := List.exists_cons_of_ne_nil nonempty
  have relative : isAbsolute ⟨first :: others⟩ = false := by
    unfold isAbsolute
    split
    · next same =>
        exact absurd (List.cons.inj same).1 (areNames first (List.mem_cons_self ..)).1
    · rfl
  unfold join base
  rw [relative]
  simp only [Bool.false_eq_true, if_false]
  split <;> rfl

/-- Names can be joined one list after the other. -/
theorem join_names_append (folder : FilePath) {outer inner : List String}
    (outerNonempty : outer ≠ []) (innerNonempty : inner ≠ [])
    (areOuter : ∀ name ∈ outer, IsName name) (areInner : ∀ name ∈ inner, IsName name) :
    (folder.join ⟨outer⟩).join ⟨inner⟩ = folder.join ⟨outer ++ inner⟩ := by
  have areNames : ∀ name ∈ outer ++ inner, IsName name :=
    List.forall_mem_append.mpr ⟨areOuter, areInner⟩
  have keepsLast : base ⟨folder.base ++ outer⟩ = folder.base ++ outer := by
    rw [base, if_neg]
    rw [List.getLast?_append_of_ne_nil _ outerNonempty]
    intro atEnd
    exact (areOuter "" (List.mem_of_getLast? atEnd)).1 rfl
  rw [join_names folder outerNonempty areOuter, join_names _ innerNonempty areInner, keepsLast,
    join_names folder (List.append_ne_nil_of_left_ne_nil outerNonempty _) areNames,
    List.append_assoc]

theorem start_cons (first : String) (others : List String) :
    start ⟨first :: others⟩ =
      if first = "" then if others = [] then [] else [.root]
      else if first = "." then [.current] else [] := by
  unfold start isAbsolute startsAtCurrent
  by_cases empty : first = ""
  · cases others <;> simp [empty]
  · cases others <;> simp [empty]

theorem start_of_isName {first : String} (isName : IsName first) (others : List String) :
    start ⟨first :: others⟩ = [] := by
  rw [start_cons, if_neg isName.1, if_neg isName.2.1]

/-- Names joined to a folder do not change where the path starts. -/
theorem start_base_append (folder : FilePath) {first : String} (isName : IsName first)
    (others : List String) : start ⟨folder.base ++ first :: others⟩ = folder.start := by
  obtain ⟨pieces⟩ := folder
  unfold base
  match pieces with
  | [] => exact start_of_isName isName others
  | [only] =>
      by_cases empty : only = ""
      · subst only
        exact start_of_isName isName others
      · simp [empty, start_cons]
  | front :: second :: more =>
      split
      · rw [List.dropLast_cons_of_ne_nil (List.cons_ne_nil _ _), List.cons_append, start_cons,
          start_cons]
        simp
      · rw [List.cons_append, start_cons, start_cons]
        simp

/-- A folder that is continued by names has its own components, and the names
behind them. -/
theorem components_join (folder : FilePath) {names : List String} (nonempty : names ≠ [])
    (areNames : ∀ name ∈ names, IsName name) :
    (folder.join ⟨names⟩).components = folder.components ++ names.map Component.name := by
  rw [join_names folder nonempty areNames]
  obtain ⟨first, others, rfl⟩ := List.exists_cons_of_ne_nil nonempty
  have isName := areNames first (List.mem_cons_self ..)
  rw [components, start_base_append folder isName others, List.filterMap_append,
    filterMap_ofPiece?_of_isName areNames, components, List.append_assoc]
  congr 2
  unfold base
  split
  · next atEnd =>
      obtain ⟨before, same⟩ := List.getLast?_eq_some_iff.mp atEnd
      rw [same, List.dropLast_concat, List.filterMap_append]
      simp [Component.ofPiece?]
  · rfl

/-- Joined to one folder, names lead to one place exactly if they are the same. -/
theorem sameAs_join_names_iff {folder : FilePath} {left right : List String}
    (leftNonempty : left ≠ []) (rightNonempty : right ≠ [])
    (areLeft : ∀ name ∈ left, IsName name)
    (areRight : ∀ name ∈ right, IsName name) :
    (folder.join ⟨left⟩).sameAs (folder.join ⟨right⟩) = true ↔ left = right := by
  rw [sameAs_iff, components_join folder leftNonempty areLeft,
    components_join folder rightNonempty areRight, List.append_right_inj]
  exact (List.map_injective_iff.mpr fun _ _ => Component.name.inj).eq_iff

theorem isAbsolute_iff_start {path : FilePath} : path.isAbsolute = true ↔ path.start = [.root] := by
  unfold start
  cases path.isAbsolute with
  | true => simp
  | false => cases path.startsAtCurrent <;> simp

/-- Names joined to a folder do not change whether the path is absolute. -/
theorem isAbsolute_base_append (folder : FilePath) {first : String} (isName : IsName first)
    (others : List String) :
    isAbsolute ⟨folder.base ++ first :: others⟩ = folder.isAbsolute := by
  rw [Bool.eq_iff_iff, isAbsolute_iff_start, isAbsolute_iff_start,
    start_base_append folder isName others]

private theorem foldl_join {parts before : List String} (beforeNonempty : before ≠ [])
    (areNames : ∀ part ∈ before ++ parts, IsName part)
    (free : ∀ part ∈ parts, '/' ∉ part.toList) :
    parts.foldl (fun path part => join path (ofString part)) ⟨before⟩ = ⟨before ++ parts⟩ := by
  induction parts generalizing before with
  | nil => simp
  | cons part others inductionHypothesis =>
      have isName := areNames part (by simp)
      have notAtEnd : before.getLast? ≠ some "" := by
        intro atEnd
        exact (areNames "" (List.mem_append_left _ (List.mem_of_getLast? atEnd))).1 rfl
      rw [List.foldl_cons, ofString_of_not_mem (free part (List.mem_cons_self ..)),
        join_names _ (List.cons_ne_nil _ _) (by simpa using isName), base, if_neg notAtEnd,
        inductionHypothesis (by simp) (by simpa using areNames)
          fun other member => free other (List.mem_cons_of_mem part member)]
      simp

/-- Names without slashes are the pieces of the path that they make. -/
theorem ofParts_of_isName {parts : List String} (nonempty : parts ≠ [])
    (areNames : ∀ part ∈ parts, IsName part) (free : ∀ part ∈ parts, '/' ∉ part.toList) :
    ofParts parts = ⟨parts⟩ := by
  obtain ⟨first, others, rfl⟩ := List.exists_cons_of_ne_nil nonempty
  have isName := areNames first (List.mem_cons_self ..)
  rw [ofParts, List.foldl_cons, ofString_of_not_mem (free first (List.mem_cons_self ..)),
    join_names _ (List.cons_ne_nil _ _) (by simpa using isName)]
  exact foldl_join (List.cons_ne_nil _ _) areNames
    fun part member => free part (List.mem_cons_of_mem first member)

/-! ## Ends of paths -/

section Trailing

variable {trails : String → Bool}

/-- Pieces of a kind at the end of a path stand behind a last piece of another kind,
if there is one. -/
theorem trailing_or_last (trails : String → Bool) (pieces : List String) :
    (∀ piece ∈ pieces, trails piece = true) ∨
      ∃ front last behind, trails last = false ∧ (∀ piece ∈ behind, trails piece = true) ∧
        pieces = front ++ last :: behind := by
  induction pieces using List.reverseRecOn with
  | nil => exact Or.inl fun _ member => absurd member List.not_mem_nil
  | append_singleton front piece inductionHypothesis =>
      cases isTrailing : trails piece with
      | false => exact Or.inr ⟨front, piece, [], isTrailing, by simp, rfl⟩
      | true =>
          rcases inductionHypothesis with all | ⟨outer, last, behind, stays, all, rfl⟩
          · refine Or.inl (List.forall_mem_append.mpr ⟨all, ?_⟩)
            simpa using isTrailing
          · refine Or.inr ⟨outer, last, behind ++ [piece], stays, ?_, by simp⟩
            refine List.forall_mem_append.mpr ⟨all, ?_⟩
            simpa using isTrailing

theorem withoutTrailing_append {front behind : List String} {last : String}
    (stays : trails last = false) (trailing : ∀ piece ∈ behind, trails piece = true) :
    ((front ++ last :: behind).reverse.dropWhile trails).reverse = front ++ [last] := by
  have notTrailing : ¬ trails last = true := by
    simp [stays]
  have reversed : ∀ piece ∈ behind.reverse, trails piece = true := by
    simpa using trailing
  rw [List.reverse_append, List.reverse_cons, List.append_assoc,
    List.dropWhile_append_of_pos reversed, List.singleton_append,
    List.dropWhile_cons_of_neg notTrailing, List.reverse_cons, List.reverse_reverse]

end Trailing

/-! ## Extensions -/

theorem isName_of_head {piece : String} {c : Char} {rest : List Char}
    (starts : piece.toList = c :: rest) (notDot : c ≠ '.') : IsName piece := by
  refine ⟨?_, ?_, ?_⟩
  all_goals
    rintro rfl
    simp at starts
  · exact notDot starts.1.symm
  · exact notDot starts.1.symm

theorem isName_of_length {piece : String} (long : 2 < piece.length) : IsName piece := by
  refine ⟨?_, ?_, ?_⟩
  all_goals
    rintro rfl
    exact absurd long (by decide)

theorem splitName_of_not_mem {name : String} (free : '.' ∉ name.toList) :
    splitName name = (name, none) := by
  unfold splitName
  rw [Text.pieces_of_not_mem free]
  rfl

/-- A name whose dots all stand at its start has no extension. -/
theorem splitName_of_no_later_dot {name : String} (free : '.' ∉ name.toList.tail) :
    splitName name = (name, none) := by
  cases written : name.toList with
  | nil => exact splitName_of_not_mem (by simp [written])
  | cons first rest =>
      rw [written, List.tail_cons] at free
      by_cases isDot : first = '.'
      · unfold splitName
        rw [written, Text.pieces, if_pos isDot, Text.pieces_of_not_mem free]
        rfl
      · apply splitName_of_not_mem
        rw [written, List.mem_cons, not_or]
        exact ⟨Ne.symm isDot, free⟩

/-- A name with a dot behind its first sign is cut at its last dot. -/
theorem exists_splitName_of_later_dot {name : String} (dotted : '.' ∈ name.toList.tail) :
    ∃ stem behind, name = stem ++ "." ++ behind ∧ splitName name = (stem, some behind) := by
  cases written : name.toList with
  | nil => simp [written] at dotted
  | cons first rest =>
      rw [written, List.tail_cons, ← List.mem_reverse] at dotted
      obtain ⟨last, front, reversed, free⟩ := List.eq_append_cons_of_mem dotted
      have inParts : name.toList = (first :: front.reverse) ++ '.' :: last.reverse := by
        rw [written, ← List.reverse_reverse rest, reversed]
        simp
      have lastFree : '.' ∉ last.reverse := by simpa using free
      have parts : Text.pieces '.' name.toList =
          Text.pieces '.' (first :: front.reverse) ++ [last.reverse] := by
        rw [inParts, Text.pieces_append_cons, Text.pieces_of_not_mem lastFree]
      refine ⟨String.ofList (first :: front.reverse), String.ofList last.reverse, ?_, ?_⟩
      · apply String.toList_injective
        simp [inParts]
      · simp [splitName, parts, Text.joined_pieces]

/-- A name is its own stem exactly if no dot stands behind its first sign. -/
theorem splitName_fst_eq_self_iff {name : String} :
    (splitName name).1 = name ↔ '.' ∉ name.toList.tail := by
  constructor
  · intro kept dotted
    obtain ⟨stem, behind, inParts, split⟩ := exists_splitName_of_later_dot dotted
    rw [split] at kept
    change stem = name at kept
    have longer := congrArg String.length (kept.trans inParts)
    have dot : ".".length = 1 := rfl
    rw [String.length_append, String.length_append, dot] at longer
    omega
  · intro free
    rw [splitName_of_no_later_dot free]

theorem withoutTrailingFiller_concat (before : List String) {last : String}
    (isName : IsName last) : withoutTrailingFiller (before ++ [last]) = before ++ [last] := by
  have notFiller : (last == "" || last == ".") = false := by
    simp [isName.1, isName.2.1]
  rw [withoutTrailingFiller, List.reverse_append, List.reverse_singleton, List.singleton_append,
    List.dropWhile_cons_of_neg (by simp [notFiller]), List.reverse_cons, List.reverse_reverse]

theorem fileName?_concat (before : List String) {last : String} (isName : IsName last) :
    fileName? ⟨before ++ [last]⟩ = some last := by
  rw [fileName?, withoutTrailingFiller_concat before isName, List.getLast?_concat]
  split
  · next none => exact absurd none (by simp)
  · next same => exact absurd (Option.some.inj same) isName.2.2
  · next same => exact same.symm

/-- The last name of a path takes the extension in place of its own one. -/
theorem withExtension_concat (before : List String) {last extension : String}
    (isName : IsName last) :
    withExtension ⟨before ++ [last]⟩ extension =
      ⟨before ++ [(splitName last).1 ++ "." ++ extension]⟩ := by
  rw [withExtension, fileName?_concat before isName]
  simp only [withoutTrailingFiller_concat before isName, List.dropLast_concat]

/-- A name that ends in a dot and an extension has this one or, if it starts with the
dot, none. -/
theorem splitName_of_extension (stem : String) {extension : String}
    (free : '.' ∉ extension.toList) :
    (splitName (stem ++ "." ++ extension)).2 = none ∨
      (splitName (stem ++ "." ++ extension)).2 = some extension := by
  have written : (stem ++ "." ++ extension).toList = stem.toList ++ '.' :: extension.toList := by
    simp
  have isLast : (Text.pieces '.' (stem ++ "." ++ extension).toList).getLast? =
      some extension.toList := by
    rw [written, Text.pieces_append_cons, Text.pieces_of_not_mem free, List.getLast?_concat]
  unfold splitName
  simp only [isLast]
  split
  · exact Or.inl rfl
  · exact Or.inr (congrArg some String.ofList_toList)

/-- A joined path ends as its tail. -/
theorem exists_pieces_join (path : FilePath) {tail : FilePath} {before : List String}
    {last : String} (ends : tail.pieces = before ++ [last]) :
    ∃ front, (path.join tail).pieces = front ++ [last] := by
  unfold join
  split
  · exact ⟨before, ends⟩
  · split
    · refine ⟨path.pieces.dropLast ++ before, ?_⟩
      rw [ends, List.append_assoc]
    · refine ⟨path.pieces ++ before, ?_⟩
      rw [ends, List.append_assoc]

/-- The file name of a path stands in front of pieces that mean nothing. -/
theorem exists_pieces_of_fileName? {path : FilePath} {name : String}
    (isName : path.fileName? = some name) :
    ∃ front behind, IsName name ∧ (∀ piece ∈ behind, piece = "" ∨ piece = ".") ∧
      path.pieces = front ++ name :: behind := by
  unfold fileName? withoutTrailingFiller at isName
  rcases trailing_or_last (fun piece => piece == "" || piece == ".") path.pieces with
    all | ⟨front, last, behind, stays, trailing, inParts⟩
  · have reversed : ∀ piece ∈ path.pieces.reverse, (piece == "" || piece == ".") = true := by
      simpa using all
    rw [← List.append_nil path.pieces.reverse, List.dropWhile_append_of_pos reversed] at isName
    cases isName
  · rw [inParts, withoutTrailing_append stays trailing, List.getLast?_concat] at isName
    split at isName
    · cases isName
    · cases isName
    · next notDots same =>
        obtain rfl := Option.some.inj same
        obtain rfl := Option.some.inj isName
        simp only [Bool.or_eq_false_iff, beq_eq_false_iff_ne] at stays
        simp only [Bool.or_eq_true, beq_iff_eq] at trailing
        exact ⟨front, behind, ⟨stays.1, stays.2, fun dots => notDots (dots ▸ rfl)⟩, trailing,
          inParts⟩

end EntityGen.FilePath
