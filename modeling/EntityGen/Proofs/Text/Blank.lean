import EntityGen.Text.Blank

/-!
Contract: what trimming leaves of a text.

Owns: the ends and the characters of a trimmed text.

Does not own: which characters are white space.
-/

namespace EntityGen.Text

theorem not_isBlank_of_head?_trimStart {text : List Char} {c : Char}
    (isFirst : (trimStart text).head? = some c) : isBlank c = false := by
  have visible := List.head?_dropWhile_not isBlank text
  rw [trimStart] at isFirst
  rw [isFirst] at visible
  exact visible

theorem not_isBlank_of_getLast?_trimEnd {text : List Char} {c : Char}
    (isLast : (trimEnd text).getLast? = some c) : isBlank c = false := by
  rw [trimEnd, List.getLast?_reverse] at isLast
  exact not_isBlank_of_head?_trimStart isLast

theorem exists_trimEnd_append (text : List Char) : ∃ cut, trimEnd text ++ cut = text := by
  have suffix : text.reverse.dropWhile isBlank <:+ text.reverse := List.dropWhile_suffix _
  have backwards := List.reverse_prefix.mpr suffix
  rw [List.reverse_reverse] at backwards
  exact backwards

/-- A trimmed text starts with no white space: cutting its end off leaves its start, or
nothing. -/
theorem not_isBlank_of_head?_trim {text : List Char} {c : Char}
    (isFirst : (trim text).head? = some c) : isBlank c = false := by
  obtain ⟨cut, joined⟩ := exists_trimEnd_append (trimStart text)
  have firstLeft : (trimStart text).head? = some c := by
    rw [← joined, List.head?_append]
    exact Option.or_eq_some_iff.mpr (Or.inl isFirst)
  exact not_isBlank_of_head?_trimStart firstLeft

theorem mem_of_mem_trim {text : List Char} {c : Char} (member : c ∈ trim text) : c ∈ text := by
  obtain ⟨cut, joined⟩ := exists_trimEnd_append (trimStart text)
  have inStart : c ∈ trimStart text := by
    rw [← joined]
    exact List.mem_append_left cut member
  exact (List.dropWhile_sublist isBlank).subset inStart

end EntityGen.Text
