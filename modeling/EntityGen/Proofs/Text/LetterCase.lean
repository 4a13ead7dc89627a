import EntityGen.Text.LetterCase

/-!
Contract: what lowering can make of a character, and how the cases of letters differ.

Owns:
- the characters that lowering never introduces;
- that no character is both an upper case and a lower case letter;
- the cases of basic letters and digits.

Does not own: which letters have a case.
-/

namespace EntityGen.Text

/-- No range is lowered to codes below the letters. -/
theorem lowered_bound : ∀ found ∈ loweredRanges, 0x41 ≤ found.lowered := by
  decide +kernel

theorem lower_ne_nil (c : Char) : lower c ≠ [] := by
  unfold lower
  split
  · exact List.cons_ne_nil _ _
  · split
    · exact List.cons_ne_nil _ _
    · split <;> exact List.cons_ne_nil _ _

private theorem toNat_ofNat_eq_zero_or (code : Nat) :
    (Char.ofNat code).toNat = 0 ∨ (Char.ofNat code).toNat = code := by
  by_cases valid : code.isValidChar
  · rw [Char.ofNat, dif_pos valid]
    exact Or.inr rfl
  · rw [Char.ofNat, dif_neg valid]
    exact Or.inl rfl

private theorem toLower_of_small {c : Char} (small : c.toLower.toNat < 0x41) :
    c.toLower = c := by
  unfold Char.toLower at small ⊢
  split at small
  · next upper =>
      have atLeast : 65 ≤ c.val.toNat := UInt32.le_iff_toNat_le.mp upper.1
      have atMost : c.val.toNat ≤ 90 := UInt32.le_iff_toNat_le.mp upper.2
      have shifted : (c.val + ('a'.val - 'A'.val)).toNat = c.val.toNat + 32 := by
        have distance : ('a'.val - 'A'.val).toNat = 32 := by decide
        rw [UInt32.toNat_add, distance]
        exact Nat.mod_eq_of_lt (by omega)
      have small : (c.val + ('a'.val - 'A'.val)).toNat < 0x41 := small
      omega
  · next other => rw [dif_neg other]

/-- A sign below the letters comes out of lowering only where it went in. -/
theorem eq_of_mem_lower {c sign : Char} (member : sign ∈ lower c) (positive : 0 < sign.toNat)
    (small : sign.toNat < 0x41) : c = sign := by
  unfold lower at member
  split at member
  · obtain rfl := List.mem_singleton.mp member
    exact (toLower_of_small small).symm
  · split at member
    · rcases List.mem_cons.mp member with rfl | second
      · exact absurd small (by decide)
      · obtain rfl := List.mem_singleton.mp second
        exact absurd small (by decide)
    · split at member
      · next found lookup =>
          obtain rfl := List.mem_singleton.mp member
          have bound := lowered_bound found (List.mem_of_find?_eq_some lookup)
          rcases toNat_ofNat_eq_zero_or (found.lowered + (c.toNat - found.range.first)) with
            zero | same
          · omega
          · omega
      · exact (List.mem_singleton.mp member).symm

/-! ## Basic characters -/

/-- What holds of every basic code holds of every basic character. -/
theorem forall_basic {P : Char → Prop} (holds : ∀ code < 128, P (Char.ofNat code)) {c : Char}
    (basic : c.toNat < 128) : P c := by
  have ofCode := holds c.toNat basic
  rwa [Char.ofNat_toNat] at ofCode

theorem basic_of_isLower {c : Char} (small : c.isLower = true) : c.toNat < 128 := by
  have atMost : c.val ≤ 'z'.val := of_decide_eq_true (Bool.and_eq_true_iff.mp small).2
  exact Nat.lt_of_le_of_lt (UInt32.le_iff_toNat_le.mp atMost) (by decide)

theorem basic_of_isDigit {c : Char} (digit : c.isDigit = true) : c.toNat < 128 := by
  have atMost : c.val ≤ '9'.val := of_decide_eq_true (Bool.and_eq_true_iff.mp digit).2
  exact Nat.lt_of_le_of_lt (UInt32.le_iff_toNat_le.mp atMost) (by decide)

theorem isUpper_of_isDigit {c : Char} (digit : c.isDigit = true) : isUpper c = false :=
  forall_basic (P := fun c => c.isDigit = true → isUpper c = false) (by decide)
    (basic_of_isDigit digit) digit

theorem isLower_of_basic {c : Char} (small : c.isLower = true) : isLower c = true :=
  (if_pos (basic_of_isLower small)).trans small

/-- A basic letter in upper case is lowered to itself. -/
theorem lower_toUpper {c : Char} (small : c.isLower = true) :
    isUpper c.toUpper = true ∧ lower c.toUpper = [c] :=
  forall_basic
    (P := fun c => c.isLower = true → isUpper c.toUpper = true ∧ lower c.toUpper = [c])
    (by decide) (basic_of_isLower small) small

/-! ## Two cases -/

/-- Whether all codes of a range have the parity of the first one. -/
def CodeRange.keepsParity (range : CodeRange) : Bool :=
  range.step == 2 || range.first == range.last

/-- Whether two ranges have no code in common, because one ends before the other begins or
because they keep different parities. -/
def CodeRange.isApart (left right : CodeRange) : Bool :=
  left.last.blt right.first || right.last.blt left.first ||
    (left.keepsParity && right.keepsParity && left.first % 2 != right.first % 2)

theorem CodeRange.parity_of_contains {range : CodeRange} (keeps : range.keepsParity = true)
    {code : Nat} (inRange : range.contains code = true) : code % 2 = range.first % 2 := by
  simp only [keepsParity, contains, Bool.or_eq_true, Bool.and_eq_true, decide_eq_true_eq,
    beq_iff_eq] at keeps inRange
  rcases keeps with byTwo | single
  · rw [byTwo] at inRange
    omega
  · omega

theorem CodeRange.not_contains_of_isApart {left right : CodeRange}
    (apart : left.isApart right = true) {code : Nat} (inLeft : left.contains code = true) :
    right.contains code = false := by
  rw [Bool.eq_false_iff]
  intro inRight
  simp only [isApart, Bool.or_eq_true, Bool.and_eq_true, Nat.blt_eq, bne_iff_ne] at apart
  rcases apart with ends | ⟨⟨leftKeeps, rightKeeps⟩, different⟩
  · simp only [contains, Bool.and_eq_true, decide_eq_true_eq] at inLeft inRight
    omega
  · have leftParity := parity_of_contains leftKeeps inLeft
    have rightParity := parity_of_contains rightKeeps inRight
    exact different (leftParity.symm.trans rightParity)

theorem upperRanges_apart_lowerRanges :
    (upperRanges.all fun upper => lowerRanges.all fun lower => upper.isApart lower) = true := by
  decide +kernel

/-- No character is both an upper case and a lower case letter. -/
theorem isLower_of_isUpper {c : Char} (upper : isUpper c = true) : isLower c = false := by
  by_cases basic : c.toNat < 128
  · exact forall_basic (P := fun c => isUpper c = true → isLower c = false) (by decide) basic upper
  · rw [isUpper, if_neg basic] at upper
    rw [isLower, if_neg basic, List.any_eq_false]
    intro other isOther
    obtain ⟨range, isRange, inRange⟩ := List.any_eq_true.mp upper
    have apart := List.all_eq_true.mp
      (List.all_eq_true.mp upperRanges_apart_lowerRanges range isRange) other isOther
    rw [Bool.not_eq_true]
    exact CodeRange.not_contains_of_isApart apart inRange

theorem isUpper_of_isLower {c : Char} (lower : isLower c = true) : isUpper c = false := by
  rw [Bool.eq_false_iff]
  intro upper
  rw [isLower_of_isUpper upper] at lower
  cases lower

end EntityGen.Text
