import Mathlib.Data.List.Forall2

/-!
Contract: results of steps that follow one another and may fail.

Owns: when such steps succeed, and which of them fails.

Does not own: what the steps do.
-/

namespace EntityGen.Result

variable {ε α β : Type}

@[simp] theorem pure_eq (value : α) : (pure value : Except ε α) = .ok value := rfl

@[simp] theorem ok_bind (value : α) (next : α → Except ε β) :
    Except.ok value >>= next = next value := rfl

theorem error_bind (cause : ε) (next : α → Except ε β) :
    Except.error cause >>= next = .error cause := rfl

theorem bind_eq_ok_iff {first : Except ε α} {next : α → Except ε β} {result : β} :
    first >>= next = .ok result ↔ ∃ value, first = .ok value ∧ next value = .ok result := by
  constructor
  · intro succeeded
    cases first with
    | error cause => cases succeeded
    | ok value => exact ⟨value, rfl, succeeded⟩
  · rintro ⟨value, rfl, succeeded⟩
    exact succeeded

theorem bind_eq_error_iff {first : Except ε α} {next : α → Except ε β} {cause : ε} :
    first >>= next = .error cause ↔
      first = .error cause ∨ ∃ value, first = .ok value ∧ next value = .error cause := by
  constructor
  · intro failed
    cases first with
    | error earlier =>
        change Except.error earlier = Except.error cause at failed
        rw [Except.error.injEq] at failed
        exact Or.inl (failed ▸ rfl)
    | ok value => exact Or.inr ⟨value, rfl, failed⟩
  · rintro (rfl | ⟨value, rfl, failed⟩)
    · rfl
    · exact failed

/-- Only the values that the first step can return count for the next one. -/
theorem bind_congr_of_ok {first : Except ε α} {next other : α → Except ε β}
    (same : ∀ value, first = .ok value → next value = other value) :
    first >>= next = first >>= other := by
  cases first with
  | error cause => rfl
  | ok value => exact same value rfl

theorem mapError_eq_error_iff {result : Except ε α} {wrap : ε → β} {cause : β} :
    result.mapError wrap = .error cause ↔ ∃ fault, result = .error fault ∧ wrap fault = cause := by
  constructor
  · intro failed
    cases result with
    | error fault => exact ⟨fault, rfl, Except.error.inj failed⟩
    | ok value => cases failed
  · rintro ⟨fault, rfl, rfl⟩
    rfl

theorem mapError_eq_ok_iff {γ : Type} {result : Except ε α} {wrap : ε → γ} {value : α} :
    result.mapError wrap = .ok value ↔ result = .ok value := by
  cases result with
  | error cause =>
      constructor
      all_goals
        intro impossible
        cases impossible
  | ok found =>
      change Except.ok found = Except.ok value ↔ _
      rw [Except.ok.injEq, Except.ok.injEq]

theorem map_eq_ok_iff {result : Except ε α} {view : α → β} {value : β} :
    result.map view = .ok value ↔ ∃ found, result = .ok found ∧ view found = value := by
  constructor
  · intro succeeded
    cases result with
    | error cause => cases succeeded
    | ok found => exact ⟨found, rfl, Except.ok.inj succeeded⟩
  · rintro ⟨found, rfl, rfl⟩
    rfl

theorem map_eq_error_iff {result : Except ε α} {view : α → β} {cause : ε} :
    result.map view = .error cause ↔ result = .error cause := by
  constructor
  · intro failed
    cases result with
    | error earlier => exact congrArg Except.error (Except.error.inj failed)
    | ok found => cases failed
  · rintro rfl
    rfl

theorem map_map {γ : Type} (result : Except ε α) (view : α → β) (further : β → γ) :
    (result.map view).map further = result.map fun value => further (view value) := by
  cases result <;> rfl

theorem map_bind {γ : Type} (first : Except ε α) (next : α → Except ε β) (view : β → γ) :
    (first >>= next).map view = first >>= fun value => (next value).map view := by
  cases first <;> rfl

/-- A step that sees only a part of a value goes on alike from values that agree in it. -/
theorem bind_eq_of_map_eq {γ : Type} {first other : Except ε α} {view : α → γ}
    {next : α → Except ε β} (same : first.map view = other.map view)
    (blind : ∀ left right, view left = view right → next left = next right) :
    first >>= next = other >>= next := by
  cases first with
  | error cause =>
      obtain rfl := map_eq_error_iff.mp same.symm
      rfl
  | ok left =>
      obtain ⟨right, rfl, sameView⟩ := map_eq_ok_iff.mp same.symm
      exact blind left right sameView.symm

/-- What holds before the first of many steps, and is kept by each of them, holds after
the last one. -/
theorem invariant_of_foldlM {Invariant : β → Prop} {take : β → α → Except ε β}
    (keeps : ∀ before item after, Invariant before → take before item = .ok after →
      Invariant after)
    {items : List α} {first last : β} (holds : Invariant first)
    (taken : items.foldlM take first = .ok last) : Invariant last := by
  induction items generalizing first with
  | nil =>
      obtain rfl := Except.ok.inj taken
      exact holds
  | cons item others inductionHypothesis =>
      rw [List.foldlM_cons] at taken
      obtain ⟨next, stepped, taken⟩ := bind_eq_ok_iff.mp taken
      exact inductionHypothesis (keeps first item next holds stepped) taken

/-- Steps that fail by their item alone succeed for items none of which fails, and then do
what they do without failing. -/
theorem foldlM_eq_ok_iff {take : β → α → Except ε β} {Passes : α → Prop} {after : β → α → β}
    (steps : ∀ before item next,
      take before item = .ok next ↔ Passes item ∧ after before item = next)
    {items : List α} {first last : β} :
    items.foldlM take first = .ok last ↔
      (∀ item ∈ items, Passes item) ∧ items.foldl after first = last := by
  induction items generalizing first with
  | nil =>
      rw [List.foldlM_nil, List.foldl_nil, pure_eq, Except.ok.injEq]
      exact ⟨fun same => ⟨fun _ member => absurd member List.not_mem_nil, same⟩, And.right⟩
  | cons item others inductionHypothesis =>
      rw [List.foldlM_cons, bind_eq_ok_iff, List.forall_mem_cons, List.foldl_cons]
      constructor
      · rintro ⟨next, stepped, behind⟩
        obtain ⟨passes, rfl⟩ := (steps first item next).mp stepped
        obtain ⟨othersPass, reached⟩ := inductionHypothesis.mp behind
        exact ⟨⟨passes, othersPass⟩, reached⟩
      · rintro ⟨⟨passes, othersPass⟩, reached⟩
        exact ⟨_, (steps first item _).mpr ⟨passes, rfl⟩,
          inductionHypothesis.mpr ⟨othersPass, reached⟩⟩

/-- Items that change nothing can be left out. -/
theorem foldlM_filter_of_idle {take : β → α → Except ε β} {kept : α → Bool} {items : List α}
    (idle : ∀ item ∈ items, kept item = false → ∀ before, take before item = .ok before)
    (first : β) : (items.filter kept).foldlM take first = items.foldlM take first := by
  induction items generalizing first with
  | nil => rfl
  | cons item others inductionHypothesis =>
      rw [List.forall_mem_cons] at idle
      cases isKept : kept item with
      | false =>
          rw [List.filter_cons_of_neg (by simp [isKept]), inductionHypothesis idle.2,
            List.foldlM_cons, idle.1 isKept, ok_bind]
      | true =>
          rw [List.filter_cons_of_pos isKept, List.foldlM_cons, List.foldlM_cons]
          exact bind_congr fun next => inductionHypothesis idle.2 next

/-- Steps that differ only in their causes lead to the same value, if they lead to any. -/
theorem toOption_foldlM_congr {Fits : α → α → Prop} {take other : β → α → Except ε β}
    {items twins : List α} (fit : List.Forall₂ Fits items twins)
    (alike : ∀ item ∈ items, ∀ twin ∈ twins, Fits item twin →
      ∀ before, (take before item).toOption = (other before twin).toOption) (first : β) :
    (items.foldlM take first).toOption = (twins.foldlM other first).toOption := by
  induction fit generalizing first with
  | nil => rfl
  | @cons item twin others otherTwins fits _ inductionHypothesis =>
      have rest := inductionHypothesis fun later isLater laterTwin isTwin =>
        alike later (List.mem_cons_of_mem item isLater) laterTwin (List.mem_cons_of_mem twin isTwin)
      have same := alike item (List.mem_cons_self ..) twin (List.mem_cons_self ..) fits first
      rw [List.foldlM_cons, List.foldlM_cons]
      cases stepped : take first item with
      | error cause =>
          cases twinStepped : other first twin with
          | error _ => rfl
          | ok _ =>
              rw [stepped, twinStepped] at same
              cases same
      | ok next =>
          cases twinStepped : other first twin with
          | error _ =>
              rw [stepped, twinStepped] at same
              cases same
          | ok twinNext =>
              rw [stepped, twinStepped] at same
              obtain rfl := Option.some.inj same
              exact rest next

/-! ## One step for each item -/

variable {step : α → Except ε β}

theorem mapM_eq_ok_iff {items : List α} {results : List β} :
    items.mapM step = .ok results ↔
      List.Forall₂ (fun item result => step item = .ok result) items results := by
  induction items generalizing results with
  | nil =>
      rw [List.mapM_nil, List.forall₂_nil_left_iff]
      exact ⟨fun same => (Except.ok.inj same).symm, fun same => same ▸ rfl⟩
  | cons item others inductionHypothesis =>
      rw [List.mapM_cons, bind_eq_ok_iff, List.forall₂_cons_left_iff]
      refine exists_congr fun result => ?_
      constructor
      · rintro ⟨first, afterFirst⟩
        obtain ⟨rest, ofOthers, same⟩ := bind_eq_ok_iff.mp afterFirst
        exact ⟨rest, first, inductionHypothesis.mp ofOthers, (Except.ok.inj same).symm⟩
      · rintro ⟨rest, first, ofOthers, rfl⟩
        exact ⟨first, bind_eq_ok_iff.mpr ⟨rest, inductionHypothesis.mpr ofOthers, rfl⟩⟩

/-- Results can be viewed each after its step, or together after all steps. -/
theorem map_mapM {γ : Type} (step : α → Except ε β) (view : β → γ) (items : List α) :
    (items.mapM step).map (·.map view) = items.mapM fun item => (step item).map view := by
  induction items with
  | nil => rfl
  | cons item others inductionHypothesis =>
      rw [List.mapM_cons, List.mapM_cons, ← inductionHypothesis]
      cases step item with
      | error cause => rfl
      | ok result =>
          generalize others.mapM step = rest
          cases rest <;> rfl

theorem exists_of_mem_forall₂ {Fits : α → β → Prop} {items : List α} {results : List β}
    (fit : List.Forall₂ Fits items results) {result : β} (member : result ∈ results) :
    ∃ item ∈ items, Fits item result := by
  induction fit with
  | nil => exact absurd member List.not_mem_nil
  | @cons item first others _ fits _ inductionHypothesis =>
      rcases List.mem_cons.mp member with rfl | inOthers
      · exact ⟨item, List.mem_cons_self .., fits⟩
      · obtain ⟨other, isItem, otherFits⟩ := inductionHypothesis inOthers
        exact ⟨other, List.mem_cons_of_mem item isItem, otherFits⟩

theorem exists_of_mem_mapM {items : List α} {results : List β} (all : items.mapM step = .ok results)
    {result : β} (member : result ∈ results) : ∃ item ∈ items, step item = .ok result :=
  exists_of_mem_forall₂ (mapM_eq_ok_iff.mp all) member

/-- Steps for all items fail as the first one that fails. -/
theorem mapM_eq_error_iff {items : List α} {cause : ε} :
    items.mapM step = .error cause ↔
      ∃ before item after, items = before ++ item :: after ∧
        (∀ earlier ∈ before, ∃ result, step earlier = .ok result) ∧ step item = .error cause := by
  induction items with
  | nil =>
      rw [List.mapM_nil]
      refine ⟨fun failed => ?_, ?_⟩
      · cases failed
      · rintro ⟨before, item, after, none, -⟩
        exact absurd none (by simp)
  | cons first others inductionHypothesis =>
      rw [List.mapM_cons, bind_eq_error_iff]
      constructor
      · rintro (failed | ⟨result, passed, afterFirst⟩)
        · exact ⟨[], first, others, rfl, by simp, failed⟩
        · rcases bind_eq_error_iff.mp afterFirst with failed | ⟨rest, -, none⟩
          · obtain ⟨before, item, after, rfl, allPassed, itemFailed⟩ :=
              inductionHypothesis.mp failed
            refine ⟨first :: before, item, after, rfl, ?_, itemFailed⟩
            rw [List.forall_mem_cons]
            exact ⟨⟨result, passed⟩, allPassed⟩
          · cases none
      · rintro ⟨before, item, after, split, allPassed, itemFailed⟩
        cases before with
        | nil =>
            obtain ⟨rfl, rfl⟩ := List.cons.inj split
            exact Or.inl itemFailed
        | cons head more =>
            obtain ⟨rfl, rfl⟩ := List.cons.inj split
            rw [List.forall_mem_cons] at allPassed
            obtain ⟨⟨result, passed⟩, morePassed⟩ := allPassed
            refine Or.inr ⟨result, passed, bind_eq_error_iff.mpr (Or.inl ?_)⟩
            exact inductionHypothesis.mpr ⟨more, item, after, rfl, morePassed, itemFailed⟩

end EntityGen.Result
