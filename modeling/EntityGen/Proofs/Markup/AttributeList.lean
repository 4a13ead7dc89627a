import EntityGen.Proofs.Markup.Token

/-!
Contract: which lists of attributes a tag can have.

Owns:
- what one character of a tag can do to the attributes that are read;
- that no two attributes of a tag share a key, also when the reading stops at a fault;
- the lists of attributes that are read from a tag without a fault.

Does not own: which keys an element knows.

A key is known before its value is read, and the reading stops at a known key. So the
attribute that is read next is the only one that may have a known key.
-/

namespace EntityGen.Markup

namespace AttributePlace

/-- The key that is known and whose value is still to come. -/
def openKey? : AttributePlace → Option String
  | .equals name => some name
  | .value name _ _ => some name
  | _ => none

/-- What was read of an attribute can be continued to one that a tag can have. -/
def Sound : AttributePlace → Prop
  | .blank => True
  | .key _ read => IsKey (String.ofList read.reverse)
  | .keyEnd _ name => IsKey name
  | .equals name => IsKey name
  | .value name quote read => IsKey name ∧ isQuote quote = true ∧ quote ∉ read

end AttributePlace

theorem isKey_singleton {c : Char} (visible : isSpace c = false) : IsKey (String.ofList [c]) :=
  isKey_iff.mpr
    ⟨c, [], String.toList_ofList, visible, fun _ member => absurd member List.not_mem_nil⟩

theorem isKey_extended {read : List Char} (isKey : IsKey (String.ofList read.reverse)) {c : Char}
    (noEquals : c ≠ '=') (visible : isSpace c = false) :
    IsKey (String.ofList (c :: read).reverse) := by
  obtain ⟨first, rest, whole, firstVisible, unended⟩ := isKey_iff.mp isKey
  rw [String.toList_ofList] at whole
  refine isKey_iff.mpr ⟨first, rest ++ [c], ?_, firstVisible, ?_⟩
  · rw [String.toList_ofList, List.reverse_cons, whole, List.cons_append]
  · rw [List.forall_mem_append, List.forall_mem_singleton]
    exact ⟨unended, noEquals, visible⟩

theorem quotable_of_read {key : String} {quote : Char} {read : List Char} (isKey : IsKey key)
    (isQuote : isQuote quote = true) (free : quote ∉ read) :
    (TagAttribute.mk key (String.ofList read.reverse)).Quotable := by
  refine ⟨isKey, ?_⟩
  rw [String.toList_ofList, List.mem_reverse, List.mem_reverse]
  simp only [Markup.isQuote, Bool.or_eq_true, beq_iff_eq] at isQuote
  rcases isQuote with rfl | rfl
  · exact Or.inl free
  · exact Or.inr free

/-! ## One character -/

/-- What a character can do: it goes on with what is read, it ends a new key, or it ends
an attribute. -/
inductive Advances (known : KeyPositions) (place : AttributePlace) : AttributeStep → Prop
  | goesOn {next : AttributePlace} : next.Sound → next.openKey? = place.openKey? →
      Advances known place ⟨next, known, none⟩
  | endsKey {key : String} (start : Nat) : IsKey key → known.lookup key = none →
      place.openKey? = none → Advances known place ⟨.equals key, (key, start) :: known, none⟩
  | endsAttribute {given : TagAttribute} : given.Quotable → place.openKey? = some given.key →
      Advances known place ⟨.blank, known, some given⟩

theorem advances_of_afterKey {known : KeyPositions} {place : AttributePlace} {start : Nat}
    {key : String} {next : AttributeStep} (isKey : IsKey key) (closed : place.openKey? = none)
    (step : AttributeStep.afterKey known start key = .ok next) : Advances known place next := by
  unfold AttributeStep.afterKey at step
  split at step
  · cases step
  · next isNew =>
      obtain rfl := Except.ok.inj step
      exact .endsKey start isKey isNew closed

theorem advances_of_take {known : KeyPositions} {place : AttributePlace} {position : Nat}
    {c : Char} {next : AttributeStep} (sound : place.Sound)
    (step : AttributeStep.take known place position c = .ok next) : Advances known place next := by
  cases place with
  | blank =>
      simp only [AttributeStep.take] at step
      split at step
      · obtain rfl := Except.ok.inj step
        exact .goesOn sound rfl
      · next visible =>
          obtain rfl := Except.ok.inj step
          exact .goesOn (isKey_singleton (eq_false_of_ne_true visible)) rfl
  | key start read =>
      simp only [AttributeStep.take] at step
      split at step
      · exact advances_of_afterKey sound rfl step
      · next noEquals =>
          split at step
          · obtain rfl := Except.ok.inj step
            exact .goesOn sound rfl
          · next visible =>
              obtain rfl := Except.ok.inj step
              exact .goesOn (isKey_extended sound noEquals (eq_false_of_ne_true visible)) rfl
  | keyEnd start key =>
      simp only [AttributeStep.take] at step
      split at step
      · exact advances_of_afterKey sound rfl step
      · split at step
        · obtain rfl := Except.ok.inj step
          exact .goesOn sound rfl
        · cases step
  | equals key =>
      simp only [AttributeStep.take] at step
      split at step
      · next isQuote =>
          obtain rfl := Except.ok.inj step
          exact .goesOn ⟨sound, isQuote, List.not_mem_nil⟩ rfl
      · split at step
        · obtain rfl := Except.ok.inj step
          exact .goesOn sound rfl
        · cases step
  | value key quote read =>
      obtain ⟨isKey, isQuote, free⟩ := sound
      simp only [AttributeStep.take] at step
      split at step
      · obtain rfl := Except.ok.inj step
        exact .endsAttribute (quotable_of_read isKey isQuote free) rfl
      · next goesOn =>
          obtain rfl := Except.ok.inj step
          refine .goesOn ⟨isKey, isQuote, ?_⟩ rfl
          rw [List.mem_cons, not_or]
          exact ⟨Ne.symm goesOn, free⟩

/-! ## Many characters -/

/-- The attributes that are read from a place on can be written, have keys of their own,
and only the key that is open there was known before. -/
structure ReadFrom (known : KeyPositions) (place : AttributePlace)
    (found : List TagAttribute) : Prop where
  quotable : ∀ given ∈ found, given.Quotable
  distinct : (found.map TagAttribute.key).Nodup
  fresh : ∀ given ∈ found, known.lookup given.key ≠ none → place.openKey? = some given.key

theorem ReadFrom.nil (known : KeyPositions) (place : AttributePlace) : ReadFrom known place [] :=
  ⟨fun _ member => absurd member List.not_mem_nil, List.nodup_nil,
    fun _ member => absurd member List.not_mem_nil⟩

/-- The open key is a known one. -/
def OpenKeyKnown (known : KeyPositions) (place : AttributePlace) : Prop :=
  ∀ key, place.openKey? = some key → known.lookup key ≠ none

theorem Advances.sound {known : KeyPositions} {place : AttributePlace} {next : AttributeStep}
    (advances : Advances known place next) (openKnown : OpenKeyKnown known place) :
    next.place.Sound ∧ OpenKeyKnown next.known next.place := by
  cases advances with
  | goesOn sound sameOpen =>
      refine ⟨sound, fun key isOpen => openKnown key ?_⟩
      rw [← sameOpen]
      exact isOpen
  | endsKey start isKey _ _ =>
      refine ⟨isKey, fun key isOpen => ?_⟩
      obtain rfl := Option.some.inj isOpen
      simp
  | endsAttribute _ _ => exact ⟨trivial, fun _ impossible => by cases impossible⟩

theorem Advances.readFrom {known : KeyPositions} {place : AttributePlace} {next : AttributeStep}
    (advances : Advances known place next) (openKnown : OpenKeyKnown known place)
    {found : List TagAttribute} (rest : ReadFrom next.known next.place found) :
    ReadFrom known place (next.complete.toList ++ found) := by
  cases advances with
  | goesOn sound sameOpen =>
      refine ⟨rest.quotable, rest.distinct, fun given member isKnown => ?_⟩
      rw [← sameOpen]
      exact rest.fresh given member isKnown
  | @endsKey key start isKey isNew closed =>
      refine ⟨rest.quotable, rest.distinct, fun given member isKnown => ?_⟩
      -- The new key is the only known one that may come now, and it was not known before.
      have stillKnown : ((key, start) :: known).lookup given.key ≠ none := by
        rw [List.lookup_cons]
        split
        · exact Option.some_ne_none start
        · exact isKnown
      have isNewKey : key = given.key := Option.some.inj (rest.fresh given member stillKnown)
      exact absurd (isNewKey ▸ isNew) isKnown
  | @endsAttribute first quotable isOpen =>
      -- Behind the attribute no key is open, so no known key comes again.
      have behind : ∀ given ∈ found, known.lookup given.key = none := by
        intro given member
        by_contra isKnown
        cases rest.fresh given member isKnown
      refine ⟨List.forall_mem_cons.mpr ⟨quotable, rest.quotable⟩, ?_, ?_⟩
      · refine List.nodup_cons.mpr ⟨fun again => ?_, rest.distinct⟩
        obtain ⟨given, member, sameKey⟩ := List.mem_map.mp again
        exact openKnown first.key isOpen (sameKey ▸ behind given member)
      · refine List.forall_mem_cons.mpr ⟨fun _ => isOpen, fun given member isKnown => ?_⟩
        exact absurd (behind given member) isKnown

theorem readFrom_attributesFrom {known : KeyPositions} {place : AttributePlace}
    (sound : place.Sound) (openKnown : OpenKeyKnown known place) (position : Nat)
    (text : List Char) :
    ReadFrom known place (attributesFrom known place position text).1 := by
  induction text generalizing known place position with
  | nil => exact .nil known place
  | cons c rest inductionHypothesis =>
      rw [attributesFrom]
      split
      · exact .nil known place
      · next next step =>
          have advances := advances_of_take sound step
          obtain ⟨nextSound, nextKnown⟩ := advances.sound openKnown
          exact advances.readFrom openKnown (inductionHypothesis nextSound nextKnown _)

/-! ## Tags -/

/-- The attributes of a tag can be written and have keys of their own, also those before a
fault. -/
theorem readFrom_attributes (tag : Tag) : ReadFrom [] .blank tag.attributes.1 := by
  have sound : AttributePlace.Sound .blank := trivial
  have openKnown : OpenKeyKnown [] .blank := by
    intro key isOpen
    cases isOpen
  exact readFrom_attributesFrom sound openKnown _ _

/-- A tag can have any list of attributes with keys of their own, and no other list. -/
theorem exists_attributes_iff {name : String} (isName : ∀ c ∈ name.toList, isSpace c = false)
    (attributes : List TagAttribute) :
    (∃ tag : Tag, tag.name = name ∧ tag.attributes = (attributes, none)) ↔
      (∀ given ∈ attributes, given.Quotable) ∧ (attributes.map TagAttribute.key).Nodup := by
  constructor
  · rintro ⟨tag, -, listed⟩
    have read := readFrom_attributes tag
    rw [listed] at read
    exact ⟨read.quotable, read.distinct⟩
  · rintro ⟨quotable, distinct⟩
    exact ⟨.quoting name attributes, name_quoting isName,
      attributes_quoting isName quotable distinct⟩

end EntityGen.Markup
