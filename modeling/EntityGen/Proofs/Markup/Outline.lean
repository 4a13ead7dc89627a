import EntityGen.Markup.Event
import EntityGen.Proofs.Result

/-!
Contract: the elements of an XML text, as they lie in one another.

Owns:
- `Elements` and `Outline`, closed elements and those that a text leaves open;
- the events of a text, and the outline that they make up;
- that an outline has the events of its text, in order.

Does not own: what the elements mean, and the attributes in their tags.

Elements are kept with those that follow them, so that a text is taken apart in
the order in which it is read: a tag, what is inside, what comes after.
-/

namespace EntityGen.Markup

/-- Closed elements that follow one another. -/
inductive Elements where
  | none
  | standalone (tag : Tag) (after : Elements)
  | enclosing (tag : Tag) (inside after : Elements)
deriving DecidableEq, Repr

namespace Elements

/-- Each of the elements with those directly inside it. -/
def toList : Elements → List (Tag × Elements)
  | none => []
  | standalone tag after => (tag, none) :: after.toList
  | enclosing tag inside after => (tag, inside) :: after.toList

def events : Elements → List Event
  | none => []
  | standalone tag after => .standalone tag :: after.events
  | enclosing tag inside after => .opened tag :: (inside.events ++ .closed :: after.events)

def append : Elements → Elements → Elements
  | none, more => more
  | standalone tag after, more => standalone tag (after.append more)
  | enclosing tag inside after, more => enclosing tag inside (after.append more)

theorem events_append (elements more : Elements) :
    (elements.append more).events = elements.events ++ more.events := by
  induction elements with
  | none => rfl
  | standalone tag after inductionHypothesis => simp [append, events, inductionHypothesis]
  | enclosing tag inside after _ inductionHypothesis =>
      simp [append, events, inductionHypothesis]

end Elements

/-- The elements of a text, of which some may not be closed. -/
inductive Outline where
  | complete (elements : Elements)
  /-- Closed elements, and behind them one that the text ends in. -/
  | unclosed (before : Elements) (tag : Tag) (inside : Outline)
deriving DecidableEq, Repr

namespace Outline

def events : Outline → List Event
  | complete elements => elements.events
  | unclosed before tag inside => before.events ++ .opened tag :: inside.events

/-- The names of the elements that are not closed, innermost first. -/
def openNames : Outline → List String
  | complete _ => []
  | unclosed _ tag inside => inside.openNames ++ [tag.name]

/-- The outline after one more event. An end without an open element changes
nothing. -/
def take (outline : Outline) (event : Event) : Outline :=
  match outline, event with
  | complete elements, .opened tag => unclosed elements tag (complete .none)
  | complete elements, .standalone tag => complete (elements.append (.standalone tag .none))
  | complete elements, .closed => complete elements
  | unclosed before tag (complete elements), .closed =>
      complete (before.append (.enclosing tag elements .none))
  | unclosed before tag inside, event => unclosed before tag (inside.take event)

theorem take_opened (outline : Outline) (tag : Tag) :
    (outline.take (.opened tag)).openNames = tag.name :: outline.openNames ∧
      (outline.take (.opened tag)).events = outline.events ++ [.opened tag] := by
  induction outline with
  | complete elements => simp [take, openNames, events, Elements.events]
  | unclosed before outer inside inductionHypothesis =>
      simp [take, openNames, events, inductionHypothesis]

theorem take_standalone (outline : Outline) (tag : Tag) :
    (outline.take (.standalone tag)).openNames = outline.openNames ∧
      (outline.take (.standalone tag)).events = outline.events ++ [.standalone tag] := by
  induction outline with
  | complete elements =>
      simp [take, openNames, events, Elements.events, Elements.events_append]
  | unclosed before outer inside inductionHypothesis =>
      simp [take, openNames, events, inductionHypothesis]

theorem take_closed {outline : Outline} {innermost : String} {others : List String}
    (isOpen : outline.openNames = innermost :: others) :
    (outline.take .closed).openNames = others ∧
      (outline.take .closed).events = outline.events ++ [.closed] := by
  induction outline generalizing others with
  | complete elements => cases isOpen
  | unclosed before outer inside inductionHypothesis =>
      cases inside with
      | complete elements =>
          obtain ⟨-, rfl⟩ := List.cons.inj isOpen
          simp [take, openNames, events, Elements.events, Elements.events_append]
      | unclosed more tag deeper =>
          -- The end belongs to an element further inside, so the outer one stays open.
          obtain ⟨names, isNames⟩ : ∃ names,
              (unclosed more tag deeper).openNames = innermost :: names := by
            cases inner : (unclosed more tag deeper).openNames with
            | nil => simp [openNames] at inner
            | cons first names =>
                rw [openNames, inner] at isOpen
                exact ⟨names, by rw [(List.cons.inj isOpen).1]⟩
          rw [openNames, isNames] at isOpen
          obtain ⟨namesAfter, eventsAfter⟩ := inductionHypothesis isNames
          show ((unclosed more tag deeper).take .closed).openNames ++ [outer.name] = others ∧
            before.events ++ .opened outer :: ((unclosed more tag deeper).take .closed).events =
              before.events ++ .opened outer :: (unclosed more tag deeper).events ++ [.closed]
          rw [namesAfter, eventsAfter]
          exact ⟨(List.cons.inj isOpen).2, by simp⟩

/-- An event that fits the open names is put behind the others. -/
theorem take_ofToken {outline : Outline} {token : Token} {event : Event}
    {namesAfter : List String}
    (fits : Event.ofToken outline.openNames token = .ok (event, namesAfter)) :
    (outline.take event).openNames = namesAfter ∧
      (outline.take event).events = outline.events ++ [event] := by
  cases token with
  | startTag tag =>
      obtain ⟨rfl, rfl⟩ := Prod.mk.inj (Except.ok.inj fits)
      exact take_opened outline tag
  | emptyTag tag =>
      obtain ⟨rfl, rfl⟩ := Prod.mk.inj (Except.ok.inj fits)
      exact take_standalone outline tag
  | endTag name =>
      unfold Event.ofToken at fits
      dsimp only at fits
      split at fits
      · cases fits
      · next innermost others isOpen =>
          split at fits
          · obtain ⟨rfl, rfl⟩ := Prod.mk.inj (Except.ok.inj fits)
            exact take_closed isOpen
          · cases fits

end Outline

/-- The events of the characters that follow a place of the scanner. -/
def eventsFrom (scanner : Scanner) (openNames : List String) :
    List Char → Except MarkupError (List Event)
  | [] =>
    match scanner.fault? with
    | some fault => .error fault
    | none => .ok []
  | c :: rest => do
    let (next, complete) ← scanner.step c
    match complete with
    | none => eventsFrom next openNames rest
    | some token =>
      let (event, namesAfter) ← Event.ofToken openNames token
      .ok (event :: (← eventsFrom next namesAfter rest))

/-- The outline of a text, or the first fault of its markup. -/
def outlineOf (text : String) : Except MarkupError Outline :=
  (eventsFrom .text [] text.toList).map (·.foldl Outline.take (.complete .none))

theorem foldl_take_eventsFrom {scanner : Scanner} {outline : Outline} {text : List Char}
    {events : List Event} (read : eventsFrom scanner outline.openNames text = .ok events) :
    (events.foldl Outline.take outline).events = outline.events ++ events := by
  induction text generalizing scanner outline events with
  | nil =>
      unfold eventsFrom at read
      split at read
      · cases read
      · obtain rfl := Except.ok.inj read
        exact (List.append_nil _).symm
  | cons c rest inductionHypothesis =>
      obtain ⟨⟨next, complete⟩, -, read⟩ := Result.bind_eq_ok_iff.mp read
      cases complete with
      | none => exact inductionHypothesis read
      | some token =>
          obtain ⟨⟨event, namesAfter⟩, fits, read⟩ := Result.bind_eq_ok_iff.mp read
          obtain ⟨others, readOthers, same⟩ := Result.bind_eq_ok_iff.mp read
          obtain rfl := Except.ok.inj same
          obtain ⟨names, taken⟩ := Outline.take_ofToken fits
          rw [← names] at readOthers
          rw [List.foldl_cons, inductionHypothesis readOthers, taken, List.append_assoc]
          rfl

/-- A text has an outline exactly if it has events, and they are the same. -/
theorem exists_outlineOf_iff {text : String} {events : List Event} :
    (∃ outline, outlineOf text = .ok outline ∧ outline.events = events) ↔
      eventsFrom .text [] text.toList = .ok events := by
  unfold outlineOf
  cases read : eventsFrom .text [] text.toList with
  | error fault => simp [Except.map]
  | ok found =>
      have fromStart : eventsFrom .text (Outline.complete .none).openNames text.toList =
          .ok found := read
      have same : (found.foldl Outline.take (.complete .none)).events = found :=
        foldl_take_eventsFrom fromStart
      simp [Except.map, same]

end EntityGen.Markup
