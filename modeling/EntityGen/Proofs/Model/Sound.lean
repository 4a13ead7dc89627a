import EntityGen.Model.Files
import EntityGen.Proofs.Model.ReadClasses
import EntityGen.Proofs.Text.Blank

/-!
Contract: what every model that was read can be relied on for.

Owns:
- `Sound`, the classes whose names are present and distinct;
- what the attributes of a tag leave of this to check;
- when the classes of one more file are taken, and when several files are read;
- soundness of the classes of one text, and of several files.

Does not own: which texts are read, and what the written names mean.

Three different rules add up to soundness. A missing name, parent or type is no
attribute at all, so a draft never holds an empty text. A list of groups is cut,
trimmed and sifted. And a name is taken only once in a class, in a text and over all
files.
-/

namespace EntityGen.Model

open EntityGen.Markup (Elements Tag TagAttribute)

/-! ## Sound classes -/

/-- A group that is named: nothing of it is blank at an end or parts a list of groups. -/
@[mk_iff]
structure IsNamedGroup (group : String) : Prop where
  nonempty : group ≠ ""
  commaFree : ',' ∉ group.toList
  startVisible : ∀ c ∈ group.toList.head?, Text.isBlank c = false
  endVisible : ∀ c ∈ group.toList.getLast?, Text.isBlank c = false

instance (group : String) : Decidable (IsNamedGroup group) :=
  decidable_of_iff
    (group ≠ "" ∧ ',' ∉ group.toList ∧ group.toList.head?.all (Text.isBlank · == false) = true ∧
      group.toList.getLast?.all (Text.isBlank · == false) = true)
    (by simp only [isNamedGroup_iff, Option.all_eq_true, beq_iff_eq, Option.mem_def])

@[mk_iff]
structure Property.Sound (property : Property) : Prop where
  name : property.name ≠ ""
  type : ∀ type ∈ property.type, type.element.name ≠ ""
  groups : ∀ group ∈ property.groups, IsNamedGroup group

instance (property : Property) : Decidable property.Sound :=
  decidable_of_iff' _ (Property.sound_iff property)

@[mk_iff]
structure ClassDecl.Sound (decl : ClassDecl) : Prop where
  name : decl.name ≠ ""
  parent : decl.parent ≠ some ""
  properties : ∀ property ∈ decl.properties, property.Sound
  distinct : (decl.properties.map Property.name).Nodup

instance (decl : ClassDecl) : Decidable decl.Sound :=
  decidable_of_iff' _ (ClassDecl.sound_iff decl)

/-- Classes of distinct names, none of which says anything by an empty text. -/
@[mk_iff]
structure Sound (classes : List ClassDecl) : Prop where
  declared : ∀ decl ∈ classes, decl.Sound
  distinct : (classes.map ClassDecl.name).Nodup

instance (classes : List ClassDecl) : Decidable (Sound classes) :=
  decidable_of_iff' _ (sound_iff classes)

/-! ## Groups -/

theorem isNamedGroup_of_mem_groupsOf {text group : String} (member : group ∈ groupsOf text) :
    IsNamedGroup group := by
  obtain ⟨trimmed, isKept, rfl⟩ := List.mem_map.mp member
  obtain ⟨isTrimmed, present⟩ := List.mem_filter.mp isKept
  obtain ⟨piece, isPiece, rfl⟩ := List.mem_map.mp isTrimmed
  constructor
  · intro isEmpty
    have nothing : Text.trim piece = [] := by
      rw [← String.toList_ofList (l := Text.trim piece), isEmpty]
      rfl
    rw [nothing] at present
    cases present
  · rw [String.toList_ofList]
    exact fun inGroup => Text.not_mem_of_mem_pieces isPiece (Text.mem_of_mem_trim inGroup)
  · rw [String.toList_ofList]
    exact fun c isFirst => Text.not_isBlank_of_head?_trim isFirst
  · rw [String.toList_ofList]
    exact fun c isLast => Text.not_isBlank_of_getLast?_trimEnd isLast

/-! ## Drafts -/

theorem present?_ne (text : String) : present? text ≠ some "" := by
  rw [present?]
  split
  · exact (Option.some_ne_none "").symm
  · next notEmpty =>
      intro isEmpty
      obtain rfl := Option.some.inj isEmpty
      exact notEmpty rfl

theorem present?_or_ne {earlier : Option String} (present : earlier ≠ some "") (text : String) :
    (present? text).or earlier ≠ some "" := by
  rw [Ne, Option.or_eq_some_iff]
  rintro (isEmpty | ⟨-, isEmpty⟩)
  · exact present?_ne text isEmpty
  · exact present isEmpty

/-- What the attributes of a tag leave is what every single one of them keeps. -/
theorem invariant_of_takeAttributes {α : Type} {Invariant : α → Prop}
    {take : α → TagAttribute → Except ModelError α}
    (keeps : ∀ before given after, Invariant before → take before given = .ok after →
      Invariant after)
    {initial result : α} {tag : Tag} (holds : Invariant initial)
    (taken : takeAttributes take initial tag = .ok result) : Invariant result := by
  obtain ⟨found, folded, finished⟩ := Result.bind_eq_ok_iff.mp taken
  split at finished
  · obtain rfl := Except.ok.inj finished
    exact Result.invariant_of_foldlM keeps holds folded
  · cases finished

structure ClassDraft.Sound (draft : ClassDraft) : Prop where
  name : draft.name ≠ some ""
  parent : draft.parent ≠ some ""

theorem ClassDraft.Sound.take {draft : ClassDraft} (sound : draft.Sound) (given : TagAttribute) :
    (draft.take given).Sound := by
  unfold ClassDraft.take
  split
  · exact ⟨present?_ne _, sound.parent⟩
  · exact ⟨sound.name, present?_or_ne sound.parent _⟩
  · exact sound

theorem ClassDecl.sound_ofTag {tag : Tag} {head : ClassDecl} (isHead : ofTag tag = .ok head) :
    head.Sound := by
  obtain ⟨draft, taken, finished⟩ := Result.bind_eq_ok_iff.mp isHead
  have sound : draft.Sound := by
    refine invariant_of_takeAttributes ?_ ⟨by simp, by simp⟩ taken
    intro before given after holds stepped
    obtain rfl := Except.ok.inj stepped
    exact holds.take given
  unfold ClassDraft.finish at finished
  split at finished
  · next name isName =>
      obtain rfl := Except.ok.inj finished
      have named : name ≠ "" := fun isEmpty => sound.name (isEmpty ▸ isName)
      exact ⟨named, sound.parent, by simp, by simp⟩
  · cases finished

structure PropertyDraft.Sound (draft : PropertyDraft) : Prop where
  name : draft.name ≠ some ""
  scalar : draft.scalar ≠ some ""
  reference : draft.reference ≠ some ""
  groups : ∀ group ∈ draft.groups, IsNamedGroup group

theorem PropertyDraft.Sound.take {draft after : PropertyDraft} {given : TagAttribute}
    (sound : draft.Sound) (taken : draft.take given = .ok after) : after.Sound := by
  unfold PropertyDraft.take at taken
  split at taken
  case h_1 =>
    obtain rfl := Except.ok.inj taken
    exact { sound with name := present?_ne _ }
  case h_2 =>
    obtain rfl := Except.ok.inj taken
    exact { sound with scalar := present?_or_ne sound.scalar _ }
  case h_3 =>
    obtain rfl := Except.ok.inj taken
    exact { sound with reference := present?_or_ne sound.reference _ }
  case h_6 =>
    obtain rfl := Except.ok.inj taken
    exact { sound with groups := fun _ => isNamedGroup_of_mem_groupsOf }
  case h_7 =>
    obtain rfl := Except.ok.inj taken
    exact sound
  -- A flag that is no truth value is refused; any other one leaves the texts alone.
  all_goals
    obtain ⟨flag, -, taken⟩ := Result.bind_eq_ok_iff.mp taken
    obtain rfl := Except.ok.inj taken
    exact { sound with }

theorem PropertyDraft.Sound.element? {draft : PropertyDraft} (sound : draft.Sound)
    {className name : String} {element : Element}
    (found : draft.element? className name = .ok (some element)) : element.name ≠ "" := by
  unfold PropertyDraft.element? at found
  split at found
  · cases found
  · next scalar isScalar _ =>
      obtain rfl := Option.some.inj (Except.ok.inj found)
      exact fun isEmpty => sound.scalar (isScalar.trans (congrArg some isEmpty))
  · next target _ isReference =>
      obtain rfl := Option.some.inj (Except.ok.inj found)
      exact fun isEmpty => sound.reference (isReference.trans (congrArg some isEmpty))
  · cases Except.ok.inj found

theorem Property.sound_ofTag {className : String} {tag : Tag} {property : Property}
    (isProperty : ofTag className tag = .ok property) : property.Sound := by
  obtain ⟨draft, taken, finished⟩ := Result.bind_eq_ok_iff.mp isProperty
  have sound : draft.Sound := by
    refine invariant_of_takeAttributes (fun _ _ _ holds stepped => holds.take stepped) ?_ taken
    exact ⟨by simp, by simp, by simp, by simp⟩
  unfold PropertyDraft.finish at finished
  split at finished
  · cases finished
  · next name isName =>
      obtain ⟨element, found, finished⟩ := Result.bind_eq_ok_iff.mp finished
      obtain rfl := Except.ok.inj finished
      refine ⟨fun isEmpty => sound.name (isName.trans (congrArg some isEmpty)), ?_, sound.groups⟩
      intro type isType
      obtain ⟨present, rfl, rfl⟩ := Option.map_eq_some_iff.mp isType
      exact sound.element? found

/-! ## Texts and files -/

theorem Declares.sound {element : Tag × Elements} {decl : ClassDecl}
    (declares : Declares element decl) : decl.Sound := by
  have head := ClassDecl.sound_ofTag declares.head
  refine ⟨head.name, head.parent, fun property member => ?_, declares.distinct⟩
  obtain ⟨child, -, isProperty⟩ := Result.exists_of_mem_mapM declares.properties member
  exact Property.sound_ofTag isProperty

theorem sound_of_readModel {text : String} {classes : List ClassDecl}
    (read : readModel text = .ok classes) : Sound classes := by
  obtain ⟨outline, elements, -, -, declare, distinct⟩ := readModel_eq_ok_iff.mp read
  refine ⟨fun decl member => ?_, distinct⟩
  obtain ⟨element, -, declares⟩ := Result.exists_of_mem_forall₂ declare member
  exact declares.sound

theorem addDistinct_eq_ok_iff {path : FilePath} {known found extended : List ClassDecl}
    (knownDistinct : (known.map (·.name)).Nodup) :
    addDistinct path known found = .ok extended ↔
      extended = known ++ found ∧ ((known ++ found).map (·.name)).Nodup := by
  induction found generalizing known with
  | nil =>
      rw [addDistinct, List.append_nil, Except.ok.injEq, eq_comm]
      exact (and_iff_left knownDistinct).symm
  | cons decl others inductionHypothesis =>
      rw [addDistinct]
      by_cases isKnown : known.any (·.name == decl.name) = true
      · rw [if_pos isKnown]
        obtain ⟨other, member, same⟩ := List.any_eq_true.mp isKnown
        constructor
        · intro added
          cases added
        · rintro ⟨-, distinct⟩
          rw [List.map_append, List.nodup_append] at distinct
          have inKnown := List.mem_map_of_mem (f := (·.name)) member
          exact absurd (eq_of_beq same) (distinct.2.2 _ inKnown _ (List.mem_cons_self ..))
      · rw [if_neg isKnown, inductionHypothesis, List.append_assoc, List.singleton_append]
        rw [List.map_append, List.map_singleton, List.nodup_append]
        refine ⟨knownDistinct, List.nodup_singleton _, ?_⟩
        rintro _ inKnown _ isNew rfl
        obtain ⟨other, member, same⟩ := List.mem_map.mp inKnown
        rw [List.mem_singleton.mp isNew] at same
        exact isKnown (List.any_eq_true.mpr ⟨other, member, beq_iff_eq.mpr same⟩)

theorem Sound.addDistinct {path : FilePath} {known found extended : List ClassDecl}
    (sound : Sound known) (more : ∀ decl ∈ found, decl.Sound)
    (added : addDistinct path known found = .ok extended) : Sound extended := by
  obtain ⟨rfl, distinct⟩ := (addDistinct_eq_ok_iff sound.distinct).mp added
  exact ⟨List.forall_mem_append.mpr ⟨sound.declared, more⟩, distinct⟩

/-- Files are read if the first one is, its classes are new, and the others are read behind
it. -/
theorem readFilesFrom_cons_eq_ok_iff {tree : FileTree} {path : FilePath} {others : List FilePath}
    {known classes : List ClassDecl} :
    (readFilesFrom tree known (path :: others)).1 = .ok classes ↔
      ∃ found extended, readFile tree path = .ok found ∧
        addDistinct path known found = .ok extended ∧
          (readFilesFrom tree extended others).1 = .ok classes := by
  rw [readFilesFrom]
  cases readFile tree path with
  | error cause => simp
  | ok found =>
      dsimp only
      cases added : addDistinct path known found with
      | error cause => simp [added]
      | ok extended => simp [added]

theorem Sound.readFilesFrom {tree : FileTree} {paths : List FilePath}
    {known classes : List ClassDecl} (sound : Sound known)
    (read : (readFilesFrom tree known paths).1 = .ok classes) : Sound classes := by
  induction paths generalizing known with
  | nil =>
      obtain rfl := Except.ok.inj read
      exact sound
  | cons path others inductionHypothesis =>
      obtain ⟨found, extended, ofPath, added, ofOthers⟩ := readFilesFrom_cons_eq_ok_iff.mp read
      obtain ⟨text, -, ofText⟩ := Result.bind_eq_ok_iff.mp ofPath
      have fileSound := sound_of_readModel (Result.mapError_eq_ok_iff.mp ofText)
      exact inductionHypothesis (sound.addDistinct fileSound.declared added) ofOthers

/-- **Every model that was read is sound.** Of the classes of one text, and of the
classes of all files below any roots together, each has a name of its own that is not
empty; so has each property among those of its class. No parent, no type and no group is named
by an empty text, and no group has a comma in it or white space at an end. -/
theorem sound_of_read :
    (∀ text classes, readModel text = .ok classes → Sound classes) ∧
      ∀ tree roots classes, (readFiles tree roots).1 = .ok classes → Sound classes := by
  refine ⟨fun text classes => sound_of_readModel, fun tree roots classes read => ?_⟩
  unfold readFiles at read
  split at read
  · cases read
  · exact Sound.readFilesFrom ⟨by simp, by simp⟩ read

private def partyText : String :=
  "<model><class name=\"Person\" extends=\"Party\"><property name=\"age\" type=\"int\" groups=\" web ,,api\"/></class></model>"

private def partyClasses : List ClassDecl := [
  { name := "Person"
    parent := some "Party"
    properties := [⟨"age", some { element := .scalar "int" }, ["web", "api"]⟩] }]

private def partyFolder : FileTree :=
  let noParent := "<model><class name=\"Party\" extends=\"\"/></model>"
  (FileTree.layOut {} ["model", "b.xml"] (.file (.text noParent))).layOut ["model", "a.xml"]
    (.file (.text partyText))

private theorem modelPaths_partyFolder :
    modelPaths partyFolder [.ofString "model"] =
      .ok [.ofString "model/a.xml", .ofString "model/b.xml"] := by
  have files : filesOfRoots partyFolder [.ofString "model"] =
      .ok [.ofString "model/a.xml", .ofString "model/b.xml"] := by decide +kernel
  rw [modelPaths, files]
  show Except.ok (withoutRepeats (List.mergeSort _ _)) = _
  have different : (FilePath.ofString "model/a.xml").sameAs (.ofString "model/b.xml") = false := by
    decide +kernel
  rw [List.mergeSort_of_pairwise (by decide +kernel)]
  simp [withoutRepeats, different]

/-- A group with blanks around it is read without them, and a parent without text is
read as none, alone or in the files of a folder. -/
theorem sound_party :
    readModel partyText = .ok partyClasses ∧ Sound partyClasses ∧
      (readFiles partyFolder [.ofString "model"]).1 = .ok (partyClasses ++ [{ name := "Party" }]) ∧
        Sound (partyClasses ++ [{ name := "Party" }]) := by
  have read : readModel partyText = .ok partyClasses := by decide +kernel
  have readFolder : (readFiles partyFolder [.ofString "model"]).1 =
      .ok (partyClasses ++ [{ name := "Party" }]) := by
    rw [readFiles, modelPaths_partyFolder]
    decide +kernel
  exact ⟨read, sound_of_read.1 _ _ read, readFolder, sound_of_read.2 _ _ _ readFolder⟩

end EntityGen.Model
