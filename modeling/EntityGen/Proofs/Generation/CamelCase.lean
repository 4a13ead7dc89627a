import EntityGen.Proofs.Generation.ModuleFile
import EntityGen.Proofs.Naming.CamelCase

/-!
Contract: the files of classes whose segments are put together from words.

Owns:
- that such classes share a destination exactly if they have the same segments;
- the plans of such classes.

Does not own: the snake case form of words.

The destination loses nothing of these segments: they have no slash at which they would be cut
and no dot behind which the extension would take their end, and their words can be read back
from the file names.
-/

namespace EntityGen.Config

variable {config : Config} {left right : String}

theorem undotted_of_plain {className : String} (plain : config.naming.Plain className) :
    config.naming.Undotted className :=
  fun dotted => NamingPolicy.dot_not_mem_identifier plain (List.mem_of_mem_tail dotted)

/-- Below one folder, conventional classes share a destination exactly if they have the same
segments. -/
theorem sameAs_destinationBelow_iff (folder : FilePath)
    (isLeft : config.naming.Conventional left) (isRight : config.naming.Conventional right) :
    (config.destinationBelow folder left).sameAs (config.destinationBelow folder right) = true ↔
      config.naming.segments left = config.naming.segments right := by
  have leftStorable := isLeft.plain.storable
  have rightStorable := isRight.plain.storable
  rw [destinationBelow_eq folder leftStorable, destinationBelow_eq folder rightStorable,
    FilePath.sameAs_join_names_iff (namesOfFile_ne_nil _) (namesOfFile_ne_nil _)
      (isName_of_mem_namesOfFile (NamingPolicy.isName_fileSegment leftStorable))
      (isName_of_mem_namesOfFile (NamingPolicy.isName_fileSegment rightStorable)),
    namesOfFile_fileSegments_eq_iff leftStorable rightStorable (undotted_of_plain isLeft.plain)
      (undotted_of_plain isRight.plain),
    isLeft.fileSegments_eq_iff isRight]

/-- Conventional classes have a plan exactly if no two of them have the same segments. -/
theorem exists_plan_of_conventional_iff {folder : FilePath} {table : ClassTable}
    (conventional : ∀ entry ∈ table.toList, config.naming.Conventional entry.1) :
    (∃ planned, config.plan folder table = .ok planned) ↔
      (table.toList.map fun entry => config.naming.segments entry.1).Nodup := by
  rw [exists_plan_iff, OwnDestinations, List.map_map, List.Nodup, List.Nodup, List.pairwise_map,
    List.pairwise_map]
  refine List.Pairwise.iff_of_mem fun {left right} isLeft isRight => not_congr ?_
  rw [← sameAs_destinationBelow_iff folder (conventional left isLeft) (conventional right isRight)]
  exact FilePath.sameAs_iff.symm

/-- **Conventional classes share a file only if they are one.** The snake case form of an
identifier that is put together from words has these words with underscores between them. So
two classes whose segments are such identifiers have the same destination exactly if they have
the same segments, in the output folder and below the folder of every group, and the plan of
any number of them is refused exactly if two of them have the same segments. -/
theorem conventional_classes_keep_apart (config : Config) :
    (∀ words : List Naming.Word,
      Naming.snakeCase (Naming.camelCase words) = Naming.underscored words) ∧
    (∀ left right, config.naming.Conventional left → config.naming.Conventional right →
      ((config.destination left).sameAs (config.destination right) = true ↔
          config.naming.segments left = config.naming.segments right) ∧
        ∀ group,
          (config.destinationBelow (config.groupFolder group) left).sameAs
              (config.destinationBelow (config.groupFolder group) right) = true ↔
            config.naming.segments left = config.naming.segments right) ∧
    ∀ folder table, (∀ entry ∈ table.toList, config.naming.Conventional entry.1) →
      ((∃ planned, config.plan folder table = .ok planned) ↔
        (table.toList.map fun entry => config.naming.segments entry.1).Nodup) := by
  refine ⟨Naming.snakeCase_camelCase, ?_, fun folder table => exists_plan_of_conventional_iff⟩
  intro left right isLeft isRight
  exact ⟨sameAs_destinationBelow_iff _ isLeft isRight,
    fun group => sameAs_destinationBelow_iff _ isLeft isRight⟩

private def wordedConfig : Config :=
  { outputFolder := .ofString "out", naming := { baseNamespace := some "App" }, groups := []
    groupLayout := .together }

private def shopWord : Naming.Word := ⟨'s', ['h', 'o', 'p'], by decide, by decide, by decide⟩

private def orderWord : Naming.Word := ⟨'o', "rder2".toList, by decide, by decide, by decide⟩

private def itemWord : Naming.Word := ⟨'i', "tem".toList, by decide, by decide, by decide⟩

private def wordedTable : ClassTable :=
  (ClassTable.empty.enter "App\\Shop\\Order2Item").enter "Shop\\Order2"

/-- An item of an order and the order itself have files of their own, and the item has the
same one with and without the base namespace. -/
theorem order_items_keep_apart :
    wordedConfig.naming.Conventional "App\\Shop\\Order2Item" ∧
      wordedConfig.naming.Conventional "Shop\\Order2Item" ∧
      (wordedConfig.destination "App\\Shop\\Order2Item").sameAs
        (wordedConfig.destination "Shop\\Order2Item") = true ∧
      (∀ entry ∈ wordedTable.toList, wordedConfig.naming.Conventional entry.1) ∧
      ∃ planned, wordedConfig.plan wordedConfig.outputFolder wordedTable = .ok planned := by
  obtain ⟨-, files, plans⟩ := conventional_classes_keep_apart wordedConfig
  have item : ∀ {className}, wordedConfig.naming.segments className = ["Shop", "Order2Item"] →
      wordedConfig.naming.Conventional className := by
    intro className segments
    rw [NamingPolicy.Conventional, segments, List.forall_mem_cons, List.forall_mem_singleton]
    exact ⟨List.cons_ne_nil _ _, ⟨[shopWord], by simp, by decide⟩,
      ⟨[orderWord, itemWord], by simp, by decide⟩⟩
  have order : wordedConfig.naming.Conventional "Shop\\Order2" := by
    have segments : wordedConfig.naming.segments "Shop\\Order2" = ["Shop", "Order2"] := by decide
    rw [NamingPolicy.Conventional, segments, List.forall_mem_cons, List.forall_mem_singleton]
    exact ⟨List.cons_ne_nil _ _, ⟨[shopWord], by simp, by decide⟩,
      ⟨[orderWord], by simp, by decide⟩⟩
  have based : wordedConfig.naming.Conventional "App\\Shop\\Order2Item" := item (by decide)
  have plain : wordedConfig.naming.Conventional "Shop\\Order2Item" := item (by decide)
  have listed : ∀ entry ∈ wordedTable.toList, wordedConfig.naming.Conventional entry.1 := by
    have entries : wordedTable.toList =
        [("App\\Shop\\Order2Item", .empty), ("Shop\\Order2", .empty)] := by decide +kernel
    rw [entries, List.forall_mem_cons, List.forall_mem_singleton]
    exact ⟨based, order⟩
  exact ⟨based, plain, (files _ _ based plain).1.mpr (by decide), listed,
    (plans _ _ listed).mpr (by decide +kernel)⟩

end EntityGen.Config
