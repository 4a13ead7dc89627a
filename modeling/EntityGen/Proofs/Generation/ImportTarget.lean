import EntityGen.Generation.Session
import EntityGen.Proofs.Generation.Plan
import EntityGen.Proofs.TypeScript.PlainImport
import Mathlib.Data.List.Induction

/-!
Contract: every import of a written file leads to the file of its class.

Owns:
- `followImport`, where an import path leads from a folder;
- the tables that were written, each with its folder;
- import paths against destinations.

Does not own: which references are imported, and the texts of the files.

An import path is made from the number of segments of its source, a destination
from the segments joined to a folder and an extension. Both are compared name by
name; the folder itself may be any path, since no import climbs out of it.
-/

namespace EntityGen

/-! ## Following an import -/

/-- The place reached from a folder by one step of an import path. -/
def Component.enter (folder : List Component) : Component → List Component
  | .root => [.root]
  | .current => folder
  | .parent => folder.dropLast
  | .name text => folder ++ [.name text]

/-- The place to which an import path leads from a folder: `..` removes a folder
and `.` none. -/
def followImport (folder : List Component) (path : String) : List Component :=
  (FilePath.ofString path).components.foldl Component.enter folder

theorem foldl_enter_names (place : List Component) (names : List String) :
    (names.map Component.name).foldl Component.enter place = place ++ names.map .name := by
  induction names generalizing place with
  | nil => simp
  | cons first others inductionHypothesis =>
      rw [List.map_cons, List.foldl_cons, inductionHypothesis, Component.enter, List.append_assoc,
        List.singleton_append]

theorem foldl_enter_parents (place folders : List Component) :
    (List.replicate folders.length Component.parent).foldl Component.enter (place ++ folders) =
      place := by
  induction folders using List.reverseRecOn with
  | nil => simp
  | append_singleton others last inductionHypothesis =>
      rw [List.length_append, List.length_singleton, List.replicate_succ, List.foldl_cons,
        Component.enter, ← List.append_assoc, List.dropLast_concat]
      exact inductionHypothesis

/-- The way up leads out of as many folders as it was made for. -/
theorem foldl_enter_upwardPieces (place folders : List Component) {names : List String}
    (areNames : ∀ name ∈ names, FilePath.IsName name) :
    (FilePath.components
        ⟨NamingPolicy.upwardPieces folders.length ++ names⟩).foldl Component.enter
          (place ++ folders) =
      place ++ names.map .name := by
  rw [FilePath.components, List.filterMap_append,
    FilePath.filterMap_ofPiece?_of_isName areNames]
  cases depth : folders.length with
  | zero =>
      -- No folder to leave is written as a step to the current directory.
      obtain rfl := List.length_eq_zero_iff.mp depth
      rw [NamingPolicy.upwardPieces, List.singleton_append, FilePath.start_cons]
      simp [Component.ofPiece?, Component.enter, foldl_enter_names]
  | succ deeper =>
      have parents : (NamingPolicy.upwardPieces (deeper + 1)).filterMap Component.ofPiece? =
          List.replicate folders.length Component.parent := by
        rw [depth]
        exact List.filterMap_replicate_of_some rfl
      have start : FilePath.start ⟨NamingPolicy.upwardPieces (deeper + 1) ++ names⟩ = [] := by
        rw [NamingPolicy.upwardPieces, List.replicate_succ, List.cons_append, FilePath.start_cons]
        rfl
      rw [start, parents, List.nil_append, List.foldl_append, foldl_enter_parents,
        foldl_enter_names]

/-! ## Written tables -/

/-- The tables that a writing step wrote without failure, each with the folder
below which its files lie. -/
inductive Config.Emitted (config : Config) : FilePath → ClassTable → Prop
  | together {table : ClassTable} {session : Session} {report : Report} :
      (config.writeTable table session).1 = .ok report →
        Emitted config config.outputFolder table
  | apart {tables : List (String × ClassTable)} {group : String} {table : ClassTable}
      {session : Session} {report : Report} :
      (config.writeTables tables session).1 = .ok report → (group, table) ∈ tables →
        Emitted config (config.groupFolder group) table

theorem Config.Emitted.exists_plan {config : Config} {folder : FilePath} {table : ClassTable}
    (emitted : config.Emitted folder table) :
    ∃ planned, config.plan folder table = .ok planned := by
  cases emitted with
  | together written =>
      rw [writeTable] at written
      split at written
      · cases written
      · next planned isPlanned => exact ⟨planned, isPlanned⟩
  | apart written member =>
      rw [writeTables] at written
      split at written
      · cases written
      · next planned isPlanned => exact exists_plan_of_planGroups isPlanned member

/-! ## Import paths and destinations -/

/-- From the folder of its source, an import path leads to the destination of its
target, but for the extension. -/
theorem exists_followImport_eq {config : Config} {folder : FilePath} {source target : String}
    (plainSource : config.naming.Plain source) (plainTarget : config.naming.Plain target) :
    ∃ place name,
      followImport (config.destinationBelow folder source).components.dropLast
          (config.naming.importPath target source) = place ++ [.name name] ∧
        (config.destinationBelow folder target).components =
          place ++ [.name (name ++ "." ++ TypeScript.fileExtension)] := by
  obtain ⟨sourceFolders, sourceName, sourceSplit, sourcePlace⟩ :=
    Config.exists_components_destinationBelow folder plainSource
  obtain ⟨folders, name, split, targetPlace⟩ :=
    Config.exists_components_destinationBelow folder plainTarget
  refine ⟨folder.components ++ folders.map .name, name, ?_, targetPlace⟩
  have depth : (config.naming.segments source).length - 1 =
      (sourceFolders.map Component.name).length := by
    have lengths := congrArg List.length sourceSplit
    rw [NamingPolicy.fileSegments, List.length_map, List.length_append,
      List.length_singleton] at lengths
    rw [lengths, List.length_map, Nat.add_sub_cancel]
  rw [followImport, NamingPolicy.ofString_importPath plainTarget, sourcePlace,
    List.dropLast_concat, depth,
    foldl_enter_upwardPieces _ _ (NamingPolicy.isName_fileSegment plainTarget.storable),
    split, List.map_append, List.append_assoc]
  rfl

/-- **Imports lead to the files of their classes.** In a table that was written,
and whose classes are plain, a reference to a class of the table that does not go
without import has its import; the path of that import leads from the folder of
the source to the destination of the class, but for the extension; no other class
of the table has that destination, and the source least of all. -/
theorem Config.Emitted.imports_lead_to_files {config : Config} {folder : FilePath}
    {table : ClassTable} (emitted : config.Emitted folder table)
    (plain : ∀ entry ∈ table.toList, config.naming.Plain entry.1)
    {source target : String × FieldTable} (isSource : source ∈ table.toList)
    (isTarget : target ∈ table.toList) {field : Field} (isField : field ∈ source.2.toList)
    {reference : String} (refers : field.type.element = .object reference)
    (same : config.naming.sameName reference target.1 = true)
    (needed : TypeScript.needsNoImport config.naming source.1 reference = false) :
    TypeScript.importOf config.naming source.1 reference ∈
        TypeScript.imports config.naming source.1 source.2 ∧
      (∃ place name,
        followImport (config.destinationBelow folder source.1).components.dropLast
            (TypeScript.importOf config.naming source.1 reference).path =
              place ++ [.name name] ∧
          (config.destinationBelow folder target.1).components =
            place ++ [.name (name ++ "." ++ TypeScript.fileExtension)]) ∧
      (∀ other ∈ table.toList,
        (config.destinationBelow folder other.1).sameAs
          (config.destinationBelow folder target.1) = true → other = target) ∧
      (config.destinationBelow folder source.1).sameAs
        (config.destinationBelow folder target.1) = false := by
  obtain ⟨planned, isPlanned⟩ := emitted.exists_plan
  have plainTarget := plain target isTarget
  have plainReference := NamingPolicy.plain_of_sameName same plainTarget
  refine ⟨TypeScript.importOf_mem_imports plainReference isField refers needed, ?_, ?_, ?_⟩
  · rw [TypeScript.importOf, NamingPolicy.importPath_eq_of_sameName same]
    exact exists_followImport_eq (plain source isSource) plainTarget
  · intro other isOther shared
    exact eq_of_sameAs isPlanned isOther isTarget shared
  · apply eq_false_of_ne_true
    intro shared
    obtain rfl := eq_of_sameAs isPlanned isSource isTarget shared
    rw [TypeScript.needsNoImport, same, Bool.or_true] at needed
    cases needed

/-! ### A table of two depths -/

private def shopConfig : Config :=
  { outputFolder := .ofString "out/.."
    naming := { baseNamespace := some "App" }
    groups := []
    groupLayout := .apart }

private def orderClass : String × FieldTable :=
  ("App\\Shop\\Sale\\Order", ⟨[⟨"buyer", { element := .object "\\App\\CRM\\Person" }⟩]⟩)

private def personClass : String × FieldTable := ("App\\CRM\\Person", .empty)

private def shopTable : ClassTable := { classes := #[orderClass, personClass] }

private def shopFolder : FilePath := shopConfig.groupFolder "web"

private theorem shopTable_emitted : shopConfig.Emitted shopFolder shopTable := by
  have written : (shopConfig.writeTables [("web", shopTable)] {}).1 =
      .ok ⟨[shopConfig.destinationBelow shopFolder orderClass.1,
        shopConfig.destinationBelow shopFolder personClass.1]⟩ := by
    decide +kernel
  exact .apart written (List.mem_singleton_self _)

/-- Below the folder of a group, an order two folders deep imports a person one
folder deep. -/
theorem order_import_leads_to_person :
    shopConfig.Emitted shopFolder shopTable ∧
      (∀ entry ∈ shopTable.toList, shopConfig.naming.Plain entry.1) ∧
      shopConfig.naming.sameName "\\App\\CRM\\Person" personClass.1 = true ∧
      TypeScript.needsNoImport shopConfig.naming orderClass.1 "\\App\\CRM\\Person" = false ∧
      TypeScript.importOf shopConfig.naming orderClass.1 "\\App\\CRM\\Person" ∈
        TypeScript.imports shopConfig.naming orderClass.1 orderClass.2 ∧
      (∃ place name,
        followImport (shopConfig.destinationBelow shopFolder orderClass.1).components.dropLast
            (TypeScript.importOf shopConfig.naming orderClass.1 "\\App\\CRM\\Person").path =
              place ++ [.name name] ∧
          (shopConfig.destinationBelow shopFolder personClass.1).components =
            place ++ [.name (name ++ "." ++ TypeScript.fileExtension)]) ∧
      (∀ other ∈ shopTable.toList,
        (shopConfig.destinationBelow shopFolder other.1).sameAs
          (shopConfig.destinationBelow shopFolder personClass.1) = true → other = personClass) ∧
      (shopConfig.destinationBelow shopFolder orderClass.1).sameAs
        (shopConfig.destinationBelow shopFolder personClass.1) = false := by
  have plain : ∀ entry ∈ shopTable.toList, shopConfig.naming.Plain entry.1 := by
    decide +kernel
  have same : shopConfig.naming.sameName "\\App\\CRM\\Person" personClass.1 = true := by
    decide +kernel
  have needed : TypeScript.needsNoImport shopConfig.naming orderClass.1
      "\\App\\CRM\\Person" = false := by
    decide +kernel
  exact ⟨shopTable_emitted, plain, same, needed,
    Config.Emitted.imports_lead_to_files shopTable_emitted plain (List.mem_cons_self ..)
      (List.mem_cons_of_mem _ (List.mem_cons_self ..)) (List.mem_singleton_self _) rfl same
      needed⟩

end EntityGen
