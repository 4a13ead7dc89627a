import EntityGen.Proofs.Generation.Collision

/-!
Contract: the file of a class and the file to which imports of it point.

Owns:
- `moduleFile`, the module path of a class with the extension, below the output folder;
- the classes whose file it is;
- which tables are refused, by the names and by the module paths of their classes.

Does not own: the text of import lines, and destinations in the folder of a group.

The module path is written as a text and the destination is put together as a path. The two
agree in all names but the last: there the extension takes the place of what stands behind
the last dot, while the module path keeps it.
-/

namespace EntityGen

/-! ## Undotted classes -/

namespace NamingPolicy

variable {policy : NamingPolicy} {className : String}

/-- A class with no dot in its identifier, except at the start of it. -/
def Undotted (policy : NamingPolicy) (className : String) : Prop :=
  '.' ∉ (policy.identifier className).toList.tail

instance (policy : NamingPolicy) (className : String) :
    Decidable (policy.Undotted className) :=
  inferInstanceAs (Decidable ('.' ∉ (policy.identifier className).toList.tail))

/-- The file name of a class is its own stem exactly if the class is undotted. -/
theorem splitName_snakeCase_identifier_iff :
    (FilePath.splitName (Naming.snakeCase (policy.identifier className))).1 =
        Naming.snakeCase (policy.identifier className) ↔ policy.Undotted className := by
  have sameDots : '.' ∈ (Naming.snakeCase (policy.identifier className)).toList.tail ↔
      '.' ∈ (policy.identifier className).toList.tail :=
    Naming.mem_tail_snakeCase_iff (by decide) (by decide) (by decide)
  rw [FilePath.splitName_fst_eq_self_iff, Undotted, sameDots]

end NamingPolicy

namespace Config

variable {config : Config}

/-! ## Module paths -/

/-- The names below the output folder of the file to which imports of a class point. -/
def namesOfModule (segments : List String) : List String :=
  segments.dropLast ++ [segments.getLast?.getD "" ++ "." ++ TypeScript.fileExtension]

/-- The file to which imports of a class point, below the output folder. -/
def moduleFile (config : Config) (className : String) : FilePath :=
  config.outputFolder.join
    (.ofString (config.naming.moduleName className ++ "." ++ TypeScript.fileExtension))

theorem namesOfModule_ne_nil (segments : List String) : namesOfModule segments ≠ [] :=
  List.append_ne_nil_of_right_ne_nil _ (List.cons_ne_nil _ _)

theorem namesOfModule_concat (folders : List String) (name : String) :
    namesOfModule (folders ++ [name]) = folders ++ [name ++ "." ++ TypeScript.fileExtension] := by
  simp [namesOfModule]

/-- The module path of a storable class, with the extension, has its segments as pieces. -/
theorem ofString_moduleName_extended {className : String}
    (storable : config.naming.Storable className) :
    FilePath.ofString (config.naming.moduleName className ++ "." ++ TypeScript.fileExtension) =
      ⟨namesOfModule (config.naming.fileSegments className)⟩ := by
  obtain ⟨folders, split⟩ := NamingPolicy.exists_fileSegments_concat storable
  have free := NamingPolicy.slash_not_mem_fileSegment storable
  generalize Naming.snakeCase (config.naming.identifier className) = name at split
  rw [split, List.forall_mem_append, List.forall_mem_singleton] at free
  have written :
      (config.naming.moduleName className ++ "." ++ TypeScript.fileExtension).toList =
        Text.joined '/' ((namesOfModule (folders ++ [name])).map String.toList) := by
    rw [namesOfModule_concat, NamingPolicy.moduleName, split, List.map_append, List.map_append,
      List.map_singleton, List.map_singleton, String.append_assoc, String.append_assoc,
      String.toList_append (s := name), Text.joined_concat_append, String.toList_append,
      String.toList_ofList]
  have noSlash : ∀ part ∈ (namesOfModule (folders ++ [name])).map String.toList, '/' ∉ part := by
    intro part member
    obtain ⟨written, isName, rfl⟩ := List.mem_map.mp member
    rw [namesOfModule_concat, List.mem_append, List.mem_singleton] at isName
    rcases isName with inFolders | rfl
    · exact free.1 written inFolders
    · have inExtension : '/' ∉ TypeScript.fileExtension.toList := by decide
      simp [free.2, inExtension]
  have nonempty : (namesOfModule (folders ++ [name])).map String.toList ≠ [] := by
    simp [namesOfModule]
  rw [FilePath.ofString, written, Text.pieces_joined nonempty noSlash, split, List.map_map]
  simp

theorem moduleFile_eq {className : String} (storable : config.naming.Storable className) :
    config.moduleFile className =
      config.outputFolder.join ⟨namesOfModule (config.naming.fileSegments className)⟩ := by
  rw [moduleFile, ofString_moduleName_extended storable]

/-- The file and the module path of a class are the same names exactly if it is
undotted. -/
theorem namesOfFile_eq_namesOfModule_iff {className : String}
    (storable : config.naming.Storable className) :
    namesOfFile (config.naming.fileSegments className) =
        namesOfModule (config.naming.fileSegments className) ↔
      config.naming.Undotted className := by
  obtain ⟨folders, split⟩ := NamingPolicy.exists_fileSegments_concat storable
  rw [split, namesOfFile_concat, namesOfModule_concat, List.append_right_inj,
    List.singleton_inj, String.append_left_inj, String.append_left_inj]
  exact NamingPolicy.splitName_snakeCase_identifier_iff

theorem isName_of_mem_namesOfModule {className : String}
    (storable : config.naming.Storable className) :
    ∀ name ∈ namesOfModule (config.naming.fileSegments className), FilePath.IsName name := by
  obtain ⟨folders, split⟩ := NamingPolicy.exists_fileSegments_concat storable
  have areNames := NamingPolicy.isName_fileSegment storable
  rw [split] at areNames ⊢
  rw [namesOfModule_concat, List.forall_mem_append, List.forall_mem_singleton]
  rw [List.forall_mem_append] at areNames
  refine ⟨areNames.1, FilePath.isName_of_length ?_⟩
  have extension : TypeScript.fileExtension.length = 2 := rfl
  have dot : ".".length = 1 := rfl
  rw [String.length_append, String.length_append, extension, dot]
  omega

/-! ## Refused tables -/

theorem unwritable_of_write {planned : List PlannedFile} {session stopped : Session}
    {cause : GenerationError} (failed : config.write planned session = (.error cause, stopped)) :
    ∃ place fault, cause = .unwritable place fault := by
  unfold write at failed
  dsimp only at failed
  split at failed
  · obtain ⟨sameCause, -⟩ := Prod.mk.inj failed
    exact ⟨_, _, (Except.error.inj sameCause).symm⟩
  · split at failed
    · next notWritten =>
        obtain ⟨sameCause, -⟩ := Prod.mk.inj failed
        obtain rfl := Except.error.inj sameCause
        exact (writeFiles_error notWritten).1
    · cases failed

/-- A table is refused exactly if its classes have no destinations of their own. -/
theorem writeTable_refuses_iff (table : ClassTable) (session : Session) :
    (∃ path first second,
        (config.writeTable table session).1 = .error (.sharedDestination path first second)) ↔
      ¬ OwnDestinations (table.toList.map (config.plannedFile config.outputFolder)) := by
  rw [writeTable_eq]
  cases isPlan : config.plan config.outputFolder table with
  | error cause =>
      have shared := plan_eq_error_iff.mp isPlan
      refine iff_of_true ?_ shared.not_ownDestinations
      obtain ⟨-, late, -, owner, -, -, -, rfl⟩ := shared
      exact ⟨_, _, _, rfl⟩
  | ok planned =>
      obtain ⟨rfl, own⟩ := plan_eq_ok_iff.mp isPlan
      refine iff_of_false ?_ (not_not_intro own)
      rintro ⟨path, first, second, refused⟩
      obtain ⟨place, fault, impossible⟩ := unwritable_of_write (Prod.ext refused rfl)
      cases impossible

theorem ownDestinations_storable_iff {table : ClassTable}
    (storable : ∀ entry ∈ table.toList, config.naming.Storable entry.1) :
    OwnDestinations (table.toList.map (config.plannedFile config.outputFolder)) ↔
      (table.toList.map fun entry =>
        namesOfFile (config.naming.fileSegments entry.1)).Nodup := by
  rw [OwnDestinations, List.map_map, List.Nodup, List.Nodup, List.pairwise_map, List.pairwise_map]
  refine List.Pairwise.iff_of_mem fun {left right} isLeft isRight => not_congr ?_
  have leftStorable := storable left isLeft
  have rightStorable := storable right isRight
  show (config.destinationBelow _ left.1).components =
    (config.destinationBelow _ right.1).components ↔ _
  rw [← FilePath.sameAs_iff, destinationBelow_eq _ leftStorable,
    destinationBelow_eq _ rightStorable]
  exact FilePath.sameAs_join_names_iff (namesOfFile_ne_nil _) (namesOfFile_ne_nil _)
    (isName_of_mem_namesOfFile (NamingPolicy.isName_fileSegment leftStorable))
    (isName_of_mem_namesOfFile (NamingPolicy.isName_fileSegment rightStorable))

theorem namesOfModule_eq_iff {left right : List String} (leftNonempty : left ≠ [])
    (rightNonempty : right ≠ []) : namesOfModule left = namesOfModule right ↔ left = right := by
  obtain ⟨outer, name, rfl⟩ := List.eq_nil_or_concat' left |>.resolve_left leftNonempty
  obtain ⟨others, other, rfl⟩ := List.eq_nil_or_concat' right |>.resolve_left rightNonempty
  rw [namesOfModule_concat, namesOfModule_concat]
  constructor
  · intro same
    obtain ⟨rfl, sameLast⟩ := List.append_inj' same rfl
    rw [List.singleton_inj, String.append_left_inj, String.append_left_inj] at sameLast
    rw [sameLast]
  · intro same
    obtain ⟨rfl, sameLast⟩ := List.append_inj' same rfl
    rw [List.singleton_inj.mp sameLast]

/-- The file of an undotted class keeps all its segments. -/
theorem namesOfFile_fileSegments_eq_iff {left right : String}
    (leftStorable : config.naming.Storable left) (rightStorable : config.naming.Storable right)
    (leftUndotted : config.naming.Undotted left) (rightUndotted : config.naming.Undotted right) :
    namesOfFile (config.naming.fileSegments left) = namesOfFile (config.naming.fileSegments right) ↔
      config.naming.fileSegments left = config.naming.fileSegments right := by
  rw [(namesOfFile_eq_namesOfModule_iff leftStorable).mpr leftUndotted,
    (namesOfFile_eq_namesOfModule_iff rightStorable).mpr rightUndotted]
  exact namesOfModule_eq_iff (NamingPolicy.fileSegments_ne_nil leftStorable)
    (NamingPolicy.fileSegments_ne_nil rightStorable)

/-- Undotted classes have files of their own exactly if they have module paths of their own. -/
theorem nodup_namesOfFile_iff_of_undotted {table : ClassTable}
    (storable : ∀ entry ∈ table.toList, config.naming.Storable entry.1)
    (undotted : ∀ entry ∈ table.toList, config.naming.Undotted entry.1) :
    (table.toList.map fun entry => namesOfFile (config.naming.fileSegments entry.1)).Nodup ↔
      (table.toList.map fun entry => config.naming.moduleName entry.1).Nodup := by
  rw [List.Nodup, List.Nodup, List.pairwise_map, List.pairwise_map]
  refine List.Pairwise.iff_of_mem fun {left right} isLeft isRight => not_congr ?_
  have leftStorable := storable left isLeft
  have rightStorable := storable right isRight
  rw [namesOfFile_fileSegments_eq_iff leftStorable rightStorable (undotted left isLeft)
      (undotted right isRight), NamingPolicy.moduleName_eq_iff leftStorable rightStorable]

/-- **What a file keeps of the module path of its class.** The file of a storable class lies
below the output folder along the segments of its module path, and the last of them takes the
extension in place of all behind its last dot. So the file is the one to which imports of the
class point exactly if the identifier has no dot behind its first sign, and a table of such
classes is refused exactly if two of them have the same module path. Any other table is
refused exactly if two of its classes differ in nothing but what is lost. -/
theorem destination_keeps_module_path (config : Config) :
    (∀ className, config.naming.Storable className →
      config.destination className =
          config.outputFolder.join ⟨namesOfFile (config.naming.fileSegments className)⟩ ∧
        (config.naming.Undotted className →
          config.destination className = config.moduleFile className) ∧
        ((config.destination className).sameAs (config.moduleFile className) = true →
          config.naming.Undotted className)) ∧
    ∀ (table : ClassTable) (session : Session),
      (∀ entry ∈ table.toList, config.naming.Storable entry.1) →
      let refused := ∃ path first second,
        (config.writeTable table session).1 = .error (.sharedDestination path first second)
      (refused ↔ ¬ (table.toList.map fun entry =>
          namesOfFile (config.naming.fileSegments entry.1)).Nodup) ∧
        ((∀ entry ∈ table.toList, config.naming.Undotted entry.1) →
          (refused ↔
            ¬ (table.toList.map fun entry => config.naming.moduleName entry.1).Nodup)) := by
  constructor
  · intro className storable
    have areNames := NamingPolicy.isName_fileSegment storable
    have below := destinationBelow_eq config.outputFolder storable
    refine ⟨below, fun undotted => ?_, fun same => ?_⟩
    · rw [destination, below, moduleFile_eq storable,
        (namesOfFile_eq_namesOfModule_iff storable).mpr undotted]
    · rw [destination, below, moduleFile_eq storable, FilePath.sameAs_join_names_iff
        (namesOfFile_ne_nil _) (namesOfModule_ne_nil _)
        (isName_of_mem_namesOfFile areNames) (isName_of_mem_namesOfModule storable)] at same
      exact (namesOfFile_eq_namesOfModule_iff storable).mp same
  · intro table session storable
    have refuses := (writeTable_refuses_iff table session).trans
      (not_congr (ownDestinations_storable_iff storable))
    exact ⟨refuses, fun undotted =>
      refuses.trans (not_congr (nodup_namesOfFile_iff_of_undotted storable undotted))⟩

private def flatConfig : Config :=
  { outputFolder := .ofString "out", naming := {}, groups := [], groupLayout := .together }

private def userTable : ClassTable :=
  (ClassTable.empty.enter "v1.0\\UserAPI").enter "v1.0\\UserApi"

/-- A dot in a namespace stays in the file, and two identifiers that become the same one
are refused. -/
theorem userApi_is_refused :
    flatConfig.destination "v1.0\\UserAPI" = .ofString "out/v1.0/user_api.ts" ∧
      ∃ path first second, (flatConfig.writeTable userTable {}).1 =
        .error (.sharedDestination path first second) := by
  have law := destination_keeps_module_path flatConfig
  have storable : ∀ entry ∈ userTable.toList, flatConfig.naming.Storable entry.1 := by
    decide +kernel
  have undotted : ∀ entry ∈ userTable.toList, flatConfig.naming.Undotted entry.1 := by
    decide +kernel
  constructor
  · exact ((law.1 _ (storable _ (List.mem_cons_self ..))).2.1
      (undotted _ (List.mem_cons_self ..))).trans (by decide +kernel)
  · exact ((law.2 userTable {} storable).2 undotted).mpr (by decide +kernel)

private def dottedTable : ClassTable := (ClassTable.empty.enter "Foo.Bar").enter "Foo.Baz"

/-- The file of a dotted class loses its last part, so two classes with module paths of
their own share a file that is the module of neither, and are refused. -/
theorem dotted_classes_share_file :
    (∀ entry ∈ dottedTable.toList, flatConfig.naming.Storable entry.1) ∧
      flatConfig.naming.moduleName "Foo.Bar" = "foo.bar" ∧
      flatConfig.naming.moduleName "Foo.Baz" = "foo.baz" ∧
      flatConfig.destination "Foo.Bar" = .ofString "out/foo.ts" ∧
      (flatConfig.destination "Foo.Bar").sameAs (flatConfig.moduleFile "Foo.Bar") = false ∧
      (flatConfig.writeTable dottedTable {}).1 =
        .error (.sharedDestination (.ofString "out/foo.ts") "Foo.Bar" "Foo.Baz") := by
  decide +kernel

end Config
end EntityGen
