import EntityGen.Proofs.Generation.Again
import EntityGen.Proofs.Generation.Plan
import EntityGen.Proofs.Model.Files

/-!
Contract: a run that is repeated.

Owns:
- what writing leaves of the files that a model is read from;
- a second run over the tree that a first one left.

Does not own: the steps of writing, and what is read from a file.

A second run reads a tree that the first one changed. It reads the same model
because the first run has made directories and files with the extension of its
output only, whatever the classes and groups are called.
-/

namespace EntityGen

section Keeping

variable {extension : String}

end Keeping

namespace Config

variable {config : Config} {planned : List PlannedFile} {session after : Session}

end Config

/-! ## Repeated runs -/

/-- Every root of the source that is not a directory has the extension of models. -/
def ModelSource.NamesModels (tree : FileTree) : ModelSource → Prop
  | .stored roots => ∀ root ∈ roots, tree.isDirectory root = false →
      root.extension? = some Model.modelSuffix
  | .given _ | .refused _ => True

theorem KeepsModels.read {before after : FileTree} {source : ModelSource}
    {classes : List Model.ClassDecl} {extension : String}
    (kept : KeepsModels extension before after) (isForeign : ForeignExtension extension)
    (named : source.NamesModels before) (read : source.read before = .ok classes) :
    source.read after = .ok classes := by
  unfold ModelSource.read at read ⊢
  cases source with
  | given listed => exact read
  | refused cause => cases read
  | stored roots =>
      have filesRead : Model.readFiles before roots =
          (.ok classes, (Model.readFiles before roots).2) :=
        Prod.ext (Result.mapError_eq_ok_iff.mp read) rfl
      show (Model.readFiles after roots).1.mapError GenerationError.model = .ok classes
      rw [kept.readFiles isForeign named filesRead]
      rfl

end EntityGen
