import EntityGen.Fields.Collector
import EntityGen.Model.Error

/-!
Contract: why no files are generated.

Owns: the causes and their messages.

Does not own: the faults of a model, which keep their own messages inside
these.
-/

namespace EntityGen

/-- The cause for which a generation stops. -/
inductive GenerationError where
  | model (cause : Model.ModelError)
  | untypedField (className fieldName : String)
  | sharedDestination (path : FilePath) (first second : String)
  | unwritable (path : FilePath) (cause : FileError)
deriving DecidableEq, Repr

namespace GenerationError

/-- The text that a cause prints. -/
def message : GenerationError → String
  | model cause => "model parse error: " ++ cause.message
  | untypedField className fieldName =>
    "missing type for attribute '" ++ fieldName ++ "' of class '" ++ className ++ "'"
  | sharedDestination path first second =>
    "classes '" ++ first ++ "' and '" ++ second ++ "' both map to " ++ path.toString
  | unwritable path cause => "failed to write " ++ path.toString ++ ": " ++ cause.message

/-- A field without a type as the cause for which a generation stops. -/
def ofUntypedField (untyped : UntypedField) : GenerationError :=
  .untypedField untyped.className untyped.fieldName

end GenerationError
end EntityGen
