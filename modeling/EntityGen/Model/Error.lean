import EntityGen.File.Error
import EntityGen.File.Path
import EntityGen.Markup.Error

/-!
Contract: why a model cannot be read.

Owns: the causes and their messages.

Does not own: the faults of XML text and of file operations, which keep their
own messages inside these.
-/

namespace EntityGen.Model

/-- The cause for which a model is refused. -/
inductive ModelError where
  | markup (fault : Markup.MarkupError)
  | tagAttribute (fault : Markup.AttributeError)
  | lacksAttribute (element key : String)
  | badAttribute (element key value : String)
  | doubleType (className property : String)
  | strangeElement (element context : String)
  | declaredTwice (kind name : String)
  | noModelElement
  | unterminatedClass (className : String)
  | unreadable (cause : FileError)
  | within (path : FilePath) (cause : ModelError)
deriving DecidableEq, Repr

/-- The text that a cause prints. -/
def ModelError.message : ModelError → String
  | markup fault => "XML parsing error: " ++ fault.message
  | tagAttribute fault => "attribute error: " ++ fault.message
  | lacksAttribute element key =>
    "missing required attribute '" ++ key ++ "' on element '" ++ element ++ "'"
  | badAttribute element key value =>
    "invalid value '" ++ value ++ "' for attribute '" ++ key ++ "' on element '" ++
      element ++ "'"
  | doubleType className property =>
    "property '" ++ property ++ "' of class '" ++ className ++
      "' declares both 'type' and 'ref'"
  | strangeElement element context =>
    "unknown element '" ++ element ++ "' in context '" ++ context ++ "'"
  | declaredTwice kind name => "duplicate " ++ kind ++ " definition: '" ++ name ++ "'"
  | noModelElement => "invalid model structure: No model element found"
  | unterminatedClass className =>
    "invalid model structure: unterminated class '" ++ className ++ "'"
  | unreadable cause => "IO error: " ++ cause.message
  | within path cause => path.toString ++ ": " ++ cause.message

end EntityGen.Model
