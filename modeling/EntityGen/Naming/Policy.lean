import EntityGen.File.Path
import EntityGen.Model.Basic
import EntityGen.Naming.SnakeCase

/-!
Contract: where the file of a class lies, and how other files name it.

Owns:
- the reduced name of a class, without base namespace and removed texts;
- its namespace segments and its identifier;
- its folder, its file and its module path;
- the path by which one class file imports another.

Does not own: the output folder, the file extension, and which classes are
imported at all.
-/

namespace EntityGen

/-- How class names are reduced before they become identifiers and files. -/
structure NamingPolicy where
  /-- Removed when it is the whole first segment of a name. -/
  baseNamespace : Option String := none
  /-- Removed wherever they occur, one after the other. -/
  removedTexts : List String := []
deriving DecidableEq, Repr

namespace NamingPolicy

open EntityGen.Model (separator)

/-- A name without the separators at its start. -/
def withoutLeadingSeparators (name : List Char) : List Char :=
  name.dropWhile (· == separator)

/-- A name without its first segment, if that is the given namespace. -/
def withoutNamespace (base : Option String) (name : List Char) : List Char :=
  match base with
  | none => name
  | some first =>
    match (first.toList ++ [separator]).isPrefixOf? name with
    | some rest => rest
    | none => name

def reducedChars (policy : NamingPolicy) (className : String) : List Char :=
  let trimmed := withoutLeadingSeparators className.toList
  let based := withoutNamespace policy.baseNamespace trimmed
  let reduced := policy.removedTexts.foldl (fun name text => Text.without text.toList name) based
  withoutLeadingSeparators reduced

/-- The name of a class without base namespace, removed texts and separators at
its start. -/
def reducedName (policy : NamingPolicy) (className : String) : String :=
  String.ofList (policy.reducedChars className)

/-- The non-empty parts of a name between separators. -/
def segmentsOf (name : List Char) : List String :=
  ((Text.pieces separator name).filter (!·.isEmpty)).map String.ofList

/-- The segments of the reduced name, as written in the model. -/
def segments (policy : NamingPolicy) (className : String) : List String :=
  segmentsOf (policy.reducedChars className)

/-- The last segment, which is the identifier of the class. It is empty if the
reduced name has no segments. -/
def identifier (policy : NamingPolicy) (className : String) : String :=
  (policy.segments className).getLast?.getD ""

/-- Whether two names are the same once reduced. -/
def sameName (policy : NamingPolicy) (left right : String) : Bool :=
  policy.reducedName left == policy.reducedName right

def fileSegments (policy : NamingPolicy) (className : String) : List String :=
  (policy.segments className).map Naming.snakeCase

/-- The folder that holds the file of a class, relative to the output folder. -/
def folder (policy : NamingPolicy) (className : String) : FilePath :=
  FilePath.ofParts (policy.fileSegments className).dropLast

/-- The file of a class without its extension, relative to the output folder. -/
def file (policy : NamingPolicy) (className : String) : FilePath :=
  FilePath.ofParts (policy.fileSegments className)

/-- The file of a class as import lines write it. -/
def moduleName (policy : NamingPolicy) (className : String) : String :=
  String.ofList (Text.joined '/' ((policy.fileSegments className).map String.toList))

/-- The way from a file `depth` folders below the output folder up to that
folder. -/
def upwards : Nat → String
  | 0 => "./"
  | 1 => "../"
  | depth + 2 => "../" ++ upwards (depth + 1)

/-- The path by which the file of `source` imports the file of `target`. -/
def importPath (policy : NamingPolicy) (target source : String) : String :=
  upwards ((policy.segments source).length - 1) ++ policy.moduleName target

end NamingPolicy
end EntityGen
