/-!
Contract: why a file operation fails.

Owns: the causes and their messages.

Does not own: when each cause arises.
-/

namespace EntityGen

/-- The cause of a failed file operation. -/
inductive FileError where
  | notFound
  | alreadyExists
  | notDirectory
  | isDirectory
  | nameTooLong
  | containsNul
  | notText
  | other (text : String)
deriving DecidableEq, Repr

/-- The message of the operating system, with its number where it has one. -/
def FileError.message : FileError → String
  | notFound => "No such file or directory (os error 2)"
  | alreadyExists => "File exists (os error 17)"
  | notDirectory => "Not a directory (os error 20)"
  | isDirectory => "Is a directory (os error 21)"
  | nameTooLong => "File name too long (os error 36)"
  | containsNul => "file name contained an unexpected NUL byte"
  | notText => "stream did not contain valid UTF-8"
  | other text => text

end EntityGen
