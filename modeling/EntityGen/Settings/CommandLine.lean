import EntityGen.File.Path

/-!
Contract: the words of a command line.

Owns:
- `GenerateArguments`, what the words can ask for, and `Invocation`, a whole
  command line;
- the options, their names and the values they take;
- the order in which faults are noticed.

Does not own: the texts of help, version and faults.

A word may give an option its value only later, so an option or a row of roots
stays pending until the next option is known or the words end. Faults of a
pending option are noticed then, and not at all if the next word is unknown.
-/

namespace EntityGen.CommandLine

/-- The choices of a command line for a generation. -/
structure GenerateArguments where
  roots : List FilePath := []
  config : Option FilePath := none
  output : Option FilePath := none
  removedTexts : List String := []
  groups : List String := []
  groupsApart : Bool := false
deriving DecidableEq, Repr

/-- A command line: the level of detail, and the choices for the generation. -/
structure Invocation where
  verbose : Bool
  arguments : GenerateArguments
deriving DecidableEq, Repr

/-- Why a command line is not carried out. Help and version are asked for by
words of their own. -/
inductive ArgumentFault where
  | helpRequested
  | versionRequested
  | helpForLack
  | missingCommand
  | unknownCommand
  | unknownOption
  | badValue
  | unwantedValue
  | repeatedOption
deriving DecidableEq, Repr

/-- An option with a value. -/
inductive ValueOption where
  | config
  | output
  | removedText
  | group
deriving DecidableEq, Repr

/-- An option without a value. -/
inductive Flag where
  | groupsApart
  | verbose
  | help
  | version
deriving DecidableEq, Repr

/-- An option. -/
inductive CommandOption where
  | value (option : ValueOption)
  | flag (flag : Flag)
deriving DecidableEq, Repr

/-- A word by its form. -/
inductive Word where
  /-- Two dashes alone. -/
  | separator
  /-- Two dashes and a name, perhaps with a value after an equals sign. -/
  | long (name : String) (attached : Option String)
  /-- One dash and letters. -/
  | short (letters : List Char)
  /-- Anything else. A dash alone is one of these. -/
  | plain (text : String)
deriving DecidableEq, Repr

namespace Word

def ofString (text : String) : Word :=
  match text.toList with
  | ['-', '-'] => .separator
  | '-' :: '-' :: rest =>
    let name := rest.takeWhile (· != '=')
    match rest.drop name.length with
    | [] => .long (String.ofList name) none
    | _ :: value => .long (String.ofList name) (some (String.ofList value))
  | '-' :: c :: rest => .short (c :: rest)
  | _ => .plain text

end Word

/-- What waits for being taken: an option and its value if it has come, or a row
of roots. -/
inductive Pending where
  | option (option : ValueOption) (value : Option String)
  | roots (texts : List String)
deriving DecidableEq, Repr

/-- The words after the command so far. -/
structure ArgumentReader where
  arguments : GenerateArguments := {}
  verbose : Bool := false
  pending : Option Pending := none
  /-- Whether all further words are roots. -/
  rootsOnly : Bool := false
deriving DecidableEq, Repr

namespace ArgumentReader

/-- A path from the command line, which must not be empty. -/
def pathOf (text : String) : Except ArgumentFault FilePath :=
  if text.isEmpty then .error .badValue else .ok (.ofString text)

/-- The first value of an option that may be given once. -/
def once (earlier : Option FilePath) (text : String) :
    Except ArgumentFault (Option FilePath) :=
  if earlier.isSome then .error .repeatedOption else (pathOf text).map some

def setValue (arguments : GenerateArguments) (option : ValueOption) (text : String) :
    Except ArgumentFault GenerateArguments :=
  match option with
  | .config => do .ok { arguments with config := ← once arguments.config text }
  | .output => do .ok { arguments with output := ← once arguments.output text }
  | .removedText => .ok { arguments with removedTexts := arguments.removedTexts ++ [text] }
  | .group => .ok { arguments with groups := arguments.groups ++ [text] }

def settle (reader : ArgumentReader) : Except ArgumentFault ArgumentReader :=
  match reader.pending with
  | none => .ok reader
  | some (.option _ none) => .error .badValue
  | some (.option option (some text)) => do
    .ok { reader with
      arguments := ← setValue reader.arguments option text
      pending := none }
  | some (.roots texts) => do
    let paths ← texts.mapM pathOf
    .ok { reader with
      arguments := { reader.arguments with roots := reader.arguments.roots ++ paths }
      pending := none }

/-- The reader after a flag. Each flag may be given once. -/
def takeFlag (reader : ArgumentReader) (flag : Flag) : Except ArgumentFault ArgumentReader := do
  let settled ← reader.settle
  match flag with
  | .help => .error .helpRequested
  | .version => .error .versionRequested
  | .verbose =>
    if settled.verbose then .error .repeatedOption
    else .ok { settled with verbose := true }
  | .groupsApart =>
    if settled.arguments.groupsApart then .error .repeatedOption
    else .ok { settled with arguments := { settled.arguments with groupsApart := true } }

/-- The reader after an option and the value that is attached to it, if one
is. -/
def takeOption (reader : ArgumentReader) (option : ValueOption) (attached : Option String) :
    Except ArgumentFault ArgumentReader := do
  let settled ← reader.settle
  match attached with
  | some text => .ok { settled with arguments := ← setValue settled.arguments option text }
  | none => .ok { settled with pending := some (.option option none) }

def longOptions : List (String × CommandOption) := [
  ("config", .value .config), ("output", .value .output),
  ("strip-prefix", .value .removedText), ("group", .value .group),
  ("per-group", .flag .groupsApart), ("verbose", .flag .verbose), ("help", .flag .help)]

def shortOptions : List (Char × CommandOption) := [
  ('c', .value .config), ('o', .value .output), ('v', .flag .verbose), ('h', .flag .help)]

def takeLong (reader : ArgumentReader) (name : String) (attached : Option String) :
    Except ArgumentFault ArgumentReader :=
  match longOptions.lookup name with
  | none => .error .unknownOption
  | some (.value option) => reader.takeOption option attached
  | some (.flag flag) =>
    if attached.isSome then .error .unwantedValue else reader.takeFlag flag

/-- The value that is attached to a letter: what follows it, without an equals
sign in front. -/
def attachedValue : List Char → Option String
  | [] => none
  | '=' :: rest => some (String.ofList rest)
  | rest => some (String.ofList rest)

/-- The reader after a word with one dash. A letter that takes a value takes the
rest of the word. -/
def takeShort (reader : ArgumentReader) : List Char → Except ArgumentFault ArgumentReader
  | [] => .ok reader
  | letter :: rest =>
    match shortOptions.lookup letter with
    | none => .error .unknownOption
    | some (.value option) => reader.takeOption option (attachedValue rest)
    | some (.flag flag) => do (← reader.takeFlag flag).takeShort rest

def takeRoot (reader : ArgumentReader) (text : String) :
    Except ArgumentFault ArgumentReader :=
  match reader.pending with
  | some (.roots texts) => .ok { reader with pending := some (.roots (texts ++ [text])) }
  | _ => do .ok { ← reader.settle with pending := some (.roots [text]) }

/-- The reader after a word that is no option: the value of an option that
lacks one, or a root. -/
def takePlain (reader : ArgumentReader) (text : String) :
    Except ArgumentFault ArgumentReader :=
  match reader.pending with
  | some (.option option none) =>
    .ok { reader with pending := some (.option option (some text)) }
  | _ => reader.takeRoot text

def step (reader : ArgumentReader) (text : String) : Except ArgumentFault ArgumentReader :=
  if reader.rootsOnly then reader.takeRoot text
  else
    match Word.ofString text with
    | .separator => .ok { reader with rootsOnly := true }
    | .long name attached => reader.takeLong name attached
    | .short letters => reader.takeShort letters
    | .plain word => reader.takePlain word

/-- The command line that the words after the command make. -/
def read (verbose : Bool) (words : List String) : Except ArgumentFault Invocation := do
  let reader ← (← words.foldlM step {}).settle
  .ok { verbose := verbose || reader.verbose, arguments := reader.arguments }

end ArgumentReader

namespace Invocation

def longFlags : List (String × Flag) :=
  [("verbose", .verbose), ("help", .help), ("version", .version)]

def shortFlags : List (Char × Flag) :=
  [('v', .verbose), ('h', .help), ('V', .version)]

/-- Whether details are wanted after a flag before the command. -/
def takeFlag (verbose : Bool) : Flag → Except ArgumentFault Bool
  | .help => .error .helpRequested
  | .version => .error .versionRequested
  | .verbose => if verbose then .error .repeatedOption else .ok true
  | .groupsApart => .error .unknownOption

def takeLetters (verbose : Bool) : List Char → Except ArgumentFault Bool
  | [] => .ok verbose
  | letter :: rest =>
    match shortFlags.lookup letter with
    | none => .error .unknownOption
    | some flag => do takeLetters (← takeFlag verbose flag) rest

def takeName (verbose : Bool) (name : String) (attached : Option String) :
    Except ArgumentFault Bool :=
  match longFlags.lookup name with
  | none => .error .unknownOption
  | some flag => if attached.isSome then .error .unwantedValue else takeFlag verbose flag

/-- The outcome of asking for help about a row of commands. There are the
commands `generate` and `help`, and none below them. -/
def helpAbout : List String → ArgumentFault
  | [] | ["generate"] | ["help"] => .helpRequested
  | _ => .unknownCommand

/-- The outcome when the words end without a command. -/
def lack (verbose : Bool) : ArgumentFault :=
  if verbose then .missingCommand else .helpForLack

/-- The outcome after two dashes in front of the command, which end the options
without leaving room for a command. -/
def afterSeparator (verbose : Bool) : List String → ArgumentFault
  | [] => lack verbose
  | text :: _ =>
    if text = "generate" ∨ text = "help" then .unknownOption else .unknownCommand

/-- The command line that the given words make, after flags that asked for
details or did not. -/
def readFrom (verbose : Bool) : List String → Except ArgumentFault Invocation
  | [] => .error (lack verbose)
  | text :: rest =>
    match Word.ofString text with
    | .separator => .error (afterSeparator verbose rest)
    | .long name attached => do readFrom (← takeName verbose name attached) rest
    | .short letters => do readFrom (← takeLetters verbose letters) rest
    | .plain word =>
      if word = "generate" then ArgumentReader.read verbose rest
      else if word = "help" then .error (helpAbout rest)
      else .error .unknownCommand

/-- The command line of the given words, the first of which is the name of the
program. -/
def ofWords (words : List String) : Except ArgumentFault Invocation :=
  readFrom false (words.drop 1)

end Invocation
end EntityGen.CommandLine
