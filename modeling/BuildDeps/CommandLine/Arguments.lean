/-!
The arguments of the command line.

Arguments are read from left to right, and the first one that settles the matter does: a request for
the version or for help, or a mistake.  Options may stand before and after the command; those after
it go before.  After `--` nothing is an option.

At most one settings file is given before the command and one after it, and its path is not empty.
A path in an argument of its own is checked when the options go on or end.  So a fault right before
the command shows only after the arguments of the command, which may ask for the version or for help
first.
-/

namespace BuildDeps.CommandLine

/-- What is to be done. -/
inductive Command where
  /-- Resolve the workspace described in a file. -/
  | resolve (workspace : String)
  /-- Show the artifact that provides a package. -/
  | lookup (package : String)
  /-- Show the artifacts of all packages. -/
  | dumpManifest
deriving DecidableEq, Repr, Inhabited

/-- A command with the settings file that is given for it. -/
structure Invocation where
  config : Option String
  command : Command
deriving DecidableEq, Repr, Inhabited

/-- What the arguments ask for. -/
inductive Request where
  | run (invocation : Invocation)
  /-- The version, under the name of the program or of one of its commands. -/
  | version (name : String)
  | help
  | misuse
deriving DecidableEq, Repr, Inhabited

/-- The names of the commands. -/
inductive CommandName where
  | resolve
  | lookup
  | dumpManifest
deriving DecidableEq, Repr, Inhabited

namespace CommandName

/-- The command of a written name. -/
def ofText? : String → Option CommandName
  | "resolve" => some .resolve
  | "lookup" => some .lookup
  | "dump-manifest" => some .dumpManifest
  | _ => none

/-- The name under which a command tells its version. -/
def versionName : CommandName → String
  | .resolve => "jvmdeps-resolve"
  | .lookup => "jvmdeps-lookup"
  | .dumpManifest => "jvmdeps-dump-manifest"

/-- The command with its operands.  A path is not empty. -/
def complete? : CommandName → List String → Option Command
  | .resolve, [workspace] => if workspace = "" then none else some (.resolve workspace)
  | .lookup, [package] => some (.lookup package)
  | .dumpManifest, [] => some .dumpManifest
  | _, _ => none

/-- Whether a command may begin with the given operands. -/
def admits : CommandName → List String → Bool
  | .resolve, [workspace] => workspace ≠ ""
  | .lookup, [_] => true
  | _, operands => operands.isEmpty

end CommandName

/-- What one argument is. -/
inductive Argument where
  /-- The end of the options. -/
  | endOfOptions
  /-- A settings file, as the next argument or within this one. -/
  | config (path : Option String)
  | verbose
  | version
  | help
  | unknown
  | operand (text : String)
deriving DecidableEq, Repr, Inhabited

namespace Argument

/-- What letters after one hyphen are. -/
def ofLetters : List Char → Argument
  | [] => .verbose
  | 'v' :: rest => ofLetters rest
  | 'V' :: _ => .version
  | 'h' :: _ => .help
  | _ => .unknown

/-- What an argument is where options may stand. -/
def ofText (text : String) : Argument :=
  match text.toList with
  | ['-', '-'] => .endOfOptions
  | '-' :: '-' :: name =>
    match name.span (· ≠ '=') with
    | (['c', 'o', 'n', 'f', 'i', 'g'], []) => .config none
    | (['c', 'o', 'n', 'f', 'i', 'g'], _ :: path) => .config (some (String.ofList path))
    | (['v', 'e', 'r', 'b', 'o', 's', 'e'], []) => .verbose
    | (['v', 'e', 'r', 's', 'i', 'o', 'n'], []) => .version
    | (['h', 'e', 'l', 'p'], []) => .help
    | _ => .unknown
  | ['-'] => .operand text
  | '-' :: letters => ofLetters letters
  | _ => .operand text

/-- Whether an argument is taken as the value of an option before it, good or not: it is not an
option itself. -/
def isValue (text : String) : Bool :=
  match text.toList with
  | ['-'] => true
  | '-' :: _ => false
  | _ => true

end Argument

/-- The name under which the program tells its version. -/
def programName : String := "jvmdeps"

/-- The request of a command with its operands. -/
def finish (config : Option String) (name : CommandName) (operands : List String) : Request :=
  match name.complete? operands with
  | some command => .run ⟨config, command⟩
  | none => .misuse

/-- Reads the arguments after a command.  `config` is the settings file given after the command,
and `outer` the one before it. -/
def readCommand (name : CommandName) (outer config : Option String) (operands : List String) :
    List String → Request
  | [] => finish (config.or outer) name operands
  | text :: rest =>
    match Argument.ofText text with
    | .endOfOptions => finish (config.or outer) name (operands ++ rest)
    | .config (some path) =>
      if config.isNone && path ≠ "" then readCommand name outer (some path) operands rest
      else .misuse
    | .config none =>
      match rest with
      | path :: rest =>
        if config.isNone && path ≠ "" && Argument.isValue path then
          readCommand name outer (some path) operands rest
        else .misuse
      | [] => .misuse
    | .verbose => readCommand name outer config operands rest
    | .version => .version name.versionName
    | .help => .help
    | .unknown => .misuse
    | .operand operand =>
      if name.admits (operands ++ [operand]) then
        readCommand name outer config (operands ++ [operand]) rest
      else .misuse

/-- The request for help on a command, which may be the request for help itself.  Nothing else
may be named, and no option stands here. -/
def readHelp : List String → Request
  | [] => .help
  | [topic] => if topic = "help" || (CommandName.ofText? topic).isSome then .help else .misuse
  | _ => .misuse

/-- Reads a command and the arguments after it, or a request for help by that name. -/
def readNamed (config : Option String) (operand : String) (rest : List String) : Request :=
  match CommandName.ofText? operand with
  | some name => readCommand name config none [] rest
  | none => if operand = "help" then readHelp rest else .misuse

/-- Reads what follows a settings file that is at fault: a command that asks for no more than its
version or for help gets it, and all else is a misuse. -/
def readAfterFault : List String → Request
  | [] => .misuse
  | operand :: rest =>
    match readNamed none operand rest with
    | .run _ => .misuse
    | request => request

/-- Reads the arguments up to a command, and then those after it. -/
def readArguments (config : Option String) : List String → Request
  | [] => .misuse
  | text :: rest =>
    match Argument.ofText text with
    | .endOfOptions => .misuse
    | .config (some path) =>
      if config.isNone && path ≠ "" then readArguments (some path) rest else .misuse
    | .config none =>
      match rest with
      | path :: rest =>
        if !Argument.isValue path then .misuse
        else if config.isNone && path ≠ "" then readArguments (some path) rest
        else readAfterFault rest
      | [] => .misuse
    | .verbose => readArguments config rest
    | .version => .version programName
    | .help => .help
    | .unknown => .misuse
    | .operand operand => readNamed config operand rest

/-- What the arguments of the program ask for. -/
def Request.ofArguments (arguments : List String) : Request :=
  readArguments none arguments

end BuildDeps.CommandLine
