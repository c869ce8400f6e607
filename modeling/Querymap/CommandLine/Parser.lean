import Querymap.CommandLine.Command

/-! From the words of a command line to a command. A value that stands in a word of its own is taken
up when the next parameter comes or the words end, so a word that is no parameter is reported first. -/
namespace Querymap

inductive UsageError
  | unknownArgument
  | invalidValue
  | tooManyValues
  | argumentConflict
  | invalidSubcommand
  | displayHelp
  | displayVersion
deriving DecidableEq, Inhabited

def UsageError.message : UsageError → String
  | .unknownArgument => "unexpected argument found"
  | .invalidValue => "a value is missing or not possible"
  | .tooManyValues => "a value is given to an argument that takes none"
  | .argumentConflict => "an argument cannot be used multiple times"
  | .invalidSubcommand => "unrecognized subcommand"
  | .displayHelp => "help is asked for"
  | .displayVersion => "the version is asked for"

inductive Parameter
  | input
  | output
  | exported
  | separate
  | factory
  | nestedScopes
  | verbose
  | format
  | printed
  | help
  | version
deriving DecidableEq, Inhabited

namespace Parameter

def short? : Parameter → Option Char
  | .input => some 'i'
  | .output => some 'o'
  | .exported => some 'e'
  | .separate => some 's'
  | .factory => some 'j'
  | .verbose => some 'v'
  | .help => some 'h'
  | .version => some 'V'
  | .nestedScopes | .format | .printed => none

def long : Parameter → String
  | .input => "input"
  | .output => "output"
  | .exported => "export"
  | .separate => "separate"
  | .factory => "jsx-factory"
  | .nestedScopes => "nested-scopes"
  | .verbose => "verbose"
  | .format => "format"
  | .printed => "stdout"
  | .help => "help"
  | .version => "version"

def takesValue : Parameter → Bool
  | .input | .output | .factory | .format => true
  | _ => false

def ofTop : List Parameter := [.help, .version]

def ofInit : List Parameter := [.help]

def ofWatch : List Parameter :=
  [.input, .output, .exported, .separate, .factory, .nestedScopes, .verbose, .help]

def ofGenerate : List Parameter := [.format, .printed] ++ ofWatch

end Parameter

namespace CommandLine

/-- The parameters given so far, and the one whose value is still open or not yet taken up. -/
structure Reading where
  given : List (Parameter × String) := []
  pending : Option (Parameter × Option String) := none

abbrev Result := Except UsageError

namespace Reading

/-- Only inputs may be given repeatedly. -/
def record (reading : Reading) (parameter : Parameter) (value : String) : Result Reading :=
  if parameter != .input && reading.given.any (·.1 == parameter) then .error .argumentConflict
  else if parameter == .format && (OutputFormat.ofName? value).isNone then .error .invalidValue
  else .ok { reading with given := reading.given ++ [(parameter, value)] }

/-- Takes up the open parameter. -/
def settle (reading : Reading) : Result Reading :=
  match reading.pending with
  | none => .ok reading
  | some (_, none) => .error .invalidValue
  | some (parameter, some value) => ({ reading with pending := none } : Reading).record parameter value

def addValue (reading : Reading) (parameter : Parameter) (value : String) : Result Reading := do
  (← reading.settle).record parameter value

/-- A parameter whose value is the next word. -/
def await (reading : Reading) (parameter : Parameter) : Result Reading := do
  return { ← reading.settle with pending := some (parameter, none) }

def addFlag (reading : Reading) (parameter : Parameter) : Result Reading := do
  let reading ← reading.settle
  match parameter with
  | .help => throw .displayHelp
  | .version => throw .displayVersion
  | _ => reading.record parameter ""

end Reading

/-- A long name after its two hyphens; its value may follow an equals sign. -/
def readLong (known : List Parameter) (reading : Reading) (text : List Char) : Result Reading :=
  let (name, value) := text.span (· != '=')
  match known.find? (·.long.toList == name) with
  | none => .error .unknownArgument
  | some parameter =>
    match parameter.takesValue, value with
    | true, _ :: value => reading.addValue parameter (String.ofList value)
    | true, [] => reading.await parameter
    | false, _ :: _ => .error .tooManyValues
    | false, [] => reading.addFlag parameter

/-- Letters after a hyphen. What follows the letter of a parameter with a value is that value. -/
def readShort (known : List Parameter) (reading : Reading) : List Char → Result Reading
  | [] => .ok reading
  | letter :: rest =>
    match known.find? (·.short? == some letter) with
    | none => .error .unknownArgument
    | some parameter =>
      if parameter.takesValue then
        match rest with
        | [] => reading.await parameter
        | '=' :: value => reading.addValue parameter (String.ofList value)
        | value => reading.addValue parameter (String.ofList value)
      else match reading.addFlag parameter with
        | .ok reading => readShort known reading rest
        | .error error => .error error

/-- The words after the name of a command, none of which stands for itself. -/
def readWords (known : List Parameter) : List String → Reading → Result Reading
  | [], reading => reading.settle
  | word :: words, reading =>
    match word.toList with
    | ['-', '-'] => if words.isEmpty then reading.settle else .error .unknownArgument
    | '-' :: '-' :: name => do readWords known words (← readLong known reading name)
    | '-' :: letter :: letters => do
      readWords known words (← readShort known reading (letter :: letters))
    | _ =>
      match reading.pending with
      | some (parameter, none) =>
        readWords known words { reading with pending := some (parameter, some word) }
      | _ => .error .unknownArgument

namespace Reading

def value? (reading : Reading) (parameter : Parameter) : Option String :=
  (reading.given.find? (·.1 == parameter)).map (·.2)

def has (reading : Reading) (parameter : Parameter) : Bool := (reading.value? parameter).isSome

def arguments (reading : Reading) : Arguments where
  inputs := (reading.given.filter (·.1 == .input)).map (·.2)
  output := reading.value? .output
  exported := reading.has .exported
  separate := reading.has .separate
  factory := reading.value? .factory
  nestedScopes := reading.has .nestedScopes
  verbose := reading.has .verbose

end Reading

def readGenerate (words : List String) : Result Command := do
  let reading ← readWords Parameter.ofGenerate words {}
  let format := ((reading.value? .format).bind OutputFormat.ofName?).getD .declarations
  return .generate reading.arguments format (reading.has .printed)

def readWatch (words : List String) : Result Command := do
  return .watch (← readWords Parameter.ofWatch words {}).arguments

def commandNames : List String := ["generate", "watch", "init", "help"]

/-- What stands in front of a command can only be wrong or ask for help. -/
def readTop (word : String) (words : List String) : Result Command :=
  match word.toList with
  | ['-', '-'] =>
    match words with
    | [] => .ok .help
    | name :: _ =>
      .error (if commandNames.contains name then .unknownArgument else .invalidSubcommand)
  | '-' :: '-' :: name => do
    let _ ← readLong Parameter.ofTop {} name
    throw .unknownArgument
  | '-' :: letter :: letters => do
    let _ ← readShort Parameter.ofTop {} (letter :: letters)
    throw .unknownArgument
  | _ => .error .invalidSubcommand

def read : List String → Result Command
  | [] => .ok .help
  | "generate" :: words => readGenerate words
  | "watch" :: words => readWatch words
  | "init" :: words => do
    let _ ← readWords Parameter.ofInit words {}
    return .init
  | ["help"] => .error .displayHelp
  | ["help", topic] =>
    .error (if commandNames.contains topic then .displayHelp else .invalidSubcommand)
  | "help" :: _ => .error .invalidSubcommand
  | word :: words => readTop word words

end CommandLine

end Querymap
