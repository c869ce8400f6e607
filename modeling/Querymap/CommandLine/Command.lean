import Querymap.Artifact

/-! The commands and what can be asked of each. -/
namespace Querymap

/-- What generating and watching have in common. Inputs, output and factory come before those of the
configuration file. -/
structure Arguments where
  inputs : List String := []
  output : Option String := none
  exported : Bool := false
  separate : Bool := false
  factory : Option String := none
  nestedScopes : Bool := false
  verbose : Bool := false
deriving DecidableEq, Inhabited

inductive Command
  | help
  /-- Writes the typings of all inputs, or prints them. -/
  | generate (arguments : Arguments) (format : OutputFormat) (printed : Bool)
  | watch (arguments : Arguments)
  | init
deriving DecidableEq, Inhabited

def Command.helpText : String :=
  "Generate TypeScript querymaps (id, class and tag to element type) from HTML, Pug and JSX sources\n" ++
  "\n" ++
  "Usage: html-typings [COMMAND]\n" ++
  "\n" ++
  "Commands:\n" ++
  "  generate  Generate querymap declarations from HTML, Pug and JSX sources\n" ++
  "  watch     Generate, then regenerate whenever an input file changes\n" ++
  "  init      Initialize a new .htmltypingsrc.json configuration file\n" ++
  "  help      Print this message or the help of the given subcommand(s)\n" ++
  "\n" ++
  "Options:\n" ++
  "  -h, --help     Print help\n" ++
  "  -V, --version  Print version\n"

end Querymap
