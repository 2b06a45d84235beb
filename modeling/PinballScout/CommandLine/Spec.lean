/-!
# Command-line descriptions

A program is described by its global options, which every subcommand also accepts, and its
subcommands, one of which must be given. Options take one value each (`--db <DB>` or
`--db=<DB>`), may fall back to an environment variable, and may restrict their values to a
list of choices. Subcommands take positional arguments and options of their own. Every level
accepts `-h`/`--help`; the program level also accepts `-V`/`--version` and the `help`
subcommand.

The descriptions drive parsing, help texts and error messages alike, so the three always agree.
-/

namespace PinballScout.CommandLine

/-- An option that takes one value, `--long <VALUE>`. -/
structure Opt where
  /-- The long name, without its dashes. -/
  long : String
  /-- The placeholder of the value in help texts and messages. -/
  valueName : String
  /-- One line of help. -/
  help : String
  /-- The environment variable that supplies the value when the option is not given. -/
  env : Option String
  /-- The values allowed; an empty list allows any. -/
  choices : List String
  /-- The place of the option in help listings; options of one place are sorted by name. -/
  order : Nat
  deriving Repr, DecidableEq

/-- A positional argument. -/
structure Positional where
  /-- The placeholder of the argument. -/
  valueName : String
  /-- One line of help. -/
  help : String
  /-- Whether the argument must be given. -/
  required : Bool
  deriving Repr, DecidableEq

/-- A subcommand. -/
structure Subcommand where
  name : String
  /-- One line saying what the subcommand does. -/
  about : String
  /-- Its own options, besides the global ones. -/
  options : List Opt
  /-- Its positional arguments, in order; required ones come first. -/
  positionals : List Positional
  deriving Repr

/-- A program with global options and subcommands. -/
structure Program where
  name : String
  version : String
  /-- One line saying what the program does. -/
  about : String
  /-- A longer description for `--help`; without it `--help` shows the short help. -/
  longAbout : Option String
  /-- Text shown after the listings. -/
  afterHelp : String
  /-- Options every level accepts. -/
  globals : List Opt
  commands : List Subcommand
  /-- Pairs of global options, by long name, that cannot be given together. -/
  conflicts : List (String × String)
  deriving Repr

namespace Opt

/-- How messages name an option: `--long <VALUE>`. -/
def display (o : Opt) : String := "--" ++ o.long ++ " <" ++ o.valueName ++ ">"

end Opt

namespace Positional

/-- How help names a positional argument: `<NAME>` when required, `[NAME]` otherwise. -/
def display (p : Positional) : String :=
  if p.required then "<" ++ p.valueName ++ ">" else "[" ++ p.valueName ++ "]"

/-- How usage lines and messages name a positional argument that is asked for: `<NAME>`. -/
def demand (p : Positional) : String := "<" ++ p.valueName ++ ">"

end Positional

/-- The name of the built-in subcommand that shows help. -/
def helpCommandName : String := "help"

/-- What the built-in `help` subcommand does. -/
def helpCommandAbout : String := "Print this message or the help of the given subcommand(s)"

namespace Program

/-- The subcommand of a name. -/
def command? (p : Program) (name : String) : Option Subcommand :=
  p.commands.find? (·.name == name)

/-- The names of all subcommands, the built-in `help` last. -/
def commandNames (p : Program) : List String :=
  p.commands.map (·.name) ++ [helpCommandName]

/-- Whether two options, by long name, cannot be given together. -/
def clash (p : Program) (a b : String) : Bool :=
  p.conflicts.any fun (x, y) => (x == a && y == b) || (x == b && y == a)

/-- Whether a list of names has no repeats. -/
def distinct (names : List String) : Bool := names.eraseDups.length == names.length

/-- Whether the positional arguments of a subcommand can be told apart: distinct names, and no
required one after an optional one. -/
def positionalsInOrder (ps : List Positional) : Bool :=
  distinct (ps.map (·.valueName)) && (ps.dropWhile (·.required)).all (!·.required)

/-- Whether the description is consistent: subcommand names distinct and none of them `help`;
the options of every level distinct among themselves, from the global ones and from the
built-in `help` and `version`; positional arguments in order; every option's choices distinct;
and every conflict between two different global options. -/
def consistent (p : Program) : Bool :=
  let builtIn := ["help", "version"]
  let globalLongs := p.globals.map (·.long)
  distinct p.commandNames &&
    distinct (globalLongs ++ builtIn) &&
    p.commands.all (fun c =>
      distinct (globalLongs ++ builtIn ++ c.options.map (·.long)) && positionalsInOrder c.positionals) &&
    (p.globals ++ p.commands.flatMap (·.options)).all (fun o => distinct o.choices) &&
    p.conflicts.all fun (a, b) => a != b && globalLongs.contains a && globalLongs.contains b

end Program

end PinballScout.CommandLine
