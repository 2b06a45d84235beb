import PinballScout.CommandLine.Spec

/-!
# Help texts and usage lines

A help text is the description, a usage line, listings of subcommands, arguments and
options, and the text after them. In a listing each entry's help starts in one column, two
places after the widest entry. The long help (`--help`, when the program has a long
description) puts each option's help on its own lines, indented by ten places, with its notes
(the environment variable and its value, the choices) a paragraph below.

A usage line names the command and, for help, `[OPTIONS]` and every positional argument. In
an error message it names the options given and the positional arguments given or required.
-/

namespace PinballScout.CommandLine

/-- One entry of a listing: its left column, the width of that column, its help, and notes. -/
structure Row where
  left : String
  help : String
  notes : List String

/-- `n` spaces. -/
def spaces (n : Nat) : String := String.ofList (List.replicate n ' ')

/-- The indentation of help written below its entry. -/
def belowIndent : String := spaces 10

namespace Row

/-- The entry on one line, its help aligned for entries at most `longest` wide. -/
def short (longest : Nat) (r : Row) : String :=
  let notes := if r.notes.isEmpty then "" else " " ++ " ".intercalate r.notes
  "  " ++ r.left ++ spaces (longest + 2 - r.left.length) ++ r.help ++ notes

/-- The entry with its help on the lines below, notes a paragraph further down. -/
def long (r : Row) : String :=
  let body := r.help ++ (if r.notes.isEmpty then "" else "\n\n" ++ "\n".intercalate r.notes)
  "  " ++ r.left ++ "\n" ++ belowIndent ++ body.replace "\n" ("\n" ++ belowIndent)

end Row

/-- A listing under a heading. -/
def listing (heading : String) (long : Bool) (rows : List Row) : String :=
  let longest := rows.foldl (fun w r => max w r.left.length) 2
  let body := if long then "\n\n".intercalate (rows.map Row.long)
    else "\n".intercalate (rows.map (Row.short longest))
  heading ++ ":\n" ++ body

/-- How an environment is read: the value of a variable, if set. -/
abbrev Env := String → Option String

namespace Opt

/-- The notes of an option: its environment variable with the current value, its choices. -/
def notes (env : Env) (o : Opt) : List String :=
  let fromEnv := match o.env with
    | some name => ["[env: " ++ name ++ "=" ++ (env name).getD "" ++ "]"]
    | none => []
  let choices := if o.choices.isEmpty then [] else ["[possible values: " ++ ", ".intercalate o.choices ++ "]"]
  fromEnv ++ choices

/-- The listing entry of an option. -/
def row (env : Env) (o : Opt) : Row := ⟨"    " ++ o.display, o.help, o.notes env⟩

end Opt

/-- The entry of `-h, --help`. -/
def helpRow (text : String) : Row := ⟨"-h, --help", text, []⟩

/-- The entry of `-V, --version`. -/
def versionRow : Row := ⟨"-V, --version", "Print version", []⟩

/-- Options in listing order: by place, then by name. -/
def sortOptions (opts : List Opt) : List Opt :=
  opts.mergeSort fun a b => a.order < b.order || (a.order == b.order && decide (a.long ≤ b.long))

/-- The entry of a positional argument. -/
def Positional.row (p : Positional) : Row := ⟨p.display, p.help, []⟩

/-- The entry of a subcommand. -/
def Subcommand.row (s : Subcommand) : Row := ⟨s.name, s.about, []⟩

namespace Program

/-- The usage line of the program in its help: `name [OPTIONS] <COMMAND>`. -/
def usage (p : Program) : String := p.name ++ " [OPTIONS] <COMMAND>"

/-- The help text; `long` asks for the long help, given when the program has a long
description. -/
def help (p : Program) (env : Env) (long : Bool) : String :=
  let long := long && p.longAbout.isSome
  let about := if long then p.longAbout.getD p.about else p.about
  let helpText :=
    if p.longAbout.isNone then "Print help"
    else if long then "Print help (see a summary with '-h')"
    else "Print help (see more with '--help')"
  let commands := p.commands.map Subcommand.row ++ [⟨helpCommandName, helpCommandAbout, []⟩]
  let options := (sortOptions p.globals).map (Opt.row env) ++ [helpRow helpText, versionRow]
  about ++ "\n\nUsage: " ++ p.usage ++ "\n\n" ++ listing "Commands" false commands ++ "\n\n" ++
    listing "Options" long options ++ "\n\n" ++ p.afterHelp ++ "\n"

/-- The text of `--version`. -/
def versionText (p : Program) : String := p.name ++ " " ++ p.version ++ "\n"

/-- The usage name of a subcommand: the program's name and its own. -/
def commandName (p : Program) (s : Subcommand) : String := p.name ++ " " ++ s.name

/-- The usage line of a subcommand in its help: `[OPTIONS]` and every positional argument. -/
def commandUsage (p : Program) (s : Subcommand) : String :=
  p.commandName s ++ " [OPTIONS]" ++ String.join (s.positionals.map fun a => " " ++ a.display)

/-- The help text of a subcommand: its own options are listed with the global ones. -/
def commandHelp (p : Program) (env : Env) (s : Subcommand) : String :=
  let arguments := if s.positionals.isEmpty then []
    else [listing "Arguments" false (s.positionals.map Positional.row)]
  let options := (sortOptions (s.options ++ p.globals)).map (Opt.row env) ++ [helpRow "Print help"]
  s.about ++ "\n\nUsage: " ++ p.commandUsage s ++ "\n\n" ++
    "\n\n".intercalate (arguments ++ [listing "Options" false options]) ++ "\n"

/-- The usage line of the `help` subcommand. -/
def helpCommandUsage (p : Program) : String := p.name ++ " " ++ helpCommandName ++ " [COMMAND]..."

/-- The help text of the `help` subcommand. -/
def helpCommandHelp (p : Program) : String :=
  helpCommandAbout ++ "\n\nUsage: " ++ p.helpCommandUsage ++ "\n\n" ++
    listing "Arguments" false [⟨"[COMMAND]...", "Print help for the subcommand(s)", []⟩] ++ "\n"

end Program

/-- A usage line naming what was given: the command, the options (as messages name them), the
positional arguments given or required, and `<COMMAND>` where a subcommand is still due. -/
def focusedUsage (name : String) (options : List String) (positionals : List Positional)
    (present : Nat) (dueCommand : Bool) : String :=
  let shown := (positionals.zipIdx).filter fun (a, i) => a.required || i < present
  name ++ String.join (options.eraseDups.map (" " ++ ·)) ++
    String.join (shown.map fun (a, _) => " " ++ a.demand) ++ (if dueCommand then " <COMMAND>" else "")

end PinballScout.CommandLine
