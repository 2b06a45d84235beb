import PinballScout.CommandLine.Help

/-!
# Command-line errors

What can be wrong with a command line, and its message: `error: ` and the fault, then tips
(similar known words, how to pass a word as a value), then a usage line, and last the pointer
to `--help`.
-/

namespace PinballScout.CommandLine

/-- A fault of a command line. -/
inductive Complaint where
  /-- A word where a subcommand belongs names none; `similar` are look-alike subcommands. -/
  | unknownCommand (word : String) (similar : List String) (program : String) (usage : String)
  /-- An argument that nothing accepts, with tips. -/
  | unexpected (arg : String) (similar : Option String) (tips : List String) (usage : String)
  /-- A value attached to a flag that takes none. -/
  | unwantedValue (value flag : String) (usage : String)
  /-- An option given last, or followed by a flag, without its value. -/
  | missingValue (option : String) (choices : List String)
  /-- A value that is not one of the option's choices. -/
  | invalidValue (value option : String) (choices : List String) (similar : Option String)
  /-- Two options that cannot be given together. -/
  | conflict (option : String) (others : List String) (usage : String)
  /-- An option given twice. -/
  | repeated (option : String) (usage : String)
  /-- Required positional arguments left out. -/
  | missingArguments (args : List String) (usage : String)
  /-- No subcommand, though one is required. -/
  | missingCommand (program : String) (commands : List String) (usage : String)
  deriving Repr

/-- Words quoted and joined: `'a', 'b'`. -/
def quotedList (words : List String) : String := ", ".intercalate (words.map fun w => "'" ++ w ++ "'")

/-- A tip naming look-alike words of a kind. -/
def similarTip (kind : String) (words : List String) : String :=
  match words with
  | [w] => "a similar " ++ kind ++ " exists: '" ++ w ++ "'"
  | _ => "some similar " ++ kind ++ "s exist: " ++ quotedList words

/-- Tips, each on its own line, a blank line above them. -/
def tipLines (tips : List String) : String :=
  if tips.isEmpty then "" else "\n" ++ String.join (tips.map fun t => "\n  tip: " ++ t)

/-- The list of allowed values, on its own line. -/
def choiceLine (choices : List String) : String :=
  if choices.isEmpty then "" else "\n  [possible values: " ++ ", ".intercalate choices ++ "]"

/-- A usage line a blank line below. -/
def usageLine (usage : String) : String := "\n\nUsage: " ++ usage

namespace Complaint

/-- The fault in words, with its tips and usage line. -/
def body : Complaint → String
  | .unknownCommand word similar program usage =>
    let tips := if similar.isEmpty then []
      else [similarTip "subcommand" similar,
        "to pass '" ++ word ++ "' as a value, use '" ++ program ++ " -- " ++ word ++ "'"]
    "unrecognized subcommand '" ++ word ++ "'" ++ tipLines tips ++ usageLine usage
  | .unexpected arg similar tips usage =>
    let tips := (similar.map fun s => similarTip "argument" [s]).toList ++ tips
    "unexpected argument '" ++ arg ++ "' found" ++ tipLines tips ++ usageLine usage
  | .unwantedValue value flag usage =>
    "unexpected value '" ++ value ++ "' for '" ++ flag ++ "' found; no more were expected" ++
      usageLine usage
  | .missingValue option choices =>
    "a value is required for '" ++ option ++ "' but none was supplied" ++ choiceLine choices
  | .invalidValue value option choices similar =>
    "invalid value '" ++ value ++ "' for '" ++ option ++ "'" ++ choiceLine choices ++
      tipLines (similar.map fun s => similarTip "value" [s]).toList
  | .conflict option others usage =>
    let with_ := match others with
      | [o] => " '" ++ o ++ "'"
      | _ => ":" ++ String.join (others.map fun o => "\n  " ++ o)
    "the argument '" ++ option ++ "' cannot be used with" ++ with_ ++ usageLine usage
  | .repeated option usage =>
    "the argument '" ++ option ++ "' cannot be used multiple times" ++ usageLine usage
  | .missingArguments args usage =>
    "the following required arguments were not provided:" ++
      String.join (args.map fun a => "\n  " ++ a) ++ usageLine usage
  | .missingCommand program commands usage =>
    "'" ++ program ++ "' requires a subcommand but one was not provided\n  [subcommands: " ++
      ", ".intercalate commands ++ "]" ++ usageLine usage

/-- The message: the fault, and a pointer to `--help` when the command has that flag. -/
def render (c : Complaint) (pointToHelp : Bool) : String :=
  "error: " ++ c.body ++ (if pointToHelp then "\n\nFor more information, try '--help'.\n" else "\n")

end Complaint

end PinballScout.CommandLine
