import PinballScout.CommandLine.Complaint
import PinballScout.CommandLine.Similar

/-!
# Reading a command line

A command line is read word by word at the program level until a word names a subcommand;
the rest is read at that subcommand's level. At each level:

- `--` makes every later word a positional value;
- `--name` or `--name=value` is an option (or `--help`, or `--version` at the program level);
  an option without an attached value takes the next word;
- `-x…` is a short flag: `-h`, or `-V` at the program level;
- any other word is the value an option awaits, else the next positional argument.

An option's value is checked (given twice? one of its choices?) when the next word is read
as a flag or positional, or when the level ends. `--help` and `--version` stop reading at
once and show their text. When a level ends, options it lacks take their environment
variables, then conflicting options and missing positional arguments are refused. The
subcommand's level is finished before the program's.

An option given after the subcommand outweighs one given before it, which outweighs the
environment.
-/

namespace PinballScout.CommandLine

/-- Where an option's value came from. -/
inductive Source where
  | line
  | env
  deriving DecidableEq, Repr

/-- An option with its value. -/
structure Given where
  opt : Opt
  value : String
  source : Source
  deriving Repr

/-- A level of a command line: the program, or one of its subcommands. -/
structure Level where
  /-- The name usage lines give it. -/
  name : String
  /-- The options accepted here: its own, then the global ones. -/
  options : List Opt
  positionals : List Positional
  /-- The usage line of its help. -/
  usage : String
  /-- The subcommand; `none` at the program level. -/
  command : Option Subcommand

/-- What a level has read. -/
structure Reading where
  /-- Options with their checked values, in the order they were settled. -/
  given : List Given
  /-- Positional values, in order. -/
  values : List String
  /-- An option whose value is awaited (`none`), or read but not yet checked. -/
  pending : Option (Opt × Option String)
  /-- Whether `--` was read. -/
  trailing : Bool

/-- Nothing read yet. -/
def Reading.empty : Reading := ⟨[], [], none, false⟩

/-- How reading ends early: a text shown as asked (help, version), or a refusal on the
error stream. -/
inductive Stop where
  | show (text : String)
  | refuse (text : String)
  deriving Repr, DecidableEq

/-- A refusal with its message. -/
def Stop.complaint (c : Complaint) : Stop := .refuse (c.render true)

/-- A command line read in full: the subcommand, its positional values, and the options. -/
structure Matches where
  command : Subcommand
  values : List String
  /-- Options by weight: after the subcommand, before it, then from the environment. -/
  options : List Given

/-- The value of an option, by long name. -/
def Matches.option? (m : Matches) (long : String) : Option String :=
  (m.options.find? (·.opt.long == long)).map (·.value)

namespace Program

/-- The program level. -/
def topLevel (p : Program) : Level := ⟨p.name, p.globals, [], p.usage, none⟩

/-- The level of a subcommand. -/
def commandLevel (p : Program) (s : Subcommand) : Level :=
  ⟨p.commandName s, s.options ++ p.globals, s.positionals, p.commandUsage s, some s⟩

/-- What the `help` subcommand shows for the words after it. -/
def helpFor (p : Program) (env : Env) : List String → Stop
  | [] => .show (p.help env true)
  | w :: more =>
    if w == helpCommandName then
      match more with
      | [] => .show p.helpCommandHelp
      | x :: _ => .refuse ((Complaint.unknownCommand x [] p.name p.helpCommandUsage).render false)
    else
      match p.command? w with
      | some s =>
        match more with
        | [] => .show (p.commandHelp env s)
        | x :: _ => .complaint (.unknownCommand x [] p.name (p.commandUsage s))
      | none => .complaint (.unknownCommand w [] p.name p.usage)

/-- A subcommand named among `rest` that has an option like `--name`: the first named. -/
def flagInCommand (p : Program) (name : String) (rest : List String) : Option (String × String) :=
  let found := p.commands.filterMap fun s =>
    let longs := (s.options ++ p.globals).map (·.long) ++ ["help"]
    match mostSimilar? name longs, rest.idxOf? s.name with
    | some f, some i => some (i, s.name, f)
    | _, _ => none
  match found.mergeSort (fun a b => a.1 ≤ b.1) with
  | (_, s, f) :: _ => some (s, f)
  | [] => none

end Program

namespace Level

/-- Whether this is the program level. -/
def top (lv : Level) : Bool := lv.command.isNone

/-- The option of a long name. -/
def find? (lv : Level) (long : String) : Option Opt := lv.options.find? (·.long == long)

/-- The long names accepted here, the built-in flags included. -/
def longs (lv : Level) : List String :=
  lv.options.map (·.long) ++ ["help"] ++ (if lv.top then ["version"] else [])

/-- How messages name a flag of a long name. -/
def flagDisplay (lv : Level) (long : String) : String :=
  match lv.find? long with
  | some o => o.display
  | none => "--" ++ long

/-- The help text of this level. -/
def helpText (lv : Level) (p : Program) (env : Env) (long : Bool) : String :=
  match lv.command with
  | some s => p.commandHelp env s
  | none => p.help env long

/-- The usage line for a message: the help usage when nothing was given, else one naming
what was given. -/
def usageFor (lv : Level) (used : List String) (present : Nat) : String :=
  if used.isEmpty && present == 0 then lv.usage
  else focusedUsage lv.name used lv.positionals present lv.top

/-- Checks the value of the pending option and records it. -/
def settle (lv : Level) (r : Reading) : Except Stop Reading :=
  match r.pending with
  | none => .ok r
  | some (o, none) => .error (.complaint (.missingValue o.display o.choices))
  | some (o, some v) =>
    if r.given.any (·.opt.long == o.long) then .error (.complaint (.repeated o.display lv.usage))
    else if !o.choices.isEmpty && !o.choices.contains v then
      .error (.complaint (.invalidValue v o.display o.choices (mostSimilar? v o.choices)))
    else .ok { r with given := r.given ++ [⟨o, v, .line⟩], pending := none }

/-- Settles the pending option, dropping it when it fails. -/
def settleQuietly (lv : Level) (r : Reading) : Reading :=
  match lv.settle r with
  | .ok r' => r'
  | .error _ => { r with pending := none }

/-- Reads a long flag `--name`, with the value attached by `=` if any; `rest` are the words
after it. -/
def longFlag (lv : Level) (p : Program) (env : Env) (name : String) (attached : Option String)
    (rest : List String) (r : Reading) : Except Stop Reading :=
  if name == "help" || (lv.top && name == "version") then
    match attached with
    | some v =>
      let used := r.given.map (·.opt.display) ++ ["--" ++ name]
      let r := lv.settleQuietly r
      .error (.complaint (.unwantedValue v ("--" ++ name) (lv.usageFor used r.values.length)))
    | none => do
      let _ ← lv.settle r
      .error (.show (if name == "help" then lv.helpText p env true else p.versionText))
  else
    match lv.find? name with
    | some o => do
      let r ← lv.settle r
      match attached with
      | some v => lv.settle { r with pending := some (o, some v) }
      | none => .ok { r with pending := some (o, none) }
    | none =>
      let r := lv.settleQuietly r
      let suggestion := mostSimilar? name lv.longs
      let inCommand := if suggestion.isNone && lv.top then p.flagInCommand name rest else none
      let used := r.given.map (·.opt.display) ++ (suggestion.map lv.flagDisplay).toList
      let asValue := suggestion.isNone && inCommand.isNone && !lv.positionals.isEmpty
      let arg := "--" ++ name
      let tips := (if asValue then ["to pass '" ++ arg ++ "' as a value, use '-- " ++ arg ++ "'"] else []) ++
        (inCommand.map fun (s, f) => "'" ++ s ++ " --" ++ f ++ "' exists").toList
      .error (.complaint (.unexpected arg (suggestion.map ("--" ++ ·)) tips
        (lv.usageFor used r.values.length)))

/-- Reads a short flag, by its first letter. -/
def shortFlag (lv : Level) (p : Program) (env : Env) (c : Char) (r : Reading) : Except Stop Reading :=
  if c == 'h' then do
    let _ ← lv.settle r
    .error (.show (lv.helpText p env false))
  else if c == 'V' && lv.top then do
    let _ ← lv.settle r
    .error (.show p.versionText)
  else
    let arg := "-" ++ c.toString
    let tips := if lv.positionals.isEmpty then [] else ["to pass '" ++ arg ++ "' as a value, use '-- " ++ arg ++ "'"]
    .error (.complaint (.unexpected arg none tips lv.usage))

/-- Reads a word that is not a flag: an awaited value, or a positional value. -/
def value (lv : Level) (p : Program) (w : String) (r : Reading) : Except Stop Reading :=
  match r.pending with
  | some (o, none) => .ok { r with pending := some (o, some w) }
  | _ =>
    if r.values.length < lv.positionals.length then do
      let r ← lv.settle r
      .ok { r with values := r.values ++ [w] }
    else if lv.top then
      if r.trailing && p.commandNames.contains w then
        .error (.complaint (.unexpected "--" none
          ["subcommand '" ++ w ++ "' exists; to use it, remove the '--' before it"] lv.usage))
      else .error (.complaint (.unknownCommand w (similar w p.commandNames) p.name lv.usage))
    else .error (.complaint (.unexpected w none [] lv.usage))

/-- Reads one word; `rest` are the words after it. -/
def word (lv : Level) (p : Program) (env : Env) (w : String) (rest : List String) (r : Reading) :
    Except Stop Reading :=
  if !r.trailing && w == "--" then do
    let r ← lv.settle r
    .ok { r with trailing := true }
  else if !r.trailing && w.startsWith "--" then
    let body := String.ofList (w.toList.drop 2)
    match body.splitOn "=" with
    | name :: _ :: _ => lv.longFlag p env name (some (String.ofList (body.toList.drop (name.length + 1)))) rest r
    | _ => lv.longFlag p env body none rest r
  else if !r.trailing && w.startsWith "-" && w.length > 1 then
    lv.shortFlag p env ((w.toList.drop 1).headD '-') r
  else lv.value p w r

/-- Reads words until the end, or, at the program level, until one names a subcommand; the
subcommand and the words after it are returned. -/
def walk (lv : Level) (p : Program) (env : Env) :
    List String → Reading → Except Stop (Reading × Option (Subcommand × List String))
  | [], r => .ok (r, none)
  | w :: rest, r =>
    let awaiting := match r.pending with
      | some (_, none) => true
      | _ => false
    let commandDue := lv.top && !r.trailing && !awaiting
    if commandDue && w == helpCommandName then .error (p.helpFor env rest)
    else
      match (if commandDue then p.command? w else none) with
      | some s => .ok (r, some (s, rest))
      | none => do
        let r ← lv.word p env w rest r
        lv.walk p env rest r

/-- Adds the options not given that have their environment variable set. -/
def withEnv (lv : Level) (env : Env) (r : Reading) : Reading :=
  let added := lv.options.filterMap fun o =>
    if r.given.any (·.opt.long == o.long) then none
    else o.env.bind fun name => (env name).map fun v => ⟨o, v, .env⟩
  { r with given := r.given ++ added }

/-- Refuses the first option given (in order) with conflicting options given. -/
def checkConflicts (lv : Level) (p : Program) (r : Reading) : Except Stop Unit :=
  let clashing (g : Given) := r.given.filter fun h => h.opt.long != g.opt.long && p.clash g.opt.long h.opt.long
  match r.given.find? (fun g => !(clashing g).isEmpty) with
  | none => .ok ()
  | some g =>
    let others := clashing g
    let used := (r.given.filter fun h => !others.any (·.opt.long == h.opt.long)).map (·.opt.display)
    .error (.complaint (.conflict g.opt.display (others.map (·.opt.display))
      (lv.usageFor used r.values.length)))

/-- Refuses missing required positional arguments. -/
def checkRequired (lv : Level) (r : Reading) : Except Stop Unit :=
  let missing := (lv.positionals.drop r.values.length).filter (·.required)
  if missing.isEmpty then .ok ()
  else
    .error (.complaint (.missingArguments (missing.map Positional.demand)
      (focusedUsage lv.name (r.given.map (·.opt.display)) lv.positionals r.values.length lv.top)))

/-- Finishes a subcommand's level: environment, conflicts, required arguments. -/
def finish (lv : Level) (p : Program) (env : Env) (r : Reading) : Except Stop Reading := do
  let r ← lv.settle r
  let r := lv.withEnv env r
  lv.checkConflicts p r
  lv.checkRequired r
  return r

end Level

namespace Program

/-- Reads a command line: the subcommand with its values and options, or a text to show. -/
def parse (p : Program) (env : Env) (args : List String) : Except Stop Matches := do
  let top := p.topLevel
  let (r, found) ← top.walk p env args Reading.empty
  let r ← top.settle r
  let sub ← match found with
    | some (s, rest) => do
      let lv := p.commandLevel s
      let (sr, _) ← lv.walk p env rest Reading.empty
      let sr ← lv.finish p env sr
      pure (some (s, sr))
    | none => pure none
  let r := top.withEnv env r
  match sub with
  | none =>
    if r.given.isEmpty then throw (.refuse (p.help env false))
    else throw (.complaint (.missingCommand p.name p.commandNames p.usage))
  | some (s, sr) =>
    top.checkConflicts p r
    let fromLine (g : Given) := g.source == .line
    return ⟨s, sr.values, sr.given.filter fromLine ++ r.given.filter fromLine ++
      sr.given.filter (!fromLine ·) ++ r.given.filter (!fromLine ·)⟩

end Program

end PinballScout.CommandLine
