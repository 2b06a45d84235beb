import PinballScout.Tool.Run

/-!
# The command line

`mnp` reads its arguments and the environment variables it consults, answers every file its
call asks for from the file system, prints what the call shows on the two output streams and
exits with the call's status. Everything else happens in `Tool.run`.
-/

namespace PinballScout.Tool

/-- The environment variables a call may consult: those that locate the user's configuration
and those that stand in for options. -/
def consultedVariables : List String :=
  ["HOME", "XDG_CONFIG_HOME"] ++ (program.globals ++ program.commands.flatMap (·.options)).filterMap (·.env)

/-- What a path leads to on the file system: a file's bytes as text when they are UTF-8. -/
def entryOnDisk (path : String) : IO Entry := do
  match ← (IO.FS.readBinFile path).toBaseIO with
  | .ok bytes =>
    match String.fromUTF8? bytes with
    | some text => return .text text
    | none => return .binary
  | .error (.inappropriateType _ 21 _) => return .directory
  | .error (.inappropriateType _ _ _) => return .throughFile
  | .error _ => return .missing

/-- Runs a session, answering its reads from the file system. -/
def runOnDisk {α : Type} : Session α → IO α
  | .done a => pure a
  | .read path next => do runOnDisk (next (← entryOnDisk path))

end PinballScout.Tool

open PinballScout in
/-- Runs one call of the tool. -/
def main (args : List String) : IO UInt32 := do
  let values ← Tool.consultedVariables.mapM fun name => return (name, ← IO.getEnv name)
  let env : CommandLine.Env := fun name => (values.lookup name).join
  let outcome ← Tool.runOnDisk (Tool.run env args)
  IO.print outcome.stdout
  IO.eprint outcome.stderr
  return outcome.status.toUInt32
