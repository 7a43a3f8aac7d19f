import Fieldwise.CommandLine.Run

/-! # The program

Looks at the paths and variables that a command line can depend on, runs it, and carries out what
the run asks for. -/

namespace Fieldwise

def lookAt (path : Path) : IO Entry := do
  try
    return .file (← IO.FS.readBinFile path.text).toList
  catch
    | .noFileOrDirectory .. => return .missing
    | .inappropriateType _ code _ => return if code = 20 then .blocked else .directory
    | error => throw error

def lookAround (arguments : List String) : IO Workspace := do
  let place := (← IO.currentDir).toString
  let entries ← (CommandLine.watchedPaths arguments).mapM fun path => do
    return (path, ← lookAt path)
  let names := Settings.keys.map (Settings.variableName Settings.environmentLead)
  let values ← names.mapM fun name => do
    return (name, ← IO.getEnv name)
  return { place
           look := fun path => (entries.lookup path).getD .missing
           environment := fun name => (values.lookup name).join }

/-- Carries out what a run asks for, and gives the status of the program. -/
def carryOut (outcome : CommandLine.Outcome) : IO UInt32 := do
  for file in outcome.written.toList do
    IO.FS.writeFile file.path.text file.text
  IO.print outcome.output
  for notice in outcome.notices do
    IO.eprintln notice.text
  match outcome.ending with
  | .returned => return 0
  | .status code => return UInt32.ofNat code
  | .broken error =>
    IO.eprintln error.message
    return 1

end Fieldwise

def main (arguments : List String) : IO UInt32 := do
  Fieldwise.carryOut (Fieldwise.CommandLine.run (← Fieldwise.lookAround arguments) arguments)
