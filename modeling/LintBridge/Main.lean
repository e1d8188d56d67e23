import LintBridge.CommandLine.Launch

/-!
The program. It takes the home directory, the configuration file and the words of the command line
from the machine, writes what the run writes and ends with the run's code. A transport is outside
of the program: where one would serve, the run goes on as after one that has ended.
-/

open LintBridge

/-- The machine with nothing on it but the configuration file. -/
def machine : IO Host := do
  let home := (← IO.getEnv "HOME").getD "/"
  let named ← IO.getEnv "MARLINT_SERVER_CONFIG"
  let host := Host.fresh [] home "" named
  let content ← (some <$> IO.FS.readBinFile host.configFile) <|> pure none
  return match content with
    | some bytes => host.edit [⟨host.configFile, .write (.file bytes.toList), none⟩]
    | none => host

/-- The code that the machine is given: none is success, and what is no number is a failure. -/
def exitCode : Json → UInt32
  | .null => 0
  | v => ((v.whole?).getD 1).toNat.toUInt32

def main (words : List String) : IO UInt32 := do
  match CommandLine.run (← machine) words .finished with
  | .error e =>
    IO.eprintln e.message
    return 1
  | .ok run =>
    IO.print run.output
    IO.eprint run.errors
    for line in run.log do
      IO.eprintln s!"{line.level.name} | {line.message}"
    return exitCode run.code
