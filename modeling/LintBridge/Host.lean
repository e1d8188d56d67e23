import LintBridge.Config
import LintBridge.FileSystem.Edit
import LintBridge.LintModule.Imports
import LintBridge.Log.Basic

/-!
The machine on which a server runs: its files, the home directory and the environment, the
configuration once it has been read, the modules loaded so far and the lines logged so far.
-/
namespace LintBridge

structure Host where
  files : FileSystem
  home : String
  /-- The configuration file that the environment names. -/
  configVariable : Option String
  /-- The directories that are searched, in order, when a workspace has no linting module. -/
  globalDirectories : List String
  /-- The configuration in use, and which of all configurations read it is. -/
  config? : Option (Nat × Config)
  configsRead : Nat
  imports : LintModule.Imports
  log : List LogLine
  deriving Repr, Inhabited

namespace Host

/-- A machine that works in a directory, searches one more for modules, and has nothing loaded. -/
def fresh (here : Place) (home globalDirectory : String)
    (configVariable : Option String) : Host :=
  ⟨FileSystem.empty here, home, configVariable, [globalDirectory], none, 0,
    LintModule.Imports.empty, []⟩

def note (h : Host) (level : LogLevel) (message : String) : Host :=
  { h with log := h.log ++ [⟨level, message⟩] }

def edit (h : Host) (es : List FileSystem.Edit) : Host :=
  { h with files := h.files.applyAll es }

def here (h : Host) : String :=
  FileSystem.text h.files.here

def configFile (h : Host) : String :=
  Config.fileFor h.home none h.configVariable

/-- Reads the configuration, whether or not one is in use. One that cannot be read changes
nothing. -/
def readConfig (h : Host) : Except Fault (Nat × Config) × Host :=
  match Config.read h.files h.home h.configFile with
  | .error e => (.error e, h)
  | .ok c =>
    let current := (h.configsRead, c)
    (.ok current, { h with config? := some current, configsRead := h.configsRead + 1 })

/-- The configuration in use, read on first use. -/
def currentConfig (h : Host) : Except Fault (Nat × Config) × Host :=
  match h.config? with
  | some current => (.ok current, h)
  | none => readConfig h

/-- Drops the configuration in use and reads it anew. -/
def reloadConfig (h : Host) : Except Fault Unit × Host :=
  let (result, h) := readConfig { h with config? := none }
  (result.map fun _ => (), h)

def linterConfig (h : Host) : Except Fault LinterSection × Host :=
  let (current, h) := currentConfig h
  (current.map fun c => c.2.linter, h)

end Host

end LintBridge
