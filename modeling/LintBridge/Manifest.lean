import LintBridge.FileSystem.Basic

/-!
The manifest of a workspace: which packages it declares. Two of its sections count, the second
overlaying the first; a section that is missing or no object is empty. A manifest that does not
exist declares nothing, one that cannot be read is an error.
-/
namespace LintBridge

/-- The file of a workspace that declares dependencies. -/
structure Manifest where
  root : Path
  name : Path
  deriving DecidableEq, Repr

namespace Manifest

def path (m : Manifest) : String :=
  (m.root.join m.name).toString

def sections : List String := ["dependencies", "devDependencies"]

def sectionOf (content : Members) (name : String) : Members :=
  match content.get? name with
  | some (.obj members) => members
  | _ => []

/-- The dependencies that a manifest's content declares. -/
def declared (content : Members) : Members :=
  sections.foldl (fun acc name => acc.overlay (sectionOf content name)) []

/-- The value in a JSON file, none if nothing exists at the path. The outer fault is one of the
file, the inner result that of reading its text. -/
def load (fs : FileSystem) (path : String) :
    Except Fault (Option (Except Json.ReadError Json)) := do
  if ← fs.probe path FileSystem.anyNode then
    let text ← fs.readText path
    return some (Json.read (String.ofList text))
  else return none

/-- The dependencies declared at a path, none if there is no manifest. -/
def read (fs : FileSystem) (path : String) : Except Fault (Option Members) := do
  match ← load fs path with
  | none => return none
  | some (.ok (.obj content)) => return some (declared content)
  | some (.ok _) => throw (.manifestNotObject path)
  | some (.error (.malformed flaw place)) => throw (.manifestNotJson path (.malformed flaw place))
  | some (.error e) => throw (.json e)

def dependencies (fs : FileSystem) (path : String) : Except Fault Members :=
  (read fs path).map (·.getD [])

def loadFile (fs : FileSystem) (given : String) : Except Fault Json := do
  match ← load fs (Path.normal given) with
  | none => throw (.missingFile given)
  | some (.ok v) => return v
  | some (.error e) => throw (.json e)

end Manifest

end LintBridge
