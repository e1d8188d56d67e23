import LintBridge.Host
import LintBridge.Manifest
import LintBridge.Uri.Basic

/-!
Workspaces: which directory an editor means, and which packages the workspace's manifest declares.
-/
namespace LintBridge.Workspace

/-- A text unless it is missing or empty. -/
def nonempty (s : Option String) : Option String :=
  s.filter (· != "")

/-- The path of a URI that may be missing or not that of a file. -/
def pathOf (uri : Option String) : Except Fault (Option String) :=
  match uri with
  | some uri => Uri.toPathText? uri
  | none => .ok none

/-- The root that an editor names: its first folder, else its root URI, else its root path. -/
def root (folders : List String) (rootUri rootPath : Option String) :
    Except Fault (Option String) := do
  match ← pathOf folders.head? with
  | some path => return some path
  | none =>
    match ← pathOf (nonempty rootUri) with
    | some path => return some path
    | none => return nonempty rootPath

/-- The name of the manifest: the given one if it counts as true, else the configured one. -/
def manifestName (h : Host) (given : Json) : Except Fault Json × Host :=
  if given.truthy then (.ok given, h)
  else
    let (linter, h) := h.linterConfig
    (linter.map LinterSection.manifestName, h)

def manifestPath (root : String) (name : Json) : Except Fault String :=
  match name with
  | .str name => .ok (Manifest.path ⟨Path.ofString root, Path.ofString name⟩)
  | v => .error (.noJoin v.typeName)

/-- The packages that the manifest of a name declares. A missing manifest is noted. -/
def dependencies (h : Host) (root : String) (name : Json) : Except Fault Members × Host :=
  match manifestPath root name with
  | .error e => (.error e, h)
  | .ok path =>
    match Manifest.read h.files path with
    | .error e => (.error e, h)
    | .ok (some members) => (.ok members, h)
    | .ok none => (.ok [], h.note .debug s!"No manifest at {path}")

/-- Does the manifest of a name declare a package? -/
def declaresIn (h : Host) (root : String) (name : Json) (package : String) :
    Except Fault Bool × Host :=
  let (members, h) := dependencies h root name
  (members.map fun ms => (ms.get? package).isSome, h)

def declares (h : Host) (root package : String) : Except Fault Bool × Host :=
  match manifestName h .null with
  | (.error e, h) => (.error e, h)
  | (.ok name, h) => declaresIn h root name package

end LintBridge.Workspace
