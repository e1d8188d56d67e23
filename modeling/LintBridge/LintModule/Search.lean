import LintBridge.FileSystem.Basic

/-!
Where a linting module is looked for. Directories are tried in order; in each a package, a
directory with a file of its own, goes before a plain file. A directory that only has the name is
remembered, so that a search that finds nothing else is told apart from one that finds nothing.
-/
namespace LintBridge.LintModule

/-- A module's file and, for a package, the directory in which its submodules are. -/
structure Found where
  file : String
  package : Option String
  deriving DecidableEq, Repr

/-- What looking for a module comes to. -/
inductive Finding where
  | file (f : Found)
  /-- Only directories of the name. -/
  | bareDirectory
  | nothing
  deriving DecidableEq, Repr

def lastPart (name : String) : String :=
  String.ofList (name.toList.reverse.takeWhile (· != '.')).reverse

def parentPart (name : String) : String :=
  String.ofList ((name.toList.reverse.dropWhile (· != '.')).drop 1).reverse

def inside (directory name : String) : String :=
  String.ofList (directory.toList.reverse.dropWhile (· == '/')).reverse ++ "/" ++ name

/-- The absolute form of a directory to search. -/
def searched (here directory : String) : String :=
  if directory.isEmpty || directory == "." then here
  else if directory.startsWith "/" then directory
  else inside here directory

def lists (fs : FileSystem) (directory name : String) : Bool :=
  match fs.locate true directory with
  | .ok place => (fs.names place).contains name
  | .error _ => false

/-- Looks for a module in one directory. -/
def findIn (fs : FileSystem) (name directory : String) : Except Fault Finding :=
  if directory.toList.contains '\x00' then .error (.file .nullCharacter directory)
  else if !fs.isDirectory (searched (FileSystem.text fs.here) directory) then .ok .nothing
  else
    let directory := searched (FileSystem.text fs.here) directory
    let base := inside directory name
    let packageFile := inside base "__init__.py"
    let plainFile := inside directory (name ++ ".py")
    let listed := lists fs directory name
    if listed && fs.isFile packageFile then .ok (.file ⟨packageFile, some base⟩)
    else if lists fs directory (name ++ ".py") && fs.isFile plainFile then
      .ok (.file ⟨plainFile, none⟩)
    else if listed && fs.isDirectory base then .ok .bareDirectory
    else .ok .nothing

def find (fs : FileSystem) (name : String) : List String → Except Fault Finding
  | [] => .ok .nothing
  | directory :: rest => do
    match ← findIn fs (lastPart name) directory with
    | .file f => return .file f
    | .bareDirectory =>
      match ← find fs name rest with
      | .file f => return .file f
      | _ => return .bareDirectory
    | .nothing => find fs name rest

/-! ### The directories of a workspace -/

/-- The version directories of a virtual environment, in order of name. -/
def versionDirectories (fs : FileSystem) (library : String) : List String :=
  match fs.locate true library with
  | .error _ => []
  | .ok place =>
    let versions := (fs.names place).filter fun name =>
      name.startsWith "python" && fs.isDirectory (inside library name)
    versions.mergeSort fun a b => decide (a ≤ b)

/-- The directories of installed packages in a virtual environment. -/
def sitePackages (fs : FileSystem) (environment : String) : Except Fault (List String) := do
  if !(← fs.probe environment FileSystem.directoryNode) then return []
  let library := inside environment "lib"
  let hasLibrary ← fs.probe library FileSystem.directoryNode
  let sites := if hasLibrary then
      (versionDirectories fs library).map fun version =>
        inside (inside library version) "site-packages"
    else []
  let sites ← sites.filterM (fs.probe · FileSystem.anyNode)
  let plain := inside (inside environment "Lib") "site-packages"
  let hasPlain ← fs.probe plain FileSystem.directoryNode
  return if hasPlain then sites ++ [plain] else sites

/-- The directories that are searched for a workspace: the configured one, the workspace itself,
and the installed packages of the virtual environments in it. -/
def searchPaths (fs : FileSystem) (modulePath : Option String) (root : String) :
    Except Fault (List String) := do
  let configured := match modulePath with
    | some path => if path.isEmpty then [] else [path]
    | none => []
  let root := Path.ofString root
  let environment (name : String) := (root.join (Path.ofString name)).toString
  let first ← sitePackages fs (environment ".venv")
  let second ← sitePackages fs (environment "venv")
  return configured ++ [root.toString] ++ first ++ second

end LintBridge.LintModule
