import LintBridge.LintModule.Search

/-!
Loaded modules. A module is loaded by executing its file; a package may take its label from a
submodule, which is executed once and kept under its dotted name until the package is forgotten.
Every execution makes a new module, told from all others by its number.
-/
namespace LintBridge.LintModule

/-- A module that was made: its file, what executing the file left in it, and how often its
function was called. -/
structure Module where
  file : Option String
  label : Option Json
  exported : Option (String × Export)
  calls : Nat
  deriving Repr, Inhabited

/-- The modules made so far, by number; which of them are kept under which name; and how many
files were executed. -/
structure Imports where
  modules : List Module
  kept : List (String × Nat)
  executions : Nat
  deriving Repr, Inhabited

namespace Imports

def empty : Imports := ⟨[], [], 0⟩

def module? (im : Imports) (id : Nat) : Option Module :=
  im.modules[id]?

def modify (im : Imports) (id : Nat) (f : Module → Module) : Imports :=
  { im with modules := im.modules.modify id f }

/-- Is `name` the module `root` or one of its submodules? -/
def belongsTo (root name : String) : Bool :=
  name == root || name.startsWith (root ++ ".")

/-- Forgets a module and its submodules. -/
def forget (im : Imports) (name : String) : Imports :=
  { im with kept := im.kept.filter fun p => !belongsTo name p.1 }

def keep (im : Imports) (name : String) (id : Nat) : Imports :=
  { im with kept := (name, id) :: im.kept.filter fun p => p.1 != name }

def drop (im : Imports) (name : String) : Imports :=
  { im with kept := im.kept.filter fun p => p.1 != name }

/-- Makes a module and keeps it under a name. -/
def make (im : Imports) (name : String) (file : Option String) : Imports × Nat :=
  let id := im.modules.length
  let made : Module := ⟨file, none, none, 0⟩
  (Imports.keep { im with modules := im.modules ++ [made] } name id, id)

end Imports

/-- The script in a file; none if there is no file. -/
def scriptAt? (fs : FileSystem) (file : String) : Option Script :=
  match fs.stat file with
  | .ok ⟨.script s, _⟩ => some s
  | .ok ⟨.file bytes, _⟩ =>
    match Text.decodeUtf8 bytes with
    | .ok text => some (Script.ofText (Text.uniformLines text))
    | .error _ => some Script.garbled
  | _ => none

/-- The script of a module's file, if it can be executed. -/
def scriptOf (fs : FileSystem) (file : String) : Except Fault Script :=
  match scriptAt? fs file with
  | none => .error (.file .notFound file)
  | some s => if s.compiles then .ok s else .error (.doesNotCompile (Path.afterSlash file) s.firstLine)

/-- Counts an execution: one that came to the script's own statements. -/
def Imports.executed (im : Imports) : Imports :=
  { im with executions := im.executions + 1 }

/-- The label that a module has, which is what its importer asks for. -/
def labelOf (im : Imports) (name : String) (id : Nat) : Except Fault Json :=
  match im.module? id with
  | none => .error (.noSubmodule name)
  | some m =>
    match m.label with
    | some v => .ok v
    | none => .error (.noLabel name m.file)

/-- Executes a submodule's file. A submodule that fails is not kept. -/
def executeSubmodule (fs : FileSystem) (im : Imports) (name file : String) :
    Except Fault Nat × Imports :=
  let (im, id) := im.make name (some file)
  match scriptOf fs file with
  | .error e => (.error e, im.drop name)
  | .ok script =>
    let im := im.executed.modify id fun m => { m with label := script.label }
    match script.importError with
    | some r => (.error (.raised r), im.drop name)
    | none => (.ok id, im)

/-- The submodule of a package: the one that is kept, else the one in the package's directory. -/
def submodule (fs : FileSystem) (im : Imports) (name directory : String) :
    Except Fault Nat × Imports :=
  match im.kept.lookup name with
  | some id => (.ok id, im)
  | none =>
    match find fs name [directory] with
    | .error e => (.error e, im)
    | .ok (.file f) => executeSubmodule fs im name f.file
    | .ok .bareDirectory =>
      let (im, id) := im.make name none
      (.ok id, im)
    | .ok .nothing => (.error (.noSubmodule name), im)

/-- The label that a module takes from its sibling `sibling`. -/
def siblingLabel (fs : FileSystem) (im : Imports) (name sibling : String) (found : Found) :
    Except Fault Json × Imports :=
  match found.package with
  | some directory =>
    let full := name ++ "." ++ sibling
    match submodule fs im full directory with
    | (.error e, im) => (.error e, im)
    | (.ok id, im) => (labelOf im full id, im)
  | none =>
    let parent := parentPart name
    (.error (if parent.isEmpty then .noEnclosingPackage else .noSubmodule parent), im)

/-- The label that a script takes from a sibling, if it takes one. -/
def takenLabel (fs : FileSystem) (im : Imports) (name : String) (found : Found)
    (script : Script) : Except Fault (Option Json) × Imports :=
  match script.labelFrom with
  | none => (.ok none, im)
  | some sibling =>
    let (label, im) := siblingLabel fs im name sibling found
    (label.map some, im)

/-- Executes a module's file into the module of a number. -/
def execute (fs : FileSystem) (im : Imports) (name : String) (found : Found) (id : Nat) :
    Except Fault Unit × Imports :=
  match scriptOf fs found.file with
  | .error e => (.error e, im)
  | .ok script =>
    let (taken, im) := takenLabel fs im name found script
    match taken with
    | .error e => (.error e, im)
    | .ok taken =>
      let im := im.executed.modify id fun m =>
        { m with label := match script.label with
            | some v => some v
            | none => taken }
      match script.importError with
      | some r => (.error (.raised r), im)
      | none => (.ok (), im.modify id fun m => { m with exported := script.exported })

/-- Is the module kept under this name made from the file that was found? -/
def isFromSameFile (fs : FileSystem) (im : Imports) (name : String) (found : Found) : Bool :=
  match (im.kept.lookup name).bind im.module? with
  | some m =>
    match m.file with
    | some file => fs.realPath file == fs.realPath found.file
    | none => false
  | none => false

/-- Loads a module from a file that was found. Modules kept from another file are forgotten first;
if executing the file fails, so is everything that it left behind. -/
def load (fs : FileSystem) (im : Imports) (name : String) (found : Found) :
    Except Fault Nat × Imports :=
  let im := if isFromSameFile fs im name found then im else im.forget name
  let (im, id) := im.make name (some found.file)
  match execute fs im name found id with
  | (.error e, im) => (.error e, im.forget name)
  | (.ok (), im) => (.ok id, im)

def call (im : Imports) (id : Nat) (entryPoint text : String) (options : Members) :
    Except Fault Json × Imports :=
  match im.module? id with
  | none => (.error (.noMember "module" entryPoint), im)
  | some m =>
    match m.exported with
    | some (name, .function behavior) =>
      if name = entryPoint then
        let calls := m.calls + 1
        (behavior.answer m.label calls text options,
          im.modify id fun m => { m with calls := calls })
      else (.error (.noMember "module" entryPoint), im)
    | _ => (.error (.noMember "module" entryPoint), im)

def exports (im : Imports) (id : Nat) (entryPoint : String) : Bool :=
  match (im.module? id).bind Module.exported with
  | some (name, .function _) => name == entryPoint
  | _ => false

end LintBridge.LintModule
