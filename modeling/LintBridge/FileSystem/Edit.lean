import LintBridge.FileSystem.Basic

/-!
Changes to a tree of files: making directories, writing and removing. Each reads the tree through
the same walk as every look-up does.
-/
namespace LintBridge.FileSystem

/-- A tree that holds nothing but the directories that lead to `here`. -/
def empty (here : Place) : FileSystem :=
  ⟨(List.range here.length).map fun k => (here.take (k + 1), ⟨.directory, 0⟩), here,
    1750000000000000000⟩

/-- Puts an entry at a place, which keeps its rank if something stood there. -/
def put (fs : FileSystem) (place : Place) (entry : Entry) : FileSystem :=
  if (fs.entries.lookup place).isSome then
    { fs with entries := fs.entries.map fun p => if p.1 = place then (place, entry) else p }
  else { fs with entries := fs.entries ++ [(place, entry)] }

def putNode (fs : FileSystem) (place : Place) (node : Node) : FileSystem :=
  { fs.put place ⟨node, fs.clock⟩ with clock := fs.clock + 1 }

/-- Removes what stands at a place and everything below it. -/
def erase (fs : FileSystem) (place : Place) : FileSystem :=
  { fs with entries := fs.entries.filter fun p => !place.isPrefixOf p.1 }

/-- A path's text without the slashes at its end. -/
def trimmed (path : String) : String :=
  match (path.toList.reverse.dropWhile (· == '/')).reverse with
  | [] => if path.isEmpty then "" else "/"
  | kept => String.ofList kept

/-- The part of a path's text before its last segment, and that segment. -/
def splitLast (path : String) : String × String :=
  let back := path.toList.reverse
  let tail := (back.takeWhile (· != '/')).reverse
  (trimmed (String.ofList (back.dropWhile (· != '/')).reverse), String.ofList tail)

def makeDirectory (fs : FileSystem) (path : String) : Except Fault FileSystem :=
  match fs.locate false (trimmed path) with
  | .error flaw => .error (.file flaw path)
  | .ok place =>
    match fs.node? place with
    | some _ => .error (.file .exists path)
    | none => .ok (fs.putNode place .directory)

/-- Makes a directory after those that lead to it; `depth` bounds how many are looked at. A
directory that is there already is fine. -/
def makeDirectoriesTo : Nat → FileSystem → String → Except Fault FileSystem
  | 0, fs, _ => .ok fs
  | depth + 1, fs, path => do
    let (head, tail) := splitLast path
    let (head, tail) := if tail.isEmpty then splitLast head else (head, tail)
    let headMissing := !head.isEmpty && !tail.isEmpty && !fs.reaches head
    let fs ←
      if headMissing then
        match makeDirectoriesTo depth fs head with
        | .error (.file .exists _) => .ok fs
        | made => made
      else .ok fs
    if headMissing && tail == "." then return fs
    match fs.makeDirectory path with
    | .ok made => .ok made
    | .error e => if fs.isDirectory path then .ok fs else .error e

/-- Makes a directory and all that lead to it. -/
def makeDirectories (fs : FileSystem) (path : String) : Except Fault FileSystem :=
  makeDirectoriesTo (path.length + 1) fs path

/-- Removes a file or a link, but no directory. -/
def removeFile (fs : FileSystem) (path : String) : Except Fault FileSystem :=
  match fs.locate false path with
  | .error flaw => .error (.file flaw path)
  | .ok place =>
    match fs.node? place with
    | none => .error (.file .notFound path)
    | some .directory => .error (.file .isDirectory path)
    | some _ => .ok (fs.erase place)

def list (fs : FileSystem) (path : String) : Except Fault (List String) :=
  match fs.locate true path with
  | .error flaw => .error (.file flaw path)
  | .ok place =>
    match fs.node? place with
    | none => .error (.file .notFound path)
    | some .directory => .ok (fs.names place)
    | some _ => .error (.file .notDirectory path)

/-! ### Edits from outside -/

inductive Change where
  | write (node : Node)
  | link (target : String)
  | remove
  deriving Repr

/-- A change at a path, and a time of change to set afterwards. -/
structure Edit where
  path : String
  change : Change
  changed : Option Int
  deriving Repr

/-- The directories that lead to a path, made where they are missing. -/
def withParents (fs : FileSystem) (path : String) : FileSystem :=
  match fs.makeDirectories (splitLast path).1 with
  | .ok made => made
  | .error _ => fs

/-- Writes a node: through a link for files, and over nothing but a directory for directories. -/
def write (fs : FileSystem) (path : String) (node : Node) : FileSystem :=
  match fs.locate true (trimmed path) with
  | .error _ => fs
  | .ok place =>
    match fs.node? place, node with
    | some .directory, _ => fs
    | some _, .directory => fs
    | _, _ => fs.putNode place node

def touch (fs : FileSystem) (path : String) (changed : Int) : FileSystem :=
  match fs.locate true path with
  | .error _ => fs
  | .ok place =>
    match fs.entry? place with
    | some e => fs.put place { e with changed := changed }
    | none => fs

/-- Makes one edit. An edit that the tree does not allow changes nothing. -/
def apply (fs : FileSystem) (e : Edit) : FileSystem :=
  let done := match e.change with
    | .write node => (fs.withParents e.path).write e.path node
    | .link target =>
      let fs := fs.withParents e.path
      match fs.locate false e.path with
      | .error _ => fs
      | .ok place => if (fs.node? place).isSome then fs else fs.putNode place (.link target)
    | .remove =>
      match fs.locate false e.path with
      | .error _ => fs
      | .ok place => fs.erase place
  match e.changed with
  | some t => done.touch e.path t
  | none => done

def applyAll (fs : FileSystem) (es : List Edit) : FileSystem :=
  es.foldl apply fs

end LintBridge.FileSystem
