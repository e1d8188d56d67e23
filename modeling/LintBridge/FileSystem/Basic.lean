import LintBridge.Path
import LintBridge.Script
import LintBridge.Text.Utf8

/-!
A tree of directories, files and symbolic links, held as a list of places in the order in which
they were made. A place is named by the segments that lead to it from the root. Walking a path
follows links, at most forty of them, and says why where it cannot go on.
-/
namespace LintBridge

/-- What stands at a place. -/
inductive Node where
  | directory
  | file (bytes : List UInt8)
  | script (s : Script)
  | link (target : String)
  deriving Repr, Inhabited

/-- A node and the time of its last change in nanoseconds. -/
structure Entry where
  node : Node
  changed : Int
  deriving Repr, Inhabited

/-- The segments that lead from the root to a place. -/
abbrev Place := List String

/-- The files of a machine and the directory in which it works. -/
structure FileSystem where
  entries : List (Place × Entry)
  here : Place
  /-- The time of the next change. -/
  clock : Int
  deriving Repr, Inhabited

namespace FileSystem

/-- How many links a walk may follow. -/
def linkBudget : Nat := 40

/-- The greatest length of a segment in bytes. -/
def segmentLimit : Nat := 255

/-- The greatest length of a path in bytes. -/
def pathLimit : Nat := 4095

/-- What stands at a place; the root is always there. -/
def entry? (fs : FileSystem) (place : Place) : Option Entry :=
  if place.isEmpty then some ⟨.directory, 0⟩ else fs.entries.lookup place

def node? (fs : FileSystem) (place : Place) : Option Node :=
  (fs.entry? place).map Entry.node

/-- The names in a directory, in the order in which they were made. -/
def names (fs : FileSystem) (directory : Place) : List String :=
  fs.entries.filterMap fun (place, _) =>
    if place.dropLast = directory then place.getLast? else none

/-- The segments of a path's text; an empty last segment asks for a directory. -/
def segments (path : String) : List String :=
  (Path.splitSlash path.toList).map String.ofList

/-- Where a walk along a path's text starts. -/
def start (fs : FileSystem) (path : String) : Place :=
  if path.startsWith "/" then [] else fs.here

/-- Walks from the directory `dir` until a link has to be followed, and goes on with `onLink` from
where the link starts. The walk ends at a place that may be missing, but all before it are
directories. A link at the end is followed if `follow`, links before it always. -/
def walkWith (fs : FileSystem) (follow : Bool)
    (onLink : Place → List String → Except FileFlaw Place) (dir : Place) :
    List String → Except FileFlaw Place
  | [] => .ok dir
  | segment :: rest =>
    if segment = "" ∨ segment = "." then walkWith fs follow onLink dir rest
    else if segment = ".." then walkWith fs follow onLink dir.dropLast rest
    else if segmentLimit < segment.utf8ByteSize then .error .nameTooLong
    else
      let next := dir ++ [segment]
      match fs.node? next with
      | none => if rest.isEmpty then .ok next else .error .notFound
      | some .directory => walkWith fs follow onLink next rest
      | some (.link target) =>
        if rest.isEmpty && !follow then .ok next
        else onLink (if target.startsWith "/" then [] else dir) (segments target ++ rest)
      | some _ => if rest.isEmpty then .ok next else .error .notDirectory

/-- Walks from a directory and follows at most `budget` links. -/
def walk (fs : FileSystem) (follow : Bool) : Nat → Place → List String → Except FileFlaw Place
  | 0 => fs.walkWith follow fun _ _ => .error .tooManyLinks
  | budget + 1 => fs.walkWith follow (walk fs follow budget)

@[irreducible] def locate (fs : FileSystem) (follow : Bool) (path : String) : Except FileFlaw Place :=
  if path.isEmpty then .error .notFound
  else if path.toList.contains '\x00' then .error .nullCharacter
  else if pathLimit < path.utf8ByteSize then .error .nameTooLong
  else fs.walk follow linkBudget (fs.start path) (segments path)

/-- The entry that a path leads to. -/
def stat (fs : FileSystem) (path : String) : Except FileFlaw Entry := do
  let place ← fs.locate true path
  match fs.entry? place with
  | some e => .ok e
  | none => .error .notFound

/-- Does a path lead to something? Whatever stands in the way counts as no. -/
def reaches (fs : FileSystem) (path : String) : Bool :=
  match fs.stat path with
  | .ok _ => true
  | .error _ => false

def isDirectory (fs : FileSystem) (path : String) : Bool :=
  match fs.stat path with
  | .ok ⟨.directory, _⟩ => true
  | _ => false

def isFile (fs : FileSystem) (path : String) : Bool :=
  match fs.stat path with
  | .ok ⟨.file _, _⟩ => true
  | .ok ⟨.script _, _⟩ => true
  | _ => false

/-- Does a path lead to an entry that `wanted` accepts? Only a name that is too long is an error;
a missing place, a file on the way or a circle of links is a no. -/
def probe (fs : FileSystem) (path : String) (wanted : Node → Bool) : Except Fault Bool :=
  match fs.stat path with
  | .ok e => .ok (wanted e.node)
  | .error .nameTooLong => .error (.file .nameTooLong path)
  | .error _ => .ok false

def anyNode : Node → Bool := fun _ => true

def directoryNode : Node → Bool
  | .directory => true
  | _ => false

/-- The bytes of the file that a path leads to. The bytes of a script are not looked into. -/
def readBytes (fs : FileSystem) (path : String) : Except FileFlaw (List UInt8) := do
  match (← fs.stat path).node with
  | .directory => .error .isDirectory
  | .file bytes => .ok bytes
  | _ => .ok []

/-- The text of the file that a path leads to, with uniform line ends. -/
def readText (fs : FileSystem) (path : String) : Except Fault (List Char) :=
  match fs.readBytes path with
  | .error flaw => .error (.file flaw path)
  | .ok bytes =>
    match Text.decodeUtf8 bytes with
    | .error e => .error (.encoding e)
    | .ok text => .ok (Text.uniformLines text)

/-! ### Real paths -/

/-- The place that a path stands for, up to its first link: there `onLink` goes on, given the
directory of the link, its name, its target and the rest. Segments that lead nowhere are kept, and
two points after them cancel the segment before. -/
def resolveWith (fs : FileSystem) (onLink : Place → String → String → List String → Place)
    (dir : Place) : List String → Place
  | [] => dir
  | segment :: rest =>
    if segment = "" ∨ segment = "." then resolveWith fs onLink dir rest
    else if segment = ".." then resolveWith fs onLink dir.dropLast rest
    else
      match fs.node? (dir ++ [segment]) with
      | some (.link target) => onLink dir segment target rest
      | _ => resolveWith fs onLink (dir ++ [segment]) rest

/-- The place that a path stands for with its first `budget` links replaced. -/
def resolveLinks (fs : FileSystem) : Nat → Place → List String → Place
  | 0 => fs.resolveWith fun dir segment _ rest => dir ++ [segment] ++ rest
  | budget + 1 => fs.resolveWith fun dir _ target rest =>
    resolveLinks fs budget (if target.startsWith "/" then [] else dir) (segments target ++ rest)

/-- How many links a real path may pass before it is taken for a circle: enough for any path
without one. -/
def realBudget (fs : FileSystem) (path : String) : Nat :=
  (fs.entries.length + 1) * ((segments path).length + 40)

def text (place : Place) : String :=
  "/" ++ "/".intercalate place

def realPath (fs : FileSystem) (path : String) : String :=
  text (fs.resolveLinks (fs.realBudget path) (fs.start path) (segments path))

end FileSystem

end LintBridge
