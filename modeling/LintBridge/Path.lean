/-!
Paths as text. A path is a root and segments: segments that are empty or a single point say
nothing, two points are kept, exactly two leading slashes are a root of their own. Only
`absolute` cancels two points against the segment before, without looking at any file.
-/
namespace LintBridge

/-- A path: nothing, one slash or two slashes, and the segments after them. -/
structure Path where
  root : String
  segments : List String
  deriving DecidableEq, Repr

namespace Path

def splitSlash : List Char → List (List Char)
  | [] => [[]]
  | '/' :: rest => [] :: splitSlash rest
  | c :: rest =>
    match splitSlash rest with
    | [] => [[c]]
    | segment :: more => (c :: segment) :: more

def rootOf : List Char → String
  | '/' :: '/' :: '/' :: _ => "/"
  | '/' :: '/' :: _ => "//"
  | '/' :: _ => "/"
  | _ => ""

/-- Does a segment say where to go? -/
def isProper (segment : List Char) : Bool :=
  segment != [] && segment != ['.']

def ofString (s : String) : Path :=
  let cs := s.toList
  ⟨rootOf cs, ((splitSlash cs).filter isProper).map String.ofList⟩

/-- The text of a path; the empty relative path is a point. -/
def toString (p : Path) : String :=
  if p.root == "" && p.segments.isEmpty then "." else p.root ++ "/".intercalate p.segments

def isAbsolute (p : Path) : Bool :=
  p.root != ""

/-- The path `q` as seen from `p`: an absolute `q` stands for itself. -/
def join (p q : Path) : Path :=
  if q.isAbsolute then q else ⟨p.root, p.segments ++ q.segments⟩

def parent (p : Path) : Path :=
  ⟨p.root, p.segments.dropLast⟩

/-- The text of a path with everything that says nothing left out. -/
def normal (s : String) : String :=
  (ofString s).toString

/-- Appends a name to a directory, both as text: an absolute name stands for itself, and no slash
is doubled. -/
def append (directory name : String) : String :=
  if name.startsWith "/" then name
  else if directory.isEmpty || directory.endsWith "/" then directory ++ name
  else directory ++ "/" ++ name

def afterSlash (s : String) : String :=
  String.ofList (s.toList.reverse.takeWhile (· != '/')).reverse

/-- Cancels two points against the segment before; above a root there is nothing. -/
def collapse (rooted : Bool) : List String → List String → List String
  | kept, [] => kept.reverse
  | kept, s :: rest =>
    if s == ".." then
      match kept with
      | k :: more =>
        if k == ".." then collapse rooted (s :: kept) rest else collapse rooted more rest
      | [] => if rooted then collapse rooted [] rest else collapse rooted [s] rest
    else collapse rooted (s :: kept) rest

/-- The absolute form of a path's text, relative to the directory `here`. -/
def absolute (here s : String) : String :=
  let p := ofString (append here s)
  toString ⟨p.root, collapse p.isAbsolute [] p.segments⟩

/-- Replaces a leading tilde by the home directory. A tilde with a name is left alone. -/
def expandUser (home s : String) : String :=
  match s.toList with
  | '~' :: rest =>
    match rest with
    | [] | '/' :: _ =>
      let base := (home.toList.reverse.dropWhile (· == '/')).reverse
      match base ++ rest with
      | [] => "/"
      | expanded => String.ofList expanded
    | _ => s
  | _ => s

end Path

end LintBridge
