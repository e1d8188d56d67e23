import LintBridge.Path
import LintBridge.Uri.Host
import LintBridge.Text.Utf8

/-!
URIs of documents and the paths they stand for. A URI is split into its scheme, its network
location and its path; percent escapes in the path are bytes of UTF-8, and a faulty run of bytes
becomes a replacement character.
-/
namespace LintBridge.Uri

/-- The parts of a URI that matter; query and fragment are dropped. -/
structure Parts where
  scheme : List Char
  location : List Char
  path : List Char
  deriving DecidableEq, Repr

/-- Control characters and the blank, which are skipped at the front. -/
def isLeading (c : Char) : Bool :=
  c.toNat ≤ 0x20

/-- Tab, line feed and carriage return, which count for nothing anywhere. -/
def isDropped (c : Char) : Bool :=
  c == '\t' || c == '\n' || c == '\r'

def isSchemeChar (c : Char) : Bool :=
  c.isAlphanum || c == '+' || c == '-' || c == '.'

/-- The characters that count. -/
def clean (cs : List Char) : List Char :=
  (cs.dropWhile isLeading).filter (!isDropped ·)

/-- The scheme, in lower case, and the rest. A scheme starts with a letter and ends at a colon. -/
def splitScheme (cs : List Char) : List Char × List Char :=
  let word := cs.takeWhile (· != ':')
  match cs.drop word.length, word with
  | _ :: rest, first :: _ =>
    if first.isAlpha && word.all isSchemeChar then (word.map Char.toLower, rest) else ([], cs)
  | _, _ => ([], cs)

/-- The network location after two slashes, and the rest. -/
def splitLocation : List Char → List Char × List Char
  | '/' :: '/' :: rest =>
    let location := rest.takeWhile fun c => c != '/' && c != '?' && c != '#'
    (location, rest.drop location.length)
  | cs => ([], cs)

def pathPart (cs : List Char) : List Char :=
  (cs.takeWhile (· != '#')).takeWhile (· != '?')

/-- Splits a URI, unless its network location is refused. -/
def split (uri : String) : Except HostFlaw Parts :=
  let (scheme, rest) := splitScheme (clean uri.toList)
  let (location, rest) := splitLocation rest
  match locationFlaw? location with
  | some flaw => .error flaw
  | none =>
    match foldFlaw? location with
    | some flaw => .error flaw
    | none => .ok ⟨scheme, location, pathPart rest⟩

/-- The schemes under which the last segment of a path may end in parameters. -/
def parameterSchemes : List String := [
  "", "ftp", "hdl", "prospero", "http", "imap", "https", "shttp", "rtsp", "rtsps", "rtspu", "sip",
  "sips", "mms", "sftp", "tel"]

/-- The path without the parameters of its last segment, which follow a semicolon. -/
def barePath (parts : Parts) : List Char :=
  if parameterSchemes.contains (String.ofList parts.scheme) then
    let last := (parts.path.reverse.takeWhile (· != '/')).reverse
    parts.path.take (parts.path.length - last.length) ++ last.takeWhile (· != ';')
  else parts.path

/-! ### Percent escapes -/

def isAscii (c : Char) : Bool :=
  c.toNat < 0x80

/-- The bytes of ASCII text: a percent sign and two hexadecimal digits are one byte. -/
def escapedBytes : List Char → List UInt8
  | '%' :: a :: b :: rest =>
    match Json.hexValue? a, Json.hexValue? b with
    | some x, some y => UInt8.ofNat (x * 16 + y) :: escapedBytes rest
    | _, _ => 0x25 :: escapedBytes (a :: b :: rest)
  | c :: rest => UInt8.ofNat c.toNat :: escapedBytes rest
  | [] => []

/-- Undoes percent escapes: every run of ASCII characters is decoded by itself. `run` holds the
run so far in reverse. -/
def unquoteFrom (run : List Char) : List Char → List Char
  | [] => Text.decodeLenient (escapedBytes run.reverse)
  | c :: rest =>
    if isAscii c then unquoteFrom (c :: run) rest
    else Text.decodeLenient (escapedBytes run.reverse) ++ c :: unquoteFrom [] rest

def unquote (cs : List Char) : List Char :=
  unquoteFrom [] cs

def dropDriveSlash : List Char → List Char
  | '/' :: letter :: ':' :: rest => letter :: ':' :: rest
  | cs => cs

/-- The path that a URI stands for; none unless it is the URI of a file. -/
def toPath? (uri : String) : Except Fault (Option Path) :=
  match split uri with
  | .error flaw => .error (.host flaw)
  | .ok parts =>
    if parts.scheme = "file".toList then
      .ok (some (Path.ofString (String.ofList (dropDriveSlash (unquote parts.path)))))
    else .ok none

def toPathText? (uri : String) : Except Fault (Option String) :=
  (toPath? uri).map (·.map Path.toString)

end LintBridge.Uri
