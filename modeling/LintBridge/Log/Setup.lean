import LintBridge.Host
import LintBridge.Log.Format
import LintBridge.Log.Pruning

/-!
Where log lines go. Lines of at least the wanted level are written to standard error in the
configured format; at the level `DEBUG` they also go to a new file in the directory of session
logs, whose older files are then pruned. Fields in the path of that file are filled in, while its
directory is made and pruned under the path as it is.
-/
namespace LintBridge.Log

/-- What the part of the program that sets up logging is called in log lines. -/
def ownOrigin : String := "marlint_server.utils.logging"

/-- Where lines go: the least level and the format on standard error, the session log if there is
one, and what was written to standard error so far. -/
structure Sinks where
  threshold : Int
  format : Format
  sessionFile : Option String
  written : String
  deriving Repr

/-- Appends to a file that is there. -/
def appendTo (fs : FileSystem) (path text : String) : FileSystem :=
  match fs.locate true path with
  | .error _ => fs
  | .ok place =>
    match fs.node? place with
    | some (.file bytes) => fs.putNode place (.file (bytes ++ Text.encodeUtf8 text))
    | _ => fs

def Sinks.emit (s : Sinks) (fs : FileSystem) (origin : String) (line : LogLine) :
    Sinks × FileSystem :=
  let s' := if s.threshold ≤ line.level.weight then
      { s with written := s.written ++ s.format.render origin line }
    else s
  match s.sessionFile with
  | some path =>
    if LogLevel.debug.weight ≤ line.level.weight then
      (s', appendTo fs path (Format.session.render origin line))
    else (s', fs)
  | none => (s', fs)

def Sinks.emitAll (s : Sinks) (fs : FileSystem) (origin : String) (lines : List LogLine) :
    Sinks × FileSystem :=
  lines.foldl (fun (s, fs) line => s.emit fs origin line) (s, fs)

def sessionLimit : Json := .int 10

/-- What a field in the path of a session log stands for: only the time is known. -/
def fieldValue (stamp : String) (name : List Char) : Except Fault (List Char) :=
  let key := name.takeWhile fun c => c != '.' && c != '['
  if key.all fun c => (Text.digitValue? c).isSome then .error (.badTemplate .unnamed)
  else if key == "time".toList then .ok stamp.toList
  else .error (.noKey (Text.quoted (String.ofList key)))

def filled (stamp path : String) : Except Fault String := do
  let (parts, flaw?) := Text.template path
  let pieces ← parts.mapM fun
    | .text cs => pure cs
    | .field name _ => fieldValue stamp name
  match flaw? with
  | some flaw => throw (.badTemplate flaw)
  | none => return String.ofList pieces.flatten

/-- Starts a session log: its directory is made, the file is begun, and older ones are pruned. -/
def startSession (fs : FileSystem) (s : Sinks) (directory stamp : String) :
    Except Fault (Sinks × FileSystem) := do
  let fs ← fs.makeDirectories directory
  let path := Path.append directory (sessionStart ++ stamp ++ sessionEnd)
  let place := Path.absolute (FileSystem.text fs.here) (← filled stamp path)
  let fs ← fs.makeDirectories (FileSystem.splitLast place).1
  let fs := fs.write place (.file [])
  let s := { s with sessionFile := some place }
  let (s, fs) := s.emit fs ownOrigin
    ⟨.debug, s!"Debug logging enabled. Logs will be stored in {path}"⟩
  let (fs, lines) ← prune fs directory sessionLimit
  return s.emitAll fs ownOrigin lines

def levelOf (name : String) : Except Fault LogLevel :=
  match LogLevel.ofName? name with
  | some level => .ok level
  | none => .error (.unknownLevel name)

/-- The weight from which on lines are written: that of a level by its name, or a number. -/
def thresholdOf (level : Json) : Except Fault Int :=
  match level with
  | .str name => (levelOf name).map fun l => (l.weight : Int)
  | v =>
    match v.whole? with
    | some n => if n < 0 then .error (.about (Json.digits n) .negativeLevel) else .ok n
    | none => .error (.notLevel v.typeName)

def formatOf (c : Config) : Except Fault Format :=
  match c.logging.format with
  | .str format => Format.read format
  | v => .error (.notFormat v.typeName)

def setupWith (c : Config) (fs : FileSystem) (level : Json) (stamp : String) :
    Except Fault (Sinks × FileSystem) := do
  let sinks : Sinks := ⟨← thresholdOf level, ← formatOf c, none, ""⟩
  if level.text? == some "DEBUG" then
    match c.logging.directory with
    | .str directory => startSession fs sinks directory stamp
    | v => throw (.notPathText v.typeName)
  else return (sinks, fs)

/-- Sets up logging at a level; `stamp` tells the session log from others. -/
def setup (h : Host) (level : Json) (stamp : String) : Except Fault Sinks × Host :=
  match h.currentConfig with
  | (.error e, h) => (.error e, h)
  | (.ok (_, c), h) =>
    match setupWith c h.files level stamp with
    | .error e => (.error e, h)
    | .ok (sinks, files) => (.ok sinks, { h with files := files })

end LintBridge.Log
