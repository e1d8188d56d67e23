import LintBridge.FileSystem.Edit
import LintBridge.Log.Basic

/-!
Keeping the number of session logs in a directory small. When there are more than wanted, the
oldest go; a file that cannot be removed is reported and the rest still go.
-/
namespace LintBridge.Log

def sessionStart : String := "debug_session_"

def sessionEnd : String := ".log"

def isSessionName (name : String) : Bool :=
  name.startsWith sessionStart && name.endsWith sessionEnd

/-- Those of `sorted` that go so that `max` stay, counted from the front. A limit of zero removes
none, and one below zero removes as many as it is below. -/
def doomed {α : Type} (max : Int) (sorted : List α) : List α :=
  if 0 < max then sorted.take (sorted.length - max.toNat) else sorted.take (-max).toNat

def timed (fs : FileSystem) (directory : String) :
    List String → Except Fault (List (String × Int))
  | [] => .ok []
  | name :: rest => do
    let path := Path.append directory name
    match fs.stat path with
    | .error flaw => throw (.file flaw path)
    | .ok e => return (name, e.changed) :: (← timed fs directory rest)

def byAge (names : List (String × Int)) : List String :=
  (names.mergeSort fun a b => decide (a.2 ≤ b.2)).map Prod.fst

/-- Removes names from a directory one after another, with a line about each. -/
def removeEach (fs : FileSystem) (directory : String) : List String → FileSystem × List LogLine
  | [] => (fs, [])
  | name :: rest =>
    let (fs, line) := match fs.removeFile (Path.append directory name) with
      | .ok after => (after, ⟨.debug, s!"Cleaned up old log file: {name}"⟩)
      | .error e =>
        (fs, (⟨.warning, s!"Failed to remove old log file {name}: {e.message}"⟩ : LogLine))
    let (fs, lines) := removeEach fs directory rest
    (fs, line :: lines)

/-- Are there more names than a limit given as a value? -/
def exceeds (count : Nat) (max : Json) : Except Fault Bool :=
  match max with
  | .float x => .ok (x.ltInt count)
  | v =>
    match v.whole? with
    | some n => .ok (n < count)
    | none => .error (.notOrdered ">" "int" v.typeName)

/-- The names that go when `max` session logs may stay in a directory. A limit that is no whole
number is noticed only when it is exceeded. -/
def toRemove (fs : FileSystem) (directory : String) (max : Json) : Except Fault (List String) := do
  let names := (← fs.list directory).filter isSessionName
  if ← exceeds names.length max then
    let sorted := byAge (← timed fs directory names)
    match max.whole? with
    | some n => return doomed n sorted
    | none => throw .notAnOffset
  else return []

/-- Is a fault one that the file system reports? -/
def isReported : Fault → Bool
  | .file .nullCharacter _ => false
  | .file _ _ => true
  | _ => false

/-- Prunes the session logs in a directory, with a line about all that happened. -/
def prune (fs : FileSystem) (directory : String) (max : Json) :
    Except Fault (FileSystem × List LogLine) :=
  match toRemove fs directory max with
  | .ok names => .ok (removeEach fs directory names)
  | .error e =>
    if isReported e then
      .ok (fs, [⟨.warning, s!"Failed to clean up old log files: {e.message}"⟩])
    else .error e

end LintBridge.Log
