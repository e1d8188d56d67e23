import LintBridge.Json.Display

/-!
Errors that code from outside raises. Each has the name of its kind and the arguments it was given,
and its text follows from the two.
-/
namespace LintBridge

/-- An error that was raised: the name of its kind, and what it was given. -/
structure Raised where
  kind : String
  arguments : List Json
  deriving Repr, Inhabited

namespace Raised

def syntaxKinds : List String := ["SyntaxError", "IndentationError", "TabError"]

def importKinds : List String := ["ImportError", "ModuleNotFoundError"]

def systemKinds : List String := [
  "OSError", "BlockingIOError", "ChildProcessError", "ConnectionError", "BrokenPipeError",
  "ConnectionAbortedError", "ConnectionRefusedError", "ConnectionResetError", "FileExistsError",
  "FileNotFoundError", "InterruptedError", "IsADirectoryError", "NotADirectoryError",
  "PermissionError", "ProcessLookupError", "TimeoutError"]

def runtimeKinds : List String := ["RuntimeError", "NotImplementedError", "RecursionError"]

/-- The kind that a name stands for; two names are older ones of the same kind. -/
def kindNamed (name : String) : String :=
  if name == "IOError" || name == "EnvironmentError" then "OSError" else name

/-- What is said of the number of arguments by a kind for which one is not enough. -/
def arityText? (kind : String) : Option String :=
  match kind with
  | "UnicodeDecodeError" | "UnicodeEncodeError" => some "function takes exactly 5 arguments"
  | "UnicodeTranslateError" => some "function takes exactly 4 arguments"
  | "ExceptionGroup" | "BaseExceptionGroup" =>
    some "BaseExceptionGroup.__new__() takes exactly 2 arguments"
  | _ => none

/-- The error that comes of raising one by the name of its kind, with a message or without; null is
no message. A kind for which this is not enough raises an error about that instead. -/
def of (name : String) (message : Option Json) : Raised :=
  let arguments := match message with
    | none | some .null => []
    | some v => [v]
  match arityText? name with
  | some text => ⟨"TypeError", [.str s!"{text} ({arguments.length} given)"]⟩
  | none => ⟨kindNamed name, arguments⟩

/-- The text that arguments make: a single one is shown as it is, several are put in brackets. -/
def textOf : List Json → Except Json.ShowFlaw String
  | [] => .ok ""
  | [v] => v.display
  | vs => (Json.innerItems (Json.depthLimit - 1) vs).map fun text => "(" ++ text ++ ")"

/-- The text of a raised error, unless its arguments have none. A key that was not found is shown in
quotes, and an error about code that cannot be read is never told by an empty text. -/
def message (r : Raised) : Except Json.ShowFlaw String :=
  match r.arguments with
  | [v] => if r.kind == "KeyError" then v.inner else v.display
  | vs => if vs.isEmpty && syntaxKinds.contains r.kind then Json.null.display else textOf vs

end Raised

end LintBridge
