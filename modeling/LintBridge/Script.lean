import LintBridge.Fault
import LintBridge.Json.Printer
import LintBridge.Literal.Value

/-!
The files of linting modules: what executing one does to the module it makes, and how the function
it exports answers a text and its options. The built-in answer `rules` knows two rules, an
undefined variable and a missing semicolon; `echo` tells what it was called with.
-/
namespace LintBridge

/-- How an exported function answers a text and its options. -/
inductive Behavior where
  | rules
  | echo
  | report (v : Json)
  | fails (r : Raised)
  /-- Any function that always gives the same answer to the same text and options. -/
  | computes (f : String → Members → Except Raised Json)
  deriving Inhabited

instance : Repr Behavior where
  reprPrec
    | .rules, _ => "Behavior.rules"
    | .echo, _ => "Behavior.echo"
    | .report v, prec => Repr.addAppParen ("Behavior.report " ++ reprArg v) prec
    | .fails r, prec => Repr.addAppParen ("Behavior.fails " ++ reprArg r) prec
    | .computes _, _ => "Behavior.computes"

/-- What a name of a module stands for: a function, or a value that cannot be called. -/
inductive Export where
  | function (b : Behavior)
  | value (v : Json)
  deriving Repr, Inhabited

/-- The content of a linting module's file. When executed it first takes the label of a sibling,
then sets its own, then fails if it has an import error, then exports. -/
structure Script where
  compiles : Bool
  labelFrom : Option String
  label : Option Json
  importError : Option Raised
  exported : Option (String × Export)
  deriving Repr, Inhabited

namespace Script

def blank : Script := ⟨true, none, none, none, none⟩

def garbled : Script := ⟨false, none, none, none, none⟩

/-- The number of the line on which a script's own statements begin: the label of a sibling is taken
on a line before them. -/
def firstLine (s : Script) : Nat :=
  if s.labelFrom.isSome then 2 else 1

/-- A line of code, as far as it is read. -/
inductive Line where
  | raises (r : Raised)
  | returns (v : Json)
  | defines (name : String)

def raisable : List String := ["Exception", "ValueError", "TypeError", "RuntimeError"]

/-- What follows a word at the beginning of a line. -/
def after? (word line : List Char) : Option (List Char) :=
  if word.isPrefixOf line then some (line.drop word.length) else none

def raisedBy? (call : List Char) : Option Raised :=
  let (kind, rest) := call.span Char.isAlphanum
  if raisable.contains (String.ofList kind) && rest.head? == some '(' && rest.getLast? == some ')'
  then (Literal.read? (rest.drop 1).dropLast).map fun v => ⟨String.ofList kind, [v]⟩
  else none

/-- The name of the function of a text and options whose definition begins. -/
def definedName? (head : List Char) : Option String :=
  let (name, rest) := head.span fun c => c.isAlphanum || c == '_'
  if !(name.head?.any Char.isDigit) && !name.isEmpty && rest == "(text, options):".toList then
    some (String.ofList name)
  else none

/-- Reads a line without the blanks around it. -/
def Line.ofCode? (line : List Char) : Option Line :=
  match after? "raise ".toList line, after? "return ".toList line, after? "def ".toList line with
  | some call, _, _ => (raisedBy? call).map raises
  | _, some value, _ => (Literal.read? value).map returns
  | _, _, some head => (definedName? head).map defines
  | _, _, _ => none

/-- The lines of a text that is executed as it is, those left out that are empty or remarks. Each
comes with whether it is indented, and without the blanks around it. -/
def statements (text : List Char) : List (Bool × List Char) :=
  let isBlank (c : Char) := c == ' ' || c == '\t' || c == '\r' || c == '\x0c'
  (text.splitOn '\n').map (fun line => (line.head?.any isBlank,
      (((line.dropWhile isBlank).reverse.dropWhile isBlank).reverse)))
    |>.filter fun line => !line.2.isEmpty && line.2.head? != some '#'

def behaviorOf? : Line → Option Behavior
  | .raises r => some (.fails r)
  | .returns v => some (.report v)
  | .defines _ => none

/-- The script that lines of code make: errors that are raised when it is executed, and one function
whose body is a single line. -/
def ofLines? : List (Bool × Line) → Option Script
  | [] => some blank
  | (false, .raises r) :: rest => (ofLines? rest).map fun s => { s with importError := some r }
  | (false, .defines name) :: (true, body) :: rest => do
    let behavior ← behaviorOf? body
    let s ← ofLines? rest
    match s.exported with
    | none => some { s with exported := some (name, .function behavior) }
    | some (other, _) => if other == name then some s else none
  | _ => none

/-- A text file taken as a module: one without statements does nothing, and one with statements
other than those that are read cannot be executed. -/
def ofText (text : List Char) : Script :=
  let lines := (statements text).mapM fun line => (Line.ofCode? line.2).map fun l => (line.1, l)
  (lines.bind ofLines?).getD garbled

end Script

/-! ### The built-in rules -/

def indexOf? (word : List Char) : List Char → Option Nat
  | [] => if word.isEmpty then some 0 else none
  | c :: rest =>
    if word.isPrefixOf (c :: rest) then some 0 else (indexOf? word rest).map (· + 1)

namespace Behavior

/-- The messages about one line, which starts at `offset`. -/
def lineMessages (number offset : Nat) (line : List Char) : List Json :=
  let undefinedVariable := match indexOf? "undefinedVar".toList line with
    | some c => [Json.obj [("line", .int number), ("column", .int (c + 1 : Nat)),
        ("severity", .int 2), ("ruleId", .str "no-undef"),
        ("message", .str "'undefinedVar' is not defined.")]]
    | none => []
  let ending := Json.int (offset + line.length : Nat)
  let missingSemicolon :=
    if "let ".toList.isPrefixOf line && line.getLast? != some ';' then
      [Json.obj [("line", .int number), ("column", .int (line.length + 1 : Nat)),
        ("severity", .int 1), ("ruleId", .str "semi"),
        ("message", .str "Missing semicolon."),
        ("fix", .obj [("range", .arr [ending, ending]), ("text", .str ";")])]]
    else []
  undefinedVariable ++ missingSemicolon

def linesMessages (number offset : Nat) : List (List Char) → List Json
  | [] => []
  | line :: rest =>
    lineMessages number offset line ++ linesMessages (number + 1) (offset + line.length + 1) rest

def oneFile (options : Members) (messages : List Json) : Json :=
  .obj [("results", .arr [.obj [("filePath", .ofOption (options.get? "filename")),
    ("messages", .arr messages)]])]

/-- The answer to the `calls`-th call of a function in a module with this label. -/
def answer (b : Behavior) (label : Option Json) (calls : Nat) (text : String)
    (options : Members) : Except Fault Json :=
  match b with
  | rules => .ok (oneFile options (linesMessages 1 0 (text.toList.splitOn '\n')))
  | echo =>
    .ok (oneFile options [.obj [("line", .int calls), ("column", .int (text.length + 1 : Nat)),
      ("severity", .int 2), ("ruleId", .ofOption label),
      ("message", .str (Json.sorted (.obj options)).compress)]])
  | report v => .ok v
  | fails r => .error (.raised r)
  | computes f => (f text options).mapError .raised

end Behavior

end LintBridge
