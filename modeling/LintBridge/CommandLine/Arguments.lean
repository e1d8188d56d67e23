import LintBridge.Json.Basic
import LintBridge.Text.Numeral
import LintBridge.Text.Quoted

/-!
The command line: options may be shortened as long as they stay unambiguous, a value may follow an
equals sign, and everything after a double dash is no option. The first mistake ends the reading,
and so does an option that asks for information.
-/
namespace LintBridge.CommandLine

inductive Switch where
  | help
  | stdio
  | tcp
  | host
  | tcpPort
  | logLevel
  | version
  deriving DecidableEq, Repr

namespace Switch

def spellings : List (String × Switch) :=
  [("-h", help), ("--help", help), ("--stdio", stdio), ("--tcp", tcp), ("--host", host),
    ("--port", tcpPort), ("--log-level", logLevel), ("--version", version)]

/-- What an option is called in messages. -/
def title : Switch → String
  | help => "-h/--help"
  | stdio => "--stdio"
  | tcp => "--tcp"
  | host => "--host"
  | tcpPort => "--port"
  | logLevel => "--log-level"
  | version => "--version"

def hasValue : Switch → Bool
  | host | tcpPort | logLevel => true
  | _ => false

end Switch

def levelChoices : List String := ["DEBUG", "INFO", "WARNING", "ERROR"]

structure Arguments where
  stdio : Bool
  tcp : Bool
  host : String
  tcpPort : Int
  logLevel : Json
  deriving Repr, Inhabited

inductive Mistake where
  | ambiguous (given : String) (candidates : List String)
  | valueMissing (s : Switch)
  | valueIgnored (s : Switch) (value : String)
  | conflict (s other : Switch)
  | notWhole (s : Switch) (value : String)
  | notAChoice (s : Switch) (value : String)
  | leftOver (words : List String)
  deriving DecidableEq, Repr

def Mistake.message : Mistake → String
  | ambiguous given candidates =>
    s!"ambiguous option: {given} could match " ++ ", ".intercalate candidates
  | valueMissing s => s!"argument {s.title}: expected one argument"
  | valueIgnored s value => s!"argument {s.title}: ignored explicit argument {Text.quoted value}"
  | conflict s other => s!"argument {s.title}: not allowed with argument {other.title}"
  | notWhole s value => s!"argument {s.title}: invalid int value: {Text.quoted value}"
  | notAChoice s value =>
    s!"argument {s.title}: invalid choice: {Text.quoted value} (choose from " ++
      ", ".intercalate (levelChoices.map Text.quoted) ++ ")"
  | leftOver words => "unrecognized arguments: " ++ " ".intercalate words

/-! ### Words -/

inductive Word where
  | plain
  | doubleDash
  /-- An option, and the value that is written in the same word. -/
  | switch (s : Switch) (value : Option String)
  /-- The short option for help with more letters after its own. -/
  | cluster (letters : List Char)
  | unknown
  deriving DecidableEq, Repr

def isNegativeNumber (word : String) : Bool :=
  let isDigit (c : Char) : Bool := (Text.digitValue? c).isSome
  match word.toList with
  | '-' :: rest =>
    let body := if rest.getLast? == some '\n' then rest.dropLast else rest
    let whole := body.takeWhile isDigit
    match body.drop whole.length with
    | [] => !whole.isEmpty
    | '.' :: fraction => !fraction.isEmpty && fraction.all isDigit
    | _ => false
  | _ => false

/-- A word without an equals sign and what follows it, and what follows it. -/
def splitEquals (word : String) : String × Option String :=
  let cs := word.toList
  let before := cs.takeWhile (· != '=')
  match cs.drop before.length with
  | _ :: after => (String.ofList before, some (String.ofList after))
  | [] => (word, none)

def startingWith (start : String) : List (String × Switch) :=
  Switch.spellings.filter fun p => p.1.startsWith start

/-- What a word is that is no full spelling. -/
def classifyPartial (word : String) : Except Mistake Word :=
  let (start, value) := splitEquals word
  match word.toList with
  | '-' :: '-' :: _ =>
    match startingWith start with
    | [] => .ok (if word.contains ' ' then .plain else .unknown)
    | [(_, s)] => .ok (.switch s value)
    | several => .error (.ambiguous word (several.map Prod.fst))
  | '-' :: 'h' :: letters => .ok (.cluster letters)
  | _ =>
    .ok (if isNegativeNumber word || word.contains ' ' then .plain else .unknown)

/-- What a word is, before any double dash. -/
def classify (word : String) : Except Mistake Word :=
  if word == "--" then .ok .doubleDash
  else if !word.startsWith "-" || word == "-" then .ok .plain
  else
    match Switch.spellings.lookup word with
    | some s => .ok (.switch s none)
    | none =>
      let (start, value) := splitEquals word
      match value, Switch.spellings.lookup start with
      | some v, some s =>
        .ok (if start == "-h" && v != "" then .cluster v.toList else .switch s (some v))
      | _, _ => classifyPartial word

def classifyAll : List String → Except Mistake (List (String × Word))
  | [] => .ok []
  | word :: rest => do
    match ← classify word with
    | .doubleDash => return (word, .doubleDash) :: rest.map fun w => (w, .plain)
    | kind => return (word, kind) :: (← classifyAll rest)

/-! ### Reading -/

inductive Reading where
  | arguments (a : Arguments)
  | help
  | version
  | mistake (m : Mistake)
  deriving Repr

/-- What more letters after the option for help come to: they may only repeat it. -/
def readCluster (letters : List Char) : Reading :=
  match letters.dropWhile (· == 'h') with
  | [] => .help
  | rest => .mistake (.valueIgnored .help (String.ofList rest))

def setValue (a : Arguments) (s : Switch) (value : String) : Except Mistake Arguments :=
  match s with
  | .host => .ok { a with host := value }
  | .tcpPort =>
    match Text.readNumeral value with
    | .ok n => .ok { a with tcpPort := n }
    | .error _ => .error (.notWhole s value)
  | .logLevel =>
    if levelChoices.contains value then .ok { a with logLevel := .str value }
    else .error (.notAChoice s value)
  | _ => .ok a

/-- Reads classified words; `extra` holds those that fit nowhere, in reverse. -/
def readWords (a : Arguments) (extra : List String) : List (String × Word) → Reading
  | [] => if extra.isEmpty then .arguments a else .mistake (.leftOver extra.reverse)
  | (word, kind) :: rest =>
    match kind with
    | .plain | .doubleDash | .unknown => readWords a (word :: extra) rest
    | .cluster letters => readCluster letters
    | .switch s (some value) =>
      if s.hasValue then
        match setValue a s value with
        | .ok a => readWords a extra rest
        | .error m => .mistake m
      else .mistake (.valueIgnored s value)
    | .switch s none =>
      if s.hasValue then
        match rest with
        | (value, .plain) :: rest =>
          match setValue a s value with
          | .ok a => readWords a extra rest
          | .error m => .mistake m
        | _ => .mistake (.valueMissing s)
      else
        match s with
        | .help => .help
        | .version => .version
        | .stdio =>
          if a.tcp then .mistake (.conflict .stdio .tcp)
          else readWords { a with stdio := true } extra rest
        | .tcp =>
          if a.stdio then .mistake (.conflict .tcp .stdio)
          else readWords { a with tcp := true } extra rest
        | _ => readWords a extra rest

/-- The arguments when nothing is said; the level is the configured one. -/
def defaults (level : Json) : Arguments :=
  ⟨false, false, "127.0.0.1", 2087, level⟩

def read (level : Json) (words : List String) : Reading :=
  match classifyAll words with
  | .error m => .mistake m
  | .ok classified => readWords (defaults level) [] classified

end LintBridge.CommandLine
