import LintBridge.Fault
import LintBridge.Log.Basic
import LintBridge.Text.Lower
import LintBridge.Text.Template

/-!
Formats of log lines: texts with fields for what a line holds, and with tags in angle brackets for
its colours. Tags have to name colours and to be closed from the inside out. They are left out of
what is written, which has no colours.
-/
namespace LintBridge.Log

/-! ### Tags -/

def levelTags : List String := ["lvl", "level"]

def wayTags : List String :=
  ["b", "d", "n", "h", "i", "l", "s", "u", "v", "bold", "dim", "normal", "hide", "italic", "blink",
    "strike", "underline", "reverse"]

def letterTags : List String :=
  ["k", "r", "g", "y", "e", "m", "c", "w", "lk", "lr", "lg", "ly", "le", "lm", "lc", "lw", "black",
    "red", "green", "yellow", "blue", "magenta", "cyan", "white", "light-black", "light-red",
    "light-green", "light-yellow", "light-blue", "light-magenta", "light-cyan", "light-white"]

/-- A text in capitals, where it has ASCII letters. -/
def capitals (cs : List Char) : List Char :=
  cs.map Char.toUpper

/-- The tags for the colours behind letters: those for letters, in capitals. -/
def groundTags : List String :=
  letterTags.map fun t => String.ofList (capitals t.toList)

def isColorNumber (cs : List Char) : Bool :=
  !cs.isEmpty && cs.all (fun c => (Text.digitValue? c).isSome) &&
    match Text.readNumeral (String.ofList cs) with
    | .ok n => n ≤ 255
    | .error _ => false

def isHexDigit (c : Char) : Bool :=
  c.isDigit || ('a' ≤ c.toLower && c.toLower ≤ 'f')

def isMixture (cs : List Char) : Bool :=
  match cs with
  | '#' :: digits => (digits.length == 3 || digits.length == 6) && digits.all isHexDigit
  | cs =>
    let parts := cs.splitOn ','
    (parts.length == 1 || parts.length == 3) && parts.all isColorNumber

/-- Does a tag name a colour or a way of writing? -/
def isKnownTag (tag : List Char) : Bool :=
  let name := String.ofList tag
  (levelTags ++ wayTags ++ letterTags ++ groundTags).contains name ||
    match tag with
    | 'f' :: 'g' :: ' ' :: color =>
      letterTags.contains (String.ofList (Text.lower color)) || isMixture color
    | 'b' :: 'g' :: ' ' :: color =>
      groundTags.contains (String.ofList (capitals color)) || isMixture color
    | _ => false

def isTagChar (c : Char) : Bool :=
  c != '<' && c != '>' && !Text.isSpace c

/-- A tag whose opening bracket was just read: whether it closes, its name, and what was read of
it. A blank may stand only after the words `fg` and `bg`. -/
def tag? (cs : List Char) : Option (Bool × List Char × List Char) :=
  let slash := cs.take (if cs.head? == some '/' then 1 else 0)
  let body := cs.drop slash.length
  let start :=
    match body with
    | k :: 'g' :: blank :: _ =>
      if (k == 'f' || k == 'b') && Text.isSpace blank then body.take 3 else []
    | _ => []
  let name := start ++ (body.drop start.length).takeWhile isTagChar
  if (body.drop name.length).head? == some '>' then
    some (!slash.isEmpty, name, slash ++ name ++ ['>'])
  else none

/-- The tags that are open after a tag, the innermost first. -/
def step (opened : List (List Char)) (closes : Bool) (name : List Char) :
    Except Fault (List (List Char)) :=
  if closes then
    match opened with
    | innermost :: outer =>
      if name.isEmpty || name == innermost then .ok outer else .error .badFormat
    | [] => .error .badFormat
  else if isKnownTag name then .ok (name :: opened)
  else .error .badFormat

/-- A text without its tags, and the tags that are open after it. Backslashes before a tag are
halved, and one that is left over makes the tag a text of its own. `skip` characters at the front
belong to a tag, and `run` holds the text since the last tag in reverse. -/
def untag (opened : List (List Char)) (run : List Char) :
    Nat → List Char → Except Fault (List Char × List (List Char))
  | _, [] => .ok (run.reverse, opened)
  | skip + 1, _ :: rest => untag opened run skip rest
  | 0, c :: rest =>
    match if c == '<' then tag? rest else none with
    | none => untag opened (c :: run) 0 rest
    | some (closes, name, body) => do
      let slashes := (run.takeWhile (· == '\\')).length
      let escaped := slashes % 2 == 1
      let opened ← if escaped then pure opened else step opened closes name
      let (more, opened) ← untag opened [] body.length rest
      let kept := (run.drop slashes).reverse ++ List.replicate (slashes / 2) '\\'
      return (kept ++ (if escaped then '<' :: body else []) ++ more, opened)

/-! ### Formats -/

/-- What a field of a format stands for. -/
inductive Source where
  | level
  | message
  | origin
  /-- What the clock says. -/
  | time
  deriving DecidableEq, Repr

def Source.ofName (name : String) : Source :=
  if name == "level" || name == "level.name" then level
  else if name == "message" then message
  else if name == "name" then origin
  else time

/-- What a source says about a line of a part of the program. -/
def Source.value (origin : String) (line : LogLine) : Source → String
  | level => line.level.name
  | message => line.message
  | .origin => origin
  | time => ""

inductive Piece where
  | text (s : String)
  | field (source : Source) (padding : Text.Padding)
  deriving DecidableEq, Repr

/-- A field whose value is written as it is. -/
def Piece.bare (source : Source) : Piece :=
  .field source (.ofForm [])

abbrev Format := List Piece

namespace Format

/-- The pieces that parts stand for; `opened` holds the tags that are open. -/
def ofParts (opened : List (List Char)) : List Text.TemplatePart → Except Fault Format
  | [] => if opened.isEmpty then .ok [] else .error .badFormat
  | .text cs :: rest => do
    let (kept, opened) ← untag opened [] 0 cs
    return .text (String.ofList kept) :: (← ofParts opened rest)
  | .field name form :: rest => do
    let piece := Piece.field (.ofName (String.ofList name)) (.ofForm form)
    return piece :: (← ofParts opened rest)

/-- Reads a format, which is followed by the end of the line. -/
def read (format : String) : Except Fault Format :=
  match Text.template (format ++ "\n") with
  | (parts, none) => ofParts [] parts
  | (_, some _) => .error .badFormat

def render (format : Format) (origin : String) (line : LogLine) : String :=
  String.join (format.map fun
    | .text s => s
    | .field source padding => padding.apply (source.value origin line))

/-- The format of session logs, without the time. -/
def session : Format :=
  [.bare .level, .text " | ", .bare .origin, .text " | ", .bare .message, .text "\n"]

end Format

end LintBridge.Log
