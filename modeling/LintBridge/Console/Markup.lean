import LintBridge.Console.Style
import LintBridge.Literal.Reader
import LintBridge.Text.Emoji

/-!
Texts with tags. A tag in square brackets opens a style or an action, and one with a slash closes
it, by its name or whatever was opened last. Tags are not shown themselves, and they have to be
closed in an order that fits; a style that stays open ends with the text.
-/
namespace LintBridge.Console

/-- A part of a text with tags: characters, or the body of a tag and where it stands. -/
inductive Part where
  | text (cs : List Char)
  | tag (body : List Char) (offset : Nat)
  deriving Repr

def beginsTag (c : Char) : Bool :=
  ('a' ≤ c && c ≤ 'z') || c == '#' || c == '/' || c == '@'

/-- The body of a tag whose opening bracket was just read: it runs to the next closing bracket and
holds no other opening one. -/
def tagBody? (cs : List Char) : Option (List Char) :=
  match cs with
  | first :: rest =>
    let more := rest.takeWhile fun c => c != ']' && c != '['
    if beginsTag first && (rest.drop more.length).head? == some ']' then some (first :: more)
    else none
  | [] => none

/-- Splits a text into parts. Backslashes before a tag are halved, and one that is left over makes
the tag a text of its own. `skip` characters at the front belong to a tag, `run` holds the text so
far in reverse. -/
def partsFrom (offset : Nat) (run : List Char) : Nat → List Char → List Part
  | _, [] => [.text run.reverse]
  | skip + 1, _ :: rest => partsFrom (offset + 1) run skip rest
  | 0, c :: rest =>
    match if c == '[' then tagBody? rest else none with
    | none => partsFrom (offset + 1) (c :: run) 0 rest
    | some body =>
      let slashes := (run.takeWhile (· == '\\')).length
      let halved := List.replicate (slashes / 2) '\\'
      let part := if slashes % 2 == 1 then .text ('[' :: body ++ [']']) else .tag body offset
      .text (run.drop slashes).reverse :: .text halved :: part ::
        partsFrom (offset + 1) [] (body.length + 1) rest

def parts (text : String) : List Part :=
  partsFrom 0 [] 0 text.toList

/-! ### Tags -/

/-- An open tag: its name in the form in which names are compared, and what follows the first equals
sign in it. -/
structure Tag where
  name : String
  parameters : Option (List Char)
  deriving DecidableEq, Repr

def beforeEquals (body : List Char) : List Char :=
  body.takeWhile (· != '=')

def Tag.ofBody (body : List Char) : Except Fault Tag := do
  let given := beforeEquals body
  let parameters := if given.length < body.length then some (body.drop (given.length + 1)) else none
  return ⟨← Style.nameOf given, parameters⟩

/-- Does a tag open an action, rather than a style? -/
def Tag.isAction (t : Tag) : Bool :=
  t.name.toList.head? == some '@'

def isHandlerChar (c : Char) : Bool :=
  c.isAlphanum || c == '_' || c == '.' ||
    (128 ≤ c.toNat && Text.isPrintable c && !Text.isSpace c)

/-- The literal in the parameters of an action: what a handler is given, in its brackets, or all of
the parameters where they do not begin with a handler's name. -/
def literalOf (parameters : List Char) : List Char :=
  match parameters.dropWhile isHandlerChar with
  | [] => "()".toList
  | '(' :: rest =>
    if rest.getLast? == some ')' && !rest.contains '\n' then '(' :: rest else parameters
  | _ => parameters

/-- Checks an action that is closed: its parameters are a literal. -/
def Tag.check (t : Tag) : Except Fault Unit :=
  match t.isAction, t.parameters with
  | true, some (c :: given) =>
    let literal := String.ofList (literalOf (Style.trim (c :: given)))
    match Literal.check literal with
    | .ok () => .ok ()
    | .error flaw => .error (.badParameters literal (String.ofList (c :: given)) flaw)
  | _, _ => .ok ()

/-- Removes the innermost open tag of a name, which is given too. -/
def closeTag (name : String) : List Tag → Option (Tag × List Tag)
  | [] => none
  | t :: rest =>
    if t.name == name then some (t, rest)
    else (closeTag name rest).map fun (closed, rest) => (closed, t :: rest)

/-- The tags that stay open after a closing tag whose body goes on with `more` after the slash. -/
def closeAt (opened : List Tag) (more : List Char) (offset : Nat) : Except Fault (List Tag) := do
  let given := Style.trim (beforeEquals more)
  if given.isEmpty then
    match opened with
    | [] => throw (.nothingToClose "[/]" offset)
    | t :: outer =>
      t.check
      return outer
  else
    match closeTag (← Style.nameOf given) opened with
    | some (t, outer) =>
      t.check
      return outer
    | none => throw (.strayTag (String.ofList ('[' :: '/' :: more ++ [']'])) offset)

/-! ### What is shown -/

/-- An opening bracket that was escaped where no tag is. -/
def unescape : List Char → List Char
  | '\\' :: '[' :: rest => '[' :: unescape rest
  | c :: rest => c :: unescape rest
  | [] => []

/-- The text without its tags and with its emoji; `opened` holds the open tags, the innermost first. -/
def shownFrom (opened : List Tag) : List Part → Except Fault (List Char)
  | [] => .ok []
  | .text cs :: rest => do return Text.spellEmoji (unescape cs) ++ (← shownFrom opened rest)
  | .tag ('/' :: more) offset :: rest => do shownFrom (← closeAt opened more offset) rest
  | .tag body _ :: rest => do shownFrom ((← Tag.ofBody body) :: opened) rest

/-- Checks what the parameters of a style add to it. -/
def checkStyle : Part → Except Fault Unit
  | .text _ | .tag ('/' :: _) _ => .ok ()
  | .tag body _ => do
    let t ← Tag.ofBody body
    match t.parameters with
    | some parameters => let _ ← Style.read (t.name.toList ++ ' ' :: parameters)
    | none => pure ()

def shown (text : String) : Except Fault (List Char) := do
  let cs ← shownFrom [] (parts text)
  (parts text).forM checkStyle
  return cs

end LintBridge.Console
