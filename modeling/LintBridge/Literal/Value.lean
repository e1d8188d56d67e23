import LintBridge.Json.Reader

/-!
Values written as code: null, the truth values, whole numbers in decimal or hexadecimal digits,
texts without escapes, lists and dictionaries whose keys are texts. Anything else is not read.
-/
namespace LintBridge.Literal

def skipBlanks (cs : List Char) : List Char :=
  cs.dropWhile (· == ' ')

/-- The text up to the quote that ends it, and what follows. -/
def readText (quote : Char) (cs : List Char) : Option (String × List Char) :=
  let (text, rest) := cs.span fun c => c != quote && c != '\\' && c != '\n'
  match rest with
  | c :: rest => if c == quote then some (String.ofList text, rest) else none
  | [] => none

/-- The value of a word; a number in decimal digits must not begin with a zero nor be too long. -/
def wordValue? : List Char → Option Json
  | ['N', 'o', 'n', 'e'] => some .null
  | ['T', 'r', 'u', 'e'] => some (.bool true)
  | ['F', 'a', 'l', 's', 'e'] => some (.bool false)
  | ['0'] => some (.int 0)
  | '0' :: 'x' :: digits =>
    if digits.isEmpty then none else (Json.hexNumber? digits).map fun n => .int n
  | cs =>
    if cs.head? == some '0' || !cs.all Char.isDigit then none
    else match Text.readNumeral (String.ofList cs) with
      | .ok n => some (.int n)
      | .error _ => none

mutual

/-- The value that code begins with, and what follows it. -/
def readValue : Nat → List Char → Option (Json × List Char)
  | 0, _ => none
  | fuel + 1, cs =>
    match skipBlanks cs with
    | '"' :: rest => (readText '"' rest).map fun (s, rest) => (.str s, rest)
    | '\'' :: rest => (readText '\'' rest).map fun (s, rest) => (.str s, rest)
    | '[' :: rest => (readItems fuel rest).map fun (vs, rest) => (.arr vs, rest)
    | '\x7b' :: rest =>
      (readMembers fuel rest).map fun (ps, rest) => (.obj (Members.ofPairs ps), rest)
    | cs =>
      let (word, rest) := cs.span Char.isAlphanum
      (wordValue? word).map fun v => (v, rest)

def readItems : Nat → List Char → Option (List Json × List Char)
  | 0, _ => none
  | fuel + 1, cs =>
    match skipBlanks cs with
    | ']' :: rest => some ([], rest)
    | cs => do
      let (v, rest) ← readValue fuel cs
      match skipBlanks rest with
      | ',' :: rest => (readItems fuel rest).map fun (vs, rest) => (v :: vs, rest)
      | ']' :: rest => some ([v], rest)
      | _ => none

def readMembers : Nat → List Char → Option (List (String × Json) × List Char)
  | 0, _ => none
  | fuel + 1, cs =>
    match skipBlanks cs with
    | '\x7d' :: rest => some ([], rest)
    | cs => do
      let (.str key, rest) ← readValue fuel cs | none
      let ':' :: rest := skipBlanks rest | none
      let (v, rest) ← readValue fuel rest
      match skipBlanks rest with
      | ',' :: rest => (readMembers fuel rest).map fun (ps, rest) => ((key, v) :: ps, rest)
      | '\x7d' :: rest => some ([(key, v)], rest)
      | _ => none

end

/-- The value that a whole piece of code stands for. -/
def read? (cs : List Char) : Option Json :=
  match readValue (2 * cs.length + 2) cs with
  | some (v, rest) => if rest.all (· == ' ') then some v else none
  | none => none

end LintBridge.Literal
