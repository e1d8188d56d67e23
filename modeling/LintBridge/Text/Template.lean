/-!
Texts with fields in braces. A field has a name and may have a conversion and a form after it; a
brace that is meant itself is written twice, and ends a part of the text.
-/
namespace LintBridge.Text

/-- Why the braces of a text do not fit together. -/
inductive TemplateFlaw where
  | strayOpening
  | strayClosing
  | openingInName
  | noConversion
  | noColon
  | openForm
  | unclosed
  /-- A field without a name, where values have names. -/
  | unnamed
  deriving DecidableEq, Repr

def TemplateFlaw.message : TemplateFlaw → String
  | strayOpening => "Single '\x7b' encountered in format string"
  | strayClosing => "Single '\x7d' encountered in format string"
  | openingInName => "unexpected '\x7b' in field name"
  | noConversion => "end of string while looking for conversion specifier"
  | noColon => "expected ':' after conversion specifier"
  | openForm => "unmatched '\x7b' in format spec"
  | unclosed => "expected '\x7d' before end of string"
  | unnamed => "Format string contains positional fields"

/-- A part of a text with fields: characters, or a field with the form that its value takes. -/
inductive TemplatePart where
  | text (cs : List Char)
  | field (name form : List Char)
  deriving DecidableEq, Repr

/-- The name of a field whose opening brace was just read, the sign that ends it and what follows.
What is in square brackets belongs to the name; `run` holds the name so far in reverse. -/
def fieldName (run : List Char) : Bool → List Char →
    Except TemplateFlaw (List Char × Char × List Char)
  | _, [] => .error .unclosed
  | true, c :: rest => fieldName (c :: run) (c != ']') rest
  | false, c :: rest =>
    if c == '{' then .error .openingInName
    else if c == '}' || c == ':' || c == '!' then .ok (run.reverse, c, rest)
    else fieldName (c :: run) (c == '[') rest

/-- A form and what follows it: it may hold braces in pairs, of which `depth` are open. `run` holds
the form so far in reverse. -/
def fieldForm (run : List Char) : Nat → List Char → Except TemplateFlaw (List Char × List Char)
  | _, [] => .error .openForm
  | depth, c :: rest =>
    if c == '{' then fieldForm (c :: run) (depth + 1) rest
    else if c == '}' then
      if depth = 0 then .ok (run.reverse, rest) else fieldForm (c :: run) (depth - 1) rest
    else fieldForm (c :: run) depth rest

/-- The form after a conversion, and what follows it. -/
def convertedForm : List Char → Except TemplateFlaw (List Char × List Char)
  | [] => .error .noConversion
  | _ :: '}' :: rest => .ok ([], rest)
  | _ :: ':' :: rest => fieldForm [] 0 rest
  | [_] => .error .openForm
  | _ :: _ :: _ => .error .noColon

/-- A field whose opening brace was just read, and what follows it. -/
def field (cs : List Char) : Except TemplateFlaw (TemplatePart × List Char) := do
  let (name, sign, rest) ← fieldName [] false cs
  let (form, rest) ←
    if sign == '!' then convertedForm rest
    else if sign == ':' then fieldForm [] 0 rest
    else pure ([], rest)
  return (.field name form, rest)

/-- The parts of a text up to the first flaw, and that flaw. `run` holds the characters so far in
reverse. -/
def templateFrom (run : List Char) : Nat → List Char → List TemplatePart × Option TemplateFlaw
  | 0, _ | _, [] => ([.text run.reverse], none)
  | fuel + 1, c :: rest =>
    if c != '{' && c != '}' then templateFrom (c :: run) fuel rest
    else if rest.head? == some c then
      let (parts, flaw?) := templateFrom [] fuel (rest.drop 1)
      (.text (c :: run).reverse :: parts, flaw?)
    else if c == '}' then ([.text run.reverse], some .strayClosing)
    else if rest.isEmpty then ([.text run.reverse], some .strayOpening)
    else
      match field rest with
      | .error flaw => ([.text run.reverse], some flaw)
      | .ok (part, rest) =>
        let (parts, flaw?) := templateFrom [] fuel rest
        (.text run.reverse :: part :: parts, flaw?)

def template (text : String) : List TemplatePart × Option TemplateFlaw :=
  let cs := text.toList
  templateFrom [] cs.length cs

/-! ### Forms -/

/-- On which side of a value blanks are put. -/
inductive Side where
  | before
  | after
  | both
  deriving DecidableEq, Repr

def Side.ofSign? : Char → Option Side
  | '<' => some after
  | '>' => some before
  | '^' => some both
  | _ => none

/-- The form of a value that is text: what it is filled up with to which width. -/
structure Padding where
  fill : Char
  side : Side
  width : Nat
  deriving DecidableEq, Repr

/-- Reads a form: a filling and a sign, a sign alone, or neither, and then the width. -/
def Padding.ofForm (form : List Char) : Padding :=
  let widthOf (cs : List Char) : Nat := ((String.ofList cs).toNat?).getD 0
  match form with
  | [] => ⟨' ', .after, 0⟩
  | [c] =>
    match Side.ofSign? c with
    | some side => ⟨' ', side, 0⟩
    | none => ⟨' ', .after, widthOf [c]⟩
  | c :: d :: rest =>
    match Side.ofSign? d, Side.ofSign? c with
    | some side, _ => ⟨c, side, widthOf rest⟩
    | none, some side => ⟨' ', side, widthOf (d :: rest)⟩
    | none, none => ⟨' ', .after, widthOf (c :: d :: rest)⟩

def Padding.apply (p : Padding) (s : String) : String :=
  let missing := p.width - s.length
  let filling (n : Nat) : String := String.ofList (List.replicate n p.fill)
  match p.side with
  | .after => s ++ filling missing
  | .before => filling missing ++ s
  | .both => filling (missing / 2) ++ s ++ filling (missing - missing / 2)

end LintBridge.Text
