/-!
The words of a literal expression: names, numbers, quoted texts and signs. A word that is malformed
is a flaw wherever it stands, and so is a bracket that closes what was not opened.
-/
namespace LintBridge.Literal

inductive Flaw where
  | unclosed (opening : Char)
  | unopened (closing : Char)
  | mismatched (closing opening : Char)
  /-- A quoted text without an end; true for one in triple quotes. -/
  | unterminated (triple : Bool)
  | badNumber (kind : String)
  | badDigit (digit : Char) (kind : String)
  | leadingZero
  | afterBackslash
  | forgottenComma
  | assignment
  | mixedBytes
  | noColon
  | noValue
  | malformed
  /-- An expression that has to be worked out. -/
  | computed
  deriving DecidableEq, Repr

/-- The wording of a flaw; none where it has no settled wording. -/
def Flaw.message? : Flaw → Option String
  | unclosed opening => some s!"'{opening}' was never closed"
  | unopened closing => some s!"unmatched '{closing}'"
  | mismatched closing opening =>
    some s!"closing parenthesis '{closing}' does not match opening parenthesis '{opening}'"
  | unterminated false => some "unterminated string literal (detected at line 1)"
  | unterminated true => some "unterminated triple-quoted string literal (detected at line 1)"
  | badNumber kind => some s!"invalid {kind} literal"
  | badDigit digit kind => some s!"invalid digit '{digit}' in {kind} literal"
  | leadingZero =>
    some ("leading zeros in decimal integer literals are not permitted; "
      ++ "use an 0o prefix for octal integers")
  | afterBackslash => some "unexpected character after line continuation character"
  | forgottenComma => some "invalid syntax. Perhaps you forgot a comma?"
  | assignment => some "invalid syntax. Maybe you meant '==' or ':=' instead of '='?"
  | mixedBytes => some "cannot mix bytes and nonbytes literals"
  | noColon => some "':' expected after dictionary key"
  | noValue => some "expression expected after dictionary key and ':'"
  | malformed => some "invalid syntax"
  | computed => none

inductive Token where
  | name (word : String)
  | number (imaginary : Bool)
  /-- A quoted text: is it one of bytes, and do parts of it have to be worked out? -/
  | quoted (bytes formatted : Bool)
  | sign (word : String)
  deriving DecidableEq, Repr

/-! ### Numbers -/

def isNameChar (c : Char) : Bool :=
  c.isAlphanum || c == '_' || 128 ≤ c.toNat

/-- The words that may follow a number without a blank. -/
def numberFollowers : List String :=
  ["and", "else", "for", "if", "in", "is", "or", "not"]

/-- What follows a number, which must not run on as a name. -/
def endNumber (kind : String) (rest : List Char) : Except Flaw (List Char) :=
  match rest with
  | c :: _ =>
    if isNameChar c && !numberFollowers.any (·.toList.isPrefixOf rest) then .error (.badNumber kind)
    else .ok rest
  | [] => .ok []

/-- What follows decimal digits; an underscore stands between two of them. -/
def afterDigits : List Char → Except Flaw (List Char)
  | [] => .ok []
  | ['_'] => .error (.badNumber "decimal")
  | '_' :: d :: rest => if d.isDigit then afterDigits rest else .error (.badNumber "decimal")
  | c :: rest => if c.isDigit then afterDigits rest else .ok (c :: rest)

/-- What follows digits of another base; `ready` tells whether a digit came last. -/
def afterBaseDigits (isDigit : Char → Bool) (kind : String) (ready : Bool) :
    List Char → Except Flaw (List Char)
  | [] => if ready then .ok [] else .error (.badNumber kind)
  | c :: rest =>
    if isDigit c then afterBaseDigits isDigit kind true rest
    else if c == '_' && ready then afterBaseDigits isDigit kind false rest
    else if c.isDigit then .error (.badDigit c kind)
    else if ready then endNumber kind (c :: rest)
    else .error (.badNumber kind)

/-- The kind of a number in another base and its digits, by the letter that names the base. -/
def base? (letter : Char) : Option (String × (Char → Bool)) :=
  match letter.toLower with
  | 'x' => some ("hexadecimal", fun c => c.isDigit || ('a' ≤ c.toLower && c.toLower ≤ 'f'))
  | 'o' => some ("octal", fun c => '0' ≤ c && c ≤ '7')
  | 'b' => some ("binary", fun c => c == '0' || c == '1')
  | _ => none

def afterExponent (rest : List Char) : Except Flaw (List Char) :=
  match rest with
  | e :: more =>
    if e != 'e' && e != 'E' then .ok rest
    else
      match more with
      | '+' :: d :: _ | '-' :: d :: _ =>
        if d.isDigit then afterDigits (more.drop 1) else .error (.badNumber "decimal")
      | d :: _ => if d.isDigit then afterDigits more else .ok rest
      | [] => .ok rest
  | [] => .ok rest

def afterFraction (rest : List Char) : Except Flaw (List Char) :=
  match rest with
  | '.' :: d :: more => if d.isDigit then afterDigits (d :: more) else .ok (d :: more)
  | ['.'] => .ok []
  | _ => .ok rest

def decimal (cs : List Char) : Except Flaw (Token × List Char) := do
  let whole ← afterDigits cs
  let rest ← afterExponent (← afterFraction whole)
  match rest with
  | 'j' :: more | 'J' :: more => return (.number true, ← endNumber "imaginary" more)
  | _ =>
    let digits := cs.take (cs.length - whole.length)
    if rest.length == whole.length && digits.head? == some '0'
        && digits.any fun c => c.isDigit && c != '0' then
      throw .leadingZero
    return (.number false, ← endNumber "decimal" rest)

def number (cs : List Char) : Except Flaw (Token × List Char) :=
  match cs with
  | '0' :: letter :: rest =>
    match base? letter with
    | some (kind, isDigit) =>
      let rest := if rest.head? == some '_' then rest.drop 1 else rest
      (afterBaseDigits isDigit kind false rest).map (Token.number false, ·)
    | none => decimal cs
  | _ => decimal cs

/-! ### Quoted texts -/

def quoteLetters : List String :=
  ["r", "u", "b", "f", "br", "rb", "fr", "rf"]

/-- What follows a text in single quotes whose opening one was just read. -/
def afterQuote (mark : Char) : List Char → Except Flaw (List Char)
  | [] | '\n' :: _ => .error (.unterminated false)
  | '\\' :: _ :: rest => afterQuote mark rest
  | c :: rest => if c == mark then .ok rest else afterQuote mark rest

/-- What follows a text in triple quotes whose opening ones were just read; `run` of the closing
ones came last. -/
def afterTripleQuote (mark : Char) : Nat → List Char → Except Flaw (List Char)
  | _, [] => .error (.unterminated true)
  | run, c :: rest =>
    if c == mark then
      if run == 2 then .ok rest else afterTripleQuote mark (run + 1) rest
    else
      match c, rest with
      | '\\', _ :: rest => afterTripleQuote mark 0 rest
      | _, rest => afterTripleQuote mark 0 rest

/-- What follows a quoted text that begins with the quote `mark`. -/
def quotedEnd (mark : Char) (rest : List Char) : Except Flaw (List Char) :=
  if [mark, mark].isPrefixOf rest then afterTripleQuote mark 0 (rest.drop 2)
  else afterQuote mark rest

/-! ### Signs -/

/-- The signs of more than one character, longer ones first. -/
def longSigns : List String :=
  ["...", "**=", "//=", "<<=", ">>=", "**", "//", "<<", ">>", "==", "!=", "<=", ">=", "->", ":=",
    "+=", "-=", "*=", "/=", "%=", "&=", "|=", "^=", "@=", "<>"]

def signOf (c : Char) (rest : List Char) : String :=
  (longSigns.find? fun s => s.toList.isPrefixOf (c :: rest)).getD c.toString

def closingOf : Char → Char
  | '(' => ')'
  | '[' => ']'
  | _ => '}'

/-- The open brackets after a character, the innermost first. -/
def brackets (opened : List Char) (c : Char) : Except Flaw (List Char) :=
  if c == '(' || c == '[' || c == '{' then .ok (c :: opened)
  else if c == ')' || c == ']' || c == '}' then
    match opened with
    | [] => .error (.unopened c)
    | o :: rest => if closingOf o == c then .ok rest else .error (.mismatched c o)
  else .ok opened

/-! ### Words -/

/-- The word at the front of `c :: rest`, if there is one, the brackets that are open then, and
what follows. -/
def next (opened : List Char) (c : Char) (rest : List Char) :
    Except Flaw (Option Token × List Char × List Char) := do
  if c == ' ' || c == '\t' || c == '\x0c' || (c == '\n' && !opened.isEmpty) then
    return (none, opened, rest)
  if c == '#' then return (none, opened, rest.dropWhile (· != '\n'))
  if c.isDigit || (c == '.' && (rest.head?.map Char.isDigit).getD false) then
    let (token, rest) ← number (c :: rest)
    return (some token, opened, rest)
  if c == '\'' || c == '"' then
    return (some (.quoted false false), opened, ← quotedEnd c rest)
  if isNameChar c then
    let word := c :: rest.takeWhile isNameChar
    let rest := rest.dropWhile isNameChar
    let letters := String.ofList (word.map Char.toLower)
    match rest with
    | mark :: more =>
      if (mark == '\'' || mark == '"') && quoteLetters.contains letters then
        let has := letters.toList.contains
        return (some (.quoted (has 'b') (has 'f')), opened, ← quotedEnd mark more)
    | [] => pure ()
    return (some (.name (String.ofList word)), opened, rest)
  let sign := signOf c rest
  return (some (.sign sign), ← brackets opened c, rest.drop (sign.length - 1))

/-- What is wrong at the end of the words: a bracket that is still open. -/
def endFlaw? (opened : List Char) : Option Flaw :=
  opened.head?.map .unclosed

/-- The words of a text up to its end, or to a backslash that does not end a line, and what is
wrong there. -/
def tokensFrom (opened : List Char) : Nat → List Char → Except Flaw (List Token × Option Flaw)
  | _, [] | 0, _ => .ok ([], endFlaw? opened)
  | fuel + 1, '\\' :: rest =>
    match rest with
    | '\n' :: rest => tokensFrom opened fuel rest
    | _ => .ok ([], some .afterBackslash)
  | fuel + 1, c :: rest => do
    let (token, opened, rest) ← next opened c rest
    let (tokens, flaw?) ← tokensFrom opened fuel rest
    return (token.toList ++ tokens, flaw?)

def tokens (text : String) : Except Flaw (List Token × Option Flaw) :=
  let cs := text.toList
  tokensFrom [] cs.length cs

end LintBridge.Literal
