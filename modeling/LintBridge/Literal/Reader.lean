import LintBridge.Literal.Token

/-!
Reading a literal expression: numbers, quoted texts, `None`, `True`, `False` and `...`, and tuples,
sets and dictionaries of them. What the expression stands for is not kept; reading only says
whether it is a literal, and if not, why.
-/
namespace LintBridge.Literal

inductive Kind where
  | number (imaginary signed : Bool)
  | plain
  /-- An expression that has to be worked out. -/
  | computed
  deriving DecidableEq, Repr

/-- The words that are no names. -/
def keywords : List String :=
  ["and", "as", "assert", "async", "await", "break", "class", "continue", "def", "del", "elif",
    "else", "except", "finally", "for", "from", "global", "if", "import", "in", "is", "lambda",
    "nonlocal", "not", "or", "pass", "raise", "return", "try", "while", "with", "yield"]

def constants : List String := ["None", "True", "False"]

/-- The names that mean something else in some places. -/
def softKeywords : List String := ["match", "case", "_"]

def operators : List String :=
  ["+", "-", "*", "/", "//", "%", "@", "**", "<<", ">>", "&", "|", "^", "==", "!=", "<", ">", "<=",
    ">="]

/-- What comes of joining two operands: a number and an imaginary one make a literal. -/
def Kind.join (sign : String) : Kind → Kind → Kind
  | number false _, number true false => if sign == "+" || sign == "-" then plain else computed
  | _, _ => computed

def Kind.negate (sign : String) : Kind → Kind
  | number imaginary false => if sign == "~" then computed else number imaginary true
  | _ => computed

def Kind.collect (kinds : List Kind) : Kind :=
  if kinds.contains computed then computed else plain

/-- An operator between two operands, and what follows it. -/
def operator? : List Token → Option (String × List Token)
  | .sign s :: rest => if operators.contains s then some (s, rest) else none
  | .name "not" :: .name "in" :: rest => some ("not in", rest)
  | .name "is" :: .name "not" :: rest => some ("is not", rest)
  | .name w :: rest =>
    if w == "and" || w == "or" || w == "in" || w == "is" then some (w, rest) else none
  | _ => none

/-- The flaw of words that do not go on as they should. -/
def Flaw.at (atEnd : Option Flaw) : List Token → Flaw
  | [] => atEnd.getD malformed
  | _ :: _ => malformed

def expect (atEnd : Option Flaw) (sign : String) : List Token → Except Flaw (List Token)
  | .sign s :: rest => if s == sign then .ok rest else .error .malformed
  | rest => .error (Flaw.at atEnd rest)

def isNext (sign : String) (tokens : List Token) : Bool :=
  tokens.head? == some (.sign sign)

/-- Fails at the end of the words if something is wrong there. -/
def peek (atEnd : Option Flaw) (tokens : List Token) : Except Flaw Unit :=
  match tokens, atEnd with
  | [], some flaw => .error flaw
  | _, _ => .ok ()

/-- Is a word a name that can be given a value? -/
def isName (word : String) : Bool :=
  !keywords.contains word && !constants.contains word

/-- May a comma between an expression that begins like `tokens` and another have been forgotten? -/
def mayLackComma : List Token → Bool
  | .name w :: .quoted .. :: _ => !isName w
  | .name w :: _ => !softKeywords.contains w
  | _ => true

/-- Is a text of several quoted ones worked out? All of them are bytes, or none. -/
def joinQuoted (parts : List (Bool × Bool)) : Except Flaw Kind :=
  if parts.any (·.1) && !parts.all (·.1) then .error .mixedBytes
  else .ok (if parts.any (·.2) then .computed else .plain)

def quotedParts : List Token → List (Bool × Bool)
  | .quoted bytes formatted :: rest => (bytes, formatted) :: quotedParts rest
  | _ => []

mutual

def operation (atEnd : Option Flaw) : Nat → List Token → Except Flaw (Kind × List Token)
  | 0, _ => .error .malformed
  | fuel + 1, tokens => do
    let (kind, rest) ← operand atEnd fuel tokens
    operationOn atEnd fuel kind rest

/-- Goes on after an operand. -/
def operationOn (atEnd : Option Flaw) : Nat → Kind → List Token → Except Flaw (Kind × List Token)
  | 0, _, _ => .error .malformed
  | fuel + 1, kind, rest => do
    peek atEnd rest
    match operator? rest with
    | none => return (kind, rest)
    | some (sign, rest) =>
      let (other, rest) ← operand atEnd fuel rest
      operationOn atEnd fuel (kind.join sign other) rest

/-- An operand with the signs before it and the calls and members after it. -/
def operand (atEnd : Option Flaw) : Nat → List Token → Except Flaw (Kind × List Token)
  | 0, _ => .error .malformed
  | fuel + 1, tokens =>
    match tokens with
    | .sign s :: rest =>
      if s == "+" || s == "-" || s == "~" then do
        let (kind, rest) ← operand atEnd fuel rest
        return (kind.negate s, rest)
      else do
        let (kind, rest) ← bracketed atEnd fuel tokens
        members atEnd fuel kind rest
    | .name "not" :: rest => do
      let (_, rest) ← operand atEnd fuel rest
      return (.computed, rest)
    | .name w :: rest =>
      if keywords.contains w then .error .malformed
      else members atEnd fuel (if constants.contains w then .plain else .computed) rest
    | .number imaginary :: rest => members atEnd fuel (.number imaginary false) rest
    | .quoted .. :: _ => do
      let parts := quotedParts tokens
      peek atEnd (tokens.drop parts.length)
      members atEnd fuel (← joinQuoted parts) (tokens.drop parts.length)
    | [] => .error (Flaw.at atEnd [])

/-- Goes on after an operand with what is taken from it. -/
def members (atEnd : Option Flaw) : Nat → Kind → List Token → Except Flaw (Kind × List Token)
  | 0, _, _ => .error .malformed
  | fuel + 1, kind, rest =>
    match rest with
    | .sign "." :: .name w :: rest =>
      if !isName w then .error .malformed
      else members atEnd fuel .computed rest
    | .sign "." :: rest => .error (Flaw.at atEnd rest)
    | .sign "(" :: rest => do
      let (_, rest) ← items atEnd fuel true ")" [] rest
      members atEnd fuel .computed rest
    | rest => do
      peek atEnd rest
      return (kind, rest)

/-- An expression that begins with a sign: one in brackets, or an ellipsis. -/
def bracketed (atEnd : Option Flaw) : Nat → List Token → Except Flaw (Kind × List Token)
  | 0, _ => .error .malformed
  | fuel + 1, tokens =>
    match tokens with
    | .sign "..." :: rest => .ok (.plain, rest)
    | .sign "(" :: rest => do
      let ((kinds, comma), rest) ← items atEnd fuel false ")" [] rest
      match kinds, comma with
      | [kind], false => return (kind, rest)
      | kinds, _ => return (.collect kinds, rest)
    | .sign "[" :: rest => do
      let ((kinds, _), rest) ← items atEnd fuel false "]" [] rest
      return (.collect kinds, rest)
    | .sign "\x7b" :: rest => do
      peek atEnd rest
      if isNext "\x7d" rest then return (.plain, rest.drop 1)
      let (first, after) ← entry atEnd fuel rest
      if isNext ":" after then
        let (kinds, rest) ← pairs atEnd fuel [] rest
        return (.collect kinds, rest)
      else
        let ((kinds, _), rest) ← items atEnd fuel false "\x7d" [first] after
        return (.collect kinds, rest)
    | rest => .error (Flaw.at atEnd rest)

/-- An expression in brackets, where a comma or a second equals sign may have been forgotten. -/
def entry (atEnd : Option Flaw) : Nat → List Token → Except Flaw (Kind × List Token)
  | 0, _ => .error .malformed
  | fuel + 1, tokens => do
    let (kind, rest) ← operation atEnd fuel tokens
    match tokens, rest with
    | .name w :: .sign "=" :: _, .sign "=" :: more =>
      if !isName w then throw .malformed
      let (_, more) ← operation atEnd fuel more
      throw (if isNext "=" more || isNext ":=" more then .malformed else .assignment)
    | _, _ =>
      if ← goesOn atEnd fuel rest then
        throw (if mayLackComma tokens then .forgottenComma else .malformed)
      return (kind, rest)

def goesOn (atEnd : Option Flaw) : Nat → List Token → Except Flaw Bool
  | 0, _ => .error .malformed
  | fuel + 1, rest =>
    match operation atEnd fuel rest with
    | .ok _ => .ok true
    | .error flaw => if some flaw == atEnd then .error flaw else .ok false

/-- Expressions up to a closing bracket, after those in `done`, and whether a comma came last. In a
call they may be named. -/
def items (atEnd : Option Flaw) : Nat → Bool → String → List Kind → List Token →
    Except Flaw ((List Kind × Bool) × List Token)
  | 0, _, _, _, _ => .error .malformed
  | fuel + 1, call, closing, done, tokens => do
    peek atEnd tokens
    match done, tokens with
    | _ :: _, .sign "," :: rest =>
      peek atEnd rest
      if isNext closing rest then return ((done, true), rest.drop 1)
      let (kind, rest) ← item atEnd fuel call rest
      items atEnd fuel call closing (done ++ [kind]) rest
    | _ :: _, rest => return ((done, false), ← expect atEnd closing rest)
    | [], rest =>
      if isNext closing rest then return (([], false), rest.drop 1)
      let (kind, rest) ← item atEnd fuel call rest
      items atEnd fuel call closing [kind] rest

def item (atEnd : Option Flaw) : Nat → Bool → List Token → Except Flaw (Kind × List Token)
  | 0, _, _ => .error .malformed
  | fuel + 1, call, tokens =>
    match call, tokens with
    | true, .name _ :: .sign "=" :: rest => entry atEnd fuel rest
    | _, tokens => entry atEnd fuel tokens

/-- The pairs of a dictionary, after those in `done`. -/
def pairs (atEnd : Option Flaw) : Nat → List Kind → List Token →
    Except Flaw (List Kind × List Token)
  | 0, _, _ => .error .malformed
  | fuel + 1, done, tokens => do
    let (key, rest) ← entry atEnd fuel tokens
    peek atEnd rest
    if !isNext ":" rest then throw .noColon
    let rest := rest.drop 1
    peek atEnd rest
    if isNext "\x7d" rest || isNext "," rest then throw .noValue
    let (value, rest) ← entry atEnd fuel rest
    peek atEnd rest
    let done := done ++ [key, value]
    if isNext "," rest then
      let rest := rest.drop 1
      peek atEnd rest
      if isNext "\x7d" rest then return (done, rest.drop 1)
      pairs atEnd fuel done rest
    else return (done, ← expect atEnd "\x7d" rest)

end

/-- Expressions without brackets around them, up to the end. -/
def expressions (atEnd : Option Flaw) : Nat → List Kind → List Token → Except Flaw (List Kind × Bool)
  | 0, _, _ => .error .malformed
  | fuel + 1, done, tokens => do
    let (kind, rest) ← operation atEnd fuel tokens
    let _ ← goesOn atEnd fuel rest
    let done := done ++ [kind]
    match rest.dropWhile (· == .sign "\n"), rest with
    | [], _ => return (done, false)
    | _, .sign "," :: more =>
      if (more.dropWhile (· == .sign "\n")).isEmpty then
        peek atEnd more
        return (done, true)
      else expressions atEnd fuel done more
    | _, rest => throw (Flaw.at atEnd rest)

def check (text : String) : Except Flaw Unit := do
  let (tokens, atEnd) ← Literal.tokens text
  let (kinds, comma) ← expressions atEnd (8 * tokens.length + 8) [] tokens
  let kind := match kinds, comma with
    | [kind], false => kind
    | kinds, _ => .collect kinds
  if kind = .computed then throw .computed

end LintBridge.Literal
