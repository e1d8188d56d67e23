import LintBridge.Json.Basic
import LintBridge.Text.Numeral

/-!
Reading JSON text. A failure names what was missing and the character at which it was noticed;
positions count characters from zero. Beyond the standard the reader takes `NaN`, `Infinity` and
`-Infinity`, and it refuses whole numbers of more than 4300 digits.
-/
namespace LintBridge.Json

inductive Flaw where
  | expectingValue
  | expectingName
  | expectingColon
  | expectingComma
  | extraData
  | byteOrderMark
  | controlCharacter
  | unterminatedString
  | badEscape
  | badUnicodeEscape
  deriving DecidableEq, Repr

namespace Flaw

def message : Flaw → String
  | expectingValue => "Expecting value"
  | expectingName => "Expecting property name enclosed in double quotes"
  | expectingColon => "Expecting ':' delimiter"
  | expectingComma => "Expecting ',' delimiter"
  | extraData => "Extra data"
  | byteOrderMark => "Unexpected UTF-8 BOM (decode using utf-8-sig)"
  | controlCharacter => "Invalid control character at"
  | unterminatedString => "Unterminated string starting at"
  | badEscape => "Invalid \\escape"
  | badUnicodeEscape => "Invalid \\uXXXX escape"

end Flaw

/-- Where in a text a character stands: line and column from one, offset from zero. -/
structure Place where
  line : Nat
  column : Nat
  offset : Nat
  deriving DecidableEq, Repr

def Place.of (text : List Char) (offset : Nat) : Place :=
  let before := text.take offset
  let tail := before.reverse.takeWhile (· ≠ '\n')
  ⟨before.count '\n' + 1, tail.length + 1, offset⟩

inductive ReadError where
  | malformed (flaw : Flaw) (place : Place)
  /-- A whole number with too many digits. -/
  | hugeNumber (digits : Nat)
  /-- Arrays and objects nested too deeply; true for an array. -/
  | tooDeep (array : Bool)
  deriving DecidableEq, Repr

def ReadError.message : ReadError → String
  | malformed flaw place =>
    s!"{flaw.message}: line {place.line} column {place.column} (char {place.offset})"
  | hugeNumber digits => Text.tooManyDigits digits
  | tooDeep array =>
    "maximum recursion depth exceeded while decoding a JSON " ++
      (if array then "array" else "object") ++ " from a unicode string"

/-- A failure before its place is worked out. -/
inductive Failure where
  | at (flaw : Flaw) (offset : Nat)
  | hugeNumber (digits : Nat)
  | tooDeep (array : Bool)

/-- The rest of a text together with the offset at which it starts. -/
structure Cursor where
  offset : Nat
  rest : List Char

namespace Cursor

def advance (c : Cursor) (n : Nat) : Cursor :=
  ⟨c.offset + n, c.rest.drop n⟩

def isSpace (ch : Char) : Bool :=
  ch == ' ' || ch == '\t' || ch == '\n' || ch == '\r'

def skipSpace (c : Cursor) : Cursor :=
  c.advance (c.rest.takeWhile isSpace).length

def starts (c : Cursor) (word : String) : Bool :=
  word.toList.isPrefixOf c.rest

end Cursor

def hexValue? (ch : Char) : Option Nat :=
  if '0' ≤ ch ∧ ch ≤ '9' then some (ch.toNat - 48)
  else if 'a' ≤ ch ∧ ch ≤ 'f' then some (ch.toNat - 87)
  else if 'A' ≤ ch ∧ ch ≤ 'F' then some (ch.toNat - 55)
  else none

def hexNumber? (digits : List Char) : Option Nat :=
  digits.foldl (fun acc ch => acc.bind fun n => (hexValue? ch).map (n * 16 + ·)) (some 0)

def simpleEscape? : Char → Option Char
  | '"' => some '"'
  | '\\' => some '\\'
  | '/' => some '/'
  | 'b' => some '\x08'
  | 'f' => some '\x0c'
  | 'n' => some '\n'
  | 'r' => some '\r'
  | 't' => some '\t'
  | _ => none

/-- The character of a code unit that no partner completes; a lone surrogate has none. -/
def unitChar (code : Nat) : Char :=
  if 0xD800 ≤ code ∧ code < 0xE000 then '\uFFFD' else Char.ofNat code

/-- What an escape of four hexadecimal digits stands for, given what follows the digits, and how
many of the characters after the digits belong to it: a high surrogate takes the low one with it.
`offset` is where the escape begins. -/
def unicodeEscape (offset code : Nat) (after : List Char) : Except Failure (Char × Nat) :=
  if 0xD800 ≤ code ∧ code < 0xDC00 then
    match after with
    | '\\' :: 'u' :: w :: x :: y :: z :: _ :: _ =>
      match hexNumber? [w, x, y, z] with
      | none => .error (.at .badUnicodeEscape (offset + 7))
      | some low =>
        if 0xDC00 ≤ low ∧ low < 0xE000 then
          .ok (Char.ofNat (0x10000 + (code - 0xD800) * 0x400 + (low - 0xDC00)), 6)
        else .ok (unitChar code, 0)
    | _ => .ok (unitChar code, 0)
  else .ok (unitChar code, 0)

/-- The character that an escape stands for, and how many characters after the backslash belong to
the escape. `opening` is the offset of the opening quote, `offset` that of the backslash. -/
def escape (opening offset : Nat) : List Char → Except Failure (Char × Nat)
  | [] => .error (.at .unterminatedString opening)
  | 'u' :: a :: b :: c :: d :: next :: rest =>
    match hexNumber? [a, b, c, d] with
    | none => .error (.at .badUnicodeEscape (offset + 1))
    | some code => (unicodeEscape offset code (next :: rest)).map fun (ch, n) => (ch, n + 5)
  | 'u' :: _ => .error (.at .badUnicodeEscape (offset + 1))
  | ch :: _ =>
    match simpleEscape? ch with
    | some x => .ok (x, 1)
    | none => .error (.at .badEscape offset)

/-- Reads the rest of a string up to its closing quote. `opening` is the offset of the opening
quote, `skip` characters at the front belong to an escape, and `acc` holds the characters so far in
reverse. -/
def readString (opening offset skip : Nat) (acc : List Char) :
    List Char → Except Failure (String × Cursor)
  | [] => .error (.at .unterminatedString opening)
  | c :: rest =>
    match skip with
    | skip + 1 => readString opening (offset + 1) skip acc rest
    | 0 =>
      if c = '"' then .ok (String.ofList acc.reverse, ⟨offset + 1, rest⟩)
      else if c = '\\' then
        match escape opening offset rest with
        | .error e => .error e
        | .ok (ch, n) => readString opening (offset + 1) n (ch :: acc) rest
      else if c.toNat < 0x20 then .error (.at .controlCharacter offset)
      else readString opening (offset + 1) 0 (c :: acc) rest

def digitsNumber (digits : List Char) : Nat :=
  digits.foldl (fun n ch => n * 10 + (ch.toNat - 48)) 0

/-- The parts of a number's text: sign, whole digits, fraction digits and signed exponent. -/
structure NumberText where
  negative : Bool
  whole : List Char
  fraction : List Char
  exponent : Option (Bool × List Char)
  length : Nat

/-- The longest number at the start of a text. A point without a digit after it and an exponent
without digits do not belong to the number. -/
def scanNumber (text : List Char) : Option NumberText :=
  let (negative, body) := match text with
    | '-' :: rest => (true, rest)
    | _ => (false, text)
  let whole := match body with
    | '0' :: _ => ['0']
    | _ => body.takeWhile Char.isDigit
  if whole.isEmpty then none
  else
    let afterWhole := body.drop whole.length
    let fraction := match afterWhole with
      | '.' :: rest => rest.takeWhile Char.isDigit
      | _ => []
    let afterFraction :=
      if fraction.isEmpty then afterWhole else afterWhole.drop (fraction.length + 1)
    let (exponent, exponentLength) := match afterFraction with
      | e :: rest =>
        if e == 'e' || e == 'E' then
          let (sign, digits) := match rest with
            | '-' :: ds => (some true, ds.takeWhile Char.isDigit)
            | '+' :: ds => (some false, ds.takeWhile Char.isDigit)
            | ds => (none, ds.takeWhile Char.isDigit)
          if digits.isEmpty then (none, 0)
          else (some (sign.getD false, digits), 1 + (if sign.isSome then 1 else 0) + digits.length)
        else (none, 0)
      | [] => (none, 0)
    some ⟨negative, whole, fraction, exponent,
      (if negative then 1 else 0) + whole.length
        + (if fraction.isEmpty then 0 else fraction.length + 1) + exponentLength⟩

/-- The value of a scanned number: whole if it has neither fraction nor exponent. -/
def NumberText.value (t : NumberText) : Except Failure Json :=
  match t.fraction, t.exponent with
  | [], none =>
    if Text.digitLimit < t.whole.length then .error (.hugeNumber t.whole.length)
    else
      let n : Int := digitsNumber t.whole
      .ok (.int (if t.negative then -n else n))
  | fraction, exponent =>
    let shift : Int := match exponent with
      | none => 0
      | some (negative, digits) =>
        let n : Int := digitsNumber digits
        if negative then -n else n
    .ok (.float (Binary64.ofDecimal t.negative (digitsNumber (t.whole ++ fraction))
      (shift - fraction.length)))

def words : List (String × Json) :=
  [("null", .null), ("true", .bool true), ("false", .bool false), ("NaN", .float .notANumber),
    ("Infinity", .float (.infinite false)), ("-Infinity", .float (.infinite true))]

mutual

def readValue : Nat → Nat → Cursor → Except Failure (Json × Cursor)
  | 0, _, c => .error (.at .expectingValue c.offset)
  | fuel + 1, depth, c =>
    match c.rest with
    | [] => .error (.at .expectingValue c.offset)
    | '"' :: rest =>
      (readString c.offset (c.offset + 1) 0 [] rest).map fun (s, next) => (.str s, next)
    | '{' :: _ =>
      if depthLimit < depth then .error (.tooDeep false)
      else
        let inner := (c.advance 1).skipSpace
        match inner.rest with
        | '}' :: _ => .ok (.obj [], inner.advance 1)
        | _ => (readMembers fuel (depth + 1) inner []).map
            fun (pairs, next) => (.obj (Members.ofPairs pairs), next)
    | '[' :: _ =>
      if depthLimit < depth then .error (.tooDeep true)
      else
        let inner := (c.advance 1).skipSpace
        match inner.rest with
        | ']' :: _ => .ok (.arr [], inner.advance 1)
        | _ => (readItems fuel (depth + 1) inner []).map fun (items, next) => (.arr items, next)
    | _ =>
      match words.find? (fun w => c.starts w.1) with
      | some (word, v) => .ok (v, c.advance word.length)
      | none =>
        match scanNumber c.rest with
        | some t => t.value.map fun v => (v, c.advance t.length)
        | none => .error (.at .expectingValue c.offset)

def readItems : Nat → Nat → Cursor → List Json → Except Failure (List Json × Cursor)
  | 0, _, c, _ => .error (.at .expectingValue c.offset)
  | fuel + 1, depth, c, acc =>
    match readValue fuel depth c with
    | .error e => .error e
    | .ok (v, next) =>
      let next := next.skipSpace
      match next.rest with
      | ']' :: _ => .ok ((v :: acc).reverse, next.advance 1)
      | ',' :: _ => readItems fuel depth (next.advance 1).skipSpace (v :: acc)
      | _ => .error (.at .expectingComma next.offset)

def readMembers : Nat → Nat → Cursor → List (String × Json) →
    Except Failure (List (String × Json) × Cursor)
  | 0, _, c, _ => .error (.at .expectingName c.offset)
  | fuel + 1, depth, c, acc =>
    match c.rest with
    | '"' :: rest =>
      match readString c.offset (c.offset + 1) 0 [] rest with
      | .error e => .error e
      | .ok (key, next) =>
        let next := next.skipSpace
        match next.rest with
        | ':' :: _ =>
          match readValue fuel depth (next.advance 1).skipSpace with
          | .error e => .error e
          | .ok (v, next) =>
            let next := next.skipSpace
            match next.rest with
            | '}' :: _ => .ok (((key, v) :: acc).reverse, next.advance 1)
            | ',' :: _ => readMembers fuel depth (next.advance 1).skipSpace ((key, v) :: acc)
            | _ => .error (.at .expectingComma next.offset)
        | _ => .error (.at .expectingColon next.offset)
    | _ => .error (.at .expectingName c.offset)

end

/-- Reads a text that holds one value and nothing else but white space. -/
def read (text : String) : Except ReadError Json :=
  let chars := text.toList
  let place (flaw : Flaw) (offset : Nat) : ReadError := .malformed flaw (Place.of chars offset)
  match chars with
  | '\uFEFF' :: _ => .error (place .byteOrderMark 0)
  | _ =>
    match readValue (2 * chars.length + 2) 0 (Cursor.skipSpace ⟨0, chars⟩) with
    | .error (.at flaw offset) => .error (place flaw offset)
    | .error (.hugeNumber digits) => .error (.hugeNumber digits)
    | .error (.tooDeep array) => .error (.tooDeep array)
    | .ok (v, next) =>
      let next := next.skipSpace
      if next.rest.isEmpty then .ok v else .error (place .extraData next.offset)

end LintBridge.Json
