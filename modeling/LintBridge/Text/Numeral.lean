import LintBridge.Text.Digit

/-!
Whole numbers written out: white space around, a sign, decimal digits of any script and single
underscores between digits. More than 4300 digits are refused, whatever follows them.
-/
namespace LintBridge.Text

/-- The greatest number of digits of a whole number. -/
def digitLimit : Nat := 4300

def tooManyDigits (digits : Nat) : String :=
  s!"Exceeds the limit ({digitLimit} digits) for integer string conversion: value has {digits} " ++
    "digits; use sys.set_int_max_str_digits() to increase the limit"

inductive NumeralFlaw where
  | malformed
  | tooLong (digits : Nat)
  deriving DecidableEq, Repr

/-- The digits of a numeral, or none where it breaks the rules. `afterDigit` says whether an
underscore may come next. -/
def numeralDigits : Bool → List Char → Option (List Nat)
  | afterDigit, [] => if afterDigit then some [] else none
  | true, '_' :: rest => numeralDigits false rest
  | _, c :: rest =>
    match digitValue? c with
    | some d => (numeralDigits true rest).map (d :: ·)
    | none => none

/-- Splits the sign off a numeral; true for a minus sign. -/
def splitSign : List Char → Bool × List Char
  | '-' :: rest => (true, rest)
  | '+' :: rest => (false, rest)
  | cs => (false, cs)

def numeralValue (negative : Bool) (digits : List Nat) : Int :=
  let n : Int := (digits.foldl (fun n d => n * 10 + d) 0 : Nat)
  if negative then -n else n

def isNumeralChar (c : Char) : Bool :=
  c == '_' || (digitValue? c).isSome

def readNumeral (s : String) : Except NumeralFlaw Int :=
  let (negative, body) := splitSign (s.toList.dropWhile isBlank)
  let word := body.takeWhile isNumeralChar
  match numeralDigits false word with
  | none => .error .malformed
  | some digits =>
    if digitLimit < digits.length then .error (.tooLong digits.length)
    else if (body.drop word.length).all isBlank then .ok (numeralValue negative digits)
    else .error .malformed

end LintBridge.Text
