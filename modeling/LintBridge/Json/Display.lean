import LintBridge.Binary64.Shortest
import LintBridge.Json.Basic
import LintBridge.Text.Numeral
import LintBridge.Text.Quoted

/-!
Values inside messages. A text stands for itself at the top and in quotes inside a list or an
object; null, the truth values and doubles have words of their own. A value that holds a whole
number of too many digits, or that is nested too deep, has no text.
-/
namespace LintBridge.Json

/-- Why a value has no text. -/
inductive ShowFlaw where
  | tooManyDigits
  | tooDeep
  deriving DecidableEq, Repr

def ShowFlaw.message : ShowFlaw → String
  | tooManyDigits =>
    s!"Exceeds the limit ({Text.digitLimit} digits) for integer string conversion; " ++
      "use sys.set_int_max_str_digits() to increase the limit"
  | tooDeep => "maximum recursion depth exceeded while getting the repr of an object"

/-- A whole number in decimal digits, unless it has too many. -/
def digits (n : Int) : Except ShowFlaw String :=
  if (Nat.toDigits 10 n.natAbs).length ≤ Text.digitLimit then .ok (toString n)
  else .error .tooManyDigits

mutual

/-- A value as it is shown inside another, where lists and objects may be nested to this depth. -/
def innerWithin (depth : Nat) : Json → Except ShowFlaw String
  | .null => .ok "None"
  | .bool b => .ok (if b then "True" else "False")
  | .int n => digits n
  | .float x => .ok x.text
  | .str s => .ok (Text.quoted s)
  | .arr items =>
    if depth = 0 then .error .tooDeep
    else (innerItems (depth - 1) items).map fun text => "[" ++ text ++ "]"
  | .obj members =>
    if depth = 0 then .error .tooDeep
    else (innerMembers (depth - 1) members).map fun text => "\x7b" ++ text ++ "\x7d"

def innerItems (depth : Nat) : List Json → Except ShowFlaw String
  | [] => .ok ""
  | [v] => innerWithin depth v
  | v :: rest => do
    let first ← innerWithin depth v
    let others ← innerItems depth rest
    return first ++ ", " ++ others

def innerMembers (depth : Nat) : List (String × Json) → Except ShowFlaw String
  | [] => .ok ""
  | [(k, v)] => (innerWithin depth v).map fun text => Text.quoted k ++ ": " ++ text
  | (k, v) :: rest => do
    let first ← innerWithin depth v
    let others ← innerMembers depth rest
    return Text.quoted k ++ ": " ++ first ++ ", " ++ others

end

def inner (v : Json) : Except ShowFlaw String :=
  innerWithin depthLimit v

/-- A value as a message shows it. -/
def display : Json → Except ShowFlaw String
  | .str s => .ok s
  | v => v.inner

end LintBridge.Json
