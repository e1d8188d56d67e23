import LintBridge.Json.Basic
import LintBridge.Binary64.Shortest

/-!
Writing JSON compactly: no blanks, members in order, non-ASCII characters as they are. The sorted
form orders members by the code points of their keys at every level.
-/
namespace LintBridge.Json

/-- The four hexadecimal digits of a control character's escape. -/
def hex4 (n : Nat) : List Char :=
  let ds := Nat.toDigits 16 n
  List.replicate (4 - ds.length) '0' ++ ds

def escapeChar (c : Char) : List Char :=
  if c == '"' then ['\\', '"']
  else if c == '\\' then ['\\', '\\']
  else if c == '\n' then ['\\', 'n']
  else if c == '\r' then ['\\', 'r']
  else if c == '\t' then ['\\', 't']
  else if c == '\x0c' then ['\\', 'f']
  else if c == '\x08' then ['\\', 'b']
  else if c.toNat < 0x20 then '\\' :: 'u' :: hex4 c.toNat
  else [c]

def quote (s : String) : String :=
  String.ofList ('"' :: (s.toList.flatMap escapeChar ++ ['"']))

/-- A double as JSON; the three words beyond the standard stand for the special values. -/
def floatText : Binary64 → String
  | .notANumber => "NaN"
  | .infinite s => if s then "-Infinity" else "Infinity"
  | x => x.text

mutual

def compress : Json → String
  | .null => "null"
  | .bool b => if b then "true" else "false"
  | .int n => toString n
  | .float x => floatText x
  | .str s => quote s
  | .arr items => "[" ++ compressItems items ++ "]"
  | .obj members => "\x7b" ++ compressMembers members ++ "\x7d"

def compressItems : List Json → String
  | [] => ""
  | [v] => compress v
  | v :: rest => compress v ++ "," ++ compressItems rest

def compressMembers : List (String × Json) → String
  | [] => ""
  | [(k, v)] => quote k ++ ":" ++ compress v
  | (k, v) :: rest => quote k ++ ":" ++ compress v ++ "," ++ compressMembers rest

end

mutual

/-- The value with the members of every object ordered by key. -/
def sorted : Json → Json
  | .arr items => .arr (sortedItems items)
  | .obj members => .obj ((sortedMembers members).mergeSort fun a b => decide (a.1 ≤ b.1))
  | v => v

def sortedItems : List Json → List Json
  | [] => []
  | v :: rest => sorted v :: sortedItems rest

def sortedMembers : List (String × Json) → List (String × Json)
  | [] => []
  | (k, v) :: rest => (k, sorted v) :: sortedMembers rest

end

end LintBridge.Json
