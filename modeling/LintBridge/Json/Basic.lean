import LintBridge.Binary64

/-!
JSON values with everything that an answer can show: whole numbers of any size apart from doubles,
and objects that keep their members in the order of first appearance. Beside the values stand the
three rules by which untyped parts of a report are judged: when a value counts as true, when two
values are equal, and what a value's type is called.
-/
namespace LintBridge

inductive Json where
  | null
  | bool (b : Bool)
  | int (n : Int)
  | float (x : Binary64)
  | str (s : String)
  | arr (items : List Json)
  | obj (members : List (String × Json))
  deriving Repr, Inhabited

/-- The members of an object in the order of first appearance. -/
abbrev Members := List (String × Json)

namespace Members

def get? (ms : Members) (key : String) : Option Json :=
  ms.lookup key

/-- Gives a key a value. A key that is present keeps its place, a new one goes to the end. -/
def put : Members → String → Json → Members
  | [], key, value => [(key, value)]
  | (k, v) :: rest, key, value =>
    if k = key then (k, value) :: rest else (k, v) :: put rest key value

/-- The members written one after another: of a repeated key the last value counts. -/
def ofPairs (pairs : List (String × Json)) : Members :=
  pairs.foldl (fun ms p => ms.put p.1 p.2) []

/-- The members of `ms` overlaid with those of `top`. -/
def overlay (ms top : Members) : Members :=
  top.foldl (fun acc p => acc.put p.1 p.2) ms

def keys (ms : Members) : List String :=
  ms.map Prod.fst

end Members

namespace Json

/-- How deep arrays and objects may be nested. -/
def depthLimit : Nat := 980

def typeName : Json → String
  | .null => "NoneType"
  | .bool _ => "bool"
  | .int _ => "int"
  | .float _ => "float"
  | .str _ => "str"
  | .arr _ => "list"
  | .obj _ => "dict"

/-- A value counts as true unless it is null, false, a zero or empty. -/
def truthy : Json → Bool
  | .null => false
  | .bool b => b
  | .int n => n != 0
  | .float x => !x.isZero
  | .str s => s != ""
  | .arr items => !items.isEmpty
  | .obj members => !members.isEmpty

/-- The first value if it counts as true, otherwise the second. -/
def orElse (a b : Json) : Json :=
  if a.truthy then a else b

/-- The whole number that a truth value or a whole number stands for. -/
def whole? : Json → Option Int
  | .bool b => some (if b then 1 else 0)
  | .int n => some n
  | _ => none

def isNull : Json → Bool
  | .null => true
  | _ => false

def text? : Json → Option String
  | .str s => some s
  | _ => none

def members? : Json → Option Members
  | .obj ms => some ms
  | _ => none

/-- The value of a member; none also for what is not an object. -/
def get? (v : Json) (key : String) : Option Json :=
  v.members?.bind (·.get? key)

def ofOption : Option Json → Json
  | none => .null
  | some v => v

def ofText? : Option String → Json
  | none => .null
  | some s => .str s

/-- The value of a member, null where there is none. -/
def memberOrNull (v : Json) (key : String) : Json :=
  .ofOption (v.get? key)

def textMember? (v : Json) (key : String) : Option String :=
  (v.get? key).bind text?

def textMember (v : Json) (key : String) : String :=
  (v.textMember? key).getD ""

def itemsMember (v : Json) (key : String) : List Json :=
  match v.get? key with
  | some (.arr items) => items
  | _ => []

/-- Equality of numbers, where a truth value is the number 0 or 1. -/
def numAlike (a b : Json) : Bool :=
  match a, b with
  | .float x, .float y => x.numEq y
  | .float x, b => match b.whole? with
    | some n => x.eqInt n
    | none => false
  | a, .float y => match a.whole? with
    | some n => y.eqInt n
    | none => false
  | a, b => match a.whole?, b.whole? with
    | some m, some n => m == n
    | _, _ => false

mutual

/-- Equality of values: numbers and truth values by their number, texts by their characters,
arrays by position and objects by key, whatever the order of their members. -/
def alike : Json → Json → Bool
  | .null, .null => true
  | .str s, .str t => s == t
  | .arr xs, .arr ys => alikeItems xs ys
  | .obj ms, .obj ns => ms.length == ns.length && alikeMembers ms ns
  | a, b => numAlike a b

def alikeItems : List Json → List Json → Bool
  | [], [] => true
  | x :: xs, y :: ys => alike x y && alikeItems xs ys
  | _, _ => false

/-- Has every member its equal among `ns`? -/
def alikeMembers : List (String × Json) → List (String × Json) → Bool
  | [], _ => true
  | (k, v) :: rest, ns =>
    (match ns.lookup k with
      | some w => alike v w
      | none => false) && alikeMembers rest ns

end

end Json

end LintBridge
