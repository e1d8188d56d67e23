import LintBridge.Binary64

/-!
The shortest decimal that reads back as a given double. For one, two, … seventeen digits the two
neighbours of the value on that decimal grid are tested against the interval of reals that round
to the value; the first grid with a hit wins, and of two hits the nearer one.
-/
namespace LintBridge.Binary64

/-- A decimal in scientific form: the value is `0.d₁d₂…` shifted so that `d₁` stands for
`10 ^ exponent`. -/
structure Scientific where
  digits : List Char
  exponent : Int
  deriving Repr, DecidableEq

private def tenLe (e : Int) (num den : Nat) : Bool :=
  den * tenPower e ≤ num * tenPower (-e)

/-- The greatest `e` with `10 ^ e ≤ m * 2 ^ q`, for a positive `m`. -/
def decimalExponent (m : Nat) (q : Int) : Int :=
  let (num, den) := ratio m q
  let guess := Int.fdiv (((m.log2 : Int) + q) * 1233) 4096
  if tenLe (guess + 1) num den then guess + 1
  else if tenLe guess num den then guess
  else guess - 1

/-- The interval of a double in quarters of its quantum, and whether its ends belong to it. Below
a power of two the next double is only half as far away. -/
private def quarterInterval (m : Nat) (q : Int) : Nat × Nat × Bool :=
  let low := if 2 * m = significandBound ∧ leastExponent < q then 4 * m - 1 else 4 * m - 2
  (low, 4 * m + 2, m % 2 = 0)

/-- The candidate on the grid of `10 ^ k`, if one of the two neighbours lies in the interval. -/
private def onGrid (m : Nat) (q k : Int) : Option Nat :=
  let (low, high, closed) := quarterInterval m q
  -- Everything is measured in quarter quanta: `d * 10 ^ k` against `x * 2 ^ (q - 2)`.
  let two := q - 2
  let decimal (d : Nat) : Nat := d * tenPower k * twoPower (-two)
  let binary (x : Nat) : Nat := x * twoPower two * tenPower (-k)
  let within (d : Nat) : Bool :=
    if closed then binary low ≤ decimal d ∧ decimal d ≤ binary high
    else binary low < decimal d ∧ decimal d < binary high
  let value := binary (4 * m)
  let d := value / decimal 1
  match within d && 0 < d, within (d + 1) with
  | true, false => some d
  | false, true => some (d + 1)
  | true, true =>
    let below := value - decimal d
    let above := decimal (d + 1) - value
    if below < above then some d else if above < below then some (d + 1)
    else if d % 2 = 0 then some d else some (d + 1)
  | false, false => none

/-- Drops the zeros at the end, but never the first digit. -/
private def trimZeros (ds : List Char) : List Char :=
  match (ds.reverse.dropWhile (· == '0')).reverse with
  | [] => ['0']
  | kept => kept

def shortest (m : Nat) (q : Int) : Scientific :=
  let top := decimalExponent m q
  let found := findFrom 17 top
  let ds := Nat.toDigits 10 found.1
  ⟨trimZeros ds, found.2 + (ds.length : Int) - 1⟩
where
  findFrom : Nat → Int → Nat × Int
    | 0, k => (0, k)
    | count + 1, k =>
      match onGrid m q k with
      | some d => (d, k)
      | none => findFrom count (k - 1)

/-- Which exponents are written positionally, and how many digits an exponent has at least. -/
structure Style where
  lowest : Int
  highest : Int
  exponentWidth : Nat

def Style.standard : Style := ⟨-4, 15, 2⟩

private def zeros (n : Nat) : List Char := List.replicate n '0'

/-- Writes a decimal under a style; a number without a fraction keeps `.0` in positional form. -/
def Scientific.render (style : Style) (x : Scientific) : List Char :=
  let e := x.exponent
  if style.lowest ≤ e ∧ e ≤ style.highest then
    if e < 0 then ['0', '.'] ++ zeros (-e - 1).toNat ++ x.digits
    else
      let whole := e.toNat + 1
      if x.digits.length ≤ whole then
        x.digits ++ zeros (whole - x.digits.length) ++ ['.', '0']
      else x.digits.take whole ++ ['.'] ++ x.digits.drop whole
  else
    let mantissa := match x.digits with
      | [d] => [d]
      | d :: ds => d :: '.' :: ds
      | [] => ['0']
    let width := Nat.toDigits 10 e.natAbs
    mantissa ++ ['e', if e < 0 then '-' else '+']
      ++ zeros (style.exponentWidth - width.length) ++ width

/-- The text of a number: the shortest decimal that reads back as it. -/
def text : Binary64 → String
  | .notANumber => "nan"
  | .infinite s => if s then "-inf" else "inf"
  | .finite s m q =>
    let body := if m = 0 then ['0', '.', '0'] else (shortest m q).render Style.standard
    String.ofList (if s then '-' :: body else body)

end LintBridge.Binary64
