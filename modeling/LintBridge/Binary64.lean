/-!
Double precision numbers as exact dyadic values. A finite number is a sign, a significand below
`2 ^ 53` and a power of two, so that equality with whole numbers, truncation and decimal rounding
are all computed in whole-number arithmetic, without rounding on the way.
-/
namespace LintBridge

/-- A double precision number; `finite s m q` is `m * 2 ^ q`, negated when `s`. -/
inductive Binary64 where
  | finite (negative : Bool) (significand : Nat) (exponent : Int)
  | infinite (negative : Bool)
  | notANumber
  deriving DecidableEq, Repr, Inhabited

namespace Binary64

/-- The least exponent: a smaller quantum is not representable. -/
def leastExponent : Int := -1074

def greatestExponent : Int := 971

/-- The quotient rounded to the nearest whole number, a half to the even neighbour. -/
def roundDiv (num den : Nat) : Nat :=
  let q := num / den
  let r := num % den
  if 2 * r < den then q else if den < 2 * r then q + 1 else if q % 2 = 0 then q else q + 1

/-- Two to the power of a positive exponent; one for all others. The quotient of
`twoPower q` and `twoPower (-q)` is two to the power of any `q`. -/
def twoPower (e : Int) : Nat := Nat.pow 2 e.toNat

def tenPower (e : Int) : Nat := Nat.pow 10 e.toNat

def significandBound : Nat := twoPower 53

/-- `num / (den * 2 ^ q)` rounded to the nearest whole number. -/
private def scaledRound (num den : Nat) (q : Int) : Nat :=
  roundDiv (num * twoPower (-q)) (den * twoPower q)

private def powerLe (e : Int) (num den : Nat) : Bool :=
  den * twoPower e ≤ num * twoPower (-e)

/-- The double nearest to `num / den`, a tie going to the even significand. -/
def ofRatio (negative : Bool) (num den : Nat) : Binary64 :=
  if num = 0 then .finite negative 0 0
  else
    let guess : Int := (num.log2 : Int) - (den.log2 : Int)
    let top := if powerLe guess num den then guess else guess - 1
    let q := max (top - 52) leastExponent
    let m := scaledRound num den q
    let (m, q) := if m = significandBound then (m / 2, q + 1) else (m, q)
    if m = 0 then .finite negative 0 0
    else if greatestExponent < q then .infinite negative
    else .finite negative m q

/-- How many decimal digits a number has; zero has none. -/
def digitCount (n : Nat) : Nat :=
  if n = 0 then 0 else (Nat.toDigits 10 n).length

/-- The double nearest to `digits * 10 ^ power`. Powers far outside the range are settled before
the exact quotient is formed. -/
def ofDecimal (negative : Bool) (digits : Nat) (power : Int) : Binary64 :=
  if digits = 0 then .finite negative 0 0
  else
    let magnitude := (digitCount digits : Int) + power
    if 310 < magnitude then .infinite negative
    else if magnitude < -330 then .finite negative 0 0
    else ofRatio negative (digits * tenPower power) (tenPower (-power))

/-- The absolute value of a finite number as a quotient. -/
def ratio (significand : Nat) (exponent : Int) : Nat × Nat :=
  (significand * twoPower exponent, twoPower (-exponent))

def isZero : Binary64 → Bool
  | .finite _ m _ => m = 0
  | _ => false

/-- The whole number left when the fraction is cut off; none for infinities and for no number. -/
def truncate? : Binary64 → Option Int
  | .finite s m q =>
    let (num, den) := ratio m q
    let n : Int := (num / den : Nat)
    some (if s then -n else n)
  | _ => none

def eqInt : Binary64 → Int → Bool
  | .finite s m q, n =>
    let (num, den) := ratio m q
    (if s then -(num : Int) else num) == n * den
  | _, _ => false

def gtInt : Binary64 → Int → Bool
  | .finite s m q, n =>
    let (num, den) := ratio m q
    decide (n * den < (if s then -(num : Int) else num))
  | .infinite s, _ => !s
  | .notANumber, _ => false

def ltInt : Binary64 → Int → Bool
  | .finite s m q, n =>
    let (num, den) := ratio m q
    decide ((if s then -(num : Int) else num) < n * den)
  | .infinite s, _ => s
  | .notANumber, _ => false

/-- Numeric equality: zeros of both signs are equal, and no number equals nothing. -/
def numEq : Binary64 → Binary64 → Bool
  | .finite s m q, .finite t n r =>
    let (a, b) := ratio m q
    let (c, d) := ratio n r
    (if s then -(a : Int) else a) * d == (if t then -(c : Int) else c) * b
  | .infinite s, .infinite t => s == t
  | _, _ => false

end Binary64

end LintBridge
