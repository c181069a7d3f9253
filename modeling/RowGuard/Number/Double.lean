/-!
# Binary floating-point numbers

Numbers of double precision as exact values: a mantissa of at most 53 bits times a power of two.
Every operation computes exactly on fractions and rounds once, to the nearest such number and on a
tie to the even mantissa.
-/

namespace RowGuard

/-- A number of double precision. A finite one is `mantissa · 2 ^ exponent`; its exponent is the
least possible from -1074 on, so that each number has one form. -/
inductive Double where
  | finite (negative : Bool) (mantissa : Nat) (exponent : Int)
  | infinite (negative : Bool)
  | nan
  deriving DecidableEq, Repr

namespace Double

/-- The quotient of two numbers to the nearest whole one, on a tie to the even one. -/
def roundDiv (num den : Nat) : Nat :=
  let q := num / den
  let r := num % den
  if 2 * r < den then q
  else if den < 2 * r then q + 1
  else q + q % 2

/-- The positive fraction `num / den · 2 ^ (-e)` as a fraction of whole numbers. -/
def scale (num den : Nat) (e : Int) : Nat × Nat :=
  if 0 ≤ e then (num, den * Nat.pow 2 e.toNat) else (num * Nat.pow 2 (-e).toNat, den)

/-- The number nearest to a fraction with the given sign. -/
def ofRatio (negative : Bool) (num den : Nat) : Double :=
  if num = 0 || den = 0 then finite negative 0 (-1074)
  else
    let guess : Int := (num.log2 : Int) - den.log2 - 52
    -- the quotient has 53 bits at one of two neighbouring exponents
    let (n, d) := scale num den guess
    let e := max (if n < d * Nat.pow 2 52 then guess - 1 else guess) (-1074)
    let (n, d) := scale num den e
    let q := roundDiv n d
    let (q, e) := if q = Nat.pow 2 53 then (Nat.pow 2 52, e + 1) else (q, e)
    if 971 < e then infinite negative else finite negative q e

/-- The absolute value of a finite number as a fraction. -/
def ratio (mantissa : Nat) (exponent : Int) : Nat × Nat :=
  if 0 ≤ exponent then (mantissa * Nat.pow 2 exponent.toNat, 1)
  else (mantissa, Nat.pow 2 (-exponent).toNat)

/-- The number nearest to `digits · 10 ^ power`. Far beyond the range no fraction is formed. -/
def ofDecimal (negative : Bool) (digits : Nat) (power : Int) : Double :=
  if digits = 0 then finite negative 0 (-1074)
  else if 310 < power then infinite negative
  else if power + (digits.log2 + 1) < -330 then finite negative 0 (-1074)
  else if 0 ≤ power then ofRatio negative (digits * Nat.pow 10 power.toNat) 1
  else ofRatio negative digits (Nat.pow 10 (-power).toNat)

/-- The whole part of a finite number. -/
def truncate? : Double → Option Int
  | finite negative m e =>
    let (n, d) := ratio m e
    some (if negative then -((n / d : Nat) : Int) else (n / d : Nat))
  | _ => none

/-- A number times a positive whole number. -/
def times (k : Nat) : Double → Double
  | finite negative m e =>
    let (n, d) := ratio m e
    ofRatio negative (n * k) d
  | x => x

/-- A number divided by a positive whole number. -/
def dividedBy (k : Nat) : Double → Double
  | finite negative m e =>
    let (n, d) := ratio m e
    ofRatio negative n (d * k)
  | x => x

/-- The sum of two numbers. -/
def add : Double → Double → Double
  | nan, _ => nan
  | _, nan => nan
  | infinite s, infinite t => if s = t then infinite s else nan
  | infinite s, finite _ _ _ => infinite s
  | finite _ _ _, infinite t => infinite t
  | finite s m e, finite t n f =>
    let (a, b) := ratio m e
    let (c, d) := ratio n f
    let left : Int := if s then -(a * d : Nat) else (a * d : Nat)
    let right : Int := if t then -(c * b : Nat) else (c * b : Nat)
    let sum := left + right
    ofRatio (if sum = 0 then s && t else sum < 0) sum.natAbs (b * d)

/-- The number with the other sign. -/
def neg : Double → Double
  | finite s m e => finite (!s) m e
  | infinite s => infinite (!s)
  | nan => nan

/-- Whether the number is zero, of either sign. -/
def isZero : Double → Bool
  | finite _ m _ => m == 0
  | _ => false

/-- Whether a number equals a whole one. -/
def equalsInt (x : Double) (n : Int) : Bool :=
  match x with
  | finite s m e =>
    let (a, b) := ratio m e
    decide ((if s then -(a : Int) else a) = n * b)
  | _ => false

/-- Whether a number is greater than zero. -/
def isPositive : Double → Bool
  | finite s m _ => !s && m ≠ 0
  | infinite s => !s
  | nan => false

/-- Whether a number is at most a whole one. -/
def atMost (x : Double) (n : Nat) : Bool :=
  match x with
  | finite s m e =>
    let (a, b) := ratio m e
    s || a ≤ n * b
  | infinite s => s
  | nan => false

/-- Whether two numbers are equal: the zeros are, and nothing equals what is not a number. -/
def equals : Double → Double → Bool
  | nan, _ => false
  | _, nan => false
  | x, y => x == y || (x.isZero && y.isZero)

end Double

end RowGuard
