import RowGuard.Number.Double

/-!
# The shortest decimal of a number

The decimal with the fewest digits among those that lie nearer to a number than to any other, and
of those with equally many digits the nearest. It is found on the grids of one, two, … digits,
where only the two neighbours of the number need to be looked at. How the digits are laid out is
decided by `DecimalFormat`.
-/

namespace RowGuard.Double

/-- A positive decimal `digits · 10 ^ power`. -/
structure Decimal where
  digits : Nat
  power : Int
  deriving DecidableEq, Repr

/-- Compares `a · 10 ^ p` with the fraction `n / d`. -/
def Decimal.compare (a : Decimal) (n d : Nat) : Ordering :=
  if 0 ≤ a.power then Ord.compare (a.digits * Nat.pow 10 a.power.toNat * d) n
  else Ord.compare (a.digits * d) (n * Nat.pow 10 (-a.power).toNat)

/-- Whether a decimal lies in the interval that rounds to `m · 2 ^ e`. The ends belong to it when
the mantissa is even; below a power of two the numbers stand twice as close. -/
def Decimal.roundsTo (a : Decimal) (m : Nat) (e : Int) : Bool :=
  let narrow := m = Nat.pow 2 52 && -1074 < e
  let (ln, ld) := if narrow then ratio (4 * m - 1) (e - 2) else ratio (2 * m - 1) (e - 1)
  let (hn, hd) := ratio (2 * m + 1) (e - 1)
  let isEven := m % 2 == 0
  let low := a.compare ln ld
  let high := a.compare hn hd
  (low == .gt || (isEven && low == .eq)) && (high == .lt || (isEven && high == .eq))

/-- The power of ten of the first digit of a positive fraction. -/
def leadingPower (n d : Nat) : Int :=
  let guess : Int := ((n.log2 : Int) - d.log2) * 30103 / 100000
  let fits (p : Int) : Bool := (Decimal.mk 1 p).compare n d != .gt
  if fits (guess + 1) then guess + 1 else if fits guess then guess else guess - 1

/-- The neighbours of `n / d` among the multiples of `10 ^ power`. -/
def neighbours (n d : Nat) (power : Int) : Nat × Nat :=
  let (n, d) :=
    if 0 ≤ power then (n, d * Nat.pow 10 power.toNat) else (n * Nat.pow 10 (-power).toNat, d)
  (n / d, n / d + 1)

/-- The shortest decimal of `m · 2 ^ e`, sought among those of `count` up to 17 digits. -/
def shortestFrom (m : Nat) (e : Int) (top : Int) : Nat → Decimal
  | 0 =>
    let (n, d) := ratio m e
    ⟨(neighbours n d (top - 16)).1, top - 16⟩
  | fuel + 1 =>
    let count : Int := 17 - fuel
    let power := top - count + 1
    let (n, d) := ratio m e
    let (below, above) := neighbours n d power
    let low : Decimal := ⟨below, power⟩
    let high : Decimal := ⟨above, power⟩
    match low.roundsTo m e, high.roundsTo m e with
    | true, true =>
      -- the nearer one; on a tie the even one
      match (Decimal.mk (below + above) power).compare (2 * n) d with
      | .gt => low
      | .lt => high
      | .eq => if below % 2 == 0 then low else high
    | true, false => low
    | false, true => high
    | false, false => shortestFrom m e top fuel

/-- The digits of a decimal without the zeros at the end. -/
def Decimal.strip (fuel : Nat) (a : Decimal) : Decimal :=
  match fuel with
  | 0 => a
  | fuel + 1 =>
    if a.digits ≠ 0 && a.digits % 10 == 0 then Decimal.strip fuel ⟨a.digits / 10, a.power + 1⟩
    else a

/-- The shortest decimal of a positive finite number. -/
def shortest (m : Nat) (e : Int) : Decimal :=
  let (n, d) := ratio m e
  (shortestFrom m e (leadingPower n d) 17).strip 20

/-- How a number is laid out: positionally while the power of its first digit is at least `least`
and below `most`, else with an exponent of at least two digits. -/
structure DecimalFormat where
  least : Int
  most : Int

/-- Numbers in settings and reports are positional from 0.0001 up to below 10 ^ 16. -/
def DecimalFormat.report : DecimalFormat := ⟨-4, 16⟩

/-- The digits of a number with the point behind `whole` of them; a whole number gets `.0`. -/
def placePoint (digits : List Char) (whole : Int) : List Char :=
  if whole ≤ 0 then '0' :: '.' :: List.replicate (-whole).toNat '0' ++ digits
  else if digits.length ≤ whole.toNat then
    digits ++ List.replicate (whole.toNat - digits.length) '0' ++ ['.', '0']
  else digits.take whole.toNat ++ '.' :: digits.drop whole.toNat

/-- The text of a number. -/
def toText (format : DecimalFormat) : Double → String
  | nan => "nan"
  | infinite negative => if negative then "-inf" else "inf"
  | finite negative m e =>
    let mark := if negative then "-" else ""
    if m = 0 then mark ++ "0.0"
    else
      let a := shortest m e
      let digits := (toString a.digits).toList
      let first : Int := a.power + digits.length - 1
      let body :=
        if format.least ≤ first && first < format.most then placePoint digits (first + 1)
        else
          let tail := digits.drop 1
          let exponent := (toString first.natAbs).toList
          let padded := if exponent.length < 2 then '0' :: exponent else exponent
          digits.take 1 ++ (if tail.isEmpty then [] else '.' :: tail)
            ++ 'e' :: (if first < 0 then '-' else '+') :: padded
      mark ++ String.ofList body

/-- The share of `part` in `total`, rounded to thousandths. -/
def rate (part total : Nat) : Double :=
  match ofRatio false part total with
  | finite _ m e =>
    let (n, d) := ratio m e
    ofRatio false (roundDiv (n * 1000) d) 1000
  | x => x

end RowGuard.Double
