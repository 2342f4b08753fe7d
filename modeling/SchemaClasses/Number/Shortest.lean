import SchemaClasses.Number.Binary64

/-! The shortest decimal text of a double: the fewest digits whose decimal is read back as that
double, of several such decimals the nearest, and of two equally near ones the even one. Values that
are not small or large beyond a bound are written out, and all others with an exponent. -/

namespace SchemaClasses.Binary64

/-- The quotient at `2 ^ (exponent - 2)` per unit, so that the bounds of the rounding interval are
integers too. -/
def quarters (a : Binary64) (units : Nat) : Nat × Nat :=
  shiftQuotient units 1 (a.exponent - 2)

/-- Whether the decimal `digits * 10 ^ exponent` rounds to the double. The lower neighbour of a
power of two is half as far away as the upper one; the bounds themselves round to an even
significand. -/
def isReadFrom (a : Binary64) (digits : Nat) (exponent : Int) : Bool :=
  let below := if a.significand = Nat.pow 2 52 ∧ -1074 < a.exponent then 1 else 2
  let (low, lowDen) := a.quarters (4 * a.significand - below)
  let (high, highDen) := a.quarters (4 * a.significand + 2)
  let num := if 0 ≤ exponent then digits * Nat.pow 10 exponent.toNat else digits
  let den := if 0 ≤ exponent then 1 else Nat.pow 10 (-exponent).toNat
  if a.significand % 2 = 0 then low * den ≤ num * lowDen && num * highDen ≤ high * den
  else low * den < num * lowDen && num * highDen < high * den

/-- The number of digits in front of the point, zero or negative for a fraction that begins with
zeros: the least `k` with value below `10 ^ k`. -/
def pointPosition (num den : Nat) : Int :=
  if den ≤ num then (Nat.toDigits 10 (num / den)).length
  else
    match (List.range 330).find? fun j => den ≤ num * Nat.pow 10 (j + 1) with
    | some j => -(j : Int)
    | none => 0

/-- The best decimal with the given number of digits, if one of them is read as the double: of the
two neighbours on that grid the nearer, and the even one half-way between them. -/
def withDigits? (a : Binary64) (count : Nat) : Option (Nat × Int) :=
  let (num, den) := a.quarters (4 * a.significand)
  let exponent := pointPosition num den - count
  let n := if 0 ≤ exponent then num else num * Nat.pow 10 (-exponent).toNat
  let d := if 0 ≤ exponent then den * Nat.pow 10 exponent.toNat else den
  let candidates := [roundQuotient n d, n / d, n / d + 1]
  (candidates.find? (a.isReadFrom · exponent)).map (·, exponent)

/-- The digits and the decimal exponent of the shortest decimal. Seventeen digits always suffice. -/
def shortest (a : Binary64) : Nat × Int :=
  if a.significand = 0 then (0, 0)
  else ((List.range' 1 17).findSome? a.withDigits?).getD (0, 0)

def dropZerosAtEnd (ds : List Char) : List Char :=
  (ds.reverse.dropWhile (· = '0')).reverse

/-- The decimal `digits * 10 ^ exponent` without an exponent, with at least one digit on either side
of the point and no zero at the end that is not needed for that. -/
def positional (digits : Nat) (exponent : Int) : List Char :=
  let ds := Nat.toDigits 10 digits
  if 0 ≤ exponent then ds ++ List.replicate exponent.toNat '0' ++ ['.', '0']
  else
    let places := (-exponent).toNat
    let padded := List.replicate (places + 1 - ds.length) '0' ++ ds
    let whole := padded.take (padded.length - places)
    let fraction := dropZerosAtEnd (padded.drop (padded.length - places))
    whole ++ '.' :: (if fraction.isEmpty then ['0'] else fraction)

/-- The decimal `digits * 10 ^ exponent` with one digit in front of the exponent, or with a point
behind that digit if there are more. The exponent always has a sign. -/
def scientific (digits : Nat) (exponent : Int) : List Char :=
  match Nat.toDigits 10 digits with
  | [] => []
  | d :: ds =>
    let fraction := dropZerosAtEnd ds
    let e := exponent + ds.length
    d :: (if fraction.isEmpty then [] else '.' :: fraction) ++
      'e' :: (if e < 0 then '-' else '+') :: Nat.toDigits 10 e.natAbs

/-- The least power of ten from which values are written out. -/
def plainFrom : Int := -5

/-- The power of ten from which values are no longer written out. -/
def plainBelow : Int := 16

/-- The text of the decimal `digits * 10 ^ exponent`, chosen by the place of its first digit. -/
def decimalText (digits : Nat) (exponent : Int) : List Char :=
  let place := exponent + (Nat.toDigits 10 digits).length - 1
  if plainFrom ≤ place ∧ place < plainBelow then positional digits exponent
  else scientific digits exponent

/-- The text of a double with its sign. -/
def text (negative : Bool) (a : Binary64) : List Char :=
  let (digits, exponent) := a.shortest
  (if negative then ['-'] else []) ++ decimalText digits exponent

end SchemaClasses.Binary64
