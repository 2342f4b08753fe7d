/-! Finite doubles without their sign, in exact arithmetic: a significand of at most 53 bits times a
power of two. Every operation computes the exact result as a quotient and rounds it once, to the
nearest double, a tie to the even significand. -/

namespace SchemaClasses

/-- The value `significand * 2 ^ exponent`. Below the smallest normal value the exponent stays at
-1074; elsewhere the significand has exactly 53 bits. -/
structure Binary64 where
  significand : Nat
  exponent : Int
deriving Repr, DecidableEq

/-- The quotient rounded to the nearest integer, a tie to the even one. -/
def roundQuotient (num den : Nat) : Nat :=
  let q := num / den
  let r := num % den
  if 2 * r < den ∨ (2 * r = den ∧ q % 2 = 0) then q else q + 1

/-- `num / den * 2 ^ shift` as a quotient. -/
def shiftQuotient (num den : Nat) (shift : Int) : Nat × Nat :=
  if 0 ≤ shift then (num * Nat.pow 2 shift.toNat, den) else (num, den * Nat.pow 2 (-shift).toNat)

/-- The greatest `k` with `2 ^ k ≤ num / den`, for positive `num` and `den`. -/
def log2Quotient (num den : Nat) : Int :=
  let k := (num.log2 : Int) - den.log2
  let (n, d) := shiftQuotient num den (-k)
  if d ≤ n then k else k - 1

namespace Binary64

def zero : Binary64 := ⟨0, -1074⟩

/-- The nearest double, unless the quotient is too large for one. -/
def ofQuotient? (num den : Nat) : Option Binary64 :=
  if num = 0 then some zero
  else
    let exponent := max (log2Quotient num den - 52) (-1074)
    let (n, d) := shiftQuotient num den (-exponent)
    let significand := roundQuotient n d
    let rounded : Binary64 :=
      if significand = Nat.pow 2 53 then ⟨Nat.pow 2 52, exponent + 1⟩ else ⟨significand, exponent⟩
    if rounded.exponent ≤ 971 then some rounded else none

def mul? (a b : Binary64) : Option Binary64 :=
  let (num, den) := shiftQuotient (a.significand * b.significand) 1 (a.exponent + b.exponent)
  ofQuotient? num den

/-- Division by a double that is not zero. -/
def div? (a b : Binary64) : Option Binary64 :=
  let (num, den) := shiftQuotient a.significand b.significand (a.exponent - b.exponent)
  ofQuotient? num den

/-- The double nearest to a power of ten. -/
def tenPow? (k : Nat) : Option Binary64 :=
  ofQuotient? (Nat.pow 10 k) 1

/-- Multiplication by a power of ten that is itself rounded first. -/
def mulTenPow? (a : Binary64) (k : Nat) : Option Binary64 :=
  if k ≤ 308 then (tenPow? k).bind a.mul?
  else if a.significand = 0 then some a
  else none

/-- Division of a value below `2 ^ 65` by a power of ten. The power is rounded first; one above
`10 ^ 308` is divided out in two steps, and above `10 ^ 616` nothing is left. -/
def divTenPow? (a : Binary64) (k : Nat) : Option Binary64 :=
  if k ≤ 308 then (tenPow? k).bind a.div?
  else if k ≤ 616 then
    ((tenPow? 308).bind a.div?).bind fun b => (tenPow? (k - 308)).bind b.div?
  else some zero

/-- The double that a decimal `significand * 10 ^ exponent` is read as: the significand is rounded,
then the product or quotient with the rounded power of ten. -/
def ofDecimal? (significand : Nat) (exponent : Int) : Option Binary64 :=
  (ofQuotient? significand 1).bind fun a =>
    if 0 ≤ exponent then a.mulTenPow? exponent.toNat else a.divTenPow? (-exponent).toNat

end Binary64

end SchemaClasses
