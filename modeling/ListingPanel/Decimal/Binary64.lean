/-!
Non-negative numbers of the binary64 format, and rounding to them.
-/
namespace ListingPanel.Decimal

/-- The number `significand * 2 ^ exponent`, with a significand below `2 ^ 53` and an exponent of at
least -1074. -/
structure Binary64 where
  significand : Nat
  exponent : Int
  deriving DecidableEq, Repr

namespace Binary64

def minExponent : Int := -1074

def maxExponent : Int := 971

/-- The least full significand: the first number of 53 bits. -/
def leastSignificand : Nat := 4503599627370496

def zero : Binary64 := ⟨0, minExponent⟩

/-- `2 ^ e` as a numerator and a denominator. -/
def power (e : Int) : Nat × Nat := (Nat.pow 2 e.toNat, Nat.pow 2 (-e).toNat)

/-- The value as a numerator and a denominator. -/
def toRatio (x : Binary64) : Nat × Nat :=
  let (p, q) := power x.exponent
  (x.significand * p, q)

/-- The nearest integer to `n / d`, a half going to the even neighbour. -/
def roundQuotient (n d : Nat) : Nat :=
  let q := n / d
  let r := n % d
  if 2 * r < d ∨ (2 * r = d ∧ q % 2 = 0) then q else q + 1

/-- The exponent that leaves `n / d` a significand of 53 bits, or the least exponent. -/
def exponentFor (n d : Nat) : Int :=
  let guess : Int := (n.log2 : Int) - d.log2 - 52
  let (p, q) := power guess
  let e := if n * q < leastSignificand * d * p then guess - 1 else guess
  max e minExponent

/-- The number nearest to `n / d`, a half going to the even significand; none if it is too large. -/
def ofRatio? (n d : Nat) : Option Binary64 :=
  if n = 0 then some zero
  else
    let e := exponentFor n d
    let (p, q) := power e
    let m := roundQuotient (n * q) (d * p)
    let x : Binary64 :=
      if m = 2 * leastSignificand then ⟨leastSignificand, e + 1⟩ else ⟨m, e⟩
    if maxExponent < x.exponent then none else some x

def ofNat? (n : Nat) : Option Binary64 := ofRatio? n 1

def mul? (x y : Binary64) : Option Binary64 :=
  let (a, b) := x.toRatio
  let (c, d) := y.toRatio
  ofRatio? (a * c) (b * d)

/-- The quotient by a number other than zero. -/
def div? (x y : Binary64) : Option Binary64 :=
  let (a, b) := x.toRatio
  let (c, d) := y.toRatio
  ofRatio? (a * d) (b * c)

end Binary64

end ListingPanel.Decimal
