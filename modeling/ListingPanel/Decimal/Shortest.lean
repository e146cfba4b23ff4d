import ListingPanel.Decimal.Binary64

/-!
Decimal texts of binary64 numbers: the fewest digits that read back, and their layout.
-/
namespace ListingPanel.Decimal

/-- The decimal `digits * 10 ^ scale`. -/
structure Scaled where
  digits : Nat
  scale : Int
  deriving DecidableEq, Repr

/-- The numbers that round to `x`, as `(low, high, unit)`: those between `low / unit` and
`high / unit`, the ends included if the significand is even. -/
def roundingInterval (x : Binary64) : Nat × Nat × Nat :=
  let (p, q) := Binary64.power x.exponent
  let m := x.significand
  let below := if m = Binary64.leastSignificand ∧ Binary64.minExponent < x.exponent then 1 else 2
  ((4 * m - below) * p, (4 * m + 2) * p, 4 * q)

def roundsTo (x : Binary64) (n d : Nat) : Bool :=
  let (low, high, unit) := roundingInterval x
  let (a, b, c) := (low * d, n * unit, high * d)
  if x.significand % 2 = 0 then a ≤ b && b ≤ c else a < b && b < c

def digitCount (n : Nat) : Nat := (Nat.toDigits 10 n).length

/-- The exponent `e` with `10 ^ e ≤ n / d < 10 ^ (e + 1)`, for a positive `n / d`. -/
def decimalExponent (n d : Nat) : Int :=
  if d ≤ n then (digitCount (n / d) : Int) - 1
  else
    let guess := digitCount (d / n)
    if d ≤ n * Nat.pow 10 (guess - 1) then 1 - (guess : Int) else -(guess : Int)

def powerOfTen (e : Int) : Nat × Nat := (Nat.pow 10 e.toNat, Nat.pow 10 (-e).toNat)

/-- A decimal with `count` digits that rounds to `x`, the nearest one if there are two. -/
def withDigits? (x : Binary64) (count : Nat) : Option Scaled :=
  let (n, d) := x.toRatio
  let scale := decimalExponent n d - count + 1
  let (p, q) := powerOfTen scale
  let lower := n * q / (d * p)
  let fits (k : Nat) : Bool := roundsTo x (k * p) q
  let isUpperNearer : Bool := (2 * lower + 1) * (d * p) < 2 * (n * q)
  match fits lower, fits (lower + 1) with
  | true, true => some ⟨if isUpperNearer then lower + 1 else lower, scale⟩
  | true, false => some ⟨lower, scale⟩
  | false, true => some ⟨lower + 1, scale⟩
  | false, false => none

/-- The decimal with the fewest digits that rounds to a positive `x`. -/
def shortest (x : Binary64) : Scaled :=
  ((List.range 17).findSome? fun i => withDigits? x (i + 1)).getD ⟨0, 0⟩

/-- How decimals are laid out: in positional notation if the exponent of the first digit lies
between `least` and `greatest`. -/
structure Layout where
  least : Int
  greatest : Int

/-- A fraction has at least one place; an exponent has a sign and at least two digits. -/
def Layout.render (l : Layout) (x : Scaled) : String :=
  let ds := ((Nat.toDigits 10 x.digits).reverse.dropWhile (· = '0')).reverse
  let exponent : Int := x.scale + (digitCount x.digits : Int) - 1
  let text :=
    if l.least ≤ exponent ∧ exponent ≤ l.greatest then
      if exponent < 0 then '0' :: '.' :: (List.replicate (-exponent - 1).toNat '0' ++ ds)
      else
        let whole := exponent.toNat + 1
        let padded := ds ++ List.replicate (whole - ds.length) '0'
        let fraction := padded.drop whole
        padded.take whole ++ '.' :: (if fraction.isEmpty then ['0'] else fraction)
    else
      let power := Nat.toDigits 10 exponent.natAbs
      let mantissa := match ds with
        | d :: f :: fs => d :: '.' :: f :: fs
        | ds => ds
      mantissa ++ 'e' :: (if exponent < 0 then '-' else '+') ::
        (List.replicate (2 - power.length) '0' ++ power)
  String.ofList text

def Layout.renderBinary (l : Layout) (negative : Bool) (x : Binary64) : String :=
  (if negative then "-" else "") ++ (if x.significand = 0 then "0.0" else l.render (shortest x))

end ListingPanel.Decimal
