import OpcodeBinding.Text.Basic

/-! Single precision floating point numbers, kept as their 32 bits: a sign, eight bits of exponent and
twenty-three of fraction. They are displayed as the shortest decimals that read back. Such a decimal
singles out a number among its rounded neighbours, and is written out in full or with a power of ten. -/
namespace OpcodeBinding

/-- The number `digits` times ten to the power `exponent`. -/
structure Decimal where
  digits : Nat
  exponent : Int
  deriving DecidableEq, Repr

namespace Decimal

/-- A positive number `mid / den` with the reals that round to it, from `low / den` to `high / den`.
The two ends belong to them when `closed`. -/
structure Rounded where
  den : Nat
  low : Nat
  mid : Nat
  high : Nat
  closed : Bool
  deriving DecidableEq, Repr

def Rounded.contains (r : Rounded) (n d : Nat) : Bool :=
  if r.closed then r.low * d ≤ n * r.den && n * r.den ≤ r.high * d
  else r.low * d < n * r.den && n * r.den < r.high * d

/-- Grid `i` holds the multiples of `10 ^ (i - depth)`, so `depth` fixes the finest grid. Of the two
grid points around the number, this is the one that rounds to it; of two such, the nearer one, and the
upper one of two equally near. -/
def Rounded.onGrid? (r : Rounded) (depth i : Nat) : Option Nat :=
  let value := r.mid * Nat.pow 10 depth
  let unit := r.den * Nat.pow 10 i
  let below := value / unit
  let fits d := r.contains (d * Nat.pow 10 i) (Nat.pow 10 depth)
  if fits below && (!fits (below + 1) || value - below * unit < (below + 1) * unit - value) then
    some below
  else if fits (below + 1) then some (below + 1)
  else none

def digitCount (n : Nat) : Nat :=
  if n = 0 then 0 else digitCount (n / 10) + 1

/-- Grids are tried from the one on which the number has a single digit to the finest. The first with
a point that rounds to the number gives its shortest decimal; where none does, the point below the
number on the finest grid stands in. -/
def Rounded.shortest (r : Rounded) (depth : Nat) : Decimal :=
  let finest := r.mid * Nat.pow 10 depth / r.den
  let grids := (List.range (digitCount finest)).reverse
  match grids.findSome? fun i => (r.onGrid? depth i).map fun d => (d, i) with
  | some (d, i) => ⟨d, i - depth⟩
  | none => ⟨finest, -depth⟩

open OpcodeBinding.Text (decimal signedDecimal)

structure Layout where
  leastPoint : Int
  greatestPoint : Int
  deriving DecidableEq, Repr

def significant (d : Decimal) : List Char :=
  ((decimal d.digits).reverse.dropWhile (· == '0')).reverse

/-- The decimal point: a decimal is `0.` and its digits, times ten to this power. -/
def point (d : Decimal) : Int := (decimal d.digits).length + d.exponent

def writeFull (digits : List Char) (point : Int) : List Char :=
  if point ≤ 0 then
    '0' :: '.' :: (List.replicate (-point).toNat '0' ++ digits)
  else
    let whole := digits.take point.toNat
    let part := digits.drop point.toNat
    whole ++ List.replicate (point.toNat - digits.length) '0' ++
      '.' :: (if part.isEmpty then ['0'] else part)

def writePower (digits : List Char) (point : Int) : List Char :=
  let part := digits.drop 1
  digits.take 1 ++ (if part.isEmpty then [] else '.' :: part) ++ 'e' :: signedDecimal (point - 1)

def Layout.write (layout : Layout) (d : Decimal) : List Char :=
  if layout.leastPoint ≤ d.point ∧ d.point ≤ layout.greatestPoint then
    writeFull d.significant d.point
  else writePower d.significant d.point

end Decimal

structure Single where
  bits : UInt32
  deriving DecidableEq, Repr, Inhabited

namespace Single

def isNegative (x : Single) : Bool := Nat.pow 2 31 ≤ x.bits.toNat

/-- The bits below the sign, which order the numbers by size. -/
def magnitude (x : Single) : Nat := x.bits.toNat % Nat.pow 2 31

def exponentField (x : Single) : Nat := x.magnitude / Nat.pow 2 23

def fraction (x : Single) : Nat := x.magnitude % Nat.pow 2 23

def isInfinite (x : Single) : Bool := x.magnitude == 255 * Nat.pow 2 23

def isNaN (x : Single) : Bool := 255 * Nat.pow 2 23 < x.magnitude

def isZero (x : Single) : Bool := x.magnitude == 0

/-- Numeric equality: the two zeros are equal, and no NaN equals anything. -/
def equals (x y : Single) : Bool :=
  !x.isNaN && !y.isNaN && (x == y || (x.isZero && y.isZero))

/-- A finite number is `significand * 2 ^ power / 2 ^ 149`. -/
def significand (x : Single) : Nat :=
  if x.exponentField = 0 then x.fraction else Nat.pow 2 23 + x.fraction

def power (x : Single) : Nat := x.exponentField - 1

/-- The size of a finite number, in quarters of the least gap between two numbers. Its neighbours are
one gap away, save that the gap below a power of two is half as wide; halfway points round to an even
significand. -/
def rounded (x : Single) : Decimal.Rounded :=
  let lower := if x.fraction = 0 ∧ 1 < x.exponentField then 1 else 2
  { den := Nat.pow 2 151
    low := (4 * x.significand - lower) * Nat.pow 2 x.power
    mid := 4 * x.significand * Nat.pow 2 x.power
    high := (4 * x.significand + 2) * Nat.pow 2 x.power
    closed := x.significand % 2 == 0 }

/-- Numbers from `1e-4` up to `1e16` are written out in full. -/
def layout : Decimal.Layout := ⟨-3, 16⟩

/-- Nine digits tell all numbers apart, and the least one has its ninth at `10 ^ -53`. -/
def depth : Nat := 54

def spell (x : Single) : List Char :=
  let sign := if x.isNegative then ['-'] else []
  if x.isNaN then ['N', 'a', 'N']
  else if x.isInfinite then sign ++ ['i', 'n', 'f']
  else if x.isZero then sign ++ ['0', '.', '0']
  else sign ++ layout.write (x.rounded.shortest depth)

def display (x : Single) : String := String.ofList x.spell

end Single

end OpcodeBinding
