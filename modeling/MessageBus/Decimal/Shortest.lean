/-!
# Shortest decimals

The decimal with the fewest digits that reads back as a given binary number `m · 2^q`, and the
nearest of those. A decimal reads back when it lies in the interval of reals that round to the
number; the two ends belong to it when `m` is even.

On a grid of spacing `10^k` only the two neighbours of the number have to be tried: a grid point in
the interval has such a neighbour between itself and the number. Grids are tried from coarse to
fine, so the first hit has the fewest digits.
-/

namespace MessageBus

/-- The number `digits · 10^exponent`. -/
structure Decimal where
  digits : Nat
  exponent : Int
  deriving DecidableEq, Repr

namespace Decimal

/-- A binary number and the ends of the interval that rounds to it, over one denominator. -/
structure Interval where
  low : Nat
  value : Nat
  high : Nat
  denominator : Nat
  closed : Bool

/-- The number `mantissa · 2^scale`. `narrow` says that the next smaller number is only half as far
away as the next larger one. -/
structure Binary where
  mantissa : Nat
  scale : Int
  narrow : Bool

def Binary.interval (b : Binary) : Interval :=
  let scale := b.scale - 2
  let factor := Nat.pow 2 scale.toNat
  { low := (4 * b.mantissa - if b.narrow then 1 else 2) * factor
    value := 4 * b.mantissa * factor
    high := (4 * b.mantissa + 2) * factor
    denominator := Nat.pow 2 (-scale).toNat
    closed := b.mantissa % 2 == 0 }

/-- The grid point `n · 10^k` lies in the interval. -/
def Interval.contains (i : Interval) (k : Int) (n : Nat) : Bool :=
  let point := n * Nat.pow 10 k.toNat * i.denominator
  let shrink := Nat.pow 10 (-k).toNat
  if i.closed then i.low * shrink ≤ point && point ≤ i.high * shrink
  else i.low * shrink < point && point < i.high * shrink

/-- The neighbour on the grid `10^k` that lies in the interval, the nearer one if both do, the even
one of two equally near. -/
def Interval.neighbour (i : Interval) (k : Int) : Option Nat :=
  let unit := i.denominator * Nat.pow 10 k.toNat
  let scaled := i.value * Nat.pow 10 (-k).toNat
  let below := scaled / unit
  let rest := 2 * (scaled % unit)
  let nearest := if rest < unit || (rest == unit && below % 2 == 0) then below else below + 1
  let other := if nearest == below then below + 1 else below
  if i.contains k nearest then some nearest
  else if i.contains k other then some other
  else none

/-- Tries the grids from `10^k` downwards. -/
def Interval.search (i : Interval) : Nat → Int → Decimal
  | 0, k => ⟨0, k⟩
  | fuel + 1, k =>
    match i.neighbour k with
    | some n => ⟨n, k⟩
    | none => i.search fuel (k - 1)

/-- A power of ten above the number: `2^b` is below `10^(b · 0.30103 + 1)`. -/
def Binary.topExponent (b : Binary) : Int :=
  Int.fdiv ((Nat.log2 b.mantissa + 1 + b.scale) * 30103) 100000 + 1

/-- The shortest decimal of a positive binary number. Seventeen digits always suffice. -/
def Binary.shortest (b : Binary) : Decimal :=
  b.interval.search 22 b.topExponent

/-- The positive double with the given bits below the sign. -/
def Binary.ofBits (bits : Nat) : Binary :=
  let fraction : Nat := bits % 0x10000000000000
  let exponent : Nat := bits / 0x10000000000000 % 0x800
  if exponent = 0 then ⟨fraction, -1074, false⟩
  else ⟨0x10000000000000 + fraction, (exponent : Int) - 1075, fraction == 0 && exponent > 1⟩

end Decimal

end MessageBus
