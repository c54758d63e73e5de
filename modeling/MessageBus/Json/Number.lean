import MessageBus.Decimal.Shortest

/-!
# JSON numbers

A number is an integer of 64 bits, signed or not, or a double given by its bits. A numeral is read
into the double nearest to its first digits and then scaled by a power of ten, so the last place of
a long numeral may differ from the correctly rounded one; a number is written with the fewest digits
that read back.
-/

namespace MessageBus.Json

inductive Number
  | int (n : Int)
  | float (bits : UInt64)
  deriving DecidableEq, Repr, Inhabited

namespace Number

/-- Equality of values: the two zeros of doubles are equal. -/
def same : Number → Number → Bool
  | .int a, .int b => a == b
  | .float a, .float b => Float.ofBits a == Float.ofBits b
  | _, _ => false

def digitChars (n : Nat) : List Char :=
  Nat.toDigits 10 n

def intChars : Int → List Char
  | .ofNat n => digitChars n
  | .negSucc n => '-' :: digitChars (n + 1)

def exponentChars (n : Int) : List Char :=
  'e' :: (if 0 ≤ n then '+' :: intChars n else intChars n)

/-- The layout of a decimal: positional while the point stands at most sixteen places after the
first digit or four zeros before it, with one digit in front of the point and an exponent otherwise.
-/
def decimalChars (d : Decimal) : List Char :=
  let digits := digitChars d.digits
  let point : Int := digits.length + d.exponent
  if 0 ≤ d.exponent ∧ point ≤ 16 then
    digits ++ List.replicate d.exponent.toNat '0' ++ ['.', '0']
  else if 0 < point ∧ point ≤ 16 then
    digits.take point.toNat ++ '.' :: digits.drop point.toNat
  else if -5 < point ∧ point ≤ 0 then
    '0' :: '.' :: List.replicate (-point).toNat '0' ++ digits
  else
    digits.take 1 ++ (if digits.length = 1 then [] else '.' :: digits.drop 1) ++
      exponentChars (point - 1)

def floatChars (bits : UInt64) : List Char :=
  let magnitude := bits.toNat % 0x8000000000000000
  let sign := if bits.toNat / 0x8000000000000000 = 0 then [] else ['-']
  sign ++ if magnitude = 0 then ['0', '.', '0']
    else decimalChars (Decimal.Binary.ofBits magnitude).shortest

def chars : Number → List Char
  | .int n => intChars n
  | .float bits => floatChars bits

/-- Joins digits to a significand below `2^64` and counts the digits that no longer fit. -/
def absorb : Nat → List Nat → Nat × Nat
  | s, [] => (s, 0)
  | s, d :: ds =>
    if s * 10 + d < 0x10000000000000000 then absorb (s * 10 + d) ds
    else (s, (d :: ds).length)

def pow10 (k : Nat) : Float :=
  Float.ofScientific 1 false k

/-- Scales by `10^exponent`, in steps of `10^308` while the exponent is below all doubles; `none` is
a value out of range. -/
def scale : Nat → Float → Int → Option Float
  | 0, f, _ => some f
  | fuel + 1, f, exponent =>
    if exponent.natAbs ≤ 308 then
      if 0 ≤ exponent then
        let g := f * pow10 exponent.toNat
        if g.isInf then none else some g
      else some (f / pow10 exponent.natAbs)
    else if f == 0.0 then some f
    else if 0 ≤ exponent then none
    else scale fuel (f / pow10 308) (exponent + 308)

/-- A double from a sign, a significand and a power of ten. Three steps bring every significand to
zero. -/
def ofParts (negative : Bool) (significand : Nat) (exponent : Int) : Option Number :=
  (scale 4 significand.toUInt64.toFloat exponent).map fun f =>
    .float (if negative then -f else f).toBits

/-- The number without fraction and exponent that a sign and a significand stand for. Negative zero
and numbers below `-2^63` are doubles. -/
def ofSignificand (negative : Bool) (significand : Nat) : Number :=
  if !negative then .int significand
  else if significand = 0 ∨ 0x8000000000000000 < significand then
    .float (-significand.toUInt64.toFloat).toBits
  else .int (-significand)

/-- The parts of a numeral. `fraction` and `exponent` are none where the numeral has none. -/
structure Numeral where
  negative : Bool
  whole : List Nat
  fraction : Option (List Nat)
  exponent : Option (Bool × List Nat)

/-- The value of a numeral, `none` if it is out of range. Whole digits beyond the significand raise
the exponent and fraction digits beyond it are dropped. -/
def ofNumeral (n : Numeral) : Option Number :=
  let (whole, dropped) := absorb 0 n.whole
  if dropped = 0 ∧ n.fraction.isNone ∧ n.exponent.isNone then
    some (ofSignificand n.negative whole)
  else
    let digits := n.fraction.getD []
    let (significand, lost) := absorb whole digits
    let scale : Int := dropped - (digits.length - lost : Nat)
    match n.exponent with
    | none => ofParts n.negative significand scale
    | some (down, power) =>
      let power : Nat := power.foldl (fun p d => p * 10 + d) 0
      if power < 0x80000000 then
        ofParts n.negative significand (if down then scale - power else scale + power)
      else if significand = 0 ∨ down then
        some (.float (if n.negative then -0.0 else 0.0 : Float).toBits)
      else none

end Number

end MessageBus.Json
