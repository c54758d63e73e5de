import MessageBus.Text.Basic

/-!
# Packed numbers

Columns of numbers are written closely. Numbers below 256 share octets when all of them are small,
and words drop the octets that none of them needs. A column whose numbers are large and close to
each other is written as their distances from the least one.
-/

namespace MessageBus.Packing

abbrev Reader := StateT (List UInt8) Option

def take (n : Nat) : Reader (List UInt8) := fun body =>
  if n ≤ body.length then some (body.take n, body.drop n) else none

/-- The first `count` digits of `n` to a base, least significant first. -/
def digits (base : Nat) : Nat → Nat → List Nat
  | 0, _ => []
  | count + 1, n => n % base :: digits base count (n / base)

def ofDigits (base : Nat) (ds : List Nat) : Nat :=
  ds.foldr (fun d n => d + base * n) 0

/-- A word of `width` octets, least significant first. -/
def wordOctets (width n : Nat) : List UInt8 :=
  (digits 256 width n).map Nat.toUInt8

def word (width : Nat) : Reader Nat := do
  return ofDigits 256 ((← take width).map UInt8.toNat)

/-- Digits to a base, `share` of them in each octet. -/
def groups (base share : Nat) : List Nat → List UInt8
  | [] => []
  | d :: rest =>
    (ofDigits base (d :: rest.take (share - 1))).toUInt8 ::
      groups base share (rest.drop (share - 1))
termination_by ds => ds.length
decreasing_by simp only [List.length_drop, List.length_cons]; omega

def ungroup (base share count : Nat) : Reader (List Nat) := do
  let octets ← take ((count + share - 1) / share)
  return (octets.flatMap fun b => digits base share b.toNat).take count

/-- The place of the last bound above `n`, where the bounds fall from one to the next. -/
def placeOf (bounds : List Nat) (n : Nat) : Nat :=
  (bounds.takeWhile (n < ·)).length - 1

/-- How a column is written: the place of its bound, and whether it holds distances. -/
structure Header where
  place : Nat
  distances : Bool

/-- Distances are written from six numbers on, and only where they allow a closer bound. -/
def Header.choose (count plain near : Nat) : Header :=
  if plain < near ∧ 5 < count then ⟨near, true⟩ else ⟨plain, false⟩

def Header.octet (h : Header) : UInt8 :=
  (2 * h.place - (if h.distances then 1 else 0)).toUInt8

def header (places : Nat) : Reader Header := do
  let n ← word 1
  let h : Header := ⟨(n + 1) / 2, n % 2 = 1⟩
  if h.place < places then return h else failure

/-- How many values the numbers of a column may have, and how many numbers then share an octet. -/
def densities : List (Nat × Nat) := [(256, 1), (16, 2), (6, 3), (4, 4), (3, 5), (2, 8)]

def density (h : Header) : Nat × Nat := densities.getD h.place (256, 1)

/-- One number or two are written as they are, without a header. -/
def small (ns : List Nat) : List UInt8 :=
  if ns.length ≤ 2 then ns.map Nat.toUInt8
  else
    let least := ns.min?.getD 0
    let greatest := ns.max?.getD 0
    let place := placeOf (densities.map (·.1))
    let h := Header.choose ns.length (place greatest) (place (greatest - least))
    let (base, share) := density h
    h.octet :: (if h.distances then least.toUInt8 :: groups base share (ns.map (· - least))
      else groups base share ns)

def readSmall (count : Nat) : Reader (List Nat) := do
  if count ≤ 2 then return (← take count).map UInt8.toNat
  let h ← header densities.length
  let least ← if h.distances then word 1 else pure 0
  let (base, share) := density h
  return (← ungroup base share count).map fun n => (n + least) % 256

def flags (bs : List Bool) : List UInt8 :=
  groups 2 8 (bs.map Bool.toNat)

def readFlags (count : Nat) : Reader (List Bool) := do
  return (← ungroup 2 8 count).map (· == 1)

def widths (width : Nat) : List Nat := [8, 4, 2, 1].filter (· ≤ width)

/-- Words of `width` octets, cut down to what the greatest of them needs. A column with a negative
number is cut down only where it is written as distances, which follow the least number. -/
def words (width : Nat) (ns : List Int) : List UInt8 :=
  if ns.isEmpty then []
  else
    let least := ns.min?.getD 0
    let greatest := ns.max?.getD 0
    let place (n : Int) := placeOf ((widths width).map (Nat.pow 256)) n.toNat
    let plain := if least < 0 then 0 else place greatest
    let near := if plain + 1 = (widths width).length then plain else place (greatest - least)
    let h := Header.choose ns.length plain near
    let kept := (widths width).getD h.place width
    let octetsOf (n : Int) : Nat := (n % Int.pow 256 width).toNat
    let shown := ns.map fun n => octetsOf (if h.distances then n - least else n)
    h.octet :: (if h.distances then wordOctets width (octetsOf least) else []) ++
      (if kept = 1 then small shown else shown.flatMap (wordOctets kept))

def readWords (width count : Nat) : Reader (List Nat) := do
  if count = 0 then return []
  let h ← header (widths width).length
  let least ← if h.distances then word width else pure 0
  let kept := (widths width).getD h.place width
  let shown ←
    if kept = 1 then readSmall count else (List.replicate count kept).mapM word
  return shown.map fun n => (n + least) % Nat.pow 256 width

/-- Lengths below 255 are small numbers; the others stand behind all of these as words. -/
def lengths (ns : List Nat) : List UInt8 :=
  small (ns.map (min 255)) ++ words 8 ((ns.filter (255 ≤ ·)).map Int.ofNat)

/-- The large lengths in the places that are left open for them. -/
def fillIn : List Nat → List Nat → List Nat
  | 255 :: ns, m :: large => m :: fillIn ns large
  | n :: ns, large => n :: fillIn ns large
  | [], _ => []

def readLengths (count : Nat) : Reader (List Nat) := do
  let ns ← readSmall count
  return fillIn ns (← readWords 8 (ns.count 255))

end MessageBus.Packing
