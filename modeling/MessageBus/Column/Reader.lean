import MessageBus.Column.Basic

/-!
# Reading columns

Columns are read by the shape of their values: a number of values at once, and back into one list.
-/

namespace MessageBus.Column

open Packing

/-- The values in their rows, where a row of place zero has none. -/
def scatter : List Nat → List Json → List Json
  | 0 :: places, vs => .null :: scatter places vs
  | _ :: places, v :: vs => v :: scatter places vs
  | _, _ => []

/-- The items of lists of the given lengths. -/
def cut : List Nat → List Json → List (List Json)
  | [], _ => []
  | n :: ns, vs => vs.take n :: cut ns (vs.drop n)

def readText (length : Nat) : Reader Json := do
  match Text.text? (← take length) with
  | some s => return .text s
  | none => failure

def toInteger (kind : WordKind) (n : Nat) : Int :=
  if kind = .signed64 then Int.bmod n (Nat.pow 256 kind.width) else n

open Json (Fields Members) in
mutual

/-- Reads `count` values of the shape. Values of open shape cannot be read, because nothing tells
their kind. -/
def read (count : Nat) : Json.Shape → Reader (List Json)
  | .text => do (← readLengths count).mapM readText
  | .integer low high => do
    let kind := wordKind low high
    return (← readWords kind.width count).map fun n => Json.int (toInteger kind n)
  | .flag => do return (← readFlags count).map .flag
  | .unit => return List.replicate count .null
  | .any => if count = 0 then return [] else failure
  | .optional inner => do
    let places ← readSmall count
    if places.any (1 < ·) then failure
    return scatter places (← read (places.count 1) inner)
  | .list item => do
    let lengths ← readLengths count
    return (cut lengths (← read (lengths.foldl (· + ·) 0) item)).map .list
  | .variant names => do
    (← readSmall count).mapM fun n =>
      match names[n]? with
      | some name => return .text name
      | none => failure
  | .record fields => do return (← readFields count fields).map .object

def readFields (count : Nat) : Fields → Reader (List Members)
  | .nil => return List.replicate count []
  | .cons name shape _ rest => do
    let vs ← read count shape
    return vs.zipWith (fun v members => (name, v) :: members) (← readFields count rest)

end

def readOne (shape : Json.Shape) (body : List UInt8) : Option Json :=
  match (read 1 shape).run body with
  | some ([v], []) => some v
  | _ => none

end MessageBus.Column
