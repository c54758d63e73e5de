import MessageBus.Json.Reader

/-!
# Shapes of JSON values

A shape says which values a typed text may hold and how they are read: a record may be given as an
object or as a list of its fields in order, unknown members are skipped, and a field may have a
value to fall back to. Reading by a shape brings every record into the order of its fields.
-/

namespace MessageBus.Json

mutual

inductive Shape
  | text
  | integer (low high : Int)
  | flag
  | unit
  | any
  | optional (inner : Shape)
  | list (item : Shape)
  | variant (names : List String)
  | record (fields : Fields)

inductive Fields
  | nil
  | cons (name : String) (shape : Shape) (fallback : Option Json) (rest : Fields)

end

namespace Shape

def unsigned32 : Shape := .integer 0 0xffffffff

def unsigned64 : Shape := .integer 0 0xffffffffffffffff

def signed64 : Shape := .integer (-0x8000000000000000) 0x7fffffffffffffff

def isOptional : Shape → Bool
  | .optional _ => true
  | _ => false

end Shape

namespace Fields

def names : Fields → List String
  | .nil => []
  | .cons name _ _ rest => name :: rest.names

/-- The found members in the order of the fields. A missing field takes its fallback, and an
optional one without fallback is `null`. -/
def complete (found : Members) : Fields → Except Problem Members
  | .nil => .ok []
  | .cons name shape fallback rest => do
    let value ←
      match found.get? name, fallback with
      | some v, _ => pure v
      | none, some v => pure v
      | none, none => if shape.isOptional then pure .null else throw .mismatched
    return (name, value) :: (← complete found rest)

end Fields

namespace Reader

/-- A value of another shape. A word, number or string is taken first, so that a problem inside it
counts before the mismatch. -/
def mismatch {α : Type} : Reader α := do
  match ← peek with
  | none => throw .truncated
  | some none => throw .malformed
  | some (some c) =>
    if c = '[' ∨ c = '{' then throw .mismatched
    else do
      discard (value none)
      throw .mismatched

/-- An integer of the given range, written without fraction and exponent. -/
def integer (low high : Int) : Reader Json := do
  match ← peek with
  | some (some c) =>
    if c = '-' ∨ c.isDigit then do
      if c = '-' then advance
      match ← number (c == '-') with
      | .int n => if low ≤ n ∧ n ≤ high then pure (int n) else throw .mismatched
      | .float _ => throw .mismatched
    else mismatch
  | _ => mismatch

def textValue : Reader Json := do
  if (← peek) = some (some '"') then do advance; .text <$> string true
  else mismatch

def flagValue : Reader Json := do
  match ← peek with
  | some (some 't') => advance; word ['r', 'u', 'e']; pure (.flag true)
  | some (some 'f') => advance; word ['a', 'l', 's', 'e']; pure (.flag false)
  | _ => mismatch

def unitValue : Reader Json := do
  if (← peek) = some (some 'n') then do advance; word ['u', 'l', 'l']; pure .null
  else mismatch

def variantName (names : List String) : Reader Json := do
  match ← textValue with
  | .text name => if name ∈ names then pure (.text name) else throw .mismatched
  | _ => throw .mismatched

/-- A variant is its name, or an object with the name and `null`. Only these two count as a shape at
all: any other value is malformed, and so is anything but a string in the place of the name. -/
def variant (depth : Nat) (names : List String) : Reader Json := do
  match ← peek with
  | none => throw .truncated
  | some s =>
    if s = some '"' then variantName names
    else if s = some '{' then
      if depth = 0 then throw .malformed
      else do
        advance
        match ← peek with
        | none => throw .truncated
        | some s => if s ≠ some '"' then throw .malformed
        let name ← variantName names
        mark ':'
        discard unitValue
        mark '}'
        pure name
    else throw .malformed

end Reader

open Reader in
mutual

def Shape.read (depth : Nat) : Shape → Reader Json
  | .text => textValue
  | .integer low high => Reader.integer low high
  | .flag => flagValue
  | .unit => unitValue
  | .any => Reader.any depth
  | .variant names => Reader.variant depth names
  | .optional inner => do
    if (← peek) = some (some 'n') then unitValue else inner.read depth
  | .list item => do
    if (← peek) = some (some '[') then
      if depth = 0 then throw .malformed
      else do
        advance
        .list <$> Reader.items (item.read (depth - 1))
    else mismatch
  | .record fields => do
    match ← peek with
    | some (some '[') =>
      if depth = 0 then throw .malformed
      else do
        advance
        let found ← fields.inOrder (depth - 1) true
        mark ']'
        pure (.object found)
    | some (some '{') =>
      if depth = 0 then throw .malformed
      else do
        advance
        let found ← Reader.members true (fun (found : Members) name => do
          if (found.get? name).isSome then throw .mismatched
          match ← fields.named (depth - 1) name with
          | some v => pure (found ++ [(name, v)])
          | none => pure found) ([] : Members)
        match fields.complete found with
        | .ok found => pure (.object found)
        | .error problem => throw problem
    | _ => mismatch

/-- The fields as items of a list. The list may end before fields with a fallback. -/
def Fields.inOrder (depth : Nat) : Fields → Bool → Reader Members
  | .nil, _ => pure []
  | .cons name shape fallback rest, first => do
    if ← itemFollows first then do
      let v ← shape.read depth
      return (name, v) :: (← rest.inOrder depth false)
    else
      match fallback with
      | none => throw .mismatched
      | some v => return (name, v) :: (← rest.inOrder depth first)

/-- The rest of a member after its name: the value of the field with that name, or nothing after
skipping the value of an unknown one. -/
def Fields.named (depth : Nat) : Fields → String → Reader (Option Json)
  | .nil, _ => do
    mark ':'
    skip
    pure none
  | .cons name shape _ rest, key =>
    if key = name then do
      mark ':'
      some <$> shape.read depth
    else rest.named depth key

end

def Shape.parse (shape : Shape) (input : List Text.Symbol) : Except Problem Json :=
  (shape.read Reader.depthLimit).run input

end MessageBus.Json
