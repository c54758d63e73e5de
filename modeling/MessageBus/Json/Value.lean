import MessageBus.Json.Number
import MessageBus.Text.Basic

/-!
# JSON values

A value, its compact text and equality of values. Members of an object keep the order that they were
given in; `Members.insert` keeps them sorted by name, which is how an open bag of values is held.
-/

namespace MessageBus

inductive Json
  | null
  | flag (b : Bool)
  | number (n : Json.Number)
  | text (s : String)
  | list (items : List Json)
  | object (members : List (String × Json))
  deriving Repr, Inhabited

namespace Json

abbrev Members := List (String × Json)

def int (n : Int) : Json := .number (.int n)

def nat (n : Nat) : Json := .int n

def optional : Option String → Json
  | some s => .text s
  | none => .null

def text? : Json → Option String
  | .text s => some s
  | _ => none

def nat? : Json → Option Nat
  | .number (.int (.ofNat n)) => some n
  | _ => none

def items : Json → List Json
  | .list items => items
  | _ => []

def member? : Json → String → Option Json
  | .object members, name => members.lookup name
  | _, _ => none

mutual

def same : Json → Json → Bool
  | .null, .null => true
  | .flag a, .flag b => a == b
  | .number a, .number b => a.same b
  | .text a, .text b => a == b
  | .list a, .list b => sameItems a b
  | .object a, .object b => sameMembers a b
  | _, _ => false

def sameItems : List Json → List Json → Bool
  | [], [] => true
  | a :: as, b :: bs => same a b && sameItems as bs
  | _, _ => false

def sameMembers : List (String × Json) → List (String × Json) → Bool
  | [], [] => true
  | (k, a) :: as, (l, b) :: bs => k == l && same a b && sameMembers as bs
  | _, _ => false

end

namespace Members

def get? (members : Members) (key : String) : Option Json :=
  members.lookup key

/-- Puts a member in the place that sorting by name gives it, instead of one with the same name. -/
def insert (key : String) (value : Json) : Members → Members
  | [] => [(key, value)]
  | (k, v) :: rest =>
    if key < k then (key, value) :: (k, v) :: rest
    else if key = k then (key, value) :: rest
    else (k, v) :: insert key value rest

def erase (key : String) (members : Members) : Members :=
  members.filter (·.1 != key)

/-- Members sorted by name; of two with one name the last stays. -/
def ofList (pairs : List (String × Json)) : Members :=
  pairs.foldl (fun members p => insert p.1 p.2 members) []

end Members

def hexDigit (n : Nat) : Char :=
  if n < 10 then Char.ofNat (48 + n) else Char.ofNat (87 + n)

/-- A character between quotes. Control characters without a short escape are written in
hexadecimal. -/
def escapeChar (c : Char) : List Char :=
  if c = '"' then ['\\', '"']
  else if c = '\\' then ['\\', '\\']
  else if c = '\n' then ['\\', 'n']
  else if c = '\r' then ['\\', 'r']
  else if c = '\t' then ['\\', 't']
  else if c = '\x08' then ['\\', 'b']
  else if c = '\x0c' then ['\\', 'f']
  else if c.toNat < 32 then
    ['\\', 'u', '0', '0', hexDigit (c.toNat / 16), hexDigit (c.toNat % 16)]
  else [c]

def quotedChars (s : String) : List Char :=
  '"' :: s.toList.flatMap escapeChar ++ ['"']

mutual

/-- The compact text: no blanks, members in order. -/
def chars : Json → List Char
  | .null => ['n', 'u', 'l', 'l']
  | .flag true => ['t', 'r', 'u', 'e']
  | .flag false => ['f', 'a', 'l', 's', 'e']
  | .number n => n.chars
  | .text s => quotedChars s
  | .list [] => ['[', ']']
  | .list (v :: rest) => '[' :: chars v ++ itemsTail rest
  | .object [] => ['{', '}']
  | .object ((k, v) :: rest) => '{' :: quotedChars k ++ ':' :: chars v ++ membersTail rest

def itemsTail : List Json → List Char
  | [] => [']']
  | v :: rest => ',' :: chars v ++ itemsTail rest

def membersTail : List (String × Json) → List Char
  | [] => ['}']
  | (k, v) :: rest => ',' :: quotedChars k ++ ':' :: chars v ++ membersTail rest

end

def render (v : Json) : String :=
  String.ofList v.chars

mutual

/-- The value with the members of every object sorted by name. -/
def sorted : Json → Json
  | .list items => .list (sortedItems items)
  | .object members => .object (Members.ofList (sortedMembers members))
  | v => v

def sortedItems : List Json → List Json
  | [] => []
  | v :: rest => sorted v :: sortedItems rest

def sortedMembers : List (String × Json) → List (String × Json)
  | [] => []
  | (k, v) :: rest => (k, sorted v) :: sortedMembers rest

end

end Json

end MessageBus
