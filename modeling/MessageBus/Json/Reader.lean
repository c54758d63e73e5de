import MessageBus.Json.Value

/-!
# Reading JSON

Readers take a text from left to right, and the first problem that they meet decides the answer.
There are two ways over a value: `any` reads it, and `skip` only looks for its end. Skipping sets no
limit on nesting and on the size of numbers and does not look at the characters that an escape
stands for.
-/

namespace MessageBus.Json

open Text (Symbol)

/-- Why a text is refused: it ends too early, it is no JSON, or it is JSON of another shape. -/
inductive Problem
  | truncated
  | malformed
  | mismatched
  deriving DecidableEq, Repr

def Problem.message : Problem → String
  | .truncated => "<json:eof>"
  | .malformed => "<json:syntax>"
  | .mismatched => "<json:data>"

abbrev Reader (α : Type) := StateT (List Symbol) (Except Problem) α

namespace Reader

def isSpace (s : Symbol) : Bool :=
  s == some ' ' || s == some '\n' || s == some '\t' || s == some '\r'

/-- The next symbol that is not a space, which stays in the input. -/
def peek : Reader (Option Symbol) := fun input =>
  let rest := input.dropWhile isSpace
  .ok (rest.head?, rest)

def advance : Reader Unit := fun input => .ok ((), input.tail)

/-- Takes a mark. `other` is the problem of a different symbol in its place. -/
def mark (c : Char) (other : Problem := .malformed) : Reader Unit := do
  match ← peek with
  | none => throw .truncated
  | some s => if s = some c then advance else throw other

def word : List Char → Reader Unit
  | [] => pure ()
  | c :: rest => do
    match (← get).head? with
    | none => throw .truncated
    | some s => if s = some c then do advance; word rest else throw .malformed

/-- Where the reading of a string stands. A code unit above `FFFF` is written as two escapes, so a
leading half waits for the backslash, the `u` and the digits of the other half. -/
inductive Phase
  | plain
  | escape
  | digits (lead : Option Nat) (missing value : Nat)
  | backslash (lead : Nat)
  | letter (lead : Nat)

def hexValue? (c : Char) : Option Nat :=
  if '0' ≤ c ∧ c ≤ '9' then some (c.toNat - 48)
  else if 'a' ≤ c ∧ c ≤ 'f' then some (c.toNat - 87)
  else if 'A' ≤ c ∧ c ≤ 'F' then some (c.toNat - 55)
  else none

def simpleEscape? (c : Char) : Option Char :=
  if c = '"' ∨ c = '\\' ∨ c = '/' then some c
  else if c = 'b' then some '\x08'
  else if c = 'f' then some '\x0c'
  else if c = 'n' then some '\n'
  else if c = 'r' then some '\r'
  else if c = 't' then some '\t'
  else none

def fourLeft (input : List Symbol) : Bool :=
  4 ≤ (input.take 4).foldl (fun n c => n + c.width) 0

/-- What a code unit means after an optional leading half: the phase that follows, and the character
that it ends. -/
def codeUnit (lead : Option Nat) (n : Nat) : Option (Phase × Option Char) :=
  match lead with
  | none =>
    if 0xD800 ≤ n ∧ n ≤ 0xDBFF then some (.backslash n, none)
    else if 0xDC00 ≤ n ∧ n ≤ 0xDFFF then none
    else some (.plain, some (Char.ofNat n))
  | some lead =>
    if 0xDC00 ≤ n ∧ n ≤ 0xDFFF then
      some (.plain, some (Char.ofNat ((lead - 0xD800) * 1024 + (n - 0xDC00) + 0x10000)))
    else none

/-- Reads a string up to its closing quote; `text` holds its characters so far, last one first, and
`sound` says that no stray octet was met. When `strict` is off, stray octets and lone halves are let
pass. -/
def stringFrom (strict : Bool) (phase : Phase) (sound : Bool) (text : List Char) :
    List Symbol → Except Problem (String × List Symbol)
  | [] => .error .truncated
  | s :: rest =>
    match phase, s with
    | .plain, none => stringFrom strict .plain false text rest
    | .plain, some c =>
      if c = '"' then
        if sound || !strict then .ok (String.ofList text.reverse, rest) else .error .malformed
      else if c = '\\' then stringFrom strict .escape sound text rest
      else if c.toNat < 32 then .error .malformed
      else stringFrom strict .plain sound (c :: text) rest
    | .escape, some c =>
      if c = 'u' then
        if fourLeft rest then stringFrom strict (.digits none 4 0) sound text rest
        else .error .truncated
      else
        match simpleEscape? c with
        | some e => stringFrom strict .plain sound (e :: text) rest
        | none => .error .malformed
    | .digits lead missing value, some c =>
      match hexValue? c with
      | none => .error .malformed
      | some d =>
        let n := value * 16 + d
        if 1 < missing then stringFrom strict (.digits lead (missing - 1) n) sound text rest
        else if !strict then stringFrom strict .plain sound text rest
        else
          match codeUnit lead n with
          | none => .error .malformed
          | some (next, some e) => stringFrom strict next sound (e :: text) rest
          | some (next, none) => stringFrom strict next sound text rest
    | .backslash lead, some c =>
      if c = '\\' then stringFrom strict (.letter lead) sound text rest else .error .malformed
    | .letter lead, some c =>
      if c = 'u' then
        if fourLeft rest then stringFrom strict (.digits (some lead) 4 0) sound text rest
        else .error .truncated
      else .error .malformed
    | _, none => .error .malformed

def string (strict : Bool) : Reader String :=
  stringFrom strict .plain true []

def digit? : Symbol → Option Nat
  | some c => if c.isDigit then some (c.toNat - 48) else none
  | none => none

def digitsFrom : List Symbol → List Nat × List Symbol
  | [] => ([], [])
  | s :: rest =>
    match digit? s with
    | some d => ((d :: (digitsFrom rest).1), (digitsFrom rest).2)
    | none => ([], s :: rest)

/-- At least one digit; `atEnd` is the problem of a text that ends here. -/
def digits (atEnd : Problem) : Reader (List Nat) := fun input =>
  match digitsFrom input with
  | ([], []) => .error atEnd
  | ([], _ :: _) => .error .malformed
  | (ds, rest) => .ok (ds, rest)

def take? (p : Symbol → Bool) : Reader (Option Symbol) := fun input =>
  match input with
  | s :: rest => if p s then .ok (some s, rest) else .ok (none, input)
  | [] => .ok (none, [])

/-- A numeral after its sign. A zero is the only digit that may stand alone in front. -/
def numeral (negative : Bool) (atEnd : Problem) : Reader Number.Numeral := do
  let whole ← digits atEnd
  if whole.head? = some 0 ∧ 1 < whole.length then throw .malformed
  let fraction ←
    match ← take? (· == some '.') with
    | some _ => some <$> digits atEnd
    | none => pure none
  let exponent ←
    match ← take? (fun s => s == some 'e' || s == some 'E') with
    | some _ => do
      let sign ← take? (fun s => s == some '+' || s == some '-')
      let power ← digits atEnd
      pure (some (sign == some (some '-'), power))
    | none => pure none
  pure ⟨negative, whole, fraction, exponent⟩

/-- A number after its sign. A numeral out of range is malformed. -/
def number (negative : Bool) : Reader Number := do
  match Number.ofNumeral (← numeral negative .truncated) with
  | some n => pure n
  | none => throw .malformed

/-- Another item follows: true in front of it, false in front of the closing bracket. -/
def itemFollows (first : Bool) : Reader Bool := do
  match ← peek with
  | none => throw .truncated
  | some s =>
    if s = some ']' then pure false
    else if first then pure true
    else if s = some ',' then do
      advance
      match ← peek with
      | none => throw .truncated
      | some s => if s = some ']' then throw .malformed else pure true
    else throw .malformed

/-- Another member follows: true in front of the quote of its name, false in front of the closing
brace. -/
def memberFollows (first : Bool) : Reader Bool := do
  match ← peek with
  | none => throw .truncated
  | some s =>
    if s = some '}' then pure false
    else if first then if s = some '"' then pure true else throw .malformed
    else if s = some ',' then do
      advance
      match ← peek with
      | none => throw .truncated
      | some s => if s = some '"' then pure true else throw .malformed
    else throw .malformed

def itemsFrom {α : Type} (item : Reader α) : Nat → Bool → Reader (List α)
  | 0, _ => throw .malformed
  | fuel + 1, first => do
    if ← itemFollows first then do
      let x ← item
      let xs ← itemsFrom item fuel false
      pure (x :: xs)
    else pure []

/-- Members up to the closing brace, each handled by `member`, which is given the name and reads the
rest. -/
def membersFrom {α : Type} (strict : Bool) (member : α → String → Reader α) :
    Nat → Bool → α → Reader α
  | 0, _, _ => throw .malformed
  | fuel + 1, first, found => do
    if ← memberFollows first then do
      advance
      let name ← string strict
      let found ← member found name
      membersFrom strict member fuel false found
    else pure found

/-- A bound on the number of items and members that are still to come. -/
def fuel : Reader Nat := do
  return (← get).length + 1

def items {α : Type} (item : Reader α) : Reader (List α) := do
  let xs ← itemsFrom item (← fuel) true
  mark ']'
  pure xs

def members {α : Type} (strict : Bool) (member : α → String → Reader α) (start : α) :
    Reader α := do
  let found ← membersFrom strict member (← fuel) true start
  mark '}'
  pure found

/-- A value; lists and objects hold values read by `inner`, and there are none where `inner` is
absent. -/
def value (inner : Option (Reader Json)) : Reader Json := do
  match ← peek with
  | none => throw .truncated
  | some none => throw .malformed
  | some (some c) =>
    if c = 'n' then do advance; word ['u', 'l', 'l']; pure .null
    else if c = 't' then do advance; word ['r', 'u', 'e']; pure (.flag true)
    else if c = 'f' then do advance; word ['a', 'l', 's', 'e']; pure (.flag false)
    else if c = '"' then do advance; .text <$> string true
    else if c = '-' then do advance; .number <$> number true
    else if c.isDigit then .number <$> number false
    else if c = '[' then
      match inner with
      | none => throw .malformed
      | some inner => do advance; .list <$> items inner
    else if c = '{' then
      match inner with
      | none => throw .malformed
      | some inner => do
        advance
        let found ← members true (fun found name => do
          mark ':'
          return Members.insert name (← inner) found) []
        pure (.object found)
    else throw .malformed

/-- Any value with at most `depth` lists and objects inside one another. Members come out sorted by
name, and the last of two with one name stays. -/
def any : Nat → Reader Json
  | 0 => value none
  | depth + 1 => value (some (any depth))

/-- The way over a value that is not wanted; `inner` goes over what lists and objects hold. -/
def skipWith (inner : Option (Reader Unit)) : Reader Unit := do
  match ← peek with
  | none => throw .truncated
  | some none => throw .malformed
  | some (some c) =>
    if c = 'n' then do advance; word ['u', 'l', 'l']
    else if c = 't' then do advance; word ['r', 'u', 'e']
    else if c = 'f' then do advance; word ['a', 'l', 's', 'e']
    else if c = '"' then do advance; discard (string false)
    else if c = '-' then do advance; discard (numeral true .malformed)
    else if c.isDigit then discard (numeral false .malformed)
    else if c = '[' then
      match inner with
      | none => throw .malformed
      | some inner => do advance; discard (items inner)
    else if c = '{' then
      match inner with
      | none => throw .malformed
      | some inner => do
        advance
        members false (fun _ _ => do mark ':'; inner) ()
    else throw .malformed

def skipWithin : Nat → Reader Unit
  | 0 => skipWith none
  | depth + 1 => skipWith (some (skipWithin depth))

/-- The way over one value, however deep it is. -/
def skip : Reader Unit := do
  skipWithin (← fuel)

def depthLimit : Nat := 127

def run {α : Type} (r : Reader α) (input : List Symbol) : Except Problem α := do
  let (x, rest) ← r input
  if (rest.dropWhile isSpace).isEmpty then pure x else throw .malformed

end Reader

def parse (s : String) : Except Problem Json :=
  (Reader.any Reader.depthLimit).run (Text.symbols s)

end MessageBus.Json
