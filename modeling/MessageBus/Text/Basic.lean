/-!
# Texts

Octets of a text, and octets read back one character at a time. Reading never stops: an octet that
starts no character becomes a symbol of its own, and reading goes on with the next octet.

The characters with the Unicode property `White_Space` are blank. A text is blank when trimming
leaves nothing of it.
-/

namespace MessageBus.Text

/-- What one place of a text holds: a character, or an octet that belongs to none. -/
abbrev Symbol := Option Char

def Symbol.width : Symbol → Nat
  | some c => c.utf8Size
  | none => 1

def octets (cs : List Char) : List UInt8 :=
  cs.flatMap String.utf8EncodeChar

def encode (s : String) : List UInt8 :=
  octets s.toList

/-- The symbols of a text. None of them is a stray octet. -/
def symbols (s : String) : List Symbol :=
  s.toList.map some

/-- The low six bits of a continuation octet, `none` for any other octet. -/
def continuation (b : UInt8) : Option Nat :=
  if 0x80 ≤ b ∧ b ≤ 0xBF then some (b.toNat - 0x80) else none

/-- The character that starts with octet `a`, and the number of octets that it takes from the rest.
Overlong forms, surrogates and code points above `10FFFF` are refused. -/
def leading (a : UInt8) (rest : List UInt8) : Option (Char × Nat) :=
  if a < 0x80 then some (Char.ofNat a.toNat, 0)
  else if a < 0xC2 then none
  else if a < 0xE0 then do
    let b ← rest[0]? >>= continuation
    some (Char.ofNat ((a.toNat - 0xC0) * 64 + b), 1)
  else if a < 0xF0 then do
    let b ← rest[0]? >>= continuation
    let c ← rest[1]? >>= continuation
    let n := (a.toNat - 0xE0) * 4096 + b * 64 + c
    if n < 0x800 ∨ (0xD800 ≤ n ∧ n ≤ 0xDFFF) then none else some (Char.ofNat n, 2)
  else if a < 0xF5 then do
    let b ← rest[0]? >>= continuation
    let c ← rest[1]? >>= continuation
    let d ← rest[2]? >>= continuation
    let n := (a.toNat - 0xF0) * 262144 + b * 4096 + c * 64 + d
    if n < 0x10000 ∨ 0x10FFFF < n then none else some (Char.ofNat n, 3)
  else none

/-- The symbols of a sequence of octets: `skip` octets are still part of the last character. -/
def decodeFrom (skip : Nat) : List UInt8 → List Symbol
  | [] => []
  | a :: rest =>
    match skip with
    | n + 1 => decodeFrom n rest
    | 0 =>
      match leading a rest with
      | some (c, n) => some c :: decodeFrom n rest
      | none => none :: decodeFrom 0 rest

def decode (bytes : List UInt8) : List Symbol :=
  decodeFrom 0 bytes

/-- The octets as a text, if they are well formed. -/
def text? (bytes : List UInt8) : Option String :=
  (decode bytes).mapM id |>.map String.ofList

/-- The character has the property `White_Space`. -/
def isBlank (c : Char) : Bool :=
  let n := c.toNat
  (9 ≤ n && n ≤ 13) || n == 0x20 || n == 0x85 || n == 0xA0 || n == 0x1680 ||
    (0x2000 ≤ n && n ≤ 0x200A) || n == 0x2028 || n == 0x2029 || n == 0x202F || n == 0x205F ||
    n == 0x3000

def trimChars (cs : List Char) : List Char :=
  ((cs.dropWhile isBlank).reverse.dropWhile isBlank).reverse

def isBlankText (s : String) : Bool :=
  s.toList.all isBlank

end MessageBus.Text
