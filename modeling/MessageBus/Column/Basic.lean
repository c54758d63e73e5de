import MessageBus.Column.Packing
import MessageBus.Json.Shape

/-!
# Columns

Values of one type are written column by column: all lengths of texts together, then all their
octets, and so on for each field. A column holds values of one kind, and two columns are put
together only if their kinds are the same.
-/

namespace MessageBus

inductive WordKind
  | unsigned32
  | unsigned64
  | signed64
  deriving DecidableEq, Repr

def WordKind.width : WordKind → Nat
  | .unsigned32 => 4
  | _ => 8

inductive Column
  /-- Nothing has been written, or only `null`. -/
  | empty
  | flags (values : List Bool)
  | words (kind : WordKind) (values : List Int)
  | texts (values : List String)
  | lists (lengths : List Nat) (items : Column)
  | objects (lengths : List Nat) (members : Column)
  /-- One of several alternatives, and what the chosen ones hold. -/
  | choices (places : List Nat) (chosen : Column)
  | pair (first rest : Column)
  deriving Repr

namespace Column

/-- The values of two columns in one. -/
def append : Column → Column → Option Column
  | .empty, c => some c
  | c, .empty => some c
  | .flags a, .flags b => some (.flags (a ++ b))
  | .words k a, .words l b => if k = l then some (.words k (a ++ b)) else none
  | .texts a, .texts b => some (.texts (a ++ b))
  | .lists m a, .lists n b => (a.append b).map (.lists (m ++ n))
  | .objects m a, .objects n b => (a.append b).map (.objects (m ++ n))
  | .choices m a, .choices n b => (a.append b).map (.choices (m ++ n))
  | .pair a b, .pair c d => do return .pair (← a.append c) (← b.append d)
  | _, _ => none

def concat : List Column → Option Column
  | [] => some .empty
  | c :: rest => concat rest >>= c.append

def octets : Column → List UInt8
  | .empty => []
  | .flags values => Packing.flags values
  | .words kind values => Packing.words kind.width values
  | .texts values =>
    Packing.lengths (values.map String.utf8ByteSize) ++ values.flatMap Text.encode
  | .lists lengths items => Packing.lengths lengths ++ items.octets
  | .objects lengths members => Packing.lengths lengths ++ members.octets
  | .choices places chosen => Packing.small places ++ chosen.octets
  | .pair first rest => first.octets ++ rest.octets

mutual

/-- The column of a value of open shape: its items and its members must each be of one kind. A
double is written as the word of its bits, so it goes with numbers that are not negative. -/
def ofJson : Json → Option Column
  | .null => some .empty
  | .flag b => some (.flags [b])
  | .number (.int n) => some (.words (if 0 ≤ n then .unsigned64 else .signed64) [n])
  | .number (.float bits) => some (.words .unsigned64 [bits.toNat])
  | .text s => some (.texts [s])
  | .list items => (ofItems items).map (.lists [items.length])
  | .object members => (ofMembers members).map (.objects [members.length])

def ofItems : List Json → Option Column
  | [] => some .empty
  | v :: rest => do (← ofJson v).append (← ofItems rest)

def ofMembers : List (String × Json) → Option Column
  | [] => some .empty
  | (k, v) :: rest => do (Column.pair (.texts [k]) (← ofJson v)).append (← ofMembers rest)

end

/-- The words that the integers of a range are written as. -/
def wordKind (low high : Int) : WordKind :=
  if low < 0 then .signed64 else if high < 0x100000000 then .unsigned32 else .unsigned64

open Json in
mutual

def ofShape : Shape → Json → Option Column
  | .text, .text s => some (.texts [s])
  | .integer low high, .number (.int n) => some (.words (wordKind low high) [n])
  | .flag, .flag b => some (.flags [b])
  | .unit, _ => some .empty
  | .any, v => ofJson v
  | .optional _, .null => some (.choices [0] .empty)
  | .optional inner, v => (ofShape inner v).map (.choices [1])
  | .list item, .list items =>
    items.mapM (ofShape item) >>= concat |>.map (.lists [items.length])
  | .variant names, .text s => some (.choices [names.idxOf s] .empty)
  | .record fields, .object members => ofFields fields members
  | _, _ => none

def ofFields : Fields → Members → Option Column
  | .nil, _ => some .empty
  | .cons name shape _ rest, members => do
    return .pair (← ofShape shape (((members.get? name).getD .null))) (← ofFields rest members)

end

end Column

end MessageBus
