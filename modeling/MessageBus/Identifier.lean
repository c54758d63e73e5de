import MessageBus.Json.Value

/-!
# Fresh ids

A supply of ids that are all different. It stands for a source of random UUIDs, and that no two of
them are equal is what is assumed of it. The supply at hand counts, and writes each number like a
UUID of version 4: thirty-six characters, of which the first eight are the same for the whole
supply.
-/

namespace MessageBus

def hexDigits : Nat → Nat → List Char
  | 0, _ => []
  | count + 1, n => hexDigits count (n / 16) ++ [Json.hexDigit (n % 16)]

/-- Numbers of more than twelve digits are written with as many zeros behind them as it takes. -/
def idText (seed n : Nat) : String :=
  String.ofList (hexDigits 8 seed ++ "-0000-4000-8000-".toList ++
    (hexDigits 12 n ++ List.replicate (n >>> 48) '0'))

theorem hexDigit_inj {m n : Nat} (hm : m < 16) (hn : n < 16)
    (h : Json.hexDigit m = Json.hexDigit n) : m = n := by
  have apart : ∀ m < 16, ∀ n < 16, Json.hexDigit m = Json.hexDigit n → m = n := by decide
  exact apart m hm n hn h

theorem length_hexDigits (count n : Nat) : (hexDigits count n).length = count := by
  induction count generalizing n with
  | zero => rfl
  | succ count ih => rw [hexDigits, List.length_append, ih, List.length_singleton]

theorem eq_of_hexDigits {count m n : Nat} (digits : hexDigits count m = hexDigits count n)
    (rest : m >>> (4 * count) = n >>> (4 * count)) : m = n := by
  induction count generalizing m n with
  | zero => exact rest
  | succ count ih =>
    obtain ⟨leading, last⟩ := List.append_inj' digits rfl
    have same_last : m % 16 = n % 16 :=
      hexDigit_inj (Nat.mod_lt m (by decide)) (Nat.mod_lt n (by decide))
        (List.singleton_inj.mp last)
    have shifted (k : Nat) : k >>> (4 * (count + 1)) = (k / 16) >>> (4 * count) := by
      rw [Nat.mul_succ, Nat.add_comm, Nat.shiftRight_add, Nat.shiftRight_eq_div_pow k 4]
    rw [shifted, shifted] at rest
    have same_leading : m / 16 = n / 16 := ih leading rest
    omega

theorem idText_inj {seed m n : Nat} (h : idText seed m = idText seed n) : m = n := by
  have digits := List.append_cancel_left (String.ofList_injective h)
  have lengths := congrArg List.length digits
  simp only [List.length_append, length_hexDigits, List.length_replicate] at lengths
  have zeros : m >>> 48 = n >>> 48 := by omega
  rw [zeros] at digits
  exact eq_of_hexDigits (List.append_cancel_right digits) zeros

/-- The places of a random UUID of version 4: hyphens, the version, the variant, and lower-case
hexadecimal digits. -/
def idPattern : List (Char → Bool) :=
  let hex (c : Char) : Bool := c.isDigit || ('a' ≤ c && c ≤ 'f')
  let digits (n : Nat) : List (Char → Bool) := List.replicate n hex
  digits 8 ++ [(· == '-')] ++ digits 4 ++ [(· == '-'), (· == '4')] ++ digits 3 ++
    [(· == '-'), ("89ab".contains ·)] ++ digits 3 ++ [(· == '-')] ++ digits 12

def beginsWith : List (Char → Bool) → List Char → Bool
  | [], _ => true
  | _ :: _, [] => false
  | p :: ps, c :: cs => p c && beginsWith ps cs

/-- An id in the form of a random UUID stands at the front. -/
def beginsWithId (cs : List Char) : Bool :=
  beginsWith idPattern cs

structure IdSupply where
  /-- All ids that are ever drawn, in the order in which they are. -/
  stream : Nat → String
  distinct : ∀ m n, stream m = stream n → m = n
  issued : Nat := 0

namespace IdSupply

def counting (seed : Nat) : IdSupply := ⟨idText seed, fun _ _ => idText_inj, 0⟩

instance : Inhabited IdSupply := ⟨.counting 0⟩

def next (ids : IdSupply) : String × IdSupply :=
  (ids.stream ids.issued, { ids with issued := ids.issued + 1 })

def orNext (given : Option String) : StateM IdSupply String := fun ids =>
  match given with
  | some id => (id, ids)
  | none => ids.next

end IdSupply

end MessageBus
