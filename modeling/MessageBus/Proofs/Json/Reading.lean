import MessageBus.Json.Reader

/-!
# Reading what was written

The reader takes back what the compact text of a value begins with, and leaves what follows it:
marks and words, strings with their escapes, and the digits of a number as long as nothing that
follows could go on with it.
-/

namespace MessageBus.Json

open Text (Symbol)

namespace Reader

variable {α β : Type}

theorem bind_ok {r : Reader α} {input rest : List Symbol} {x : α} (h : r input = .ok (x, rest))
    (k : α → Reader β) : (r >>= k) input = k x rest := by
  simp only [bind, StateT.bind, h, Except.bind]

theorem map_ok {r : Reader α} {input rest : List Symbol} {x : α} (h : r input = .ok (x, rest))
    (f : α → β) : (f <$> r) input = .ok (f x, rest) := by
  simp only [Functor.map, StateT.map, bind, Except.bind, h]
  rfl

theorem if_pos_apply {c : Prop} [Decidable c] (h : c) {r r' : Reader α} {input : List Symbol} :
    (if c then r else r') input = r input :=
  congrFun (if_pos h) input

theorem if_neg_apply {c : Prop} [Decidable c] (h : ¬c) {r r' : Reader α} {input : List Symbol} :
    (if c then r else r') input = r' input :=
  congrFun (if_neg h) input

theorem pure_apply (x : α) (input : List Symbol) : (pure x : Reader α) input = .ok (x, input) := rfl

theorem get_apply (input : List Symbol) : (get : Reader (List Symbol)) input = .ok (input, input) :=
  rfl

theorem fuel_apply (input : List Symbol) : fuel input = .ok (input.length + 1, input) := rfl

theorem peek_of_not_space {s : Symbol} (printed : isSpace s = false) (rest : List Symbol) :
    peek (s :: rest) = .ok (some s, s :: rest) := by
  rw [peek, List.dropWhile_cons_of_neg (by simp [printed])]
  rfl

theorem advance_cons (s : Symbol) (rest : List Symbol) :
    advance (s :: rest) = .ok ((), rest) := rfl

theorem mark_self {c : Char} (printed : isSpace (some c) = false) (other : Problem)
    (rest : List Symbol) : mark c other (some c :: rest) = .ok ((), rest) := by
  rw [mark, bind_ok (peek_of_not_space printed rest)]
  exact if_pos_apply rfl

theorem word_self (cs : List Char) (rest : List Symbol) :
    word cs (cs.map some ++ rest) = .ok ((), rest) := by
  induction cs with
  | nil => rfl
  | cons c cs ih =>
    rw [word, List.map_cons, List.cons_append, bind_ok (get_apply _)]
    exact (if_pos_apply rfl).trans ((bind_ok (advance_cons _ _) _).trans ih)

theorem hexValue?_hexDigit : ∀ n < 16, hexValue? (hexDigit n) = some n := by decide

theorem fourLeft_of_four (a b c d : Char) (rest : List Symbol) :
    fourLeft (some a :: some b :: some c :: some d :: rest) = true := by
  have := a.utf8Size_pos
  have := b.utf8Size_pos
  have := c.utf8Size_pos
  have := d.utf8Size_pos
  have sum : 4 ≤ 0 + a.utf8Size + b.utf8Size + c.utf8Size + d.utf8Size := by omega
  exact decide_eq_true sum

theorem codeUnit_of_lt {n : Nat} (small : n < 32) :
    codeUnit none n = some (.plain, some (Char.ofNat n)) := by
  rw [codeUnit, if_neg (by omega), if_neg (by omega)]

def escaped : List Char := ['"', '\\', '\n', '\r', '\t', '\x08', '\x0c']

theorem escapeChar_of_not_mem {c : Char} (other : c ∉ escaped) :
    escapeChar c =
      if c.toNat < 32 then
        ['\\', 'u', '0', '0', hexDigit (c.toNat / 16), hexDigit (c.toNat % 16)]
      else [c] := by
  simp only [escaped, List.mem_cons, List.not_mem_nil, or_false, not_or] at other
  obtain ⟨quote, backslash, feed, carriage, tab, back, page⟩ := other
  rw [escapeChar, if_neg quote, if_neg backslash, if_neg feed, if_neg carriage, if_neg tab,
    if_neg back, if_neg page]

theorem stringFrom_escapeChar (c : Char) (sound : Bool) (text : List Char) (rest : List Symbol) :
    stringFrom true .plain sound text ((escapeChar c).map some ++ rest) =
      stringFrom true .plain sound (c :: text) rest := by
  by_cases short : c ∈ escaped
  · simp only [escaped, List.mem_cons, List.not_mem_nil, or_false] at short
    rcases short with rfl | rfl | rfl | rfl | rfl | rfl | rfl <;> rfl
  · rw [escapeChar_of_not_mem short]
    by_cases control : c.toNat < 32
    · have zero : hexValue? '0' = some 0 := by decide
      have high := hexValue?_hexDigit (c.toNat / 16) (by omega)
      have low := hexValue?_hexDigit (c.toNat % 16) (by omega)
      have value : c.toNat / 16 * 16 + c.toNat % 16 = c.toNat := by omega
      simp [stringFrom, control, fourLeft_of_four, zero, high, low, value, codeUnit_of_lt control]
    · have quote : c ≠ '"' := fun h => short (h ▸ by decide)
      have backslash : c ≠ '\\' := fun h => short (h ▸ by decide)
      simp [stringFrom, control, quote, backslash]

theorem stringFrom_escaped (cs : List Char) (sound : Bool) (text : List Char)
    (rest : List Symbol) :
    stringFrom true .plain sound text ((cs.flatMap escapeChar).map some ++ rest) =
      stringFrom true .plain sound (cs.reverse ++ text) rest := by
  induction cs generalizing text with
  | nil => rfl
  | cons c cs ih =>
    rw [List.flatMap_cons, List.map_append, List.append_assoc, stringFrom_escapeChar, ih,
      List.reverse_cons, List.append_assoc]
    rfl

theorem string_quoted (s : String) (rest : List Symbol) :
    string true ((s.toList.flatMap escapeChar ++ ['"']).map some ++ rest) = .ok (s, rest) := by
  rw [string, List.map_append, List.append_assoc, stringFrom_escaped]
  simp [stringFrom]

/-- What follows does not go on with a number. -/
def Ends (rest : List Symbol) : Prop :=
  ∀ s ∈ rest.head?, s = some ',' ∨ s = some ']' ∨ s = some '}'

theorem digitsFrom_of_ends {rest : List Symbol} (ends : Ends rest) :
    digitsFrom rest = ([], rest) := by
  cases rest with
  | nil => rfl
  | cons s rest => rcases ends s rfl with rfl | rfl | rfl <;> rfl

theorem digitsFrom_digits {cs : List Char} (digits : ∀ c ∈ cs, c.isDigit) {rest : List Symbol}
    (ends : Ends rest) :
    digitsFrom (cs.map some ++ rest) = (cs.map (·.toNat - 48), rest) := by
  induction cs with
  | nil => exact digitsFrom_of_ends ends
  | cons c cs ih =>
    obtain ⟨digit, others⟩ := List.forall_mem_cons.mp digits
    simp [digitsFrom, digit?, digit, ih others]

theorem take?_of_ends {p : Symbol → Bool} (comma : p (some ',') = false)
    (bracket : p (some ']') = false) (brace : p (some '}') = false) {rest : List Symbol}
    (ends : Ends rest) : take? p rest = .ok (none, rest) := by
  cases rest with
  | nil => rfl
  | cons s rest =>
    have other : p s = false := by
      rcases ends s rfl with rfl | rfl | rfl
      · exact comma
      · exact bracket
      · exact brace
    rw [take?]
    simp [other]

theorem digitChars_digits (n : Nat) : ∀ c ∈ Number.digitChars n, c.isDigit :=
  fun _ => Nat.isDigit_of_mem_toDigits (by decide) (by decide)

theorem digitChars_begin (n : Nat) : ∃ c more, Number.digitChars n = c :: more ∧ c.isDigit := by
  cases h : Number.digitChars n with
  | nil => exact absurd h Nat.toDigits_ne_nil
  | cons c more => exact ⟨c, more, rfl, digitChars_digits n c (h ▸ List.mem_cons_self ..)⟩

theorem isSpace_of_isDigit {c : Char} (digit : c.isDigit) : isSpace (some c) = false := by
  have apart (other : Char) (h : other.isDigit = false) : (some c == some other) = false := by
    refine beq_false_of_ne fun same => ?_
    rw [Option.some.inj same, h] at digit
    cases digit
  rw [isSpace, apart ' ' rfl, apart '\n' rfl, apart '\t' rfl, apart '\r' rfl]
  rfl

theorem head_digitChars {n : Nat} (positive : n ≠ 0) : (Number.digitChars n).head? ≠ some '0' := by
  induction n using Nat.strongRecOn with
  | ind n ih =>
    rw [Number.digitChars, Nat.toDigits_eq_if (by decide)]
    split
    · next small =>
      have single : ∀ n < 10, n ≠ 0 → [n.digitChar].head? ≠ some '0' := by decide
      exact single n small positive
    · next large =>
      have leading := ih (n / 10) (by omega) (by omega)
      rw [Number.digitChars] at leading
      cases digits : Nat.toDigits 10 (n / 10) with
      | nil => exact absurd digits Nat.toDigits_ne_nil
      | cons c cs =>
        rw [digits] at leading
        exact leading

theorem le_ofDigitChars (cs : List Char) (start : Nat) : start ≤ Nat.ofDigitChars 10 cs start := by
  rw [Nat.ofDigitChars_eq_ofDigitChars_zero]
  have power : 0 < 10 ^ cs.length := Nat.pow_pos (by decide)
  have := Nat.le_mul_of_pos_left start power
  omega

theorem absorb_eq (cs : List Char) (start : Nat)
    (small : Nat.ofDigitChars 10 cs start < 0x10000000000000000) :
    Number.absorb start (cs.map (·.toNat - 48)) = (Nat.ofDigitChars 10 cs start, 0) := by
  induction cs generalizing start with
  | nil => rfl
  | cons c cs ih =>
    rw [Nat.ofDigitChars_cons, Nat.mul_comm] at small ⊢
    have first : start * 10 + (c.toNat - 48) < 0x10000000000000000 :=
      Nat.lt_of_le_of_lt (le_ofDigitChars _ _) small
    rw [List.map_cons, Number.absorb, if_pos first]
    exact ih _ small

/-- A sequence of digits that is a numeral: a zero in front of it stands alone. -/
structure Whole (cs : List Char) : Prop where
  some_digit : cs ≠ []
  digits : ∀ c ∈ cs, c.isDigit
  lone_zero : cs.head? = some '0' → cs.length = 1

theorem whole_digitChars (n : Nat) : Whole (Number.digitChars n) where
  some_digit := Nat.toDigits_ne_nil
  digits := digitChars_digits n
  lone_zero first := by
    obtain rfl : n = 0 := Decidable.byContradiction fun positive => head_digitChars positive first
    rfl

theorem Whole.no_leading_zero {cs : List Char} (h : Whole cs) :
    ¬((cs.map (·.toNat - 48)).head? = some 0 ∧ 1 < (cs.map (·.toNat - 48)).length) := by
  rintro ⟨zero, longer⟩
  obtain ⟨c, others, rfl⟩ := List.exists_cons_of_ne_nil h.some_digit
  have digit := Char.isDigit_iff_toNat.mp (h.digits c (List.mem_cons_self ..))
  have zero : c.toNat - 48 = 0 := Option.some.inj zero
  have first : c = '0' := Char.toNat_inj.mp (Nat.le_antisymm (Nat.le_of_sub_eq_zero zero) digit.1)
  rw [List.length_map, h.lone_zero (first ▸ rfl)] at longer
  exact Nat.lt_irrefl _ longer

theorem Whole.numeral {cs : List Char} (h : Whole cs) (atEnd : Problem) {rest : List Symbol}
    (ends : Ends rest) :
    Reader.numeral false atEnd (cs.map some ++ rest) =
      .ok (⟨false, cs.map (·.toNat - 48), none, none⟩, rest) := by
  have whole : Reader.digits atEnd (cs.map some ++ rest) =
      .ok (cs.map (·.toNat - 48), rest) := by
    rw [Reader.digits, digitsFrom_digits h.digits ends]
    obtain ⟨c, others, rfl⟩ := List.exists_cons_of_ne_nil h.some_digit
    rfl
  have no_fraction := take?_of_ends (p := (· == some '.')) rfl rfl rfl ends
  have no_exponent := take?_of_ends (p := fun s => s == some 'e' || s == some 'E') rfl rfl rfl ends
  rw [Reader.numeral, bind_ok whole, if_neg h.no_leading_zero]
  refine (bind_ok no_fraction _).trans ?_
  exact (bind_ok (pure_apply none rest) _).trans (bind_ok no_exponent _)

theorem number_digitChars {n : Nat} (small : n < 0x10000000000000000) {rest : List Symbol}
    (ends : Ends rest) :
    number false ((Number.digitChars n).map some ++ rest) = .ok (.int n, rest) := by
  have value : Nat.ofDigitChars 10 (Number.digitChars n) 0 = n := Nat.ofDigitChars_ten_toDigits
  have absorbed := absorb_eq (Number.digitChars n) 0 (value.symm ▸ small)
  rw [value] at absorbed
  rw [number, bind_ok ((whole_digitChars n).numeral .truncated ends)]
  simp only [Number.ofNumeral, absorbed]
  rfl

theorem itemFollows_end (first : Bool) (rest : List Symbol) :
    itemFollows first (some ']' :: rest) = .ok (false, some ']' :: rest) := by
  rw [itemFollows]
  exact (bind_ok (peek_of_not_space (by decide) _) _).trans (if_pos_apply rfl)

theorem itemFollows_first {c : Char} (printed : isSpace (some c) = false) (other : c ≠ ']')
    (rest : List Symbol) :
    itemFollows true (some c :: rest) = .ok (true, some c :: rest) := by
  rw [itemFollows]
  refine (bind_ok (peek_of_not_space printed _) _).trans ?_
  exact if_neg_apply (mt Option.some.inj other)

theorem itemFollows_comma {c : Char} (printed : isSpace (some c) = false) (other : c ≠ ']')
    (rest : List Symbol) :
    itemFollows false (some ',' :: some c :: rest) = .ok (true, some c :: rest) := by
  rw [itemFollows]
  refine (bind_ok (peek_of_not_space (by decide) _) _).trans ?_
  refine (bind_ok (advance_cons _ _) _).trans ?_
  refine (bind_ok (peek_of_not_space printed _) _).trans ?_
  exact if_neg_apply (mt Option.some.inj other)

theorem memberFollows_end (first : Bool) (rest : List Symbol) :
    memberFollows first (some '}' :: rest) = .ok (false, some '}' :: rest) := by
  rw [memberFollows]
  exact (bind_ok (peek_of_not_space (by decide) _) _).trans (if_pos_apply rfl)

theorem memberFollows_first (rest : List Symbol) :
    memberFollows true (some '"' :: rest) = .ok (true, some '"' :: rest) := by
  rw [memberFollows]
  exact (bind_ok (peek_of_not_space (by decide) _) _).trans (if_neg_apply (by decide))

theorem memberFollows_comma (rest : List Symbol) :
    memberFollows false (some ',' :: some '"' :: rest) = .ok (true, some '"' :: rest) := by
  rw [memberFollows]
  refine (bind_ok (peek_of_not_space (by decide) _) _).trans ?_
  refine (bind_ok (advance_cons _ _) _).trans ?_
  exact bind_ok (peek_of_not_space (by decide) _) _

end Reader

end MessageBus.Json
