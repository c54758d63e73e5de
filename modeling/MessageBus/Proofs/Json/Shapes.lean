import MessageBus.Json.Shape
import MessageBus.Proofs.Json.Members
import MessageBus.Proofs.Json.Reading

/-!
# Reading values by their shapes

The text of a value is read by a shape, as that value or as another one, in front of anything that
may follow a value. A list is read if its items are, and an object if each of its members belongs to
a field that reads it, in whatever order the members stand.
-/

namespace MessageBus.Json

open Text (Symbol)
open Reader

def itemsChars : List Json → List Char
  | [] => [']']
  | v :: rest => chars v ++ itemsTail rest

theorem chars_list (vs : List Json) : chars (.list vs) = '[' :: itemsChars vs := by
  cases vs <;> rw [chars, itemsChars]
  rfl

theorem length_lt_itemsTail (vs : List Json) : vs.length < (itemsTail vs).length := by
  induction vs with
  | nil => exact Nat.zero_lt_one
  | cons v vs ih =>
    simp only [itemsTail, List.length_cons, List.length_append]
    omega

theorem ends_itemsTail (vs : List Json) (rest : List Symbol) :
    Ends ((itemsTail vs).map some ++ rest) := by
  cases vs with
  | nil => exact fun s first => .inr (.inl (Option.some.inj first).symm)
  | cons v vs => exact fun s first => .inl (Option.some.inj first).symm

def membersChars : Members → List Char
  | [] => ['}']
  | v :: rest => quotedChars v.1 ++ ':' :: chars v.2 ++ membersTail rest

theorem chars_object (vs : Members) : chars (.object vs) = '{' :: membersChars vs := by
  cases vs <;> rw [chars, membersChars]
  rfl

theorem length_lt_membersTail (vs : Members) : vs.length < (membersTail vs).length := by
  induction vs with
  | nil => exact Nat.zero_lt_one
  | cons v vs ih =>
    simp only [membersTail, List.length_cons, List.length_append]
    omega

theorem ends_membersTail (vs : Members) (rest : List Symbol) :
    Ends ((membersTail vs).map some ++ rest) := by
  cases vs with
  | nil => exact fun s first => .inr (.inr (Option.some.inj first).symm)
  | cons v vs => exact fun s first => .inl (Option.some.inj first).symm

/-- The text of `v` is read by the shape as `w`. It begins neither with a space nor like the end of
a list. -/
structure Shape.Reads (depth : Nat) (shape : Shape) (v w : Json) : Prop where
  read {rest : List Symbol} (ends : Ends rest) :
    shape.read depth (v.chars.map some ++ rest) = .ok (w, rest)
  begins : ∃ c more, v.chars = c :: more ∧ isSpace (some c) = false ∧ c ≠ ']'

namespace Shape.Reads

variable {depth : Nat}

theorem text (s : String) : Shape.text.Reads depth (.text s) (.text s) where
  read ends := by
    rw [Shape.read, textValue, chars, quotedChars]
    refine (bind_ok (peek_of_not_space (by decide) _) _).trans ?_
    refine (if_pos_apply rfl).trans ?_
    exact (bind_ok (advance_cons _ _) _).trans (map_ok (string_quoted s _) _)
  begins := ⟨'"', _, rfl, by decide, by decide⟩

theorem variant {names : List String} {name : String} (known : name ∈ names) :
    (Shape.variant names).Reads depth (.text name) (.text name) where
  read ends := by
    have inside := (text name : Shape.text.Reads depth _ _).read ends
    rw [Shape.read, chars, quotedChars] at inside
    rw [Shape.read, Reader.variant, chars, quotedChars]
    refine (bind_ok (peek_of_not_space (by decide) _) _).trans ?_
    refine (if_pos_apply rfl).trans ?_
    rw [variantName]
    exact (bind_ok inside _).trans (if_pos_apply known)
  begins := ⟨'"', _, rfl, by decide, by decide⟩

theorem nat {n low high : Nat} (le : low ≤ n) (ge : n ≤ high) (small : high < 0x10000000000000000) :
    (Shape.integer low high).Reads depth (.nat n) (.nat n) where
  read {rest} ends := by
    have number := number_digitChars (Nat.lt_of_le_of_lt ge small) ends
    have written : (Json.nat n).chars = Number.digitChars n := rfl
    obtain ⟨c, more, first, digit⟩ := digitChars_begin n
    rw [Shape.read, Reader.integer, written]
    rw [first] at number ⊢
    refine (bind_ok (peek_of_not_space (isSpace_of_isDigit digit) _) _).trans ?_
    have plain : c ≠ '-' := by
      rintro rfl
      cases digit
    refine (if_pos_apply (.inr digit)).trans ?_
    refine (if_neg_apply plain).trans ?_
    rw [beq_false_of_ne plain]
    refine (bind_ok number _).trans ?_
    exact if_pos_apply ⟨Int.ofNat_le.mpr le, Int.ofNat_le.mpr ge⟩
  begins := by
    obtain ⟨c, more, first, digit⟩ := digitChars_begin n
    refine ⟨c, more, first, isSpace_of_isDigit digit, ?_⟩
    rintro rfl
    cases digit

theorem null (inner : Shape) : (Shape.optional inner).Reads depth .null .null where
  read ends := by
    rw [Shape.read, chars]
    refine (bind_ok (peek_of_not_space (by decide) _) _).trans ?_
    refine (if_pos_apply rfl).trans ?_
    rw [unitValue]
    refine (bind_ok (peek_of_not_space (by decide) _) _).trans ?_
    refine (if_pos_apply rfl).trans ?_
    refine (bind_ok (advance_cons _ _) _).trans ?_
    exact (bind_ok (word_self ['u', 'l', 'l'] _) _).trans (pure_apply _ _)
  begins := ⟨'n', _, rfl, by decide, by decide⟩

theorem optional {inner : Shape} {v w : Json} (h : inner.Reads depth v w)
    (some_value : v.chars.head? ≠ some 'n') : (Shape.optional inner).Reads depth v w where
  read ends := by
    have inside := h.read ends
    obtain ⟨c, more, first, printed, -⟩ := h.begins
    rw [Shape.read]
    rw [first] at inside some_value ⊢
    refine (bind_ok (peek_of_not_space printed _) _).trans ?_
    refine (if_neg_apply fun null => some_value ?_).trans inside
    exact congrArg _ (Option.some.inj (Option.some.inj null))
  begins := h.begins

section Items

variable {item : Shape} {v w : Json} {vs ws : List Json} {fuel : Nat} {rest : List Symbol}

theorem itemsFrom_cons {first : Bool} {input : List Symbol} (h : item.Reads depth v w)
    (follows : itemFollows first input =
      .ok (true, v.chars.map some ++ ((itemsTail vs).map some ++ rest)))
    (others : itemsFrom (item.read depth) fuel false ((itemsTail vs).map some ++ rest) =
      .ok (ws, some ']' :: rest)) :
    itemsFrom (item.read depth) (fuel + 1) first input = .ok (w :: ws, some ']' :: rest) := by
  rw [itemsFrom]
  refine (bind_ok follows _).trans ?_
  refine (if_pos_apply rfl).trans ?_
  refine (bind_ok (h.read (ends_itemsTail vs rest)) _).trans ?_
  exact bind_ok others _

theorem itemsFrom_end (first : Bool) :
    itemsFrom (item.read depth) (fuel + 1) first (some ']' :: rest) =
      .ok ([], some ']' :: rest) := by
  rw [itemsFrom]
  exact (bind_ok (itemFollows_end first rest) _).trans (if_neg_apply Bool.false_ne_true)

theorem itemsFrom_tail (each : List.Forall₂ (item.Reads depth) vs ws) (enough : vs.length < fuel) :
    itemsFrom (item.read depth) fuel false ((itemsTail vs).map some ++ rest) =
      .ok (ws, some ']' :: rest) := by
  induction each generalizing fuel with
  | nil =>
    obtain ⟨fuel, rfl⟩ := Nat.exists_eq_add_one_of_ne_zero (Nat.ne_zero_of_lt enough)
    exact itemsFrom_end false
  | @cons v w vs ws h _ ih =>
    obtain ⟨fuel, rfl⟩ := Nat.exists_eq_add_one_of_ne_zero (Nat.ne_zero_of_lt enough)
    refine itemsFrom_cons h ?_ (ih (Nat.lt_of_succ_lt_succ enough))
    obtain ⟨c, more, begins, printed, other⟩ := h.begins
    rw [itemsTail, begins, List.map_append, List.append_assoc]
    exact itemFollows_comma printed other _

theorem itemsFrom_all (each : List.Forall₂ (item.Reads depth) vs ws)
    (enough : vs.length ≤ fuel) :
    itemsFrom (item.read depth) (fuel + 1) true ((itemsChars vs).map some ++ rest) =
      .ok (ws, some ']' :: rest) := by
  cases each with
  | nil => exact itemsFrom_end true
  | @cons v w vs ws h others =>
    refine itemsFrom_cons h ?_ (itemsFrom_tail others enough)
    obtain ⟨c, more, begins, printed, other⟩ := h.begins
    rw [itemsChars, begins, List.map_append, List.append_assoc]
    exact itemFollows_first printed other _

theorem items_all (each : List.Forall₂ (item.Reads depth) vs ws) :
    Reader.items (item.read depth) ((itemsChars vs).map some ++ rest) = .ok (ws, rest) := by
  have enough : vs.length ≤ ((itemsChars vs).map some ++ rest).length := by
    cases vs with
    | nil => exact Nat.zero_le _
    | cons v vs =>
      have := length_lt_itemsTail vs
      simp only [itemsChars, List.length_append, List.length_map, List.length_cons]
      omega
  rw [Reader.items]
  refine (bind_ok (fuel_apply _) _).trans ?_
  refine (bind_ok (itemsFrom_all each enough) _).trans ?_
  exact bind_ok (mark_self (by decide) _ _) _

theorem list (each : List.Forall₂ (item.Reads depth) vs ws) :
    (Shape.list item).Reads (depth + 1) (.list vs) (.list ws) where
  read ends := by
    rw [Shape.read, chars_list]
    refine (bind_ok (peek_of_not_space (by decide) _) _).trans ?_
    refine (if_pos_apply rfl).trans ?_
    refine (if_neg_apply (Nat.succ_ne_zero depth)).trans ?_
    refine (bind_ok (advance_cons _ _) _).trans ?_
    exact map_ok (items_all each) _
  begins := ⟨'[', _, chars_list vs, by decide, by decide⟩

end Items

end Shape.Reads

namespace Reader

/-- What comes behind the name of the member is read, and the member is put to those found so far,
unless one of them has its name. -/
def Takes (member : Members → String → Reader Members) (v w : String × Json) : Prop :=
  v.1 = w.1 ∧ ∀ found : Members, v.1 ∉ found.map Prod.fst → ∀ rest, Ends rest →
    member found v.1 (some ':' :: (v.2.chars.map some ++ rest)) = .ok (found ++ [w], rest)

variable {member : Members → String → Reader Members} {v w : String × Json} {vs ws : Members}
  {found : Members} {fuel : Nat} {rest : List Symbol}

theorem membersFrom_cons {first : Bool} {input : List Symbol} (h : Takes member v w)
    (new : v.1 ∉ found.map Prod.fst)
    (follows : memberFollows first input =
      .ok (true, (quotedChars v.1).map some ++
        some ':' :: (v.2.chars.map some ++ ((membersTail vs).map some ++ rest)))) :
    membersFrom true member (fuel + 1) first found input =
      membersFrom true member fuel false (found ++ [w]) ((membersTail vs).map some ++ rest) := by
  rw [membersFrom]
  refine (bind_ok follows _).trans ?_
  refine (if_pos_apply rfl).trans ?_
  refine (bind_ok (advance_cons _ _) _).trans ?_
  refine (bind_ok (string_quoted v.1 _) _).trans ?_
  exact bind_ok (h.2 found new _ (ends_membersTail vs rest)) _

theorem membersFrom_end (first : Bool) :
    membersFrom true member (fuel + 1) first found (some '}' :: rest) =
      .ok (found, some '}' :: rest) := by
  rw [membersFrom]
  exact (bind_ok (memberFollows_end first rest) _).trans (if_neg_apply Bool.false_ne_true)

theorem distinct_cons (same : v.1 = w.1) (distinct : ((found ++ v :: vs).map Prod.fst).Nodup) :
    v.1 ∉ found.map Prod.fst ∧ (((found ++ [w]) ++ vs).map Prod.fst).Nodup := by
  constructor
  · rw [List.map_append] at distinct
    exact fun old => (List.nodup_append.mp distinct).2.2 _ old _ (List.mem_cons_self ..) rfl
  · simpa [same] using distinct

theorem membersFrom_tail (each : List.Forall₂ (Takes member) vs ws)
    (distinct : ((found ++ vs).map Prod.fst).Nodup) (enough : vs.length < fuel) :
    membersFrom true member fuel false found ((membersTail vs).map some ++ rest) =
      .ok (found ++ ws, some '}' :: rest) := by
  induction each generalizing fuel found with
  | nil =>
    obtain ⟨fuel, rfl⟩ := Nat.exists_eq_add_one_of_ne_zero (Nat.ne_zero_of_lt enough)
    rw [List.append_nil]
    exact membersFrom_end false
  | @cons v w vs ws h _ ih =>
    obtain ⟨fuel, rfl⟩ := Nat.exists_eq_add_one_of_ne_zero (Nat.ne_zero_of_lt enough)
    obtain ⟨new, distinct⟩ := distinct_cons h.1 distinct
    have follows : memberFollows false ((membersTail (v :: vs)).map some ++ rest) =
        .ok (true, (quotedChars v.1).map some ++
          some ':' :: (v.2.chars.map some ++ ((membersTail vs).map some ++ rest))) := by
      rw [membersTail, quotedChars]
      simp only [List.cons_append, List.map_cons, List.map_append, List.append_assoc]
      exact memberFollows_comma _
    rw [membersFrom_cons h new follows, ih distinct (Nat.lt_of_succ_lt_succ enough),
      List.append_assoc, List.singleton_append]

theorem membersFrom_all (each : List.Forall₂ (Takes member) vs ws)
    (distinct : (vs.map Prod.fst).Nodup) (enough : vs.length ≤ fuel) :
    membersFrom true member (fuel + 1) true [] ((membersChars vs).map some ++ rest) =
      .ok (ws, some '}' :: rest) := by
  cases each with
  | nil => exact membersFrom_end true
  | @cons v w vs ws h others =>
    rw [← List.nil_append (v :: vs)] at distinct
    obtain ⟨new, distinct⟩ := distinct_cons h.1 distinct
    have follows : memberFollows true ((membersChars (v :: vs)).map some ++ rest) =
        .ok (true, (quotedChars v.1).map some ++
          some ':' :: (v.2.chars.map some ++ ((membersTail vs).map some ++ rest))) := by
      rw [membersChars, quotedChars]
      simp only [List.cons_append, List.map_cons, List.map_append, List.append_assoc]
      exact memberFollows_first _
    rw [membersFrom_cons h new follows]
    exact membersFrom_tail others distinct enough

theorem members_all (each : List.Forall₂ (Takes member) vs ws)
    (distinct : (vs.map Prod.fst).Nodup) :
    members true member [] ((membersChars vs).map some ++ rest) = .ok (ws, rest) := by
  have enough : vs.length ≤ ((membersChars vs).map some ++ rest).length := by
    cases vs with
    | nil => exact Nat.zero_le _
    | cons v vs =>
      have := length_lt_membersTail vs
      simp only [membersChars, List.length_append, List.length_map, List.length_cons]
      omega
  rw [members]
  refine (bind_ok (fuel_apply _) _).trans ?_
  refine (bind_ok (membersFrom_all each distinct enough) _).trans ?_
  exact bind_ok (mark_self (by decide) _ _) _

end Reader

namespace Fields

def find? : Fields → String → Option Shape
  | .nil, _ => none
  | .cons name shape _ rest, key => if key = name then some shape else rest.find? key

/-- The member belongs to a field, which reads its value. -/
def Reads (depth : Nat) (fields : Fields) (v w : String × Json) : Prop :=
  v.1 = w.1 ∧ ∃ shape, fields.find? v.1 = some shape ∧ shape.Reads depth v.2 w.2

variable {depth : Nat} {name : String} {shape : Shape} {v w : Json}

theorem Reads.member {fields : Fields} (known : fields.find? name = some shape)
    (h : shape.Reads depth v w) : fields.Reads depth (name, v) (name, w) :=
  ⟨rfl, shape, known, h⟩

theorem named_of_find? {fields : Fields} (known : fields.find? name = some shape)
    (h : shape.Reads depth v w) {rest : List Symbol} (ends : Ends rest) :
    fields.named depth name (some ':' :: (v.chars.map some ++ rest)) = .ok (some w, rest) := by
  match fields with
  | .nil => cases known
  | .cons other first fallback fields =>
    rw [find?] at known
    rw [named]
    by_cases same : name = other
    · rw [if_pos same] at known ⊢
      obtain rfl := Option.some.inj known
      refine (bind_ok (mark_self (by decide) _ _) _).trans ?_
      exact map_ok (h.read ends) _
    · rw [if_neg same] at known ⊢
      exact named_of_find? known h ends

end Fields

namespace Shape.Reads

/-- A record is read from its members in any order, if what is found has a value for each field. -/
theorem record {depth : Nat} {fields : Fields} {vs ws all : Members}
    (each : List.Forall₂ (fields.Reads depth) vs ws) (distinct : (vs.map Prod.fst).Nodup)
    (completed : fields.complete ws = .ok all) :
    (Shape.record fields).Reads (depth + 1) (.object vs) (.object all) where
  read ends := by
    rw [Shape.read, chars_object]
    refine (bind_ok (peek_of_not_space (by decide) _) _).trans ?_
    refine (if_neg_apply (Nat.succ_ne_zero depth)).trans ?_
    refine (bind_ok (advance_cons _ _) _).trans ?_
    refine (bind_ok (members_all (each.imp fun v w h => ?_) distinct) _).trans ?_
    · obtain ⟨same, shape, known, reads⟩ := h
      refine ⟨same, fun found new rest ends => ?_⟩
      have missing : (found.get? v.1).isSome = false := by
        rw [Members.get?_eq_none new, Option.isSome_none]
      refine (if_neg_apply (ne_true_of_eq_false missing)).trans ?_
      refine (bind_ok (Fields.named_of_find? known reads ends) _).trans ?_
      rw [same]
      rfl
    · rw [completed]
      rfl
  begins := ⟨'{', _, chars_object vs, by decide, by decide⟩

theorem parse {shape : Shape} {v w : Json} (h : shape.Reads depthLimit v w) :
    shape.parse (Text.symbols v.render) = .ok w := by
  have symbols : Text.symbols v.render = v.chars.map some ++ [] := by
    rw [Text.symbols, render, String.toList_ofList, List.append_nil]
  have ends : Ends [] := fun _ h => nomatch h
  rw [Shape.parse, Reader.run, symbols, h.read ends]
  rfl

end Shape.Reads

end MessageBus.Json
