import Mathlib
import WebhookClient.Proofs.Json.Decode
import WebhookClient.Proofs.Json.Enumeration

/-!
# Integers from number tokens

A number token is read as an integer of a range just if it is an integer token whose value is in
that range, and it is then read as its value: nothing is wrapped, cut off or rounded, whatever the
size of the token. A fraction, an exponent or a minus before a zero makes a token a double, even
where its value is whole. A value that is given by a code is read from the integer tokens of its
code. Main statements: `readsIntegers` and `readsCodes`.
-/

set_option autoImplicit false

namespace WebhookClient.Json

/-! ## Integer tokens -/

namespace Numeral

/-- A number token is an integer token, of a value: it has neither fraction nor exponent, and it is
not `-0`. -/
structure IsInteger (n : Numeral) (i : Int) : Prop where
  fraction : n.fraction = none
  exponent : n.exponent = none
  value : i = if n.negative then -(Decimal.value n.whole : Int) else Decimal.value n.whole
  not_minus_zero : ¬ (n.negative = true ∧ Decimal.value n.whole = 0)

/-- The reader takes a token for an integer just if it is an integer token that fits 64 bits. -/
theorem toInt?_eq_some_iff {n : Numeral} {i : Int} :
    n.toInt? = some i ↔ n.IsInteger i ∧ IsLong i := by
  obtain ⟨negative, whole, fraction, exponent⟩ := n
  cases fraction with
  | some ds => exact iff_of_false nofun fun h => nomatch h.1.fraction
  | none =>
    cases exponent with
    | some e => exact iff_of_false nofun fun h => nomatch h.1.exponent
    | none =>
      have hint : (Numeral.mk negative whole none none).IsInteger i ↔
          i = (if negative then -(Decimal.value whole : Int) else Decimal.value whole) ∧
            ¬ (negative = true ∧ Decimal.value whole = 0) :=
        ⟨fun h => ⟨h.value, h.not_minus_zero⟩, fun h => ⟨rfl, rfl, h.1, h.2⟩⟩
      rw [hint, IsLong]
      -- The reader has bounds for either sign; those of a minus leave out `-0`.
      cases negative with
      | true =>
        show (if 0 < Decimal.value whole ∧ Decimal.value whole ≤ 9223372036854775808 then
          some (-(Decimal.value whole : Int)) else none) = some i ↔ _
        rw [Option.ite_none_right_eq_some, if_pos rfl]
        constructor
        · rintro ⟨hrange, h⟩
          cases h
          omega
        · rintro ⟨⟨rfl, hzero⟩, hlong⟩
          refine ⟨?_, rfl⟩
          have hpos : Decimal.value whole ≠ 0 := fun h => hzero ⟨rfl, h⟩
          omega
      | false =>
        show (if Decimal.value whole ≤ maxSignificand then
          some (Decimal.value whole : Int) else none) = some i ↔ _
        rw [Option.ite_none_right_eq_some, if_neg Bool.false_ne_true, maxSignificand]
        constructor
        · rintro ⟨hrange, h⟩
          cases h
          refine ⟨⟨rfl, fun h => nomatch h.1⟩, ?_⟩
          omega
        · rintro ⟨⟨rfl, -⟩, hlong⟩
          refine ⟨?_, rfl⟩
          omega

/-- What a token is read as is an integer just if the reader takes the token for one. -/
theorem ofNumeral_eq_int_iff {n : Numeral} {i : Int} :
    Document.ofNumeral n = .number (.int i) ↔ n.toInt? = some i := by
  unfold Document.ofNumeral toNumber?
  cases hint : n.toInt? with
  | some j => simp
  | none =>
    refine iff_of_false (fun h => ?_) nofun
    cases hfloat : n.toFloat? with
    | none =>
      rw [hfloat] at h
      cases h
    | some x =>
      rw [hfloat] at h
      cases h

/-- A whole text that is one number token. -/
theorem Spells.ofChars {n : Numeral} {cs : List Char} (h : n.Spells cs) :
    Text.ofChars cs = ⟨.ofNumeral n, true⟩ := by
  have htokens : tokens (cs ++ []) = _ := h.tokens_append rfl
  rw [List.append_nil, tokens] at htokens
  rw [Text.ofChars, htokens]
  rfl

theorem Spells.decode_iff {n : Numeral} {cs : List Char} (h : n.Spells cs) {α : Type} [Wire α]
    {a : α} : decode (String.ofList cs) = .ok a ↔ Wire.read maxDepth (.ofNumeral n) = .ok a := by
  rw [decode_eq_ok_iff, String.toList_ofList, h.ofChars]
  exact and_iff_left rfl

end Numeral

/-! ## Integers of a range -/

/-- All ranges are within those of 64 bits. -/
theorem Bounded.isLong_value {w : Width} (b : Bounded w) : IsLong b.value := by
  obtain ⟨i, hleast, hgreatest⟩ := b
  have hrange : -9223372036854775808 ≤ w.least ∧ w.greatest ≤ 18446744073709551615 := by
    cases w <;> decide
  exact ⟨hrange.1.trans hleast, hgreatest.trans hrange.2⟩

theorem ofNumeral_eq_bounded_iff {w : Width} {n : Numeral} {b : Bounded w} :
    Document.ofNumeral n = .number (.int b.value) ↔ n.IsInteger b.value := by
  rw [Numeral.ofNumeral_eq_int_iff, Numeral.toInt?_eq_some_iff]
  exact and_iff_left b.isLong_value

/-- A number token is an integer of a range just if it is an integer token of that integer. -/
theorem read_ofNumeral_bounded_iff {w : Width} {depth : Nat} {n : Numeral} {b : Bounded w} :
    Wire.read depth (.ofNumeral n) = .ok b ↔ n.IsInteger b.value :=
  read_bounded_eq_ok_iff.trans ofNumeral_eq_bounded_iff

/-- Number tokens are read as integers of a range just if they are integer tokens of a value in the
range, and as that value. -/
structure ReadsIntegers (w : Width) : Prop where
  decode_iff : ∀ (n : Numeral) (cs : List Char), n.Spells cs → ∀ b : Bounded w,
    decode (String.ofList cs) = .ok b ↔ n.IsInteger b.value
  isSome_iff : ∀ (n : Numeral) (cs : List Char), n.Spells cs →
    ((∃ b : Bounded w, decode (String.ofList cs) = .ok b) ↔
      ∃ i, n.IsInteger i ∧ w.least ≤ i ∧ i ≤ w.greatest)

theorem readsIntegers (w : Width) : ReadsIntegers w := by
  have hdecode : ∀ (n : Numeral) (cs : List Char), n.Spells cs → ∀ b : Bounded w,
      decode (String.ofList cs) = .ok b ↔ n.IsInteger b.value :=
    fun n cs h b => h.decode_iff.trans read_ofNumeral_bounded_iff
  refine ⟨hdecode, fun n cs h => ⟨?_, ?_⟩⟩
  · rintro ⟨b, hb⟩
    exact ⟨b.value, (hdecode n cs h b).1 hb, b.inRange⟩
  · rintro ⟨i, hi, hrange⟩
    exact ⟨⟨i, hrange⟩, (hdecode n cs h _).2 hi⟩

/-- `1.0`, `1e0` and `-0` are no integers of any range. -/
example (i : Int) : ¬ (⟨false, ['1'], some ['0'], none⟩ : Numeral).IsInteger i ∧
    ¬ (⟨false, ['1'], none, some (false, ['0'])⟩ : Numeral).IsInteger i ∧
    ¬ (⟨true, ['0'], none, none⟩ : Numeral).IsInteger i :=
  ⟨(nomatch ·.fraction), (nomatch ·.exponent), (·.not_minus_zero ⟨rfl, rfl⟩)⟩

/-! ## Values with a code -/

/-- Number tokens are read as values of a closed set just if they are integer tokens of a declared
code, and as the value of that code, as it is found by the code as an integer of 16 bits. -/
structure ReadsCodes (α : Type) [Coded α] (codes : List Int) : Prop where
  codes_eq : (Coded.all : List α).map (fun a => (Coded.code a).value) = codes
  decode_iff : ∀ (n : Numeral) (cs : List Char), n.Spells cs → ∀ a : α,
    decode (String.ofList cs) = .ok a ↔ n.IsInteger (Coded.code a).value
  isSome_iff : ∀ (n : Numeral) (cs : List Char), n.Spells cs →
    ((∃ a : α, decode (String.ofList cs) = .ok a) ↔ ∃ i ∈ codes, n.IsInteger i)
  ofCode?_iff : ∀ (n : Numeral) (cs : List Char), n.Spells cs → ∀ a : α,
    decode (String.ofList cs) = .ok a ↔
      ∃ c : Bounded .i16, decode (String.ofList cs) = .ok c ∧ Coded.ofCode? c = some a
  code_iff : ∀ (c : Bounded .i16) (a : α), Coded.ofCode? c = some a ↔ Coded.code a = c

theorem readsCodes {α : Type} [Coded α] {codes : List Int}
    (hcodes : (Coded.all : List α).map (fun a => (Coded.code a).value) = codes) :
    ReadsCodes α codes := by
  have hdecode : ∀ (n : Numeral) (cs : List Char), n.Spells cs → ∀ a : α,
      decode (String.ofList cs) = .ok a ↔ n.IsInteger (Coded.code a).value := by
    intro n cs h a
    rw [h.decode_iff, read_coded_eq_ok_iff, ofNumeral_eq_bounded_iff]
  refine ⟨hcodes, hdecode, fun n cs h => ?_, fun n cs h a => ?_, fun c a => ofCode?_eq_some_iff⟩
  · constructor
    · rintro ⟨a, ha⟩
      refine ⟨_, ?_, (hdecode n cs h a).1 ha⟩
      rw [← hcodes]
      exact List.mem_map_of_mem (Coded.mem_all a)
    · rintro ⟨i, hi, hn⟩
      rw [← hcodes] at hi
      obtain ⟨a, -, rfl⟩ := List.mem_map.1 hi
      exact ⟨a, (hdecode n cs h a).2 hn⟩
  · simp only [ofCode?_eq_some_iff, exists_eq_right']
    exact (hdecode n cs h a).trans ((readsIntegers .i16).decode_iff n cs h _).symm

end WebhookClient.Json
