import Mathlib
import WebhookClient.Json.Number
import WebhookClient.Proofs.Text.Decimal

/-!
# Numerals read back

The texts that spell a numeral, among them the one that it is written as, and that reading one of
them gives the numeral again wherever nothing follows that could continue it. Main statement:
`Spells.read_append`.
-/

set_option autoImplicit false

namespace WebhookClient.Json.Numeral

/-! ## The text of a numeral -/

/-- A fraction with its point. -/
def fractionText : Option (List Char) → List Char
  | none => []
  | some ds => '.' :: ds

/-- An exponent with its letter and sign. -/
def exponentText : Option (Bool × List Char) → List Char
  | none => []
  | some (true, ds) => 'e' :: '-' :: ds
  | some (false, ds) => 'e' :: '+' :: ds

/-- The text of a numeral. -/
def toChars (n : Numeral) : List Char :=
  (if n.negative then ['-'] else []) ++
    (n.whole ++ (fractionText n.fraction ++ exponentText n.exponent))

/-- The texts of an exponent: after a letter of either case a sign, which may be left out if it is a
plus. -/
inductive SpellsExponent : Option (Bool × List Char) → List Char → Prop where
  | none : SpellsExponent none []
  | minus {letter : Char} (h : letter = 'e' ∨ letter = 'E') (ds : List Char) :
      SpellsExponent (some (true, ds)) (letter :: '-' :: ds)
  | plus {letter : Char} (h : letter = 'e' ∨ letter = 'E') (ds : List Char) :
      SpellsExponent (some (false, ds)) (letter :: '+' :: ds)
  | unsigned {letter : Char} (h : letter = 'e' ∨ letter = 'E') (ds : List Char) :
      SpellsExponent (some (false, ds)) (letter :: ds)

theorem spellsExponent_exponentText (e : Option (Bool × List Char)) :
    SpellsExponent e (exponentText e) := by
  match e with
  | none => exact .none
  | some (true, ds) => exact .minus (.inl rfl) ds
  | some (false, ds) => exact .plus (.inl rfl) ds

/-- A run of at least one digit. -/
def IsRun (ds : List Char) : Prop := ds ≠ [] ∧ ∀ c ∈ ds, c.isDigit = true

/-- All runs of a numeral are runs of digits, and only a single zero stands first. -/
structure IsWellFormed (n : Numeral) : Prop where
  whole : IsRun n.whole
  leading : n.whole = ['0'] ∨ n.whole.head? ≠ some '0'
  fraction : ∀ ds ∈ n.fraction, IsRun ds
  exponent : ∀ e ∈ n.exponent, IsRun e.2

/-- A text spells a numeral: its sign if that is a minus, its whole digits, its fraction and one of
the texts of its exponent. -/
structure Spells (n : Numeral) (cs : List Char) : Prop where
  wellFormed : n.IsWellFormed
  text : ∃ es, SpellsExponent n.exponent es ∧
    cs = (if n.negative then ['-'] else []) ++ (n.whole ++ (fractionText n.fraction ++ es))

theorem spells_toChars {n : Numeral} (hn : n.IsWellFormed) : n.Spells n.toChars :=
  ⟨hn, exponentText n.exponent, spellsExponent_exponentText n.exponent, rfl⟩

/-- The character does not continue a run of digits. -/
def endsRun (c : Char) : Bool := !c.isDigit

/-- The character does not continue the whole digits, nor starts a fraction. -/
def endsWhole (c : Char) : Bool := endsRun c && c != '.'

/-- The character does not continue a number. -/
def endsNumber (c : Char) : Bool := endsWhole c && c != 'e' && c != 'E'

theorem isRun_digits (n : Nat) : IsRun (Decimal.digits n) :=
  ⟨Decimal.digits_ne_nil n, fun _ hc => Decimal.isDigit_of_mem_digits hc⟩

/-! ## Reading the parts -/

theorem someDigits_append {ds rest : List Char} (hds : IsRun ds)
    (hrest : rest.head?.all endsRun) : someDigits (ds ++ rest) = .ok (ds, rest) := by
  have hspan : spanDigits (ds ++ rest) = (ds, rest) := by
    have h := Decimal.takeWhile_isDigit_append hds.2 hrest
    exact Prod.ext h.1 h.2
  unfold someDigits
  rw [hspan, if_neg hds.1]

/-- What ends a number ends the runs in it. -/
theorem all_endsWhole {rest : List Char} (h : rest.head?.all endsNumber) :
    rest.head?.all endsWhole := by
  cases rest with
  | nil => rfl
  | cons c cs =>
    have h' : endsNumber c = true := h
    simp only [endsNumber, Bool.and_eq_true] at h'
    exact h'.1.1

theorem all_endsRun {rest : List Char} (h : rest.head?.all endsWhole) :
    rest.head?.all endsRun := by
  cases rest with
  | nil => rfl
  | cons c cs =>
    have h' : endsWhole c = true := h
    simp only [endsWhole, Bool.and_eq_true] at h'
    exact h'.1

/-- Digits are not taken for a sign. -/
theorem exponentSign_append {ds : List Char} (hds : IsRun ds) (rest : List Char) :
    exponentSign (ds ++ rest) = (false, ds ++ rest) := by
  obtain ⟨d, tail, rfl⟩ := List.exists_cons_of_ne_nil hds.1
  have hd : d.isDigit = true := hds.2 d List.mem_cons_self
  rw [List.cons_append]
  unfold exponentSign
  split
  · next heq =>
    cases heq
    exact absurd hd (by decide)
  · next heq =>
    cases heq
    exact absurd hd (by decide)
  · rfl

/-- After its letter an exponent is its sign and a run of digits. -/
theorem readExponent_cons {letter : Char} (h : letter = 'e' ∨ letter = 'E') {negative : Bool}
    {ds cs rest : List Char} (hsign : exponentSign cs = (negative, ds ++ rest)) (hds : IsRun ds)
    (hrest : rest.head?.all endsRun) :
    readExponent (letter :: cs) = .ok (some (negative, ds), rest) := by
  rw [readExponent, if_pos h, hsign, someDigits_append hds hrest]
  rfl

theorem SpellsExponent.readExponent_append {e : Option (Bool × List Char)} {es rest : List Char}
    (h : SpellsExponent e es) (he : ∀ x ∈ e, IsRun x.2) (hrest : rest.head?.all endsNumber) :
    readExponent (es ++ rest) = .ok (e, rest) := by
  have hrun := all_endsRun (all_endsWhole hrest)
  cases h with
  | none =>
    cases rest with
    | nil => rfl
    | cons c cs =>
      have hc : endsNumber c = true := hrest
      simp only [endsNumber, Bool.and_eq_true, bne_iff_ne] at hc
      have hletter : ¬ (c = 'e' ∨ c = 'E') := by
        rintro (h | h)
        · exact hc.1.2 h
        · exact hc.2 h
      exact if_neg hletter
  | minus hletter ds => exact readExponent_cons hletter rfl (he _ rfl) hrun
  | plus hletter ds => exact readExponent_cons hletter rfl (he _ rfl) hrun
  | unsigned hletter ds =>
    exact readExponent_cons hletter (exponentSign_append (he _ rfl) rest) (he _ rfl) hrun

/-- An exponent, and what cannot continue a number, do not continue digits nor start a fraction. -/
theorem SpellsExponent.all_endsWhole {e : Option (Bool × List Char)} {es rest : List Char}
    (h : SpellsExponent e es) (hrest : rest.head?.all endsNumber) :
    (es ++ rest).head?.all endsWhole := by
  cases h with
  | none => exact Numeral.all_endsWhole hrest
  | minus hletter ds => obtain rfl | rfl := hletter <;> rfl
  | plus hletter ds => obtain rfl | rfl := hletter <;> rfl
  | unsigned hletter ds => obtain rfl | rfl := hletter <;> rfl

theorem readFraction_append {f : Option (List Char)} {rest : List Char}
    (hf : ∀ ds ∈ f, IsRun ds) (hrest : rest.head?.all endsWhole) :
    readFraction (fractionText f ++ rest) = .ok (f, rest) := by
  match f with
  | none =>
    show readFraction rest = _
    unfold readFraction
    split
    · next cs => exact absurd hrest (by simp [endsWhole])
    · rfl
  | some ds =>
    show (someDigits (ds ++ rest) >>= fun r => .ok (some r.1, r.2)) = _
    rw [someDigits_append (hf ds rfl) (all_endsRun hrest)]
    rfl

theorem readWhole_append {ds rest : List Char} (hds : IsRun ds)
    (hlead : ds = ['0'] ∨ ds.head? ≠ some '0') (hrest : rest.head?.all endsRun) :
    readWhole (ds ++ rest) = .ok (ds, rest) := by
  rcases hlead with rfl | hlead
  · cases rest with
    | nil => rfl
    | cons c cs =>
      have hc : c.isDigit = false := by simpa [endsRun] using hrest
      show (if c.isDigit then _ else _) = _
      rw [hc]
      rfl
  · unfold readWhole
    split
    · next c cs heq =>
      cases ds with
      | nil => exact absurd rfl hds.1
      | cons d ds =>
        have hd : d = '0' := (List.cons.inj heq).1
        exact absurd (congrArg some hd) hlead
    · exact someDigits_append hds hrest

/-! ## Reading a numeral -/

/-- A numeral is read from its texts in front of whatever cannot continue it. -/
theorem Spells.read_append {n : Numeral} {cs rest : List Char} (h : n.Spells cs)
    (hrest : rest.head?.all endsNumber) : read (cs ++ rest) = .ok (n, rest) := by
  obtain ⟨hn, es, hes, rfl⟩ := h
  have hexp : (es ++ rest).head?.all endsWhole := hes.all_endsWhole hrest
  have hfrac : (fractionText n.fraction ++ (es ++ rest)).head?.all endsRun := by
    match n.fraction with
    | none => exact all_endsRun hexp
    | some _ => rfl
  have hunsigned : readUnsigned n.negative (n.whole ++ (fractionText n.fraction ++ (es ++ rest))) =
      .ok (n, rest) := by
    unfold readUnsigned
    rw [readWhole_append hn.whole hn.leading hfrac]
    show (readFraction _ >>= _) = _
    rw [readFraction_append hn.fraction hexp]
    show (readExponent _ >>= _) = _
    rw [hes.readExponent_append hn.exponent hrest]
    rfl
  -- The parts are read in turn, each in front of a text that ends it.
  simp only [List.append_assoc]
  cases hneg : n.negative with
  | true =>
    rw [hneg] at hunsigned
    exact hunsigned
  | false =>
    rw [hneg] at hunsigned
    show read (n.whole ++ _) = _
    unfold read
    split
    · next cs heq =>
      -- A run of digits does not start with a sign.
      obtain ⟨hne, hdigits⟩ := hn.whole
      cases hw : n.whole with
      | nil => exact absurd hw hne
      | cons d ds =>
        rw [hw] at heq
        have hd : d = '-' := (List.cons.inj heq).1
        have hdigit := hdigits d (by rw [hw]; exact List.mem_cons_self)
        rw [hd] at hdigit
        exact absurd hdigit (by decide)
    · exact hunsigned

/-- A numeral reads back in front of whatever cannot continue it. -/
theorem read_toChars_append {n : Numeral} (hn : n.IsWellFormed) {rest : List Char}
    (hrest : rest.head?.all endsNumber) : read (n.toChars ++ rest) = .ok (n, rest) :=
  (spells_toChars hn).read_append hrest

/-- Two numerals with the same text are the same. -/
theorem toChars_append_injective {a b : Numeral} (ha : a.IsWellFormed) (hb : b.IsWellFormed)
    {r s : List Char} (hr : r.head?.all endsNumber) (hs : s.head?.all endsNumber)
    (h : a.toChars ++ r = b.toChars ++ s) : a = b ∧ r = s := by
  have hread := read_toChars_append ha hr
  rw [h, read_toChars_append hb hs, Except.ok.injEq, Prod.mk.injEq] at hread
  exact ⟨hread.1.symm, hread.2.symm⟩

end WebhookClient.Json.Numeral
