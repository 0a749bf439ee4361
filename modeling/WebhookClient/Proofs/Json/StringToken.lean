import Mathlib
import WebhookClient.Json.StringToken
import WebhookClient.Json.Value
import WebhookClient.Proofs.Except
import WebhookClient.Proofs.Text.Decimal

/-!
# Spellings of a string

A string can be spelled in many ways: each of its characters stands for itself, if it may, or is
given by a short escape, or by the hexadecimal digits of its one or two UTF-16 units. However it is
spelled, the text up to the closing quote is read as the string, whatever follows, and a text whose
units mean no string is read as none. A string that has been written is spelled in one of these
ways. Main statements: `Spells.read_append`, `Spells.join_eq_ok_iff` and
`StringToken.read_escaped_append`.
-/

set_option autoImplicit false

namespace WebhookClient.Json

/-! ## The relations -/

/-- The spellings of a piece: a character that is no control, quote or backslash stands for itself,
a letter after a backslash for the character of a short escape, and `u` with four hexadecimal digits
for a unit. -/
inductive Piece.IsSpelled : Piece → List Char → Prop where
  | plain {c : Char} (hcontrol : 0x20 ≤ c.toNat) (hquote : c ≠ '"') (hback : c ≠ '\\') :
      IsSpelled (.char c) [c]
  | short {c x : Char} (h : shortEscape? c = some x) : IsSpelled (.char x) ['\\', c]
  | unit {a b c d : Char} {i j k l : Nat} (ha : hexValue? a = some i) (hb : hexValue? b = some j)
      (hc : hexValue? c = some k) (hd : hexValue? d = some l) :
      IsSpelled (.unit (4096 * i + 256 * j + 16 * k + l)) ['\\', 'u', a, b, c, d]

/-- The texts that may stand between quotes, and their pieces. -/
inductive Spells : List Piece → List Char → Prop where
  | nil : Spells [] []
  | cons {p : Piece} {ps : List Piece} {part cs : List Char} (hp : p.IsSpelled part)
      (hps : Spells ps cs) : Spells (p :: ps) (part ++ cs)

/-- The string that pieces mean, if there is one: a character below `0x10000` is one unit, and one
above is a pair of units. -/
inductive Means : List Piece → List Char → Prop where
  | nil : Means [] []
  | char {ps : List Piece} {cs : List Char} (c : Char) (h : Means ps cs) :
      Means (.char c :: ps) (c :: cs)
  | unit {ps : List Piece} {cs : List Char} (c : Char) (h : Means ps cs) :
      Means (.unit c.toNat :: ps) (c :: cs)
  | pair {ps : List Piece} {cs : List Char} {high low : Nat} (c : Char)
      (hhigh : 0xD800 ≤ high ∧ high ≤ 0xDBFF) (hlow : 0xDC00 ≤ low ∧ low ≤ 0xDFFF)
      (hc : c.toNat = 0x10000 + 0x400 * (high - 0xD800) + (low - 0xDC00)) (h : Means ps cs) :
      Means (.unit high :: .unit low :: ps) (c :: cs)

/-! ## Scanning a spelling -/

theorem hexValue?_lt {c : Char} {i : Nat} (h : hexValue? c = some i) : i < 16 := by
  unfold hexValue? at h
  split_ifs at h with hdigit hlower hupper
  · have hle := Decimal.toNat_sub_le_of_isDigit hdigit
    cases h
    omega
  · have hle : c.toNat ≤ 'f'.toNat := hlower.2
    have hf : 'f'.toNat = 102 := rfl
    have ha : 'a'.toNat = 97 := rfl
    cases h
    omega
  · have hle : c.toNat ≤ 'F'.toNat := hupper.2
    have hf : 'F'.toNat = 70 := rfl
    have ha : 'A'.toNat = 65 := rfl
    cases h
    omega

theorem unitValue?_of_hexValue? {a b c d : Char} {i j k l : Nat} (ha : hexValue? a = some i)
    (hb : hexValue? b = some j) (hc : hexValue? c = some k) (hd : hexValue? d = some l) :
    unitValue? a b c d = some (4096 * i + 256 * j + 16 * k + l) := by
  unfold unitValue?
  rw [ha, hb, hc, hd]
  show some ((i * 16 + j) * 256 + k * 16 + l) = _
  congr 1
  omega

/-- A piece is scanned from its spelling, whatever follows. -/
theorem Piece.IsSpelled.scan_append {p : Piece} {part : List Char} (h : p.IsSpelled part)
    (cs : List Char) : scan (part ++ cs) = (p :: (scan cs).1, (scan cs).2) := by
  cases h with
  | @plain c hcontrol hquote hback =>
    rw [List.singleton_append, scan.eq_def]
    split <;> simp_all
  | @short c x h =>
    have hu : c ≠ 'u' := by
      rintro rfl
      cases h
    show scan ('\\' :: c :: cs) = _
    rw [scan.eq_def]
    split <;> simp_all
    next hother heq => exact absurd heq.2.symm (hother c cs heq.1.symm)
  | unit ha hb hc hd =>
    simp only [List.cons_append, List.nil_append]
    rw [scan, unitValue?_of_hexValue? ha hb hc hd]

theorem Spells.scan_append {ps : List Piece} {cs : List Char} (h : Spells ps cs)
    (rest : List Char) : scan (cs ++ '"' :: rest) = (ps, .closed, rest) := by
  induction h with
  | nil => rfl
  | cons hp _ ih => rw [List.append_assoc, hp.scan_append, ih]

/-- A unit has 16 bits. -/
theorem Spells.unit_lt {ps : List Piece} {cs : List Char} (h : Spells ps cs) {n : Nat}
    (hn : .unit n ∈ ps) : n < 0x10000 := by
  induction h with
  | nil => cases hn
  | cons hp _ ih =>
    obtain heq | hn := List.mem_cons.1 hn
    · cases hp with
      | plain => cases heq
      | short => cases heq
      | unit ha hb hc hd =>
        cases heq
        have hi := hexValue?_lt ha
        have hj := hexValue?_lt hb
        have hk := hexValue?_lt hc
        have hl := hexValue?_lt hd
        omega
    · exact ih hn

/-! ## Pairing the units -/

/-- A character is no half of a pair. -/
theorem isHalf_toNat (c : Char) : isLow c.toNat = false ∧ isHigh c.toNat = false := by
  have hvalid : c.toNat < 0xD800 ∨ 0xDFFF < c.toNat ∧ c.toNat < 0x110000 := c.valid
  simp only [isLow, isHigh, Bool.and_eq_false_iff, decide_eq_false_iff_not]
  omega

theorem isHigh_iff {n : Nat} : isHigh n = true ↔ 0xD800 ≤ n ∧ n ≤ 0xDBFF := by
  simp only [isHigh, Bool.and_eq_true, decide_eq_true_eq]

theorem isLow_iff {n : Nat} : isLow n = true ↔ 0xDC00 ≤ n ∧ n ≤ 0xDFFF := by
  simp only [isLow, Bool.and_eq_true, decide_eq_true_eq]

theorem toNat_ofNat {n : Nat} (h : n < 0xD800 ∨ 0xDFFF < n ∧ n < 0x110000) :
    (Char.ofNat n).toNat = n := by
  have hvalid : n.isValidChar := h
  rw [Char.ofNat, dif_pos hvalid]
  rfl

theorem toNat_pairChar {high low : Nat} (hhigh : 0xD800 ≤ high ∧ high ≤ 0xDBFF)
    (hlow : 0xDC00 ≤ low ∧ low ≤ 0xDFFF) :
    (pairChar high low).toNat = 0x10000 + 0x400 * (high - 0xD800) + (low - 0xDC00) := by
  rw [pairChar, toNat_ofNat (by omega)]
  omega

theorem join_unit {n : Nat} {ps : List Piece} (hlow : isLow n = false) (hhigh : isHigh n = false) :
    join .closed (.unit n :: ps) = (join .closed ps).map (Char.ofNat n :: ·) := by
  rw [join.eq_def]
  simp only [hlow, hhigh, Bool.false_eq_true, if_false]

theorem join_pair {high low : Nat} {ps : List Piece} (hhigh : 0xD800 ≤ high ∧ high ≤ 0xDBFF)
    (hlow : 0xDC00 ≤ low ∧ low ≤ 0xDFFF) :
    join .closed (.unit high :: .unit low :: ps) =
      (join .closed ps).map (pairChar high low :: ·) := by
  have hfirst : isLow high = false := Bool.eq_false_iff.2 fun h => by
    have := isLow_iff.1 h
    omega
  rw [join.eq_def]
  simp only [hfirst, isHigh_iff.2 hhigh, isLow_iff.2 hlow, Bool.false_eq_true, if_false, if_true]

theorem Means.join {ps : List Piece} {cs : List Char} (h : Means ps cs) :
    Json.join .closed ps = .ok cs := by
  induction h with
  | nil => rfl
  | char c _ ih =>
    unfold Json.join
    rw [ih]
    rfl
  | unit c _ ih =>
    rw [join_unit (isHalf_toNat c).1 (isHalf_toNat c).2, ih, Char.ofNat_toNat]
    rfl
  | pair c hhigh hlow hc _ ih =>
    have hchar : pairChar _ _ = c := Char.toNat_inj.1 ((toNat_pairChar hhigh hlow).trans hc.symm)
    rw [join_pair hhigh hlow, ih, hchar]
    rfl

/-- What units of 16 bits are joined to is what they mean. -/
theorem means_of_join {ps : List Piece} {cs : List Char} (hps : ∀ n, .unit n ∈ ps → n < 0x10000)
    (h : join .closed ps = .ok cs) : Means ps cs := by
  fun_induction join .closed ps generalizing cs with
  | case1 =>
    cases h
    exact .nil
  | case2 => cases h
  | case3 c ps ih =>
    obtain ⟨tail, htail, rfl⟩ := map_eq_ok_iff.1 h
    exact .char c (ih (fun n hn => hps n (List.mem_cons_of_mem _ hn)) htail)
  -- A second half comes first, or a first half with no second one after it.
  | case4 => cases h
  | case5 => cases h
  | case6 => cases h
  | case7 high _ hhigh low ps hlow ih =>
    have hhigh := isHigh_iff.1 hhigh
    have hlow := isLow_iff.1 hlow
    obtain ⟨tail, htail, rfl⟩ := map_eq_ok_iff.1 h
    refine .pair _ hhigh hlow (toNat_pairChar hhigh hlow) (ih (fun n hn => ?_) htail)
    exact hps n (List.mem_cons_of_mem _ (List.mem_cons_of_mem _ hn))
  | case8 => cases h
  | case9 n ps hlow hhigh ih =>
    have hn : n < 0x10000 := hps n List.mem_cons_self
    have hsingle : n < 0xD800 ∨ 0xDFFF < n ∧ n < 0x110000 := by
      rw [isLow_iff] at hlow
      rw [isHigh_iff] at hhigh
      omega
    obtain ⟨tail, htail, rfl⟩ := map_eq_ok_iff.1 h
    have hmeans := Means.unit (Char.ofNat n)
      (ih (fun m hm => hps m (List.mem_cons_of_mem _ hm)) htail)
    rwa [toNat_ofNat hsingle] at hmeans

theorem Spells.join_eq_ok_iff {ps : List Piece} {cs s : List Char} (h : Spells ps cs) :
    join .closed ps = .ok s ↔ Means ps s :=
  ⟨means_of_join fun _ hn => h.unit_lt hn, Means.join⟩

/-! ## Reading a spelling -/

/-- The string token of pieces that a quote ends. -/
def StringToken.ofPieces (ps : List Piece) : StringToken :=
  match join .closed ps with
  | .ok s => .plain (String.ofList s)
  | .error e => .unreadable e

theorem StringToken.ofPieces_eq_plain_iff {ps : List Piece} {s : String} :
    ofPieces ps = .plain s ↔ join .closed ps = .ok s.toList := by
  unfold ofPieces
  cases join .closed ps with
  | error e => exact iff_of_false nofun nofun
  | ok t => rw [StringToken.plain.injEq, Except.ok.injEq, ← String.toList_inj, String.toList_ofList]

namespace Spells

variable {ps : List Piece} {cs : List Char}

theorem read_append (h : Spells ps cs) (rest : List Char) :
    StringToken.read (cs ++ '"' :: rest) = (.ofPieces ps, rest) := by
  unfold StringToken.read StringToken.ofPieces
  rw [h.scan_append]
  dsimp only
  cases join .closed ps <;> rfl

end Spells

/-! ## Strings that have been written -/

theorem hexValue?_digitChar {n : Nat} (h : n < 16) : hexValue? (Nat.digitChar n) = some n := by
  interval_cases n <;> rfl

/-- The piece that a character is written as: a control without a short escape is a unit. -/
def pieceOf (c : Char) : Piece :=
  if c.toNat < 0x20 ∧ c ∉ ['\x08', '\x0c', '\n', '\r', '\t'] then .unit c.toNat else .char c

/-- A control is written as the four digits of its unit. -/
theorem isSpelled_control {c : Char} (h : c.toNat < 0x20) :
    (Piece.unit c.toNat).IsSpelled
      ['\\', 'u', '0', '0', Nat.digitChar (c.toNat / 16), Nat.digitChar (c.toNat % 16)] := by
  have hzero : hexValue? '0' = some 0 := rfl
  have hunit := Piece.IsSpelled.unit hzero hzero
    (hexValue?_digitChar (show c.toNat / 16 < 16 by omega))
    (hexValue?_digitChar (show c.toNat % 16 < 16 by omega))
  have hvalue : 4096 * 0 + 256 * 0 + 16 * (c.toNat / 16) + c.toNat % 16 = c.toNat := by omega
  rwa [hvalue] at hunit

/-- A character is written as a spelling of its piece. -/
theorem isSpelled_escapeChar (c : Char) : (pieceOf c).IsSpelled (escapeChar c) := by
  unfold escapeChar
  split
  · exact .short rfl
  · exact .short rfl
  · exact .short rfl
  · exact .short rfl
  · exact .short rfl
  · exact .short rfl
  · exact .short rfl
  · next hquote hback hb hf hn hr ht =>
    -- A character without a short escape is a unit if it is a control, and else itself.
    split
    · next hcontrol =>
      have hpiece : pieceOf c = .unit c.toNat := by
        unfold pieceOf
        rw [if_pos]
        refine ⟨hcontrol, ?_⟩
        simp only [List.mem_cons, List.not_mem_nil, or_false, not_or]
        exact ⟨hb, hf, hn, hr, ht⟩
      rw [hpiece]
      exact isSpelled_control hcontrol
    · next hcontrol =>
      have hpiece : pieceOf c = .char c := if_neg fun h => hcontrol h.1
      rw [hpiece]
      exact .plain (Nat.le_of_not_lt hcontrol) hquote hback

theorem spells_escaped (cs : List Char) : Spells (cs.map pieceOf) (cs.flatMap escapeChar) := by
  induction cs with
  | nil => exact .nil
  | cons c cs ih => exact .cons (isSpelled_escapeChar c) ih

theorem means_pieceOf (cs : List Char) : Means (cs.map pieceOf) cs := by
  induction cs with
  | nil => exact .nil
  | cons c cs ih =>
    rw [List.map_cons, pieceOf]
    split_ifs
    · exact .unit c ih
    · exact .char c ih

theorem StringToken.ofPieces_pieceOf (s : String) : ofPieces (s.toList.map pieceOf) = .plain s :=
  ofPieces_eq_plain_iff.2 (means_pieceOf s.toList).join

/-- A string that has been written reads back. -/
theorem StringToken.read_escaped_append (s : String) (rest : List Char) :
    StringToken.read (s.toList.flatMap escapeChar ++ '"' :: rest) = (.plain s, rest) := by
  rw [(spells_escaped s.toList).read_append, ofPieces_pieceOf]

/-- Two strings with the same text are the same, whatever follows. -/
theorem renderString_append_injective {s t : String} {r u : List Char}
    (h : renderString s ++ r = renderString t ++ u) : s = t ∧ r = u := by
  unfold renderString at h
  rw [List.cons_append, List.cons_append, List.append_assoc, List.append_assoc,
    List.cons.injEq] at h
  have hread := StringToken.read_escaped_append s r
  have htext : s.toList.flatMap escapeChar ++ '"' :: r = t.toList.flatMap escapeChar ++ '"' :: u :=
    h.2
  rw [htext, StringToken.read_escaped_append, Prod.mk.injEq, StringToken.plain.injEq] at hread
  exact ⟨hread.1.symm, hread.2.symm⟩

end WebhookClient.Json
