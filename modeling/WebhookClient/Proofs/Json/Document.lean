import Mathlib
import WebhookClient.Json.Document
import WebhookClient.Proofs.Json.Text

/-!
# The document of a text that has been written

The text of a value is read as the document of that value and nothing is left over, as long as
the numbers of the value are integers of 64 bits. The reader takes one token after the other; a
value takes it from any place where it waits for a value to the place behind that value. Main
statement: `Text.ofChars_render`.
-/

set_option autoImplicit false

namespace WebhookClient.Json

/-! ## Integers of 64 bits -/

/-- An integer of 64 bits, signed or not. -/
def IsLong (i : Int) : Prop := -9223372036854775808 ≤ i ∧ i ≤ 18446744073709551615

/-- All numbers of a value are integers of 64 bits. -/
inductive HasLongs : Json → Prop where
  | null : HasLongs .null
  | bool (b : Bool) : HasLongs (.bool b)
  | int {i : Int} : IsLong i → HasLongs (.number (.int i))
  | string (s : String) : HasLongs (.string s)
  | list {items : List Json} : (∀ a ∈ items, HasLongs a) → HasLongs (.list items)
  | object {members : List (String × Json)} :
      (∀ m ∈ members, HasLongs m.2) → HasLongs (.object members)

theorem Numeral.toNumber?_ofInt {i : Int} (h : IsLong i) :
    (Numeral.ofInt i).toNumber? = some (.int i) := by
  obtain ⟨hleast, hgreatest⟩ := h
  have hint : (Numeral.ofInt i).toInt? = some i := by
    cases i with
    | ofNat n =>
      have hle : n ≤ Numeral.maxSignificand := by
        show n ≤ 18446744073709551615
        have hn : Int.ofNat n = (n : Int) := rfl
        omega
      show (if Decimal.value (Decimal.digits n) ≤ Numeral.maxSignificand then
        some (Decimal.value (Decimal.digits n) : Int) else none) = _
      rw [Decimal.value_digits, if_pos hle]
      rfl
    | negSucc n =>
      have hle : 0 < n + 1 ∧ n + 1 ≤ 9223372036854775808 := by omega
      show (if 0 < Decimal.value (Decimal.digits (n + 1)) ∧
        Decimal.value (Decimal.digits (n + 1)) ≤ 9223372036854775808 then
          some (-(Decimal.value (Decimal.digits (n + 1)) : Int)) else none) = _
      rw [Decimal.value_digits, if_pos hle]
      rfl
  rw [Numeral.toNumber?, hint]

/-! ## Tokens -/

theorem tokens_cons {c : Char} {cs : List Char} (h : isSpace c = false) :
    tokens (c :: cs) = (token c cs).1 :: tokens (token c cs).2 := by
  rw [tokens, if_neg (Bool.eq_false_iff.1 h)]

/-- A string is one token, however it is spelled. -/
theorem Spells.tokens_append {ps : List Piece} {cs : List Char} (h : Spells ps cs)
    (rest : List Char) :
    tokens ('"' :: (cs ++ '"' :: rest)) = .text (.ofPieces ps) :: tokens rest := by
  rw [tokens_cons rfl]
  show Token.text (StringToken.read _).1 :: tokens (StringToken.read _).2 = _
  rw [h.read_append]

theorem tokens_renderString_append (s : String) (rest : List Char) :
    tokens (renderString s ++ rest) = .text (.plain s) :: tokens rest := by
  have htext : renderString s ++ rest = '"' :: (s.toList.flatMap escapeChar ++ '"' :: rest) := by
    rw [renderString, List.cons_append, List.append_assoc]
    rfl
  rw [htext, (spells_escaped s.toList).tokens_append, StringToken.ofPieces_pieceOf]

theorem isSpace_of_kindOfLead? {c : Char} {k : Kind} (h : kindOfLead? c = some k) :
    isSpace c = false := by
  rw [Bool.eq_false_iff]
  intro hspace
  simp only [isSpace, Bool.or_eq_true, decide_eq_true_eq] at hspace
  -- No value starts with a blank.
  rcases hspace with ((rfl | rfl) | rfl) | rfl <;> exact absurd h (by simp [kindOfLead?])

/-- A character that starts a number starts the token of that number. -/
theorem token_of_kindOfLead?_eq_number {c : Char} (h : kindOfLead? c = some .number)
    (cs : List Char) : token c cs = numberToken (c :: cs) := by
  have hlead : c = '-' ∨ c.isDigit = true := by
    by_contra hno
    unfold kindOfLead? at h
    rw [if_neg hno] at h
    split_ifs at h <;> cases h
  unfold token
  split
  -- All marks and letters that have a token of their own start no number.
  iterate 10 exact absurd hlead (by decide)
  rw [if_pos]
  rw [Bool.or_eq_true, decide_eq_true_eq]
  exact hlead

/-- The document of a number token. -/
def Document.ofNumeral (n : Numeral) : Document := n.toNumber?.elim .overlarge .number

/-- A number is one token, however it is spelled, in front of whatever cannot continue it. -/
theorem Numeral.Spells.tokens_append {n : Numeral} {cs rest : List Char} (h : n.Spells cs)
    (hrest : rest.head?.all Numeral.endsNumber) :
    tokens (cs ++ rest) = .leaf (.ofNumeral n) :: tokens rest := by
  have hread := h.read_append hrest
  obtain ⟨c, tail, rfl, hkind⟩ := h.lead
  have htoken : numberToken (c :: (tail ++ rest)) = (.leaf (.ofNumeral n), rest) := by
    rw [numberToken, ← List.cons_append, hread]
    rfl
  rw [List.cons_append, tokens_cons (isSpace_of_kindOfLead? hkind),
    token_of_kindOfLead?_eq_number hkind, htoken]

theorem tokens_number_append {i : Int} (h : IsLong i) {rest : List Char}
    (hrest : rest.head?.all endsValue) :
    tokens (render (.number (.int i)) ++ rest) = .leaf (.number (.int i)) :: tokens rest := by
  have hspells := Numeral.spells_toChars (Numeral.isWellFormed_ofInt i)
  have htext : render (.number (.int i)) = (Numeral.ofInt i).toChars :=
    (Numeral.toChars_ofInt i).symm
  rw [htext, hspells.tokens_append (all_endsNumber hrest), Document.ofNumeral,
    Numeral.toNumber?_ofInt h]
  rfl

/-! ## The reader -/

theorem Items.append_concat (ds : List Document) (d : Document) (rest : Items) :
    append (ds ++ [d]) rest = append ds (.item d rest) := by
  induction ds with
  | nil => rfl
  | cons e ds ih => exact congrArg (Items.item e) ih

theorem Members.append_concat (ms : List (StringToken × Document)) (n : StringToken)
    (d : Document) (rest : Members) :
    append (ms ++ [(n, d)]) rest = append ms (.member n d rest) := by
  induction ms with
  | nil => rfl
  | cons m ms ih => exact congrArg (Members.member m.1 m.2) ih

namespace State

/-- The reader waits for a value within these lists and objects. -/
def Awaits (st : State) (stack : List Frame) : Prop :=
  ∀ t, t ≠ .closeList → st.step t = begin stack t

theorem awaits_value (stack : List Frame) : (value stack).Awaits stack := fun _ _ => rfl

theorem awaits_firstItem (stack : List Frame) :
    (firstItem stack).Awaits (.list [] :: stack) := by
  intro t ht
  cases t <;> first | rfl | exact absurd rfl ht

theorem awaits_nextItem (stack : List Frame) (before : List Document) :
    (nextItem stack before).Awaits (.list before :: stack) := by
  intro t ht
  cases t <;> first | rfl | exact absurd rfl ht

/-- Takes the tokens of a text. -/
def take (st : State) (cs : List Char) : State := (tokens cs).foldl step st

theorem take_cons {c : Char} {cs : List Char} (h : isSpace c = false) (st : State) :
    st.take (c :: cs) = (st.step (token c cs).1).take (token c cs).2 := by
  rw [take, tokens_cons h]
  rfl

theorem take_renderString_append (st : State) (s : String) (rest : List Char) :
    st.take (renderString s ++ rest) = (st.step (.text (.plain s))).take rest := by
  rw [take, tokens_renderString_append]
  rfl

/-- From wherever it waits for it, a value takes the reader to the place behind that value. -/
def Takes (a : Json) : Prop :=
  ∀ (st : State) (stack : List Frame) (rest : List Char), st.Awaits stack →
    rest.head?.all endsValue →
      st.take (render a ++ rest) = (add (.ofJson a) stack).take rest

/-! ### Lists -/

theorem take_itemsTail_append {items : List Json} (h : ∀ a ∈ items, Takes a)
    (stack : List Frame) (before : List Document) (rest : List Char) :
    (inList stack before).take (itemsTail items ++ rest) =
      (add (.list (.append before.reverse (Document.ofJson.ofItems items))) stack).take rest := by
  induction items generalizing before with
  | nil => exact take_cons rfl _
  | cons a items ih =>
    obtain ⟨ha, hitems⟩ := List.forall_mem_cons.1 h
    rw [itemsTail, List.cons_append, take_cons rfl, renderItems_cons]
    show (nextItem stack before).take (render a ++ itemsTail items ++ rest) = _
    rw [List.append_assoc,
      ha _ _ _ (awaits_nextItem stack before) (all_endsValue_itemsTail items rest)]
    show (inList stack (.ofJson a :: before)).take _ = _
    rw [ih hitems, List.reverse_cons, Items.append_concat]
    rfl

theorem takes_list {items : List Json} (h : ∀ a ∈ items, Takes a) : Takes (.list items) := by
  intro st stack rest hst hrest
  rw [render, List.cons_append, take_cons rfl]
  show (st.step .openList).take (renderItems items ++ rest) = _
  rw [hst _ (by simp)]
  show (firstItem stack).take _ = _
  cases items with
  | nil => exact take_cons rfl _
  | cons a items =>
    obtain ⟨ha, hitems⟩ := List.forall_mem_cons.1 h
    rw [renderItems_cons, List.append_assoc,
      ha _ _ _ (awaits_firstItem stack) (all_endsValue_itemsTail items rest)]
    exact take_itemsTail_append hitems stack [.ofJson a] rest

/-! ### Objects -/

/-- A name and its value, where the reader waits for a name. -/
theorem take_member_append {st : State} {stack : List Frame}
    {before : List (StringToken × Document)}
    (hst : ∀ t, st.step (.text t) = .colon stack before t) (k : String) {a : Json}
    (ha : Takes a) {rest : List Char} (hrest : rest.head?.all endsValue) :
    st.take (renderString k ++ ':' :: (render a ++ rest)) =
      (inObject stack ((.plain k, .ofJson a) :: before)).take rest := by
  rw [take_renderString_append, hst, take_cons rfl]
  show (value (.object before (.plain k) :: stack)).take (render a ++ rest) = _
  rw [ha _ _ _ (awaits_value _) hrest]
  rfl

theorem take_membersTail_append {members : List (String × Json)}
    (h : ∀ m ∈ members, Takes m.2) (stack : List Frame)
    (before : List (StringToken × Document)) (rest : List Char) :
    (inObject stack before).take (membersTail members ++ rest) =
      (add (.object (.append before.reverse
        (Document.ofJson.ofMembers members))) stack).take rest := by
  induction members generalizing before with
  | nil => exact take_cons rfl _
  | cons m members ih =>
    obtain ⟨k, a⟩ := m
    obtain ⟨ha, hmembers⟩ := List.forall_mem_cons.1 h
    have hname (t : StringToken) :
        (nextName stack before).step (.text t) = .colon stack before t := rfl
    rw [membersTail, List.cons_append, take_cons rfl, renderMembers_cons, List.append_assoc,
      List.cons_append, List.append_assoc]
    show (nextName stack before).take (renderString k ++ ':' :: (render a ++ _)) = _
    rw [take_member_append hname k ha (all_endsValue_membersTail members rest),
      ih hmembers, List.reverse_cons, Members.append_concat]
    rfl

theorem takes_object {members : List (String × Json)} (h : ∀ m ∈ members, Takes m.2) :
    Takes (.object members) := by
  intro st stack rest hst hrest
  rw [render, List.cons_append, take_cons rfl]
  show (st.step .openObject).take (renderMembers members ++ rest) = _
  rw [hst _ (by simp)]
  show (firstName stack).take _ = _
  cases members with
  | nil => exact take_cons rfl _
  | cons m members =>
    obtain ⟨k, a⟩ := m
    obtain ⟨ha, hmembers⟩ := List.forall_mem_cons.1 h
    have hname (t : StringToken) : (firstName stack).step (.text t) = .colon stack [] t := rfl
    rw [renderMembers_cons, List.append_assoc, List.cons_append, List.append_assoc,
      take_member_append hname k ha (all_endsValue_membersTail members rest)]
    exact take_membersTail_append hmembers stack [(.plain k, .ofJson a)] rest

/-! ### Values -/

theorem takes_of_hasLongs {a : Json} (h : a.HasLongs) : Takes a := by
  induction h with
  | null =>
    intro st stack rest hst hrest
    exact (take_cons rfl st).trans (congrArg (take · rest) (hst (.leaf .null) (by simp)))
  | bool b =>
    intro st stack rest hst hrest
    cases b with
    | true =>
      exact (take_cons rfl st).trans (congrArg (take · rest) (hst (.leaf (.bool true)) (by simp)))
    | false =>
      exact (take_cons rfl st).trans (congrArg (take · rest) (hst (.leaf (.bool false)) (by simp)))
  | int hi =>
    intro st stack rest hst hrest
    rw [take, tokens_number_append hi hrest]
    exact congrArg (take · rest) (hst _ (by simp))
  | string s =>
    intro st stack rest hst hrest
    exact (take_renderString_append st s rest).trans
      (congrArg (take · rest) (hst _ (by simp)))
  | list _ ih => exact takes_list ih
  | object _ ih => exact takes_object ih

end State

/-- The text of a value whose numbers are integers of 64 bits says that value and nothing more. -/
theorem Text.ofChars_render {a : Json} (h : a.HasLongs) :
    Text.ofChars (render a) = ⟨.ofJson a, true⟩ := by
  have htake := State.takes_of_hasLongs h (.value []) [] [] (State.awaits_value []) rfl
  rw [List.append_nil] at htake
  have hend : (State.add (.ofJson a) []).take [] = .complete (.ofJson a) := by
    rw [State.take, tokens]
    rfl
  rw [hend] at htake
  exact congrArg State.finish htake

end WebhookClient.Json
