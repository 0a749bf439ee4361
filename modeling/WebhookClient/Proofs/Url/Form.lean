import Mathlib
import WebhookClient.Proofs.Url.Percent
import WebhookClient.Url.Form

/-!
# Queries and back

Reading a query to which pairs were appended gives the pairs that it had and then the others, so
that nothing in a name or a value is taken for a mark between them. Main statement: `parse_append`.
-/

set_option autoImplicit false

namespace WebhookClient.Url.Form

/-! ## One byte -/

/-- A plus stands for a space. -/
def unplus (c : Char) : Char := if c = '+' then ' ' else c

/-- What the form encoding writes for a byte: itself as a character that decodes to it, a plus for
a space, or a percent sign and digits. -/
theorem encodeByte_cases (b : UInt8) :
    (∃ c, encodeByte b = [c] ∧ unplus c ≠ '%' ∧ Utf8.encodeChar (unplus c) = [b]) ∨
      (encodeByte b = Percent.encodeByte b ∧
        (Percent.encodeByte b).map unplus = Percent.encodeByte b) := by
  have key : ∀ n, n < 256 →
      (encodeByte (UInt8.ofNat n)).length = 1 ∧
          unplus ((encodeByte (UInt8.ofNat n)).headD ' ') ≠ '%' ∧
          Utf8.encodeChar (unplus ((encodeByte (UInt8.ofNat n)).headD ' ')) = [UInt8.ofNat n] ∨
        encodeByte (UInt8.ofNat n) = Percent.encodeByte (UInt8.ofNat n) ∧
          (Percent.encodeByte (UInt8.ofNat n)).map unplus =
            Percent.encodeByte (UInt8.ofNat n) := by
    decide +kernel
  have h := key b.toNat b.toNat_lt
  -- All bytes have been checked; what is left is to name the single character.
  rw [UInt8.ofNat_toNat] at h
  obtain ⟨hlength, hne, hutf⟩ | h := h
  · left
    obtain ⟨c, hc⟩ := List.length_eq_one_iff.1 hlength
    rw [hc] at hne hutf
    exact ⟨c, hc, hne, hutf⟩
  · exact .inr h

/-- No mark of a query stands in what is written for a byte. -/
theorem not_mem_encodeByte (b : UInt8) :
    '&' ∉ encodeByte b ∧ '=' ∉ encodeByte b ∧ '#' ∉ encodeByte b := by
  have key : ∀ n, n < 256 → '&' ∉ encodeByte (UInt8.ofNat n) ∧
      '=' ∉ encodeByte (UInt8.ofNat n) ∧ '#' ∉ encodeByte (UInt8.ofNat n) := by
    decide +kernel
  have h := key b.toNat b.toNat_lt
  rwa [UInt8.ofNat_toNat] at h

theorem decode_encodeByte_append (b : UInt8) (cs : List Char) :
    Percent.decode ((encodeByte b ++ cs).map unplus) = b :: Percent.decode (cs.map unplus) := by
  rw [List.map_append]
  obtain ⟨c, hc, hne, hutf⟩ | ⟨h, hmap⟩ := encodeByte_cases b
  · rw [hc]
    show Percent.decode (unplus c :: cs.map unplus) = _
    rw [Percent.decode_cons_of_ne hne, hutf]
    rfl
  · rw [h, hmap, Percent.decode_encodeByte_append]

/-! ## Names and values -/

theorem decode_encode (s : String) : decode (encode s) = s := by
  have hbytes : ∀ bs : List UInt8, Percent.decode ((bs.flatMap encodeByte).map unplus) = bs := by
    intro bs
    induction bs with
    | nil => rfl
    | cons b bs ih => rw [List.flatMap_cons, decode_encodeByte_append, ih]
  show String.ofList (Utf8.decode (Percent.decode ((encode s).map unplus))) = s
  rw [encode, hbytes, Utf8.decode_encode, String.ofList_toList]

theorem not_mem_encode (s : String) : '&' ∉ encode s ∧ '=' ∉ encode s ∧ '#' ∉ encode s := by
  simp only [encode, List.mem_flatMap, not_exists, not_and]
  exact ⟨fun b _ => (not_mem_encodeByte b).1, fun b _ => (not_mem_encodeByte b).2.1,
    fun b _ => (not_mem_encodeByte b).2.2⟩

/-! ## Pairs -/

theorem decodePair_encodePair (p : String × String) : decodePair (encodePair p) = p := by
  have hname : ∀ c ∈ encode p.1, decide (c ≠ '=') = true := by
    intro c hc
    refine decide_eq_true ?_
    rintro rfl
    exact (not_mem_encode p.1).2.1 hc
  have htake : (encode p.1 ++ '=' :: encode p.2).takeWhile (· ≠ '=') = encode p.1 := by
    rw [List.takeWhile_append_of_pos hname]
    simp
  have hdrop : (encode p.1 ++ '=' :: encode p.2).dropWhile (· ≠ '=') = '=' :: encode p.2 := by
    rw [List.dropWhile_append_of_pos hname]
    simp
  rw [decodePair, encodePair, htake, hdrop, List.drop_one, List.tail_cons, decode_encode,
    decode_encode]

theorem encodePair_ne_nil (p : String × String) : encodePair p ≠ [] := by
  simp [encodePair]

theorem not_mem_encodePair (p : String × String) : '&' ∉ encodePair p := by
  simp [encodePair, (not_mem_encode p.1).1, (not_mem_encode p.2).1]

theorem parse_nil : parse [] = [] := by
  simp [parse]

/-- An ampersand ends a pair. -/
theorem parse_append_cons (q r : List Char) : parse (q ++ '&' :: r) = parse q ++ parse r := by
  rw [parse, List.splitOn_append_cons_self, List.filter_append, List.map_append]
  rfl

theorem parse_encodePair (p : String × String) : parse (encodePair p) = [p] := by
  rw [parse, List.splitOn_eq_singleton (not_mem_encodePair p)]
  simp [encodePair_ne_nil, decodePair_encodePair]

/-! ## Queries -/

/-- The query that comes before an appended pair, and the mark between them. -/
theorem append_cons (q : List Char) (p : String × String) (ps : List (String × String)) :
    append q (p :: ps) = append ((if q.isEmpty then [] else q ++ ['&']) ++ encodePair p) ps :=
  rfl

/-- What is appended to a query is read after what it held. -/
theorem parse_append (q : List Char) (ps : List (String × String)) :
    parse (append q ps) = parse q ++ ps := by
  induction ps generalizing q with
  | nil => rw [append, List.append_nil]
  | cons p ps ih =>
    rw [append_cons, ih]
    cases q with
    | nil =>
      show parse (encodePair p) ++ ps = parse [] ++ p :: ps
      rw [parse_encodePair, parse_nil]
      rfl
    | cons c q =>
      show parse (c :: q ++ ['&'] ++ encodePair p) ++ ps = _
      rw [List.append_assoc]
      show parse (c :: q ++ '&' :: encodePair p) ++ ps = _
      rw [parse_append_cons, parse_encodePair, List.append_assoc]
      rfl

end WebhookClient.Url.Form
