import Mathlib
import WebhookClient.Proofs.Text.Utf8
import WebhookClient.Url.Percent

/-!
# Percent encoding and back

Where the set of characters to encode holds the percent sign, decoding gives the bytes of the text
that was encoded, so no two texts have the same encoding. Main statements: `decode_encode`,
`encode_injective`.
-/

set_option autoImplicit false

namespace WebhookClient.Url.Percent

/-! ## One byte -/

theorem hexValue?_hexDigit {n : Nat} (h : n < 16) : hexValue? (hexDigit n) = some n := by
  have key : ∀ n, n < 16 → hexValue? (hexDigit n) = some n := by decide
  exact key n h

theorem byte?_hexDigit (b : UInt8) :
    byte? (hexDigit (b.toNat / 16)) (hexDigit (b.toNat % 16)) = some b := by
  have hb : b.toNat < 256 := b.toNat_lt
  have hsum : b.toNat / 16 * 16 + b.toNat % 16 = b.toNat := by omega
  rw [byte?, hexValue?_hexDigit (by omega), hexValue?_hexDigit (by omega)]
  show some (UInt8.ofNat (b.toNat / 16 * 16 + b.toNat % 16)) = some b
  rw [hsum, UInt8.ofNat_toNat]

/-- Percent encodings have no other characters than the percent sign and digits. -/
theorem not_mem_encodeByte {c : Char} (h : c ≠ '%') (hdigit : ∀ n, n < 16 → c ≠ hexDigit n)
    (b : UInt8) : c ∉ encodeByte b := by
  have hb : b.toNat < 256 := b.toNat_lt
  have hhigh := hdigit (b.toNat / 16) (by omega)
  have hlow := hdigit (b.toNat % 16) (by omega)
  simp [encodeByte, h, hhigh, hlow]

theorem decode_encodeByte_append (b : UInt8) (cs : List Char) :
    decode (encodeByte b ++ cs) = b :: decode cs := by
  show decode ('%' :: hexDigit (b.toNat / 16) :: hexDigit (b.toNat % 16) :: cs) = _
  rw [decode, byte?_hexDigit]

theorem decode_cons_of_ne {c : Char} (h : c ≠ '%') (cs : List Char) :
    decode (c :: cs) = Utf8.encodeChar c ++ decode cs := by
  rw [decode]
  intro a b r hc
  exact absurd hc h

theorem decode_flatMap_encodeByte_append (bs : List UInt8) (cs : List Char) :
    decode (bs.flatMap encodeByte ++ cs) = bs ++ decode cs := by
  induction bs with
  | nil => rfl
  | cons b bs ih =>
    rw [List.flatMap_cons, List.append_assoc, decode_encodeByte_append, ih, List.cons_append]

/-! ## A text -/

section

variable {set : Char → Bool}

theorem decode_encodeChar_append (h : set '%' = true) (c : Char) (cs : List Char) :
    decode (encodeChar set c ++ cs) = Utf8.encodeChar c ++ decode cs := by
  unfold encodeChar
  split_ifs with hc
  · exact decode_flatMap_encodeByte_append _ cs
  · have hne : c ≠ '%' := by
      rintro rfl
      exact hc h
    exact decode_cons_of_ne hne cs

theorem decode_encode (h : set '%' = true) (cs : List Char) :
    decode (encode set cs) = Utf8.encode cs := by
  induction cs with
  | nil => rfl
  | cons c cs ih =>
    rw [encode, List.flatMap_cons, decode_encodeChar_append h, Utf8.encode, List.flatMap_cons]
    exact congrArg (Utf8.encodeChar c ++ ·) ih

theorem encode_injective (h : set '%' = true) {a b : List Char}
    (hab : encode set a = encode set b) : a = b := by
  apply Utf8.encode_injective
  rw [← decode_encode h a, hab, decode_encode h]

/-- A character of the set does not stand in what is written, unless percent encodings have it. -/
theorem not_mem_encode {c : Char} (h : set c = true) (hc : ∀ b, c ∉ encodeByte b)
    (cs : List Char) : c ∉ encode set cs := by
  intro hmem
  obtain ⟨d, -, hd⟩ := List.mem_flatMap.1 hmem
  unfold encodeChar at hd
  split_ifs at hd with hset
  · obtain ⟨b, -, hb⟩ := List.mem_flatMap.1 hd
    exact hc b hb
  · obtain rfl := List.mem_singleton.1 hd
    exact hset h

theorem encode_eq_nil_iff (h : set '%' = true) {cs : List Char} : encode set cs = [] ↔ cs = [] :=
  ⟨fun hc => encode_injective h (by rw [hc]; rfl), fun hc => by rw [hc]; rfl⟩

end

end WebhookClient.Url.Percent
