import Mathlib
import WebhookClient.Text.Utf8

/-!
# Bytes and back

The bytes of a text are read as that text. Main statements: `decode_encode`, and
`encode_injective`, which follows from it.
-/

set_option autoImplicit false

namespace WebhookClient.Utf8

/-! ## Bytes as numbers -/

theorem followers?_eq (b : UInt8) :
    followers? b =
      if b.toNat < 0x80 then some 0
      else if 0xC2 ≤ b.toNat ∧ b.toNat ≤ 0xDF then some 1
      else if 0xE0 ≤ b.toNat ∧ b.toNat ≤ 0xEF then some 2
      else if 0xF0 ≤ b.toNat ∧ b.toNat ≤ 0xF4 then some 3
      else none := by
  simp [followers?, UInt8.lt_iff_toNat_lt, UInt8.le_iff_toNat_le]

theorem isContinuation_iff (b : UInt8) :
    isContinuation b = true ↔ 0x80 ≤ b.toNat ∧ b.toNat ≤ 0xBF := by
  simp [isContinuation, UInt8.le_iff_toNat_le]

theorem isSecond_iff (a b : UInt8) :
    isSecond a b = true ↔ (0x80 ≤ b.toNat ∧ b.toNat ≤ 0xBF) ∧
      (a.toNat ≠ 0xE0 ∨ 0xA0 ≤ b.toNat) ∧ (a.toNat ≠ 0xED ∨ b.toNat ≤ 0x9F) ∧
      (a.toNat ≠ 0xF0 ∨ 0x90 ≤ b.toNat) ∧ (a.toNat ≠ 0xF4 ∨ b.toNat ≤ 0x8F) := by
  simp only [isSecond, Bool.and_eq_true, isContinuation_iff, ← UInt8.toNat_inj,
    UInt8.le_iff_toNat_le]
  split_ifs <;> simp_all

/-! ## Reading one character -/

theorem continuations_append {first b : UInt8} {rest : List UInt8} (h : isSecond first b = true)
    (hr : ∀ x ∈ rest, isContinuation x = true) (bs : List UInt8) :
    continuations first (rest.length + 1) (b :: (rest ++ bs)) = b :: rest := by
  have htake : (rest ++ bs).take rest.length = rest := by simp
  simp only [continuations, h, if_true, htake]
  rw [List.takeWhile_eq_self_iff.2 hr]

/-- A first byte and as many continuations as it asks for are read as one character. -/
theorem decode_append {b : UInt8} {more : List UInt8} (bs : List UInt8)
    (hf : followers? b = some more.length)
    (hm : continuations b more.length (more ++ bs) = more) :
    decode (b :: (more ++ bs)) = Char.ofNat (codePoint b more) :: decode bs := by
  rw [decode, hf]
  simp only [hm, if_true, List.drop_left]

/-- Bytes of ASCII are characters as they are. -/
theorem decode_of_lt {bs : List UInt8} (h : ∀ b ∈ bs, b < 0x80) :
    decode bs = bs.map fun b => Char.ofNat b.toNat := by
  induction bs with
  | nil => rw [decode, List.map_nil]
  | cons b bs ih =>
    obtain ⟨hb, hbs⟩ := List.forall_mem_cons.1 h
    have hf : followers? b = some ([] : List UInt8).length := if_pos hb
    rw [← List.nil_append bs, decode_append bs hf rfl, ih hbs]
    rfl

theorem decode_long {b x : UInt8} {v : Nat} (rest bs : List UInt8)
    (hf : followers? b = some (rest.length + 1)) (hs : isSecond b x = true)
    (hr : ∀ y ∈ rest, isContinuation y = true) (hn : codePoint b (x :: rest) = v) :
    decode (b :: x :: (rest ++ bs)) = Char.ofNat v :: decode bs := by
  have hm : continuations b (x :: rest).length ((x :: rest) ++ bs) = x :: rest :=
    continuations_append hs hr bs
  rw [← hn]
  exact decode_append bs hf hm

theorem decode_encodeChar_append (c : Char) (bs : List UInt8) :
    decode (encodeChar c ++ bs) = c :: decode bs := by
  have hback : Char.ofNat c.val.toNat = c := Char.ofNat_toNat c
  have hvalid : c.val.toNat < 0xD800 ∨ 0xDFFF < c.val.toNat ∧ c.val.toNat < 0x110000 := c.valid
  unfold encodeChar String.utf8EncodeChar
  generalize c.val.toNat = v at hback hvalid
  rw [← hback]
  -- The four lengths of a character: in each, the bytes after the first are continuations.
  simp only
  split_ifs with h1 h2 h3
  · have hf : followers? (UInt8.ofNat v) = some ([] : List UInt8).length := by
      rw [followers?_eq]
      simp
      omega
    have hn : codePoint (UInt8.ofNat v) [] = v := by
      simp [codePoint]
      omega
    rw [List.cons_append, decode_append bs hf rfl, hn]
  · refine decode_long [] bs ?_ ?_ ?_ ?_
    · rw [followers?_eq, if_neg (by simp; omega), if_pos (by simp; omega)]
      rfl
    · rw [isSecond_iff]
      simp only [UInt8.toNat_ofNat']
      omega
    · simp
    · simp [codePoint]
      omega
  · refine decode_long [_] bs ?_ ?_ ?_ ?_
    · rw [followers?_eq, if_neg (by simp; omega), if_neg (by simp; omega), if_pos (by simp; omega)]
      rfl
    · rw [isSecond_iff]
      simp only [UInt8.toNat_ofNat']
      omega
    · simp [isContinuation_iff]
      omega
    · simp [codePoint]
      omega
  · refine decode_long [_, _] bs ?_ ?_ ?_ ?_
    · rw [followers?_eq, if_neg (by simp; omega), if_neg (by simp; omega), if_neg (by simp; omega),
        if_pos (by simp; omega)]
      rfl
    · rw [isSecond_iff]
      simp only [UInt8.toNat_ofNat']
      omega
    · simp [isContinuation_iff]
      omega
    · simp [codePoint]
      omega

/-! ## Reading a text -/

/-- What is written is read again. -/
theorem decode_encode (cs : List Char) : decode (encode cs) = cs := by
  induction cs with
  | nil => simp [encode, decode]
  | cons c cs ih =>
    rw [encode, List.flatMap_cons, decode_encodeChar_append]
    exact congrArg (c :: ·) ih

theorem encode_injective {a b : List Char} (h : encode a = encode b) : a = b := by
  rw [← decode_encode a, h, decode_encode]

/-! ## Single bytes -/

/-- A character of ASCII is written as itself, and no byte of another one is in ASCII. -/
theorem toNat_of_mem_encodeChar {b : UInt8} {c : Char} (h : b ∈ encodeChar c) :
    b.toNat = c.toNat ∨ 0x80 ≤ b.toNat ∧ 0x80 ≤ c.toNat := by
  have hc : c.toNat = c.val.toNat := rfl
  rw [hc]
  unfold encodeChar String.utf8EncodeChar at h
  generalize c.val.toNat = v at h ⊢
  simp only at h
  split_ifs at h
  · left
    rw [List.mem_singleton.1 h, UInt8.toNat_ofNat']
    omega
  all_goals
    right
    simp only [List.mem_cons, List.not_mem_nil, or_false] at h
    rcases h with rfl | rfl | rfl | rfl <;> simp only [UInt8.toNat_ofNat'] <;> omega

theorem exists_of_mem_encode {b : UInt8} {cs : List Char} (h : b ∈ encode cs) :
    ∃ c ∈ cs, b.toNat = c.toNat ∨ 0x80 ≤ b.toNat ∧ 0x80 ≤ c.toNat := by
  obtain ⟨c, hc, hb⟩ := List.mem_flatMap.1 h
  exact ⟨c, hc, toNat_of_mem_encodeChar hb⟩

end WebhookClient.Utf8
