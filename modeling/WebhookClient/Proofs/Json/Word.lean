import Mathlib
import WebhookClient.Proofs.Json.Decode
import WebhookClient.Proofs.Json.Enumeration

/-!
# Words from string tokens

A value that has the same name in JSON as word outside of it is read from the spellings of its word,
and from no other string. Main statement: `readsWords`.
-/

set_option autoImplicit false

namespace WebhookClient.Json

/-! ## Texts -/

namespace Spells

variable {ps : List Piece} {cs : List Char}

/-- A whole text that is one string token. -/
theorem ofChars (h : Spells ps cs) :
    Text.ofChars ('"' :: (cs ++ ['"'])) = ⟨.string (.ofPieces ps), true⟩ := by
  rw [Text.ofChars, h.tokens_append, tokens]
  rfl

theorem decode_iff (h : Spells ps cs) {α : Type} [Wire α] {a : α} :
    decode (String.ofList ('"' :: (cs ++ ['"']))) = .ok a ↔
      Wire.read maxDepth (.string (.ofPieces ps)) = .ok a := by
  rw [decode_eq_ok_iff, String.toList_ofList, h.ofChars]
  exact and_iff_left rfl

end Spells

/-! ## Words -/

/-- String tokens are read as values of a closed set just if they mean a word, and as the value that
has that word; what is written for a value is read as it. -/
structure ReadsWords (α : Type) [Named α] [Worded α] : Prop where
  decode_iff : ∀ (ps : List Piece) (cs s : List Char), Spells ps cs → Means ps s → ∀ a : α,
    decode (String.ofList ('"' :: (cs ++ ['"']))) = .ok a ↔
      Worded.ofWord? (String.ofList s) = some a
  decode_ne_ok : ∀ (ps : List Piece) (cs : List Char), Spells ps cs → (∀ s, ¬ Means ps s) →
    ∀ a : α, decode (String.ofList ('"' :: (cs ++ ['"']))) ≠ .ok a
  ofWord?_iff : ∀ (s : String) (a : α), Worded.ofWord? s = some a ↔ Worded.word a = s
  decode_encode : ∀ a : α, decode (encode a) = .ok a

theorem readsWords {α : Type} [Named α] [Worded α]
    (hsame : ∀ a : α, Named.name a = Worded.word a) : ReadsWords α := by
  have hdecode : ∀ (ps : List Piece) (cs : List Char), Spells ps cs → ∀ a : α,
      decode (String.ofList ('"' :: (cs ++ ['"']))) = .ok a ↔ Means ps (Named.name a).toList := by
    intro ps cs h a
    rw [h.decode_iff, read_named_string_iff, StringToken.ofPieces_eq_plain_iff, h.join_eq_ok_iff]
  refine ⟨fun ps cs s h hs a => ?_, fun ps cs h hnone a ha => ?_, fun s a => ofWord?_eq_some_iff,
    fun a => ?_⟩
  · rw [hdecode ps cs h, hsame, ofWord?_eq_some_iff, ← h.join_eq_ok_iff, hs.join, Except.ok.injEq,
      ← String.toList_inj, String.toList_ofList, eq_comm]
  · exact hnone _ ((hdecode ps cs h a).1 ha)
  · exact (decode_toText_iff (.string _)).2 (read_named_string_iff.2 rfl)

end WebhookClient.Json
