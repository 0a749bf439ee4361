import Mathlib
import WebhookClient.Proofs.Request.Template

/-!
# How a segment is read

A segment of a template is read as characters and groups. `IsReading` says which reading is meant
without saying how it is found: it keeps the text, a group goes no further than the first closing
brace after its opening one, and an opening brace that is not that of a group has no closing brace
after it. Every segment has one such reading and no other, and it is the one that is found:
`isReading_iff`.
-/

set_option autoImplicit false

namespace WebhookClient.Template

/-- The text that a piece is read from. -/
def Piece.source : Piece → List Char
  | .char c => [c]
  | .group n => '\x7b' :: (n ++ ['\x7d'])

/-- The text that pieces are read from. -/
def source (ps : List Piece) : List Char := ps.flatMap Piece.source

/-- What it is for a text to be read as pieces. -/
structure IsReading (cs : List Char) (ps : List Piece) : Prop where
  /-- Nothing is lost or changed. -/
  source_eq : source ps = cs
  /-- A group is closed by the first closing brace. -/
  closed : ∀ n, .group n ∈ ps → '\x7d' ∉ n
  /-- An opening brace that stands for itself could not be closed. -/
  opened : ∀ front back, ps = front ++ .char '\x7b' :: back → '\x7d' ∉ source back

variable {cs : List Char} {ps : List Piece}

theorem source_cons (p : Piece) (ps : List Piece) : source (p :: ps) = p.source ++ source ps :=
  List.flatMap_cons

theorem source_group_cons (n : List Char) (ps : List Piece) :
    source (.group n :: ps) = '\x7b' :: (n ++ '\x7d' :: source ps) := by
  rw [source_cons, Piece.source, List.cons_append, List.append_assoc]
  rfl

/-! ## The first piece -/

theorem isReading_nil_iff : IsReading cs [] ↔ cs = [] := by
  constructor
  · intro h
    exact h.source_eq.symm
  · rintro rfl
    refine ⟨rfl, fun n hn => absurd hn List.not_mem_nil, fun front back h => ?_⟩
    cases front <;> cases h

/-- What a first piece asks of the pieces after it. -/
theorem isReading_source_cons_iff {p : Piece} :
    IsReading (source (p :: ps)) (p :: ps) ↔
      IsReading (source ps) ps ∧ (∀ n, p = .group n → '\x7d' ∉ n) ∧
        (p = .char '\x7b' → '\x7d' ∉ source ps) := by
  constructor
  · rintro ⟨-, hclosed, hopened⟩
    refine ⟨⟨rfl, fun n hn => hclosed n (List.mem_cons_of_mem _ hn), fun front back h => ?_⟩,
      ?_, ?_⟩
    · exact hopened (p :: front) back (by rw [h]; rfl)
    · rintro n rfl
      exact hclosed n List.mem_cons_self
    · rintro rfl
      exact hopened [] ps rfl
  · rintro ⟨⟨-, hclosed, hopened⟩, hgroup, hchar⟩
    refine ⟨rfl, fun n hn => ?_, fun front back h => ?_⟩
    · obtain hp | hn := List.mem_cons.1 hn
      · exact hgroup n hp.symm
      · exact hclosed n hn
    · cases front with
      | nil =>
        obtain ⟨hp, rfl⟩ := List.cons.inj h
        exact hchar hp
      | cons q front => exact hopened front back (List.cons.inj h).2

/-! ## The reading that is found -/

/-- A name between braces is read as a group, whatever comes after it. -/
theorem pieces_group_append {n : List Char} (h : '\x7d' ∉ n) (rest : List Char) :
    pieces none ('\x7b' :: (n ++ '\x7d' :: rest)) = .group n :: pieces none rest := by
  have hclosed : '\x7d' ∈ n ++ '\x7d' :: rest := by simp
  rw [pieces, if_pos ⟨rfl, hclosed⟩, pieces_some_append h, List.nil_append]

theorem pieces_char_cons {c : Char} (h : ¬ (c = '\x7b' ∧ '\x7d' ∈ cs)) :
    pieces none (c :: cs) = .char c :: pieces none cs := by
  rw [pieces, if_neg h]

/-- There is no other reading than the one that is found. -/
theorem pieces_source (h : IsReading (source ps) ps) : pieces none (source ps) = ps := by
  induction ps with
  | nil => rfl
  | cons p ps ih =>
    obtain ⟨hps, hgroup, hchar⟩ := isReading_source_cons_iff.1 h
    cases p with
    | char c =>
      have hplain : ¬ (c = '\x7b' ∧ '\x7d' ∈ source ps) := by
        rintro ⟨rfl, hmem⟩
        exact hchar rfl hmem
      rw [source_cons]
      exact (pieces_char_cons hplain).trans (congrArg _ (ih hps))
    | group n => rw [source_group_cons, pieces_group_append (hgroup n rfl), ih hps]

/-- A text is nothing, or starts with a character that opens no group, or with a group. -/
theorem text_cases (cs : List Char) :
    cs = [] ∨ (∃ c rest, cs = c :: rest ∧ ¬ (c = '\x7b' ∧ '\x7d' ∈ rest)) ∨
      ∃ n rest, cs = '\x7b' :: (n ++ '\x7d' :: rest) ∧ '\x7d' ∉ n := by
  cases cs with
  | nil => exact .inl rfl
  | cons c rest =>
    by_cases h : c = '\x7b' ∧ '\x7d' ∈ rest
    · obtain ⟨rfl, hmem⟩ := h
      obtain ⟨n, after, rfl, hn⟩ := List.eq_append_cons_of_mem hmem
      exact .inr (.inr ⟨n, after, rfl, hn⟩)
    · exact .inr (.inl ⟨c, rest, rfl, h⟩)

theorem IsReading.char_cons {c : Char} (h : IsReading cs ps)
    (hc : ¬ (c = '\x7b' ∧ '\x7d' ∈ cs)) : IsReading (c :: cs) (.char c :: ps) := by
  obtain rfl := h.source_eq
  show IsReading (source (.char c :: ps)) _
  refine isReading_source_cons_iff.2 ⟨h, fun n hn => ?_, fun hp hmem => ?_⟩
  · cases hn
  · exact hc ⟨Piece.char.inj hp, hmem⟩

theorem IsReading.group_cons {n : List Char} (h : IsReading cs ps) (hn : '\x7d' ∉ n) :
    IsReading ('\x7b' :: (n ++ '\x7d' :: cs)) (.group n :: ps) := by
  obtain rfl := h.source_eq
  rw [← source_group_cons]
  refine isReading_source_cons_iff.2 ⟨h, fun m hm => ?_, fun hp => ?_⟩
  · rwa [← Piece.group.inj hm]
  · cases hp

/-- What is found is a reading. -/
theorem isReading_pieces (cs : List Char) : IsReading cs (pieces none cs) := by
  -- A group takes several characters at once, so the induction is on the length.
  induction hlength : cs.length using Nat.strong_induction_on generalizing cs with
  | _ length ih =>
    obtain rfl | ⟨c, rest, rfl, hc⟩ | ⟨n, rest, rfl, hn⟩ := text_cases cs
    · exact isReading_nil_iff.2 rfl
    · have hrest := ih rest.length (by rw [← hlength]; simp) rest rfl
      rw [pieces_char_cons hc]
      exact hrest.char_cons hc
    · have hrest := ih rest.length (by rw [← hlength]; simp; omega) rest rfl
      rw [pieces_group_append hn]
      exact hrest.group_cons hn

/-- Each text has one reading, which is the one that is found. -/
theorem isReading_iff : IsReading cs ps ↔ pieces none cs = ps := by
  constructor
  · intro h
    obtain rfl := h.source_eq
    exact pieces_source h
  · rintro rfl
    exact isReading_pieces cs

/-! ## All segments -/

/-- The texts of the segments of a template. -/
def segmentTexts (template : String) : List (List Char) :=
  (template.toList.splitOn '/').filter (· ≠ [])

/-- The segments of a template are read from their texts, each in the only way there is. -/
theorem forall₂_isReading_iff {template : String} {pss : List (List Piece)} :
    List.Forall₂ IsReading (segmentTexts template) pss ↔ segments template = pss := by
  have hread : IsReading = fun cs ps => pieces none cs = ps := by
    funext cs ps
    exact propext isReading_iff
  rw [hread, ← List.forall₂_map_left_iff, List.forall₂_eq_eq_eq]
  rfl

end WebhookClient.Template
