import Mathlib
import WebhookClient.Proofs.Url.Percent
import WebhookClient.Url.Path

/-!
# Appending segments to a path

On the web a text that is appended to a path becomes one more segment, unless nothing but dots or
nothing at all is left of it when its tabs and line breaks vanish. Main statements:
`pushSegments_of_isPlain`, what comes of texts that are all plain, and
`not_extends_of_isSpoiled`, which with `isSpoiled_pushSegments` says that one text that is not
plain keeps the path from being extended by as many segments as there are texts.
-/

set_option autoImplicit false

namespace WebhookClient.Url.Path

/-! ## Segments that stand for a place -/

/-- A segment that is not passed over when a path is resolved: it is not empty, and it is neither
of the dots in any spelling. -/
def IsPlace (s : List Char) : Prop := s ≠ [] ∧ isSingleDot s = false ∧ isDoubleDot s = false

/-- A text of which something other than dots is left when the characters that vanish are gone. -/
def IsPlain (raw : List Char) : Prop :=
  visible raw ≠ [] ∧ visible raw ≠ ['.'] ∧ visible raw ≠ ['.', '.']

instance (raw : List Char) : Decidable (IsPlain raw) :=
  inferInstanceAs (Decidable (_ ∧ _ ∧ _))

/-- The segment that a text becomes on the web. -/
def webSegment (raw : List Char) : List Char :=
  Percent.encode Percent.specialSegmentSet (visible raw)

theorem visible_eq_self {cs : List Char} (h : ∀ c ∈ cs, vanishes c = false) : visible cs = cs := by
  rw [visible, List.filter_eq_self]
  intro c hc
  simp [h c hc]

/-! ## Dots in any spelling -/

/-- Only a letter differs from its lower case. -/
theorem eq_of_toLower_eq {c d : Char} (h : c.toLower = d) (hd : d.isLower = false) : c = d := by
  unfold Char.toLower at h
  split_ifs at h with hc
  · -- A capital letter has a small one for its lower case, which `d` is not.
    have h1 : c.val + 32 = d.val := congrArg Char.val h
    have hge : 65 ≤ c.val.toNat := UInt32.le_iff_toNat_le.1 hc.1
    have hle : c.val.toNat ≤ 90 := UInt32.le_iff_toNat_le.1 hc.2
    have h2 : d.val.toNat = c.val.toNat + 32 := by
      rw [← h1, UInt32.toNat_add]
      show (c.val.toNat + 32) % 4294967296 = c.val.toNat + 32
      omega
    have hd' : d.isLower = true := by
      have h97 : 97 ≤ d.val.toNat := by omega
      have h122 : d.val.toNat ≤ 122 := by omega
      simp only [Char.isLower, Bool.and_eq_true, decide_eq_true_eq]
      exact ⟨UInt32.le_iff_toNat_le.2 h97, UInt32.le_iff_toNat_le.2 h122⟩
    rw [hd'] at hd
    cases hd
  · exact h

theorem eq_of_toLower_eq_e {c : Char} (h : c.toLower = 'e') : c = 'e' ∨ c = 'E' := by
  unfold Char.toLower at h
  split_ifs at h with hc
  · right
    have h1 : c.val + 32 = 'e'.val := congrArg Char.val h
    have h2 : c.val = 'E'.val := by
      have : c.val = 'e'.val - 32 := by rw [← h1]; simp
      rw [this]; decide
    exact Char.ext h2
  · left
    exact h

/-- What a text whose lower case spells a dot decodes to, in front of any other text. -/
theorem decode_dot_append {s : List Char}
    (h : s.map Char.toLower = ['.'] ∨ s.map Char.toLower = ['%', '2', 'e']) (cs : List Char) :
    Percent.decode (s ++ cs) = 0x2E :: Percent.decode cs := by
  obtain h | h := h
  · obtain ⟨c, rest, rfl, hc, h⟩ := List.map_eq_cons_iff.1 h
    obtain rfl := List.map_eq_nil_iff.1 h
    obtain rfl := eq_of_toLower_eq hc (by decide)
    exact Percent.decode_cons_of_ne (by decide) cs
  · obtain ⟨c, rest, rfl, hc, h⟩ := List.map_eq_cons_iff.1 h
    obtain ⟨c2, rest2, rfl, hc2, h⟩ := List.map_eq_cons_iff.1 h
    obtain ⟨c3, rest3, rfl, hc3, h⟩ := List.map_eq_cons_iff.1 h
    obtain rfl := List.map_eq_nil_iff.1 h
    obtain rfl := eq_of_toLower_eq hc (by decide)
    obtain rfl := eq_of_toLower_eq hc2 (by decide)
    obtain rfl | rfl := eq_of_toLower_eq_e hc3 <;> rfl

theorem decode_of_isSingleDot {s : List Char} (h : isSingleDot s = true) :
    Percent.decode s = [0x2E] := by
  simp only [isSingleDot, List.mem_cons, List.not_mem_nil, or_false, decide_eq_true_eq] at h
  rw [← List.append_nil s, decode_dot_append h]
  rfl

theorem decode_of_isDoubleDot {s : List Char} (h : isDoubleDot s = true) :
    Percent.decode s = [0x2E, 0x2E] := by
  -- Each of the four spellings is one of a dot followed by another.
  have hcut : ∃ a b : List Char, s = a ++ b ∧
      (a.map Char.toLower = ['.'] ∨ a.map Char.toLower = ['%', '2', 'e']) ∧
      (b.map Char.toLower = ['.'] ∨ b.map Char.toLower = ['%', '2', 'e']) := by
    simp only [isDoubleDot, List.mem_cons, List.not_mem_nil, or_false, decide_eq_true_eq] at h
    have cut (n : Nat) : s = s.take n ++ s.drop n := (List.take_append_drop n s).symm
    have take (n : Nat) := List.map_take (f := Char.toLower) (l := s) (i := n)
    have drop (n : Nat) := List.map_drop (f := Char.toLower) (l := s) (i := n)
    obtain h | h | h | h := h
    · exact ⟨s.take 1, s.drop 1, cut 1, .inl (by rw [take, h]; rfl), .inl (by rw [drop, h]; rfl)⟩
    · exact ⟨s.take 3, s.drop 3, cut 3, .inr (by rw [take, h]; rfl), .inl (by rw [drop, h]; rfl)⟩
    · exact ⟨s.take 1, s.drop 1, cut 1, .inl (by rw [take, h]; rfl), .inr (by rw [drop, h]; rfl)⟩
    · exact ⟨s.take 3, s.drop 3, cut 3, .inr (by rw [take, h]; rfl), .inr (by rw [drop, h]; rfl)⟩
  obtain ⟨a, b, rfl, ha, hb⟩ := hcut
  rw [decode_dot_append ha, ← List.append_nil b, decode_dot_append hb]
  rfl

/-- Encoding keeps the percent sign from spelling a dot, so a text becomes a place if it is
plain, and only then. -/
theorem isPlace_webSegment_iff (raw : List Char) : IsPlace (webSegment raw) ↔ IsPlain raw := by
  have hset : Percent.specialSegmentSet '%' = true := by decide
  constructor
  · rintro ⟨hne, h1, h2⟩
    refine ⟨fun h => hne ?_, fun h => ?_, fun h => ?_⟩
    · rw [webSegment, h]
      rfl
    · rw [webSegment, h] at h1
      exact absurd h1 (by decide)
    · rw [webSegment, h] at h2
      exact absurd h2 (by decide)
  · -- What decodes to dots was dots before it was encoded.
    rintro ⟨hne, h1, h2⟩
    refine ⟨fun h => hne ((Percent.encode_eq_nil_iff hset).1 h), ?_, ?_⟩
    · refine Bool.eq_false_iff.2 fun h => h1 (Utf8.encode_injective ?_)
      rw [← Percent.decode_encode hset, ← webSegment, decode_of_isSingleDot h]
      rfl
    · refine Bool.eq_false_iff.2 fun h => h2 (Utf8.encode_injective ?_)
      rw [← Percent.decode_encode hset, ← webSegment, decode_of_isDoubleDot h]
      rfl

/-! ## One text -/

theorem length_openEnd_le (path : List (List Char)) : (openEnd path).length ≤ path.length := by
  unfold openEnd
  split_ifs
  · exact Nat.zero_le _
  · exact le_rfl

theorem openEnd_append {s : List Char} (h : s ≠ []) (path : List (List Char)) :
    openEnd (path ++ [s]) = path ++ [s] := by
  refine if_neg fun hp => h ?_
  have : (path ++ [s]).getLast (by simp) = [] := by simp [hp]
  simpa using this

theorem length_popSegment_le (path : List (List Char)) :
    (popSegment path).length ≤ path.length := by
  unfold popSegment
  split
  · split_ifs
    · exact le_rfl
    · rw [List.length_dropLast]
      omega
  · exact Nat.zero_le _

theorem pushSegment_of_isPlain {raw : List Char} (h : IsPlain raw) (path : List (List Char)) :
    pushSegment .web path raw = openEnd path ++ [webSegment raw] := by
  obtain ⟨-, h1, h2⟩ := h
  have hraw : ¬ (raw = ['.'] ∨ raw = ['.', '.']) := by
    rintro (rfl | rfl)
    · exact h1 (by decide)
    · exact h2 (by decide)
  rw [pushSegment, if_neg hraw, if_neg h2, if_neg h1]
  rfl

/-- A text that is not plain leaves the path as it is, or an empty segment behind. -/
theorem pushSegment_of_not_isPlain {raw : List Char} (h : ¬ IsPlain raw)
    (path : List (List Char)) :
    pushSegment .web path raw = path ∨
      ∃ q, q.length ≤ (openEnd path).length ∧ pushSegment .web path raw = q ++ [[]] := by
  unfold pushSegment
  by_cases hraw : raw = ['.'] ∨ raw = ['.', '.']
  · exact .inl (if_pos hraw)
  right
  rw [if_neg hraw]
  by_cases h2 : visible raw = ['.', '.']
  · exact ⟨popSegment (openEnd path), length_popSegment_le _, if_pos h2⟩
  rw [if_neg h2]
  by_cases h1 : visible raw = ['.']
  · exact ⟨openEnd path, le_rfl, if_pos h1⟩
  rw [if_neg h1]
  have h0 : visible raw = [] := by
    by_contra h0
    exact h ⟨h0, h1, h2⟩
  refine ⟨openEnd path, le_rfl, ?_⟩
  show openEnd path ++ [Percent.encode _ (visible raw)] = _
  rw [h0]
  rfl

/-- A path never grows by more than a segment. -/
theorem length_openEnd_pushSegment_le (path : List (List Char)) (raw : List Char) :
    (openEnd (pushSegment .web path raw)).length ≤ (openEnd path).length + 1 := by
  by_cases h : IsPlain raw
  · rw [pushSegment_of_isPlain h]
    refine (length_openEnd_le _).trans ?_
    rw [List.length_append, List.length_singleton]
  obtain hp | ⟨q, hq, hp⟩ := pushSegment_of_not_isPlain h path
  · rw [hp]
    omega
  · rw [hp]
    refine (length_openEnd_le _).trans ?_
    rw [List.length_append, List.length_singleton]
    omega

/-! ## Texts that are all plain -/

theorem pushSegments_cons (kind : SchemeKind) (path : List (List Char)) (raw : List Char)
    (raws : List (List Char)) :
    pushSegments kind path (raw :: raws) = pushSegments kind (pushSegment kind path raw) raws :=
  rfl

/-- Plain texts become one segment each, after the segments of the path. -/
theorem pushSegments_of_isPlain {raws : List (List Char)} (h : ∀ raw ∈ raws, IsPlain raw)
    (path : List (List Char)) :
    pushSegments .web path raws =
      (if raws = [] then path else openEnd path) ++ raws.map webSegment := by
  induction raws generalizing path with
  | nil => simp [pushSegments]
  | cons raw raws ih =>
    have hraw : IsPlain raw := h raw (by simp)
    have hplace : IsPlace (webSegment raw) := (isPlace_webSegment_iff raw).2 hraw
    rw [pushSegments_cons, pushSegment_of_isPlain hraw, ih fun r hr => h r (by simp [hr]),
      openEnd_append hplace.1, ite_self, if_neg (by simp), List.map_cons, List.append_assoc]
    rfl

/-! ## Texts of which one is not plain -/

/-- A path that is too short to hold `n` segments after the first `kept`, or holds an empty one
among them. -/
def IsSpoiled (kept n : Nat) (path : List (List Char)) : Prop :=
  path.length ≤ kept + n ∧ (path.length < kept + n ∨ [] ∈ path.drop kept)

section

variable {kept n : Nat} {path : List (List Char)}

theorem isSpoiled_append_nil {q : List (List Char)} (h : q.length ≤ kept + n) :
    IsSpoiled kept (n + 1) (q ++ [[]]) := by
  have hlen : (q ++ [[]]).length = q.length + 1 := by simp
  refine ⟨by omega, ?_⟩
  by_cases hk : kept ≤ q.length
  · right
    rw [List.drop_append_of_le_length hk]
    simp
  · left
    omega

/-- A text that is not plain spoils the path. -/
theorem isSpoiled_pushSegment_of_not_isPlain {raw : List Char} (hraw : ¬ IsPlain raw)
    (h : (openEnd path).length ≤ kept + n) :
    IsSpoiled kept (n + 1) (pushSegment .web path raw) := by
  obtain hp | ⟨q, hq, hp⟩ := pushSegment_of_not_isPlain hraw path
  · rw [hp]
    -- The path stays as it is: it is too short, unless it is the root, which is empty.
    by_cases hroot : path = [[]]
    · rw [hroot]
      have hzero : ([] : List (List Char)).length ≤ kept + n := Nat.zero_le _
      exact isSpoiled_append_nil hzero
    · rw [openEnd, if_neg hroot] at h
      exact ⟨by omega, .inl (by omega)⟩
  · rw [hp]
    exact isSpoiled_append_nil (hq.trans h)

/-- What is spoiled stays so whatever text comes next. -/
theorem IsSpoiled.pushSegment (h : IsSpoiled kept n path) (raw : List Char) :
    IsSpoiled kept (n + 1) (pushSegment .web path raw) := by
  by_cases hraw : IsPlain raw
  · rw [pushSegment_of_isPlain hraw]
    -- Only the root loses a segment to the one that is appended.
    by_cases hroot : path = [[]]
    · subst hroot
      have hlen : (openEnd [[]] ++ [webSegment raw]).length = 1 := rfl
      obtain ⟨h1, h2⟩ := h
      refine ⟨by omega, .inl ?_⟩
      have hpos : 0 < kept + n := h1
      omega
    · rw [openEnd, if_neg hroot]
      obtain ⟨h1, h2⟩ := h
      have hlen : (path ++ [webSegment raw]).length = path.length + 1 := by simp
      refine ⟨by omega, ?_⟩
      obtain h2 | h2 := h2
      · exact .inl (by omega)
      · right
        rw [List.drop_append]
        exact List.mem_append_left _ h2
  · exact isSpoiled_pushSegment_of_not_isPlain hraw ((length_openEnd_le path).trans h.1)

theorem IsSpoiled.pushSegments (h : IsSpoiled kept n path) (raws : List (List Char)) :
    IsSpoiled kept (n + raws.length) (pushSegments .web path raws) := by
  induction raws generalizing n path with
  | nil => exact h
  | cons raw raws ih =>
    have hstep := ih (h.pushSegment raw)
    rw [pushSegments_cons, List.length_cons]
    rwa [Nat.add_assoc, Nat.add_comm 1] at hstep

/-- One text that is not plain spoils the path, wherever it stands. -/
theorem isSpoiled_pushSegments {raws : List (List Char)} (hraws : ¬ ∀ raw ∈ raws, IsPlain raw)
    (h : (openEnd path).length ≤ kept + n) :
    IsSpoiled kept (n + raws.length) (pushSegments .web path raws) := by
  induction raws generalizing n path with
  | nil => exact absurd (by simp) hraws
  | cons raw raws ih =>
    have hcomm : n + (raws.length + 1) = n + 1 + raws.length := by omega
    rw [pushSegments_cons, List.length_cons, hcomm]
    by_cases hraw : IsPlain raw
    · refine ih ?_ ?_
      · rw [List.forall_mem_cons] at hraws
        exact fun hall => hraws ⟨hraw, hall⟩
      · have := length_openEnd_pushSegment_le path raw
        omega
    · exact (isSpoiled_pushSegment_of_not_isPlain hraw h).pushSegments raws

/-- A spoiled path is not a beginning of `kept` segments or more with `n` places after it. -/
theorem not_extends_of_isSpoiled (h : IsSpoiled kept n path) {front added : List (List Char)}
    (hfront : kept ≤ front.length) (hadded : added.length = n)
    (hplace : ∀ s ∈ added, IsPlace s) : path ≠ front ++ added := by
  rintro rfl
  obtain ⟨h1, h2⟩ := h
  -- By its length the path holds exactly `kept` segments and `n` more, none of which is empty.
  rw [List.length_append] at h1 h2
  have hfront' : front.length = kept := by omega
  obtain h2 | h2 := h2
  · omega
  · rw [List.drop_append_of_le_length hfront, ← hfront', List.drop_length, List.nil_append] at h2
    exact (hplace [] h2).1 rfl

/-! ## After an empty last segment -/

/-- The path that segments are appended to is a beginning of the path, without an empty last
segment, unless that is a path of two empty ones. -/
theorem eq_or_eq_append_openEnd (h : path ≠ [[], []]) :
    path = openEnd (popIfEmpty path) ∨ path = openEnd (popIfEmpty path) ++ [[]] := by
  by_cases hpop : 1 < path.length ∧ path.getLast? = some []
  · have hsplit : path.dropLast ++ [[]] = path := List.dropLast_append_getLast? [] hpop.2
    have hroot : path.dropLast ≠ [[]] := by
      intro hroot
      rw [hroot] at hsplit
      exact h hsplit.symm
    rw [popIfEmpty, if_pos hpop, openEnd, if_neg hroot]
    exact .inr hsplit.symm
  · rw [popIfEmpty, if_neg hpop, openEnd]
    split_ifs with hroot
    · exact .inr hroot
    · exact .inl rfl

theorem eq_or_eq_append_popIfEmpty :
    path = popIfEmpty path ∨ path = popIfEmpty path ++ [[]] := by
  unfold popIfEmpty
  split_ifs with hpop
  · exact .inr (List.dropLast_append_getLast? [] hpop.2).symm
  · exact .inl rfl

theorem length_openEnd_popIfEmpty_le {front : List (List Char)}
    (h : path = front ∨ path = front ++ [[]]) :
    (openEnd (popIfEmpty path)).length ≤ front.length := by
  obtain rfl | rfl := h
  · refine (length_openEnd_le _).trans ?_
    unfold popIfEmpty
    split_ifs
    · rw [List.length_dropLast]
      omega
    · exact le_rfl
  · by_cases hfront : front = []
    · subst hfront
      exact le_rfl
    · have hpos : 0 < front.length := List.length_pos_iff.2 hfront
      have hpop : 1 < (front ++ [[]]).length ∧ (front ++ [[]]).getLast? = some [] := by
        simp
        omega
      rw [popIfEmpty, if_pos hpop, List.dropLast_concat]
      exact length_openEnd_le _

/-- Plain texts extend a path by one place each. -/
theorem exists_pushSegments_eq {raws : List (List Char)} (h : ∀ raw ∈ raws, IsPlain raw)
    (hroot : path = [[], []] → raws = []) :
    ∃ front, (path = front ∨ path = front ++ [[]]) ∧
      pushSegments .web (popIfEmpty path) raws = front ++ raws.map webSegment := by
  rw [pushSegments_of_isPlain h]
  by_cases hraws : raws = []
  · rw [if_pos hraws]
    exact ⟨_, eq_or_eq_append_popIfEmpty, rfl⟩
  · rw [if_neg hraws]
    exact ⟨_, eq_or_eq_append_openEnd (mt hroot hraws), rfl⟩

/-- Only plain texts extend a path by one place each, and none do after two empty segments. -/
theorem isPlain_of_pushSegments_eq {raws front added : List (List Char)}
    (hfront : path = front ∨ path = front ++ [[]])
    (hpushed : pushSegments .web (popIfEmpty path) raws = front ++ added)
    (hcount : added.length = raws.length) (hplaces : ∀ s ∈ added, IsPlace s) :
    (∀ raw ∈ raws, IsPlain raw) ∧ (path = [[], []] → raws = []) := by
  have hplain : ∀ raw ∈ raws, IsPlain raw := by
    by_contra hp
    have hspoiled := isSpoiled_pushSegments (n := 0) hp (length_openEnd_popIfEmpty_le hfront)
    rw [Nat.zero_add] at hspoiled
    exact not_extends_of_isSpoiled hspoiled le_rfl hcount hplaces hpushed
  refine ⟨hplain, ?_⟩
  rintro rfl
  by_contra hraws
  -- After two empty segments the path starts anew, so it is too short.
  rw [pushSegments_of_isPlain hplain, if_neg hraws] at hpushed
  have hlengths := congrArg List.length hpushed
  have hzero : (openEnd (popIfEmpty [[], []])).length = 0 := rfl
  have hpos : 0 < front.length := by
    refine List.length_pos_iff.2 ?_
    rintro rfl
    obtain h | h := hfront <;> cases h
  rw [List.length_append, List.length_append, List.length_map, hcount] at hlengths
  omega

end

end WebhookClient.Url.Path
