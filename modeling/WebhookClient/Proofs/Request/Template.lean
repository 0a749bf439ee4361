import Mathlib
import WebhookClient.Proofs.Except
import WebhookClient.Request.Template

/-!
# Filling in templates

When a template can be filled in, and what is reported when it cannot. What can be wrong with a
segment is a group without a value, or a text that leads to another path (`SegmentFault`); the first
segment with a fault is the one that is reported. Main statements: `expand_eq_ok_iff`,
`expand_eq_error_iff`.
-/

set_option autoImplicit false

namespace WebhookClient.Template

variable {template : String} {values : Values} {ps : List Piece} {e : Failure}

/-- Every group of a segment has a value. -/
def IsValued (values : Values) (ps : List Piece) : Prop :=
  ∀ n ∈ names ps, (values.get? (String.ofList n)).isSome

/-- A segment that is filled in: every group has a value, and if there is a group the segment
does not lead to another path. -/
def IsAccepted (values : Values) (ps : List Piece) : Prop :=
  IsValued values ps ∧ (names ps = [] ∨ isMisleading (fill values ps) = false)

instance : Decidable (IsValued values ps) := inferInstanceAs (Decidable (∀ _ ∈ _, _))

instance : Decidable (IsAccepted values ps) := inferInstanceAs (Decidable (_ ∧ _))

/-! ## Pieces -/

/-- A text without an opening brace has no groups. -/
theorem pieces_of_not_mem {cs : List Char} (h : '\x7b' ∉ cs) : pieces none cs = cs.map .char := by
  induction cs with
  | nil => rfl
  | cons c cs ih =>
    rw [List.mem_cons, not_or] at h
    have hopen : ¬ (c = '\x7b' ∧ '\x7d' ∈ cs) := fun hc => h.1 hc.1.symm
    rw [pieces, if_neg hopen, ih h.2, List.map_cons]

/-- The name of a group is read up to the first closing brace. -/
theorem pieces_some_append {n : List Char} (h : '\x7d' ∉ n) (before rest : List Char) :
    pieces (some before) (n ++ '\x7d' :: rest) = .group (before ++ n) :: pieces none rest := by
  induction n generalizing before with
  | nil => rw [List.nil_append, List.append_nil, pieces, if_pos rfl]
  | cons c n ih =>
    rw [List.mem_cons, not_or] at h
    rw [List.cons_append, pieces, if_neg (Ne.symm h.1), ih h.2, List.append_assoc]
    rfl

/-- A name between braces is a group. -/
theorem pieces_group {n : List Char} (h : '\x7d' ∉ n) :
    pieces none ('\x7b' :: (n ++ ['\x7d'])) = [.group n] := by
  have hclosed : '\x7d' ∈ n ++ ['\x7d'] := by simp
  rw [pieces, if_pos ⟨rfl, hclosed⟩, pieces_some_append h, pieces]
  rfl

/-! ## One segment -/

theorem find?_isNone_iff :
    ((names ps).find? fun n => (values.get? (String.ofList n)).isNone) = none ↔
      IsValued values ps := by
  rw [List.find?_eq_none]
  refine forall₂_congr fun n _ => ?_
  cases values.get? (String.ofList n) <;> simp

theorem expandSegment_of_isValued (h : IsValued values ps) :
    expandSegment template values ps =
      match (names ps).getLast? with
      | some n =>
        if isMisleading (fill values ps) then
          .error (.invalidPathParam (String.ofList n)
            ((values.get? (String.ofList n)).getD "") template)
        else .ok (fill values ps)
      | none => .ok (fill values ps) := by
  have hvalued := find?_isNone_iff.2 h
  cases hnames : (names ps).getLast? <;> simp only [expandSegment, hvalued, hnames]

theorem expandSegment_eq_ok_iff {s : List Char} :
    expandSegment template values ps = .ok s ↔ IsAccepted values ps ∧ s = fill values ps := by
  by_cases hv : IsValued values ps
  · rw [expandSegment_of_isValued hv]
    cases hl : (names ps).getLast? with
    | none =>
      have hnames : names ps = [] := List.getLast?_eq_none_iff.1 hl
      constructor
      · intro h
        cases h
        exact ⟨⟨hv, .inl hnames⟩, rfl⟩
      · rintro ⟨-, rfl⟩
        rfl
    | some n =>
      have hnames : names ps ≠ [] := fun h => by simp [h] at hl
      show (if isMisleading (fill values ps) then _ else _) = _ ↔ _
      by_cases hm : isMisleading (fill values ps) = true
      · rw [if_pos hm]
        constructor
        · intro h
          cases h
        · rintro ⟨⟨-, h | h⟩, -⟩
          · exact absurd h hnames
          · rw [hm] at h
            cases h
      · rw [if_neg hm]
        constructor
        · intro h
          cases h
          exact ⟨⟨hv, .inr (Bool.eq_false_iff.2 hm)⟩, rfl⟩
        · rintro ⟨-, rfl⟩
          rfl
  · have hfind : ((names ps).find? fun n => (values.get? (String.ofList n)).isNone) ≠ none :=
      fun h => hv (find?_isNone_iff.1 h)
    obtain ⟨n, hn⟩ := Option.ne_none_iff_exists'.1 hfind
    rw [expandSegment, hn]
    constructor
    · intro h
      cases h
    · rintro ⟨⟨h, -⟩, -⟩
      exact absurd h hv

/-! ## Faults of a segment -/

/-- What is wrong with a segment: its first group without a value, or else, if it has groups, a
text that is empty or a dot or two, reported with the last group. -/
inductive SegmentFault (template : String) (values : Values) (ps : List Piece) :
    Failure → Prop where
  | missing {front back : List (List Char)} {n : List Char}
    (hnames : names ps = front ++ n :: back)
    (hfront : ∀ m ∈ front, (values.get? (String.ofList m)).isSome)
    (hnone : values.get? (String.ofList n) = none) :
    SegmentFault template values ps (.missingPathParam (String.ofList n) template)
  | misleading {front : List (List Char)} {n : List Char} {value : String}
    (hvalued : IsValued values ps) (hnames : names ps = front ++ [n])
    (hvalue : values.get? (String.ofList n) = some value)
    (hfill : fill values ps = [] ∨ fill values ps = ['.'] ∨ fill values ps = ['.', '.']) :
    SegmentFault template values ps (.invalidPathParam (String.ofList n) value template)

theorem isMisleading_iff {cs : List Char} :
    isMisleading cs = true ↔ cs = [] ∨ cs = ['.'] ∨ cs = ['.', '.'] := by
  simp [isMisleading, or_assoc]

theorem segmentFault_of_expandSegment (h : expandSegment template values ps = .error e) :
    SegmentFault template values ps e := by
  by_cases hvalued : IsValued values ps
  · rw [expandSegment_of_isValued hvalued] at h
    cases hlast : (names ps).getLast? with
    | none =>
      rw [hlast] at h
      cases h
    | some n =>
      have hnames : names ps = (names ps).dropLast ++ [n] :=
        (List.dropLast_append_getLast? n hlast).symm
      have hmem : n ∈ names ps := List.mem_of_getLast? hlast
      obtain ⟨value, hvalue⟩ := Option.isSome_iff_exists.1 (hvalued n hmem)
      rw [hlast] at h
      dsimp only at h
      split_ifs at h with hmisleading
      cases h
      rw [hvalue]
      exact .misleading hvalued hnames hvalue (isMisleading_iff.1 hmisleading)
  · have hfind := mt find?_isNone_iff.1 hvalued
    obtain ⟨n, hn⟩ := Option.ne_none_iff_exists'.1 hfind
    obtain ⟨hnone, front, back, hnames, hfront⟩ := List.find?_eq_some_iff_append.1 hn
    rw [expandSegment, hn] at h
    cases h
    refine .missing hnames (fun m hm => ?_) (Option.isNone_iff_eq_none.1 hnone)
    simpa using hfront m hm

theorem SegmentFault.expandSegment (h : SegmentFault template values ps e) :
    expandSegment template values ps = .error e := by
  cases h with
  | @missing front back n hnames hfront hnone =>
    have hfind : (names ps).find? (fun n => (values.get? (String.ofList n)).isNone) = some n := by
      refine List.find?_eq_some_iff_append.2
        ⟨by rw [hnone]; rfl, front, back, hnames, fun m hm => ?_⟩
      simpa using hfront m hm
    rw [Template.expandSegment, hfind]
  | @misleading front n value hvalued hnames hvalue hfill =>
    rw [expandSegment_of_isValued hvalued, hnames, List.getLast?_concat]
    dsimp only
    rw [if_pos (isMisleading_iff.2 hfill), hvalue]
    rfl

theorem expandSegment_eq_error_iff :
    expandSegment template values ps = .error e ↔ SegmentFault template values ps e :=
  ⟨segmentFault_of_expandSegment, SegmentFault.expandSegment⟩

/-- A segment is filled in if nothing is wrong with it. -/
theorem exists_expandSegment_eq_ok_iff (template : String) (values : Values) (ps : List Piece) :
    (∃ cs, expandSegment template values ps = .ok cs) ↔
      ∀ e, ¬ SegmentFault template values ps e := by
  simp only [← expandSegment_eq_error_iff]
  cases expandSegment template values ps with
  | ok cs => simp
  | error e => simp

/-! ## All segments -/

theorem expand_eq_ok_iff {raws : List (List Char)} :
    expand template values = .ok raws ↔
      (∀ ps ∈ segments template, IsAccepted values ps) ∧
        raws = (segments template).map (fill values) := by
  rw [expand, mapM_eq_ok_iff]
  generalize segments template = pss
  induction pss generalizing raws with
  | nil => simp
  | cons ps pss ih =>
    rw [List.forall₂_cons_left_iff, List.forall_mem_cons]
    constructor
    · rintro ⟨s, rest, hs, hrest, rfl⟩
      obtain ⟨hps, rfl⟩ := expandSegment_eq_ok_iff.1 hs
      obtain ⟨hpss, rfl⟩ := ih.1 hrest
      exact ⟨⟨hps, hpss⟩, rfl⟩
    · rintro ⟨⟨hps, hpss⟩, rfl⟩
      exact ⟨_, _, expandSegment_eq_ok_iff.2 ⟨hps, rfl⟩, ih.2 ⟨hpss, rfl⟩, rfl⟩

/-- The first segment with a fault is reported. -/
theorem expand_eq_error_iff :
    expand template values = .error e ↔
      ∃ before ps after, segments template = before ++ ps :: after ∧
        (∀ q ∈ before, ∀ e', ¬ SegmentFault template values q e') ∧
        SegmentFault template values ps e := by
  rw [expand, mapM_eq_error_iff]
  simp only [exists_expandSegment_eq_ok_iff, expandSegment_eq_error_iff]

/-- If all groups have values and a segment with a group would lead to another path, the value
of a group is reported. -/
theorem expand_of_isMisleading (hv : ∀ ps ∈ segments template, IsValued values ps)
    (hm : ∃ ps ∈ segments template, names ps ≠ [] ∧ isMisleading (fill values ps) = true) :
    ∃ name value, values.get? name = some value ∧
      expand template values = .error (.invalidPathParam name value template) := by
  obtain ⟨ps, hps, hn, hmis⟩ := hm
  cases hexpand : expand template values with
  | ok raws =>
    have hacc := (expand_eq_ok_iff.1 hexpand).1 ps hps
    rw [hacc.2.resolve_left hn] at hmis
    cases hmis
  | error e =>
    obtain ⟨before, qs, after, hsegments, -, hfault⟩ := expand_eq_error_iff.1 hexpand
    have hvalued : IsValued values qs := hv qs (by rw [hsegments]; simp)
    cases hfault with
    | @missing front back n hnames _ hnone =>
      have hsome := hvalued n (by rw [hnames]; simp)
      rw [hnone] at hsome
      cases hsome
    | misleading _ _ hvalue _ => exact ⟨_, _, hvalue, rfl⟩

/-- A template that cannot be filled in is reported under the name of a group. -/
theorem expand_eq_error (h : expand template values = .error e) :
    (∃ name, values.get? name = none ∧ e = .missingPathParam name template) ∨
      ∃ name value, values.get? name = some value ∧
        e = .invalidPathParam name value template := by
  obtain ⟨-, ps, -, -, -, hfault⟩ := expand_eq_error_iff.1 h
  cases hfault with
  | missing _ _ hnone => exact .inl ⟨_, hnone, rfl⟩
  | misleading _ _ hvalue _ => exact .inr ⟨_, _, hvalue, rfl⟩

end WebhookClient.Template
