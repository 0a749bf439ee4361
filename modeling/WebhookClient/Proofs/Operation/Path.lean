import Mathlib
import WebhookClient.Operation.Basic
import WebhookClient.Proofs.Request.Template
import WebhookClient.Proofs.Url.Text

/-!
# Paths of operations

The template of an operation has one segment for each part of its path, and is filled in with
the fixed texts and the identifiers in turn. `filled` says what comes of it; from it the
identifiers can be read off, and paths that cannot be filled in alike are told by `compatible`.
-/

set_option autoImplicit false

namespace WebhookClient

open Url

namespace PathPart

/-- The name of an identifier. -/
def name? : PathPart → Option String
  | .id n => some n
  | .fixed _ => none

/-- The pieces of a part as a segment of a template. -/
def pieces : PathPart → List Template.Piece
  | .fixed s => s.toList.map .char
  | .id n => [.group n.toList]

/-- A part that makes one segment: a fixed text stands for a place and for itself, and the name of
an identifier stays between its braces. -/
def IsPlain : PathPart → Prop
  | .fixed s =>
    Path.IsPlain s.toList ∧ Path.visible s.toList = s.toList ∧ '/' ∉ s.toList ∧ '\x7b' ∉ s.toList
  | .id n => '/' ∉ n.toList ∧ '\x7d' ∉ n.toList

instance : (p : PathPart) → Decidable p.IsPlain
  | .fixed _ => inferInstanceAs (Decidable (_ ∧ _ ∧ _ ∧ _))
  | .id _ => inferInstanceAs (Decidable (_ ∧ _))

theorem toList_text_id (n : String) :
    (PathPart.id n).text.toList = '\x7b' :: (n.toList ++ ['\x7d']) := by
  simp [text]

/-- A part stands in a template as one segment that is not empty. -/
theorem IsPlain.text {p : PathPart} (h : p.IsPlain) :
    p.text.toList ≠ [] ∧ '/' ∉ p.text.toList := by
  cases p with
  | fixed s =>
    refine ⟨fun hs => h.1.1 ?_, h.2.2.1⟩
    have hs' : s.toList = [] := hs
    rw [hs']
    rfl
  | id n =>
    rw [toList_text_id]
    refine ⟨by simp, ?_⟩
    simp [h.1]

theorem IsPlain.pieces {p : PathPart} (h : p.IsPlain) :
    Template.pieces none p.text.toList = p.pieces := by
  cases p with
  | fixed s => exact Template.pieces_of_not_mem h.2.2.2
  | id n =>
    rw [toList_text_id]
    exact Template.pieces_group h.2

theorem fill_pieces_fixed (values : Template.Values) (s : String) :
    Template.fill values (PathPart.fixed s).pieces = s.toList := by
  show List.flatMap _ (s.toList.map Template.Piece.char) = _
  rw [List.flatMap_map]
  exact List.flatMap_singleton' _

theorem fill_pieces_id {values : Template.Values} {n v : String} (h : values.get? n = some v) :
    Template.fill values (PathPart.id n).pieces = v.toList := by
  show (((values.get? (String.ofList n.toList)).getD "").toList) ++ [] = _
  rw [String.ofList_toList, h, List.append_nil]
  rfl

end PathPart

namespace Operation

/-! ## Templates -/

theorem ids_eq (op : Operation) : op.ids = op.path.filterMap PathPart.name? := by
  unfold ids
  congr 1

theorem toList_template (op : Operation) :
    op.template.toList = Path.render (op.path.map fun p => p.text.toList) := by
  unfold template Path.render
  rw [String.toList_join, List.flatMap_map, List.flatMap_map]
  refine List.flatMap_congr fun p _ => ?_
  rw [String.toList_append]
  rfl

/-- The segments of the template are the parts of the path. -/
theorem segments_template {op : Operation} (h : ∀ p ∈ op.path, p.IsPlain) :
    Template.segments op.template = op.path.map PathPart.pieces := by
  have hslash : ∀ s ∈ op.path.map fun p => p.text.toList, '/' ∉ s := by
    intro s hs
    obtain ⟨p, hp, rfl⟩ := List.mem_map.1 hs
    exact (h p hp).text.2
  have hcut := Path.splitOn_append_render List.not_mem_nil hslash
  rw [List.nil_append] at hcut
  have hkeep : (op.path.map fun p => p.text.toList).filter (· ≠ []) =
      op.path.map fun p => p.text.toList := by
    rw [List.filter_eq_self]
    intro s hs
    obtain ⟨p, hp, rfl⟩ := List.mem_map.1 hs
    exact decide_eq_true (h p hp).text.1
  have hempty : decide (([] : List Char) ≠ []) = false := rfl
  unfold Template.segments
  rw [toList_template, hcut, List.filter_cons, hempty, if_neg (by decide), hkeep, List.map_map]
  exact List.map_congr_left fun p hp => (h p hp).pieces

/-! ## Filling in -/

/-- The texts of the parts of a path, with the identifiers in turn. -/
def filled : List PathPart → List String → List (List Char)
  | [], _ => []
  | .fixed s :: ps, vs => s.toList :: filled ps vs
  | .id _ :: ps, v :: vs => v.toList :: filled ps vs
  | .id _ :: ps, [] => [] :: filled ps []

/-- Values that give each identifier its own text fill in a path with them in turn. -/
theorem map_fill_eq_filled {values : Template.Values} {ps : List PathPart} {vs : List String}
    (hlength : vs.length = (ps.filterMap PathPart.name?).length)
    (hvalues : ∀ e ∈ (ps.filterMap PathPart.name?).zip vs, values.get? e.1 = some e.2) :
    (ps.map PathPart.pieces).map (Template.fill values) = filled ps vs := by
  induction ps generalizing vs with
  | nil => rfl
  | cons p ps ih =>
    rw [List.map_cons, List.map_cons]
    cases p with
    | fixed s => rw [PathPart.fill_pieces_fixed, ih hlength hvalues, filled]
    | id n =>
      cases vs with
      | nil => cases hlength
      | cons v vs =>
        have hn : values.get? n = some v := hvalues (n, v) List.mem_cons_self
        have hrest := ih (Nat.succ.inj hlength) fun e he => hvalues e (List.mem_cons_of_mem _ he)
        rw [PathPart.fill_pieces_id hn, hrest, filled]

/-- The identifiers are read off the texts of a path. -/
theorem filled_injective {ps : List PathPart} {vs ws : List String}
    (hvs : vs.length = (ps.filterMap PathPart.name?).length)
    (hws : ws.length = (ps.filterMap PathPart.name?).length) (h : filled ps vs = filled ps ws) :
    vs = ws := by
  induction ps generalizing vs ws with
  | nil => rw [List.eq_nil_of_length_eq_zero hvs, List.eq_nil_of_length_eq_zero hws]
  | cons p ps ih =>
    cases p with
    | fixed s => exact ih hvs hws (List.tail_eq_of_cons_eq h)
    | id n =>
      cases vs with
      | nil => cases hvs
      | cons v vs =>
        cases ws with
        | nil => cases hws
        | cons w ws =>
          obtain ⟨hvw, hrest⟩ := List.cons.inj h
          rw [String.toList_inj.1 hvw, ih (Nat.succ.inj hvs) (Nat.succ.inj hws) hrest]

/-- Whether two paths can be filled in alike: they are equally long, and the fixed texts that
stand at the same place are the same. -/
def compatible : List PathPart → List PathPart → Bool
  | [], [] => true
  | .fixed s :: ps, .fixed t :: qs => s = t && compatible ps qs
  | _ :: ps, _ :: qs => compatible ps qs
  | _, _ => false

theorem exists_filled_cons (p : PathPart) (ps : List PathPart) (vs : List String) :
    ∃ x ws, filled (p :: ps) vs = x :: filled ps ws := by
  match p, vs with
  | .fixed s, vs => exact ⟨_, vs, rfl⟩
  | .id _, [] => exact ⟨_, [], rfl⟩
  | .id _, _ :: vs => exact ⟨_, vs, rfl⟩

theorem compatible_of_filled_eq {ps qs : List PathPart} {vs ws : List String}
    (h : filled ps vs = filled qs ws) : compatible ps qs = true := by
  induction ps generalizing qs vs ws with
  | nil =>
    cases qs with
    | nil => rfl
    | cons q qs =>
      obtain ⟨x, us, hx⟩ := exists_filled_cons q qs ws
      rw [hx] at h
      cases h
  | cons p ps ih =>
    obtain ⟨x, us, hx⟩ := exists_filled_cons p ps vs
    cases qs with
    | nil =>
      rw [hx] at h
      cases h
    | cons q qs =>
      obtain ⟨y, us', hy⟩ := exists_filled_cons q qs ws
      have hrest : compatible ps qs = true := by
        rw [hx, hy] at h
        exact ih (List.tail_eq_of_cons_eq h)
      -- Only two fixed texts have to be the same.
      match p, q with
      | .fixed s, .fixed t =>
        have hst : s = t := String.toList_inj.1 (List.cons.inj h).1
        show (decide (s = t) && compatible ps qs) = true
        rw [decide_eq_true hst, hrest]
        rfl
      | .fixed _, .id _ => exact hrest
      | .id _, .fixed _ => exact hrest
      | .id _, .id _ => exact hrest

end Operation

end WebhookClient
