import Mathlib
import WebhookClient.Proofs.Request.Route
import WebhookClient.Proofs.Url.Form
import WebhookClient.Proofs.Url.Text

/-!
# What is requested tells the request

Two requests whose URLs have the same text fill their segments with the same texts, up to the
characters that vanish, and put the same pairs into the query. Main statement:
`eq_of_requested_eq`.
-/

set_option autoImplicit false

namespace WebhookClient

open Url

/-! ## Queries -/

/-- The query after some pairs have been appended. -/
def Url.longerQuery (query : Option (List Char)) (pairs : List (String × String)) :
    Option (List Char) :=
  if pairs = [] then query else some (Form.append (query.getD []) pairs)

theorem Url.query_appendQuery (u : Url) (pairs : List (String × String)) :
    (u.appendQuery pairs).query = longerQuery u.query pairs := by
  unfold appendQuery longerQuery
  cases pairs <;> rfl

/-- The pairs are read off a query after those that it held before. -/
theorem Url.parse_longerQuery (query : Option (List Char)) (pairs : List (String × String)) :
    Form.parse ((longerQuery query pairs).getD []) = Form.parse (query.getD []) ++ pairs := by
  unfold longerQuery
  split_ifs with hpairs
  · rw [hpairs, List.append_nil]
  · exact Form.parse_append _ _

theorem Url.longerQuery_injective {query : Option (List Char)} {ps qs : List (String × String)}
    (h : longerQuery query ps = longerQuery query qs) : ps = qs := by
  have hps := parse_longerQuery query ps
  rw [h, parse_longerQuery] at hps
  exact (List.append_cancel_left hps).symm

namespace Request

variable {base u v : Url} {r s : Request}

/-! ## The parts of a URL -/

/-- The texts that fill the segments of the path. -/
def filled (r : Request) : List (List Char) :=
  (Template.segments r.template).map (Template.fill r.pathParams)

/-- The URL of a request whose texts are plain: all segments after those of the server. -/
theorem url_eq_extended (hweb : base.kind = .web) (hplain : r.IsPlainFilled)
    (hne : r.filled ≠ []) (hu : r.url base = .ok u) :
    ∃ path, base.path? = some path ∧
      u = base.extended (Path.openEnd (Path.popIfEmpty path)) (r.filled.map Path.webSegment)
        (longerQuery base.query r.query) := by
  obtain ⟨-, path, hpath, rfl⟩ := url_eq_ok_iff.1 hu
  refine ⟨path, hpath, ?_⟩
  have hfilled : ∀ raw ∈ r.filled, Path.IsPlain raw := List.forall_mem_map.2 hplain
  have hpushed : Path.pushSegments .web (Path.popIfEmpty path) r.filled =
      Path.openEnd (Path.popIfEmpty path) ++ r.filled.map Path.webSegment := by
    rw [Path.pushSegments_of_isPlain hfilled, if_neg hne]
  change _ = base.extended _ _ _
  rw [hweb, ← filled, hpushed]
  unfold appendQuery longerQuery
  cases r.query with
  | nil => rfl
  | cons p ps => rfl

/-- The segments that plain texts become hold no mark of a URL. -/
theorem marks_webSegment (hplain : r.IsPlainFilled) :
    ∀ x ∈ r.filled.map Path.webSegment, x ≠ [] ∧ '/' ∉ x ∧ '?' ∉ x := by
  intro x hx
  obtain ⟨raw, hraw, rfl⟩ := List.mem_map.1 hx
  obtain ⟨ps, hps, rfl⟩ := List.mem_map.1 hraw
  have hplace := (Path.isPlace_webSegment_iff _).2 (hplain ps hps)
  have hmarks := Path.not_mem_webSegment (Template.fill r.pathParams ps)
  exact ⟨hplace.1, hmarks.1, hmarks.2.1⟩

/-- Segments are told as they were encoded, that is without the characters that vanish. -/
theorem map_visible_eq {a b : List (List Char)}
    (h : a.map Path.webSegment = b.map Path.webSegment) :
    a.map Path.visible = b.map Path.visible := by
  have hencode : Percent.specialSegmentSet '%' = true := by decide
  refine List.map_injective_iff.2 (fun _ _ => Percent.encode_injective hencode) ?_
  rw [List.map_map, List.map_map]
  exact h

/-- The segments and the pairs are read off the text of the URL. -/
theorem eq_of_requested_eq (hweb : base.kind = .web) (hr : r.IsPlainFilled)
    (hs : s.IsPlainFilled) (hrne : r.filled ≠ []) (hsne : s.filled ≠ [])
    (hu : r.url base = .ok u) (hv : s.url base = .ok v)
    (h : u.requested.toText = v.requested.toText) :
    r.filled.map Path.visible = s.filled.map Path.visible ∧ r.query = s.query := by
  obtain ⟨path, hpath, rfl⟩ := url_eq_extended hweb hr hrne hu
  obtain ⟨path', hpath', rfl⟩ := url_eq_extended hweb hs hsne hv
  obtain rfl : path = path' := Option.some.inj (hpath.symm.trans hpath')
  obtain ⟨hadded, hquery⟩ := eq_of_toText_extended (marks_webSegment hr) (marks_webSegment hs)
    (by simpa using hrne) (by simpa using hsne) h
  exact ⟨map_visible_eq hadded, longerQuery_injective hquery⟩

end Request

end WebhookClient
