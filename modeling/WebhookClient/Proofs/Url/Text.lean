import Mathlib
import WebhookClient.Proofs.Url.Form
import WebhookClient.Proofs.Url.Path
import WebhookClient.Url.Basic

/-!
# The text of a URL

Where two URLs differ in what stands after the path of a server only, their texts tell them apart:
no slash or question mark of a segment is taken for a mark of the URL. Main statement:
`eq_of_toText_extended`.
-/

set_option autoImplicit false

namespace WebhookClient.Url

/-! ## Paths -/

namespace Path

theorem render_cons (s : List Char) (path : List (List Char)) :
    render (s :: path) = '/' :: (s ++ render path) :=
  rfl

theorem render_append (a b : List (List Char)) : render (a ++ b) = render a ++ render b :=
  List.flatMap_append

/-- A path whose segments hold no slash is cut into them again. -/
theorem splitOn_append_render {s : List Char} {path : List (List Char)} (hs : '/' ∉ s)
    (hpath : ∀ t ∈ path, '/' ∉ t) : (s ++ render path).splitOn '/' = s :: path := by
  induction path generalizing s with
  | nil =>
    rw [render, List.flatMap_nil, List.append_nil]
    exact List.splitOn_eq_singleton hs
  | cons t path ih =>
    rw [List.forall_mem_cons] at hpath
    rw [render_cons, List.splitOn_append_cons_self_of_not_mem hs, ih hpath.1 hpath.2]

theorem render_injective {a b : List (List Char)} (ha : ∀ s ∈ a, '/' ∉ s)
    (hb : ∀ s ∈ b, '/' ∉ s) (h : render a = render b) : a = b := by
  have hnil : '/' ∉ ([] : List Char) := List.not_mem_nil
  have hcut := splitOn_append_render hnil ha
  rw [h, splitOn_append_render hnil hb] at hcut
  exact (List.tail_eq_of_cons_eq hcut).symm

/-- No mark of a URL stands in the segment that a text becomes. -/
theorem not_mem_webSegment (raw : List Char) :
    '/' ∉ webSegment raw ∧ '?' ∉ webSegment raw ∧ '#' ∉ webSegment raw := by
  have key {c : Char} (h : c ≠ '%') (hdigit : ∀ n, n < 16 → c ≠ Percent.hexDigit n) :=
    Percent.not_mem_encodeByte h hdigit
  exact ⟨Percent.not_mem_encode (by decide) (key (by decide) (by decide)) _,
    Percent.not_mem_encode (by decide) (key (by decide) (by decide)) _,
    Percent.not_mem_encode (by decide) (key (by decide) (by decide)) _⟩

end Path

/-! ## Parts of a text -/

/-- What stands before a path whose first segment is empty where there is no host. -/
def dotted (host : Option Host) (path : List (List Char)) : List Char :=
  match path, host with
  | [] :: _ :: _, none => ['/', '.']
  | _, _ => []

theorem renderLocation_of_segments {u : Url} {path : List (List Char)}
    (h : u.location = .segments path) :
    u.renderLocation = dotted u.host path ++ Path.render path := by
  unfold renderLocation dotted
  rw [h]
  cases u.host with
  | some host =>
    match path with
    | [] => rfl
    | [] :: _ :: _ => rfl
    | [[]] => rfl
    | (_ :: _) :: _ => rfl
  | none =>
    match path with
    | [] => rfl
    | [] :: _ :: _ => rfl
    | [[]] => rfl
    | (_ :: _) :: _ => rfl

/-- Segments that are not empty do not change what stands before the path. -/
theorem dotted_append (host : Option Host) (front : List (List Char)) {s t : List Char}
    (hs : s ≠ []) (ht : t ≠ []) (a b : List (List Char)) :
    dotted host (front ++ s :: a) = dotted host (front ++ t :: b) := by
  unfold dotted
  match front, s, t, hs, ht with
  | [], _ :: _, _ :: _, _, _ => rfl
  | [[]], _, _, _, _ => cases host <;> rfl
  | [] :: _ :: _, _, _, _, _ => cases host <;> rfl
  | (_ :: _) :: _, _, _, _, _ => rfl

/-- What is requested of a URL, up to its path. -/
def beforePath (u : Url) : List Char :=
  u.scheme ++ ':' ::
    (match u.host with
      | some h => '/' :: '/' :: u.withoutUser.renderHost h
      | none => [])

theorem render_requested (u : Url) :
    u.requested.render = u.beforePath ++ (u.renderLocation ++ u.renderQuery) := by
  have hlocation : u.requested.renderLocation = u.renderLocation := rfl
  have hquery : u.requested.renderQuery = u.renderQuery := rfl
  rw [render, hlocation, hquery]
  show _ ++ [] = _
  rw [List.append_nil, List.append_assoc, beforePath]
  cases hhost : u.host with
  | none =>
    have hhost' : u.requested.host = none := hhost
    rw [hhost']
    rfl
  | some h =>
    have hhost' : u.requested.host = some h := hhost
    rw [hhost']
    rfl

theorem renderQuery_injective {u v : Url} (h : u.renderQuery = v.renderQuery) :
    u.query = v.query := by
  unfold renderQuery at h
  cases hu : u.query <;> cases hv : v.query <;> rw [hu, hv] at h <;> simp_all

/-! ## Extended URLs -/

/-- A server with segments after some of its own, and with a query. -/
def extended (base : Url) (front added : List (List Char)) (query : Option (List Char)) : Url :=
  { base with
    location := .segments (front ++ added)
    query := query }

/-- The path of a text ends at its question mark. -/
theorem eq_of_append_renderQuery {a b : List Char} {u v : Url} (ha : '?' ∉ a) (hb : '?' ∉ b)
    (h : a ++ u.renderQuery = b ++ v.renderQuery) : a = b ∧ u.renderQuery = v.renderQuery := by
  have htake : ∀ {c : List Char} {w : Url}, '?' ∉ c →
      (c ++ w.renderQuery).takeWhile (· ≠ '?') = c := by
    intro c w hc
    have hall : ∀ x ∈ c, decide (x ≠ '?') = true := by
      intro x hx
      refine decide_eq_true ?_
      rintro rfl
      exact hc hx
    rw [List.takeWhile_append_of_pos hall]
    unfold renderQuery
    cases w.query <;> simp
  have hab : a = b := by
    rw [← htake (w := u) ha, h, htake hb]
  subst hab
  exact ⟨rfl, List.append_cancel_left h⟩

variable {base : Url} {front a b : List (List Char)} {p q : Option (List Char)}

/-- What is requested tells the segments after a path and the queries apart. -/
theorem eq_of_toText_extended (ha : ∀ s ∈ a, s ≠ [] ∧ '/' ∉ s ∧ '?' ∉ s)
    (hb : ∀ s ∈ b, s ≠ [] ∧ '/' ∉ s ∧ '?' ∉ s) (hane : a ≠ []) (hbne : b ≠ [])
    (h : (base.extended front a p).requested.toText =
      (base.extended front b q).requested.toText) : a = b ∧ p = q := by
  have hrender := String.ofList_injective h
  rw [render_requested, render_requested] at hrender
  have htail : (base.extended front a p).renderLocation ++ (base.extended front a p).renderQuery =
      (base.extended front b q).renderLocation ++ (base.extended front b q).renderQuery :=
    List.append_cancel_left hrender
  obtain ⟨s, a', rfl⟩ := List.exists_cons_of_ne_nil hane
  obtain ⟨t, b', rfl⟩ := List.exists_cons_of_ne_nil hbne
  have hs : s ≠ [] := (ha s (by simp)).1
  have ht : t ≠ [] := (hb t (by simp)).1
  have hdots : dotted base.host (front ++ s :: a') = dotted base.host (front ++ t :: b') :=
    dotted_append base.host front hs ht a' b'
  rw [renderLocation_of_segments rfl, renderLocation_of_segments rfl] at htail
  simp only [extended] at htail
  rw [hdots, List.append_assoc, List.append_assoc, Path.render_append, Path.render_append,
    List.append_assoc, List.append_assoc] at htail
  -- What stands before the segments is the same on both sides and is dropped.
  have hpath := List.append_cancel_left (List.append_cancel_left htail)
  have hmark : ∀ c : List (List Char), (∀ s ∈ c, s ≠ [] ∧ '/' ∉ s ∧ '?' ∉ s) →
      '?' ∉ Path.render c := by
    intro c hc hmem
    obtain ⟨s, hs, hmem⟩ := List.mem_flatMap.1 hmem
    obtain h | h := List.mem_cons.1 hmem
    · exact absurd h (by decide)
    · exact (hc s hs).2.2 h
  obtain ⟨hrender, hquery⟩ := eq_of_append_renderQuery (hmark _ ha) (hmark _ hb) hpath
  refine ⟨Path.render_injective (fun s hs => (ha s hs).2.1) (fun s hs => (hb s hs).2.1) hrender, ?_⟩
  exact renderQuery_injective hquery

/-- The text of the path alone tells the segments apart. -/
theorem eq_of_renderLocation_extended (ha : ∀ s ∈ a, s ≠ [] ∧ '/' ∉ s ∧ '?' ∉ s)
    (hb : ∀ s ∈ b, s ≠ [] ∧ '/' ∉ s ∧ '?' ∉ s) (hane : a ≠ []) (hbne : b ≠ [])
    (h : (base.extended front a p).renderLocation = (base.extended front b q).renderLocation) :
    a = b := by
  have hlocation : (base.extended front a none).renderLocation =
      (base.extended front b none).renderLocation := h
  have htext : (base.extended front a none).requested.toText =
      (base.extended front b none).requested.toText := by
    rw [toText, toText, render_requested, render_requested, hlocation]
    rfl
  exact (eq_of_toText_extended ha hb hane hbne htext).1

end WebhookClient.Url
