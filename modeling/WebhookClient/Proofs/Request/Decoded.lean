import Mathlib
import WebhookClient.Proofs.Request.Query

/-!
# What the segments of a URL decode to

Each text that fills a segment of a template becomes one segment of the path, and percent-decoded
once that segment is the text again, without the characters that vanish. So values that each fill a
segment of their own can be read off the path. Main statement: `decode_url`.
-/

set_option autoImplicit false

namespace WebhookClient

open Url

/-- A template whose groups are each a segment of their own. -/
def Template.IsWhole (template : String) : Prop :=
  ∀ ps ∈ segments template, ∀ n ∈ names ps, ps = [.group n]

instance (template : String) : Decidable (Template.IsWhole template) :=
  inferInstanceAs (Decidable (∀ _ ∈ _, ∀ _ ∈ _, _))

theorem Template.fill_group {values : Values} {n : List Char} {value : String}
    (h : values.get? (String.ofList n) = some value) : fill values [.group n] = value.toList := by
  show ((values.get? (String.ofList n)).getD "").toList ++ [] = _
  rw [h, List.append_nil]
  rfl

namespace Url.Path

/-- A segment of the web, percent-decoded, is the text that it was made of. -/
theorem decode_webSegment (raw : List Char) :
    Percent.decode (webSegment raw) = Utf8.encode (visible raw) :=
  Percent.decode_encode (by decide) _

/-- The segments of a path that stay before plain texts: not an empty last one, and of a root
none. -/
def kept (path raws : List (List Char)) : List (List Char) :=
  if raws = [] then popIfEmpty path else openEnd (popIfEmpty path)

/-- No more than two empty segments are lost. -/
theorem eq_kept_append (path raws : List (List Char)) :
    path = kept path raws ∨ path = kept path raws ++ [[]] ∨ path = kept path raws ++ [[], []] := by
  unfold kept
  split_ifs
  · exact eq_or_eq_append_popIfEmpty.imp_right .inl
  · by_cases hroot : path = [[], []]
    · subst hroot
      exact .inr (.inr rfl)
    · exact (eq_or_eq_append_openEnd hroot).imp_right .inl

end Url.Path

namespace Request

variable {base u v : Url} {r q : Request}

/-- A request from the values of whose groups nothing vanishes. -/
def IsVisible (r : Request) : Prop :=
  ∀ ps ∈ Template.segments r.template, ∀ n ∈ Template.names ps,
    ∀ value ∈ r.pathParams.get? (String.ofList n), Path.visible value.toList = value.toList

instance (r : Request) : Decidable r.IsVisible :=
  inferInstanceAs (Decidable (∀ _ ∈ _, ∀ _ ∈ _, ∀ _ ∈ _, _))

/-! ## The segments of the path -/

/-- The path of a URL is what stays of that of the server, and one segment for each text. -/
theorem exists_path?_of_url_eq_ok (hweb : base.kind = .web) (hplain : r.IsPlainFilled)
    (hu : r.url base = .ok u) :
    ∃ path, base.path? = some path ∧
      u.path? = some (Path.kept path r.filled ++ r.filled.map Path.webSegment) := by
  obtain ⟨-, path, hpath, rfl⟩ := url_eq_ok_iff.1 hu
  have hfilled : ∀ raw ∈ r.filled, Path.IsPlain raw := List.forall_mem_map.2 hplain
  refine ⟨path, hpath, ?_⟩
  rw [path?_appendQuery, hweb, Path.kept, ← Path.pushSegments_of_isPlain hfilled]
  rfl

/-! ## The values of the groups -/

/-- The texts of the segments are read off the text of the path. -/
theorem visible_filled_eq (hweb : base.kind = .web) (htemplate : q.template = r.template)
    (hr : r.IsPlainFilled) (hq : q.IsPlainFilled) (hu : r.url base = .ok u)
    (hv : q.url base = .ok v) (h : u.renderLocation = v.renderLocation) :
    r.filled.map Path.visible = q.filled.map Path.visible := by
  by_cases hnone : Template.segments r.template = []
  · rw [filled, filled, htemplate, hnone]
    rfl
  have hrne : r.filled ≠ [] := mt List.map_eq_nil_iff.1 hnone
  have hqne : q.filled ≠ [] := by
    rw [← htemplate] at hnone
    exact mt List.map_eq_nil_iff.1 hnone
  obtain ⟨path, hpath, rfl⟩ := url_eq_extended hweb hr hrne hu
  obtain ⟨path', hpath', rfl⟩ := url_eq_extended hweb hq hqne hv
  obtain rfl : path = path' := Option.some.inj (hpath.symm.trans hpath')
  -- Both paths begin with what stays of that of the server, so the rest is the same.
  have hadded : r.filled.map Path.webSegment = q.filled.map Path.webSegment :=
    eq_of_renderLocation_extended (marks_webSegment hr) (marks_webSegment hq)
      (by simpa using hrne) (by simpa using hqne) h
  exact map_visible_eq hadded

/-- A value that fills a segment alone is what the segment is filled with. -/
theorem eq_of_visible_fill_eq (hwhole : Template.IsWhole r.template)
    (htemplate : q.template = r.template) (hr : r.IsVisible) (hq : q.IsVisible)
    (hu : r.url base = .ok u) (hv : q.url base = .ok v)
    (h : r.filled.map Path.visible = q.filled.map Path.visible) :
    ∀ ps ∈ Template.segments r.template, ∀ n ∈ Template.names ps,
      r.pathParams.get? (String.ofList n) = q.pathParams.get? (String.ofList n) := by
  intro ps hps n hn
  have hps' : ps ∈ Template.segments q.template := htemplate ▸ hps
  obtain rfl : ps = [.group n] := hwhole ps hps n hn
  obtain ⟨value, hvalue⟩ := Option.isSome_iff_exists.1 (((url_eq_ok_iff.1 hu).1 _ hps).1 n hn)
  obtain ⟨value', hvalue'⟩ := Option.isSome_iff_exists.1 (((url_eq_ok_iff.1 hv).1 _ hps').1 n hn)
  have hfill : Path.visible (Template.fill r.pathParams [.group n]) =
      Path.visible (Template.fill q.pathParams [.group n]) := by
    rw [filled, filled, htemplate, List.map_map, List.map_map] at h
    exact List.map_inj_left.1 h _ hps
  rw [Template.fill_group hvalue, Template.fill_group hvalue', hr _ hps n hn value hvalue,
    hq _ hps' n hn value' hvalue'] at hfill
  rw [hvalue, hvalue', String.toList_inj.1 hfill]

/-- Each text that fills a segment follows the path of the server as a segment of its own, which
decodes to the text without the characters that vanish. Requests with the same template, whose
groups are segments of their own and whose values hold no such characters, have URLs of the same
path only if their values are the same. -/
theorem decode_url (hserver : isServerScheme base.scheme = true) (hu : r.url base = .ok u)
    (hplain : r.IsPlainFilled) :
    (∃ path added, base.path? = some path ∧
      (path = Path.kept path r.filled ∨ path = Path.kept path r.filled ++ [[]] ∨
        path = Path.kept path r.filled ++ [[], []]) ∧
      u.path? = some (Path.kept path r.filled ++ added) ∧
      added.map Percent.decode = r.filled.map fun raw => Utf8.encode (Path.visible raw)) ∧
    ∀ (q : Request) (v : Url), q.template = r.template → q.url base = .ok v → q.IsPlainFilled →
      Template.IsWhole r.template → r.IsVisible → q.IsVisible →
      u.renderLocation = v.renderLocation →
      ∀ ps ∈ Template.segments r.template, ∀ n ∈ Template.names ps,
        r.pathParams.get? (String.ofList n) = q.pathParams.get? (String.ofList n) := by
  have hweb : base.kind = .web := Client.kind_of_isServerScheme hserver
  constructor
  · obtain ⟨path, hpath, hu'⟩ := exists_path?_of_url_eq_ok hweb hplain hu
    refine ⟨path, _, hpath, Path.eq_kept_append path r.filled, hu', ?_⟩
    rw [List.map_map]
    exact List.map_congr_left fun raw _ => Path.decode_webSegment raw
  · intro q v htemplate hv hq hwhole hrvisible hqvisible hpath
    have hfilled := visible_filled_eq hweb htemplate hplain hq hu hv hpath
    exact eq_of_visible_fill_eq hwhole htemplate hrvisible hqvisible hu hv hfilled

/-- A server whose path ends with an empty segment. -/
def nestedServer : Url := { searchedServer with location := .segments ["a".toList, []] }

/-- Values that look encoded, hold a mark of a URL or a line break are told apart, and decode to
themselves but for the line break. -/
theorem decode_removal :
    (∃ u path, (removal "%2e%2E" "é/\\\n?").url nestedServer = .ok u ∧ u.path? = some path ∧
      path.map Percent.decode =
        ["a", "api", "v1", "app", "%2e%2E", "endpoint", "é/\\?"].map fun s =>
          Utf8.encode s.toList) ∧
    ∃ u v, (removal "%2F" "x").url nestedServer = .ok u ∧
      (removal "/" "x").url nestedServer = .ok v ∧ u.renderLocation ≠ v.renderLocation := by
  constructor
  · obtain ⟨u, hu⟩ : ∃ u, (removal "%2e%2E" "é/\\\n?").url nestedServer = .ok u :=
      exists_url_eq_ok ⟨_, rfl⟩ (by decide)
    obtain ⟨path, added, hpath, -, hu', hadded⟩ := (decode_url rfl hu (by decide)).1
    obtain rfl : ["a".toList, []] = path := Option.some.inj hpath
    refine ⟨u, _, hu, hu', ?_⟩
    rw [List.map_append, hadded]
    decide
  · obtain ⟨u, hu⟩ : ∃ u, (removal "%2F" "x").url nestedServer = .ok u :=
      exists_url_eq_ok ⟨_, rfl⟩ (by decide)
    obtain ⟨v, hv⟩ : ∃ v, (removal "/" "x").url nestedServer = .ok v :=
      exists_url_eq_ok ⟨_, rfl⟩ (by decide)
    refine ⟨u, v, hu, hv, fun hpath => ?_⟩
    have hplain : (removal "%2F" "x").IsPlainFilled ∧ (removal "/" "x").IsPlainFilled := by decide
    have hwhole : Template.IsWhole (removal "%2F" "x").template := by decide
    have hvisible : (removal "%2F" "x").IsVisible ∧ (removal "/" "x").IsVisible := by decide
    have hvalues := (decode_url rfl hu hplain.1).2 (removal "/" "x") v rfl hv hplain.2 hwhole
      hvisible.1 hvisible.2 hpath
    have hsame : (removal "%2F" "x").pathParams.get? (String.ofList "app_id".toList) =
        (removal "/" "x").pathParams.get? (String.ofList "app_id".toList) :=
      hvalues [.group "app_id".toList] (by decide) "app_id".toList (by decide)
    exact absurd hsame (by decide)

end Request

end WebhookClient
