import Mathlib
import WebhookClient.Proofs.Request.Template
import WebhookClient.Request.Basic

/-!
# What a request is prepared to

When there is a URL for a request and what it is, and when the request can be sent. Main
statements: `url_eq_ok_iff`, `prepare_eq_ok_iff`.
-/

set_option autoImplicit false

namespace WebhookClient

open Url

/-! ## The parts of a URL -/

namespace Url

variable {base u : Url}

theorem path?_appendQuery (u : Url) (pairs : List (String × String)) :
    (u.appendQuery pairs).path? = u.path? := by
  unfold appendQuery
  split_ifs <;> rfl

theorem appendSegments?_eq_some_iff {raws : List (List Char)} :
    base.appendSegments? raws = some u ↔
      ∃ path, base.path? = some path ∧
        u = { base with
          location := .segments (Path.pushSegments base.kind (Path.popIfEmpty path) raws) } := by
  rw [appendSegments?, Option.map_eq_some_iff]
  refine exists_congr fun path => and_congr_right fun _ => ?_
  exact eq_comm

end Url

namespace Request

variable {base u : Url} {r : Request}

/-- What the URL of a request is, if there is one. -/
theorem url_eq_ok_iff :
    r.url base = .ok u ↔
      (∀ ps ∈ Template.segments r.template, Template.IsAccepted r.pathParams ps) ∧
        ∃ path, base.path? = some path ∧
          u = { base with
            location := .segments (Path.pushSegments base.kind (Path.popIfEmpty path)
              ((Template.segments r.template).map (Template.fill r.pathParams))) }.appendQuery
                r.query := by
  rw [url, bind_eq_ok_iff]
  constructor
  · rintro ⟨raws, hraws, h⟩
    obtain ⟨hacc, rfl⟩ := Template.expand_eq_ok_iff.1 hraws
    refine ⟨hacc, ?_⟩
    cases hu : base.appendSegments?
        ((Template.segments r.template).map (Template.fill r.pathParams)) with
    | none =>
      rw [hu] at h
      cases h
    | some u' =>
      rw [hu] at h
      cases h
      obtain ⟨path, hpath, rfl⟩ := Url.appendSegments?_eq_some_iff.1 hu
      exact ⟨path, hpath, rfl⟩
  · rintro ⟨hacc, path, hpath, rfl⟩
    refine ⟨_, Template.expand_eq_ok_iff.2 ⟨hacc, rfl⟩, ?_⟩
    rw [Url.appendSegments?_eq_some_iff.2 ⟨path, hpath, rfl⟩]

/-- A request can be sent if it has a URL, headers and a body that can be written. -/
theorem prepare_eq_ok_iff {p : Prepared} :
    r.prepare base = .ok p ↔
      r.method = p.method ∧ r.url base = .ok p.url ∧ r.headers = .ok p.headers ∧
        r.bodyText = .ok p.body := by
  rw [prepare, bind_eq_ok_iff]
  constructor
  · rintro ⟨u, hu, h⟩
    obtain ⟨hs, hhs, h⟩ := bind_eq_ok_iff.1 h
    obtain ⟨b, hb, h⟩ := bind_eq_ok_iff.1 h
    cases h
    exact ⟨rfl, hu, hhs, hb⟩
  · rintro ⟨hm, hu, hhs, hb⟩
    refine ⟨_, hu, bind_eq_ok_iff.2 ⟨_, hhs, bind_eq_ok_iff.2 ⟨_, hb, ?_⟩⟩⟩
    rw [hm]

end Request

end WebhookClient
