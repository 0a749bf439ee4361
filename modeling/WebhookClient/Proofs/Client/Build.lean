import Mathlib
import WebhookClient.Client.Basic
import WebhookClient.Proofs.Url.Parser

/-!
# Clients that have been made

The server of a client is on the web. If the client has been made of settings its server has a
path, to which the segments of requests can be appended.
-/

set_option autoImplicit false

namespace WebhookClient.Client

/-- The schemes of servers are on the web. -/
theorem kind_of_isServerScheme {u : Url} (h : isServerScheme u.scheme = true) : u.kind = .web := by
  rw [isServerScheme, Bool.or_eq_true, decide_eq_true_eq, decide_eq_true_eq] at h
  unfold Url.kind
  obtain h | h := h
  · rw [h]
    decide
  · rw [h]
    decide

/-- The server of a client is on the web. -/
theorem kind_baseUrl (c : Client) : c.baseUrl.kind = .web :=
  kind_of_isServerScheme c.scheme_allowed

variable {idna : Url.Idna} {s : Settings} {c : Client}

/-- What a client has of its settings. -/
theorem fields_of_build (h : build idna s = .ok c) :
    Url.parse idna s.chosenServerUrl = .ok c.baseUrl ∧
      (∃ auth, authorization s.token = .ok auth ∧
        c.headers = baseHeaders auth s.defaultHeaders) ∧
      c.carrier = s.carrier.getD .standard ∧ c.retrySchedule = s.retrySchedule ∧
      c.timeout = s.timeout ∧ c.debug = s.debug := by
  unfold build at h
  split at h
  · split at h
    · cases h
    · next url hurl =>
      split at h
      · split at h
        · cases h
        · next auth hauth =>
          cases h
          exact ⟨hurl, ⟨auth, hauth, rfl⟩, rfl, rfl, rfl, rfl⟩
      · cases h
  · cases h

/-- A client has the server that its settings name. -/
theorem parse_of_build (h : build idna s = .ok c) :
    Url.parse idna s.chosenServerUrl = .ok c.baseUrl := (fields_of_build h).1

/-- The server of a client that has been made has a path. -/
theorem exists_path?_of_build (h : build idna s = .ok c) :
    ∃ path, c.baseUrl.path? = some path := by
  refine Url.exists_path?_of_parse (parse_of_build h) ?_
  rw [c.kind_baseUrl]
  decide

end WebhookClient.Client
