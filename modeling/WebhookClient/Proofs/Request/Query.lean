import Mathlib
import WebhookClient.Proofs.Client.Build
import WebhookClient.Proofs.Request.Fault
import WebhookClient.Proofs.Request.Requested
import WebhookClient.Proofs.Request.Steps

/-!
# The query of a request

The query of a server is kept, and the pairs that the steps of a request add are read off the URL
after those of the server, in their order. Main statement: `parse_query_ofSteps`.
-/

set_option autoImplicit false

namespace WebhookClient.Request

open Url

theorem query_of_url_eq_ok {r : Request} {base u : Url} (h : r.url base = .ok u) :
    u.query = longerQuery base.query r.query := by
  obtain ⟨-, path, -, rfl⟩ := url_eq_ok_iff.1 h
  exact Url.query_appendQuery _ _

/-- A request whose path can be filled in has a URL on any server of the web. Its query holds what
that of the server holds, and after this one pair for each value that the steps add. If they add
none, the query is that of the server. -/
theorem parse_query_ofSteps {idna : Idna} {text : String} {base : Url}
    (hbase : Url.parse idna text = .ok base)
    (hserver : isServerScheme base.scheme = true) (method : Method) (template : String)
    (steps : List Step) :
    ((∃ u, (ofSteps method template steps).url base = .ok u) ↔
        (ofSteps method template steps).IsFillable) ∧
      ∀ u, (ofSteps method template steps).url base = .ok u →
        Form.parse (u.query.getD []) =
            Form.parse (base.query.getD []) ++ steps.flatMap Step.pairs ∧
          (steps.flatMap Step.pairs = [] → u.query = base.query) := by
  have hpath : ∃ path, base.path? = some path := by
    refine exists_path?_of_parse hbase ?_
    rw [Client.kind_of_isServerScheme hserver]
    decide
  refine ⟨⟨fun ⟨u, hu⟩ => (url_eq_ok_iff.1 hu).1, exists_url_eq_ok hpath⟩, fun u hu => ?_⟩
  rw [query_of_url_eq_ok hu, query_ofSteps]
  exact ⟨parse_longerQuery _ _, fun hnone => if_pos hnone⟩

/-- Steps that add values of all kinds, and some that are not there. -/
def searchSteps : List Step :=
  [.query "q" (.text "a&b=c d"), .optionalQuery "none" none, .pathParam "app_id" "app_1",
    .queryList "t" (some [.text "+", .text "é", .int (-1)]), .queryList "e" (some []),
    .optionalQuery "q" (some (.flag true))]

/-- A server with a query of its own, and a fragment. -/
def searchedServer : Url :=
  ⟨"http".toList, [], [], some (.name "h"), none, .segments [[]], some "x=1&&y=%20".toList,
    some "f".toList⟩

theorem parse_searchedServer :
    Url.parse .plainNames "http://h?x=1&&y=%20#f" = .ok searchedServer := rfl

/-- The pairs stand after those of the server. -/
theorem parse_query_searchSteps :
    ∃ u, (ofSteps .get "/app/{app_id}" searchSteps).url searchedServer = .ok u ∧
      Form.parse (u.query.getD []) =
        [("x", "1"), ("y", " "), ("q", "a&b=c d"), ("t", "+"), ("t", "é"), ("t", "-1"),
          ("q", "true")] := by
  obtain ⟨hurl, hquery⟩ := parse_query_ofSteps parse_searchedServer rfl .get "/app/{app_id}"
    searchSteps
  obtain ⟨u, hu⟩ := hurl.2 (by decide)
  have hserver : Form.parse (searchedServer.query.getD []) = [("x", "1"), ("y", " ")] := by
    cbv
  refine ⟨u, hu, (hquery u hu).1.trans ?_⟩
  rw [hserver]
  rfl

end WebhookClient.Request
