import Mathlib
import WebhookClient.Proofs.Call.Sent
import WebhookClient.Proofs.Client.Steps
import WebhookClient.Proofs.Request.Headers
import WebhookClient.Proofs.Text.Utf8
import WebhookClient.Proofs.Url.Authority

/-!
# No input leaves its place

Whatever the template, the values of the path, the query and the headers of a request are, it goes
to the server of the client, its URL is written in graphic characters, and no name and no value of a
header has a byte that ends a line. Main statement: `confined_of_build`.
-/

set_option autoImplicit false

namespace WebhookClient

/-! ## Headers on one line -/

namespace Header

/-- No byte of a text is a carriage return, a line feed or a null. -/
def IsOneLine (s : String) : Prop := ∀ b ∈ Utf8.encode s.toList, b ≠ 0x0D ∧ b ≠ 0x0A ∧ b ≠ 0x00

/-- A text of characters of a kind stands on one line if the characters that end one are of
another kind. -/
theorem isOneLine_of_all {p : Char → Bool} {s : String} (h : ∀ c ∈ s.toList, p c = true)
    (hends : p '\r' = false ∧ p '\n' = false ∧ p '\x00' = false) : IsOneLine s := by
  intro b hb
  obtain ⟨c, hc, hbyte⟩ := Utf8.exists_of_mem_encode hb
  -- A byte in ASCII is a character of the text.
  have key : ∀ d : Char, d.toNat < 0x80 → p d = false → b ≠ UInt8.ofNat d.toNat := by
    rintro d hlt hd rfl
    rw [UInt8.toNat_ofNat'] at hbyte
    obtain rfl : c = d := Char.toNat_inj.1 (by omega)
    rw [h c hc] at hd
    cases hd
  exact ⟨key '\r' (by decide) hends.1, key '\n' (by decide) hends.2.1,
    key '\x00' (by decide) hends.2.2⟩

theorem isOneLine_of_isValue {s : String} (h : isValue s.toList = true) : IsOneLine s :=
  isOneLine_of_all (List.all_eq_true.1 h) (by decide)

theorem isOneLine_of_isName {s : String} (h : isName s.toList = true) : IsOneLine s := by
  rw [isName, Bool.and_eq_true, List.all_eq_true] at h
  exact isOneLine_of_all h.2 (by decide)

theorem isOneLine_of_isSpelt {name : HeaderName} {s : String} (h : name.IsSpelt s) :
    IsOneLine s := by
  have hvalid := name.valid
  rw [← h, isName, Bool.and_eq_true, List.all_eq_true, List.forall_mem_map] at hvalid
  exact isOneLine_of_all (p := fun c => isNameChar c.toLower) hvalid.2 (by decide)

theorem isOneLine_of_line (l : HeaderName × HeaderValue) :
    IsOneLine l.1.text ∧ IsOneLine l.2.text :=
  ⟨isOneLine_of_isName l.1.valid, isOneLine_of_isValue l.2.valid⟩

theorem IsRead.isOneLine {g : String × String} {l : HeaderName × HeaderValue} (h : IsRead g l) :
    IsOneLine g.1 ∧ IsOneLine g.2 := by
  refine ⟨isOneLine_of_isSpelt (HeaderName.ofText_eq_ok_iff.1 h.1), ?_⟩
  rw [← HeaderValue.text_of_ofText h.2]
  exact isOneLine_of_isValue l.2.valid

theorem isOneLine_of_forall₂ {given : List (String × String)}
    {lines : List (HeaderName × HeaderValue)} (h : List.Forall₂ IsRead given lines) :
    ∀ g ∈ given, IsOneLine g.1 ∧ IsOneLine g.2 := by
  induction h with
  | nil => exact List.forall_mem_nil _
  | cons hread _ ih => exact List.forall_mem_cons.2 ⟨hread.isOneLine, ih⟩

end Header

open Header Url

/-! ## The server of a URL -/

/-- Two URLs differ in path and query only. -/
structure Url.SameServer (u v : Url) : Prop where
  scheme : u.scheme = v.scheme
  username : u.username = v.username
  password : u.password = v.password
  host : u.host = v.host
  port : u.port = v.port
  fragment : u.fragment = v.fragment

theorem Url.SameServer.renderUser {u v : Url} (h : u.SameServer v) :
    u.renderUser = v.renderUser := by
  rw [Url.renderUser, h.username, h.password, Url.renderUser]

theorem Url.SameServer.renderHost {u v : Url} (h : u.SameServer v) (host : Host) :
    u.renderHost host = v.renderHost host := by
  rw [Url.renderHost, h.port, Url.renderHost]

theorem Url.sameServer_appendQuery (u : Url) (pairs : List (String × String)) :
    (u.appendQuery pairs).SameServer u := by
  unfold appendQuery
  split_ifs <;> exact ⟨rfl, rfl, rfl, rfl, rfl, rfl⟩

/-- The URL of a request has the server of the URL that it is built on, and its parts are as graphic
as those. -/
theorem Request.sameServer_of_url_eq_ok {r : Request} {base u : Url} (h : r.url base = .ok u)
    (hkind : base.kind = .web) (hbase : base.HasGraphicParts) :
    u.SameServer base ∧ u.HasGraphicParts := by
  obtain ⟨-, path, hpath, rfl⟩ := url_eq_ok_iff.1 h
  obtain ⟨hscheme, hname, hpassword, hhost, hport, hfragment⟩ := Url.sameServer_appendQuery
    { base with
      location := .segments (Path.pushSegments base.kind (Path.popIfEmpty path)
        ((Template.segments r.template).map (Template.fill r.pathParams))) } r.query
  exact ⟨⟨hscheme, hname, hpassword, hhost, hport, hfragment⟩, hbase.appended hkind hpath _ _⟩

namespace Client

variable {α : Type} [Json.Wire α] {token : String} {o : Options} {steps : List Settings.Step}
  {idna : Url.Idna} {settings : Settings} {c : Client}

/-- The token that a client presents stands on one line. -/
theorem isOneLine_of_authorization {auth : HeaderValue} (h : authorization token = .ok auth) :
    IsOneLine token := by
  have hvalue : IsOneLine ("Bearer " ++ token) := by
    rw [← HeaderValue.text_of_ofText h]
    exact isOneLine_of_isValue auth.valid
  intro b hb
  refine hvalue b ?_
  rw [String.toList_append, Utf8.encode, List.flatMap_append]
  exact List.mem_append_right _ hb

/-- No request of a client that has been made leads elsewhere: its URL has the server of the client,
both in its parts and in the authority that is read off its text, and consists of graphic bytes.
And no byte of a header ends a line, be the header given by the settings or by the request, be it
the one with the token, or whatever an attempt sends. -/
theorem confined_of_build (hsteps : Settings.ofSteps token o steps = .ok settings)
    (hc : build idna settings = .ok c) (request : Request) :
    (∀ u, request.url c.baseUrl = .ok u →
      u.SameServer c.baseUrl ∧
        (∃ host, c.baseUrl.host = some host ∧
          authorityOf u.toText = c.baseUrl.renderUser ++ c.baseUrl.renderHost host) ∧
        ∀ b ∈ Utf8.encode u.toText.toList, 0x21 ≤ b ∧ b ≤ 0x7E) ∧
      IsOneLine token ∧
      (∀ g ∈ Settings.givenHeaders steps, IsOneLine g.1 ∧ IsOneLine g.2) ∧
      (∀ hs, request.headers = .ok hs →
        ∀ g ∈ request.headerParams.entries, IsOneLine g.1 ∧ IsOneLine g.2) ∧
      ∀ s, ∀ a ∈ (c.call request s : Call α).attempts,
        request.url c.baseUrl = .ok a.sent.url ∧
          ∀ l ∈ a.sent.headers.lines, IsOneLine l.1.text ∧ IsOneLine l.2.text := by
  obtain ⟨rfl, lines, hread, -⟩ := Settings.ofSteps_eq_ok hsteps
  obtain ⟨auth, hauth, -⟩ := headers_of_build hc
  have hbase := hasGraphicParts_of_parse (parse_of_build hc) c.kind_baseUrl
  refine ⟨fun u hu => ?_, isOneLine_of_authorization hauth, isOneLine_of_forall₂ hread,
    fun hs hhs => ?_, fun s a ha => ?_⟩
  · obtain ⟨hsame, hparts⟩ := Request.sameServer_of_url_eq_ok hu c.kind_baseUrl hbase
    obtain ⟨host, hhost, -⟩ := hbase.host
    refine ⟨hsame, ⟨host, hhost, ?_⟩, forall_mem_utf8_of_isGraphic (isGraphic_of_mem_toText hparts)⟩
    rw [authorityOf_toText hparts (hsame.host.trans hhost), hsame.renderUser, hsame.renderHost]
  · obtain ⟨lines', hread', -⟩ := Request.headers_eq_ok_iff.1 hhs
    exact isOneLine_of_forall₂ hread'
  · obtain ⟨p, retry, hp, hsent⟩ := exists_of_mem_attempts ha
    refine ⟨?_, fun l _ => isOneLine_of_line l⟩
    rw [hsent]
    exact (Request.prepare_eq_ok_iff.1 hp).2.1

/-- A server with a user, a port, a query and a fragment. -/
def guardedUrl : Url :=
  ⟨"https".toList, "u".toList, "p".toList, some (.name "h"), some 8, .segments ["x".toList],
    some "q=1".toList, some "f".toList⟩

def guardedOptions : Options := 
  ⟨some "https://u:p@h:8/x?q=1#f", none, none, none, false⟩

/-- The settings of `guardedUrl` with a default header. -/
def guardedSettings : Settings :=
  { Settings.ofOptions "testsk" guardedOptions with
    defaultHeaders := ⟨[(⟨"x-origin", by decide⟩, ⟨"é", by decide⟩)]⟩ }

/-- The client of `guardedSettings`. -/
def guardedClient : Client :=
  { testClient with
    baseUrl := guardedUrl
    headers := testClient.headers.setAll guardedSettings.defaultHeaders
    scheme_allowed := rfl }

theorem ofSteps_guardedSettings :
    Settings.ofSteps "testsk" guardedOptions [.defaultHeader "X-Origin" "é"] =
      .ok guardedSettings := rfl

theorem build_guardedSettings : build .plainNames guardedSettings = .ok guardedClient := rfl

/-- A request whose values hold marks of URLs and line breaks. -/
def strayRequest : Request :=
  Request.ofSteps .post "/app/{app_id}"
    [.pathParam "app_id" "/../..@evil:1\\?#\r\n", .query "i" (.text "\r\n#&@é"),
      .idempotencyKey (some "k")]

/-- Such a request goes to the server of the client all the same. -/
theorem confined_strayRequest :
    ∃ a ∈ (guardedClient.call strayRequest unavailableOnce : Call Json).attempts,
      authorityOf a.sent.url.toText = "u:p@h:8".toList ∧
        (∀ b ∈ Utf8.encode a.sent.url.toText.toList, 0x21 ≤ b ∧ b ≤ 0x7E) ∧
        (∀ l ∈ a.sent.headers.lines, IsOneLine l.1.text ∧ IsOneLine l.2.text) ∧
        IsOneLine "testsk" ∧ IsOneLine "é" := by
  obtain ⟨hurl, htoken, hdefaults, -, hsent⟩ := confined_of_build (α := Json)
    ofSteps_guardedSettings build_guardedSettings strayRequest
  have hpath : ∃ path, guardedClient.baseUrl.path? = some path := ⟨_, rfl⟩
  obtain ⟨p, hp⟩ := Request.exists_prepare_eq_ok (r := strayRequest) hpath (by decide)
    (by decide) fun e he => nomatch he
  obtain ⟨a, ha, -⟩ := exists_mem_attempts (α := Json) (s := unavailableOnce) hp
  obtain ⟨hu, hlines⟩ := hsent unavailableOnce a ha
  obtain ⟨-, ⟨host, hhost, hauthority⟩, hbytes⟩ := hurl _ hu
  obtain rfl : .name "h" = host := Option.some.inj hhost
  exact ⟨a, ha, hauthority.trans rfl, hbytes, hlines, htoken,
    (hdefaults _ List.mem_cons_self).2⟩

end Client

end WebhookClient
