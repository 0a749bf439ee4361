import Mathlib
import WebhookClient.Proofs.Except
import WebhookClient.Proofs.Url.Graphic
import WebhookClient.Proofs.Url.Parser
import WebhookClient.Proofs.Url.Text

/-!
# The text of a URL of the web

The text of a URL of the web consists of graphic characters, and its authority is read off it up to
the first character that ends one. Both stay so when segments and pairs are appended. Main
statements: `hasGraphicParts_of_parse`, `HasGraphicParts.appended`, `isGraphic_of_mem_toText` and
`authorityOf_toText`.
-/

set_option autoImplicit false

namespace WebhookClient.Url

/-! ## Parts -/

theorem path?_eq_some_iff {u : Url} {path : List (List Char)} :
    u.path? = some path ↔ u.location = .segments path := by
  unfold path?
  cases u.location <;> simp

/-- All parts of a URL with a host and a path are graphic, and user and host end no authority. -/
structure HasGraphicParts (u : Url) : Prop where
  scheme : ∀ c ∈ u.scheme, IsGraphic c ∧ c ≠ ':'
  user : ∀ c ∈ u.username ++ u.password, IsInner c
  host : ∃ h, u.host = some h ∧ ∀ c ∈ h.render, IsInner c
  path : ∃ path, u.path? = some path ∧ Path.IsGraphicPath path
  query : ∀ q, u.query = some q → ∀ c ∈ q, IsGraphic c
  fragment : ∀ f, u.fragment = some f → ∀ c ∈ f, IsGraphic c

theorem isGraphic_of_schemeKind {scheme : List Char} (h : schemeKind scheme = .web) :
    ∀ c ∈ scheme, IsGraphic c ∧ c ≠ ':' := by
  have hamong : isAmong ["http", "https", "ws", "wss", "ftp"] scheme = true := by
    unfold schemeKind at h
    split_ifs at h with hweb
    exact hweb
  obtain ⟨name, hname, hscheme⟩ := List.any_eq_true.1 hamong
  rw [← of_decide_eq_true hscheme]
  simp only [List.mem_cons, List.not_mem_nil, or_false] at hname
  rcases hname with rfl | rfl | rfl | rfl | rfl
  all_goals simp [IsGraphic]

theorem isInner_of_mem_readUser (cs : List Char) :
    ∀ c ∈ (readUser cs).1 ++ (readUser cs).2, IsInner c := by
  have hencode := Percent.forall_mem_encode (fun _ h => h) fun _ => Percent.isInner_of_userSet
  exact List.forall_mem_append.2 ⟨hencode _, hencode _⟩

theorem exists_parse_of_readHostAndPort {idna : Idna} {scheme cs rest : List Char} {host : Host}
    {port : Option Nat} (hkind : schemeKind scheme = .web)
    (h : readHostAndPort idna scheme cs = .ok (host, port, rest)) :
    ∃ text, Host.parse idna text = .ok host := by
  unfold readHostAndPort at h
  dsimp only at h
  rw [hkind] at h
  split at h
  · cases h
  · obtain ⟨parsed, hparsed, h⟩ := bind_eq_ok_iff.1 h
    refine ⟨_, hparsed.trans (congrArg _ ?_)⟩
    split at h
    · split at h
      · cases h
      · obtain ⟨⟨port, rest⟩, -, h⟩ := bind_eq_ok_iff.1 h
        cases h
        rfl
    · cases h
      rfl

theorem isGraphic_of_readQueryAndFragment (cs : List Char) :
    (∀ q, (readQueryAndFragment .web cs).1 = some q → ∀ c ∈ q, IsGraphic c) ∧
      ∀ f, (readQueryAndFragment .web cs).2 = some f → ∀ c ∈ f, IsGraphic c := by
  have hfragment := Percent.isGraphic_of_mem_encode fun _ => Percent.isGraphic_of_fragmentSet
  have hquery := Percent.isGraphic_of_mem_encode fun _ => Percent.isGraphic_of_specialQuerySet
  constructor
  · intro q hq
    unfold readQueryAndFragment at hq
    dsimp only at hq
    split at hq
    · cases hq
      exact hquery _
    · cases hq
  · intro f hf
    unfold readQueryAndFragment at hf
    dsimp only at hf
    -- The fragment is the same with and without a query.
    split at hf
    all_goals
      dsimp only at hf
      split at hf
      · cases hf
        exact hfragment _
      · cases hf

theorem hasGraphicParts_of_parse {idna : Idna} {s : String} {u : Url} (h : parse idna s = .ok u)
    (hkind : u.kind = .web) : u.HasGraphicParts := by
  obtain ⟨scheme, cs, hscheme, h⟩ := exists_readAuthority_of_parse h hkind
  obtain ⟨user, text, host, port, rest, hread, rfl⟩ := exists_of_readAuthority h
  obtain ⟨name, hname⟩ := exists_parse_of_readHostAndPort hscheme hread
  obtain ⟨hquery, hfragment⟩ := isGraphic_of_readQueryAndFragment (spanPath rest).2
  rw [← hscheme] at hquery hfragment
  refine
    { scheme := isGraphic_of_schemeKind hscheme
      user := isInner_of_mem_readUser user
      host := ⟨host, rfl, Host.isInner_of_parse hname⟩
      path := ⟨_, path?_withAuthority _ _ _ _ _ _, ?_⟩
      query := hquery
      fragment := hfragment }
  rw [hscheme]
  exact Path.isGraphicPath_read _

/-- Appending segments and pairs keeps the parts graphic. -/
theorem HasGraphicParts.appended {base : Url} (h : base.HasGraphicParts) (hkind : base.kind = .web)
    {path : List (List Char)} (hpath : base.path? = some path) (segments : List (List Char))
    (pairs : List (String × String)) :
    HasGraphicParts (appendQuery { base with
      location := .segments (Path.pushSegments base.kind (Path.popIfEmpty path) segments) }
        pairs) := by
  have hsegments : Path.IsGraphicPath
      (Path.pushSegments base.kind (Path.popIfEmpty path) segments) := by
    obtain ⟨path', hpath', hgraphic⟩ := h.path
    obtain rfl := Option.some.inj (hpath'.symm.trans hpath)
    rw [hkind]
    exact (Path.isGraphicPath_of_subset hgraphic (Path.popIfEmpty_subset _)).pushSegments segments
  have hquery : ∀ c ∈ base.query.getD [], IsGraphic c := by
    cases hq : base.query with
    | none => exact List.forall_mem_nil _
    | some q => exact h.query q hq
  unfold appendQuery
  split_ifs
  · exact ⟨h.scheme, h.user, h.host, ⟨_, rfl, hsegments⟩, h.query, h.fragment⟩
  · refine ⟨h.scheme, h.user, h.host, ⟨_, rfl, hsegments⟩, fun q hq => ?_, h.fragment⟩
    cases hq
    exact Form.isGraphic_of_mem_append hquery pairs

/-! ## Texts -/

/-- What stands between the two slashes after the scheme in a text and the character that ends
it. -/
def authorityOf (text : String) : List Char :=
  ((text.toList.dropWhile (· ≠ ':')).drop 3).takeWhile fun c => !endsAuthority .web c

/-- The text of a URL from its path on. -/
def afterAuthority (u : Url) : List Char := u.renderLocation ++ u.renderQuery ++ u.renderFragment

theorem isInner_of_mem_renderUser {u : Url} (h : u.HasGraphicParts) :
    ∀ c ∈ u.renderUser, IsInner c := by
  obtain ⟨hname, hpassword⟩ := List.forall_mem_append.1 h.user
  have hat : ∀ c ∈ ['@'], IsInner c := List.forall_mem_singleton.2 (by decide)
  unfold renderUser
  split_ifs
  · exact List.forall_mem_nil _
  · rw [List.append_nil]
    exact List.forall_mem_append.2 ⟨hname, hat⟩
  · exact List.forall_mem_append.2
      ⟨List.forall_mem_append.2 ⟨hname, List.forall_mem_cons.2 ⟨by decide, hpassword⟩⟩, hat⟩

theorem isInner_of_mem_renderHost (u : Url) {host : Host} (h : ∀ c ∈ host.render, IsInner c) :
    ∀ c ∈ u.renderHost host, IsInner c := by
  refine List.forall_mem_append.2 ⟨h, ?_⟩
  split
  · exact List.forall_mem_cons.2
      ⟨by decide, fun c hc => isInner_of_isDigit (Decimal.isDigit_of_mem_digits hc)⟩
  · exact List.forall_mem_nil _

theorem toList_toText {u : Url} {host : Host} (h : u.host = some host) :
    u.toText.toList =
      u.scheme ++ ':' :: '/' :: '/' :: (u.renderUser ++ u.renderHost host ++ u.afterAuthority) := by
  rw [toText, String.toList_ofList, render, h, afterAuthority]
  simp only [List.append_assoc, List.cons_append]

/-- All characters of the authority end no authority. -/
theorem isInner_of_mem_authority {u : Url} {host : Host} (h : u.HasGraphicParts)
    (hhost : u.host = some host) : ∀ c ∈ u.renderUser ++ u.renderHost host, IsInner c := by
  obtain ⟨host', hhost', hinner⟩ := h.host
  obtain rfl := Option.some.inj (hhost'.symm.trans hhost)
  exact List.forall_mem_append.2
    ⟨isInner_of_mem_renderUser h, isInner_of_mem_renderHost u hinner⟩

theorem renderLocation_eq {u : Url} {host : Host} (hhost : u.host = some host)
    {path : List (List Char)} (hpath : u.path? = some path) :
    u.renderLocation = Path.render path := by
  rw [renderLocation_of_segments (path?_eq_some_iff.1 hpath), hhost]
  match path with
  | [] => rfl
  | [[]] => rfl
  | [] :: _ :: _ => rfl
  | (_ :: _) :: _ => rfl

/-- What follows the authority begins with a character that ends it. -/
theorem takeWhile_afterAuthority {u : Url} (h : u.HasGraphicParts) :
    u.afterAuthority.takeWhile (fun c => !endsAuthority .web c) = [] := by
  obtain ⟨host, hhost, -⟩ := h.host
  obtain ⟨path, hpath, -⟩ := h.path
  rw [afterAuthority, renderLocation_eq hhost hpath]
  cases path with
  | cons s path => rfl
  | nil =>
    unfold renderQuery renderFragment
    cases u.query with
    | some q => rfl
    | none => cases u.fragment <;> rfl

theorem isGraphic_of_mem_toText {u : Url} (h : u.HasGraphicParts) :
    ∀ c ∈ u.toText.toList, IsGraphic c := by
  obtain ⟨host, hhost, -⟩ := h.host
  obtain ⟨path, hpath, hgraphic⟩ := h.path
  have hquery : ∀ c ∈ u.renderQuery, IsGraphic c := by
    unfold renderQuery
    split
    · next q hq => exact List.forall_mem_cons.2 ⟨by decide, h.query q hq⟩
    · exact List.forall_mem_nil _
  have hfragment : ∀ c ∈ u.renderFragment, IsGraphic c := by
    unfold renderFragment
    split
    · next f hf => exact List.forall_mem_cons.2 ⟨by decide, h.fragment f hf⟩
    · exact List.forall_mem_nil _
  have hafter : ∀ c ∈ u.afterAuthority, IsGraphic c := by
    rw [afterAuthority, renderLocation_eq hhost hpath]
    exact List.forall_mem_append.2
      ⟨List.forall_mem_append.2 ⟨hgraphic.render, hquery⟩, hfragment⟩
  have hauthority : ∀ c ∈ u.renderUser ++ u.renderHost host, IsGraphic c := fun c hc =>
    (isInner_of_mem_authority h hhost c hc).1
  rw [toList_toText hhost]
  refine List.forall_mem_append.2 ⟨fun c hc => (h.scheme c hc).1, ?_⟩
  simp only [List.forall_mem_cons]
  exact ⟨by decide, by decide, by decide, List.forall_mem_append.2 ⟨hauthority, hafter⟩⟩

/-- The authority is read off the text. -/
theorem authorityOf_toText {u : Url} {host : Host} (h : u.HasGraphicParts)
    (hhost : u.host = some host) : authorityOf u.toText = u.renderUser ++ u.renderHost host := by
  have hscheme : ∀ c ∈ u.scheme, decide (c ≠ ':') = true := fun c hc =>
    decide_eq_true (h.scheme c hc).2
  have hinner : ∀ c ∈ u.renderUser ++ u.renderHost host, (!endsAuthority .web c) = true := by
    intro c hc
    rw [(isInner_of_mem_authority h hhost c hc).2]
    rfl
  have hdrop : ((u.scheme ++ ':' :: '/' :: '/' ::
      (u.renderUser ++ u.renderHost host ++ u.afterAuthority)).dropWhile (· ≠ ':')).drop 3 =
      u.renderUser ++ u.renderHost host ++ u.afterAuthority := by
    rw [List.dropWhile_append_of_pos hscheme]
    simp
  rw [authorityOf, toList_toText hhost, hdrop, List.takeWhile_append_of_pos hinner,
    takeWhile_afterAuthority h, List.append_nil]

end WebhookClient.Url
