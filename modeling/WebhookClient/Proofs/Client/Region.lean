import Mathlib
import WebhookClient.Proofs.Client.Build
import WebhookClient.Proofs.Client.Default

/-!
# The server of a token

A token belongs to the server of a region if the name of the region follows its last dot, or is
all of it. Main statement: `serverUrlOfToken_eq_iff`.
-/

set_option autoImplicit false

namespace WebhookClient

namespace Region

/-! ## After the last dot -/

theorem toList_lastPart (token : String) :
    (lastPart token).toList = (token.toList.reverse.takeWhile (· ≠ '.')).reverse :=
  String.toList_ofList

theorem lastPart_of_not_mem {token : String} (h : '.' ∉ token.toList) : lastPart token = token := by
  refine String.toList_injective ?_
  rw [toList_lastPart, List.takeWhile_eq_self_iff.2, List.reverse_reverse]
  intro c hc
  refine decide_eq_true ?_
  rintro rfl
  exact h (List.mem_reverse.1 hc)

theorem lastPart_append_dot {front part : String} (h : '.' ∉ part.toList) :
    lastPart (front ++ "." ++ part) = part := by
  have hpart : ∀ c ∈ part.toList.reverse, decide (c ≠ '.') = true := by
    intro c hc
    refine decide_eq_true ?_
    rintro rfl
    exact h (List.mem_reverse.1 hc)
  have hreverse : (front ++ "." ++ part).toList.reverse =
      part.toList.reverse ++ '.' :: front.toList.reverse := by
    simp
  refine String.toList_injective ?_
  rw [toList_lastPart, hreverse, List.takeWhile_append_of_pos hpart]
  simp

/-- A token is what follows its last dot, or has that after a dot. -/
theorem eq_or_exists_of_lastPart (token : String) :
    token = lastPart token ∨ ∃ front, token = front ++ "." ++ lastPart token := by
  have hsplit := List.takeWhile_append_dropWhile (p := (· ≠ '.')) (l := token.toList.reverse)
  cases hrest : token.toList.reverse.dropWhile (· ≠ '.') with
  | nil =>
    refine .inl (String.toList_injective ?_)
    rw [hrest, List.append_nil] at hsplit
    rw [toList_lastPart, hsplit, List.reverse_reverse]
  | cons c cs =>
    -- The first character that is dropped is the dot.
    have hdot : c = '.' := by
      have hhead := List.head?_dropWhile_not (p := (· ≠ '.')) token.toList.reverse
      rw [hrest] at hhead
      simpa using hhead
    refine .inr ⟨String.ofList cs.reverse, String.toList_injective ?_⟩
    rw [hrest, hdot] at hsplit
    have hreverse := congrArg List.reverse hsplit
    rw [List.reverse_reverse, List.reverse_append, List.reverse_cons] at hreverse
    simp only [String.toList_append, String.toList_ofList, toList_lastPart]
    exact hreverse.symm

theorem lastPart_eq_iff {token part : String} (h : '.' ∉ part.toList) :
    lastPart token = part ↔ token = part ∨ ∃ front, token = front ++ "." ++ part := by
  constructor
  · rintro rfl
    exact eq_or_exists_of_lastPart token
  · rintro (rfl | ⟨front, rfl⟩)
    · exact lastPart_of_not_mem h
    · exact lastPart_append_dot h

/-! ## Regions -/

/-- The name of a region has no dot. -/
theorem not_mem_name (r : Region) : '.' ∉ (Json.Named.name r).toList := by
  cases r <;> decide

theorem ofToken?_eq_some_iff {token : String} {r : Region} :
    ofToken? token = some r ↔ lastPart token = Json.Named.name r := by
  constructor
  · intro h
    exact (Json.Named.name_of_ofName? h).symm
  · intro h
    unfold ofToken?
    rw [h, Json.Named.ofName?_name]

theorem serverUrl_injective {r s : Region} (h : r.serverUrl = s.serverUrl) : r = s := by
  revert h
  cases r <;> cases s <;> decide

theorem serverUrl_ne_default (r : Region) : r.serverUrl ≠ defaultServerUrl := by
  cases r <;> decide

/-- A token names a region if it is the name, or ends in it after a dot. -/
def IsNamedBy (r : Region) (token : String) : Prop :=
  token = Json.Named.name r ∨ ∃ front, token = front ++ "." ++ Json.Named.name r

theorem ofToken?_eq_some_iff_isNamedBy {token : String} {r : Region} :
    ofToken? token = some r ↔ r.IsNamedBy token := by
  rw [ofToken?_eq_some_iff, lastPart_eq_iff r.not_mem_name]
  rfl

end Region

theorem serverUrlOfToken_of_some {token : String} {r : Region}
    (h : Region.ofToken? token = some r) :
    serverUrlOfToken token = r.serverUrl := by
  rw [serverUrlOfToken, h]

theorem serverUrlOfToken_of_none {token : String} (h : Region.ofToken? token = none) :
    serverUrlOfToken token = Region.defaultServerUrl := by
  rw [serverUrlOfToken, h]

/-! ## The server of a client -/

/-- The host of the server of a region is a plain name. -/
theorem Region.parse_serverUrl (r : Region) (idna : Url.Idna) :
    Url.parse idna r.serverUrl = Url.parse .plainNames r.serverUrl := by
  cases r with
  | us => exact Url.parse_eq_of_isPlain "api.us.svix.com".toList (fun _ => rfl) rfl
  | eu => exact Url.parse_eq_of_isPlain "api.eu.svix.com".toList (fun _ => rfl) rfl
  | india => exact Url.parse_eq_of_isPlain "api.in.svix.com".toList (fun _ => rfl) rfl

/-- The server of a token is a URL whose path is empty. -/
theorem exists_parse_serverUrlOfToken (idna : Url.Idna) (token : String) :
    ∃ u, Url.parse idna (serverUrlOfToken token) = .ok u ∧
      u.toText = serverUrlOfToken token ++ "/" := by
  cases h : Region.ofToken? token with
  | none =>
    rw [serverUrlOfToken_of_none h]
    exact ⟨_, Client.parse_defaultServerUrl, rfl⟩
  | some r =>
    rw [serverUrlOfToken_of_some h, r.parse_serverUrl]
    cases r <;> exact ⟨_, rfl, rfl⟩

/-- The server of a token is that of a region just if the token names the region, and the default
one just if it names none. A client without a server of its own has that of its token. -/
theorem serverUrlOfToken_eq_iff (token : String) :
    (∀ r : Region, serverUrlOfToken token = r.serverUrl ↔ r.IsNamedBy token) ∧
    (serverUrlOfToken token = Region.defaultServerUrl ↔ ∀ r : Region, ¬ r.IsNamedBy token) ∧
    ∀ (idna : Url.Idna) (s : Settings) (c : Client), Client.build idna s = .ok c →
      s.token = token → s.serverUrl = none →
        Url.parse idna (serverUrlOfToken token) = .ok c.baseUrl ∧
        c.baseUrl.toText = serverUrlOfToken token ++ "/" := by
  refine ⟨fun r => ?_, ?_, ?_⟩
  · rw [← Region.ofToken?_eq_some_iff_isNamedBy]
    constructor
    · intro h
      cases hregion : Region.ofToken? token with
      | none =>
        rw [serverUrlOfToken_of_none hregion] at h
        exact absurd h.symm r.serverUrl_ne_default
      | some r' =>
        rw [serverUrlOfToken_of_some hregion] at h
        rw [Region.serverUrl_injective h]
    · exact serverUrlOfToken_of_some
  · constructor
    · intro h r hr
      rw [serverUrlOfToken_of_some (Region.ofToken?_eq_some_iff_isNamedBy.2 hr)] at h
      exact r.serverUrl_ne_default h
    · intro h
      refine serverUrlOfToken_of_none (Option.eq_none_iff_forall_ne_some.2 fun r hr => ?_)
      exact h r (Region.ofToken?_eq_some_iff_isNamedBy.1 hr)
  · rintro idna s c hc rfl hurl
    have hparse : Url.parse idna (serverUrlOfToken s.token) = .ok c.baseUrl := by
      have hchosen : s.chosenServerUrl = serverUrlOfToken s.token := by
        rw [Settings.chosenServerUrl, hurl]
        rfl
      rw [← hchosen]
      exact Client.parse_of_build hc
    obtain ⟨u, hu, htext⟩ := exists_parse_serverUrlOfToken idna s.token
    rw [hparse, Except.ok.injEq] at hu
    exact ⟨hparse, hu ▸ htext⟩

/-- The client of a token that names no region has the default server. -/
theorem parse_serverUrlOfToken_testsk :
    Client.build .plainNames (.ofToken "testsk") = .ok Client.testClient ∧
      Url.parse .plainNames (serverUrlOfToken "testsk") = .ok Client.testClient.baseUrl :=
  ⟨Client.build_testsk,
    ((serverUrlOfToken_eq_iff "testsk").2.2 _ _ _ Client.build_testsk rfl rfl).1⟩

/-- A token that is nothing but the name of a region has no dot, and yet belongs to the server of
the region. -/
theorem not_forall_serverUrlOfToken_eq_iff_exists :
    ¬ ∀ (token : String) (r : Region),
      serverUrlOfToken token = r.serverUrl ↔
        ∃ front, token = front ++ "." ++ Json.Named.name r := by
  intro hall
  obtain ⟨front, h⟩ := (hall "eu" .eu).1 rfl
  -- The token would have a dot.
  have hdot : '.' ∈ "eu".toList := by
    rw [h]
    simp
  exact absurd hdot (by decide)

end WebhookClient
