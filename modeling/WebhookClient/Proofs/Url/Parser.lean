import Mathlib
import WebhookClient.Proofs.Except
import WebhookClient.Proofs.Text.Utf8
import WebhookClient.Url.Parser

/-!
# What parsed URLs are made of

A parsed URL has an authority wherever two slashes are written and wherever its scheme is one of
the web, and a root if it is one of files; it has segments after both. Only what follows another
scheme without an authority may be a text without segments, to which none can be appended. Main
statements: `exists_readAuthority_of_parse`, `exists_path?_of_parse`.
-/

set_option autoImplicit false

namespace WebhookClient.Url

variable {idna : Idna} {u : Url}

/-! ## Names -/

namespace Host

/-- The bytes of a name are read as UTF-8. -/
theorem nameText_eq_decode (bs : List UInt8) : nameText bs = Utf8.decode bs := by
  unfold nameText
  split
  · next hascii =>
    rw [List.all_eq_true] at hascii
    exact (Utf8.decode_of_lt fun b hb => of_decide_eq_true (hascii b hb)).symm
  · rfl

/-- Plain names are read alike, however others are put into ASCII. -/
theorem parse_eq_of_isPlain {cs : List Char} (h : isPlain (nameText (Percent.decode cs)) = true) :
    parse idna cs = parse .plainNames cs := by
  unfold parse
  rw [idna.plain _ h, Idna.plainNames.plain _ h]

end Host

/-- So is a URL that is nothing but a scheme and a plain name. -/
theorem parse_eq_of_isPlain {scheme : List Char} {s : String} (host : List Char)
    (hs : ∀ idna, parse idna s = ((Host.parse idna host >>= fun h => .ok (h, none, [])) >>= fun r =>
      .ok (withAuthority scheme [] [] r.1 r.2.1 r.2.2)))
    (h : Host.isPlain (Host.nameText (Percent.decode host)) = true) :
    parse idna s = parse .plainNames s := by
  rw [hs, hs, Host.parse_eq_of_isPlain h]

/-! ## Authorities and roots -/

theorem path?_withAuthority (scheme username password : List Char) (host : Host)
    (port : Option Nat) (cs : List Char) :
    (withAuthority scheme username password host port cs).path? =
      some (Path.read (schemeKind scheme) (spanPath cs).1) :=
  rfl

theorem path?_withRoot (host : Host) (cs : List Char) :
    (withRoot host cs).path? = some (Path.readFile (spanPath cs).1) :=
  rfl

/-- What is read after two slashes: a user, who may have no name, a host and a port, and what
follows them. -/
theorem exists_of_readAuthority {scheme cs : List Char} (h : readAuthority idna scheme cs = .ok u) :
    ∃ user text host port rest, readHostAndPort idna scheme text = .ok (host, port, rest) ∧
      u = withAuthority scheme (readUser user).1 (readUser user).2 host port rest := by
  unfold readAuthority at h
  dsimp only at h
  split at h
  · obtain ⟨⟨host, port, rest⟩, hread, h⟩ := bind_eq_ok_iff.1 h
    cases h
    exact ⟨[], cs, host, port, rest, hread, rfl⟩
  · next user after _ =>
    split at h
    · cases h
    · obtain ⟨⟨host, port, rest⟩, hread, h⟩ := bind_eq_ok_iff.1 h
      dsimp only at h
      -- A user without a host is refused.
      split at h
      · cases h
      · cases h
        exact ⟨user, _, host, port, rest, hread, rfl⟩

/-- The URL of a file is always one with a root. -/
theorem exists_of_readFile {cs : List Char} (h : readFile idna cs = .ok u) :
    ∃ host rest, u = withRoot host rest := by
  have hroot (host : Host) (rest : List Char) (h : .ok (withRoot host rest) =
      (.ok u : Except ParseError Url)) : ∃ host rest, u = withRoot host rest := by
    cases h
    exact ⟨host, rest, rfl⟩
  unfold readFile at h
  dsimp only at h
  split at h
  · split at h
    · split at h
      · exact hroot _ _ h
      · obtain ⟨host, -, h⟩ := bind_eq_ok_iff.1 h
        split at h
        · exact hroot _ _ h
        · exact hroot _ _ h
    · exact hroot _ _ h
  · exact hroot _ _ h

/-! ## Parsed URLs -/

/-- A URL of the web has an authority. -/
theorem exists_readAuthority_of_parse {s : String} (h : parse idna s = .ok u)
    (hkind : u.kind = .web) :
    ∃ scheme cs, schemeKind scheme = .web ∧ readAuthority idna scheme cs = .ok u := by
  unfold parse at h
  dsimp only at h
  split at h
  · cases h
  · next scheme rest _ =>
    split at h
    · obtain ⟨host, rest, rfl⟩ := exists_of_readFile h
      have hfile : (withRoot host rest).kind = .file := rfl
      exact absurd (hfile.symm.trans hkind) (by decide)
    · next hweb => exact ⟨scheme, _, hweb, h⟩
    · next hother =>
      -- Whatever follows, the URL keeps its scheme, which is of another kind.
      split at h
      · obtain ⟨user, text, host, port, rest, -, rfl⟩ := exists_of_readAuthority h
        exact absurd (hother.symm.trans hkind) (by decide)
      · cases h
        exact absurd (hother.symm.trans hkind) (by decide)

/-- A URL of the web or of a file has a path. -/
theorem exists_path?_of_parse {s : String} (h : parse idna s = .ok u) (hkind : u.kind ≠ .other) :
    ∃ path, u.path? = some path := by
  have hauthority : ∀ {scheme cs}, readAuthority idna scheme cs = .ok u →
      ∃ path, u.path? = some path := by
    intro scheme cs h
    obtain ⟨user, text, host, port, rest, -, rfl⟩ := exists_of_readAuthority h
    exact ⟨_, path?_withAuthority _ _ _ _ _ _⟩
  unfold parse at h
  dsimp only at h
  split at h
  · cases h
  · next scheme rest _ =>
    split at h
    · obtain ⟨host, rest, rfl⟩ := exists_of_readFile h
      exact ⟨_, path?_withRoot host rest⟩
    · exact hauthority h
    · next hother =>
      split at h
      · exact hauthority h
      · -- Without an authority the URL keeps its scheme, which is of another kind.
        cases h
        exact absurd hother hkind

end WebhookClient.Url
