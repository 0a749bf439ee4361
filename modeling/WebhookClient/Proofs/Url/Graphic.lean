import Mathlib
import WebhookClient.Proofs.Text.Utf8
import WebhookClient.Url.Parser

/-!
# Graphic characters

The characters of a URL are graphic: they are in ASCII, and none of them is a space or a control.
Percent encodings are, and so are hosts of the web, paths with all that is appended to them, and
queries with all that is appended to those. No character of a user or a host ends an authority
either (`IsInner`).
-/

set_option autoImplicit false

namespace WebhookClient.Url

/-! ## Characters -/

/-- A character of ASCII that is neither a space nor a control. -/
def IsGraphic (c : Char) : Prop := 0x21 ≤ c.toNat ∧ c.toNat ≤ 0x7E

instance : DecidablePred IsGraphic := fun _ => inferInstanceAs (Decidable (_ ∧ _))

/-- A graphic character that does not end the authority of a URL of the web. -/
def IsInner (c : Char) : Prop := IsGraphic c ∧ endsAuthority .web c = false

instance : DecidablePred IsInner := fun _ => inferInstanceAs (Decidable (_ ∧ _))

variable {c : Char}

theorem isInner_iff : IsInner c ↔ IsGraphic c ∧ c ≠ '/' ∧ c ≠ '?' ∧ c ≠ '#' ∧ c ≠ '\\' := by
  simp [IsInner, endsAuthority, SchemeKind.isSpecial, and_assoc]

/-- The bytes of graphic characters are these characters. -/
theorem forall_mem_utf8_of_isGraphic {cs : List Char} (h : ∀ c ∈ cs, IsGraphic c) :
    ∀ b ∈ Utf8.encode cs, 0x21 ≤ b ∧ b ≤ 0x7E := by
  intro b hb
  obtain ⟨c, hc, hbyte⟩ := Utf8.exists_of_mem_encode hb
  obtain ⟨hlow, hhigh⟩ := h c hc
  rw [UInt8.le_iff_toNat_le, UInt8.le_iff_toNat_le]
  show 0x21 ≤ b.toNat ∧ b.toNat ≤ 0x7E
  omega

theorem isInner_of_isDigit (h : c.isDigit = true) : IsInner c := by
  have hdigit : 48 ≤ c.toNat ∧ c.toNat ≤ 57 := by
    simp only [Char.isDigit, Bool.and_eq_true, decide_eq_true_eq] at h
    exact ⟨h.1, h.2⟩
  have hne : ∀ d : Char, d.toNat < 48 ∨ 57 < d.toNat → c ≠ d := by
    rintro d hd rfl
    omega
  refine isInner_iff.2 ⟨⟨by omega, by omega⟩, ?_, ?_, ?_, ?_⟩
  all_goals exact hne _ (by decide)

theorem isInner_digitChar {n : Nat} (h : n < 16) : IsInner (Nat.digitChar n) := by
  have key : ∀ n, n < 16 → IsInner (Nat.digitChar n) := by decide
  exact key n h

theorem isInner_hexDigit {n : Nat} (h : n < 16) : IsInner (Percent.hexDigit n) := by
  have key : ∀ n, n < 16 → IsInner (Percent.hexDigit n) := by decide
  exact key n h

/-- The digits of a number in base 16. -/
theorem isInner_of_mem_toDigits (n : Nat) : ∀ c ∈ Nat.toDigits 16 n, IsInner c := by
  induction n using Nat.strongRecOn with
  | ind n ih =>
    intro c hc
    by_cases hn : n < 16
    · rw [Nat.toDigits_of_lt_base hn, List.mem_singleton] at hc
      rw [hc]
      exact isInner_digitChar hn
    · rw [Nat.toDigits_of_base_le (by decide) (by omega), List.mem_append,
        List.mem_singleton] at hc
      rcases hc with hc | rfl
      · exact ih (n / 16) (by omega) c hc
      · exact isInner_digitChar (Nat.mod_lt n (by decide))

/-! ## Percent encodings -/

namespace Percent

theorem isInner_of_mem_encodeByte (b : UInt8) : ∀ c ∈ encodeByte b, IsInner c := by
  have hlt : b.toNat < 256 := b.toNat_lt
  intro c hc
  simp only [encodeByte, List.mem_cons, List.not_mem_nil, or_false] at hc
  rcases hc with rfl | rfl | rfl
  · decide
  · exact isInner_hexDigit (by omega)
  · exact isInner_hexDigit (by omega)

/-- What is written is of a kind if percent encodings are, and all that is not encoded. -/
theorem forall_mem_encode {P : Char → Prop} {set : Char → Bool} (hinner : ∀ c, IsInner c → P c)
    (hset : ∀ c, set c = false → P c) (cs : List Char) : ∀ c ∈ encode set cs, P c := by
  intro c hc
  obtain ⟨d, -, hd⟩ := List.mem_flatMap.1 hc
  unfold encodeChar at hd
  split_ifs at hd with hset'
  · obtain ⟨b, -, hb⟩ := List.mem_flatMap.1 hd
    exact hinner c (isInner_of_mem_encodeByte b c hb)
  · rw [List.mem_singleton.1 hd]
    exact hset d (Bool.eq_false_iff.2 hset')

theorem isGraphic_of_mem_encode {set : Char → Bool} (hset : ∀ c, set c = false → IsGraphic c)
    (cs : List Char) : ∀ c ∈ encode set cs, IsGraphic c :=
  forall_mem_encode (fun _ h => h.1) hset cs

theorem isGraphic_of_control (h : control c = false) (hspace : c ≠ ' ') : IsGraphic c := by
  have hne : c.toNat ≠ 0x20 := fun heq => hspace (Char.toNat_inj.1 heq)
  simp only [control, Bool.or_eq_false_iff, decide_eq_false_iff_not] at h
  exact ⟨by omega, by omega⟩

theorem isGraphic_of_fragmentSet (h : fragmentSet c = false) : IsGraphic c := by
  simp only [fragmentSet, Bool.or_eq_false_iff, decide_eq_false_iff_not] at h
  exact isGraphic_of_control h.1.1.1.1.1 h.1.1.1.1.2

theorem isGraphic_of_pathSet (h : pathSet c = false) : IsGraphic c := by
  simp only [pathSet, Bool.or_eq_false_iff] at h
  exact isGraphic_of_fragmentSet h.1.1.1.1

theorem isGraphic_of_specialSegmentSet (h : specialSegmentSet c = false) : IsGraphic c := by
  simp only [specialSegmentSet, segmentSet, Bool.or_eq_false_iff] at h
  exact isGraphic_of_pathSet h.1.1.1

theorem isGraphic_of_specialQuerySet (h : specialQuerySet c = false) : IsGraphic c := by
  simp only [specialQuerySet, querySet, Bool.or_eq_false_iff, decide_eq_false_iff_not] at h
  exact isGraphic_of_control h.1.1.1.1.1.1 h.1.1.1.1.1.2

theorem isInner_of_userSet (h : userSet c = false) : IsInner c := by
  refine isInner_iff.2 ⟨isGraphic_of_pathSet ?_, ?_, ?_, ?_, ?_⟩
  · simp only [userSet, Bool.or_eq_false_iff] at h
    simp [h]
  all_goals
    rintro rfl
    exact absurd h (by decide)

end Percent

/-! ## Hosts -/

namespace Host

theorem isInner_of_isForbidden (h : isForbidden c = false) : IsInner c := by
  have hbounds : 0x20 < c.toNat ∧ c.toNat < 0x7F := by
    simp only [isForbidden, Bool.or_eq_false_iff, decide_eq_false_iff_not] at h
    omega
  refine isInner_iff.2 ⟨⟨by omega, by omega⟩, ?_, ?_, ?_, ?_⟩
  all_goals
    rintro rfl
    exact absurd h (by decide)

/-- What joins texts of characters of a kind has no others either, if the separator is one. -/
theorem forall_mem_intercalate {P : Char → Prop} {d : Char} (hd : P d) {texts : List (List Char)}
    (h : ∀ t ∈ texts, ∀ c ∈ t, P c) : ∀ c ∈ [d].intercalate texts, P c := by
  induction texts with
  | nil =>
    intro c hc
    cases hc
  | cons t texts ih =>
    obtain ⟨ht, htexts⟩ := List.forall_mem_cons.1 h
    cases texts with
    | nil =>
      rw [List.intercalate_singleton]
      exact ht
    | cons t' texts =>
      rw [List.intercalate_cons_cons]
      intro c hc
      rcases List.mem_append.1 hc with hc | hc
      · rcases List.mem_append.1 hc with hc | hc
        · exact ht c hc
        · rw [List.mem_singleton.1 hc]
          exact hd
      · exact ih htexts c hc

theorem isInner_of_mem_piecesText (ps : List Nat) : ∀ c ∈ piecesText ps, IsInner c :=
  forall_mem_intercalate (by decide)
    (List.forall_mem_map.2 fun p _ => isInner_of_mem_toDigits p)

theorem isInner_of_mem_ipv6Text (ps : List Nat) : ∀ c ∈ ipv6Text ps, IsInner c := by
  have hcolon : IsInner ':' := by decide
  unfold ipv6Text
  split
  · exact isInner_of_mem_piecesText ps
  · next start n _ =>
    refine List.forall_mem_append.2 ⟨isInner_of_mem_piecesText _, ?_⟩
    exact List.forall_mem_cons.2
      ⟨hcolon, List.forall_mem_cons.2 ⟨hcolon, isInner_of_mem_piecesText _⟩⟩

/-- No character of a name that is read for a URL of the web is forbidden. -/
theorem isForbidden_of_parse_name {idna : Idna} {cs : List Char} {s : String}
    (h : parse idna cs = .ok (.name s)) : ∀ c ∈ s.toList, isForbidden c = false := by
  unfold parse at h
  split at h
  · -- Brackets hold an address.
    unfold bracketed at h
    split at h
    · split at h <;> cases h
    · cases h
  · split at h
    · cases h
    · next ds hascii =>
      split at h
      · cases h
      · split at h
        · split at h <;> cases h
        · cases h
          intro c hc
          rw [String.toList_ofList] at hc
          exact idna.allowed _ ds hascii c hc

/-- No character of a host that is read for a URL of the web ends the authority. -/
theorem isInner_of_parse {idna : Idna} {cs : List Char} {h : Host}
    (hp : parse idna cs = .ok h) :
    ∀ c ∈ h.render, IsInner c := by
  cases h with
  | ipv4 n =>
    exact forall_mem_intercalate (by decide) (List.forall_mem_map.2 fun m _ c hc =>
      isInner_of_isDigit (Decimal.isDigit_of_mem_digits hc))
  | ipv6 ps =>
    refine List.forall_mem_cons.2 ⟨by decide,
      List.forall_mem_append.2 ⟨isInner_of_mem_ipv6Text ps, ?_⟩⟩
    exact List.forall_mem_singleton.2 (by decide)
  | name s => exact fun c hc => isInner_of_isForbidden (isForbidden_of_parse_name hp c hc)

end Host

/-! ## Paths -/

namespace Path

/-- All characters of the segments are graphic. -/
def IsGraphicPath (path : List (List Char)) : Prop := ∀ s ∈ path, ∀ c ∈ s, IsGraphic c

variable {path : List (List Char)}

theorem isGraphicPath_of_subset {longer : List (List Char)} (h : IsGraphicPath longer)
    (hsub : path ⊆ longer) : IsGraphicPath path := fun s hs => h s (hsub hs)

theorem IsGraphicPath.append {added : List (List Char)} (h : IsGraphicPath path)
    (hadded : IsGraphicPath added) : IsGraphicPath (path ++ added) :=
  List.forall_mem_append.2 ⟨h, hadded⟩

theorem isGraphicPath_root : IsGraphicPath [[]] := by
  intro s hs c hc
  rw [List.mem_singleton.1 hs] at hc
  cases hc

theorem popSegment_subset (path : List (List Char)) : popSegment path ⊆ path := by
  unfold popSegment
  split
  · split_ifs
    · exact List.Subset.refl path
    · exact List.dropLast_subset path
  · exact List.nil_subset path

theorem openEnd_subset (path : List (List Char)) : openEnd path ⊆ path := by
  unfold openEnd
  split_ifs
  · exact List.nil_subset path
  · exact List.Subset.refl path

theorem popIfEmpty_subset (path : List (List Char)) : popIfEmpty path ⊆ path := by
  unfold popIfEmpty
  split_ifs
  · exact List.dropLast_subset path
  · exact List.Subset.refl path

theorem isGraphicPath_added {set : Char → Bool} (hset : ∀ c, set c = false → IsGraphic c)
    (path : List (List Char)) (raw : List Char) : IsGraphicPath (added .web set path raw) := by
  intro s hs
  rw [List.mem_singleton.1 hs]
  exact Percent.isGraphic_of_mem_encode hset _

theorem IsGraphicPath.step (h : IsGraphicPath path) (raw : List Char) :
    IsGraphicPath (Path.step .web path raw) := by
  unfold Path.step
  split_ifs
  · exact isGraphicPath_of_subset h (popSegment_subset path)
  · exact h
  · exact h.append (isGraphicPath_added (fun _ => Percent.isGraphic_of_pathSet) path raw)

theorem isGraphicPath_resolve (raws : List (List Char)) : IsGraphicPath (resolve .web raws) := by
  have hfold : ∀ path, IsGraphicPath path → IsGraphicPath (raws.foldl (Path.step .web) path) := by
    induction raws with
    | nil => exact fun path h => h
    | cons raw raws ih => exact fun path h => ih _ (h.step raw)
  have hpath := hfold [] fun s hs => nomatch hs
  unfold resolve
  dsimp only
  split
  · split_ifs
    · exact hpath.append isGraphicPath_root
    · exact hpath
  · exact hpath

theorem isGraphicPath_read (cs : List Char) : IsGraphicPath (read .web cs) :=
  isGraphicPath_resolve _

theorem IsGraphicPath.pushSegment (h : IsGraphicPath path) (segment : List Char) :
    IsGraphicPath (Path.pushSegment .web path segment) := by
  have hopen := isGraphicPath_of_subset h (openEnd_subset path)
  unfold Path.pushSegment
  dsimp only
  split_ifs
  · exact h
  · exact (isGraphicPath_of_subset hopen (popSegment_subset _)).append isGraphicPath_root
  · exact hopen.append isGraphicPath_root
  · next hfile => exact hfile.elim
  · exact hopen.append
      (isGraphicPath_added (fun _ => Percent.isGraphic_of_specialSegmentSet) _ segment)

theorem IsGraphicPath.pushSegments (h : IsGraphicPath path) (segments : List (List Char)) :
    IsGraphicPath (Path.pushSegments .web path segments) := by
  induction segments generalizing path with
  | nil => exact h
  | cons segment segments ih => exact ih (h.pushSegment segment)

theorem IsGraphicPath.render (h : IsGraphicPath path) : ∀ c ∈ Path.render path, IsGraphic c := by
  intro c hc
  obtain ⟨s, hs, hc⟩ := List.mem_flatMap.1 hc
  rcases List.mem_cons.1 hc with rfl | hc
  · decide
  · exact h s hs c hc

end Path

/-! ## Queries -/

theorem Form.isGraphic_of_isPlain {b : UInt8} (h : isPlain b = true) :
    IsGraphic (Char.ofNat b.toNat) := by
  have key : ∀ n, n < 256 → isPlain (UInt8.ofNat n) = true → IsGraphic (Char.ofNat n) := by
    decide +kernel
  refine key b.toNat b.toNat_lt ?_
  rwa [UInt8.ofNat_toNat]

theorem Form.isGraphic_of_mem_encodePair (p : String × String) :
    ∀ c ∈ Form.encodePair p, IsGraphic c := by
  have hbyte : ∀ b : UInt8, ∀ c ∈ Form.encodeByte b, IsGraphic c := by
    intro b c hc
    unfold encodeByte at hc
    split_ifs at hc with hplain hspace
    · rw [List.mem_singleton.1 hc]
      exact isGraphic_of_isPlain hplain
    · rw [List.mem_singleton.1 hc]
      decide
    · exact (Percent.isInner_of_mem_encodeByte b c hc).1
  have hencode : ∀ s, ∀ c ∈ Form.encode s, IsGraphic c := by
    intro s c hc
    obtain ⟨b, -, hc⟩ := List.mem_flatMap.1 hc
    exact hbyte b c hc
  exact List.forall_mem_append.2
    ⟨hencode p.1, List.forall_mem_cons.2 ⟨by decide, hencode p.2⟩⟩

theorem Form.isGraphic_of_mem_append {query : List Char} (h : ∀ c ∈ query, IsGraphic c)
    (pairs : List (String × String)) : ∀ c ∈ Form.append query pairs, IsGraphic c := by
  induction pairs generalizing query with
  | nil => exact h
  | cons p pairs ih =>
    refine ih (List.forall_mem_append.2 ⟨?_, isGraphic_of_mem_encodePair p⟩)
    split_ifs
    · exact List.forall_mem_nil _
    · exact List.forall_mem_append.2 ⟨h, List.forall_mem_singleton.2 (by decide)⟩

end WebhookClient.Url
