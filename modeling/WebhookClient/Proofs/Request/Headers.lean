import Mathlib
import WebhookClient.Proofs.Except
import WebhookClient.Proofs.Header.Given
import WebhookClient.Proofs.Request.Fault
import WebhookClient.Proofs.Request.Steps

/-!
# The headers of a request

The headers that steps give are kept under their names as they are spelt, and are read in the order
of the spellings. So under each name stands the value that is given last in the greatest of its
spellings (`map_text_get_headers_ofSteps`), which need not be the one that is given last for it.
-/

set_option autoImplicit false

namespace WebhookClient.Request

open Header

/-! ## Reading the headers -/

theorem readHeader_eq_ok_iff {name value : String} {l : HeaderName × HeaderValue} :
    readHeader name value = .ok l ↔ IsRead (name, value) l := by
  obtain ⟨n, v⟩ := l
  rw [readHeader, bind_eq_ok_iff]
  constructor
  · rintro ⟨n', hn, h⟩
    obtain ⟨v', hv, h⟩ := bind_eq_ok_iff.1 h
    cases h
    exact ⟨mapError_eq_ok_iff.1 hn, mapError_eq_ok_iff.1 hv⟩
  · rintro ⟨hn, hv⟩
    exact ⟨n, mapError_eq_ok_iff.2 hn, bind_eq_ok_iff.2 ⟨v, mapError_eq_ok_iff.2 hv, rfl⟩⟩

theorem headers_eq_ok_iff {r : Request} {hs : Headers} :
    r.headers = .ok hs ↔
      ∃ lines, List.Forall₂ IsRead r.headerParams.entries lines ∧
        Headers.empty.setAll ⟨lines⟩ = hs := by
  have hread : ∀ lines, r.headerParams.entries.mapM (fun e => readHeader e.1 e.2) = .ok lines ↔
      List.Forall₂ IsRead r.headerParams.entries lines := by
    intro lines
    simp only [mapM_eq_ok_iff, readHeader_eq_ok_iff]
  rw [headers, bind_eq_ok_iff]
  refine exists_congr fun lines => ?_
  rw [hread, Except.ok.injEq]

/-- Under each name stands the last of the values that are kept for it. -/
theorem map_text_get_headers {r : Request} {hs : Headers} (h : r.headers = .ok hs)
    (name : HeaderName) :
    (hs.get name).map (·.text) = (lastFor name r.headerParams.entries).toList := by
  obtain ⟨lines, hread, rfl⟩ := headers_eq_ok_iff.1 h
  exact map_text_get_setAll_empty hread name

theorem length_get_headers_le {r : Request} {hs : Headers} (h : r.headers = .ok hs)
    (name : HeaderName) : (hs.get name).length ≤ 1 := by
  rw [← List.length_map, map_text_get_headers h]
  exact Option.length_toList_le

/-! ## The headers that steps give -/

/-- The greatest of the spellings in which a name is given. -/
def IsLastSpelling (name : HeaderName) (given : List (String × String)) (s : String) : Prop :=
  IsGreatest {s | name.IsSpelt s ∧ s ∈ given.map (·.1)} s

variable {method : Method} {template : String} {steps : List Step} {hs : Headers}
  {name : HeaderName}

/-- If all headers that are given can be sent, those that are kept can be. -/
theorem hasSendableHeaders_ofSteps (template : String)
    (h : ∀ g ∈ givenHeaders method steps, IsSendable g.1 g.2) :
    (ofSteps method template steps).HasSendableHeaders := by
  intro l hl
  rw [headerParams_ofSteps] at hl
  exact h l (Dict.mem_of_mem_entries_foldl_insert hl)

/-- Under a name stands the value that is given last in the greatest of its spellings. -/
theorem map_text_get_headers_ofSteps (h : (ofSteps method template steps).headers = .ok hs)
    {s : String} (hlast : IsLastSpelling name (givenHeaders method steps) s) :
    (hs.get name).map (·.text) = (lastWhere (· = s) (givenHeaders method steps)).toList := by
  rw [map_text_get_headers h, headerParams_ofSteps, lastFor, Dict.lastWhere_foldl_insert hlast]

/-- A name that is not given has no value. -/
theorem get_headers_ofSteps_eq_nil (h : (ofSteps method template steps).headers = .ok hs)
    (hnone : ∀ g ∈ givenHeaders method steps, ¬ name.IsSpelt g.1) : hs.get name = [] := by
  have hlast : lastFor name (ofSteps method template steps).headerParams.entries = none := by
    refine lastWhere_eq_none_iff.2 fun e he => ?_
    rw [headerParams_ofSteps] at he
    exact hnone e (Dict.mem_of_mem_entries_foldl_insert he)
  have htexts := map_text_get_headers h name
  rw [hlast] at htexts
  exact List.map_eq_nil_iff.1 htexts

/-- A name that is given has a greatest spelling. -/
theorem exists_isLastSpelling {given : List (String × String)} {g : String × String}
    (hg : g ∈ given) (hspelt : name.IsSpelt g.1) : ∃ s, IsLastSpelling name given s := by
  have hnames : {s | s ∈ given.map (·.1)}.Finite := List.finite_toSet _
  have hfinite : {s | name.IsSpelt s ∧ s ∈ given.map (·.1)}.Finite :=
    hnames.subset fun _ h => h.2
  have hne : {s | name.IsSpelt s ∧ s ∈ given.map (·.1)}.Nonempty :=
    ⟨g.1, hspelt, List.mem_map_of_mem hg⟩
  obtain ⟨s, hs, hmax⟩ := hfinite.exists_maximal hne
  exact ⟨s, hs, fun t ht => (le_total t s).elim id fun h => hmax ht h⟩

/-- The value that is given last for a name counts just if it is the last one in the greatest of
the spellings as well. -/
theorem map_text_get_headers_eq_lastFor_iff
    (h : (ofSteps method template steps).headers = .ok hs) (name : HeaderName) :
    (hs.get name).map (·.text) = (lastFor name (givenHeaders method steps)).toList ↔
      ∀ s, IsLastSpelling name (givenHeaders method steps) s →
        lastWhere (· = s) (givenHeaders method steps) =
          lastFor name (givenHeaders method steps) := by
  by_cases hgiven : ∃ g ∈ givenHeaders method steps, name.IsSpelt g.1
  · obtain ⟨g, hg, hspelt⟩ := hgiven
    constructor
    · intro heq s hs
      rw [map_text_get_headers_ofSteps h hs] at heq
      exact Option.ext fun v => by rw [← Option.mem_toList, heq, Option.mem_toList]
    · intro hall
      obtain ⟨s, hs⟩ := exists_isLastSpelling hg hspelt
      rw [map_text_get_headers_ofSteps h hs, hall s hs]
  · have hnone : ∀ g ∈ givenHeaders method steps, ¬ name.IsSpelt g.1 := by
      intro g hg hspelt
      exact hgiven ⟨g, hg, hspelt⟩
    refine iff_of_true ?_ fun s hs => ?_
    · rw [get_headers_ofSteps_eq_nil h hnone, lastFor, lastWhere_eq_none_iff.2 hnone]
      rfl
    · obtain ⟨g, hg, hspelling⟩ := List.mem_map.1 hs.1.2
      exact absurd (hspelling ▸ hs.1.1) (hnone g hg)

end WebhookClient.Request
