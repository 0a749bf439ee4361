import Mathlib
import WebhookClient.Proofs.Json.Dict
import WebhookClient.Proofs.Request.Query
import WebhookClient.Proofs.Request.Reading

/-!
# What a template expands to

A segment expands to its text with the values in place of its groups, in one pass, and all other
characters as they are, so it depends on the values of its own groups only. The URL of a request
holds the segments of its template, expanded, or there is a fault in one of them. Main statement:
`url_ofSteps`.
-/

set_option autoImplicit false

namespace WebhookClient

namespace Template

variable {template : String} {values values' : Values} {ps : List Piece}

/-! ## Values that do not count -/

theorem fill_congr
    (h : ∀ n ∈ names ps, values.get? (String.ofList n) = values'.get? (String.ofList n)) :
    fill values ps = fill values' ps := by
  refine List.flatMap_congr fun p hp => ?_
  cases p with
  | char c => rfl
  | group n =>
    have hn : n ∈ names ps := List.mem_filterMap.2 ⟨_, hp, rfl⟩
    rw [fillPiece, fillPiece, h n hn]

/-- A segment depends on the values of its own groups only. -/
theorem expandSegment_congr (template : String)
    (h : ∀ n ∈ names ps, values.get? (String.ofList n) = values'.get? (String.ofList n)) :
    expandSegment template values ps = expandSegment template values' ps := by
  have hfind : (names ps).find? (fun n => (values.get? (String.ofList n)).isNone) =
      (names ps).find? (fun n => (values'.get? (String.ofList n)).isNone) :=
    List.find?_congr fun n hn => by rw [h n hn]
  unfold expandSegment
  rw [hfind, fill_congr h]
  cases hlast : (names ps).getLast? with
  | none => rfl
  | some n =>
    dsimp only
    rw [h n (List.mem_of_getLast? hlast)]

theorem expand_congr
    (h : ∀ ps ∈ segments template, ∀ n ∈ names ps,
      values.get? (String.ofList n) = values'.get? (String.ofList n)) :
    expand template values = expand template values' :=
  mapM_congr fun ps hps => expandSegment_congr template (h ps hps)

end Template

namespace Request

open Url

variable {base u : Url} {r : Request}

/-! ## The URL of a request -/

/-- A request has no URL on a server with a path just if its template cannot be filled in. -/
theorem url_eq_error_iff (hbase : ∃ path, base.path? = some path) {e : Failure} :
    r.url base = .error e ↔ Template.expand r.template r.pathParams = .error e := by
  cases hexpand : Template.expand r.template r.pathParams with
  | error e' =>
    have hurl : r.url base = .error e' := by
      rw [url, hexpand]
      rfl
    rw [hurl]
    constructor <;> intro h <;> cases h <;> rfl
  | ok raws =>
    obtain ⟨u, hu⟩ := exists_url_eq_ok hbase (Template.expand_eq_ok_iff.1 hexpand).1
    rw [hu]
    constructor <;> intro h <;> cases h

/-- The value of a group is the one that is set last for its name. -/
theorem get?_pathParams_ofSteps (method : Method) (template : String) (steps : List Step)
    (name : String) :
    (ofSteps method template steps).pathParams.get? name =
      lastWhere (· = name) (givenValues steps) := by
  rw [pathParams_ofSteps, Dict.get?_ofInserted]

/-- Requests with the same template, query and values of its groups have the same URL. -/
theorem url_congr {q : Request} (htemplate : q.template = r.template) (hquery : q.query = r.query)
    (hvalues : ∀ ps ∈ Template.segments r.template, ∀ n ∈ Template.names ps,
      q.pathParams.get? (String.ofList n) = r.pathParams.get? (String.ofList n)) :
    q.url base = r.url base := by
  rw [url, url, htemplate, hquery, Template.expand_congr hvalues]

/-- The value of a group is the one that is set last for its name, and of values only those of the
groups of the template count. Each segment has one reading. Where a request has a URL no segment
has a fault, the template expands to its segments, filled in, and the path of the URL is that of the
server with these appended; where it has none, the fault of the first segment that has one is
reported. -/
theorem url_ofSteps {idna : Idna} {text : String} (hbase : Url.parse idna text = .ok base)
    (hserver : isServerScheme base.scheme = true) (method : Method) (template : String)
    (steps : List Step) :
    (∀ name, (ofSteps method template steps).pathParams.get? name =
      lastWhere (· = name) (givenValues steps)) ∧
    (∀ pss, List.Forall₂ Template.IsReading (Template.segmentTexts template) pss ↔
      Template.segments template = pss) ∧
    (∀ u, (ofSteps method template steps).url base = .ok u →
      (∀ ps ∈ Template.segments template, ∀ e, ¬ Template.SegmentFault template
        (ofSteps method template steps).pathParams ps e) ∧
      Template.expand template (ofSteps method template steps).pathParams =
        .ok ((Template.segments template).map
          (Template.fill (ofSteps method template steps).pathParams)) ∧
      ∃ path, base.path? = some path ∧
        u.path? = some (Path.pushSegments .web (Path.popIfEmpty path)
          ((Template.segments template).map
            (Template.fill (ofSteps method template steps).pathParams)))) ∧
    (∀ e, (ofSteps method template steps).url base = .error e ↔
      ∃ before ps after, Template.segments template = before ++ ps :: after ∧
        (∀ q ∈ before, ∀ e', ¬ Template.SegmentFault template
          (ofSteps method template steps).pathParams q e') ∧
        Template.SegmentFault template (ofSteps method template steps).pathParams ps e) ∧
    ∀ (method' : Method) (steps' : List Step),
      steps'.flatMap Step.pairs = steps.flatMap Step.pairs →
      (∀ ps ∈ Template.segments template, ∀ n ∈ Template.names ps,
        lastWhere (· = String.ofList n) (givenValues steps') =
          lastWhere (· = String.ofList n) (givenValues steps)) →
      (ofSteps method' template steps').url base = (ofSteps method template steps).url base := by
  have hweb : base.kind = .web := Client.kind_of_isServerScheme hserver
  have hpath : ∃ path, base.path? = some path := by
    refine exists_path?_of_parse hbase ?_
    rw [hweb]
    decide
  have htemplate := template_ofSteps method template steps
  refine ⟨get?_pathParams_ofSteps method template steps, fun pss =>
    Template.forall₂_isReading_iff, fun u hu => ?_, fun e => ?_, fun method' steps' hpairs h => ?_⟩
  · obtain ⟨haccepted, path, hpath, rfl⟩ := url_eq_ok_iff.1 hu
    rw [htemplate] at haccepted ⊢
    refine ⟨fun ps hps => ?_, Template.expand_eq_ok_iff.2 ⟨haccepted, rfl⟩, path, hpath, ?_⟩
    · rw [← Template.exists_expandSegment_eq_ok_iff]
      exact ⟨_, Template.expandSegment_eq_ok_iff.2 ⟨haccepted ps hps, rfl⟩⟩
    · rw [path?_appendQuery, hweb]
      rfl
  · rw [url_eq_error_iff hpath, htemplate]
    exact Template.expand_eq_error_iff
  · refine url_congr ?_ ?_ ?_
    · rw [template_ofSteps, template_ofSteps]
    · rw [query_ofSteps, query_ofSteps, hpairs]
    · rw [htemplate]
      intro ps hps n hn
      rw [get?_pathParams_ofSteps, get?_pathParams_ofSteps, h ps hps n hn]

/-- A template with an empty segment, and braces that make no group. -/
def nestedTemplate : String := "/v//\x7bx\x7d-\x7by\x7d/\x7d\x7bz"

/-- A template whose second segment with groups can be nothing but a dot. -/
def dottedTemplate : String := "/v/\x7bx\x7d\x7bz\x7d/\x7bz\x7d/\x7bw\x7d"

/-- Steps whose values look like groups and segments, and one that sets a value twice. -/
def nestedSteps : List Step :=
  [.pathParam "y" "..", .pathParam "x" "\x7by\x7d", .pathParam "y" "a/b", .pathParam "z" "."]

/-- What a value brings in is not read as a group, braces that make no group stay, and a dot is
reported before a group without a value in a later segment. -/
theorem url_nestedSteps :
    (∃ u, (ofSteps .get nestedTemplate nestedSteps).url searchedServer = .ok u ∧
      u.path? = some ["v".toList, "%7By%7D-a%2Fb".toList, "%7D%7Bz".toList]) ∧
    (ofSteps .get dottedTemplate nestedSteps).url searchedServer =
      .error (.invalidPathParam "z" "." dottedTemplate) := by
  constructor
  · obtain ⟨-, -, hok, -, -⟩ := url_ofSteps parse_searchedServer rfl .get nestedTemplate nestedSteps
    obtain ⟨u, hu⟩ : ∃ u, (ofSteps .get nestedTemplate nestedSteps).url searchedServer = .ok u :=
      exists_url_eq_ok ⟨_, rfl⟩ (by decide)
    obtain ⟨-, -, path, hpath, hu'⟩ := hok u hu
    obtain rfl : [[]] = path := Option.some.inj hpath
    refine ⟨u, hu, hu'.trans ?_⟩
    cbv
  · obtain ⟨-, -, -, herror, -⟩ :=
      url_ofSteps parse_searchedServer rfl .get dottedTemplate nestedSteps
    let values : Template.Values := (ofSteps .get dottedTemplate nestedSteps).pathParams
    have hbefore : ∀ ps ∈ [[.char 'v'], [.group ['x'], .group ['z']]], ∀ e,
        ¬ Template.SegmentFault dottedTemplate values ps e := by
      intro ps hps
      rw [← Template.exists_expandSegment_eq_ok_iff]
      refine ⟨_, Template.expandSegment_eq_ok_iff.2 ⟨?_, rfl⟩⟩
      revert ps
      decide
    have hfault : Template.SegmentFault dottedTemplate values [.group ['z']]
        (.invalidPathParam "z" "." dottedTemplate) :=
      @Template.SegmentFault.misleading _ _ _ [] ['z'] "." (by decide) rfl rfl (by decide)
    exact (herror _).2 ⟨_, [.group ['z']], [[.group ['w']]], rfl, hbefore, hfault⟩

end Request

end WebhookClient
