import Mathlib
import WebhookClient.Proofs.Call.Answer
import WebhookClient.Proofs.Call.Sent
import WebhookClient.Proofs.Operation.Pages
import WebhookClient.Proofs.Pagination
import WebhookClient.Proofs.Records.RoundTrip

/-!
# Iterators survive the way to the service and back

A service that answers all calls of a walk with pages gets one request for each page. The requests
differ in the iterator only: the first one has none, and each of the others has the iterator that
was read from the page before, character for character. Iterators that stand in the query of the
server are sent with all of them. Main statement: `isPaged_of_serves`.
-/

set_option autoImplicit false

namespace WebhookClient

/-! ## Iterators of pages -/

namespace Page

variable {α : Type} {iterator next : Option String} {pages : List (Page α)}

/-- The iterators that pages are asked for by, the first of them given. -/
def cursorsOf : Option String → List (Page α) → List (Option String)
  | _, [] => []
  | iterator, page :: pages => iterator :: cursorsOf page.iterator pages

theorem length_cursorsOf (iterator : Option String) (pages : List (Page α)) :
    (cursorsOf iterator pages).length = pages.length := by
  induction pages generalizing iterator with
  | nil => rfl
  | cons page pages ih => rw [cursorsOf, List.length_cons, ih, List.length_cons]

theorem eq_of_getElem?_zero_cursorsOf (h : (cursorsOf iterator pages)[0]? = some next) :
    next = iterator := by
  cases pages with
  | nil => cases h
  | cons page pages => exact (Option.some.inj h).symm

theorem exists_of_getElem?_cursorsOf {i : Nat}
    (h : (cursorsOf iterator pages)[i + 1]? = some next) :
    ∃ page, pages[i]? = some page ∧ page.iterator = next := by
  induction pages generalizing iterator i with
  | nil => cases h
  | cons page pages ih =>
    cases i with
    | zero => exact ⟨page, rfl, (eq_of_getElem?_zero_cursorsOf h).symm⟩
    | succ i => exact ih h

end Page

/-! ## One page -/

/-- The requests that calls have sent, in order. -/
def Calls.sent {α : Type} (calls : Calls α) : List Sent :=
  calls.made.flatMap fun m => m.attempts.map (·.sent)

/-- So many calls have been made, each with one attempt, and the time is `now`. -/
structure Calls.StandAt {α : Type} (calls : Calls α) (number now : Nat) : Prop where
  made : calls.made.length = number
  attempts : calls.attempts = number
  now : calls.now = now

namespace Client

variable {α : Type} [Json.Wire α] {c : Client} {s : WalkCircumstances}
  {request : Option String → Request} {number now time : Nat} {iterator : Option String}
  {page : Page α} {pages : List (Page α)}

/-- A service answers the attempt of a number, which begins at `now`, with a page: the request can
be sent, and after some time, before that for the attempt is over and before the deadline, there
comes a response of success whose body is read as the page. -/
structure IsAnsweredBy (c : Client) (s : WalkCircumstances) (number now : Nat) (r : Request)
    (time : Nat) (page : Page α) : Prop where
  response : ∃ p status body received, r.prepare c.baseUrl = .ok p ∧
    (s.reply number).settle c.timeout p.url = ⟨time, .received status body, received⟩ ∧
    (200 ≤ status ∧ status ≤ 299) ∧ Json.decode (answerText body) = .ok page
  inTime : ∀ d, s.deadline = some d → now + time ≤ d ∧ now < d

/-- A call that is answered with a page makes one attempt, and its result is the page. -/
theorem call_of_isAnsweredBy {r : Request} (h : c.IsAnsweredBy s number now r time page)
    (circumstances : Circumstances) (hreply : circumstances.reply 0 = s.reply number)
    (hstart : circumstances.startedAt = now) (hdeadline : circumstances.deadline = s.deadline) :
    ∃ p, r.prepare c.baseUrl = .ok p ∧
      (c.call r circumstances : Call (Page α)).attempts.map (·.sent) =
        [Sent.ofAttempt c p circumstances.requestId 0] ∧
      (c.call r circumstances : Call (Page α)).result = .ok page ∧
      (c.call r circumstances : Call (Page α)).finishedAt = now + time := by
  obtain ⟨⟨p, status, body, received, hp, hsettle, hstatus, hread⟩, hcut⟩ := h
  obtain ⟨hattempts, hresult, hfinish⟩ :=
    call_of_prepare_eq_ok (α := Page α) (s := circumstances) hp
  have hsettled : (c.plan p circumstances).settle 0 = ⟨time, .received status body, received⟩ := by
    rw [← hsettle, ← hreply]
    rfl
  have hstop : (c.plan p circumstances).stop 0 circumstances.startedAt = now + time := by
    rw [Run.Plan.stop, hsettled, hstart]
  -- The response is one of success, so that no retry follows.
  have hrun : c.run p circumstances =
      (c.plan p circumstances).last 0 circumstances.startedAt := by
    refine Run.proceed_of_isFinal ?_ fun pause _ hretryable => ?_
    · rw [hsettled, hstart]
      exact Run.isCutOff_eq_false fun d hd => hcut d (hdeadline.symm.trans hd)
    · rw [hsettled, Outcome.isRetryable_received_iff] at hretryable
      omega
  have hanswer : readResponse status body = (.ok page : Except Failure (Page α)) := by
    rw [(isAnswer_readResponse status body).ok_iff hstatus, ← answerText_eq]
    exact hread
  refine ⟨p, hp, ?_, ?_, ?_⟩
  · rw [hattempts, hrun]
    rfl
  · have houtcome : (c.run p circumstances).outcome = some (.received status body) := by
      rw [hrun, Run.outcome_eq_some_iff, Run.Plan.last, hsettled]
    rw [hresult, readRun_of_outcome houtcome]
    exact hanswer
  · rw [hfinish, hrun]
    exact hstop

/-- A fetch that is answered with a page sends one request and gets the page. -/
theorem fetchPage_of_isAnsweredBy {calls : Calls α} (hcalls : calls.StandAt number now)
    (h : c.IsAnsweredBy s number now (request iterator) time page) :
    ∃ p calls', (request iterator).prepare c.baseUrl = .ok p ∧
      c.fetchPage request s calls iterator = (.ok page, calls') ∧
      calls'.StandAt (number + 1) (now + time) ∧
      calls'.sent = calls.sent ++ [Sent.ofAttempt c p (s.requestId number) 0] := by
  obtain ⟨hmade, hattempts, hnow⟩ := hcalls
  have hreply : s.reply (calls.attempts + 0) = s.reply number := by rw [hattempts, Nat.add_zero]
  obtain ⟨p, hp, hsent, hresult, hfinish⟩ := call_of_isAnsweredBy h
    ⟨fun n => s.reply (calls.attempts + n), calls.now, s.deadline,
      s.requestId calls.made.length⟩ hreply hnow rfl
  have hlength := congrArg List.length hsent
  rw [List.length_map] at hlength
  refine ⟨p, _, hp, Prod.ext hresult rfl, ⟨?_, ?_, hfinish⟩, ?_⟩
  · show (calls.made ++ [_]).length = number + 1
    rw [List.length_append, hmade]
    rfl
  · show calls.attempts + _ = number + 1
    rw [hlength, hattempts]
    rfl
  · show (calls.made ++ [_]).flatMap _ = _
    rw [List.flatMap_append, List.flatMap_singleton, hsent, hmade]
    rfl

/-! ## All pages -/

/-- A service answers calls with pages, from the attempt of a number on, which begins at `now` and
asks by an iterator. All pages but the last lead on, and each of the others is asked for by the
iterator of the one before. -/
inductive Serves (c : Client) (request : Option String → Request) (s : WalkCircumstances) :
    Nat → Nat → Option String → List (Page α) → Prop where
  | nil (number now : Nat) (iterator : Option String) : Serves c request s number now iterator []
  | cons {number now time : Nat} {iterator : Option String} {page : Page α}
    {pages : List (Page α)}
    (answered : c.IsAnsweredBy s number now (request iterator) time page)
    (on : pages ≠ [] → page.done = false ∧ page.iterator ≠ none)
    (rest : Serves c request s (number + 1) (now + time) page.iterator pages) :
    Serves c request s number now iterator (page :: pages)

/-- A walk fetches as many pages: it may fetch no more, or the last of them ends it. -/
def Suffices (pages : List (Page α)) (fuel : Nat) : Prop :=
  pages.length = fuel ∨
    pages.length ≤ fuel ∧ ∃ page ∈ pages.getLast?, page.done = true ∨ page.iterator = none

/-- What is sent when a page is asked for by an iterator, in the call of a number. -/
def Asks (c : Client) (request : Option String → Request) (s : WalkCircumstances)
    (turn : Option String × Nat) (a : Sent) : Prop :=
  ∃ p, (request turn.1).prepare c.baseUrl = .ok p ∧ a = Sent.ofAttempt c p (s.requestId turn.2) 0

/-- Requests that ask for pages by iterators ask for each page by its own. -/
theorem exists_asks_of_getElem? {iterators : List (Option String)} {sent : List Sent}
    (hall : List.Forall₂ (c.Asks request s) iterators.zipIdx sent) {i : Nat} {a : Sent}
    (ha : sent[i]? = some a) :
    ∃ iterator, iterators[i]? = some iterator ∧ c.Asks request s (iterator, i) a := by
  obtain ⟨hi, rfl⟩ := List.getElem?_eq_some_iff.1 ha
  have hlength : iterators.length = sent.length := by
    rw [← hall.length_eq, List.length_zipIdx]
  have hi' : i < iterators.length := hlength ▸ hi
  have hask := hall.get (by rwa [List.length_zipIdx]) hi
  rw [List.get_eq_getElem, List.getElem_zipIdx, Nat.zero_add] at hask
  exact ⟨_, List.getElem?_eq_getElem hi', hask⟩

/-- A walk through pages that a service answers with asks for each of them once. -/
theorem go_of_serves (h : Serves c request s number now iterator pages) {fuel : Nat}
    (hfuel : Suffices pages fuel) {calls : Calls α} (hcalls : calls.StandAt number now)
    (items : List α) :
    ∃ new, (Walk.go (c.fetchPage request s) fuel calls iterator items).state.sent =
        calls.sent ++ new ∧
      List.Forall₂ (c.Asks request s) ((Page.cursorsOf iterator pages).zipIdx number) new := by
  induction h generalizing fuel calls items with
  | nil number now iterator =>
    obtain hfuel | ⟨-, page, hlast, -⟩ := hfuel
    · rw [← hfuel]
      exact ⟨[], (List.append_nil _).symm, .nil⟩
    · cases hlast
  | @cons number now time iterator page pages answered on rest ih =>
    obtain ⟨p, calls', hp, hfetch, hcalls', hsent⟩ := fetchPage_of_isAnsweredBy hcalls answered
    have hasks : c.Asks request s (iterator, number)
        (Sent.ofAttempt c p (s.requestId number) 0) := ⟨p, hp, rfl⟩
    have hpositive : 0 < fuel := by
      obtain hfuel | ⟨hfuel, -⟩ := hfuel
      · exact hfuel ▸ Nat.succ_pos _
      · exact Nat.lt_of_lt_of_le (Nat.succ_pos _) hfuel
    obtain ⟨fuel, rfl⟩ := Nat.exists_eq_add_one_of_ne_zero hpositive.ne'
    by_cases hlast : Walk.IsLast (Except.ok page : Except Failure (Page α))
    · -- The page ends the walk, so it is the last one.
      have hnil : pages = [] := by
        by_contra hne
        obtain ⟨hdone, hiterator⟩ := on hne
        obtain hend | hend := hlast
        · rw [hdone] at hend
          cases hend
        · exact hiterator hend
      subst hnil
      rw [Walk.go_succ_of_isLast hfetch hlast]
      exact ⟨_, hsent, .cons hasks .nil⟩
    · have hrest : Suffices pages fuel := by
        obtain hfuel | ⟨hfuel, last, hmem, hend⟩ := hfuel
        · exact .inl (Nat.succ.inj hfuel)
        · cases pages with
          | nil =>
            cases hmem
            exact absurd hend hlast
          | cons next pages =>
            rw [List.getLast?_cons_cons] at hmem
            exact .inr ⟨Nat.le_of_succ_le_succ hfuel, last, hmem, hend⟩
      obtain ⟨new, hnew, hall⟩ := ih hrest hcalls' (items ++ page.data)
      rw [Walk.go_succ_of_not_isLast hfetch hlast]
      refine ⟨_ :: new, ?_, .cons hasks hall⟩
      exact hnew.trans (by rw [hsent, List.append_assoc]; rfl)

/-- A page that another one follows has an iterator. -/
theorem Serves.iterator_ne_none (h : Serves c request s number now iterator pages) {i : Nat}
    (hi : pages[i]? = some page) (hnext : i + 1 < pages.length) : page.iterator ≠ none := by
  induction h generalizing i with
  | nil number now iterator => cases hi
  | @cons number now time iterator first pages answered on rest ih =>
    cases i with
    | zero =>
      cases hi
      exact (on (List.ne_nil_of_length_pos (Nat.lt_of_succ_lt_succ hnext))).2
    | succ i => exact ih hi (Nat.lt_of_succ_lt_succ hnext)

end Client

/-! ## What the requests have in common -/

/-- Two requests differ in nothing but the values of a name in the query, and in their numbers. -/
structure Sent.SameBeside (name : String) (a b : Sent) : Prop where
  method : a.method = b.method
  place : { a.url with query := none } = { b.url with query := none }
  query : a.url.pairsBeside name = b.url.pairsBeside name
  body : a.body = b.body
  headers : ∀ n ≠ Sent.requestIdName, a.headers.get n = b.headers.get n

namespace Client

section Requests

open Operation Request

variable {c : Client} {op : Operation} {args : op.Arguments} {s : WalkCircumstances}
  {turn turn' : Option String × Nat} {a b : Sent}

theorem Asks.valuesOf_iterator (hop : op ∈ catalog) (hpage : op.answer.item?.isSome)
    (h : c.Asks (op.pageRequest args) s turn a) :
    a.url.valuesOf "iterator" = c.baseUrl.valuesOf "iterator" ++ turn.1.toList := by
  obtain ⟨p, hp, rfl⟩ := h
  exact Operation.valuesOf_iterator hop hpage (prepare_eq_ok_iff.1 hp).2.1

theorem Asks.get_headers (hop : op ∈ catalog) (hpage : op.answer.item?.isSome)
    (h : c.Asks (op.pageRequest args) s turn a) (name : HeaderName) :
    a.headers.get name = (Sent.numbered c (s.requestId turn.2) 0).get name ++
      if a.body.isSome ∧ name = Sent.contentTypeName then [Sent.jsonType] else [] := by
  obtain ⟨p, hp, rfl⟩ := h
  obtain ⟨-, -, hheaders, -⟩ := prepare_eq_ok_iff.1 hp
  rw [Sent.get_headers_ofAttempt, headers_eq_empty hop hpage hheaders]
  rfl

/-- The number of the call comes after those that the client has. -/
theorem Asks.get_requestIdName (hop : op ∈ catalog) (hpage : op.answer.item?.isSome)
    (h : c.Asks (op.pageRequest args) s turn a) :
    a.headers.get Sent.requestIdName =
      c.headers.get Sent.requestIdName ++ [Sent.number (s.requestId turn.2)] := by
  have hname : Sent.requestIdName ≠ Sent.contentTypeName := by decide
  rw [h.get_headers hop hpage, if_neg fun h => hname h.2, List.append_nil,
    Sent.get_numbered_requestIdName]

/-- Requests for two pages of one list. -/
theorem Asks.sameBeside (hop : op ∈ catalog) (hpage : op.answer.item?.isSome)
    (ha : c.Asks (op.pageRequest args) s turn a) (hb : c.Asks (op.pageRequest args) s turn' b) :
    a.SameBeside "iterator" b := by
  have hget := ha.get_headers hop hpage
  have hget' := hb.get_headers hop hpage
  obtain ⟨p, hp, rfl⟩ := ha
  obtain ⟨q, hq, rfl⟩ := hb
  obtain ⟨hpmethod, hpurl, -, hpbody⟩ := prepare_eq_ok_iff.1 hp
  obtain ⟨hqmethod, hqurl, -, hqbody⟩ := prepare_eq_ok_iff.1 hq
  rw [pageRequest_eq] at hpmethod hqmethod hpbody hqbody
  have hbody : (Sent.ofAttempt c p (s.requestId turn.2) 0).body =
      (Sent.ofAttempt c q (s.requestId turn'.2) 0).body :=
    Except.ok.inj (hpbody.symm.trans hqbody)
  refine ⟨hpmethod.symm.trans hqmethod, ?_, ?_, hbody, fun n hn => ?_⟩
  · refine withoutQuery_eq_of_url_eq_ok ?_ ?_ hpurl hqurl
    · rw [pageRequest_eq, pageRequest_eq]
    · rw [pageRequest_eq, pageRequest_eq]
  · exact (pairsBeside_iterator hpurl).trans (pairsBeside_iterator hqurl).symm
  · -- Before the headers of the call only the number is added to those of the client.
    have hnumbered : ∀ id, (Sent.numbered c id 0).get n = c.headers.get n := fun id =>
      Headers.get_add_of_ne hn
    simp only [hget, hget', hnumbered, hbody]

end Requests

/-! ## Walks through lists -/

/-- Requests for pages: one for each page, which differ in the iterator only. -/
structure IsPaged {α : Type} (c : Client) (s : WalkCircumstances) (pages : List (Page α))
    (sent : List Sent) : Prop where
  count : sent.length = pages.length
  /-- The first request has no iterator but those of the server. -/
  first : ∀ a, sent[0]? = some a → a.url.valuesOf "iterator" = c.baseUrl.valuesOf "iterator"
  /-- Each later one has one more, which is that of the page before. -/
  next : ∀ i page a, pages[i]? = some page → sent[i + 1]? = some a →
    ∃ iterator, page.iterator = some iterator ∧
      a.url.valuesOf "iterator" = c.baseUrl.valuesOf "iterator" ++ [iterator]
  same : ∀ a ∈ sent, ∀ b ∈ sent, a.SameBeside "iterator" b
  numbered : ∀ i a, sent[i]? = some a → a.headers.get Sent.requestIdName =
    c.headers.get Sent.requestIdName ++ [Sent.number (s.requestId i)]

/-- A service answers the calls of a walk through the list of an operation with pages. -/
def ServesAll (c : Client) (op : Operation) (args : op.Arguments) (item : WireType)
    (s : WalkCircumstances) (pages : List (Page item.carrier)) : Prop :=
  let _ := item.wire
  c.Serves (op.pageRequest args) s 0 s.startedAt none pages

theorem asks_of_servesAll {c : Client} {op : Operation} {args : op.Arguments} {item : WireType}
    {s : WalkCircumstances} {pages : List (Page item.carrier)}
    (hserves : c.ServesAll op args item s pages) {fuel : Nat} (hfuel : Suffices pages fuel) :
    List.Forall₂ (c.Asks (op.pageRequest args) s) (Page.cursorsOf none pages).zipIdx
      (c.useForAll op args item s fuel).state.sent := by
  let _ := item.wire
  have hcalls : (⟨[], 0, s.startedAt⟩ : Calls item.carrier).StandAt 0 s.startedAt :=
    ⟨rfl, rfl, rfl⟩
  obtain ⟨sent, hsent, hall⟩ := go_of_serves hserves hfuel hcalls []
  rw [show (c.useForAll op args item s fuel).state.sent = sent from hsent]
  exact hall

/-- If a service answers the calls of a walk with pages, the walk sends a request for each page.
Each request but the first has the iterator of the page before, and beside the iterators and the
numbers of the calls all of them are the same. -/
theorem isPaged_of_serves {c : Client} {op : Operation} (hop : op ∈ Operation.catalog)
    {item : WireType} (hitem : op.answer = .page item) {args : op.Arguments}
    {s : WalkCircumstances} {pages : List (Page item.carrier)}
    (hserves : c.ServesAll op args item s pages) {fuel : Nat} (hfuel : Suffices pages fuel) :
    c.IsPaged s pages (c.useForAll op args item s fuel).state.sent := by
  let _ := item.wire
  have hpage : op.answer.item?.isSome := by
    rw [hitem]
    rfl
  have hall := asks_of_servesAll hserves hfuel
  generalize (c.useForAll op args item s fuel).state.sent = sent at hall
  have hcount : sent.length = pages.length := by
    rw [← hall.length_eq, List.length_zipIdx, Page.length_cursorsOf]
  refine ⟨hcount, fun a ha => ?_, fun i page a hi ha => ?_, fun a ha b hb => ?_, fun i a ha => ?_⟩
  · obtain ⟨iterator, hiterator, hask⟩ := exists_asks_of_getElem? hall ha
    rw [hask.valuesOf_iterator hop hpage, Page.eq_of_getElem?_zero_cursorsOf hiterator]
    exact List.append_nil _
  · obtain ⟨iterator, hiterator, hask⟩ := exists_asks_of_getElem? hall ha
    obtain ⟨page', hi', rfl⟩ := Page.exists_of_getElem?_cursorsOf hiterator
    obtain rfl : page = page' := Option.some.inj (hi.symm.trans hi')
    have hnext : i + 1 < pages.length := hcount ▸ (List.getElem?_eq_some_iff.1 ha).1
    obtain ⟨iterator, hpage'⟩ :=
      Option.ne_none_iff_exists'.1 (Serves.iterator_ne_none hserves hi hnext)
    refine ⟨iterator, hpage', ?_⟩
    rw [hask.valuesOf_iterator hop hpage, hpage']
    rfl
  · obtain ⟨i, hi⟩ := List.mem_iff_getElem?.1 ha
    obtain ⟨j, hj⟩ := List.mem_iff_getElem?.1 hb
    obtain ⟨_, _, hask⟩ := exists_asks_of_getElem? hall hi
    obtain ⟨_, _, hask'⟩ := exists_asks_of_getElem? hall hj
    exact hask.sameBeside hop hpage hask'
  · obtain ⟨_, _, hask⟩ := exists_asks_of_getElem? hall ha
    exact hask.get_requestIdName hop hpage

/-! ## A list in two pages -/

section Encoded

variable {α : Type} [Json.Wire α] [Json.Plain α] [Json.Restored α] {c : Client}
  {s : WalkCircumstances} {r : Request} {number now time : Nat} {page : Page α}

/-- A service that sends the text of a page answers with that page, whatever its iterator is. -/
theorem isAnsweredBy_of_encode {p : Request.Prepared} (hp : r.prepare c.baseUrl = .ok p)
    (hurl : p.url.withoutUser.isSendable = true)
    (hreply : s.reply number = .response time 200 (Utf8.encode (Json.encode page).toList))
    (htime : time < c.timeout) (hdeadline : s.deadline = none) (hplain : Json.IsPlain page)
    (hdepth : (Json.Wire.write page).FitsIn Json.maxDepth) :
    c.IsAnsweredBy s number now r time page := by
  have hbody : Reply.bodyText 200 (Utf8.encode (Json.encode page).toList) = Json.encode page := by
    show String.ofList (Utf8.decode _) = _
    rw [Utf8.decode_encode, String.ofList_toList]
  -- The text is that of an object, so it begins with a brace.
  have hblank : Text.allBlank (Json.encode page).toList = false := by
    show Text.allBlank (String.ofList ('\x7b' :: _)).toList = false
    rw [String.toList_ofList]
    rfl
  have hsettle : (s.reply number).settle c.timeout p.url =
      ⟨time, .received 200 (Json.encode page), true⟩ := by
    rw [hreply, Reply.settle_response hurl htime, hbody]
  have hread : Json.decode (answerText (Json.encode page)) = .ok page := by
    rw [answerText, if_neg (Bool.eq_false_iff.1 hblank)]
    exact Json.decode_encode hplain hdepth
  refine ⟨⟨p, 200, _, true, hp, hsettle, ⟨by omega, by omega⟩, hread⟩, ?_⟩
  intro d hd
  rw [hdeadline] at hd
  cases hd

end Encoded

open Operation

/-- Settings whose server has an iterator in its query. -/
def pagedSettings : Settings :=
  { Settings.ofToken "testsk" with serverUrl := some "http://api.test/?iterator=x" }

/-- The client of `pagedSettings`. -/
def pagedClient : Client :=
  { testClient with
    baseUrl :=
      ⟨"http".toList, [], [], some (.name "api.test"), none, .segments [[]],
        some "iterator=x".toList, none⟩
    scheme_allowed := rfl }

theorem build_pagedSettings : build .plainNames pagedSettings = .ok pagedClient := rfl

theorem valuesOf_pagedClient : pagedClient.baseUrl.valuesOf "iterator" = ["x"] := by
  have hparse : Url.Form.parse "iterator=x".toList = [("iterator", "x")] :=
    Url.Form.parse_encodePair ("iterator", "x")
  show ((Url.Form.parse "iterator=x".toList).filter _).map _ = _
  rw [hparse]
  rfl

/-- A page without items. -/
def emptyPage (iterator : Option String) : Page ApplicationOut :=
  ⟨[], iterator.isNone, iterator, none⟩

theorem isPlain_emptyPage (iterator : Option String) : Json.IsPlain (emptyPage iterator) :=
  ⟨List.forall_mem_nil _, trivial, fun _ _ => trivial, fun _ _ => trivial, trivial⟩

theorem fitsIn_emptyPage (iterator : Option String) :
    (Json.Wire.write (emptyPage iterator)).FitsIn Json.maxDepth := by
  have hdata : (Json.list []).FitsIn 126 := .list (List.forall_mem_nil _)
  cases iterator with
  | none => exact .object (List.forall_mem_cons.2 ⟨hdata, List.forall_mem_singleton.2 (.bool _ _)⟩)
  | some text =>
    refine .object (List.forall_mem_cons.2 ⟨hdata, List.forall_mem_cons.2 ⟨.bool _ _, ?_⟩⟩)
    exact List.forall_mem_singleton.2 (.string _ _)

/-- An iterator with marks of queries, of escapes and of JSON. -/
def strayIterator : String := "a+b&c=%20\"é"

/-- A service that answers with the two pages. -/
def pagedCircumstances : WalkCircumstances where
  reply n :=
    .response 20 200
      (Utf8.encode (Json.encode (emptyPage (if n = 0 then some strayIterator else none))).toList)
  startedAt := 0
  deadline := none
  requestId n := n

/-- The arguments that ask for the applications. -/
def everyApplication : Application.list.Arguments where
  ids := []
  options := (none, none, none, ())
  payload := ()
  idempotencyKey := none
  length_ids := by decide

/-- The URL of the applications, with a query. -/
def pagedUrl (query : List Char) : Url :=
  { pagedClient.baseUrl with
    location := .segments ["api".toList, "v1".toList, "app".toList]
    query := some query }

theorem isSendable_pagedUrl {query : List Char} (h : query.length ≤ 1000) :
    (pagedUrl query).withoutUser.isSendable = true := by
  have hrender : (pagedUrl query).withoutUser.render =
      "http://api.test/api/v1/app".toList ++ ('?' :: query ++ []) := rfl
  have hlength : "http://api.test/api/v1/app".toList.length = 26 := rfl
  have hshort : (pagedUrl query).withoutUser.render.length ≤ maxUrlLength := by
    rw [hrender, List.length_append, hlength, List.append_nil, List.length_cons, maxUrlLength]
    omega
  unfold Url.isSendable
  rw [decide_eq_true hshort]
  rfl

theorem servesAll_pagedClient :
    pagedClient.ServesAll Application.list everyApplication ⟨ApplicationOut⟩ pagedCircumstances
      [emptyPage strayIterator, emptyPage none] := by
  have hfirst : (Application.list.pageRequest everyApplication none).prepare pagedClient.baseUrl =
      .ok ⟨.get, pagedUrl "iterator=x".toList, .empty, none⟩ := rfl
  have hsecond : (Application.list.pageRequest everyApplication strayIterator).prepare
      pagedClient.baseUrl = .ok ⟨.get, pagedUrl
        "iterator=x&iterator=a%2Bb%26c%3D%2520%22%C3%A9".toList, .empty, none⟩ := rfl
  have htime : 20 < pagedClient.timeout := by decide
  have hanswered : ∀ now, pagedClient.IsAnsweredBy pagedCircumstances 0 now
      (Application.list.pageRequest everyApplication none) 20 (emptyPage strayIterator) := fun _ =>
    isAnsweredBy_of_encode hfirst (isSendable_pagedUrl (by decide)) rfl htime rfl
      (isPlain_emptyPage _) (fitsIn_emptyPage _)
  have hanswered' : ∀ now, pagedClient.IsAnsweredBy pagedCircumstances 1 now
      (Application.list.pageRequest everyApplication strayIterator) 20 (emptyPage none) := fun _ =>
    isAnsweredBy_of_encode hsecond (isSendable_pagedUrl (by decide)) rfl htime rfl
      (isPlain_emptyPage _) (fitsIn_emptyPage _)
  exact .cons (hanswered _) (fun _ => ⟨rfl, Option.some_ne_none _⟩)
    (.cons (hanswered' _) (fun h => absurd rfl h) (.nil _ _ _))

theorem suffices_emptyPages : Suffices [emptyPage strayIterator, emptyPage none] 9 :=
  .inr ⟨by decide, _, rfl, .inl rfl⟩

/-- The second request has the iterator of the server and that of the first page. -/
theorem valuesOf_secondRequest :
    ∃ a, (pagedClient.useForAll Application.list everyApplication ⟨ApplicationOut⟩
        pagedCircumstances 9).state.sent[1]? = some a ∧
      a.url.valuesOf "iterator" = ["x", strayIterator] := by
  have hmem : Application.list ∈ catalog := by simp [catalog, Application.all]
  obtain ⟨hcount, -, hnext, -⟩ :=
    isPaged_of_serves hmem rfl servesAll_pagedClient suffices_emptyPages
  have hlength : 1 < (pagedClient.useForAll Application.list everyApplication ⟨ApplicationOut⟩
      pagedCircumstances 9).state.sent.length := by
    rw [hcount]
    exact Nat.lt_succ_self 1
  obtain ⟨a, ha⟩ : ∃ a, _ = some a := ⟨_, List.getElem?_eq_getElem hlength⟩
  obtain ⟨iterator, hiterator, hvalues⟩ := hnext 0 _ a rfl ha
  obtain rfl := Option.some.inj hiterator
  rw [valuesOf_pagedClient] at hvalues
  exact ⟨a, ha, hvalues⟩

/-- Where the query of the server has an iterator, the first request has one too. -/
theorem not_forall_first_without_iterator :
    ¬ ∀ (settings : Settings) (c : Client) (op : Operation) (item : WireType)
      (args : op.Arguments) (s : WalkCircumstances) (pages : List (Page item.carrier)) (fuel : Nat),
      build .plainNames settings = .ok c → op ∈ catalog → op.answer = .page item →
      c.ServesAll op args item s pages → Suffices pages fuel →
      ∀ a, (c.useForAll op args item s fuel).state.sent[0]? = some a →
        a.url.valuesOf "iterator" = [] := by
  intro hall
  have hmem : Application.list ∈ catalog := by simp [catalog, Application.all]
  have hasks := asks_of_servesAll servesAll_pagedClient suffices_emptyPages
  cases hsent : (pagedClient.useForAll Application.list everyApplication ⟨ApplicationOut⟩
      pagedCircumstances 9).state.sent with
  | nil =>
    rw [hsent] at hasks
    cases hasks
  | cons a sent =>
    have hnone := hall pagedSettings pagedClient _ _ _ _ _ _ build_pagedSettings hmem rfl
      servesAll_pagedClient suffices_emptyPages a (by rw [hsent]; rfl)
    rw [hsent] at hasks
    cases hasks with
    | cons hask _ =>
      rw [hask.valuesOf_iterator hmem rfl, valuesOf_pagedClient] at hnone
      cases hnone

end Client

end WebhookClient
