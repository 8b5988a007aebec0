import CameraFeed.Proofs.Console.Sessions
import CameraFeed.Proofs.Filter.Sharing
import CameraFeed.Proofs.Url.Queries
import CameraFeed.Push.Transport

/-! # Subscribing — the request of a subscription

  `Endpoint.connect` hands a request to the network, an HTTP request or a WebSocket handshake, for
  the address of the endpoint with the pairs of the filter appended to its query.
  `Push.subscribed_of_made` says that the pairs are appended behind the query that the address has
  already, that the scheme, the authority, the path and the fragment stay, and that reading the
  query gives the filter merged with that of the address. For an address without a query, the query
  of both requests is the text that is printed when the filter is shared. -/

namespace CameraFeed

open Console (Session)
open Feed (Command)
open Push (Endpoint EventSource WebSocket)

namespace Url

variable {u : Url} {f : Filter}

/-- The query of an address, which is empty if there is none. -/
def queryText (u : Url) : String := String.ofList (u.query.getD [])

theorem queryText_of_none (h : u.query = none) : u.queryText = "" := by
  unfold queryText
  rw [h]
  rfl

/-- A name and a password are no part of the query. -/
theorem queryText_anonymous (u : Url) : u.anonymous.queryText = u.queryText := rfl

theorem withPairs_of_isEmpty (h : f.isEmpty = true) (u : Url) : u.withPairs f.pairs = u := by
  unfold withPairs
  rw [Filter.isEmpty_iff.mp h]
  rfl

/-- Pairs at the end of a query are kept apart from what is there already. -/
theorem extended_eq (query : Option (List Char)) (f : Filter) :
    extended query f.pairs =
      (if String.ofList (query.getD []) = "" then f.toQuery
        else String.ofList (query.getD []) ++ "&" ++ f.toQuery).toList := by
  cases query with
  | none => exact f.toList_toQuery.symm
  | some cs =>
    cases cs with
    | nil => exact f.toList_toQuery.symm
    | cons c cs =>
      have hne : String.ofList (c :: cs) ≠ "" := by
        intro h
        have hlist := congrArg String.toList h
        rw [String.toList_ofList] at hlist
        cases hlist
      simp only [Option.getD_some, if_neg hne]
      simp [extended, f.toList_toQuery]

theorem withPairs_of_not_isEmpty (h : f.isEmpty = false) (u : Url) :
    u.withPairs f.pairs = { u with
      query := some (if u.queryText = "" then f.toQuery
        else u.queryText ++ "&" ++ f.toQuery).toList } := by
  have hpairs : ¬f.pairs.isEmpty = true := by
    rw [List.isEmpty_iff, ← Filter.isEmpty_iff, h]
    decide
  unfold withPairs
  rw [if_neg hpairs, extended_eq]
  rfl

/-- The query with a filter at its end. -/
theorem queryText_withPairs (h : f.isEmpty = false) (u : Url) :
    (u.withPairs f.pairs).queryText =
      if u.queryText = "" then f.toQuery else u.queryText ++ "&" ++ f.toQuery := by
  rw [withPairs_of_not_isEmpty h]
  exact String.ofList_toList

/-- Without a query before it, the filter is all that the address asks for. -/
theorem queryText_withPairs_of_none (h : u.query = none) (f : Filter) :
    (u.withPairs f.pairs).queryText = f.toQuery := by
  by_cases hempty : f.isEmpty = true
  · rw [withPairs_of_isEmpty hempty, queryText_of_none h, Filter.toQuery_eq_empty_iff.mpr hempty]
  · rw [queryText_withPairs (Bool.eq_false_iff.mpr hempty), if_pos (queryText_of_none h)]

end Url

namespace Filter

variable {f : Filter}

theorem Filled.eq_empty (h : f.Filled) (hempty : f.isEmpty = true) : f = empty := by
  rw [← h.ofQuery_toQuery, toQuery_eq_empty_iff.mpr hempty]
  rfl

/-- The filter of the query is that of the address merged with the filter that was appended. -/
theorem Filled.ofQuery_withPairs (h : f.Filled) (u : Url) :
    ofQuery (u.withPairs f.pairs).queryText = (ofQuery u.queryText).merge f := by
  by_cases hempty : f.isEmpty = true
  · rw [Url.withPairs_of_isEmpty hempty, h.eq_empty hempty, merge_empty]
  rw [Url.queryText_withPairs (Bool.eq_false_iff.mpr hempty)]
  by_cases hquery : u.queryText = ""
  · rw [if_pos hquery, hquery, h.ofQuery_toQuery]
    exact f.empty_merge.symm
  · rw [if_neg hquery, ofQuery_append u.queryText f.head?_toQuery_ne, h.ofQuery_toQuery]

end Filter

/-! ### Places on a server -/

theorem Push.EventSource.query_of_new {client : Http.Client} {base : String} {limit : Time.Span}
    {s : EventSource} {u : Url} (hu : Url.read base = .ok u)
    (h : EventSource.new client base limit = .ok s) : s.address.query = none ↔ u.query = none := by
  rw [EventSource.new] at h
  cases hread : Url.read (base ++ EventSource.path) with
  | error fault =>
    rw [hread] at h
    cases h
  | ok address =>
    rw [hread] at h
    cases h
    exact Url.query_append (by decide) (by decide) hu hread

theorem Push.WebSocket.query_of_new {base : String} {token : Option String} {w : WebSocket}
    {u : Url} (hu : Url.read base = .ok u) (h : WebSocket.new base token = .ok w) :
    w.address.query = none ↔ u.query = none := by
  rw [WebSocket.new] at h
  cases hread : Url.read (base ++ WebSocket.path) with
  | error fault =>
    rw [hread] at h
    cases h
  | ok address =>
    rw [hread] at h
    cases h
    exact Url.query_append (by decide) (by decide) hu hread

/-! ### Requests -/

/-- The request of a client for an address with a filter at its end. -/
theorem Http.Client.queryText_request {u : Url} (h : u.query = none) (c : Client) (f : Filter)
    (accept : Option String) :
    (c.request (u.withPairs f.pairs) accept).address.queryText = f.toQuery := by
  show (u.withPairs f.pairs).anonymous.queryText = _
  rw [Url.queryText_anonymous, Url.queryText_withPairs_of_none h]

namespace Push

/-- An event source sends its request for the filter to the network. -/
theorem EventSource.queryText_request {s : EventSource} (h : s.address.query = none) (f : Filter) :
    (s.request f).address.queryText = f.toQuery ∧
      ∀ network, (Endpoint.eventSource s).connect network f
        = s.attempt (s.request f) (network.answer (s.request f)) :=
  ⟨s.client.queryText_request h f _, fun _ => rfl⟩

/-- A socket sends its request for the filter to the network, unless its token cannot be sent. -/
theorem WebSocket.queryText_request {w : WebSocket} (h : w.address.query = none) (f : Filter) :
    (∃ request, w.request f = .ok request ∧ request.address.queryText = f.toQuery ∧
      ∀ network, (Endpoint.webSocket w).connect network f
        = attempt request (network.handshake request)) ∨
      Http.Client.new? w.token = none := by
  cases hclient : Http.Client.new? w.token with
  | none => exact .inr rfl
  | some client =>
    have hrequest : w.request f = .ok (client.request (w.address.withPairs f.pairs) none) := by
      rw [request, hclient]
    refine .inl ⟨_, hrequest, client.queryText_request h f none, fun network => ?_⟩
    rw [Endpoint.connect, hrequest]

end Push

/-! ### Printing -/

/-- The line that shares the filter prints its query, and that is all it prints. -/
theorem Console.Session.taken_of_share {s : Session} {line : String}
    (hline : Command.read line = .ok .share) (hrunning : s.ending = none)
    (hscreen : s.console.screen.breakage = none) (now : Time.Instant) :
    (s.step now (.line line)).console.screen.taken
      = .flush :: .write (s.feed.filter.toQuery ++ "\n") :: s.console.screen.taken := by
  have hstep : s.step now (.line line) = s.takeLine now line := by
    rw [step, hrunning]
    rfl
  have hcommand : s.takeLine now line
      = answer ⟨s.console, s.feed, none⟩ now (.message s.feed.filter.toQuery) :=
    takeLine_of_command hline (by decide) now
  have hanswer := answer_of_sound (s := ⟨s.console, s.feed, none⟩) hscreen now
    (.message s.feed.filter.toQuery)
  rw [hstep, hcommand, hanswer]
  rfl

/-! ### The main statement -/

/-- Appending a filter that can be made changes nothing of an address but its query, and an empty
filter changes nothing at all. The filter of the new query is that of the old one merged with the
filter appended. The request of each transport goes to that address; for an address without a query,
its query is the text that is printed when the filter is shared, from which the filter is read back.
The address of a transport has a query exactly if the address of its server has one. -/
theorem Push.subscribed_of_made {f : Filter} (h : f.Made) :
    (∀ u : Url, f.isEmpty = true → u.withPairs f.pairs = u) ∧
      (∀ u : Url, f.isEmpty = false → u.withPairs f.pairs = { u with
        query := some (if u.queryText = "" then f.toQuery
          else u.queryText ++ "&" ++ f.toQuery).toList }) ∧
      (∀ u : Url, Filter.ofQuery (u.withPairs f.pairs).queryText
        = (Filter.ofQuery u.queryText).merge f) ∧
      (∀ s : EventSource, s.address.query = none →
        (s.request f).address.queryText = f.toQuery ∧
          ∀ network, (Endpoint.eventSource s).connect network f
            = s.attempt (s.request f) (network.answer (s.request f))) ∧
      (∀ w : WebSocket, w.address.query = none →
        (∃ request, w.request f = .ok request ∧ request.address.queryText = f.toQuery ∧
          ∀ network, (Endpoint.webSocket w).connect network f
            = WebSocket.attempt request (network.handshake request)) ∨
          Http.Client.new? w.token = none) ∧
      (∀ (base : String) (u : Url), Url.read base = .ok u →
        (∀ client limit s, EventSource.new client base limit = .ok s →
          (s.address.query = none ↔ u.query = none)) ∧
        ∀ token w, WebSocket.new base token = .ok w →
          (w.address.query = none ↔ u.query = none)) ∧
      (∀ (session : Session) (now : Time.Instant) (line : String),
        session.ending = none → session.console.screen.breakage = none →
        session.feed.filter = f → Command.read line = .ok .share →
        (session.step now (.line line)).console.screen.taken
          = .flush :: .write (f.toQuery ++ "\n") :: session.console.screen.taken) ∧
      Filter.ofQuery f.toQuery = f := by
  have hfilled := h.filled
  refine ⟨fun u hempty => u.withPairs_of_isEmpty hempty,
    fun u hsome => u.withPairs_of_not_isEmpty hsome, hfilled.ofQuery_withPairs,
    fun s hs => s.queryText_request hs f, fun w hw => w.queryText_request hw f,
    fun base u hu => ⟨fun client limit s => EventSource.query_of_new hu,
      fun token w => WebSocket.query_of_new hu⟩, ?_, hfilled.ofQuery_toQuery⟩
  intro session now line hrunning hscreen hfilter hline
  rw [Session.taken_of_share hline hrunning hscreen, hfilter]

/-- A place on a server, with what follows its path. -/
def Push.placeOnServer (query fragment : Option String) : Url :=
  ⟨"http".toList, some ⟨[], "nvr.local".toList, some 8080⟩, .segments ["api".toList],
    query.map String.toList, fragment.map String.toList⟩

/-- A query with a mark too many and a broken escape stays in front of the filter, and so does the
fragment behind it. -/
theorem Push.subscribed_of_typed :
    (Filter.ofTyped ["cam&2 "] ["é"] []).Made ∧
      ((placeOnServer (some "?codes=a&%zz") (some "top")).withPairs
          (Filter.ofTyped ["cam&2 "] ["é"] []).pairs).text
        = "http://nvr.local:8080/api??codes=a&%zz&device-uuids=cam%262&codes=%C3%A9#top" ∧
      Filter.ofQuery ((placeOnServer (some "?codes=a&%zz") (some "top")).withPairs
          (Filter.ofTyped ["cam&2 "] ["é"] []).pairs).queryText
        = (Filter.ofTyped [] ["a"] []).merge (Filter.ofTyped ["cam&2"] ["é"] []) ∧
      (EventSource.request ⟨⟨none⟩, placeOnServer none (some "top"), .of 30 0⟩
          (Filter.ofTyped ["cam&2 "] ["é"] [])).address.queryText
        = "device-uuids=cam%262&codes=%C3%A9" ∧
      ∃ request, WebSocket.request ⟨placeOnServer none none, none⟩
          (Filter.ofTyped ["cam&2 "] ["é"] []) = .ok request ∧
        request.address.queryText = "device-uuids=cam%262&codes=%C3%A9" ∧
        ∀ network, (Endpoint.webSocket ⟨placeOnServer none none, none⟩).connect network
            (Filter.ofTyped ["cam&2 "] ["é"] [])
          = WebSocket.attempt request (network.handshake request) := by
  have hmade : (Filter.ofTyped ["cam&2 "] ["é"] []).Made := .ofTyped _ _ _
  obtain ⟨-, hextended, hread, hsource, hsocket, -⟩ := subscribed_of_made hmade
  have hquery : (Filter.ofTyped ["cam&2 "] ["é"] []).toQuery
      = "device-uuids=cam%262&codes=%C3%A9" := by decide +kernel
  have hrequest := (hsocket ⟨placeOnServer none none, none⟩ rfl).resolve_right (by decide)
  rw [hquery] at hrequest
  refine ⟨hmade, ?_, ?_, ?_, hrequest⟩
  · rw [hextended _ (by decide +kernel)]
    decide +kernel
  · rw [hread]
    decide +kernel
  · rw [(hsource _ rfl).1, hquery]

end CameraFeed
