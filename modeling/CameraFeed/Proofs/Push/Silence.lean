import CameraFeed.Proofs.EventStream.Chunks
import CameraFeed.Proofs.Feed.Attempts
import CameraFeed.Push.Transport

/-! # Silence — connections on which nothing arrives for longer than a limit

  `Traffic` gives each item of a connection the time since the one before it, and `Traffic.seen` is
  what a reader with a limit on that time reads: a silence before each item that is late. An event
  source has such a limit. `errored_of_silence` says that a silence fails its connection right after
  the frames that are complete, so that the task of the subscription sends `errored` and connects
  again. A web socket has no limit: `outlasts_of_silence` says that a silence changes nothing of its
  connection, and that a task which opened it sends the events and nothing else. -/

namespace CameraFeed

namespace Push

/-! ### Traffic -/

/-- The items of an open connection with their times. -/
structure Traffic (α : Type) where
  /-- Each item, with the time since the one before it. -/
  items : List (Time.Span × α)
  /-- The time between the last item and the end of the connection. Without an end the connection
  stays open and silent. -/
  ending : Option Time.Span

namespace Traffic

variable {α : Type}

/-- The items, at whatever time. -/
def contents (t : Traffic α) : List α := t.items.map Prod.snd

/-- The time is longer than the limit. -/
def exceeds (limit wait : Time.Span) : Bool := limit.nanos < wait.nanos

/-- The items before the first one that is late. -/
def prompt (limit : Time.Span) (t : Traffic α) : List α :=
  (t.items.takeWhile fun i => !exceeds limit i.1).map Prod.snd

/-- Some item is late, or the end is, or there is none. -/
def fallsSilent (limit : Time.Span) (t : Traffic α) : Bool :=
  t.items.any (fun i => exceeds limit i.1) || t.ending.all (exceeds limit)

/-- The items that a reader with a limit reads: a silence comes before each one that is late and
before a late end. -/
def seen (limit : Time.Span) (silence : α) (t : Traffic α) : List α :=
  (t.items.flatMap fun i => if exceeds limit i.1 then [silence, i.2] else [i.2])
    ++ if t.ending.all (exceeds limit) then [silence] else []

theorem seen_of_late {limit : Time.Span} {i : Time.Span × α} (h : exceeds limit i.1 = true)
    (silence : α) (items : List (Time.Span × α)) (ending : Option Time.Span) :
    seen limit silence ⟨i :: items, ending⟩
      = silence :: i.2 :: seen limit silence ⟨items, ending⟩ := by
  simp [seen, h]

theorem seen_of_prompt {limit : Time.Span} {i : Time.Span × α} (h : exceeds limit i.1 = false)
    (silence : α) (items : List (Time.Span × α)) (ending : Option Time.Span) :
    seen limit silence ⟨i :: items, ending⟩ = i.2 :: seen limit silence ⟨items, ending⟩ := by
  simp [seen, h]

/-- The first silence comes right after the items that are not late. -/
theorem seen_of_fallsSilent {limit : Time.Span} {t : Traffic α} (h : t.fallsSilent limit = true)
    (silence : α) : ∃ rest, t.seen limit silence = t.prompt limit ++ silence :: rest := by
  obtain ⟨items, ending⟩ := t
  induction items with
  | nil =>
    have hend : ending.all (exceeds limit) = true := by simpa [fallsSilent] using h
    exact ⟨[], by simp [seen, prompt, hend]⟩
  | cons i items ih =>
    cases hlate : exceeds limit i.1 with
    | true =>
      refine ⟨i.2 :: seen limit silence ⟨items, ending⟩, ?_⟩
      rw [seen_of_late hlate]
      simp [prompt, hlate]
    | false =>
      have hlater : fallsSilent limit ⟨items, ending⟩ = true := by
        simpa [fallsSilent, hlate] using h
      obtain ⟨rest, hrest⟩ := ih hlater
      refine ⟨rest, ?_⟩
      calc seen limit silence ⟨i :: items, ending⟩
          = i.2 :: seen limit silence ⟨items, ending⟩ := seen_of_prompt hlate silence items ending
        _ = i.2 :: (prompt limit ⟨items, ending⟩ ++ silence :: rest) := by rw [hrest]
        _ = prompt limit ⟨i :: items, ending⟩ ++ silence :: rest := by simp [prompt, hlate]

end Traffic

/-! ### Event sources -/

namespace EventSource

open EventStream (Decoder)

/-- A silence fails the connection, right after the frames that are complete by then. Nothing after
it is read. -/
theorem arrivals_of_silence (limit : Time.Span) (d : Decoder) (chunks : List (List UInt8))
    (rest : List Http.Part) :
    arrivals limit d (chunks.map .chunk ++ .silence :: rest)
      = (d.pushAll chunks).1.flatten.map (fun frame => .message (.frame frame))
        ++ [.failure (.stale limit)] := by
  induction chunks generalizing d with
  | nil => rfl
  | cons chunk chunks ih =>
    simp only [List.map_cons, List.cons_append, arrivals, ih, Decoder.pushAll, List.flatten_cons,
      List.map_append, List.append_assoc]

theorem staleTimeout_of_new {client : Http.Client} {base : String} {limit : Time.Span}
    {s : EventSource} (h : new client base limit = .ok s) : s.staleTimeout = limit := by
  rw [new] at h
  cases hread : Url.read (base ++ path) with
  | error fault =>
    rw [hread] at h
    cases h
  | ok address =>
    rw [hread] at h
    cases h
    rfl

end EventSource

/-- The limit of an event source is the one that is configured for the server. -/
theorem Endpoint.staleTimeout_of_new {client : Http.Client} {server : Server} {s : EventSource}
    (h : Endpoint.new .eventStream client server = .ok (.eventSource s)) :
    s.staleTimeout = server.staleTimeout := by
  rw [Endpoint.new] at h
  cases hnew : EventSource.new client server.url server.staleTimeout with
  | error fault =>
    rw [hnew] at h
    cases h
  | ok s' =>
    rw [hnew] at h
    cases h
    exact EventSource.staleTimeout_of_new hnew

/-! ### Web sockets -/

namespace WebSocket

theorem connection_cons {xs ys : List Incoming} (h : connection xs = connection ys) (i : Incoming) :
    connection (i :: xs) = connection (i :: ys) := by
  cases i with
  | text s | other | silence => simp only [connection, h]
  | close | failure fault => rfl

/-- Silences leave the connection of a socket as it is, whatever the limit. -/
theorem connection_seen (limit : Time.Span) (t : Traffic Incoming) :
    connection (t.seen limit .silence) = connection t.contents := by
  obtain ⟨items, ending⟩ := t
  induction items with
  | nil =>
    -- The silence at the end, if there is one, is passed over.
    rw [Traffic.seen, List.flatMap_nil, List.nil_append]
    split <;> rfl
  | cons i items ih =>
    have hcons := connection_cons ih i.2
    cases hlate : Traffic.exceeds limit i.1 with
    | true =>
      rw [Traffic.seen_of_late hlate]
      exact hcons
    | false =>
      rw [Traffic.seen_of_prompt hlate]
      exact hcons

/-- A connection without a close frame and a failure stays open. -/
theorem outcome?_of_goesOn {incoming : List Incoming}
    (h : ∀ i ∈ incoming, i ≠ .close ∧ ∀ fault, i ≠ .failure fault) :
    Feed.outcome? (connection incoming) = none := by
  induction incoming with
  | nil => rfl
  | cons i rest ih =>
    have hrest := ih fun j hj => h j (List.mem_cons_of_mem i hj)
    cases i with
    | text s => exact (Feed.outcome?_message (.text s) _ _).trans hrest
    | other | silence => exact hrest
    | close => exact absurd rfl (h .close List.mem_cons_self).1
    | failure fault => exact absurd rfl ((h _ List.mem_cons_self).2 fault)

end WebSocket

end Push

namespace Feed

open Push (Attempt Client Connection Endpoint EventSource Incoming Network Server Traffic)

/-! ### Deliveries after a silence -/

/-- The messages about a connection that fails, up to the next attempt. -/
def toldOfFailed (c : Connection) : List FeedMessage :=
  .state .connecting :: .state .opened
    :: (c.events.map .event ++ [.state .errored, .state .connecting])

/-- After a connection that fails the task connects again. -/
theorem toldFrom_of_failed {c : Connection} (h : outcome? c = some .errored)
    (script : List Attempt) : ∃ more, toldFrom (.opened c :: script) = toldOfFailed c ++ more := by
  obtain ⟨more, hmore⟩ : ∃ more, toldFrom script = .state .connecting :: more := by
    cases script with
    | nil => exact ⟨_, rfl⟩
    | cons a script => exact ⟨_, toldFrom_cons a script⟩
  refine ⟨more, ?_⟩
  rw [toldFrom_cons]
  simp only [h, toldAfter, hmore, toldOfFailed, List.cons_append, List.append_assoc,
    List.nil_append]

/-- A task that opened a connection that fails sends `errored` and connects again. What it sent so
far is a prefix of these messages or starts with them, and it does not stop before. -/
theorem Maintained.told_of_failed {filter : Filter} {generation : Nat} {retry : Retry}
    {c : Connection} {script : List Attempt} {ds : List Delivery} {t : Task} {client : Client}
    (h : Maintained (.start filter generation retry) (.ofScript (.opened c :: script)) ds t client)
    (hfailed : outcome? c = some .errored) :
    (ds.map Delivery.message <+: toldOfFailed c ∨ toldOfFailed c <+: ds.map Delivery.message) ∧
      (t.offer? = none → t.proceed client = none → t.wake? = none →
        toldOfFailed c <+: ds.map Delivery.message) := by
  have haccounted := h.accounted
  obtain ⟨more, hmore⟩ := toldFrom_of_failed hfailed script
  have htold : toldOfFailed c <+: toldFrom (.opened c :: script) := ⟨more, hmore.symm⟩
  refine ⟨?_, fun hoffer hproceed hwake => ?_⟩
  · exact List.prefix_or_prefix_of_prefix ⟨_, haccounted.messages⟩ htold
  -- A task that stopped has no message left to send.
  · have hmessages := haccounted.messages
    rw [stage_of_stuck haccounted.goesOn hoffer hproceed hwake] at hmessages
    rwa [← hmessages, show toTell client.script (.reading .silent) = [] from rfl,
      List.append_nil] at htold

theorem outcome?_of_failure {c : Connection} {fault : Push.Fault}
    (h : .failure fault ∈ c.arrivals) : outcome? c = some .errored := by
  have hfails : c.fails = true := List.any_eq_true.mpr ⟨_, h, rfl⟩
  rw [outcome?, if_pos hfails]

/-- If an event source is silent for longer than its limit, its connection delivers the frames that
are complete by then and fails. Every task that opened it sends the events of these frames, sends
`errored`, and connects again. -/
theorem errored_of_silence {client : Http.Client} {server : Server} {s : EventSource}
    (hs : Endpoint.new .eventStream client server = .ok (.eventSource s)) (filter : Filter)
    {network : Network} {status : Nat} {phrase : String} {traffic : Traffic Http.Part}
    (hstatus : Http.Status.failure? status = none)
    (hanswer : network.answer (s.request filter)
      = .answer status phrase (traffic.seen server.staleTimeout .silence))
    (hsilent : traffic.fallsSilent server.staleTimeout = true) {chunks : List (List UInt8)}
    (hchunks : traffic.prompt server.staleTimeout = chunks.map .chunk) :
    ∃ c, (Endpoint.eventSource s).connect network filter = .opened c ∧
      c.arrivals = (EventStream.Decoder.new.pushAll chunks).1.flatten.map
          (fun frame => .message (.frame frame)) ++ [.failure (.stale server.staleTimeout)] ∧
      ∀ generation retry script ds t client,
        Maintained (.start filter generation retry) (.ofScript (.opened c :: script)) ds t client →
        (ds.map Delivery.message <+: toldOfFailed c ∨ toldOfFailed c <+: ds.map Delivery.message) ∧
          (t.offer? = none → t.proceed client = none → t.wake? = none →
            toldOfFailed c <+: ds.map Delivery.message) := by
  obtain ⟨rest, hseen⟩ := Traffic.seen_of_fallsSilent hsilent .silence
  rw [hchunks] at hseen
  have harrivals := EventSource.arrivals_of_silence server.staleTimeout .new chunks rest
  refine ⟨⟨EventSource.arrivals server.staleTimeout .new
    (traffic.seen server.staleTimeout .silence), true⟩, ?_, ?_, ?_⟩
  · simp only [Endpoint.connect, hanswer, EventSource.attempt, Http.Reply.body, hstatus,
      Endpoint.staleTimeout_of_new hs]
  · rw [hseen, harrivals]
  · intro generation retry script ds t client hrun
    have hfailure : .failure (.stale server.staleTimeout) ∈ EventSource.arrivals
        server.staleTimeout .new (traffic.seen server.staleTimeout .silence) := by
      rw [hseen, harrivals]
      exact List.mem_append_right _ List.mem_cons_self
    exact hrun.told_of_failed (outcome?_of_failure hfailure)

/-- If a web socket is silent for longer than any limit, its connection is the same as without that.
As long as no close frame and no failure arrives, a task that opened it sends the events, and
neither `errored` nor `closed` after them. -/
theorem outlasts_of_silence {w : Push.WebSocket} {filter : Filter} {request : Http.Request}
    (hrequest : w.request filter = .ok request) (hsent : Push.WebSocket.hindrance? request = none)
    {network : Network} {limit : Time.Span} {traffic : Traffic Incoming}
    (hhandshake : network.handshake request = .opened (traffic.seen limit .silence))
    (hgoes : ∀ i ∈ traffic.contents, i ≠ .close ∧ ∀ fault, i ≠ .failure fault) :
    ∃ c, (Endpoint.webSocket w).connect network filter = .opened c ∧
      c = Push.WebSocket.connection traffic.contents ∧
      ∀ generation retry script ds t client,
        Maintained (.start filter generation retry) (.ofScript (.opened c :: script)) ds t client →
        ds.map Delivery.message
          <+: .state .connecting :: .state .opened :: c.events.map .event := by
  refine ⟨_, ?_, rfl, ?_⟩
  · simp only [Endpoint.connect, hrequest, hhandshake, Push.WebSocket.attempt, hsent,
      Push.WebSocket.connection_seen]
  · intro generation retry script ds t client hrun
    have hmessages := hrun.accounted.messages
    rw [toldFrom_cons] at hmessages
    simp only [Push.WebSocket.outcome?_of_goesOn hgoes, toldAfter, List.append_nil] at hmessages
    exact ⟨_, hmessages⟩

/-! ### A silent server -/

/-- A server with a limit of one minute. -/
def quietServer : Server := ⟨"http://[::1]", "ws://[::1]", none, .of 60 0⟩

/-- A path on that server. -/
def quietAddress (scheme : String) (path : List String) : Url where
  scheme := scheme.toList
  authority := some ⟨[], "[::1]".toList, none⟩
  path := .segments (path.map String.toList)
  query := none
  fragment := none

/-- The event source of the server. -/
def quietSource : EventSource := ⟨⟨none⟩, quietAddress "http" ["api", "events"], .of 60 0⟩

/-- After a second there is a frame with a comment, and then nothing. -/
def quietBody : Traffic Http.Part := ⟨[(.of 1 0, .chunk [0x3A, 0x0A, 0x0A])], none⟩

/-- A network in which every server sends this traffic, as it is read with the limit. -/
def quietNetwork (body : Traffic Http.Part) (incoming : Traffic Incoming) : Network where
  answer _ := .answer 200 "OK" (body.seen quietServer.staleTimeout .silence)
  handshake _ := .opened (incoming.seen quietServer.staleTimeout .silence)

/-- The frame arrives and the connection fails. -/
theorem errored_of_quietBody :
    Endpoint.new .eventStream ⟨none⟩ quietServer = .ok (.eventSource quietSource) ∧
      quietBody.fallsSilent quietServer.staleTimeout = true ∧
      ∃ c, (Endpoint.eventSource quietSource).connect (quietNetwork quietBody ⟨[], none⟩) .empty
          = .opened c ∧
        c.arrivals = [.message (.frame ":"), .failure (.stale (.of 60 0))] := by
  have hnew : Endpoint.new .eventStream ⟨none⟩ quietServer = .ok (.eventSource quietSource) := rfl
  have hsilent : quietBody.fallsSilent quietServer.staleTimeout = true := by decide
  have hprompt : quietBody.prompt quietServer.staleTimeout
      = [[0x3A, 0x0A, 0x0A]].map .chunk := by decide
  have hstatus : Http.Status.failure? 200 = none := by decide
  have hanswer : (quietNetwork quietBody ⟨[], none⟩).answer (quietSource.request .empty)
      = .answer 200 "OK" (quietBody.seen quietServer.staleTimeout .silence) := rfl
  obtain ⟨c, hconnect, harrivals, -⟩ :=
    errored_of_silence hnew .empty hstatus hanswer hsilent hprompt
  have hdrain : EventStream.drain [0x3A, 0x0A, 0x0A] = ([[0x3A]], []) := by
    rw [EventStream.drain_of_some rfl, EventStream.drain_of_none rfl]
  have hframes : (EventStream.Decoder.new.pushAll [[0x3A, 0x0A, 0x0A]]).1 = [[":"]] := by
    have hpush : EventStream.Decoder.new.push [0x3A, 0x0A, 0x0A] = ([":"], ⟨[]⟩) := by
      rw [EventStream.Decoder.push,
        show EventStream.Decoder.new.buffer ++ EventStream.withoutReturns [0x3A, 0x0A, 0x0A]
          = [0x3A, 0x0A, 0x0A] from rfl, hdrain]
      rfl
    rw [EventStream.Decoder.pushAll, hpush]
    rfl
  rw [hframes] at harrivals
  exact ⟨hnew, hsilent, c, hconnect, harrivals⟩

/-- The socket of the server. -/
def quietSocket : Push.WebSocket := ⟨quietAddress "ws" ["v1", "ws"], none⟩

/-- After a second there is a ping, and then nothing. -/
def quietIncoming : Traffic Incoming := ⟨[(.of 1 0, .other)], none⟩

/-- A task of a subscription to everything. -/
def quietTask : Task := .start .empty 1 ⟨500, .ofMillis 30000⟩

/-- The socket of the same server does not fail. The task that opened it sends `opened`, can then
take no step, and no run of it sends anything else. -/
theorem socket_outlasts_silence :
    Endpoint.new .webSocket ⟨none⟩ quietServer = .ok (.webSocket quietSocket) ∧
      quietIncoming.fallsSilent quietServer.staleTimeout = true ∧
      (Endpoint.webSocket quietSocket).connect (quietNetwork ⟨[], none⟩ quietIncoming) .empty
        = .opened .silent ∧
      (∃ ds t client, Maintained quietTask (.ofScript [.opened .silent]) ds t client ∧
        ds.map Delivery.message = [.state .connecting, .state .opened] ∧
        t.offer? = none ∧ t.proceed client = none ∧ t.wake? = none) ∧
      ∀ ds t client, Maintained quietTask (.ofScript [.opened .silent]) ds t client →
        ds.map Delivery.message <+: [.state .connecting, .state .opened] := by
  have hgoes : ∀ i ∈ quietIncoming.contents, i ≠ .close ∧ ∀ fault, i ≠ .failure fault := by
    intro i hi
    obtain rfl := List.mem_singleton.mp hi
    exact ⟨nofun, nofun⟩
  obtain ⟨request, hrequest⟩ : ∃ request, quietSocket.request .empty = .ok request := ⟨_, rfl⟩
  have hsent : Push.WebSocket.hindrance? request = none := by
    cases hrequest
    rfl
  have hhandshake : (quietNetwork ⟨[], none⟩ quietIncoming).handshake request
      = .opened (quietIncoming.seen quietServer.staleTimeout .silence) := rfl
  obtain ⟨c, hconnect, rfl, honly⟩ := outlasts_of_silence hrequest hsent hhandshake hgoes
  refine ⟨rfl, by decide, hconnect, ?_, fun ds t client => honly 1 _ [] ds t client⟩
  have hstart : Maintained quietTask (.ofScript [.opened .silent]) [] quietTask
      (.ofScript [.opened .silent]) := .start
  have hasked := hstart.tell rfl
  have hopened := hasked.proceed rfl
  exact ⟨_, _, _, hopened.tell rfl, rfl, rfl, rfl, rfl⟩

end Feed

end CameraFeed
