import CameraFeed.Proofs.EventStream.Chunks
import CameraFeed.Push.Transport

/-! # Frames — the arrivals of a body, frame by frame

  A body consists of chunks up to its end or its first fault. A reader polls it for one arrival
  after another: a complete frame is given at once, and the next part of the body is read only when
  no complete frame is left. `arrivals_of_body` says that no arrival is lost, duplicated or out of
  order. The frames that the chunks complete come first, followed by the first fault, if there is
  one. An unfinished frame is never given. -/

namespace CameraFeed.Push

open EventSource (arrivals)
open EventStream (Cut Cutting Decoder separator withoutReturns)

/-! ### Bodies up to their first fault -/

/-- The chunks of a body before its first fault. -/
def chunksBefore : List Http.Part → List (List UInt8)
  | .chunk octets :: rest => octets :: chunksBefore rest
  | _ => []

/-- The first fault of a body. -/
def firstFault? (limit : Time.Span) : List Http.Part → Option Fault
  | [] => none
  | .chunk _ :: rest => firstFault? limit rest
  | .silence :: _ => some (.stale limit)
  | .broken :: _ => some (.request .badBody)

/-- Frames as they arrive. -/
def arriving (frames : List String) : List Arrival :=
  frames.map fun frame => .message (.frame frame)

/-- The arrivals are the frames that the chunks complete, and then the fault. -/
theorem arrivals_eq (limit : Time.Span) (d : Decoder) (parts : List Http.Part) :
    arrivals limit d parts = arriving (d.pushAll (chunksBefore parts)).1.flatten
      ++ ((firstFault? limit parts).map Arrival.failure).toList := by
  induction parts generalizing d with
  | nil => rfl
  | cons part rest ih =>
    cases part with
    | silence | broken => rfl
    | chunk octets =>
      have hrest := ih (d.push octets).2
      simp only [arrivals, hrest, chunksBefore, firstFault?, Decoder.pushAll, arriving,
        List.flatten_cons, List.map_append, List.append_assoc]

/-! ### One arrival after another -/

/-- A body that is read, one arrival at a time. -/
structure FrameStream where
  /-- The frames that are complete and were not given yet. -/
  pending : List String
  decoder : Decoder
  /-- The parts of the body that are not read yet. -/
  parts : List Http.Part

namespace FrameStream

variable {limit : Time.Span}

/-- A body before its first part is read. -/
def start (parts : List Http.Part) : FrameStream := ⟨[], .new, parts⟩

/-- The next arrival, with the frames that are pending. A chunk that completes none is passed
over. -/
def nextFrom? (limit : Time.Span) :
    List String → Decoder → List Http.Part → Option (Arrival × FrameStream)
  | frame :: pending, d, parts => some (.message (.frame frame), ⟨pending, d, parts⟩)
  | [], d, .chunk octets :: rest => nextFrom? limit (d.push octets).1 (d.push octets).2 rest
  | [], d, .silence :: rest => some (.failure (.stale limit), ⟨[], d, rest⟩)
  | [], d, .broken :: rest => some (.failure (.request .badBody), ⟨[], d, rest⟩)
  | [], _, [] => none

/-- The next arrival of a body, and none after its end. -/
def next? (limit : Time.Span) (s : FrameStream) : Option (Arrival × FrameStream) :=
  nextFrom? limit s.pending s.decoder s.parts

/-- The arrivals of a number of polls. -/
def polled (limit : Time.Span) : Nat → FrameStream → List Arrival
  | 0, _ => []
  | n + 1, s =>
    match s.next? limit with
    | none => []
    | some (a, s) => a :: s.polled limit n

/-- The arrivals to come, up to the first fault. -/
def toGive (limit : Time.Span) (s : FrameStream) : List Arrival :=
  arriving s.pending ++ arrivals limit s.decoder s.parts

/-- `Gives limit s next?`: a poll of the stream gives the first of the arrivals to come and keeps
the others. After a fault no arrival is to come. -/
inductive Gives (limit : Time.Span) (s : FrameStream) : Option (Arrival × FrameStream) → Prop where
  | ended (h : s.toGive limit = []) : Gives limit s none
  | message {m : Message} {s' : FrameStream} (h : s.toGive limit = .message m :: s'.toGive limit) :
      Gives limit s (some (.message m, s'))
  | failure {fault : Fault} {s' : FrameStream} (h : s.toGive limit = [.failure fault]) :
      Gives limit s (some (.failure fault, s'))

theorem Gives.of_toGive_eq {s t : FrameStream} {next : Option (Arrival × FrameStream)}
    (h : t.toGive limit = s.toGive limit) (hgives : Gives limit s next) : Gives limit t next := by
  cases hgives with
  | ended hgive => exact .ended (h.trans hgive)
  | message hgive => exact .message (h.trans hgive)
  | failure hgive => exact .failure (h.trans hgive)

theorem gives_nextFrom? (limit : Time.Span) (pending : List String) (d : Decoder)
    (parts : List Http.Part) :
    Gives limit ⟨pending, d, parts⟩ (nextFrom? limit pending d parts) := by
  induction parts generalizing pending d with
  | nil =>
    cases pending with
    | nil => exact .ended rfl
    | cons frame pending => exact .message rfl
  | cons part rest ih =>
    cases pending with
    | cons frame pending => exact .message rfl
    | nil =>
      cases part with
      | silence | broken => exact .failure rfl
      | chunk octets =>
        -- The frames of the chunk are to come, pending or not.
        have hsame : toGive limit ⟨[], d, .chunk octets :: rest⟩
            = toGive limit ⟨(d.push octets).1, (d.push octets).2, rest⟩ := rfl
        rw [nextFrom?]
        exact (ih (d.push octets).1 (d.push octets).2).of_toGive_eq hsame

theorem gives (limit : Time.Span) (s : FrameStream) : Gives limit s (s.next? limit) :=
  gives_nextFrom? limit s.pending s.decoder s.parts

/-- Up to the first fault, repeated polls give the arrivals to come in their order. Without a fault
they give nothing after these. -/
theorem polled_eq {s : FrameStream} {n : Nat}
    (h : n ≤ (s.toGive limit).length ∨ ∀ fault, .failure fault ∉ s.toGive limit) :
    s.polled limit n = (s.toGive limit).take n := by
  induction n generalizing s with
  | zero => rfl
  | succ n ih =>
    unfold polled
    have hgives := gives limit s
    cases hnext : s.next? limit with
    | none =>
      rw [hnext] at hgives
      cases hgives with
      | ended hgive => simp [hgive]
    | some given =>
      rw [hnext] at hgives
      cases hgives with
      | @message m s' hgive =>
        have hlater : n ≤ (s'.toGive limit).length ∨ ∀ fault, .failure fault ∉ s'.toGive limit := by
          rw [hgive] at h
          refine h.imp Nat.le_of_succ_le_succ fun hsound fault hfault => ?_
          exact hsound fault (List.mem_cons_of_mem _ hfault)
        simp only [hgive, ih hlater, List.take_succ_cons]
      | @failure fault s' hgive =>
        -- The fault is the last arrival to come, so there was no further poll.
        rw [hgive] at h ⊢
        rcases h with hless | hsound
        · obtain rfl : n = 0 := Nat.le_zero.mp (Nat.le_of_succ_le_succ hless)
          rfl
        · exact absurd (List.mem_singleton_self _) (hsound fault)

end FrameStream

/-! ### The main statement -/

theorem EventSource.connect_of_body {network : Network} {filter : Filter} {s : EventSource}
    {status : Nat} {phrase : String} {parts : List Http.Part}
    (hstatus : Http.Status.failure? status = none)
    (hanswer : network.answer (s.request filter) = .answer status phrase parts) :
    (Endpoint.eventSource s).connect network filter
      = .opened ⟨arrivals s.staleTimeout .new parts, true⟩ := by
  simp only [Endpoint.connect, hanswer, attempt, Http.Reply.body, hstatus]

/-- The arrivals of a connection to an event source are exactly the frames that are complete before
the first fault, in their order and each of them once, and then the fault. Without a fault the
connection ends after the frames. The octets after the last complete frame are in none of them.
Repeated polls give the same arrivals. -/
theorem arrivals_of_body {network : Network} {filter : Filter} {s : EventSource} {status : Nat}
    {phrase : String} {parts : List Http.Part} (hstatus : Http.Status.failure? status = none)
    (hanswer : network.answer (s.request filter) = .answer status phrase parts) :
    ∃ cuts rest c, Cutting [] 0 (chunksBefore parts).flatten cuts rest ∧
      withoutReturns (chunksBefore parts).flatten
        = (cuts.flatMap fun cut => cut.frame ++ separator) ++ rest ∧
      ¬ separator <:+: rest ∧
      (Endpoint.eventSource s).connect network filter = .opened c ∧ c.ends = true ∧
      c.arrivals = (cuts.filterMap Cut.shown?).map (fun frame => .message (.frame frame))
        ++ ((firstFault? s.staleTimeout parts).map Arrival.failure).toList ∧
      ∀ n, n ≤ c.arrivals.length ∨ firstFault? s.staleTimeout parts = none →
        (FrameStream.start parts).polled s.staleTimeout n = c.arrivals.take n := by
  have hwhole := EventStream.separator_not_infix_nil
  obtain ⟨cuts, rest, hcutting⟩ := EventStream.exists_cutting hwhole 0 (chunksBefore parts).flatten
  have hframes : (Decoder.new.pushAll (chunksBefore parts)).1.flatten
      = cuts.filterMap Cut.shown? := by
    rw [Decoder.new, hcutting.pushAll_eq hwhole, hcutting.flatten_shares hwhole]
  have harrivals := arrivals_eq s.staleTimeout .new parts
  rw [hframes, arriving] at harrivals
  have hgive : (FrameStream.start parts).toGive s.staleTimeout
      = arrivals s.staleTimeout .new parts := rfl
  refine ⟨cuts, rest, ⟨arrivals s.staleTimeout .new parts, true⟩, hcutting, hcutting.octets_eq,
    hcutting.rest_whole, EventSource.connect_of_body hstatus hanswer, rfl, harrivals, ?_⟩
  intro n hn
  rw [← hgive]
  refine FrameStream.polled_eq (hn.imp_right fun hsound fault => ?_)
  rw [hgive, harrivals, hsound]
  simp

/-- Two frames and the beginning of a third one in a chunk, a chunk of nothing, and a silence that
comes before the third frame is complete. -/
def unfinishedBody : List Http.Part :=
  [.chunk [0x61, 0x0A, 0x0A, 0x62, 0x0A, 0x0A, 0x63], .chunk [], .silence, .chunk [0x0A, 0x0A]]

/-- A source whose connections may be silent for a minute. -/
def minuteSource : EventSource :=
  ⟨⟨none⟩, ⟨"http".toList, none, .segments [], none, none⟩, .of 60 0⟩

/-- A network in which the body is the answer to every request. -/
def unfinishedNetwork : Network :=
  ⟨fun _ => .answer 200 "OK" unfinishedBody, fun _ => .unreachable noRoute⟩

/-- Both complete frames are given before the fault, and nothing of the third one. -/
theorem arrivals_of_unfinishedBody :
    Http.Status.failure? 200 = none ∧
      ∃ c, (Endpoint.eventSource minuteSource).connect unfinishedNetwork .empty = .opened c ∧
        c.arrivals
          = [.message (.frame "a"), .message (.frame "b"), .failure (.stale (.of 60 0))] ∧
        (FrameStream.start unfinishedBody).polled (.of 60 0) 3 = c.arrivals := by
  have hstatus : Http.Status.failure? 200 = none := by decide
  have hanswer : unfinishedNetwork.answer (minuteSource.request .empty)
      = .answer 200 "OK" unfinishedBody := rfl
  obtain ⟨cuts, rest, c, -, -, -, hconnect, -, -, hpolled⟩ := arrivals_of_body hstatus hanswer
  have hopened := (EventSource.connect_of_body hstatus hanswer).symm.trans hconnect
  obtain rfl := Attempt.opened.inj hopened
  have hfirst : Decoder.new.push [0x61, 0x0A, 0x0A, 0x62, 0x0A, 0x0A, 0x63]
      = (["a", "b"], ⟨[0x63]⟩) := by
    have hdrain : EventStream.drain [0x61, 0x0A, 0x0A, 0x62, 0x0A, 0x0A, 0x63]
        = ([[0x61], [0x62]], [0x63]) := by
      rw [EventStream.drain_of_some rfl, EventStream.drain_of_some rfl,
        EventStream.drain_of_none rfl]
    rw [Decoder.push, show Decoder.new.buffer
      ++ withoutReturns [0x61, 0x0A, 0x0A, 0x62, 0x0A, 0x0A, 0x63]
        = [0x61, 0x0A, 0x0A, 0x62, 0x0A, 0x0A, 0x63] from rfl, hdrain]
    rfl
  have hnothing : Decoder.push ⟨[0x63]⟩ [] = ([], ⟨[0x63]⟩) := by
    rw [Decoder.push, EventStream.withoutReturns_nil, List.append_nil,
      EventStream.drain_of_none rfl]
    rfl
  have harrivals : arrivals (.of 60 0) .new unfinishedBody
      = [.message (.frame "a"), .message (.frame "b"), .failure (.stale (.of 60 0))] := by
    simp only [unfinishedBody, arrivals, hfirst, hnothing, List.map_cons, List.map_nil,
      List.cons_append, List.nil_append]
  have hlimit : minuteSource.staleTimeout = .of 60 0 := rfl
  rw [hlimit, harrivals] at hpolled hconnect
  exact ⟨hstatus, _, hconnect, rfl, hpolled 3 (.inl (Nat.le_refl 3))⟩

end CameraFeed.Push
