import CameraFeed.Config.Settings

/-! # Startup — what the settings ask of the machine

  Before a session takes its first input, the program asks the machine for a queue, for timers, and
  for the moment at which the names of the cameras are due. Each of these has conditions, and the
  program breaks down if one is violated. Some of them hold for any settings: the queue is never
  without room, and names are never asked for again after no time at all. The others are up to the
  settings, and loading settings does not look at them. -/

namespace CameraFeed.Config

open Feed (LiveFeed)

/-! ### Demands -/

/-- A demand of the settings on the machine. -/
inductive Demand where
  /-- A queue with room for some deliveries. -/
  | queue (capacity : Nat)
  /-- A timer that goes off again and again. -/
  | timer (period : Time.Span)
  /-- The moment after a wait, on a clock that only goes on. -/
  | moment (clock wait : Time.Span)
  deriving DecidableEq, Repr

/-- The most room that a queue can have. -/
def queueLimit : Nat := (Decimal.wordLimit - 1) / 8

/-- The first time of the clock that has no moment, in nanoseconds: its seconds are signed words. -/
def momentLimit : Nat := Decimal.wordLimit / 2 * Time.Span.second

/-- The machine can do what it is asked for. -/
def Demand.Met : Demand → Prop
  | queue capacity => 1 ≤ capacity ∧ capacity ≤ queueLimit
  | timer period => period ≠ .zero
  | moment clock wait => clock.nanos + wait.nanos < momentLimit

instance : DecidablePred Demand.Met := fun
  | .queue _ => inferInstanceAs (Decidable (_ ∧ _))
  | .timer _ => inferInstanceAs (Decidable (_ ≠ _))
  | .moment _ _ => inferInstanceAs (Decidable (_ < _))

/-- All that is asked for until the first input, in its order: by the feed, for drawing, and for
asking for the names again if that is wanted. -/
def Settings.demands (s : Settings) (filter : Filter) (expanded : Bool) (clock : Time.Span) :
    List Demand :=
  .queue (LiveFeed.new filter (s.feedOptions expanded)).capacity :: .timer s.core.refreshInterval
    :: s.core.directoryRefresh.toList.flatMap fun every => [.moment clock every, .timer every]

/-! ### What the machine can do -/

/-- There is always room for one delivery at least. -/
theorem queue_met_iff (s : Settings) (filter : Filter) (expanded : Bool) :
    (Demand.queue (LiveFeed.new filter (s.feedOptions expanded)).capacity).Met
      ↔ s.core.channelBufferSize ≤ queueLimit := by
  have hcapacity : (LiveFeed.new filter (s.feedOptions expanded)).capacity
      = max s.core.channelBufferSize 1 := rfl
  have hlimit : 1 ≤ queueLimit := by decide
  rw [hcapacity, Demand.Met]
  omega

/-- The names are never asked for again after no time at all. -/
theorem reload_met_iff (c : Core) (clock : Time.Span) :
    (∀ d ∈ c.directoryRefresh.toList.flatMap fun every => [.moment clock every, .timer every],
        Demand.Met d) ↔
      c.directoryInterval = .zero ∨ clock.nanos + c.directoryInterval.nanos < momentLimit := by
  rw [Core.directoryRefresh]
  by_cases hzero : c.directoryInterval = .zero
  · simp [hzero]
  · simp [hzero, Demand.Met]

/-- The machine meets all demands if and only if the capacity of the queue is within its limit, the
refresh interval is positive, and the moment of the next reload of the names, if there is one, can
be represented by the clock. -/
theorem demands_met_iff (s : Settings) (filter : Filter) (expanded : Bool) (clock : Time.Span) :
    (∀ d ∈ s.demands filter expanded clock, d.Met) ↔
      s.core.channelBufferSize ≤ queueLimit ∧ s.core.refreshInterval ≠ .zero ∧
        (s.core.directoryInterval = .zero
          ∨ clock.nanos + s.core.directoryInterval.nanos < momentLimit) := by
  rw [Settings.demands, List.forall_mem_cons, List.forall_mem_cons, queue_met_iff, reload_met_iff,
    Demand.Met]

/-- Settings that nothing can be done with. -/
def hopelessText : String :=
  "[core]\n"
    ++ "channel_buffer_size = 9223372036854775807\n"
    ++ "refresh_interval = \"0s\"\n"
    ++ "directory_refresh_interval = \"18446744073709551615s\"\n"
    ++ "[api]\n"
    ++ "url = \"http://127.0.0.1:8080\"\n"
    ++ "websocket_url = \"ws://127.0.0.1:8080\"\n"
    ++ "retry_ms = 500\n"
    ++ "retry_max_delay = \"30s\"\n"
    ++ "stale_connection_timeout = \"90s\"\n"

/-- The settings of the text. -/
def hopelessSettings : Settings where
  core := ⟨9223372036854775807, .zero, .of 18446744073709551615 0, "info", none⟩
  api := ⟨"http://127.0.0.1:8080", "ws://127.0.0.1:8080", none, 500, .of 30 0, .of 90 0⟩

/-- They can be loaded. Whenever the program is started with them, the queue, the timer of the
drawings and the moment of the next names are out of reach. -/
theorem load_hopeless :
    load [(fileName mainName, hopelessText)] [] = .ok hopelessSettings ∧
      ∀ filter expanded clock,
        (hopelessSettings.demands filter expanded clock).filter (fun d => ¬ d.Met)
          = [.queue 9223372036854775807, .timer .zero,
              .moment clock (.of 18446744073709551615 0)] := by
  have hload : (load [(fileName mainName, hopelessText)] []).toOption = some hopelessSettings := by
    decide +kernel
  refine ⟨?_, fun filter expanded clock => ?_⟩
  · cases h : load [(fileName mainName, hopelessText)] [] with
    | ok s =>
      rw [h] at hload
      exact congrArg Except.ok (Option.some.inj hload)
    | error fault =>
      rw [h] at hload
      cases hload
  · have hdemands : hopelessSettings.demands filter expanded clock
        = [.queue 9223372036854775807, .timer .zero,
            .moment clock (.of 18446744073709551615 0),
            .timer (.of 18446744073709551615 0)] := rfl
    have hqueue : ¬ (Demand.queue 9223372036854775807).Met := by decide
    have hdrawing : ¬ (Demand.timer .zero).Met := by decide
    have hmoment : ¬ (Demand.moment clock (.of 18446744073709551615 0)).Met :=
      Nat.not_lt.mpr (Nat.le_trans (by decide) (Nat.le_add_left _ clock.nanos))
    have hreload : (Demand.timer (.of 18446744073709551615 0)).Met := by decide
    simp [hdemands, hqueue, hdrawing, hmoment, hreload]

end CameraFeed.Config
