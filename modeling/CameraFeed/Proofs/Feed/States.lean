import CameraFeed.Console.Status
import CameraFeed.Proofs.Feed.Ledger

/-! # States — the connection state in every run

  A feed changes its connection state by the deliveries in its queue, which can be of tasks that are
  over. `Leads` is the order of the states of one connection. `states_of_run` says that the state of
  the feed follows it, is `idle` exactly from a teardown on, and is never changed by a subscription
  that is over; and that `openSince` is set exactly while the state is `opened`. The invariant
  `Standing` says that the messages of the running subscription that are in the queue lead from the
  state of the feed to the state that the task sent last. -/

namespace CameraFeed.Feed

/-! ### The order of states -/

namespace ConnectionState

/-- `Leads s s'`: after `s` the next state of a connection can be `s'`. -/
inductive Leads : ConnectionState → ConnectionState → Prop where
  | connects : Leads .idle .connecting
  | opens : Leads .connecting .opened
  | refused : Leads .connecting .errored
  | ends : Leads .opened .closed
  | fails : Leads .opened .errored
  | reconnects : Leads .closed .connecting
  | retries : Leads .errored .connecting

/-- No state leads to `idle`. -/
theorem Leads.ne_idle {s s' : ConnectionState} (h : Leads s s') : s' ≠ .idle := by
  cases h <;> exact ConnectionState.noConfusion

end ConnectionState

open ConnectionState (Leads)

/-- `Passes s ms s'`: the states among the messages lead from `s` to `s'`, one by one. -/
inductive Passes : ConnectionState → List FeedMessage → ConnectionState → Prop where
  | nil {s : ConnectionState} : Passes s [] s
  | state {s s' s'' : ConnectionState} {ms : List FeedMessage} (hleads : Leads s s')
      (h : Passes s' ms s'') : Passes s (.state s' :: ms) s''
  | event {s s' : ConnectionState} {ms : List FeedMessage} {e : DeviceEvent}
      (h : Passes s ms s') : Passes s (.event e :: ms) s'

theorem Passes.append {s s' s'' : ConnectionState} {ms ms' : List FeedMessage}
    (h : Passes s ms s') (h' : Passes s' ms' s'') : Passes s (ms ++ ms') s'' := by
  induction h with
  | nil => exact h'
  | state hleads _ ih => exact .state hleads (ih h')
  | event _ ih => exact .event (ih h')

/-! ### The state sent last -/

/-- `stage.Told s`: in the stage, a task has sent the state `s` last, or it has sent none and `s` is
`idle`. -/
def Stage.Told : Stage → ConnectionState → Prop
  | .announcing, s | .waiting _, s => Leads s .connecting
  | .connecting, s | .opening _, s => s = .connecting
  | .reading _, s | .passing _ _, s => s = .opened
  -- After the end of a connection the next state is `connecting`.
  | .ending s', s => Leads s s' ∧ Leads s' .connecting
  | .finished, _ => False

/-- A message of a task is an event, or a state to which the one sent last leads. -/
theorem Tells.passes {t t' : Task} {m : FeedMessage} {s : ConnectionState} (h : Tells t m t')
    (htold : t.stage.Told s) : ∃ s', Passes s [m] s' ∧ t'.stage.Told s' := by
  cases h with
  | announced hstage =>
    rw [hstage] at htold
    exact ⟨.connecting, .state htold .nil, rfl⟩
  | opened hstage =>
    rw [hstage] at htold
    obtain rfl : s = .connecting := htold
    exact ⟨.opened, .state .opens .nil, rfl⟩
  | passed hstage =>
    rw [hstage] at htold
    exact ⟨s, .event .nil, htold⟩
  | @ended s' delay backoff hstage hnext =>
    rw [hstage] at htold
    exact ⟨s', .state htold.1 .nil, htold.2⟩

/-- A step with the client sends no state. -/
theorem Proceeds.told {t t' : Task} {c c' : Push.Client} {s : ConnectionState}
    (h : Proceeds t c t' c') (htold : t.stage.Told s) : t'.stage.Told s := by
  cases h with
  | refused hstage =>
    rw [hstage] at htold
    obtain rfl : s = .connecting := htold
    exact ⟨.refused, .retries⟩
  | opened hstage =>
    rw [hstage] at htold
    exact htold
  | read hstage harrives =>
    rw [hstage] at htold
    obtain rfl : s = .opened := htold
    cases harrives with
    | ended => exact ⟨.ends, .reconnects⟩
    | failed => exact ⟨.fails, .retries⟩
    | event | noEvent => rfl

/-! ### The messages in the queue -/

/-- The messages of the last subscription that are in the queue. -/
def Ledger.untaken (l : Ledger) : List FeedMessage :=
  (l.queued.filter fun q => q.1 == l.subscription).map Prod.snd

namespace Ledger

theorem untaken_noteSent (l : Ledger) (m : FeedMessage) :
    (l.noteSent m).untaken = l.untaken ++ [m] := by
  simp [untaken, noteSent]

theorem untaken_of_own {l : Ledger} {m : FeedMessage} {rest : List (Nat × FeedMessage)}
    (h : l.queued = (l.subscription, m) :: rest) : l.untaken = m :: l.noteTaken.untaken := by
  simp [untaken, noteTaken_of_own h, h]

theorem untaken_of_other {l : Ledger} {sender : Nat} {m : FeedMessage}
    {rest : List (Nat × FeedMessage)} (h : l.queued = (sender, m) :: rest)
    (hsender : sender ≠ l.subscription) : l.noteTaken.untaken = l.untaken := by
  simp [untaken, noteTaken_of_other h hsender, h, hsender]

/-- A subscription that starts has no message in the queue. -/
theorem untaken_noteSubscribed {l : Ledger} (h : ∀ q ∈ l.queued, q.1 ≤ l.subscription) :
    l.noteSubscribed.untaken = [] := by
  simp only [untaken, noteSubscribed, filter_next_eq_nil h, List.map_nil]

end Ledger

/-! ### Acts -/

/-- The act sets the state to `idle`. -/
def LiveFeed.Act.tearsDown : LiveFeed.Act → Bool
  | .teardown => true
  | a => a.letsGo

/-- The invariant: the state of the feed, the messages in the queue and the stage of the task fit
together. -/
structure Standing (l : Ledger) (f : LiveFeed) : Prop where
  openSince : f.openSince.isSome = true ↔ f.state = .opened
  /-- Without a task the feed is idle. -/
  idle : f.task = none → f.state = .idle
  /-- The messages in the queue lead to the state that the task sent last. -/
  passes : ∀ t, f.task = some t → ∃ s, Passes f.state l.untaken s ∧ t.stage.Told s

namespace Standing

variable {options : Options} {l : Ledger} {f f' : LiveFeed}

theorem start (filter : Filter) (options : Options) : Standing .empty (.new filter options) where
  openSince := by simp [LiveFeed.new]
  idle := fun _ => rfl
  passes := nofun

/-- A task sends a message. -/
theorem told (h : Standing l f) (htidy : f.Tidy) {k : Handle} {t t' : Task} {m : FeedMessage}
    (hlive : f.tasks.task? k = some t) (htells : Tells t m t') (queue : List Delivery) :
    Standing (l.noteSent m)
      { f with tasks := f.tasks.update k t', queue := queue } := by
  have hupdate := htidy.task_update hlive t' queue
  refine { openSince := h.openSince, idle := ?_, passes := ?_ }
  · intro hnone
    rw [hupdate] at hnone
    cases hnone
  intro u hu
  obtain rfl := Option.some.inj (hupdate.symm.trans hu)
  obtain ⟨s, hpasses, htold⟩ := h.passes t (htidy.task_eq hlive)
  obtain ⟨s', hnext, htold'⟩ := htells.passes htold
  rw [Ledger.untaken_noteSent]
  exact ⟨s', hpasses.append hnext, htold'⟩

/-- A task takes a step that sends no message. -/
theorem silent {l' : Ledger} (h : Standing l f) (htidy : f.Tidy) {k : Handle} {t t' : Task}
    (hlive : f.tasks.task? k = some t) (hstage : ∀ s, t.stage.Told s → t'.stage.Told s)
    (huntaken : l'.untaken = l.untaken) :
    Standing l' { f with tasks := f.tasks.update k t' } := by
  have hupdate := htidy.task_update hlive t' f.queue
  refine { openSince := h.openSince, idle := ?_, passes := ?_ }
  · intro hnone
    rw [hupdate] at hnone
    cases hnone
  intro u hu
  obtain rfl := Option.some.inj (hupdate.symm.trans hu)
  obtain ⟨s, hpasses, htold⟩ := h.passes t (htidy.task_eq hlive)
  exact ⟨s, huntaken ▸ hpasses, hstage s htold⟩

/-- A delivery is dropped. -/
theorem dropped (h : Standing l f) (hbalanced : Balanced options l f) {d : Delivery}
    {rest : List Delivery} (hqueue : f.queue = d :: rest)
    (hother : d.generation ≠ f.generation ∨ f.subscription = none) :
    Standing l.noteTaken { f with queue := rest } := by
  refine { openSince := h.openSince, idle := h.idle, passes := ?_ }
  intro t htask
  obtain ⟨queued, hqueued, -⟩ := hbalanced.queued_eq hqueue
  have hsender : d.generation ≠ l.subscription := by
    rcases hother with hother | hnone
    · rw [← hbalanced.generation]
      exact hother
    · rw [LiveFeed.task, hnone] at htask
      cases htask
  rw [Ledger.untaken_of_other hqueued hsender]
  exact h.passes t htask

/-- A message that the feed accepts is an event, or a state to which its own leads. -/
theorem accepted (h : Standing l f) (hbalanced : Balanced options l f) {m : FeedMessage}
    {rest : List Delivery} {k : Handle} (now : Time.Instant)
    (hqueue : f.queue = ⟨f.generation, m⟩ :: rest) (hsubscription : f.subscription = some k) :
    Passes f.state [m] ({ f with queue := rest }.accept now m).2.state ∧
      Standing l.noteTaken ({ f with queue := rest }.accept now m).2 := by
  obtain ⟨queued, hqueued, -⟩ := hbalanced.queued_eq hqueue
  rw [hbalanced.generation] at hqueued
  have hsome : f.task.isSome = true := by
    rw [hbalanced.tidy.isSome_task, hsubscription]
    rfl
  obtain ⟨t, htask⟩ := Option.isSome_iff_exists.mp hsome
  obtain ⟨s, hpasses, htold⟩ := h.passes t htask
  -- The message is the first one of those that lead to the state sent last.
  rw [Ledger.untaken_of_own hqueued] at hpasses
  have htask' : ({ f with queue := rest }.accept now m).2.task = some t := by
    rw [LiveFeed.accept_task]
    exact htask
  have hsome : ∀ t', some t = some t' → t.stage = t'.stage := by
    rintro _ ⟨⟩
    rfl
  cases hpasses with
  | @state _ s' _ _ hleads hrest =>
    refine ⟨.state hleads .nil, { openSince := ?_, idle := ?_, passes := ?_ }⟩
    · simp only [LiveFeed.accept]
      by_cases hopened : s' = .opened
      · simp [hopened]
      · simp [hopened]
    · intro hnone
      rw [htask'] at hnone
      cases hnone
    · intro t' ht'
      rw [← hsome t' (htask'.symm.trans ht')]
      exact ⟨s, hrest, htold⟩
  | event hrest =>
    refine ⟨.event .nil, { openSince := h.openSince, idle := h.idle, passes := ?_ }⟩
    intro t' ht'
    rw [← hsome t' (htask'.symm.trans ht')]
    exact ⟨s, hrest, htold⟩

/-- A subscription starts. -/
theorem subscribed (hbalanced : Balanced options l f) :
    Standing l.noteSubscribed f.subscribe := by
  have htask := f.task_subscribe
  obtain ⟨handle, tasks, senders, hsubscribe, -⟩ := f.exists_subscribe_eq
  rw [hsubscribe] at htask ⊢
  refine { openSince := ⟨nofun, nofun⟩, idle := fun _ => rfl, passes := ?_ }
  intro u hu
  obtain rfl := Option.some.inj (htask.symm.trans hu)
  rw [Ledger.untaken_noteSubscribed hbalanced.senders]
  exact ⟨.idle, .nil, .connects⟩

/-- The subscription is ended. -/
theorem ended (l : Ledger) (f : LiveFeed) : Standing l f.teardown := by
  obtain ⟨tasks, senders, hteardown⟩ := f.exists_teardown_eq
  rw [hteardown]
  exact { openSince := ⟨nofun, nofun⟩, idle := fun _ => rfl, passes := nofun }

/-- Every act keeps the invariant. -/
theorem act (h : Standing l f) (hbalanced : Balanced options l f) {a : LiveFeed.Act}
    (hact : f.act? a = some f') : Standing (l.note f a) f' := by
  cases a with
  | work k client =>
    obtain ⟨⟨_, client'⟩, hwork, rfl⟩ := Option.map_eq_some_iff.mp hact
    cases LiveFeed.works hwork with
    | told hlive hoffer htells =>
      rw [Ledger.note, hlive, Option.bind_some, hoffer]
      exact h.told hbalanced.tidy hlive htells _
    | proceeded hlive hoffer hproceeds =>
      rw [Ledger.note, hlive, Option.bind_some, hoffer]
      exact h.silent hbalanced.tidy hlive (fun _ htold => hproceeds.told htold) rfl
  | wake k =>
    obtain ⟨t, delay, hlive, hstage, rfl⟩ := LiveFeed.wake_eq_some hact
    refine h.silent hbalanced.tidy hlive (fun s htold => ?_) rfl
    rw [hstage] at htold
    exact htold
  | take now =>
    obtain ⟨⟨update, _⟩, htake, rfl⟩ := Option.map_eq_some_iff.mp hact
    cases LiveFeed.takes htake with
    | dropped hqueue hother => exact h.dropped hbalanced hqueue hother
    | accepted hqueue hsubscription => exact (h.accepted hbalanced now hqueue hsubscription).2
  | subscribe | setFilter filter | setDevices uuids | setCodes codes | setActions actions =>
    obtain rfl := Option.some.inj hact
    exact .subscribed (hbalanced.refiltered _)
  | teardown =>
    obtain rfl := Option.some.inj hact
    exact .ended _ f
  | shutdown =>
    obtain rfl := Option.some.inj hact
    exact { Standing.ended l.noteShutdown f with }
  | setAll expanded | toggleRow seq =>
    obtain rfl := Option.some.inj hact
    exact { h with }

/-- The state changes only by a teardown, or when the feed takes a message of the running
subscription. Then the state before leads to the new one. -/
theorem changed (h : Standing l f) (hbalanced : Balanced options l f) {a : LiveFeed.Act}
    (hact : f.act? a = some f') (hdown : a.tearsDown = false) (hne : f'.state ≠ f.state) :
    Leads f.state f'.state ∧ l.running = true ∧
      l.queued.head?.map Prod.fst = some l.subscription ∧ ∃ now, a = .take now := by
  -- Only taking a delivery changes the state without a teardown, and only if it is accepted.
  cases a with
  | subscribe | setFilter filter | setDevices uuids | setCodes codes | setActions actions
  | teardown | shutdown => cases hdown
  | work k client =>
    obtain ⟨⟨_, client'⟩, hwork, rfl⟩ := Option.map_eq_some_iff.mp hact
    cases LiveFeed.works hwork with
    | told | proceeded => exact absurd rfl hne
  | wake k =>
    obtain ⟨t, delay, -, -, rfl⟩ := LiveFeed.wake_eq_some hact
    exact absurd rfl hne
  | setAll expanded | toggleRow seq =>
    obtain rfl := Option.some.inj hact
    exact absurd rfl hne
  | take now =>
    obtain ⟨⟨update, _⟩, htake, rfl⟩ := Option.map_eq_some_iff.mp hact
    cases LiveFeed.takes htake with
    | dropped => exact absurd rfl hne
    | accepted hqueue hsubscription =>
      obtain ⟨queued, hqueued, -⟩ := hbalanced.queued_eq hqueue
      refine ⟨?_, hbalanced.runs hsubscription, ?_, now, rfl⟩
      · have hpasses := (h.accepted hbalanced now hqueue hsubscription).1
        revert hpasses hne
        generalize (LiveFeed.accept _ now _).2.state = s
        intro hne hpasses
        cases hpasses with
        | state hleads hrest =>
          cases hrest
          exact hleads
        | event hrest =>
          cases hrest
          exact absurd rfl hne
      · rw [hqueued, hbalanced.generation]
        rfl

/-- A state that the feed hands to the caller is its own, and the one before leads to it. -/
theorem announced (h : Standing l f) (hbalanced : Balanced options l f) {now : Time.Instant}
    {s : ConnectionState} (htake : f.take now = some (some (.state s), f')) :
    Leads f.state s ∧ f'.state = s := by
  generalize hupdate : some (Update.state s) = update at htake
  cases LiveFeed.takes htake with
  | dropped => cases hupdate
  | @accepted m rest k hqueue hsubscription =>
    have hpasses := (h.accepted hbalanced now hqueue hsubscription).1
    cases m with
    | event e => cases hupdate
    | state s' =>
      cases hupdate
      cases hpasses with
      | state hleads hrest => exact ⟨hleads, rfl⟩

/-- An open connection is shown with the time since it is open. -/
theorem connectionText_ne (h : Standing l f) (now : Time.Instant) :
    Console.connectionText f now ≠ "🟢 open" := by
  intro htext
  rw [Console.connectionText] at htext
  cases hstate : f.state with
  | opened =>
    obtain ⟨since, hsince⟩ := Option.isSome_iff_exists.mp (h.openSince.mpr hstate)
    have hlength := congrArg String.length htext
    rw [hstate, hsince] at hlength
    simp only [String.length_append] at hlength
    have hlong : "🟢 open for ".length = 11 := by decide
    have hshort : "🟢 open".length = 6 := by decide
    omega
  | idle | connecting | closed | errored =>
    simp only [hstate] at htext
    exact absurd htext (by decide)

end Standing

/-- The invariant holds in every run. -/
theorem standing_of_run (filter : Filter) (options : Options) {l : Ledger} {f : LiveFeed}
    (h : LiveFeed.Observed Ledger.note .empty (.new filter options) l f) : Standing l f := by
  induction h with
  | start => exact .start filter options
  | act h hact ih => exact ih.act (balanced_of_run filter options h) hact

/-! ### Runs -/

theorem state_of_tearsDown {f f' : LiveFeed} {a : LiveFeed.Act} (hdown : a.tearsDown = true)
    (hact : f.act? a = some f') : f'.state = .idle := by
  cases a with
  | subscribe | setFilter filter | setDevices uuids | setCodes codes | setActions actions
  | teardown | shutdown =>
    obtain rfl := Option.some.inj hact
    exact LiveFeed.teardown_state _
  | work k client | wake k | take now | setAll expanded | toggleRow seq => cases hdown

/-- In every run, the state is `idle` after each teardown and becomes `idle` in no other way. Every
other change goes from a state to one that it leads to, when the feed takes a message of the running
subscription. `openSince` is set exactly while the state is `opened`, so an open connection is never
shown without a time. -/
theorem states_of_run (filter : Filter) (options : Options) {l : Ledger} {f : LiveFeed}
    (h : LiveFeed.Observed Ledger.note .empty (.new filter options) l f) :
    (f.openSince.isSome = true ↔ f.state = .opened) ∧
      (∀ now, Console.connectionText f now ≠ "🟢 open") ∧
      (∀ a f', f.act? a = some f' → LiveFeed.Act.tearsDown a = true → f'.state = .idle) ∧
      (∀ a f', f.act? a = some f' → LiveFeed.Act.tearsDown a = false → f'.state ≠ f.state →
        Leads f.state f'.state ∧ f'.state ≠ .idle ∧ l.running = true ∧
          l.queued.head?.map Prod.fst = some l.subscription ∧ ∃ now, a = .take now) ∧
      ∀ now s f', f.take now = some (some (.state s), f') → Leads f.state s ∧ f'.state = s := by
  have hbalanced := balanced_of_run filter options h
  have hstanding := standing_of_run filter options h
  refine ⟨hstanding.openSince, hstanding.connectionText_ne, ?_, ?_, ?_⟩
  · exact fun a f' hact hdown => state_of_tearsDown hdown hact
  · intro a f' hact hdown hne
    obtain ⟨hleads, hrunning, hsender, htake⟩ := hstanding.changed hbalanced hact hdown hne
    exact ⟨hleads, hleads.ne_idle, hrunning, hsender, htake⟩
  · exact fun now s f' htake => hstanding.announced hbalanced htake

/-- A connection that ends at once. -/
def endsAtOnce : Push.Client := .ofScript [.opened ⟨[], true⟩]

/-- A run in which the feed takes the states `opened` and `closed`. -/
theorem states_of_endedConnection :
    ∃ l f f', LiveFeed.Observed Ledger.note .empty (.new .empty keepOne) l f ∧
      f.state = .opened ∧ f.openSince = some ⟨5, 0⟩ ∧ f.act? (.take ⟨9, 0⟩) = some f' ∧
      f'.state ≠ f.state ∧ Leads f.state f'.state := by
  have hstart : LiveFeed.Observed Ledger.note .empty (.new .empty keepOne) .empty
      (.new .empty keepOne) := .start
  have hasked := (hstart.act (a := .subscribe) rfl).act (a := .work 0 endsAtOnce) rfl
  have hopened := (hasked.act (a := .work 0 endsAtOnce) rfl).act (a := .work 0 endsAtOnce) rfl
  have hended := (hopened.act (a := .work 0 endsAtOnce) rfl).act (a := .work 0 endsAtOnce) rfl
  have htaken := (hended.act (a := .take ⟨4, 0⟩) rfl).act (a := .take ⟨5, 0⟩) rfl
  have hstates := states_of_run .empty keepOne htaken
  have hne : ConnectionState.closed ≠ .opened := by decide
  exact ⟨_, _, _, htaken, rfl, rfl, rfl, hne, (hstates.2.2.2.1 (.take ⟨9, 0⟩) _ rfl rfl hne).1⟩

end CameraFeed.Feed
