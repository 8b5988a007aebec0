import CameraFeed.Proofs.Feed.Attempts
import CameraFeed.Proofs.Feed.Delays

/-! # Departure — a task whose receiver is dropped

  The receiver of a task can be dropped at any point: before a delivery, after it, while a
  connection is requested or read, or during a wait. The task notices it only in its next delivery,
  which fails. A log records every step of a task as a `Deed`. `stops_of_departure` takes the log of
  a run with a receiver and the log of the run without one that continues it. With a receiver the
  task never finishes. Without one it requests no connection unless its state `connecting` was
  accepted before, and its first delivery fails, is its last step, and finishes it. -/

namespace CameraFeed.Feed

open Push (Attempt Client Connection)

/-! ### Steps with the client -/

/-- A request for a connection takes one attempt from the client, and ends in `errored` or opens. -/
theorem Task.proceed_connecting {t t' : Task} {c c' : Client} (hstage : t.stage = .connecting)
    (h : t.proceed c = some (t', c')) :
    c' = (c.connect t.filter).2 ∧
      (t'.stage = .ending .errored ∨ ∃ connection, t'.stage = .opening connection) := by
  cases Task.proceeds h with
  | refused => exact ⟨rfl, .inl rfl⟩
  | opened => exact ⟨rfl, .inr ⟨_, rfl⟩⟩
  | read hreading =>
    rw [hstage] at hreading
    cases hreading

/-- Reading leaves the client as it is. -/
theorem Task.proceed_reading {t t' : Task} {c c' : Client} {connection : Connection}
    (hstage : t.stage = .reading connection) (h : t.proceed c = some (t', c')) :
    c' = c ∧ Arrives connection t'.stage := by
  cases Task.proceeds h with
  | refused hconnecting | opened hconnecting =>
    rw [hstage] at hconnecting
    cases hconnecting
  | read hreading harrives =>
    obtain rfl := Stage.reading.inj (hstage.symm.trans hreading)
    exact ⟨rfl, harrives⟩

/-- Without a receiver, a delivery finishes the task. -/
theorem Task.tell_gone {t : Task} {m : FeedMessage} (h : t.offer? = some m) :
    t.tell false = t.abandoned := by
  rw [tell, h]
  rfl

/-! ### Logs -/

/-- A step of a task, as its log records it. -/
inductive Deed where
  /-- A delivery is accepted. -/
  | delivered (d : Delivery)
  /-- A delivery fails, because the receiver is dropped. -/
  | failed (d : Delivery)
  /-- A connection is requested. -/
  | asked (filter : Filter)
  /-- An arrival is read, or the end of the connection. -/
  | looked
  /-- A delay is over. -/
  | waited (delay : Time.Span)

/-- The delivery that was accepted. -/
def Deed.delivery? : Deed → Option Delivery
  | .delivered d => some d
  | _ => none

/-- The filter of the request. -/
def Deed.filter? : Deed → Option Filter
  | .asked filter => some filter
  | _ => none

/-- The step is no delivery. -/
def Deed.isAlone : Deed → Bool
  | .delivered _ | .failed _ => false
  | _ => true

/-- `Does present t c deed t' c'`: the step `deed` of a task, where `present` says that it has a
receiver. -/
inductive Does (present : Bool) (t : Task) (c : Client) : Deed → Task → Client → Prop where
  | delivered {m : FeedMessage} (hpresent : present = true) (hoffer : t.offer? = some m) :
      Does present t c (.delivered ⟨t.generation, m⟩) (t.tell present) c
  | failed {m : FeedMessage} (hgone : present = false) (hoffer : t.offer? = some m) :
      Does present t c (.failed ⟨t.generation, m⟩) (t.tell present) c
  | asked {t' : Task} {c' : Client} (hstage : t.stage = .connecting)
      (hproceed : t.proceed c = some (t', c')) : Does present t c (.asked t.filter) t' c'
  | looked {connection : Connection} {t' : Task} {c' : Client}
      (hstage : t.stage = .reading connection) (hproceed : t.proceed c = some (t', c')) :
      Does present t c .looked t' c'
  | waited {delay : Time.Span} {t' : Task} (hstage : t.stage = .waiting delay)
      (hwake : t.wake? = some t') : Does present t c (.waited delay) t' c

/-- `Lives present t₀ c₀ log t c`: a run of a task from `t₀` and `c₀` to `t` and `c` with the log
`log`, where `present` says that it has a receiver. -/
inductive Lives (present : Bool) (t₀ : Task) (c₀ : Client) : List Deed → Task → Client → Prop where
  | start : Lives present t₀ c₀ [] t₀ c₀
  | step {log : List Deed} {t t' : Task} {c c' : Client} {deed : Deed}
      (h : Lives present t₀ c₀ log t c) (hdoes : Does present t c deed t' c') :
      Lives present t₀ c₀ (log ++ [deed]) t' c'

section Deeds

variable {present : Bool} {t₀ t t' : Task} {c₀ c c' : Client} {deed : Deed} {log : List Deed}

/-! ### With a receiver -/

/-- With a receiver, a run is one of `Maintained`, and its deliveries are those of its log. -/
theorem Lives.maintained (h : Lives true t₀ c₀ log t c) :
    Maintained t₀ c₀ (log.filterMap Deed.delivery?) t c := by
  induction h with
  | start => exact .start
  | step _ hdoes ih =>
    rw [List.filterMap_append]
    cases hdoes with
    | delivered _ hoffer => exact ih.tell hoffer
    | failed hgone => cases hgone
    | asked _ hproceed | looked _ hproceed =>
      show Maintained _ _ (_ ++ []) _ _
      rw [List.append_nil]
      exact ih.proceed hproceed
    | waited _ hwake =>
      show Maintained _ _ (_ ++ []) _ _
      rw [List.append_nil]
      exact ih.wake hwake

/-- With a receiver, no delivery fails. -/
theorem Lives.failed_notMem (h : Lives true t₀ c₀ log t c) (d : Delivery) : .failed d ∉ log := by
  induction h with
  | start => exact List.not_mem_nil
  | step _ hdoes ih =>
    rw [List.mem_append, not_or]
    refine ⟨ih, ?_⟩
    cases hdoes with
    | failed hgone => cases hgone
    | delivered | asked | looked | waited => simp

/-! ### Requests -/

theorem Does.generation_eq (h : Does present t c deed t' c') : t'.generation = t.generation := by
  cases h with
  | delivered hpresent hoffer =>
    subst hpresent
    exact (Task.tells hoffer).generation_eq
  | failed hgone hoffer =>
    subst hgone
    rw [Task.tell_gone hoffer]
    rfl
  | asked _ hproceed | looked _ hproceed => exact (Task.proceeds hproceed).generation_eq
  | waited _ hwake =>
    obtain ⟨-, rfl⟩ := Task.wake?_eq_some hwake
    rfl

/-- Before a request, the task delivers `connecting`. -/
theorem Does.deed_of_connecting (h : Does present t c deed t' c')
    (hstage : t'.stage = .connecting) :
    deed = .delivered ⟨t.generation, .state .connecting⟩ := by
  cases h with
  | delivered hpresent hoffer =>
    subst hpresent
    have htells := Task.tells hoffer
    generalize t.tell true = next at htells hstage
    cases htells with
    | announced => rfl
    | opened | passed | ended => cases hstage
  | failed hgone hoffer =>
    subst hgone
    rw [Task.tell_gone hoffer] at hstage
    cases hstage
  | asked hconnecting hproceed =>
    obtain ⟨-, hnext⟩ := Task.proceed_connecting hconnecting hproceed
    rw [hstage] at hnext
    rcases hnext with hnext | ⟨_, hnext⟩ <;> cases hnext
  | looked hreading hproceed =>
    obtain ⟨-, harrives⟩ := Task.proceed_reading hreading hproceed
    rw [hstage] at harrives
    cases harrives
  | waited _ hwake =>
    obtain ⟨-, rfl⟩ := Task.wake?_eq_some hwake
    cases hstage

/-- The invariant of requests: each one comes right after the delivery of `connecting`. -/
structure Announced (generation : Nat) (log : List Deed) (t : Task) : Prop where
  generation_eq : t.generation = generation
  /-- Before a request, the delivery of `connecting` is the last step. -/
  connecting : t.stage = .connecting →
    log.getLast? = some (.delivered ⟨generation, .state .connecting⟩)
  asked : ∀ earlier filter, earlier ++ [.asked filter] <+: log →
    earlier.getLast? = some (.delivered ⟨generation, .state .connecting⟩)

theorem Announced.step {generation : Nat} (h : Announced generation log t)
    (hdoes : Does present t c deed t' c') : Announced generation (log ++ [deed]) t' where
  generation_eq := hdoes.generation_eq.trans h.generation_eq
  connecting := by
    intro hstage
    rw [List.getLast?_concat, hdoes.deed_of_connecting hstage, h.generation_eq]
  asked := by
    intro earlier filter hbegins
    rcases List.prefix_concat_iff.mp hbegins with heq | hbefore
    · obtain ⟨rfl, hdeed⟩ := List.append_inj' heq rfl
      obtain rfl := List.singleton_inj.mp hdeed
      cases hdoes with
      | asked hstage _ => exact h.connecting hstage
    · exact h.asked earlier filter hbefore

/-- A run keeps the invariant, appended to the log that holds so far. -/
theorem Announced.lives {generation : Nat} {before : List Deed}
    (h₀ : Announced generation before t₀) (h : Lives present t₀ c₀ log t c) :
    Announced generation (before ++ log) t := by
  induction h with
  | start =>
    rw [List.append_nil]
    exact h₀
  | step _ hdoes ih =>
    rw [← List.append_assoc]
    exact ih.step hdoes

/-- Without deliveries, only the first step can be a request. -/
theorem Announced.asked_notMem_tail {generation : Nat} {before after : List Deed}
    (h : Announced generation (before ++ after) t) (hnone : ∀ d, .delivered d ∉ after)
    (filter : Filter) : .asked filter ∉ after.tail := by
  intro hmem
  cases after with
  | nil => cases hmem
  | cons first rest =>
    obtain ⟨earlier, later, hrest⟩ := List.append_of_mem hmem
    obtain rfl : rest = earlier ++ .asked filter :: later := hrest
    have hlast := h.asked (before ++ first :: earlier) filter ⟨later, by simp⟩
    rw [List.getLast?_append, List.getLast?_cons, Option.some_or, ← List.getLast?_cons] at hlast
    apply hnone ⟨generation, .state .connecting⟩
    exact List.mem_append_left (.asked filter :: later) (List.mem_of_getLast? hlast)

theorem announced_start (filter : Filter) (generation : Nat) (retry : Retry) :
    Announced generation [] (.start filter generation retry) where
  generation_eq := rfl
  connecting := fun hstage => by cases hstage
  asked := by
    intro earlier filter hbegins
    have hnil := List.prefix_nil.mp hbegins
    simp at hnil

/-- The requests that the client has recorded are those of the log. -/
theorem Lives.asked_eq (h : Lives present t₀ c₀ log t c) :
    c.asked.reverse = c₀.asked.reverse ++ log.filterMap Deed.filter? := by
  induction h with
  | start => simp
  | step _ hdoes ih =>
    rw [List.filterMap_append, ← List.append_assoc, ← ih]
    cases hdoes with
    | delivered | failed | waited => exact (List.append_nil _).symm
    | asked hconnecting hproceed =>
      obtain ⟨rfl, -⟩ := Task.proceed_connecting hconnecting hproceed
      rw [Client.connect_eq, List.reverse_cons]
      rfl
    | looked hreading hproceed =>
      obtain ⟨rfl, -⟩ := Task.proceed_reading hreading hproceed
      exact (List.append_nil _).symm

/-! ### Without a receiver -/

/-- `Departed t₀ c₀ ds log t c`: without a receiver, a task that made the deliveries `ds` goes on
without another one, or one failed and the task is finished. -/
inductive Departed (t₀ : Task) (c₀ : Client) (ds : List Delivery) :
    List Deed → Task → Client → Prop where
  | goesOn {log : List Deed} {t : Task} {c : Client} (h : Maintained t₀ c₀ ds t c)
      (halone : ∀ deed ∈ log, deed.isAlone = true) : Departed t₀ c₀ ds log t c
  | stopped {log : List Deed} {t : Task} {c : Client} {m : FeedMessage}
      (h : Maintained t₀ c₀ ds t c) (halone : ∀ deed ∈ log, deed.isAlone = true)
      (hoffer : t.offer? = some m) :
      Departed t₀ c₀ ds (log ++ [.failed ⟨t.generation, m⟩]) t.abandoned c

/-- A finished task takes no step. -/
theorem not_does_of_finished (h : t.stage = .finished) : ¬ Does present t c deed t' c' := by
  obtain ⟨filter, generation, backoff, stage⟩ := t
  obtain rfl : stage = .finished := h
  intro hdoes
  cases hdoes with
  | delivered _ hoffer | failed _ hoffer => cases hoffer
  | asked hstage | looked hstage | waited hstage => cases hstage

theorem Departed.step {ds : List Delivery} (h : Departed t₀ c₀ ds log t c)
    (hdoes : Does false t c deed t' c') : Departed t₀ c₀ ds (log ++ [deed]) t' c' := by
  cases h with
  | stopped => exact absurd hdoes (not_does_of_finished rfl)
  | goesOn hrun halone =>
    have hmore : deed.isAlone = true → ∀ d ∈ log ++ [deed], d.isAlone = true := by
      intro hdeed d hd
      rcases List.mem_append.mp hd with hd | hd
      · exact halone d hd
      · rw [List.mem_singleton.mp hd]
        exact hdeed
    cases hdoes with
    | delivered hpresent => cases hpresent
    | failed _ hoffer =>
      rw [Task.tell_gone hoffer]
      exact .stopped hrun halone hoffer
    | asked _ hproceed | looked _ hproceed => exact .goesOn (hrun.proceed hproceed) (hmore rfl)
    | waited _ hwake => exact .goesOn (hrun.wake hwake) (hmore rfl)

theorem Lives.departed {t₁ : Task} {c₁ : Client} {ds : List Delivery}
    (h₁ : Maintained t₀ c₀ ds t₁ c₁) (h : Lives false t₁ c₁ log t c) :
    Departed t₀ c₀ ds log t c := by
  induction h with
  | start => exact .goesOn h₁ (by simp)
  | step _ hdoes ih => exact ih.step hdoes

theorem Departed.delivered_notMem {ds : List Delivery} (h : Departed t₀ c₀ ds log t c)
    (d : Delivery) : .delivered d ∉ log := by
  intro hd
  cases h with
  | goesOn _ halone => cases halone _ hd
  | stopped _ halone =>
    rcases List.mem_append.mp hd with hd | hd
    · cases halone _ hd
    · cases List.mem_singleton.mp hd

/-- The delivery that fails is the next one of the run, and the last step. -/
theorem Departed.of_failed {ds : List Delivery} (h : Departed t₀ c₀ ds log t c)
    {earlier : List Deed} {d : Delivery} (hbegins : earlier ++ [.failed d] <+: log) :
    log = earlier ++ [.failed d] ∧ t.stage = .finished ∧
      ∃ t', Maintained t₀ c₀ (ds ++ [d]) t' c := by
  cases h with
  | goesOn _ halone =>
    have hd := halone _ (hbegins.mem (List.mem_append_right _ (List.mem_singleton_self _)))
    cases hd
  | @stopped log t _ m hrun halone hoffer =>
    rcases List.prefix_concat_iff.mp hbegins with heq | hbefore
    · obtain ⟨rfl, hdeed⟩ := List.append_inj' heq rfl
      obtain rfl := Deed.failed.inj (List.singleton_inj.mp hdeed)
      exact ⟨rfl, rfl, _, hrun.tell hoffer⟩
    · have hd := halone _ (hbefore.mem (List.mem_append_right _ (List.mem_singleton_self _)))
      cases hd

/-! ### The end -/

/-- A bound on the number of steps of a task without a receiver. -/
def stepsLeft : Stage → Nat
  | .finished => 0
  | .announcing | .opening _ | .passing _ _ | .ending _ => 1
  | .connecting | .waiting _ => 2
  | .reading c => c.arrivals.length + 2

theorem Does.stepsLeft_lt (h : Does false t c deed t' c') :
    stepsLeft t'.stage < stepsLeft t.stage := by
  cases h with
  | delivered hpresent => cases hpresent
  | failed _ hoffer =>
    have htells := Task.tells hoffer
    rw [Task.tell_gone hoffer]
    generalize t.tell true = next at htells
    cases htells with
    | announced hstage | opened hstage | passed hstage | ended hstage =>
      rw [hstage]
      exact Nat.one_pos
  | asked hconnecting hproceed =>
    obtain ⟨-, hnext⟩ := Task.proceed_connecting hconnecting hproceed
    rw [hconnecting]
    rcases hnext with hnext | ⟨_, hnext⟩ <;> rw [hnext] <;> exact Nat.lt_succ_self 1
  -- Reading uses up an arrival, or leads to a stage with one delivery left.
  | looked hreading hproceed =>
    obtain ⟨-, harrives⟩ := Task.proceed_reading hreading hproceed
    rw [hreading]
    generalize t'.stage = stage at harrives
    cases harrives with
    | ended | failed => simp [stepsLeft]
    | event harrivals | noEvent harrivals => simp [stepsLeft, harrivals]
  | waited hstage hwake =>
    obtain ⟨-, rfl⟩ := Task.wake?_eq_some hwake
    rw [hstage]
    exact Nat.lt_succ_self 1

theorem Lives.length_add_stepsLeft_le (h : Lives false t₀ c₀ log t c) :
    log.length + stepsLeft t.stage ≤ stepsLeft t₀.stage := by
  induction h with
  | start => simp
  | step _ hdoes ih =>
    have hless := hdoes.stepsLeft_lt
    rw [List.length_append, List.length_singleton]
    omega

/-- A task can take a step unless it is finished or its connection stays silent. -/
theorem exists_does (hgoesOn : t.stage ≠ .finished) (hsilent : t.stage ≠ .reading .silent)
    (present : Bool) (c : Client) : ∃ deed t' c', Does present t c deed t' c' := by
  -- A task that offers a message delivers it, with a receiver or without.
  cases hoffer : t.offer? with
  | some m =>
    cases present with
    | true => exact ⟨_, _, _, .delivered rfl hoffer⟩
    | false => exact ⟨_, _, _, .failed rfl hoffer⟩
  | none =>
    cases hwake : t.wake? with
    | some t' =>
      obtain ⟨⟨delay, hstage⟩, -⟩ := Task.wake?_eq_some hwake
      exact ⟨_, _, _, .waited hstage hwake⟩
    | none =>
      cases hproceed : t.proceed c with
      | none => exact absurd (stage_of_stuck hgoesOn hoffer hproceed hwake) hsilent
      | some next =>
        obtain ⟨t', c'⟩ := next
        cases Task.proceeds hproceed with
        | refused hstage | opened hstage => exact ⟨_, _, _, .asked hstage hproceed⟩
        | read hstage => exact ⟨_, _, _, .looked hstage hproceed⟩

end Deeds

/-! ### The main statement -/

/-- Without a receiver, a task finishes only by a delivery that fails. -/
theorem Departed.of_finished {filter : Filter} {generation : Nat} {retry : Retry}
    {script : List Attempt} {ds : List Delivery} {log : List Deed} {t : Task} {c : Client}
    (h : Departed (.start filter generation retry) (.ofScript script) ds log t c)
    (hstage : t.stage = .finished) : ∃ d, log.getLast? = some (.failed d) := by
  cases h with
  | goesOn hrun => exact absurd hstage hrun.accounted.goesOn
  | stopped => exact ⟨_, List.getLast?_concat⟩

/-- The deliveries of a run are a prefix of the messages about its attempts. -/
theorem Maintained.prefix_toldFrom {filter : Filter} {generation : Nat} {retry : Retry}
    {script : List Attempt} {ds : List Delivery} {t : Task} {c : Client}
    (h : Maintained (.start filter generation retry) (.ofScript script) ds t c) :
    ds <+: (toldFrom script).map (Delivery.mk generation) := by
  have htold : ds.map Delivery.message <+: toldFrom script := ⟨_, h.accounted.messages⟩
  rw [h.accounted.deliveries]
  exact htold.map _

/-- A task runs with a receiver up to some point, and without one after it. Up to there it does not
finish and none of its deliveries fails. It requests a connection only directly after it delivered
`connecting`, also after the departure, so there it requests one at once or never. No delivery is
accepted any more. The next one fails, is the last step of the task, and finishes it. Before that
only a connection that stays silent can keep the task from a further step, and the number of its
steps is bounded. -/
theorem stops_of_departure (filter : Filter) (generation : Nat) (retry : Retry)
    (script : List Attempt) {before after : List Deed} {t₁ t : Task} {c₁ c : Client}
    (hbefore : Lives true (.start filter generation retry) (.ofScript script) before t₁ c₁)
    (hafter : Lives false t₁ c₁ after t c) :
    (t₁.stage ≠ .finished ∧ ∀ d, .failed d ∉ before) ∧
      (∀ earlier filter, earlier ++ [.asked filter] <+: before ++ after →
        earlier.getLast? = some (.delivered ⟨generation, .state .connecting⟩)) ∧
      (before ++ after).filterMap Deed.filter? = c.asked.reverse ∧
      (∀ filter, .asked filter ∉ after.tail) ∧
      (∀ d, .delivered d ∉ after) ∧
      (∀ earlier d, earlier ++ [.failed d] <+: after →
        after = earlier ++ [.failed d] ∧ t.stage = .finished ∧
          before.filterMap Deed.delivery? ++ [d]
            <+: ((attemptsOf script).flatMap told).map (Delivery.mk generation)) ∧
      (t.stage = .finished → (∃ d, after.getLast? = some (.failed d)) ∧
        ∀ present client deed t' client', ¬ Does present t client deed t' client') ∧
      (t.stage ≠ .finished → t.stage ≠ .reading .silent →
        ∃ deed t' c', Does false t c deed t' c') ∧
      after.length ≤ stepsLeft t₁.stage := by
  have hrun := hbefore.maintained
  have hdeparted := hafter.departed hrun
  -- The invariant of requests goes through both parts of the log.
  have hannounced := ((announced_start filter generation retry).lives hbefore).lives hafter
  rw [List.nil_append] at hannounced
  have hasked := hafter.asked_eq
  rw [hbefore.asked_eq] at hasked
  have hlength := hafter.length_add_stepsLeft_le
  have htaken := hdeparted.delivered_notMem
  refine ⟨⟨hrun.accounted.goesOn, hbefore.failed_notMem⟩, hannounced.asked, ?_,
    hannounced.asked_notMem_tail htaken, htaken, ?_, ?_,
    fun hgoesOn hsilent => exists_does hgoesOn hsilent _ _, by omega⟩
  · rw [hasked, List.filterMap_append]
    rfl
  · intro earlier d hbegins
    obtain ⟨hlog, hstage, t', hnext⟩ := hdeparted.of_failed hbegins
    exact ⟨hlog, hstage, hnext.prefix_toldFrom⟩
  · intro hstage
    exact ⟨hdeparted.of_finished hstage, fun _ _ _ _ _ => not_does_of_finished hstage⟩

/-- The receiver is dropped after the task delivered its first `connecting`. The connection is
requested and opens, and the delivery of `opened` fails. -/
theorem stops_of_earlyDeparture :
    ∃ t₁ t c,
      Lives true (.start .empty 7 ⟨500, .ofMillis 30000⟩) (.ofScript [.opened .silent])
        [.delivered ⟨7, .state .connecting⟩] t₁ (.ofScript [.opened .silent]) ∧
      Lives false t₁ (.ofScript [.opened .silent])
        [.asked .empty, .failed ⟨7, .state .opened⟩] t c ∧
      t.stage = .finished ∧ c.asked.reverse = [.empty] ∧
      [Delivery.mk 7 (.state .connecting), ⟨7, .state .opened⟩]
        <+: ((attemptsOf [.opened .silent]).flatMap told).map (Delivery.mk 7) := by
  have hstart : Lives true (.start .empty 7 ⟨500, .ofMillis 30000⟩) (.ofScript [.opened .silent]) []
      (.start .empty 7 ⟨500, .ofMillis 30000⟩) (.ofScript [.opened .silent]) := .start
  have hbefore := hstart.step (.delivered rfl rfl)
  have hgone : Lives false (Task.tell (.start .empty 7 ⟨500, .ofMillis 30000⟩) true)
      (.ofScript [.opened .silent]) [] _ _ := .start
  have hafter := (hgone.step (.asked rfl rfl)).step (.failed rfl rfl)
  obtain ⟨-, -, hasked, -, -, hfailed, -⟩ := stops_of_departure _ _ _ _ hbefore hafter
  obtain ⟨-, hstage, htold⟩ := hfailed [.asked .empty] _ List.prefix_rfl
  exact ⟨_, _, _, hbefore, hafter, hstage, hasked.symm, htold⟩

end CameraFeed.Feed
