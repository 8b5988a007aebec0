import CameraFeed.Proofs.Console.Failures
import CameraFeed.Proofs.Console.Runs

/-! # Endings — the feed after the end of a session

  A session that finishes shuts its feed down. One whose screen fails ends where it is: the task of
  the subscription stays live, and goes on with its client and its connection. `Leaves` is the
  invariant of every run from which `tornDown_iff_finished` follows. -/

namespace CameraFeed

/-! ### Feeds that run -/

namespace Feed

namespace LiveFeed

/-- The act ends the task of the subscription without a new one. -/
def Act.takesTask : Act → Bool
  | .teardown | .shutdown => true
  | _ => false

variable {f f' : LiveFeed}

/-- A step of any task keeps the task of the subscription live. -/
theorem isSome_task_update (htask : f.task.isSome = true) (h : Handle) (t : Task)
    (queue : List Delivery) :
    (task { f with tasks := f.tasks.update h t, queue := queue }).isSome = true := by
  rw [task] at htask ⊢
  cases hsubscription : f.subscription with
  | none =>
    rw [hsubscription] at htask
    cases htask
  | some k =>
    rw [hsubscription] at htask
    exact TaskTable.isSome_task?_update htask

theorem isSome_subscribe (f : LiveFeed) : f.subscribe.task.isSome = true := by
  rw [f.task_subscribe]
  rfl

/-- No other act ends the task. -/
theorem isSome_act {a : Act} (h : f.act? a = some f') (hkeeps : a.takesTask = false)
    (htask : f.task.isSome = true) : f'.task.isSome = true := by
  cases a with
  | work k client =>
    obtain ⟨⟨_, _⟩, hwork, rfl⟩ := Option.map_eq_some_iff.mp h
    cases works hwork with
    | told => exact isSome_task_update htask _ _ _
    | proceeded => exact isSome_task_update htask _ _ f.queue
  | wake k =>
    obtain ⟨t, delay, -, -, rfl⟩ := wake_eq_some h
    exact isSome_task_update htask _ _ f.queue
  | take now =>
    obtain ⟨⟨_, _⟩, htake, rfl⟩ := Option.map_eq_some_iff.mp h
    cases takes htake with
    | dropped hqueue => exact htask
    | accepted hqueue => rw [accept_task]; exact htask
  | subscribe | setFilter filter | setDevices uuids | setCodes codes | setActions actions =>
    cases h
    exact isSome_subscribe _
  | setAll expanded | toggleRow seq =>
    cases h
    exact htask
  | teardown | shutdown => cases hkeeps

theorem isSome_hear {k : Handle} {a : Push.Arrival} (h : f.hear? k a = some f')
    (htask : f.task.isSome = true) : f'.task.isSome = true := by
  obtain ⟨t, c, stage, -, -, -, rfl⟩ := hear?_eq_some h
  exact isSome_task_update htask _ _ f.queue

/-! ### Feeds that are torn down -/

/-- The steps of a task without a handle change nothing of a feed that is torn down but its queue.
-/
theorem TornDown.update (hdown : f.TornDown) (tasks : TaskTable) (queue : List Delivery) :
    TornDown { f with tasks := tasks, queue := queue } := by
  have hnone : LiveFeed.task { f with tasks := tasks, queue := queue } = none := by
    show f.subscription.bind tasks.task? = none
    rw [hdown.subscription]
    rfl
  exact { hdown with
    task := hnone
    connection := by rw [hnone]; rfl }

theorem TornDown.work (hdown : f.TornDown) {k : Handle} {client : Push.Client}
    (h : f.act? (.work k client) = some f') : f'.TornDown := by
  obtain ⟨⟨_, _⟩, hwork, rfl⟩ := Option.map_eq_some_iff.mp h
  cases works hwork with
  | told => exact hdown.update _ _
  | proceeded => exact hdown.update _ f.queue

theorem TornDown.wake (hdown : f.TornDown) {k : Handle} (h : f.act? (.wake k) = some f') :
    f'.TornDown := by
  obtain ⟨t, delay, -, -, rfl⟩ := wake_eq_some h
  exact hdown.update _ f.queue

theorem TornDown.hear (hdown : f.TornDown) {k : Handle} {a : Push.Arrival}
    (h : f.hear? k a = some f') : f'.TornDown := by
  obtain ⟨t, c, stage, -, -, -, rfl⟩ := hear?_eq_some h
  exact hdown.update _ f.queue

end LiveFeed

/-- No command ends the task. -/
theorem Command.isSome_effect {f : LiveFeed} (htask : f.task.isSome = true) (command : Command) :
    (command.effect f).task.isSome = true := by
  cases command with
  | devices values | codes values | actions values | filter value =>
    exact LiveFeed.isSome_subscribe _
  | expand | collapse | toggle row | share | choices | help | quit => exact htask

end Feed

namespace Console

open Feed (LiveFeed)

/-- No input ends the task, unless it ends the session. -/
theorem Input.isSome_effect {f : LiveFeed} (htask : f.task.isSome = true) (now : Time.Instant)
    (i : Input) : (i.effect f now).task.isSome = true := by
  cases i with
  | refresh | reload names | eof | shutdown => exact htask
  | delivery =>
    rw [effect]
    cases hact : f.act? (.take now) with
    | none => exact htask
    | some f' => exact LiveFeed.isSome_act hact rfl htask
  | line text =>
    rw [effect]
    cases Feed.Command.read text with
    | ok command => exact Feed.Command.isSome_effect htask command
    | error fault => exact htask

namespace Session

/-! ### Tasks and connections after a session -/

/-- The feed of a session that is finished is torn down. The feed of any other session has a live
task. -/
structure Leaves (s : Session) : Prop where
  finished : s.ending = some .finished → s.feed.TornDown
  unfinished : s.ending ≠ some .finished → s.feed.task.isSome = true

namespace Leaves

variable {s : Session}

/-- A reply does not finish a session, and leaves the feed as it is. -/
theorem answer {next : Session} (hrunning : next.ending = none)
    (htask : next.feed.task.isSome = true) (now : Time.Instant) (r : Reply) :
    Leaves (next.answer now r) := by
  refine ⟨fun hfinished => ?_, fun _ => htask⟩
  rw [Session.answer] at hfinished
  cases hreply : (next.console.reply next.feed now r).2 with
  | ok done =>
    simp only [hreply, hrunning] at hfinished
    cases hfinished
  | error reason =>
    rw [hreply] at hfinished
    cases hfinished

/-- The subscription starts before the first drawing. -/
theorem start (c : Console) (f : LiveFeed) (now : Time.Instant) :
    Leaves (Session.start c f now) := by
  rw [start_eq]
  exact answer rfl f.isSome_subscribe now .draw

theorem finish (s : Session) : Leaves s.finish :=
  ⟨fun _ => s.feed.tornDown_shutdown, fun hunfinished => absurd rfl hunfinished⟩

/-- A step of a task leaves a feed as it was in this respect. -/
theorem unheard (h : Leaves s) {next : Option LiveFeed}
    (hdown : ∀ f, next = some f → s.feed.TornDown → f.TornDown)
    (hsome : ∀ f, next = some f → s.feed.task.isSome = true → f.task.isSome = true) :
    Leaves ((next.map fun feed => { s with feed := feed }).getD s) := by
  cases next with
  | none => exact h
  | some f =>
    exact ⟨fun hfinished => hdown f rfl (h.finished hfinished),
      fun hunfinished => hsome f rfl (h.unfinished hunfinished)⟩

/-- An input of a running session finishes it, or leaves its task live. -/
theorem advance (h : Leaves s) (hrunning : s.ending = none) (now : Time.Instant) (i : Input) :
    Leaves (s.advance now i) := by
  have htask : s.feed.task.isSome = true :=
    h.unfinished (by rw [hrunning]; exact (Option.some_ne_none _).symm)
  cases hends : i.ends with
  | true =>
    rw [advance_of_ends hends]
    exact finish s
  | false =>
    -- On a closed queue, a delivery finishes the session as the end of the lines does.
    by_cases hclosed : i = .delivery ∧ s.feed.isClosed = true
    · obtain ⟨rfl, hclosed⟩ := hclosed
      rw [advance_of_isClosed hclosed]
      exact finish s
    · have hopen : i = .delivery → s.feed.isClosed = false := by
        intro hdelivery
        exact Bool.eq_false_iff.mpr fun htrue => hclosed ⟨hdelivery, htrue⟩
      rw [advance_of_goesOn hrunning hends hopen]
      exact answer rfl (i.isSome_effect htask now) now _

/-- Every occurrence keeps the invariant. -/
theorem happen (h : Leaves s) (o : Occurrence) : Leaves (s.happen o) := by
  cases o with
  | work k client =>
    exact h.unheard (fun f hact hdown => hdown.work hact)
      fun f hact => LiveFeed.isSome_act hact rfl
  | wake k =>
    exact h.unheard (fun f hact hdown => hdown.wake hact)
      fun f hact => LiveFeed.isSome_act hact rfl
  | arrival k a =>
    exact h.unheard (fun f hhear hdown => hdown.hear hhear)
      fun f hhear => LiveFeed.isSome_hear hhear
  | input now i =>
    cases hending : s.ending with
    | some e =>
      have hsame : s.happen (.input now i) = s := by
        rw [Session.happen, occur?, hending]
        rfl
      rwa [hsame]
    | none =>
      rw [happen_input hending]
      exact h.advance hending now i

theorem after (h : Leaves s) (run : List Occurrence) : Leaves (s.after run) := by
  induction run generalizing s with
  | nil => exact h
  | cons o rest ih => exact ih (h.happen o)

end Leaves

end Session

/-- For every screen and every run, the feed is torn down if and only if the session is finished,
and has a live task if and only if it is not. On a feed whose only live task is that of its
subscription, no task is left if and only if the session is finished. A screen that fails ends the
session without finishing it. -/
theorem tornDown_iff_finished (console : Console) (feed : LiveFeed) (now : Time.Instant)
    (run : List Occurrence) :
    let s := (Session.start console feed now).after run
    (s.feed.TornDown ↔ s.ending = some .finished) ∧
      (s.feed.task.isSome = true ↔ s.ending ≠ some .finished) ∧
      (feed.Tidy → (s.feed.tasks.live = [] ↔ s.ending = some .finished)) := by
  intro s
  have hleaves : s.Leaves := (Session.Leaves.start console feed now).after run
  refine ⟨⟨fun hdown => ?_, hleaves.finished⟩, ⟨fun htask hfinished => ?_, hleaves.unfinished⟩,
    fun hstart => ?_⟩
  · by_contra hunfinished
    exact LiveFeed.not_tornDown (hleaves.unfinished hunfinished) hdown
  · exact LiveFeed.not_tornDown htask (hleaves.finished hfinished)
  · have htidy : s.feed.Tidy := Session.tidy_after hstart.subscribe run
    rw [htidy.live_eq]
    constructor
    · intro hnone
      by_contra hunfinished
      obtain ⟨t, htask⟩ := Option.isSome_iff_exists.mp (hleaves.unfinished hunfinished)
      rw [htask] at hnone
      cases hnone
    · intro hfinished
      rw [(hleaves.finished hfinished).task]
      rfl

/-- The first drawing fails, and with it the session. The feed is not torn down, and its task opens
a connection later. -/
theorem connection_after_brokenScreen :
    let s := Session.start { plainConsole with screen := .broken "screen is gone" }
      (.new .empty Feed.keepOne) ⟨0, 0⟩
    s.ending = some (.failed "screen is gone") ∧ ¬ s.feed.TornDown ∧
      (s.after opens).feed.tasks.live.length = 1 ∧
      (s.after opens).feed.tasks.connections.length = 1 ∧
      ((s.after opens).feed.task.bind Feed.Task.connection?).isSome = true := by
  intro s
  exact ⟨rfl, LiveFeed.not_tornDown rfl, rfl, rfl, rfl⟩

end Console

end CameraFeed
