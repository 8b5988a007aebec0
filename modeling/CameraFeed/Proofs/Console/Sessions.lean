import CameraFeed.Console.Session
import CameraFeed.Proofs.Feed.Rows

/-! # Sessions — the steps of a session and of its tasks

  An `Occurrence` is an input of a session or a step of one of its tasks; a run is a list of them in
  any order. `Session.Responds` says of each input which act of the feed it is and which reply the
  console gives. `Session.Sound.occur` says of each occurrence, on a screen that never breaks, that
  the rows stay those of the events, and that the outputs that the screen took before do not change
  what follows. -/

namespace CameraFeed

/-! ### Arrivals -/

namespace Feed.LiveFeed

/-- The feed after an arrival on the connection that the task of a handle reads. The task takes it
from the connection at once. -/
def hear? (f : LiveFeed) (h : Handle) (a : Push.Arrival) : Option LiveFeed :=
  match f.tasks.task? h with
  | none => none
  | some t =>
    match t.stage with
    | .reading c =>
      let t := { t with stage := .reading { c with arrivals := a :: c.arrivals } }
      { f with tasks := f.tasks.update h t }.act? (.work h (.ofScript []))
    | _ => none

theorem hear?_eq_some {f f' : LiveFeed} {h : Handle} {a : Push.Arrival}
    (hhear : f.hear? h a = some f') :
    ∃ t c stage, f.tasks.task? h = some t ∧ t.stage = .reading c ∧
      Arrives { c with arrivals := a :: c.arrivals } stage ∧
      f' = { f with tasks := f.tasks.update h { t with stage := stage } } := by
  rw [hear?] at hhear
  cases hlive : f.tasks.task? h with
  | none =>
    rw [hlive] at hhear
    cases hhear
  | some t =>
    obtain ⟨filter, generation, backoff, stage⟩ := t
    simp only [hlive] at hhear
    cases stage with
    | reading c =>
      obtain ⟨⟨_, client⟩, hwork, rfl⟩ := Option.map_eq_some_iff.mp hhear
      have hupdated : (f.tasks.update h ⟨filter, generation, backoff,
          .reading { c with arrivals := a :: c.arrivals }⟩).task? h = some _ :=
        TaskTable.task?_update_self hlive
      cases works hwork with
      | told hreads hoffer =>
        obtain rfl := Option.some.inj (hupdated.symm.trans hreads)
        cases hoffer
      | proceeded hreads _ hproceeds =>
        obtain rfl := Option.some.inj (hupdated.symm.trans hreads)
        cases hproceeds with
        | refused hstage | opened hstage => cases hstage
        | read hstage harrives =>
          cases hstage
          refine ⟨_, c, _, rfl, rfl, harrives, ?_⟩
          rw [TaskTable.update_update]
    | announcing | connecting | opening c | passing e c | ending s | waiting delay | finished =>
      cases hhear

/-- A message without an event leaves the feed as it is. -/
theorem hear?_noEvent {f : LiveFeed} {h : Handle} {t : Task} {c : Push.Connection}
    {m : Push.Message} (hlive : f.tasks.task? h = some t) (hstage : t.stage = .reading c)
    (hevent : m.event? = none) : f.hear? h (.message m) = some f := by
  obtain ⟨filter, generation, backoff, _⟩ := t
  obtain rfl := hstage
  have harrived : Task.arrived? { c with arrivals := .message m :: c.arrivals }
      = some (.reading c) := by
    simp only [Task.arrived?, hevent]
  have hupdated : (f.tasks.update h ⟨filter, generation, backoff,
      .reading { c with arrivals := .message m :: c.arrivals }⟩).task? h = some _ :=
    TaskTable.task?_update_self hlive
  have hgoes : (⟨filter, generation, backoff, .reading c⟩ : Task).stage ≠ .finished := by simp
  simp only [hear?, hlive, act?, work, hupdated, Task.offer?, Task.proceed, harrived,
    Option.map_some, stepped_of_goesOn _ h hgoes]
  rw [TaskTable.update_update, TaskTable.update_self hlive]

end Feed.LiveFeed

namespace Console

open Feed (Command Handle LiveFeed Paired)

/-! ### Occurrences -/

/-- A step of a task, or an input of the session. -/
inductive Occurrence where
  /-- The task of the handle takes a step with any client. -/
  | work (h : Handle) (client : Push.Client)
  /-- The delay of the task of the handle ends. -/
  | wake (h : Handle)
  /-- The task of the handle reads an arrival from its connection. -/
  | arrival (h : Handle) (a : Push.Arrival)
  /-- The session takes an input, at a time. -/
  | input (now : Time.Instant) (i : Input)

namespace Session

/-- The session after an occurrence, if it is possible. An ended session takes no inputs. -/
def occur? (s : Session) : Occurrence → Option Session
  | .work h client => (s.feed.act? (.work h client)).map fun feed => { s with feed := feed }
  | .wake h => (s.feed.act? (.wake h)).map fun feed => { s with feed := feed }
  | .arrival h a => (s.feed.hear? h a).map fun feed => { s with feed := feed }
  | .input now i =>
    match s.ending with
    | none => some (s.step now i)
    | some _ => none

/-- The session after a run, if each occurrence of it is possible. -/
def after? (s : Session) (run : List Occurrence) : Option Session := run.foldlM occur? s

theorem after?_concat {s s' : Session} {run : List Occurrence} (h : s.after? run = some s')
    (o : Occurrence) : s.after? (run ++ [o]) = s'.occur? o := by
  rw [after?] at h ⊢
  rw [List.foldlM_append, h]
  exact bind_pure (s'.occur? o)

theorem occur?_noEvent {s : Session} {h : Handle} {t : Feed.Task} {c : Push.Connection}
    {m : Push.Message} (hlive : s.feed.tasks.task? h = some t) (hstage : t.stage = .reading c)
    (hevent : m.event? = none) : s.occur? (.arrival h (.message m)) = some s := by
  rw [occur?, LiveFeed.hear?_noEvent hlive hstage hevent]
  rfl

theorem eq_of_running {s : Session} (h : s.ending = none) : ⟨s.console, s.feed, none⟩ = s := by
  rw [← h]

theorem occur?_input {s s' : Session} {now : Time.Instant} {i : Input}
    (h : s.occur? (.input now i) = some s') : s.ending = none ∧ s' = s.advance now i := by
  rw [occur?] at h
  cases hending : s.ending with
  | some e =>
    rw [hending] at h
    cases h
  | none =>
    rw [hending] at h
    refine ⟨rfl, ?_⟩
    rw [← Option.some.inj h, step, hending]

end Session

/-! ### Replies -/

/-- The console with other outputs on its screen. -/
def replayed (c : Console) (taken : List Output) : Console :=
  { c with screen := { c.screen with taken := taken } }

/-- A command does one act to the feed, or none. -/
theorem perform_eq_or_act (c : Console) (f : LiveFeed) (command : Command) :
    (c.perform f command).1 = f ∨ ∃ a, f.act? a = some (c.perform f command).1 := by
  cases command with
  | devices uuids => exact .inr ⟨.setDevices uuids, rfl⟩
  | codes codes => exact .inr ⟨.setCodes codes, rfl⟩
  | actions actions => exact .inr ⟨.setActions actions, rfl⟩
  | filter filter => exact .inr ⟨.setFilter filter, rfl⟩
  | expand => exact .inr ⟨.setAll true, rfl⟩
  | collapse => exact .inr ⟨.setAll false, rfl⟩
  | toggle row =>
    refine .inr ⟨.toggleRow row, ?_⟩
    rw [perform, LiveFeed.act?]
    cases htoggle : f.toggleRow row with
    | mk shown f' => cases shown <;> rfl
  | share | choices | help | quit => exact .inl rfl

namespace Session

/-- The session with other outputs on its screen. -/
def replayed (s : Session) (taken : List Output) : Session :=
  { s with console := s.console.replayed taken }

/-- The session after it gave a reply. -/
def answer (s : Session) (now : Time.Instant) (r : Reply) : Session :=
  ⟨(s.console.reply s.feed now r).1, s.feed, match (s.console.reply s.feed now r).2 with
    | .ok () => s.ending
    | .error reason => some (.failed reason)⟩

/-! ### Lines -/

section Lines

variable {s : Session} {line : String}

theorem takeLine_of_blank (h : Command.read line = .error .empty) (now : Time.Instant) :
    s.takeLine now line = s := by
  rw [takeLine, h]

theorem takeLine_of_fault {fault : Command.Fault} (h : Command.read line = .error fault)
    (hblank : fault ≠ .empty) (now : Time.Instant) :
    s.takeLine now line = answer { s with ending := none } now (.message fault.message) := by
  rw [takeLine, h]
  cases fault with
  | empty => exact absurd rfl hblank
  | unknown name | invalidRow word => rfl

theorem takeLine_of_quit (h : Command.read line = .ok .quit) (now : Time.Instant) :
    s.takeLine now line = s.finish := by
  rw [takeLine, h]

theorem takeLine_of_command {command : Command} (h : Command.read line = .ok command)
    (hquit : command ≠ .quit) (now : Time.Instant) :
    s.takeLine now line = answer ⟨s.console, (s.console.perform s.feed command).1, none⟩ now
      (s.console.perform s.feed command).2 := by
  rw [takeLine, h]
  cases command with
  | quit => exact absurd rfl hquit
  | _ => rfl

end Lines

/-! ### Inputs -/

/-- `Responds s now i next r`: the input `i` does at most one act to the feed of `s`, which leads to
`next`, and the console then gives the reply `r`. Neither depends on the outputs that the screen
took. -/
structure Responds (s : Session) (now : Time.Instant) (i : Input) (next : Session) (r : Reply) :
    Prop where
  screen : next.console.screen = s.console.screen
  feed : next.feed = s.feed ∨ ∃ a, s.feed.act? a = some next.feed
  advance : ∀ taken, (s.replayed taken).advance now i = (next.replayed taken).answer now r

theorem responds_line (s : Session) (now : Time.Instant) (line : String) :
    ∃ next r, Responds s now (.line line) next r := by
  cases hread : Command.read line with
  | error fault =>
    by_cases hblank : fault = .empty
    · subst hblank
      exact ⟨s, .nothing, rfl, .inl rfl, fun taken => takeLine_of_blank hread now⟩
    · exact ⟨{ s with ending := none }, .message fault.message, rfl, .inl rfl,
        fun taken => takeLine_of_fault hread hblank now⟩
  | ok command =>
    by_cases hquit : command = .quit
    · subst hquit
      exact ⟨s.finish, .nothing, rfl, .inr ⟨.shutdown, rfl⟩,
        fun taken => takeLine_of_quit hread now⟩
    · exact ⟨⟨s.console, (s.console.perform s.feed command).1, none⟩,
        (s.console.perform s.feed command).2, rfl, s.console.perform_eq_or_act s.feed command,
        fun taken => takeLine_of_command hread hquit now⟩

theorem responds_delivery (s : Session) (now : Time.Instant) :
    ∃ next r, Responds s now .delivery next r := by
  have hfeed : ∀ taken, (s.replayed taken).feed.take now = s.feed.take now := fun taken => rfl
  have hclosed : ∀ taken, (s.replayed taken).feed.isClosed = s.feed.isClosed := fun taken => rfl
  cases htake : s.feed.take now with
  | none =>
    cases hends : s.feed.isClosed with
    | true =>
      refine ⟨s.finish, .nothing, rfl, .inr ⟨.shutdown, rfl⟩, fun taken => ?_⟩
      simp only [advance, hfeed, htake, hclosed, hends]
      rfl
    | false =>
      refine ⟨s, .nothing, rfl, .inl rfl, fun taken => ?_⟩
      simp only [advance, hfeed, htake, hclosed, hends]
      rfl
  | some taking =>
    obtain ⟨update, feed⟩ := taking
    have hact : s.feed.act? (.take now) = some feed := congrArg (Option.map Prod.snd) htake
    cases update with
    | none =>
      refine ⟨{ s with feed := feed }, .nothing, rfl, .inr ⟨.take now, hact⟩, fun taken => ?_⟩
      simp only [advance, hfeed, htake]
      rfl
    | some update =>
      refine ⟨⟨s.console, feed, none⟩, .draw, rfl, .inr ⟨.take now, hact⟩, fun taken => ?_⟩
      simp only [advance, hfeed, htake]
      rfl

/-- Every input has a response. -/
theorem responds (s : Session) (now : Time.Instant) (i : Input) :
    ∃ next r, Responds s now i next r := by
  cases i with
  | delivery => exact s.responds_delivery now
  | line text => exact s.responds_line now text
  | eof | shutdown => exact ⟨s.finish, .nothing, rfl, .inr ⟨.shutdown, rfl⟩, fun taken => rfl⟩
  | refresh => exact ⟨{ s with ending := none }, .draw, rfl, .inl rfl, fun taken => rfl⟩
  | reload directory =>
    cases directory with
    | none => exact ⟨{ s with ending := none }, .nothing, rfl, .inl rfl, fun taken => rfl⟩
    | some directory =>
      exact ⟨⟨{ s.console with directory := directory }, s.feed, none⟩, .draw, rfl, .inl rfl,
        fun taken => rfl⟩

end Session

/-! ### Screens that do not fail -/

/-- A screen that never breaks takes all outputs. -/
theorem Screen.putAll_of_sound (screen : Screen) (h : screen.breakage = none)
    (outputs : List Output) :
    screen.putAll outputs = ({ screen with taken := outputs.reverse ++ screen.taken }, .ok ()) := by
  induction outputs generalizing screen with
  | nil => rfl
  | cons o rest ih =>
    have hput : screen.put o = .ok { screen with taken := o :: screen.taken } := by
      rw [put, h]
    have hrest := ih { screen with taken := o :: screen.taken } h
    rw [List.reverse_cons, List.append_assoc, List.singleton_append, ← hrest]
    simp only [putAll, hput]

/-- The outputs of a reply, the last one first. -/
def outputs (c : Console) (f : LiveFeed) (now : Time.Instant) : Reply → List Output
  | .draw => (c.drawing f now).reverse
  | .message text => [.flush, .write (text ++ "\n")]
  | .nothing => []

theorem reply_of_sound {c : Console} (h : c.screen.breakage = none) (f : LiveFeed)
    (now : Time.Instant) (r : Reply) :
    c.reply f now r = (c.replayed (c.outputs f now r ++ c.screen.taken), .ok ()) := by
  cases r with
  | draw =>
    rw [reply, draw, put, Screen.putAll_of_sound _ h]
    rfl
  | message text =>
    rw [reply, message, put, Screen.putAll_of_sound _ h]
    rfl
  | nothing => rfl

namespace Session

theorem answer_of_sound {s : Session} (h : s.console.screen.breakage = none) (now : Time.Instant)
    (r : Reply) :
    s.answer now r = s.replayed (s.console.outputs s.feed now r ++ s.console.screen.taken) := by
  rw [answer, reply_of_sound h]
  rfl

/-- The screen never breaks, and the rows are those of the events. -/
structure Sound (s : Session) : Prop where
  screen : s.console.screen.breakage = none
  paired : Paired s.feed.buffer s.feed.projection

theorem start_eq (console : Console) (feed : LiveFeed) (now : Time.Instant) :
    start console feed now = answer ⟨console, feed.subscribe, none⟩ now .draw := rfl

theorem Sound.start {console : Console} (h : console.screen.breakage = none) (feed : LiveFeed)
    (now : Time.Instant) : Sound (Session.start console feed now) := by
  rw [start_eq, answer_of_sound h]
  refine ⟨h, ?_⟩
  show Paired feed.subscribe.buffer feed.subscribe.projection
  rw [feed.subscribe_buffer, feed.subscribe_projection]
  exact .clear _ _

/-- Every occurrence keeps a session sound. With other outputs on its screen the same occurrence is
possible and adds the same outputs. -/
theorem Sound.occur {s s' : Session} (h : Sound s) {o : Occurrence}
    (hoccur : s.occur? o = some s') :
    Sound s' ∧ ∃ outputs, s'.console.screen.taken = outputs ++ s.console.screen.taken ∧
      ∀ taken, (s.replayed taken).occur? o = some (s'.replayed (outputs ++ taken)) := by
  cases o with
  | work k client | wake k =>
    obtain ⟨f', hact, rfl⟩ := Option.map_eq_some_iff.mp hoccur
    refine ⟨⟨h.screen, h.paired.act hact⟩, [], rfl, fun taken => ?_⟩
    exact congrArg (Option.map _) hact
  | arrival k a =>
    obtain ⟨f', hhear, rfl⟩ := Option.map_eq_some_iff.mp hoccur
    refine ⟨⟨h.screen, ?_⟩, [], rfl, fun taken => congrArg (Option.map _) hhear⟩
    obtain ⟨t, c, stage, -, -, -, rfl⟩ := LiveFeed.hear?_eq_some hhear
    exact h.paired
  | input now i =>
    obtain ⟨hending, rfl⟩ := occur?_input hoccur
    obtain ⟨next, r, hresponds⟩ := s.responds now i
    have hscreen : next.console.screen.breakage = none := hresponds.screen ▸ h.screen
    have hanswer : ∀ taken, (s.replayed taken).advance now i
        = next.replayed (next.console.outputs next.feed now r ++ taken) := by
      intro taken
      rw [hresponds.advance, answer_of_sound (s := next.replayed taken) hscreen]
      rfl
    have hadvance : s.advance now i = _ := hanswer s.console.screen.taken
    refine ⟨⟨?_, ?_⟩, next.console.outputs next.feed now r, ?_, fun taken => ?_⟩
    · rw [hadvance]
      exact hscreen
    · rw [hadvance]
      rcases hresponds.feed with hsame | ⟨a, hact⟩
      · exact hsame ▸ h.paired
      · exact h.paired.act hact
    · rw [hadvance]
      rfl
    · have hrunning : (s.replayed taken).ending = none := hending
      rw [occur?, hrunning, step, hrunning, hanswer, hadvance]
      rfl

end Session

end Console

end CameraFeed
