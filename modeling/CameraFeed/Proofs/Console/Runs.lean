import CameraFeed.Proofs.Console.Sessions

/-! # Runs — the course of a whole run of the console

  `Course.ofRun` says what a run of the console has to lead to: the feed and the directory after one
  occurrence after another, and what is shown on the way. Which inputs end a session, which are
  followed by a drawing and which by a message is said by the kind of the input, and the outputs of
  a drawing are spelled out, without regard to `Session.advance` and `Console.drawing`.

  `course_of_run` says that a session on a screen that never breaks keeps to the course of its run
  up to the first input that ends it, and that nothing after that has any effect. -/

namespace CameraFeed

namespace Feed

/-! ### The end of a feed -/

/-- The feed has no subscription, and nothing that one brought. -/
structure LiveFeed.TornDown (f : LiveFeed) : Prop where
  subscription : f.subscription = none
  task : f.task = none
  connection : f.task.bind Task.connection? = none
  state : f.state = .idle
  openSince : f.openSince = none
  events : f.buffer.events = []
  rows : f.projection.rows = []

theorem LiveFeed.tornDown_shutdown (f : LiveFeed) : f.shutdown.TornDown := by
  obtain ⟨tasks, senders, hteardown⟩ := f.exists_teardown_eq
  rw [shutdown, hteardown]
  exact ⟨rfl, rfl, rfl, rfl, rfl, rfl, rfl⟩

/-- A feed with a task is not torn down. -/
theorem LiveFeed.not_tornDown {f : LiveFeed} (h : f.task.isSome = true) : ¬ f.TornDown := by
  intro hdown
  rw [hdown.task] at h
  cases h

/-! ### Commands -/

namespace Command

theorem toggleOf_ne_quit (word : String) : toggleOf word ≠ .ok .quit := by
  rw [toggleOf]
  split <;> simp

/-- A line is the command to quit exactly if its first word is the name of it. -/
theorem read_eq_quit_iff {line : String} :
    read line = .ok .quit ↔
      ((Text.wordsOf line).head?.any fun name => name == "quit" || name == "exit") = true := by
  rw [read]
  cases Text.wordsOf line with
  | nil => simp
  | cons name arguments =>
    simp only [List.head?_cons, Option.any_some, Bool.or_eq_true, beq_iff_eq]
    rw [ofWords.eq_def]
    split <;> simp_all [toggleOf_ne_quit]

/-- The feed after a command. -/
def effect (f : LiveFeed) : Command → LiveFeed
  | .devices values => f.setDevices values
  | .codes values => f.setCodes values
  | .actions values => f.setActions values
  | .filter value => f.setFilter value
  | .expand => f.setAll true
  | .collapse => f.setAll false
  | .toggle row => (f.toggleRow row).2
  | .share | .choices | .help | .quit => f

/-- The command is followed by a drawing. -/
def redraws (f : LiveFeed) : Command → Bool
  | .devices _ | .codes _ | .actions _ | .filter _ | .expand | .collapse => true
  | .toggle row => f.projection.keys.contains row
  | .share | .choices | .help | .quit => false

/-- The message that follows a command without a drawing, if one does. -/
def message? (choices : Choices) (f : LiveFeed) : Command → Option String
  | .toggle row => some ("No row " ++ Decimal.text row)
  | .share => some f.filter.toQuery
  | .choices => some choices.text
  | .help => some helpText
  | _ => none

end Command

end Feed

namespace Console

open Feed (Command LiveFeed)

/-! ### Inputs by kind -/

namespace Input

/-- The input ends the session: the line to quit, the end of the lines, or a shutdown. -/
def ends : Input → Bool
  | .line text => (Text.wordsOf text).head?.any fun name => name == "quit" || name == "exit"
  | .eof | .shutdown => true
  | .delivery | .refresh | .reload _ => false

/-- The feed after an input. -/
def effect (f : LiveFeed) (now : Time.Instant) : Input → LiveFeed
  | .delivery => (f.act? (.take now)).getD f
  | .line text =>
    match Command.read text with
    | .ok command => command.effect f
    | .error _ => f
  | .refresh | .reload _ | .eof | .shutdown => f

/-- The directory that the input replaces the old one by. -/
def names? : Input → Option Directory
  | .reload names => names
  | .delivery | .line _ | .refresh | .eof | .shutdown => none

/-- The input is followed by a drawing: a delivery that concerns the feed, a refresh, a directory
that was loaded, or one of the commands that change what is shown. -/
def redraws (f : LiveFeed) : Input → Bool
  | .delivery => f.queue.head?.any f.concerns
  | .refresh => true
  | .reload names => names.isSome
  | .line text =>
    match Command.read text with
    | .ok command => command.redraws f
    | .error _ => false
  | .eof | .shutdown => false

/-- The message that follows an input without a drawing, if one does. -/
def message? (choices : Choices) (f : LiveFeed) : Input → Option String
  | .line text =>
    match Command.read text with
    | .ok command => command.message? choices f
    | .error .empty => none
    | .error fault => some fault.message
  | .delivery | .refresh | .reload _ | .eof | .shutdown => none

end Input

/-! ### Courses -/

/-- A drawing or a message. -/
inductive Shown where
  /-- A drawing of the feed with a directory at a time. -/
  | drawing (f : LiveFeed) (names : Directory) (now : Time.Instant)
  | message (text : String)

namespace Shown

/-- A drawing if there has to be one, or else a message if there is one. -/
def of? (redraws : Bool) (text? : Option String) (drawing : Shown) : Option Shown :=
  if redraws then some drawing else text?.map .message

/-- The outputs of a drawing or a message on a console that clears its screen or does not. Each ends
with the only flush among them. -/
def outputs (clears : Bool) : Shown → List Output
  | .drawing f names now =>
    (if clears then [.write "\x1b[2J\x1b[H"] else []) ++
      [.write (statusLine f now ++ "\n"), .write (Feed.Table.text (f.rows names now)), .flush]
  | .message text => [.write (text ++ "\n"), .flush]

/-- There is one flush for each drawing and each message. -/
theorem count_flush (clears : Bool) (shown : List Shown) :
    (shown.flatMap (outputs clears)).count .flush = shown.length := by
  induction shown with
  | nil => rfl
  | cons first rest ih =>
    have hfirst : (outputs clears first).count .flush = 1 := by
      cases first with
      | drawing f names now => cases clears <;> rfl
      | message text => rfl
    rw [List.flatMap_cons, List.count_append, hfirst, ih, List.length_cons, Nat.add_comm]

end Shown

/-- The feed and the directory after a part of a run, and what was shown in it. -/
structure Course where
  feed : LiveFeed
  names : Directory
  /-- The drawings and messages in their order. -/
  shown : List Shown

namespace Course

/-- The start of every run: the console subscribes and draws. -/
def start (c : Console) (f : LiveFeed) (now : Time.Instant) : Course :=
  ⟨f.subscribe, c.directory, [.drawing f.subscribe c.directory now]⟩

/-- The course after an input. A drawing is one of the feed and the directory after the input. -/
def take (c : Console) (k : Course) (now : Time.Instant) (i : Input) : Course :=
  let feed := i.effect k.feed now
  let names := i.names?.getD k.names
  let shown := Shown.of? (i.redraws k.feed) (i.message? c.choices k.feed) (.drawing feed names now)
  ⟨feed, names, k.shown ++ shown.toList⟩

/-- The course after an occurrence. One that is not possible changes nothing. -/
def next (c : Console) (k : Course) : Occurrence → Course
  | .work h client => { k with feed := (k.feed.act? (.work h client)).getD k.feed }
  | .wake h => { k with feed := (k.feed.act? (.wake h)).getD k.feed }
  | .arrival h a => { k with feed := (k.feed.hear? h a).getD k.feed }
  | .input now i => k.take c now i

end Course

/-- The occurrence ends the session. -/
def Occurrence.ends : Occurrence → Bool
  | .input _ i => i.ends
  | .work .. | .wake _ | .arrival .. => false

/-- The course of a run up to the first input that ends it. -/
def Course.ofRun (c : Console) (f : LiveFeed) (now : Time.Instant) (run : List Occurrence) :
    Course :=
  (run.takeWhile fun o => !o.ends).foldl (next c) (.start c f now)

/-! ### Sessions -/

namespace Session

/-- The session after an occurrence. One that is not possible changes nothing; these are all inputs
after the end. -/
def happen (s : Session) (o : Occurrence) : Session := (s.occur? o).getD s

/-- The session after a run. -/
def after (s : Session) (run : List Occurrence) : Session := run.foldl happen s

variable {s : Session} {o : Occurrence}

/-- Every occurrence keeps the tasks tidy. -/
theorem tidy_happen (htidy : s.feed.Tidy) (o : Occurrence) : (s.happen o).feed.Tidy := by
  rw [happen]
  cases hoccur : s.occur? o with
  | none => exact htidy
  | some s' =>
    show s'.feed.Tidy
    cases o with
    | work k client | wake k =>
      obtain ⟨f', hact, rfl⟩ := Option.map_eq_some_iff.mp hoccur
      exact htidy.act hact
    | arrival k a =>
      obtain ⟨f', hhear, rfl⟩ := Option.map_eq_some_iff.mp hoccur
      obtain ⟨t, c, stage, hlive, -, -, rfl⟩ := LiveFeed.hear?_eq_some hhear
      exact htidy.update hlive _ s.feed.queue
    | input now i =>
      obtain ⟨-, rfl⟩ := occur?_input hoccur
      obtain ⟨next, r, hresponds⟩ := s.responds now i
      have hadvance : s.advance now i = _ := hresponds.advance s.console.screen.taken
      rw [hadvance]
      show next.feed.Tidy
      rcases hresponds.feed with hsame | ⟨a, hact⟩
      · exact hsame ▸ htidy
      · exact htidy.act hact

theorem tidy_after (htidy : s.feed.Tidy) (run : List Occurrence) : (s.after run).feed.Tidy := by
  induction run generalizing s with
  | nil => exact htidy
  | cons o rest ih => exact ih (tidy_happen htidy o)

/-- Nothing changes a session that has ended and whose tasks are all dropped. -/
theorem after_of_over {e : Ending} (hending : s.ending = some e)
    (hdropped : ∀ k, s.feed.tasks.task? k = none) (run : List Occurrence) : s.after run = s := by
  have hnever : ∀ o, s.occur? o = none := by
    intro o
    cases o with
    | work k client => rw [occur?, LiveFeed.act?, LiveFeed.work, hdropped k]; rfl
    | wake k => rw [occur?, LiveFeed.act?, LiveFeed.wake, hdropped k]; rfl
    | arrival k a => rw [occur?, LiveFeed.hear?, hdropped k]; rfl
    | input now i => rw [occur?, hending]
  induction run with
  | nil => rfl
  | cons o rest ih =>
    rw [after, List.foldl_cons, happen, hnever o]
    exact ih

/-- The last step of a session on a tidy feed drops its task. -/
theorem after_finish (htidy : s.feed.Tidy) (run : List Occurrence) :
    s.finish.after run = s.finish := by
  refine after_of_over rfl (fun k => ?_) run
  show s.feed.teardown.tasks.task? k = none
  cases hlive : s.feed.teardown.tasks.task? k with
  | none => rfl
  | some t => cases htidy.teardown.1.only k t hlive

end Session

/-- The reply that is a drawing, or else a message if there is one. -/
def Reply.of (redraws : Bool) (text? : Option String) : Reply :=
  if redraws then .draw else text?.elim .nothing .message

theorem perform_eq (c : Console) (f : LiveFeed) (command : Command) :
    c.perform f command
      = (command.effect f, .of (command.redraws f) (command.message? c.choices f)) := by
  cases command with
  | toggle row =>
    have hrow := f.projection.toggleRow_isSome row
    rw [← List.contains_iff_mem] at hrow
    simp only [perform, LiveFeed.toggleRow, Command.effect, Command.redraws, Command.message?]
    cases htoggle : f.projection.toggleRow row with
    | mk shown p =>
      rw [htoggle] at hrow
      cases shown with
      | none =>
        have hnone : f.projection.keys.contains row = false := by simpa using hrow
        simp only [hnone, Reply.of]
        rfl
      | some b =>
        have hsome : f.projection.keys.contains row = true := by simpa using hrow
        simp only [hsome, Reply.of]
        rfl
  | devices uuids | codes codes | actions actions | filter filter | expand | collapse | share
  | choices | help | quit => rfl

namespace Session

variable {s : Session} {c : Console} {k : Course}

theorem advance_of_ends {i : Input} (h : i.ends = true) (now : Time.Instant) :
    s.advance now i = s.finish := by
  cases i with
  | line text => exact takeLine_of_quit (Command.read_eq_quit_iff.mpr h) now
  | eof | shutdown => rfl
  | delivery | refresh | reload names => cases h

/-- A closed queue ends a session that waits for a delivery. -/
theorem advance_of_isClosed (hclosed : s.feed.isClosed = true) (now : Time.Instant) :
    s.advance now .delivery = s.finish := by
  have hempty : s.feed.queue = [] := by
    rw [LiveFeed.isClosed, Bool.and_eq_true, List.isEmpty_iff] at hclosed
    exact hclosed.1
  simp only [advance, LiveFeed.take, hempty, hclosed, if_true]

/-- An input that does not end the session has its effect on the feed, and then the reply of its
kind. -/
theorem advance_of_goesOn (hrunning : s.ending = none) {i : Input} (h : i.ends = false)
    (hopen : i = .delivery → s.feed.isClosed = false) (now : Time.Instant) :
    s.advance now i = answer ⟨{ s.console with directory := i.names?.getD s.console.directory },
      i.effect s.feed now, none⟩ now
        (.of (i.redraws s.feed) (i.message? s.console.choices s.feed)) := by
  have hsame : s = ⟨s.console, s.feed, none⟩ := (eq_of_running hrunning).symm
  cases i with
  | eof | shutdown => cases h
  | refresh => rfl
  | reload names => cases names <;> rfl
  | delivery =>
    simp only [advance, Input.effect, Input.redraws, Input.message?, LiveFeed.act?, LiveFeed.take]
    cases hqueue : s.feed.queue with
    | nil =>
      simp only [hopen rfl]
      exact hsame
    | cons d rest =>
      have hrest : ({ s.feed with queue := rest } : LiveFeed).concerns d = s.feed.concerns d := rfl
      simp only [hrest, List.head?_cons, Option.any_some]
      cases hconcerns : s.feed.concerns d with
      | true => rfl
      | false =>
        simp only [Bool.false_eq_true, if_false, hrunning]
        rfl
  | line text =>
    simp only [advance, Input.effect, Input.redraws, Input.message?]
    cases hread : Command.read text with
    | error fault =>
      by_cases hblank : fault = .empty
      · subst hblank
        rw [takeLine_of_blank hread]
        exact hsame
      · rw [takeLine_of_fault hread hblank, hsame]
        cases fault with
        | empty => exact absurd rfl hblank
        | unknown name | invalidRow word => rfl
    | ok command =>
      have hquit : command ≠ .quit := by
        rintro rfl
        rw [Input.ends, Command.read_eq_quit_iff.mp hread] at h
        cases h
      rw [takeLine_of_command hread hquit, perform_eq]
      rfl

theorem happen_input (hrunning : s.ending = none) (now : Time.Instant) (i : Input) :
    s.happen (.input now i) = s.advance now i := by
  rw [happen, occur?, hrunning, step, hrunning]
  rfl

/-! ### Keeping to a course -/

/-- The session is running, and its feed, directory and outputs are those of the course. -/
structure Keeps (c : Console) (k : Course) (s : Session) : Prop where
  ending : s.ending = none
  tidy : s.feed.Tidy
  feed : s.feed = k.feed
  console : s.console = { c with
    directory := k.names
    screen.taken := (k.shown.flatMap (Shown.outputs c.clears)).reverse ++ c.screen.taken }

namespace Keeps

/-- The outputs of a reply are those of what has to be shown. -/
theorem outputs_of (c : Console) (screen : Screen) (f : LiveFeed) (names : Directory)
    (now : Time.Instant) (redraws : Bool) (text? : Option String) :
    outputs { c with directory := names, screen := screen } f now (.of redraws text?)
      = ((Shown.of? redraws text? (.drawing f names now)).toList.flatMap
          (Shown.outputs c.clears)).reverse := by
  cases redraws with
  | true =>
    rw [Shown.of?, if_pos rfl, Option.toList_some, List.flatMap_singleton]
    rfl
  | false => cases text? <;> rfl

/-- After a reply the session keeps to the course. -/
theorem answer (h : Keeps c k s) (hsound : c.screen.breakage = none) {f : LiveFeed}
    (htidy : f.Tidy) (names : Directory) (now : Time.Instant) (redraws : Bool)
    (text? : Option String) :
    Keeps c
      ⟨f, names, k.shown ++ (Shown.of? redraws text? (.drawing f names now)).toList⟩
      (Session.answer ⟨{ s.console with directory := names }, f, none⟩ now
        (.of redraws text?)) := by
  rw [h.console, answer_of_sound hsound]
  refine ⟨rfl, htidy, rfl, ?_⟩
  rw [outputs_of, List.flatMap_append, List.reverse_append, List.append_assoc]
  rfl

/-- The session starts as the course does. -/
theorem start (hsound : c.screen.breakage = none) {f : LiveFeed} (htidy : f.Tidy)
    (now : Time.Instant) : Keeps c (.start c f now) (Session.start c f now) := by
  rw [start_eq, answer_of_sound hsound]
  refine ⟨rfl, htidy.subscribe, rfl, ?_⟩
  rw [Course.start, List.flatMap_singleton]
  rfl

/-- An occurrence that does not end the session keeps it to the course. -/
theorem happen (h : Keeps c k s) (hsound : c.screen.breakage = none) {o : Occurrence}
    (hgoes : o.ends = false) : Keeps c (k.next c o) (s.happen o) := by
  have htidy := tidy_happen h.tidy o
  -- A step of a task changes the feed alone.
  have hunheard (next : LiveFeed → Option LiveFeed)
      (htidy : (((next s.feed).map fun feed => { s with feed := feed }).getD s).feed.Tidy) :
      Keeps c { k with feed := (next k.feed).getD k.feed }
        (((next s.feed).map fun feed => { s with feed := feed }).getD s) := by
    rw [h.feed] at htidy ⊢
    cases hnext : next k.feed with
    | none => exact h
    | some feed =>
      rw [hnext] at htidy
      exact { h with tidy := htidy, feed := rfl }
  cases o with
  | work k client => exact hunheard (fun f => f.act? (.work k client)) htidy
  | wake k => exact hunheard (fun f => f.act? (.wake k)) htidy
  | arrival k a => exact hunheard (fun f => f.hear? k a) htidy
  | input now i =>
    -- The queue of a tidy feed has a sender, so a delivery never finishes the session.
    have hopen : i = .delivery → s.feed.isClosed = false := fun _ => h.tidy.isClosed_eq_false
    rw [happen_input h.ending, advance_of_goesOn h.ending hgoes hopen] at htidy ⊢
    have hnames : s.console.directory = k.names := by rw [h.console]
    have hchoices : s.console.choices = c.choices := by rw [h.console]
    rw [hnames, hchoices, h.feed] at htidy ⊢
    exact h.answer hsound htidy _ now _ _

/-- An occurrence that ends the session finishes it. -/
theorem happen_of_ends (h : Keeps c k s) {o : Occurrence} (hends : o.ends = true) :
    s.happen o = s.finish := by
  cases o with
  | work k client | wake k | arrival k a => cases hends
  | input now i => rw [happen_input h.ending, advance_of_ends hends]

/-- A run leads where its course does, up to the first input that ends it, and is then finished if
there is one. -/
theorem after (h : Keeps c k s) (hsound : c.screen.breakage = none) (run : List Occurrence) :
    ∃ kept, Keeps c ((run.takeWhile fun o => !o.ends).foldl (Course.next c) k) kept ∧
      s.after run = if run.any Occurrence.ends then kept.finish else kept := by
  induction run generalizing k s with
  | nil => exact ⟨s, h, rfl⟩
  | cons o rest ih =>
    rw [List.takeWhile_cons, List.any_cons, Session.after, List.foldl_cons]
    cases hends : o.ends with
    | true =>
      rw [h.happen_of_ends hends]
      exact ⟨s, h, after_finish h.tidy rest⟩
    | false => exact ih (h.happen hsound hends)

/-- The outputs of the screen, and one flush for each drawing and each message. -/
theorem taken_eq (h : Keeps c k s) :
    s.console.screen.taken.reverse
        = c.screen.taken.reverse ++ k.shown.flatMap (Shown.outputs c.clears) ∧
      s.console.screen.taken.count .flush = c.screen.taken.count .flush + k.shown.length := by
  rw [h.console]
  refine ⟨?_, ?_⟩
  · rw [List.reverse_append, List.reverse_reverse]
  · rw [List.count_append, List.count_reverse, Shown.count_flush, Nat.add_comm]

end Keeps

end Session

/-! ### The main statement -/

/-- For every feed that some run of acts leads to, and for every run of the console on a screen that
never breaks:

  - the session carries out one occurrence after another up to the first input that ends it, and
    nothing after that changes anything; no other occurrence ends it;
  - the screen takes the outputs of the first drawing, and then those of one drawing for each input
    that has to be followed by one, of the feed as it is then, with messages between them and with
    no other output; there is one flush for each drawing and each message;
  - once it is finished the feed is torn down, and no task and no connection is left;
  - at every moment the queue has a sender, and waiting for a delivery does not end with none. -/
theorem course_of_run {Seen : Type} {note : Seen → LiveFeed → LiveFeed.Act → Seen}
    {seen₀ seen : Seen} {filter : Filter} {options : Feed.Options} {console : Console}
    {feed : LiveFeed} (hsound : console.screen.breakage = none)
    (hreached : LiveFeed.Observed note seen₀ (.new filter options) seen feed)
    (now : Time.Instant) (run : List Occurrence) :
    let s := (Session.start console feed now).after run
    let course := Course.ofRun console feed now run
    s.ending = (if run.any Occurrence.ends then some .finished else none) ∧
      s.feed = (if run.any Occurrence.ends then course.feed.shutdown else course.feed) ∧
      s.console.directory = course.names ∧
      s.console.screen.taken.reverse
        = console.screen.taken.reverse ++ course.shown.flatMap (Shown.outputs console.clears) ∧
      s.console.screen.taken.count .flush
        = console.screen.taken.count .flush + course.shown.length ∧
      (s.ending = some .finished →
        s.feed.TornDown ∧ s.feed.tasks.live = [] ∧ s.feed.tasks.connections = []) ∧
      s.feed.senders = s.feed.tasks.live.length + 1 ∧ s.feed.isClosed = false := by
  intro s course
  have hstart : feed.Tidy := .of_run hreached
  obtain ⟨kept, hkept, hafter⟩ := (Session.Keeps.start hsound hstart now).after hsound run
  have htidy : s.feed.Tidy := Session.tidy_after hstart.subscribe run
  have hfeed : kept.feed = course.feed := hkept.feed
  have hnames : kept.console.directory = course.names := congrArg Console.directory hkept.console
  obtain ⟨htaken, hcount⟩ := hkept.taken_eq
  have hsenders := htidy.owned.senders
  have hopen := htidy.isClosed_eq_false
  cases hends : run.any Occurrence.ends with
  | true =>
    have hs : s = kept.finish := by rwa [hends] at hafter
    rw [hs] at hsenders hopen ⊢
    have hlive : kept.feed.shutdown.tasks.live = [] := hkept.tidy.live_teardown
    refine ⟨rfl, congrArg LiveFeed.shutdown hfeed, hnames, htaken, hcount, fun _ => ?_, hsenders,
      hopen⟩
    refine ⟨kept.feed.tornDown_shutdown, hlive, ?_⟩
    show kept.feed.shutdown.tasks.connections = []
    rw [Feed.TaskTable.connections, hlive, List.filterMap_nil]
  | false =>
    have hs : s = kept := by rwa [hends] at hafter
    rw [hs] at hsenders hopen ⊢
    refine ⟨hkept.ending, hfeed, hnames, htaken, hcount, fun hfinished => ?_, hsenders, hopen⟩
    rw [hkept.ending] at hfinished
    cases hfinished

/-- A console that does not clear its screen, without a directory and choices. -/
def plainConsole : Console := ⟨.sound, false, .empty, ⟨[], []⟩⟩

/-- The rows are expanded, a row is toggled that is not there, and a line is the command to quit.
The refresh comes after that. -/
def exits : List Occurrence :=
  [.input ⟨1, 0⟩ (.line "expand"), .input ⟨2, 0⟩ (.line "toggle 7"),
    .input ⟨3, 0⟩ (.line " exit now"), .input ⟨4, 0⟩ .refresh]

/-- The session after that. -/
def exited : Session := (Session.start plainConsole (.new .empty Feed.keepOne) ⟨0, 0⟩).after exits

/-- Two drawings and a message are shown before the end. -/
theorem course_of_exits :
    exited.ending = some .finished ∧ exited.feed.TornDown ∧ exited.feed.tasks.live = [] ∧
      exited.console.screen.taken.count .flush = 3 ∧
      exited.console.screen.taken.reverse
        = [.write "⚪ idle | filter: none | 0 event(s), collapsed\n",
          .write "#  ID  DEVICE  CODE  ACTION  INDEX  CREATED\n", .flush,
          .write "⚪ idle | filter: none | 0 event(s), expanded\n",
          .write "#  ID  DEVICE  CODE  ACTION  INDEX  CREATED\n", .flush,
          .write "No row 7\n", .flush] := by
  have hsound : plainConsole.screen.breakage = none := rfl
  have hstart : LiveFeed.Observed Feed.noteNumber [] (.new .empty Feed.keepOne) []
      (.new .empty Feed.keepOne) := .start
  obtain ⟨hending, -, -, htaken, hcount, hdown, -, -⟩ := course_of_run hsound hstart ⟨0, 0⟩ exits
  have hends : exits.any Occurrence.ends = true := by decide
  rw [hends, if_pos rfl] at hending
  have hkept : (exits.takeWhile fun o => !o.ends)
      = [.input ⟨1, 0⟩ (.line "expand"), .input ⟨2, 0⟩ (.line "toggle 7")] := by rfl
  have hexpand : Command.read "expand" = .ok .expand := by decide
  have htoggle : Command.read "toggle 7" = .ok (.toggle 7) := by decide
  have hshown : (Course.ofRun plainConsole (.new .empty Feed.keepOne) ⟨0, 0⟩ exits).shown
      = [.drawing (LiveFeed.new .empty Feed.keepOne).subscribe .empty ⟨0, 0⟩,
        .drawing ((LiveFeed.new .empty Feed.keepOne).subscribe.setAll true) .empty ⟨1, 0⟩,
        .message "No row 7"] := by
    rw [Course.ofRun, hkept]
    simp only [List.foldl_cons, List.foldl_nil, Course.next, Course.take, Input.effect,
      Input.redraws, Input.message?, hexpand, htoggle]
    rfl
  rw [hshown] at htaken hcount
  exact ⟨hending, (hdown hending).1, (hdown hending).2.1, hcount, htaken.trans (by decide)⟩

end Console

end CameraFeed
