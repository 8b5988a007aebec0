import CameraFeed.Proofs.Console.Sessions

/-! # Failures — runs without the occurrences that fail

  `Fails` lists the occurrences that fail: a message without an event, a line that is no command, a
  row that is not shown, and a directory that could not be loaded. `Pruned` relates a run to the
  same run without some of its failures. Both lead to the same feed and directory, and to the same
  outputs but for the messages about the failures that were left out. -/

namespace CameraFeed.Console

open Feed (Buffered Command LiveFeed)

/-! ### Failures -/

/-- `Fails s o text?`: the occurrence is a failure, with the message that the console shows about
it, if it shows one. -/
inductive Fails (s : Session) : Occurrence → Option String → Prop where
  /-- A message cannot be decoded or carries no event. -/
  | noEvent {h : Feed.Handle} {m : Push.Message} (hevent : m.event? = none) :
      Fails s (.arrival h (.message m)) none
  /-- A line has no words. -/
  | blank {now : Time.Instant} {line : String} (hread : Command.read line = .error .empty) :
      Fails s (.input now (.line line)) none
  /-- A line is no command. -/
  | noCommand {now : Time.Instant} {line : String} {fault : Command.Fault}
      (hread : Command.read line = .error fault) (hblank : fault ≠ .empty) :
      Fails s (.input now (.line line)) (some fault.message)
  /-- No row of that number is shown. -/
  | noRow {now : Time.Instant} {line : String} {row : Nat}
      (hread : Command.read line = .ok (.toggle row))
      (hrow : row ∉ s.feed.buffer.events.map Buffered.seq) :
      Fails s (.input now (.line line)) (some ("No row " ++ Decimal.text row))
  /-- The directory could not be loaded. -/
  | noNames {now : Time.Instant} : Fails s (.input now (.reload none)) none

/-- The outputs that show a message, the last one first. -/
def shown : Option String → List Output
  | none => []
  | some text => [.flush, .write (text ++ "\n")]

/-- A failure changes nothing but the screen. -/
theorem Fails.occur {s s' : Session} {o : Occurrence} {text? : Option String} (h : Fails s o text?)
    (hsound : s.Sound) (hoccur : s.occur? o = some s') :
    s' = s.replayed (shown text? ++ s.console.screen.taken) := by
  cases h with
  | noEvent hevent =>
    obtain ⟨f', hhear, -⟩ := Option.map_eq_some_iff.mp hoccur
    obtain ⟨t, c, stage, hlive, hstage, -, -⟩ := LiveFeed.hear?_eq_some hhear
    rw [Session.occur?_noEvent hlive hstage hevent] at hoccur
    exact (Option.some.inj hoccur).symm
  | @blank now line hread =>
    obtain ⟨-, rfl⟩ := Session.occur?_input hoccur
    exact Session.takeLine_of_blank hread now
  | @noCommand now line fault hread hblank =>
    obtain ⟨hending, rfl⟩ := Session.occur?_input hoccur
    have htake := Session.takeLine_of_fault (s := s) hread hblank now
    rw [Session.eq_of_running hending, Session.answer_of_sound hsound.screen] at htake
    exact htake
  | @noRow now line row hread hrow =>
    obtain ⟨hending, rfl⟩ := Session.occur?_input hoccur
    rw [← hsound.paired.keys] at hrow
    have hperform : s.console.perform s.feed (.toggle row)
        = (s.feed, .message ("No row " ++ Decimal.text row)) := by
      rw [perform, LiveFeed.toggleRow, Feed.Projection.toggleRow_of_notMem hrow]
    have hquit : Command.toggle row ≠ .quit := by
      intro heq
      cases heq
    have htake := Session.takeLine_of_command (s := s) hread hquit now
    rw [hperform, Session.eq_of_running hending, Session.answer_of_sound hsound.screen] at htake
    exact htake
  | @noNames now =>
    obtain ⟨hending, rfl⟩ := Session.occur?_input hoccur
    exact Session.eq_of_running hending

/-! ### Messages on a screen -/

/-- `Extends messages taken taken'`: `taken` is `taken'` with the outputs of the messages inserted
in between. The last output is first; the messages are in their order. -/
inductive Extends : List String → List Output → List Output → Prop where
  | same (taken : List Output) : Extends [] taken taken
  | both {messages : List String} {taken taken' : List Output} (o : Output)
      (h : Extends messages taken taken') : Extends messages (o :: taken) (o :: taken')
  | message {messages : List String} {taken taken' : List Output} (text : String)
      (h : Extends messages taken taken') :
      Extends (messages ++ [text]) (.flush :: .write (text ++ "\n") :: taken) taken'

namespace Extends

variable {messages : List String} {taken taken' : List Output}

theorem append (h : Extends messages taken taken') (outputs : List Output) :
    Extends messages (outputs ++ taken) (outputs ++ taken') := by
  induction outputs with
  | nil => exact h
  | cons o rest ih => exact .both o ih

/-- The message of a failure, if there is one, is one more that only one screen took. -/
theorem shown_append (h : Extends messages taken taken') (text? : Option String) :
    Extends (messages ++ text?.toList) (shown text? ++ taken) taken' := by
  cases text? with
  | none =>
    rw [Option.toList_none, List.append_nil]
    exact h
  | some text => exact .message text h

end Extends

/-! ### Runs without failures -/

/-- `Pruned s₀ whole rest messages s`: the run `whole` leads from `s₀` to `s`. The run `rest` is the
same without some of the failures, and `messages` are the messages about these. -/
inductive Pruned (s₀ : Session) :
    List Occurrence → List Occurrence → List String → Session → Prop where
  | start : Pruned s₀ [] [] [] s₀
  | keep {whole rest : List Occurrence} {messages : List String} {s s' : Session} {o : Occurrence}
      (h : Pruned s₀ whole rest messages s) (hoccur : s.occur? o = some s') :
      Pruned s₀ (whole ++ [o]) (rest ++ [o]) messages s'
  | remove {whole rest : List Occurrence} {messages : List String} {s s' : Session} {o : Occurrence}
      {text? : Option String} (h : Pruned s₀ whole rest messages s) (hfails : Fails s o text?)
      (hoccur : s.occur? o = some s') :
      Pruned s₀ (whole ++ [o]) rest (messages ++ text?.toList) s'

/-- The run without the failures is possible, and leads to the session of the whole run with other
outputs on its screen. -/
theorem Pruned.agrees {s₀ s : Session} {whole rest : List Occurrence} {messages : List String}
    (h : Pruned s₀ whole rest messages s) (hsound : s₀.Sound) :
    s.Sound ∧ s₀.after? whole = some s ∧ ∃ taken, s₀.after? rest = some (s.replayed taken) ∧
      Extends messages s.console.screen.taken taken := by
  induction h with
  | start => exact ⟨hsound, rfl, s₀.console.screen.taken, rfl, .same _⟩
  | @keep whole rest messages s s' o h hoccur ih =>
    obtain ⟨hsound, hwhole, taken, hrest, hextends⟩ := ih
    obtain ⟨hsound', outputs, htaken, hreplayed⟩ := hsound.occur hoccur
    refine ⟨hsound', ?_, outputs ++ taken, ?_, ?_⟩
    · rw [Session.after?_concat hwhole, hoccur]
    · rw [Session.after?_concat hrest, hreplayed]
    · rw [htaken]
      exact hextends.append outputs
  | @remove whole rest messages s s' o text? h hfails hoccur ih =>
    obtain ⟨hsound, hwhole, taken, hrest, hextends⟩ := ih
    have hsound' := (hsound.occur hoccur).1
    obtain rfl := hfails.occur hsound hoccur
    refine ⟨hsound', ?_, taken, hrest, hextends.shown_append text?⟩
    rw [Session.after?_concat hwhole, hoccur]

/-- Take any run of a console whose screen never breaks, and leave out any of its failures. The rest
of the run is possible without them, at the same times, and leads at every moment to the same feed,
the same directory and the same ending. The screens differ by the messages about the failures that
were left out, and by nothing else. -/
theorem agrees_without_failures {console : Console} (hsound : console.screen.breakage = none)
    (feed : LiveFeed) (now : Time.Instant) {whole rest : List Occurrence} {messages : List String}
    {s : Session} (h : Pruned (.start console feed now) whole rest messages s) :
    (Session.start console feed now).after? whole = some s ∧
      ∃ s', (Session.start console feed now).after? rest = some s' ∧ s'.feed = s.feed ∧
        s'.console.directory = s.console.directory ∧ s'.ending = s.ending ∧
        Extends messages s.console.screen.taken s'.console.screen.taken := by
  obtain ⟨-, hwhole, taken, hrest, hextends⟩ := h.agrees (.start hsound feed now)
  exact ⟨hwhole, s.replayed taken, hrest, rfl, rfl, rfl, hextends⟩

/-- The start of a session without cameras. -/
def plainStart : Session :=
  .start ⟨.sound, false, .empty, ⟨[], []⟩⟩ (.new .empty Feed.keepOne) ⟨0, 0⟩

/-- A client that opens a connection on which nothing arrives. -/
def silentClient : Push.Client := .ofScript [.opened .silent]

/-- The first task connects and sends that it did. -/
def opens : List Occurrence :=
  [.work 0 silentClient, .work 0 silentClient, .work 0 silentClient]

/-- One failure of each kind. -/
def oneOfEach : List Occurrence :=
  [.arrival 0 (.message (.text "\x7b")), .input ⟨1, 0⟩ (.line "nonsense"),
    .input ⟨2, 0⟩ (.line "  "), .input ⟨3, 0⟩ (.line "toggle 7"), .input ⟨4, 0⟩ (.reload none)]

/-- Every row is expanded. -/
def expands : List Occurrence := [.input ⟨5, 0⟩ (.line "expand")]

/-- A run with one failure of each kind, and the same run without them. -/
theorem agrees_without_oneOfEach :
    ∃ s s', plainStart.after? (opens ++ oneOfEach ++ expands) = some s ∧
      plainStart.after? (opens ++ expands) = some s' ∧ s'.feed = s.feed ∧
      s.feed.projection.byDefault = true ∧
      Extends [Command.Fault.message (.unknown "nonsense"), "No row 7"]
        s.console.screen.taken s'.console.screen.taken := by
  have hstart : Pruned plainStart [] [] [] plainStart := .start
  have hasked := (hstart.keep (o := .work 0 silentClient) rfl).keep (o := .work 0 silentClient) rfl
  have hopened := hasked.keep (o := .work 0 silentClient) rfl
  have hevent : (Push.Message.text "\x7b").event? = none := by rfl
  have hheard := hopened.remove (.noEvent hevent) (Session.occur?_noEvent (h := 0) rfl rfl hevent)
  have hunknown : Command.read "nonsense" = .error (.unknown "nonsense") := by decide
  have hnoCommand := hheard.remove (o := .input ⟨1, 0⟩ (.line "nonsense"))
    (.noCommand hunknown nofun) rfl
  have hspaces : Command.read "  " = .error .empty := by decide
  have hblank := hnoCommand.remove (o := .input ⟨2, 0⟩ (.line "  ")) (.blank hspaces) rfl
  have htoggle : Command.read "toggle 7" = .ok (.toggle 7) := by decide
  have hnoRow := hblank.remove (o := .input ⟨3, 0⟩ (.line "toggle 7"))
    (.noRow htoggle List.not_mem_nil) rfl
  have hnoNames := hnoRow.remove (o := .input ⟨4, 0⟩ (.reload none)) .noNames rfl
  have hlast := hnoNames.keep (o := .input ⟨5, 0⟩ (.line "expand")) rfl
  obtain ⟨hwhole, s', hrest, hfeed, -, -, hextends⟩ := agrees_without_failures rfl _ _ hlast
  exact ⟨_, s', hwhole, hrest, hfeed, rfl, hextends⟩

end CameraFeed.Console
