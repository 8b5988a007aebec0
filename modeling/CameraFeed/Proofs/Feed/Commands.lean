import CameraFeed.Feed.Command
import CameraFeed.Proofs.Decimal.Numeral
import Mathlib.Logic.ExistsUnique

/-! # Commands — what a line is read as

  A line is read by its words alone. The first word is the name of a command, and a command that is
  written with any of its names, and its arguments behind it, is read back from the line. A line
  fails for want of words, for a name that no command has, or for a row that is no number. -/

namespace CameraFeed.Feed.Command

/-! ### Written commands -/

/-- The line has these words, in order, with white space between them and around them. -/
def Written (words : List String) (line : String) : Prop :=
  Text.Spaced (words.map String.toList) line.toList

variable {words : List String} {line : String}

theorem written_iff : Written words line ↔ Text.wordsOf line = words := by
  unfold Written
  rw [Text.spaced_iff]
  constructor
  · intro h
    unfold Text.wordsOf
    rw [h]
    simp
  · rintro rfl
    unfold Text.wordsOf
    simp

/-- Lines have words without white space, and can have any such words. -/
theorem exists_written_iff :
    (∃ line, Written words line) ↔ ∀ word ∈ words, Text.IsWord word.toList := by
  constructor
  · rintro ⟨line, h⟩ word hword
    exact h.isWord _ (List.mem_map_of_mem hword)
  · intro h
    refine ⟨String.intercalate " " words, ?_⟩
    unfold Written
    rw [Text.toList_intercalate]
    apply Text.spaced_joinWith
    intro w hw
    obtain ⟨word, hword, rfl⟩ := List.mem_map.mp hw
    exact h word hword

/-- The names of a command. -/
def names : Command → List String
  | devices _ => ["devices"]
  | codes _ => ["codes"]
  | actions _ => ["actions"]
  | filter _ => ["filter"]
  | expand => ["expand"]
  | collapse => ["collapse"]
  | toggle _ => ["toggle"]
  | share => ["share"]
  | choices => ["choices"]
  | help => ["help", "?"]
  | quit => ["quit", "exit"]

/-- The arguments that follow the name. -/
def arguments : Command → List String
  | devices uuids => uuids
  | .codes values => values
  | .actions values => values
  | filter f => [f.toQuery]
  | toggle row => [Decimal.text row]
  | expand | collapse | share | choices | help | quit => []

/-- A row as it may be typed: digits, with a plus sign in front or without, of a number of 64
bits. -/
def IsRow (word : String) (row : Nat) : Prop :=
  ∃ ds, (word.toList = ds ∨ word.toList = '+' :: ds) ∧ Decimal.IsNumeral ds row ∧ row < 2 ^ 64

/-! ### Rows -/

theorem isRow_iff {word : String} {row : Nat} :
    IsRow word row ↔ Decimal.readPlus? Decimal.wordLimit word.toList = some row := by
  rw [Decimal.readPlus?_eq_some_iff]
  exact Iff.rfl

theorem toggleOf_of_isRow {word : String} {row : Nat} (h : IsRow word row) :
    toggleOf word = .ok (.toggle row) := by
  unfold toggleOf
  rw [isRow_iff.mp h]

theorem toggleOf_of_not_isRow {word : String} (h : ¬∃ row, IsRow word row) :
    toggleOf word = .error (.invalidRow word) := by
  unfold toggleOf
  cases hread : Decimal.readPlus? Decimal.wordLimit word.toList with
  | none => rfl
  | some row => exact absurd ⟨row, isRow_iff.mpr hread⟩ h

/-- A word is the number of one row at most. -/
theorem toggleOf_eq_ok_iff {word : String} {row : Nat} :
    toggleOf word = .ok (.toggle row) ↔ IsRow word row := by
  constructor
  · intro h
    by_cases hrow : ∃ row, IsRow word row
    · obtain ⟨row', hrow'⟩ := hrow
      rw [toggleOf_of_isRow hrow'] at h
      cases h
      exact hrow'
    · rw [toggleOf_of_not_isRow hrow] at h
      cases h
  · exact toggleOf_of_isRow

/-- A number is a row as it is written. -/
theorem isRow_text {row : Nat} (h : row < 2 ^ 64) : IsRow (Decimal.text row) row := by
  rw [isRow_iff, Decimal.toList_text]
  exact Decimal.readPlus?_digits h

/-! ### Words -/

section ofWords
variable {name : String} {arguments : List String}

/-- A name that no command has is unknown. -/
theorem ofWords_of_unknown (h : ∀ c : Command, name ∉ c.names) :
    ofWords name arguments = .error (.unknown name) := by
  unfold ofWords
  split
  -- Each name that is read is that of a command, so only the last case is left.
  · exact absurd List.mem_cons_self (h (.devices []))
  · exact absurd List.mem_cons_self (h (.codes []))
  · exact absurd List.mem_cons_self (h (.actions []))
  · exact absurd List.mem_cons_self (h (.filter .empty))
  · exact absurd List.mem_cons_self (h .expand)
  · exact absurd List.mem_cons_self (h .collapse)
  · exact absurd List.mem_cons_self (h (.toggle 0))
  · exact absurd List.mem_cons_self (h .share)
  · exact absurd List.mem_cons_self (h .choices)
  · exact absurd List.mem_cons_self (h .help)
  · exact absurd (List.mem_cons_of_mem _ List.mem_cons_self) (h .help)
  · exact absurd List.mem_cons_self (h .quit)
  · exact absurd (List.mem_cons_of_mem _ List.mem_cons_self) (h .quit)
  · rfl

/-- The name of a command is read as a command of that name, unless it wants a row. -/
theorem ofWords_of_mem_names {c : Command} (h : name ∈ c.names) :
    name = "toggle" ∨ ∃ c', ofWords name arguments = .ok c' := by
  cases c
  all_goals
    simp only [names, List.mem_cons, List.not_mem_nil, or_false] at h
  case toggle => exact .inl h
  case help => rcases h with rfl | rfl <;> exact .inr ⟨.help, rfl⟩
  case quit => rcases h with rfl | rfl <;> exact .inr ⟨.quit, rfl⟩
  all_goals
    subst h
    exact .inr ⟨_, rfl⟩

/-- A name and arguments fail if no command has the name, or if the command needs a row number and
none is given. -/
theorem ofWords_eq_error_iff {fault : Fault} :
    ofWords name arguments = .error fault ↔
      (fault = .unknown name ∧ ∀ c : Command, name ∉ c.names) ∨
      (name = "toggle" ∧ fault = .invalidRow (arguments.head?.getD "") ∧
        ¬∃ row, IsRow (arguments.head?.getD "") row) := by
  have htoggle : ofWords "toggle" arguments = toggleOf (arguments.head?.getD "") := rfl
  constructor
  -- A known name fails for a row alone, an unknown one for itself.
  · intro h
    by_cases hknown : ∃ c : Command, name ∈ c.names
    · obtain ⟨c, hc⟩ := hknown
      rcases ofWords_of_mem_names hc with rfl | ⟨c', hread⟩
      · rw [htoggle] at h
        by_cases hrow : ∃ row, IsRow (arguments.head?.getD "") row
        · obtain ⟨row, hrow⟩ := hrow
          rw [toggleOf_of_isRow hrow] at h
          cases h
        · rw [toggleOf_of_not_isRow hrow] at h
          cases h
          exact .inr ⟨rfl, rfl, hrow⟩
      · rw [hread] at h
        cases h
    · have hunknown : ∀ c : Command, name ∉ c.names := fun c hc => hknown ⟨c, hc⟩
      rw [ofWords_of_unknown hunknown] at h
      cases h
      exact .inl ⟨rfl, hunknown⟩
  · rintro (⟨rfl, hunknown⟩ | ⟨rfl, rfl, hrow⟩)
    · exact ofWords_of_unknown hunknown
    · rw [htoggle, toggleOf_of_not_isRow hrow]

/-- A command is read back from its name and its arguments. -/
theorem ofWords_arguments {c : Command} (hfilter : ∀ f, c ≠ .filter f)
    (hrow : ∀ row, c = .toggle row → row < 2 ^ 64) (hname : name ∈ c.names) :
    ofWords name c.arguments = .ok c := by
  cases c
  all_goals
    simp only [names, List.mem_cons, List.not_mem_nil, or_false] at hname
  case filter f => exact absurd rfl (hfilter f)
  case toggle row =>
    subst hname
    exact toggleOf_of_isRow (isRow_text (hrow row rfl))
  case help => rcases hname with rfl | rfl <;> rfl
  case quit => rcases hname with rfl | rfl <;> rfl
  all_goals
    subst hname
    rfl

end ofWords

/-! ### Lines -/

theorem read_of_blank (h : Written [] line) : read line = .error .empty := by
  unfold read
  rw [written_iff.mp h]

theorem read_of_written {name : String} {arguments : List String}
    (h : Written (name :: arguments) line) : read line = ofWords name arguments := by
  unfold read
  rw [written_iff.mp h]

/-- Lines of the same words are read alike. -/
theorem read_congr {line' : String} (h : Written words line) (h' : Written words line') :
    read line = read line' := by
  cases words with
  | nil => rw [read_of_blank h, read_of_blank h']
  | cons name arguments => rw [read_of_written h, read_of_written h']

/-- Why a line fails, by its words. -/
theorem read_eq_error_iff {fault : Fault} :
    read line = .error fault ↔
      (fault = .empty ∧ Written [] line) ∨
      ∃ name arguments, Written (name :: arguments) line ∧
        ofWords name arguments = .error fault := by
  have hself : Written (Text.wordsOf line) line := written_iff.mpr rfl
  constructor
  · intro h
    cases hwords : Text.wordsOf line with
    | nil =>
      rw [hwords] at hself
      rw [read_of_blank hself] at h
      cases h
      exact .inl ⟨rfl, hself⟩
    | cons name arguments =>
      rw [hwords] at hself
      rw [read_of_written hself] at h
      exact .inr ⟨name, arguments, hself, h⟩
  · rintro (⟨rfl, hblank⟩ | ⟨name, arguments, hwritten, hfault⟩)
    · exact read_of_blank hblank
    · rw [read_of_written hwritten, hfault]

/-- A line is read by its words, which can be any words and are the same however much white space
stands between them. A command that takes no query is read back from one of its names and its
arguments. A row is an optional plus sign and digits of a number of 64 bits, and any other first
argument is refused by name. So is a first word that is the name of no command. Only a line without
words is empty. -/
theorem read_of_words :
    (∀ line, ∃! words, Written words line) ∧
    (∀ words, (∃ line, Written words line) ↔ ∀ word ∈ words, Text.IsWord word.toList) ∧
    (∀ words line line', Written words line → Written words line' → read line = read line') ∧
    (∀ c : Command, (∀ f, c ≠ .filter f) → (∀ row, c = .toggle row → row < 2 ^ 64) →
      ∀ name ∈ c.names, ∀ line, Written (name :: c.arguments) line → read line = .ok c) ∧
    (∀ arguments line, Written ("toggle" :: arguments) line →
      (∀ row, read line = .ok (.toggle row) ↔ IsRow (arguments.head?.getD "") row) ∧
      ((¬∃ row, IsRow (arguments.head?.getD "") row) →
        read line = .error (.invalidRow (arguments.head?.getD "")))) ∧
    (∀ name line, read line = .error (.unknown name) ↔
      (∀ c : Command, name ∉ c.names) ∧ ∃ arguments, Written (name :: arguments) line) ∧
    ∀ line, read line = .error .empty ↔ Written [] line := by
  refine ⟨?_, fun _ => exists_written_iff, fun _ _ _ => read_congr, ?_, ?_, ?_, ?_⟩
  · intro line
    refine ⟨Text.wordsOf line, written_iff.mpr rfl, ?_⟩
    intro words hwords
    exact (written_iff.mp hwords).symm
  · intro c hfilter hrow name hname line hwritten
    rw [read_of_written hwritten]
    exact ofWords_arguments hfilter hrow hname
  · intro arguments line hwritten
    rw [read_of_written hwritten]
    refine ⟨fun _ => toggleOf_eq_ok_iff, ?_⟩
    intro hrow
    exact ofWords_eq_error_iff.mpr (.inr ⟨rfl, rfl, hrow⟩)
  · intro name line
    rw [read_eq_error_iff]
    constructor
    · rintro (⟨hfault, -⟩ | ⟨name', arguments, hwritten, hfault⟩)
      · cases hfault
      · rcases ofWords_eq_error_iff.mp hfault with ⟨hname, hunknown⟩ | ⟨-, hname, -⟩
        · cases hname
          exact ⟨hunknown, arguments, hwritten⟩
        · cases hname
    · rintro ⟨hunknown, arguments, hwritten⟩
      exact .inr ⟨name, arguments, hwritten, ofWords_of_unknown hunknown⟩
  · intro line
    rw [read_eq_error_iff]
    constructor
    · rintro (⟨-, hblank⟩ | ⟨name, arguments, -, hfault⟩)
      · exact hblank
      · rcases ofWords_eq_error_iff.mp hfault with ⟨hname, -⟩ | ⟨-, hname, -⟩ <;> cases hname
    · intro hblank
      exact .inl ⟨rfl, hblank⟩

/-- Wide white space, the largest row with a sign, zeros and a word too many, and the next row,
which is none. -/
theorem read_of_wideLine :
    read "\u3000toggle\u2003+0018446744073709551615 x" = .ok (.toggle 18446744073709551615) ∧
      read "toggle 18446744073709551616" = .error (.invalidRow "18446744073709551616") ∧
      read "\t devices  é\u00a0cam " = .ok (.devices ["é", "cam"]) ∧
      read "reboot now" = .error (.unknown "reboot") := by
  obtain ⟨-, -, -, hread, htoggle, hunknown, -⟩ := read_of_words
  have hlargest : Written ["toggle", "+0018446744073709551615", "x"]
      "\u3000toggle\u2003+0018446744073709551615 x" := written_iff.mpr (by decide +kernel)
  have hnext : Written ["toggle", "18446744073709551616"] "toggle 18446744073709551616" :=
    written_iff.mpr (by decide +kernel)
  have hdevices : Written ["devices", "é", "cam"] "\t devices  é\u00a0cam " :=
    written_iff.mpr (by decide +kernel)
  have hreboot : Written ["reboot", "now"] "reboot now" := written_iff.mpr (by decide +kernel)
  refine ⟨?_, ?_, ?_, ?_⟩
  · apply ((htoggle _ _ hlargest).1 _).mpr
    exact isRow_iff.mpr (by decide +kernel)
  · apply (htoggle _ _ hnext).2
    rintro ⟨row, hrow⟩
    have hnone : Decimal.readPlus? Decimal.wordLimit "18446744073709551616".toList = none := by
      decide +kernel
    have hread' := isRow_iff.mp hrow
    rw [List.head?_cons, Option.getD_some, hnone] at hread'
    cases hread'
  · exact hread (.devices ["é", "cam"]) (by simp) (by simp) "devices" List.mem_cons_self _ hdevices
  · refine (hunknown _ _).mpr ⟨?_, _, hreboot⟩
    intro c
    cases c <;> simp [names]

end CameraFeed.Feed.Command
