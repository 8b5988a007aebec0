import CameraFeed.Proofs.Text.Lines

/-! # Words — cutting a text at white space

  A word has a character and no white space. A text that begins with a word and goes on with white
  space has that word first, and its other words are those of the rest. Every text is made of words
  with white space between them and around them, and those are the words it is cut into. -/

namespace CameraFeed.Text

/-- The text is a word: it is not empty and has no white space. -/
structure IsWord (w : List Char) : Prop where
  ne_nil : w ≠ []
  notBlank : ∀ c ∈ w, isBlank c = false

variable {w cs : List Char} {c : Char}

theorem isWord_of_all (hne : w.isEmpty = false) (h : (w.all fun c => !isBlank c) = true) :
    IsWord w where
  ne_nil := by simpa using hne
  notBlank := by simpa using h

theorem words_of_isWord (hw : IsWord w) : words w = [w] := by
  have hne : w.isEmpty = false := by simp [hw.ne_nil]
  unfold words
  rw [pieces_eq_singleton hw.notBlank]
  simp [hne]

/-- White space parts the words before it from those after it. -/
theorem words_append_cons (hc : isBlank c = true) (cs rest : List Char) :
    words (cs ++ c :: rest) = words cs ++ words rest := by
  unfold words
  rw [pieces_append hc, List.filter_append]

/-- White space ends a word. -/
theorem words_append (hw : IsWord w) (hc : isBlank c = true) (cs : List Char) :
    words (w ++ c :: cs) = w :: words cs := by
  rw [words_append_cons hc, words_of_isWord hw, List.singleton_append]

/-- The first word of a text that begins with a word. -/
theorem head?_words_append (hw : IsWord w) (hcs : ∀ c ∈ cs.head?, isBlank c = true) :
    (words (w ++ cs)).head? = some w := by
  cases cs with
  | nil => simp [words_of_isWord hw]
  | cons c cs =>
    have hc : isBlank c = true := hcs c rfl
    simp [words_append hw hc]

theorem wordsOf_of_isWord {word : String} (hword : IsWord word.toList) : wordsOf word = [word] := by
  simp [wordsOf, words_of_isWord hword]

/-- A space between two texts parts their words. -/
theorem wordsOf_append_space (s rest : String) :
    wordsOf (s ++ " " ++ rest) = wordsOf s ++ wordsOf rest := by
  have hlist : (s ++ " " ++ rest).toList = s.toList ++ ' ' :: rest.toList := by simp
  unfold wordsOf
  rw [hlist, words_append_cons (by decide), List.map_append]

/-- A name and what comes after it. -/
theorem wordsOf_append {name : String} (hname : IsWord name.toList) (rest : String) :
    wordsOf (name ++ " " ++ rest) = name :: wordsOf rest := by
  rw [wordsOf_append_space, wordsOf_of_isWord hname, List.singleton_append]

/-! ### Texts made of words -/

/-- The text has these words, in order, with white space between them and around them. -/
inductive Spaced : List (List Char) → List Char → Prop where
  | blank {cs : List Char} (h : ∀ c ∈ cs, isBlank c = true) : Spaced [] cs
  /-- What comes after a word is more white space, or nothing. -/
  | word {lead w rest : List Char} {ws : List (List Char)} (hlead : ∀ c ∈ lead, isBlank c = true)
      (hw : IsWord w) (hend : ∀ c ∈ rest.head?, isBlank c = true) (hrest : Spaced ws rest) :
      Spaced (w :: ws) (lead ++ w ++ rest)

theorem words_nil : words [] = [] := rfl

/-- Nothing need stand in front of the first word. -/
theorem Spaced.next {rest : List Char} {ws : List (List Char)} (hrest : Spaced ws rest)
    (hw : IsWord w) (hend : ∀ c ∈ rest.head?, isBlank c = true) :
    Spaced (w :: ws) (w ++ rest) := by
  have hlead : ∀ c ∈ ([] : List Char), isBlank c = true := by simp
  exact .word hlead hw hend hrest

/-- White space in front is no word. -/
theorem words_blank_append {lead : List Char} (h : ∀ c ∈ lead, isBlank c = true)
    (cs : List Char) : words (lead ++ cs) = words cs := by
  induction lead with
  | nil => rfl
  | cons c lead ih =>
    have hrest := ih fun d hd => h d (List.mem_cons_of_mem c hd)
    have hfirst := words_append_cons (h c List.mem_cons_self) [] (lead ++ cs)
    rwa [List.nil_append, words_nil, List.nil_append, hrest] at hfirst

/-- A text has no other words than those it is made of. -/
theorem Spaced.words_eq {ws : List (List Char)} (h : Spaced ws cs) : words cs = ws := by
  induction h with
  | @blank cs h =>
    have hnone := words_blank_append h []
    rwa [List.append_nil, words_nil] at hnone
  | @word lead w rest ws hlead hw hend _ ih =>
    rw [List.append_assoc, words_blank_append hlead]
    cases rest with
    | nil =>
      rw [List.append_nil, words_of_isWord hw, ← ih, words_nil]
    | cons c rest =>
      have hc : isBlank c = true := hend c rfl
      have hblank : words ([c] ++ rest) = words rest := words_blank_append (by simp [hc]) rest
      rw [words_append hw hc, ← ih, ← hblank, List.singleton_append]

/-- White space may be added in front. -/
theorem Spaced.cons_blank {ws : List (List Char)} (h : Spaced ws cs) (hc : isBlank c = true) :
    Spaced ws (c :: cs) := by
  cases h with
  | blank h =>
    refine .blank ?_
    intro d hd
    rcases List.mem_cons.mp hd with rfl | hd
    · exact hc
    · exact h d hd
  | @word lead w rest ws hlead hw hend hrest =>
    have hlead' : ∀ d ∈ c :: lead, isBlank d = true := by
      intro d hd
      rcases List.mem_cons.mp hd with rfl | hd
      · exact hc
      · exact hlead d hd
    exact .word hlead' hw hend hrest

/-- A character in front of white space or of nothing is a word of its own. -/
theorem Spaced.cons_word {ws : List (List Char)} (h : Spaced ws cs) (hc : isBlank c = false)
    (hend : ∀ d ∈ cs.head?, isBlank d = true) : Spaced ([c] :: ws) (c :: cs) :=
  h.next ⟨List.cons_ne_nil _ _, by simp [hc]⟩ hend

/-- Every text is made of words. -/
theorem exists_spaced (cs : List Char) : ∃ ws, Spaced ws cs := by
  induction cs with
  | nil => exact ⟨[], .blank (by simp)⟩
  | cons c cs ih =>
    obtain ⟨ws, hws⟩ := ih
    cases hc : isBlank c with
    | true => exact ⟨ws, hws.cons_blank hc⟩
    | false =>
      -- The character begins a word, or it belongs to the word that comes next without a gap.
      cases hws with
      | blank h =>
        exact ⟨_, Spaced.cons_word (.blank h) hc fun d hd => h d (List.mem_of_mem_head? hd)⟩
      | @word lead w rest ws hlead hw hend hrest =>
        cases lead with
        | nil =>
          have hword : IsWord (c :: w) := ⟨List.cons_ne_nil _ _, by simpa [hc] using hw.notBlank⟩
          exact ⟨_, hrest.next hword hend⟩
        | cons d lead =>
          have hspaced : Spaced (w :: ws) (d :: lead ++ w ++ rest) := .word hlead hw hend hrest
          refine ⟨_, hspaced.cons_word hc ?_⟩
          intro e he
          obtain rfl := Option.some.inj he
          exact hlead d List.mem_cons_self

theorem spaced_iff {ws : List (List Char)} : Spaced ws cs ↔ words cs = ws := by
  constructor
  · exact Spaced.words_eq
  · rintro rfl
    obtain ⟨ws, hws⟩ := exists_spaced cs
    rwa [hws.words_eq]

/-- The words of a text are not empty and have no white space. -/
theorem Spaced.isWord {ws : List (List Char)} (h : Spaced ws cs) : ∀ w ∈ ws, IsWord w := by
  induction h with
  | blank => simp
  | word hlead hw hend _ ih =>
    intro w' hw'
    rcases List.mem_cons.mp hw' with rfl | hw'
    · exact hw
    · exact ih w' hw'

/-- Any words make a text. -/
theorem spaced_joinWith {ws : List (List Char)} (h : ∀ w ∈ ws, IsWord w) :
    Spaced ws (joinWith [' '] ws) := by
  induction ws with
  | nil => exact .blank (by simp [joinWith])
  | cons w ws ih =>
    have hw : IsWord w := h w List.mem_cons_self
    have hrest := ih fun w' hw' => h w' (List.mem_cons_of_mem w hw')
    cases ws with
    | nil =>
      have hlast := hrest.next hw (by simp [joinWith])
      simpa [joinWith] using hlast
    | cons next ws =>
      have hspace : isBlank ' ' = true := by decide
      have hnext := (hrest.cons_blank hspace).next hw (by simp [hspace])
      simpa [joinWith_cons_cons] using hnext

/-! ### Trimming -/

theorem trimEnd_prefix (cs : List Char) : trimEnd cs <+: cs := by
  have hsuffix : cs.reverse.dropWhile isBlank <:+ cs.reverse := List.dropWhile_suffix _
  have hprefix := List.reverse_prefix.mpr hsuffix
  rwa [List.reverse_reverse] at hprefix

/-- A trimmed text does not end in white space. -/
theorem notBlank_of_getLast?_trimEnd (h : c ∈ (trimEnd cs).getLast?) : isBlank c = false := by
  have hfirst := List.head?_dropWhile_not isBlank cs.reverse
  unfold trimEnd at h
  rw [List.getLast?_reverse] at h
  rwa [Option.mem_def.mp h] at hfirst

/-- Nothing of a word is trimmed away, whatever comes after it. -/
theorem trimEnd_append (hw : IsWord w) (cs : List Char) :
    trimEnd (w ++ cs) = w ++ trimEnd cs := by
  have hkept : w.reverse.dropWhile isBlank = w.reverse := by
    cases hreverse : w.reverse with
    | nil => rfl
    | cons c rest =>
      have hmem : c ∈ w := List.mem_reverse.mp (by simp [hreverse])
      simp [hw.notBlank c hmem]
  unfold trimEnd
  rw [List.reverse_append, List.dropWhile_append]
  split
  · rename_i hempty
    have hnil : cs.reverse.dropWhile isBlank = [] := List.isEmpty_iff.mp hempty
    simp [hkept, hnil]
  · simp

/-- White space at the end is trimmed away, up to the last character that is none. -/
theorem trimEnd_concat_append (cs : List Char) (hc : isBlank c = false) {spaces : List Char}
    (hspaces : ∀ d ∈ spaces, isBlank d = true) : trimEnd (cs ++ [c] ++ spaces) = cs ++ [c] := by
  have hdropped : ∀ d ∈ spaces.reverse, isBlank d = true := by
    intro d hd
    exact hspaces d (List.mem_reverse.mp hd)
  unfold trimEnd
  rw [List.reverse_append, List.dropWhile_append_of_pos hdropped]
  simp [hc]

end CameraFeed.Text
