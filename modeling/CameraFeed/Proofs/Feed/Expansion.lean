import CameraFeed.Proofs.Feed.Ledger
import Mathlib.Data.List.Induction
import Mathlib.Logic.Function.Iterate

/-! # Expansion — the rows that show their payload

  The setting of a row depends on all operations so far: the row is created with the common setting,
  changed with all others, and toggled on its own. `settings_of_history` gives it by the history
  alone: the last creation of the row, the last change of all rows since then, and the number of
  toggles of the row since that. -/

namespace CameraFeed.Feed

/-! ### Operations -/

/-- An operation on the rows. -/
inductive Projection.Act where
  | addRow (seq : Nat)
  | setAll (expanded : Bool)
  | toggleRow (seq : Nat)
  | forget (seqs : List Nat)
  | clear
  deriving DecidableEq, Repr

namespace Projection

/-- The rows after an operation. -/
def act (p : Projection) : Act → Projection
  | .addRow seq => p.addRow seq
  | .setAll expanded => p.setAll expanded
  | .toggleRow seq => (p.toggleRow seq).2
  | .forget seqs => p.forget seqs
  | .clear => p.clear

/-- The rows after a history of operations. -/
def after (p : Projection) (history : List Act) : Projection := history.foldl act p

theorem after_append (p : Projection) (history more : List Act) :
    p.after (history ++ more) = (p.after history).after more := List.foldl_append

theorem after_concat (p : Projection) (history : List Act) (a : Act) :
    p.after (history ++ [a]) = (p.after history).act a := p.after_append history [a]

/-! ### One row -/

/-- Removing other rows keeps the setting of a row, and removing the row itself leaves none. -/
theorem lookup_filter (keep : Nat → Bool) (k : Nat) (rows : List (Nat × Bool)) :
    (rows.filter fun row => keep row.1).lookup k = if keep k then rows.lookup k else none := by
  induction rows with
  | nil => simp
  | cons row rows ih =>
    obtain ⟨seq, b⟩ := row
    by_cases hseq : k = seq
    · subst hseq
      cases hkeep : keep k with
      | true => simp [hkeep]
      | false => simpa [hkeep] using ih
    · have hne : (k == seq) = false := by simp [hseq]
      cases hkeep : keep seq with
      | true => simp only [List.filter_cons, hkeep, if_true, List.lookup_cons, hne, ih]
      | false => simpa [List.filter_cons, hkeep, List.lookup_cons, hne] using ih

/-- Changing the settings of the rows changes the setting that is looked up. -/
theorem lookup_map (change : Nat → Bool → Bool) (k : Nat) (rows : List (Nat × Bool)) :
    (rows.map fun row => (row.1, change row.1 row.2)).lookup k
      = (rows.lookup k).map (change k) := by
  induction rows with
  | nil => rfl
  | cons row rows ih =>
    obtain ⟨seq, b⟩ := row
    by_cases hseq : k = seq
    · subst hseq
      simp
    · have hne : (k == seq) = false := by simp [hseq]
      simpa [List.lookup_cons, hne] using ih

section one
variable (p : Projection) (seq k : Nat)

theorem isExpanded_addRow :
    (p.addRow seq).isExpanded k = if k = seq then some p.byDefault else p.isExpanded k := by
  rw [isExpanded, addRow, without, List.lookup_cons, lookup_filter (· != seq)]
  by_cases hk : k = seq
  · simp [hk]
  · have hne : (k == seq) = false := by simp [hk]
    simp [hk, hne, isExpanded]

theorem isExpanded_setAll (expanded : Bool) :
    (p.setAll expanded).isExpanded k = (p.isExpanded k).map fun _ => expanded :=
  lookup_map (fun _ _ => expanded) k p.rows

theorem isExpanded_toggleRow :
    (p.toggleRow seq).2.isExpanded k
      = if k = seq then (p.isExpanded k).map not else p.isExpanded k := by
  rw [toggleRow]
  cases hseq : p.isExpanded seq with
  | none =>
    by_cases hk : k = seq
    · rw [if_pos hk, hk, hseq]
      rfl
    · rw [if_neg hk]
  | some b =>
    have hrows : (p.rows.map fun row => if row.1 = seq then (seq, !b) else row)
        = p.rows.map fun row => (row.1, if row.1 = seq then !b else row.2) := by
      refine List.map_congr_left fun row _ => ?_
      by_cases hrow : row.1 = seq <;> simp [hrow]
    dsimp only
    rw [isExpanded, hrows, lookup_map fun j b' => if j = seq then !b else b']
    by_cases hk : k = seq
    · subst hk
      rw [if_pos rfl, hseq, ← isExpanded, hseq]
      simp
    · simp [hk, isExpanded]

theorem isExpanded_forget (seqs : List Nat) :
    (p.forget seqs).isExpanded k = if k ∈ seqs then none else p.isExpanded k := by
  rw [isExpanded, forget, lookup_filter fun j => !seqs.contains j]
  by_cases hk : k ∈ seqs <;> simp [hk, isExpanded]

end one

/-! ### Toggling -/

section toggling
variable {p : Projection} {seq : Nat}

theorem toggleRow_of_none (h : p.isExpanded seq = none) : p.toggleRow seq = (none, p) := by
  rw [toggleRow, h]

theorem toggleRow_of_some {b : Bool} (h : p.isExpanded seq = some b) :
    p.toggleRow seq = (some !b,
      { p with rows := p.rows.map fun row => if row.1 = seq then (seq, !b) else row }) := by
  rw [toggleRow, h]

end toggling

theorem byDefault_toggleRow (p : Projection) (seq : Nat) :
    (p.toggleRow seq).2.byDefault = p.byDefault := by
  rw [toggleRow]
  cases p.isExpanded seq <;> rfl

/-- Two toggles commute. -/
theorem toggleRow_comm (p : Projection) (j k : Nat) :
    ((p.toggleRow j).2.toggleRow k).2 = ((p.toggleRow k).2.toggleRow j).2 := by
  by_cases hjk : j = k
  · rw [hjk]
  have hk : (p.toggleRow j).2.isExpanded k = p.isExpanded k := by
    rw [isExpanded_toggleRow, if_neg (Ne.symm hjk)]
  have hj : (p.toggleRow k).2.isExpanded j = p.isExpanded j := by
    rw [isExpanded_toggleRow, if_neg hjk]
  cases hpj : p.isExpanded j with
  | none =>
    rw [toggleRow_of_none (hj.trans hpj), toggleRow_of_none hpj]
  | some b =>
    cases hpk : p.isExpanded k with
    | none => rw [toggleRow_of_none (hk.trans hpk), toggleRow_of_none hpk]
    | some b' =>
      rw [toggleRow_of_some (hk.trans hpk), toggleRow_of_some (hj.trans hpj), toggleRow_of_some hpj,
        toggleRow_of_some hpk]
      simp only [List.map_map]
      refine congrArg (Projection.mk p.byDefault) (List.map_congr_left fun row _ => ?_)
      -- A row is one of the two at most.
      simp only [Function.comp_apply]
      by_cases hrow : row.1 = j
      · simp [hrow, hjk]
      · by_cases hrow' : row.1 = k
        · simp [hrow', Ne.symm hjk]
        · simp [hrow, hrow']

/-! ### Single operations -/

namespace Act

/-- The common setting that an operation sets, if it sets one. -/
def setting? : Act → Option Bool
  | .setAll expanded => some expanded
  | .addRow _ | .toggleRow _ | .forget _ | .clear => none

/-- The operation removes the row. -/
def removes (seq : Nat) : Act → Bool
  | .forget seqs => seqs.contains seq
  | .clear => true
  | .addRow _ | .setAll _ | .toggleRow _ => false

/-- The operation names rows, and this row is not one of them. -/
def isElsewhere (seq : Nat) : Act → Bool
  | .addRow k | .toggleRow k => k != seq
  | .forget seqs => !seqs.contains seq
  | .setAll _ | .clear => false

/-- The setting of a row after an operation. -/
def onRow (common : Bool) (seq : Nat) (setting : Option Bool) : Act → Option Bool
  | .addRow k => if seq = k then some common else setting
  | .setAll expanded => setting.map fun _ => expanded
  | .toggleRow k => if seq = k then setting.map not else setting
  | .forget seqs => if seq ∈ seqs then none else setting
  | .clear => none

end Act

theorem isExpanded_act (p : Projection) (a : Act) (seq : Nat) :
    (p.act a).isExpanded seq = a.onRow p.byDefault seq (p.isExpanded seq) := by
  cases a with
  | addRow k => exact p.isExpanded_addRow k seq
  | setAll expanded => exact p.isExpanded_setAll seq expanded
  | toggleRow k => exact p.isExpanded_toggleRow k seq
  | forget seqs => exact p.isExpanded_forget seq seqs
  | clear => rfl

/-- An operation on other rows does not change a row. -/
theorem isExpanded_act_of_isElsewhere (p : Projection) {a : Act} {seq : Nat}
    (h : a.isElsewhere seq = true) : (p.act a).isExpanded seq = p.isExpanded seq := by
  rw [isExpanded_act]
  cases a with
  | addRow k | toggleRow k => exact if_neg fun heq => by simp [Act.isElsewhere, heq] at h
  | forget seqs => exact if_neg (by simpa [Act.isElsewhere] using h)
  | setAll expanded | clear => cases h

theorem byDefault_act (p : Projection) (a : Act) :
    (p.act a).byDefault = a.setting?.getD p.byDefault := by
  cases a with
  | toggleRow k => exact p.byDefault_toggleRow k
  | addRow k | setAll expanded | forget seqs | clear => rfl

/-! ### Settings by their history -/

/-- The common setting after a history, of which the last operation comes first. -/
def commonOf (initial : Bool) (log : List Act) : Bool := (log.findSome? Act.setting?).getD initial

/-- The setting of a row that was created with the given one, after the operations since then. -/
def settingSince (seq : Nat) (created : Bool) (since : List Act) : Option Bool :=
  if since.any (Act.removes seq) then none
  else
    let last := (since.findSome? Act.setting?).getD created
    let toggles := (since.takeWhile fun a => a.setting?.isNone).count (.toggleRow seq)
    some (Nat.iterate not toggles last)

/-- The setting of a row after a history, of which the last operation comes first. -/
def settingOf (initial : Bool) (seq : Nat) (log : List Act) : Option Bool :=
  let since := log.takeWhile (· != .addRow seq)
  match log.dropWhile (· != .addRow seq) with
  | [] => none  -- No creation.
  | _ :: before => settingSince seq (commonOf initial before) since

theorem commonOf_cons (initial : Bool) (a : Act) (log : List Act) :
    commonOf initial (a :: log) = a.setting?.getD (commonOf initial log) := by
  rw [commonOf, List.findSome?_cons]
  cases a.setting? <;> rfl

section since
variable {seq : Nat} {a : Act} {created : Bool} {since : List Act}

theorem settingSince_of_removes (ha : a.removes seq = true) :
    settingSince seq created (a :: since) = none := by
  rw [settingSince, List.any_cons, ha, Bool.true_or, if_pos rfl]

theorem settingSince_setAll (expanded : Bool) :
    settingSince seq created (.setAll expanded :: since)
      = (settingSince seq created since).map fun _ => expanded := by
  have hkept : Act.removes seq (.setAll expanded) = false := rfl
  rw [settingSince, settingSince, List.any_cons, hkept, Bool.false_or]
  split <;> rfl

/-- An operation that does not set all rows changes the row only if it toggles it. -/
theorem settingSince_of_setting?_eq_none (ha : a.removes seq = false) (hnone : a.setting? = none) :
    settingSince seq created (a :: since)
      = if a = .toggleRow seq then (settingSince seq created since).map not
        else settingSince seq created since := by
  have hlast : (a :: since).findSome? Act.setting? = since.findSome? Act.setting? := by
    rw [List.findSome?_cons, hnone]
  have htake : ((a :: since).takeWhile fun a => a.setting?.isNone)
      = a :: since.takeWhile fun a => a.setting?.isNone := by
    rw [List.takeWhile_cons, hnone]
    rfl
  rw [settingSince, settingSince, List.any_cons, ha, Bool.false_or, hlast, htake, List.count_cons]
  by_cases htoggle : a = .toggleRow seq
  · rw [if_pos htoggle, if_pos (beq_iff_eq.mpr htoggle)]
    split
    · rfl
    · exact congrArg some (Function.iterate_succ_apply' not _ _)
  · rw [if_neg htoggle, if_neg fun h => htoggle (beq_iff_eq.mp h), Nat.add_zero]

/-- One operation more changes the setting of a row as `onRow` says. -/
theorem settingSince_cons (ha : a ≠ .addRow seq) (common : Bool) :
    settingSince seq created (a :: since)
      = a.onRow common seq (settingSince seq created since) := by
  cases a with
  | addRow k =>
    have hk : seq ≠ k := fun h => ha (h ▸ rfl)
    rw [settingSince_of_setting?_eq_none rfl rfl, if_neg (by simp), Act.onRow, if_neg hk]
  | setAll expanded => exact settingSince_setAll expanded
  | toggleRow k =>
    rw [settingSince_of_setting?_eq_none rfl rfl, Act.onRow]
    exact if_congr (by rw [Act.toggleRow.injEq, eq_comm]) rfl rfl
  | forget seqs =>
    rw [Act.onRow]
    by_cases hseq : seq ∈ seqs
    · rw [if_pos hseq]
      exact settingSince_of_removes (by simpa [Act.removes] using hseq)
    · rw [if_neg hseq, settingSince_of_setting?_eq_none (by simpa [Act.removes] using hseq) rfl,
        if_neg (by simp)]
  | clear => exact settingSince_of_removes rfl

end since

theorem settingOf_cons (initial : Bool) (seq : Nat) (a : Act) (log : List Act) :
    settingOf initial seq (a :: log)
      = a.onRow (commonOf initial log) seq (settingOf initial seq log) := by
  by_cases ha : a = .addRow seq
  -- The operation creates the row, so the history before it does not matter.
  · subst ha
    simp [settingOf, settingSince, Act.onRow]
  · have hne : (a != .addRow seq) = true := bne_iff_ne.mpr ha
    simp only [settingOf, List.takeWhile_cons, List.dropWhile_cons, hne, if_true]
    cases hbefore : log.dropWhile (· != .addRow seq) with
    | cons created before => exact settingSince_cons ha _
    | nil =>
      cases a with
      | addRow k =>
        have hk : seq ≠ k := fun h => ha (h ▸ rfl)
        simp [Act.onRow, hk]
      | setAll expanded | toggleRow k | forget seqs | clear => simp [Act.onRow]

/-- The settings after a history are those read off from it. -/
theorem settings_after (initial : Bool) (history : List Act) :
    ((new initial).after history).byDefault = commonOf initial history.reverse ∧
      ∀ seq, ((new initial).after history).isExpanded seq
        = settingOf initial seq history.reverse := by
  induction history using List.reverseRecOn with
  | nil => exact ⟨rfl, fun _ => rfl⟩
  | append_singleton history a ih =>
    obtain ⟨hcommon, hrows⟩ := ih
    rw [after_concat, List.reverse_append, List.reverse_singleton, List.singleton_append]
    refine ⟨?_, fun seq => ?_⟩
    · rw [byDefault_act, hcommon, commonOf_cons]
    · rw [isExpanded_act, hcommon, hrows, settingOf_cons]

end Projection

/-! ### Rows of a feed -/

namespace LiveFeed

/-- The operations on the rows that an act of a feed makes. -/
def rowsDone (f : LiveFeed) : Act → List Projection.Act
  | .take now =>
    match f.take now, f.queue with
    | some (some (.event _), _), ⟨_, .event e⟩ :: _ =>
      [.addRow (f.buffer.prepend e).1.seq, .forget (f.buffer.prepend e).1.evicted]
    | _, _ => []
  | .subscribe | .setFilter _ | .setDevices _ | .setCodes _ | .setActions _ | .shutdown => [.clear]
  | .setAll expanded => [.setAll expanded]
  | .toggleRow seq => [.toggleRow seq]
  | .work _ _ | .wake _ | .teardown => []

theorem projection_act {f f' : LiveFeed} {a : Act} (hact : f.act? a = some f') :
    f'.projection = f.projection.after (f.rowsDone a) := by
  cases a with
  | work k client =>
    obtain ⟨⟨_, client'⟩, hwork, rfl⟩ := Option.map_eq_some_iff.mp hact
    cases works hwork with
    | told | proceeded => rfl
  | wake k =>
    obtain ⟨t, delay, -, -, rfl⟩ := wake_eq_some hact
    rfl
  | take now =>
    obtain ⟨⟨update, f'⟩, htake, rfl⟩ := Option.map_eq_some_iff.mp hact
    rw [rowsDone, htake]
    cases takes htake with
    | dropped => rfl
    | @accepted m rest k hqueue hsubscription =>
      rw [hqueue]
      cases m <;> rfl
  | subscribe | setFilter filter | setDevices uuids | setCodes codes | setActions actions =>
    obtain rfl := Option.some.inj hact
    exact subscribe_projection _
  | teardown =>
    obtain rfl := Option.some.inj hact
    exact teardown_projection f
  | shutdown =>
    obtain rfl := Option.some.inj hact
    exact congrArg Projection.clear (teardown_projection f)
  | setAll expanded | toggleRow seq =>
    obtain rfl := Option.some.inj hact
    rfl

/-- The record of the operations on the rows in a run. -/
def noteRows (history : List Projection.Act) (f : LiveFeed) (a : Act) : List Projection.Act :=
  history ++ f.rowsDone a

theorem projection_of_run (filter : Filter) (options : Options) {history : List Projection.Act}
    {f : LiveFeed} (h : Observed noteRows [] (.new filter options) history f) :
    f.projection = (Projection.new options.expanded).after history := by
  induction h with
  | start => rfl
  | act _ hact ih => rw [noteRows, Projection.after_append, ← ih, projection_act hact]

/-- An act that clears the buffer clears the rows, and keeps the common setting. -/
theorem projection_of_letsGo {f f' : LiveFeed} {a : Act} (hact : f.act? a = some f')
    (hgo : a.letsGo = true) : f'.projection = f.projection.clear := by
  rw [projection_act hact]
  cases a with
  | subscribe | setFilter filter | setDevices uuids | setCodes codes | setActions actions
  | shutdown => rfl
  | work k client | wake k | take now | teardown | setAll expanded | toggleRow seq => cases hgo

end LiveFeed

/-! ### The main statement -/

/-- After any history, the common setting is the last one that was set for all rows, or the initial
one. A row has no setting if it was never created, or removed after its last creation; otherwise its
setting is the last one set for all rows since its creation, or else the common one of its creation,
flipped for each toggle of the row afterwards. Operations on other rows do not change it, and
toggles commute. The rows of a feed have such a history, in which a change of the filter is a
clearing of the rows and nothing else. -/
theorem settings_of_history (initial : Bool) (history : List Projection.Act) :
    let p := (Projection.new initial).after history
    p.byDefault = Projection.commonOf initial history.reverse ∧
      (∀ seq, p.isExpanded seq = Projection.settingOf initial seq history.reverse) ∧
      (∀ seq a, Projection.Act.isElsewhere seq a = true →
        (p.act a).isExpanded seq = p.isExpanded seq) ∧
      (∀ j k, p.after [.toggleRow j, .toggleRow k] = p.after [.toggleRow k, .toggleRow j]) ∧
      ∀ filter options done f,
        LiveFeed.Observed LiveFeed.noteRows [] (.new filter options) done f →
          f.projection = (Projection.new options.expanded).after done ∧
          ∀ a f', f.act? a = some f' → LiveFeed.Act.letsGo a = true →
            f'.projection.byDefault = f.projection.byDefault ∧
              ∀ seq, f'.projection.isExpanded seq = none := by
  intro p
  obtain ⟨hcommon, hrows⟩ := Projection.settings_after initial history
  refine ⟨hcommon, hrows, fun seq a h => p.isExpanded_act_of_isElsewhere h, p.toggleRow_comm,
    fun filter options done f hrun =>
      ⟨LiveFeed.projection_of_run filter options hrun, fun a f' hact hgo => ?_⟩⟩
  rw [LiveFeed.projection_of_letsGo hact hgo]
  exact ⟨rfl, fun _ => rfl⟩

/-- A row that is there when all are expanded, and is toggled then; a row that comes after that, and
is collapsed with the others; and one that is forgotten. -/
example :
    let log : List Projection.Act := [.forget [3], .setAll false, .addRow 3, .addRow 2,
      .toggleRow 1, .setAll true, .addRow 1]
    [1, 2, 3].map (fun seq => Projection.settingOf false seq (log.drop 2))
        = [some false, some true, some true] ∧
      [1, 2, 3].map (fun seq => Projection.settingOf false seq log)
        = [some false, some false, none] := by decide

/-- A run in which the filter changes after all rows were expanded. -/
theorem settings_of_changedFilter :
    ∃ done f f', LiveFeed.Observed LiveFeed.noteRows [] (.new .empty keepOne) done f ∧
      done = [.clear, .setAll true] ∧ f.act? (.setCodes ["VideoMotion"]) = some f' ∧
      f'.projection.byDefault = true ∧ ∀ seq, f'.projection.isExpanded seq = none := by
  have hstart : LiveFeed.Observed LiveFeed.noteRows [] (.new .empty keepOne) []
      (.new .empty keepOne) := .start
  have hrun := (hstart.act (a := .subscribe) rfl).act (a := .setAll true) rfl
  obtain ⟨-, -, -, -, hfeed⟩ := settings_of_history false []
  obtain ⟨-, hgo⟩ := hfeed _ _ _ _ hrun
  obtain ⟨hcommon, hnone⟩ := hgo (.setCodes ["VideoMotion"]) _ rfl rfl
  exact ⟨_, _, _, hrun, rfl, rfl, hcommon, hnone⟩

end CameraFeed.Feed
