import CameraFeed.Feed.Buffer

/-! # Evictions — the events that a buffer evicts

  `Buffer.prepend` returns the number of the new event and the numbers of the events that it
  evicted. A caller that keeps data for each event has nothing else to go by. `Account` is the
  record of a caller that never reads the buffer. `entries_of_history` says that every event since
  the last clearing is in exactly one of two places: its number is among those evicted, or the
  buffer holds it, and the evicted ones are the oldest. -/

namespace CameraFeed.Feed

/-! ### Accounts -/

/-- An operation on a buffer. -/
inductive Buffer.Act where
  | prepend (event : DeviceEvent)
  | clear

/-- The buffer after an operation. -/
def Buffer.act (b : Buffer) : Act → Buffer
  | .prepend e => (b.prepend e).2
  | .clear => b.clear

/-- A call of `Buffer.prepend`, with its result. -/
structure Addition where
  event : DeviceEvent
  /-- The result of the call. -/
  told : Prepended

namespace Addition

/-- The number that the event got. -/
def seq (a : Addition) : Nat := a.told.seq

/-- The numbers of the events that it evicted. -/
def evicted (a : Addition) : List Nat := a.told.evicted

/-- The event under its number. -/
def entry (a : Addition) : Buffered := ⟨a.seq, a.event⟩

end Addition

/-- The record of a caller. -/
structure Account where
  /-- All additions, in the order in which they were made. -/
  added : List Addition
  /-- Those since the buffer was last cleared. -/
  sinceClear : List Addition

namespace Account

/-- The events since the last clearing, under their numbers. -/
def entries (l : Account) : List Buffered := l.sinceClear.map Addition.entry

/-- The numbers evicted since then, in the order of the evictions. -/
def evicted (l : Account) : List Nat := l.sinceClear.flatMap Addition.evicted

/-- The record before the first operation. -/
def empty : Account := ⟨[], []⟩

/-- The record after an addition. -/
def add (l : Account) (a : Addition) : Account := ⟨l.added ++ [a], l.sinceClear ++ [a]⟩

/-- The record after an operation on a buffer. -/
def note (l : Account) (b : Buffer) : Buffer.Act → Account
  | .prepend e => l.add ⟨e, (b.prepend e).1⟩
  | .clear => { l with sinceClear := [] }

/-- The record and the buffer after a history of operations. -/
def follow (l : Account) (b : Buffer) : List Buffer.Act → Account × Buffer
  | [] => (l, b)
  | a :: history => (l.note b a).follow (b.act a) history

theorem entries_add (l : Account) (a : Addition) : (l.add a).entries = l.entries ++ [a.entry] :=
  List.map_append

theorem evicted_add (l : Account) (a : Addition) : (l.add a).evicted = l.evicted ++ a.evicted := by
  rw [evicted, add, List.flatMap_append, List.flatMap_singleton]
  rfl

/-- A property of all additions so far and of one more holds of all of them. -/
theorem forall_mem_add {l : Account} {a : Addition} {p : Addition → Prop}
    (h : ∀ x ∈ l.added, p x) (ha : p a) : ∀ x ∈ (l.add a).added, p x := by
  intro x hx
  rcases List.mem_append.mp hx with hx | hx
  · exact h x hx
  · rw [List.mem_singleton.mp hx]
    exact ha

end Account

/-! ### One event -/

/-- The limit is positive, and the number of events is within it. -/
def Buffer.Fits (b : Buffer) : Prop := ∀ n, b.limit = some n → 0 < n ∧ b.events.length ≤ n

/-- `Prepends b e told b'`: a call of `Buffer.prepend` on `b` with the result `told` and the buffer
`b'`. -/
inductive Prepends (b : Buffer) (e : DeviceEvent) : Prepended → Buffer → Prop where
  /-- The buffer is not full, and evicts no event. -/
  | room (hroom : ∀ n, b.limit = some n → b.events.length < n) :
      Prepends b e ⟨b.nextSeq, []⟩
        { b with events := ⟨b.nextSeq, e⟩ :: b.events, nextSeq := b.nextSeq + 1 }
  /-- The buffer is full, and evicts its oldest event. -/
  | full {newer : List Buffered} {oldest : Buffered} (hevents : b.events = newer ++ [oldest])
      (hlimit : b.limit = some (newer.length + 1)) :
      Prepends b e ⟨b.nextSeq, [oldest.seq]⟩
        { b with events := ⟨b.nextSeq, e⟩ :: newer, nextSeq := b.nextSeq + 1 }

namespace Buffer

variable {b : Buffer}

theorem prepend_of_room (hroom : ∀ n, b.limit = some n → b.events.length < n) (e : DeviceEvent) :
    b.prepend e = (⟨b.nextSeq, []⟩,
      { b with events := ⟨b.nextSeq, e⟩ :: b.events, nextSeq := b.nextSeq + 1 }) := by
  cases hlimit : b.limit with
  | none => simp [prepend, hlimit]
  | some n =>
    have htake : (⟨b.nextSeq, e⟩ :: b.events).take n = ⟨b.nextSeq, e⟩ :: b.events :=
      List.take_of_length_le (hroom n hlimit)
    simp [prepend, hlimit, htake]

theorem prepend_of_full {newer : List Buffered} {oldest : Buffered}
    (hevents : b.events = newer ++ [oldest]) (hlimit : b.limit = some (newer.length + 1))
    (e : DeviceEvent) :
    b.prepend e = (⟨b.nextSeq, [oldest.seq]⟩,
      { b with events := ⟨b.nextSeq, e⟩ :: newer, nextSeq := b.nextSeq + 1 }) := by
  simp [prepend, hlimit, hevents]

/-- A call of `Buffer.prepend` evicts no event, or the oldest one of a full buffer. -/
theorem prepends (h : b.Fits) (e : DeviceEvent) :
    Prepends b e (b.prepend e).1 (b.prepend e).2 := by
  by_cases hroom : ∀ n, b.limit = some n → b.events.length < n
  · rw [prepend_of_room hroom]
    exact .room hroom
  · obtain ⟨n, hlimit, hfull⟩ : ∃ n, b.limit = some n ∧ n ≤ b.events.length := by
      simpa using hroom
    obtain ⟨hpos, hle⟩ := h n hlimit
    -- The limit is positive, so a full buffer has an oldest event.
    have hne : b.events ≠ [] := by
      apply List.ne_nil_of_length_pos
      omega
    have hevents := (List.dropLast_concat_getLast hne).symm
    have hn : n = b.events.dropLast.length + 1 := by
      rw [List.length_dropLast]
      omega
    rw [hn] at hlimit
    rw [prepend_of_full hevents hlimit]
    exact .full hevents hlimit

end Buffer

namespace Prepends

variable {b b' : Buffer} {e : DeviceEvent} {told : Prepended}

theorem seq_eq (h : Prepends b e told b') : told.seq = b.nextSeq := by cases h <;> rfl

theorem nextSeq_eq (h : Prepends b e told b') : b'.nextSeq = b.nextSeq + 1 := by cases h <;> rfl

theorem limit_eq (h : Prepends b e told b') : b'.limit = b.limit := by cases h <;> rfl

theorem length_evicted_le (h : Prepends b e told b') : told.evicted.length ≤ 1 := by
  cases h with
  | room => exact Nat.zero_le _
  | full => exact Nat.le_refl _

/-- An evicted event was in the buffer. -/
theorem mem_of_evicted (h : Prepends b e told b') {k : Nat} (hk : k ∈ told.evicted) :
    ∃ x ∈ b.events, x.seq = k := by
  cases h with
  | room => cases hk
  | @full newer oldest hevents =>
    obtain rfl := List.mem_singleton.mp hk
    refine ⟨oldest, ?_, rfl⟩
    rw [hevents]
    exact List.mem_concat_self

/-- Without a limit, no event is evicted. -/
theorem evicted_of_none (h : Prepends b e told b') (hnone : b.limit = none) :
    told.evicted = [] := by
  cases h with
  | room => rfl
  | full _ hlimit =>
    rw [hnone] at hlimit
    cases hlimit

theorem fits (h : Prepends b e told b') (hfits : b.Fits) : b'.Fits := by
  intro n hn
  cases h with
  | room hroom => exact ⟨(hfits n hn).1, hroom n hn⟩
  | @full newer oldest hevents hlimit =>
    obtain rfl : n = newer.length + 1 := Option.some.inj (hn.symm.trans hlimit)
    exact ⟨Nat.succ_pos _, Nat.le_refl _⟩

end Prepends

/-! ### Parts -/

/-- The events since the last clearing in two parts: those evicted, in the order of their evictions,
and those that the buffer still holds. -/
structure Parted (l : Account) (b : Buffer) (gone : List Buffered) : Prop where
  entries : l.entries = gone ++ b.events.reverse
  evicted : l.evicted = gone.map Buffered.seq
  /-- Only a full buffer evicts, and it stays full. -/
  full : gone ≠ [] → b.limit = some b.events.length

namespace Parted

variable {l : Account} {b b' : Buffer} {gone : List Buffered}

/-- Without events both parts are empty. -/
theorem nil (h : l.sinceClear = []) (hevents : b.events = []) : Parted l b [] where
  entries := by rw [Account.entries, h, hevents]; rfl
  evicted := by rw [Account.evicted, h]; rfl
  full := fun hgone => absurd rfl hgone

/-- A new event is behind all others, and the event that it evicts moves from the second part to the
first. -/
theorem prepends (h : Parted l b gone) {e : DeviceEvent} {told : Prepended}
    (hprepends : Prepends b e told b') : ∃ gone', Parted (l.add ⟨e, told⟩) b' gone' := by
  cases hprepends with
  -- The first part stays as it is.
  | room hroom =>
    refine ⟨gone, ?_, ?_, ?_⟩
    · rw [Account.entries_add, h.entries, List.reverse_cons, List.append_assoc]
      rfl
    · rw [Account.evicted_add, h.evicted]
      exact List.append_nil _
    · intro hgone
      -- A buffer that is not full has evicted no event.
      exact absurd (hroom _ (h.full hgone)) (Nat.lt_irrefl _)
  -- Read oldest first, the buffer begins with the event that leaves, right behind the first part.
  | @full newer oldest hevents hlimit =>
    refine ⟨gone ++ [oldest], ?_, ?_, ?_⟩
    · rw [Account.entries_add, h.entries, hevents, List.reverse_concat, List.reverse_cons,
        List.append_assoc, List.append_assoc]
      rfl
    · rw [Account.evicted_add, h.evicted, List.map_append]
      rfl
    · intro _
      exact hlimit

/-- With a limit, the buffer holds the newest events. -/
theorem events_eq_take (h : Parted l b gone) {n : Nat} (hlimit : b.limit = some n)
    (hle : b.events.length ≤ n) : b.events = l.entries.reverse.take n := by
  rw [h.entries, List.reverse_append, List.reverse_reverse]
  by_cases hgone : gone = []
  · rw [hgone, List.reverse_nil, List.append_nil, List.take_of_length_le hle]
  · have hn : b.events.length = n := Option.some.inj ((h.full hgone).symm.trans hlimit)
    rw [List.take_left' hn]

/-- Without a limit, the buffer holds all events. -/
theorem events_eq (h : Parted l b gone) (hnone : b.limit = none) :
    b.events = l.entries.reverse := by
  cases gone with
  | nil => rw [h.entries, List.nil_append, List.reverse_reverse]
  | cons x gone =>
    have hlimit := h.full (List.cons_ne_nil x gone)
    rw [hnone] at hlimit
    cases hlimit

end Parted

/-! ### Conservation -/

/-- The invariant of a history: the record and the buffer account for every event. -/
structure Conserved (l : Account) (b : Buffer) : Prop where
  fits : b.Fits
  numbers : l.added.map Addition.seq = List.range' 1 l.added.length
  nextSeq : b.nextSeq = l.added.length + 1
  recent : l.sinceClear ⊆ l.added
  parted : ∃ gone, Parted l b gone
  /-- Each addition evicts one event at most, and never its own. -/
  sparing : ∀ a ∈ l.added, a.evicted.length ≤ 1 ∧ a.seq ∉ a.evicted
  unlimited : b.limit = none → ∀ a ∈ l.added, a.evicted = []

namespace Conserved

variable {l : Account} {b b' : Buffer}

theorem start (limit : Option Nat) : Conserved .empty (.new limit) where
  fits := by
    intro n hn
    obtain ⟨-, hpos⟩ := Option.filter_eq_some_iff.mp hn
    exact ⟨of_decide_eq_true hpos, Nat.zero_le n⟩
  numbers := rfl
  nextSeq := rfl
  recent := List.nil_subset _
  parted := ⟨[], .nil rfl rfl⟩
  sparing := nofun
  unlimited := fun _ => nofun

/-- The numbers in the buffer are below `nextSeq`. -/
theorem seq_lt (h : Conserved l b) {x : Buffered} (hx : x ∈ b.events) : x.seq < b.nextSeq := by
  obtain ⟨gone, hparted⟩ := h.parted
  -- Every event of the buffer was added, and additions are numbered below `nextSeq`.
  have hentry : x ∈ l.entries := by
    rw [hparted.entries]
    exact List.mem_append_right _ (List.mem_reverse.mpr hx)
  obtain ⟨a, ha, rfl⟩ := List.mem_map.mp hentry
  have hseq : a.seq ∈ List.range' 1 l.added.length := by
    rw [← h.numbers]
    exact List.mem_map_of_mem (h.recent ha)
  have hlt := (List.mem_range'_1.mp hseq).2
  rw [h.nextSeq]
  show a.seq < l.added.length + 1
  omega

/-- An addition does not evict its own event: its number is a new one. -/
theorem notMem_evicted (h : Conserved l b) {e : DeviceEvent} {told : Prepended}
    (hprepends : Prepends b e told b') : told.seq ∉ told.evicted := by
  intro hmem
  obtain ⟨x, hx, hseq⟩ := hprepends.mem_of_evicted hmem
  have hlt := h.seq_lt hx
  rw [hseq, hprepends.seq_eq] at hlt
  exact Nat.lt_irrefl _ hlt

theorem prepends (h : Conserved l b) {e : DeviceEvent} {told : Prepended}
    (hprepends : Prepends b e told b') : Conserved (l.add ⟨e, told⟩) b' where
  fits := hprepends.fits h.fits
  numbers := by
    have hseq : told.seq = 1 + l.added.length := by
      rw [hprepends.seq_eq, h.nextSeq]
      omega
    rw [Account.add, List.map_append, h.numbers, List.length_append, List.length_singleton,
      List.range'_1_concat, ← hseq]
    rfl
  nextSeq := by
    rw [hprepends.nextSeq_eq, h.nextSeq, Account.add, List.length_append]
    rfl
  recent := List.append_subset.mpr
    ⟨List.subset_append_of_subset_left _ h.recent, List.subset_append_right _ _⟩
  parted := by
    obtain ⟨gone, hparted⟩ := h.parted
    exact hparted.prepends hprepends
  sparing := Account.forall_mem_add h.sparing
    ⟨hprepends.length_evicted_le, h.notMem_evicted hprepends⟩
  unlimited := by
    intro hnone
    rw [hprepends.limit_eq] at hnone
    exact Account.forall_mem_add (h.unlimited hnone) (hprepends.evicted_of_none hnone)

theorem clear (h : Conserved l b) : Conserved (l.note b .clear) b.clear where
  fits := fun n hn => ⟨(h.fits n hn).1, Nat.zero_le n⟩
  numbers := h.numbers
  nextSeq := h.nextSeq
  recent := List.nil_subset _
  parted := ⟨[], .nil rfl rfl⟩
  sparing := h.sparing
  unlimited := h.unlimited

theorem act (h : Conserved l b) (a : Buffer.Act) : Conserved (l.note b a) (b.act a) := by
  cases a with
  | prepend e => exact h.prepends (Buffer.prepends h.fits e)
  | clear => exact h.clear

/-- Every history keeps the invariant. -/
theorem follow (h : Conserved l b) (history : List Buffer.Act) :
    Conserved (l.follow b history).1 (l.follow b history).2 := by
  -- By induction on the history, for every record and buffer with the invariant.
  induction history generalizing l b with
  | nil => exact h
  | cons a history ih => exact ih (h.act a)

end Conserved

/-! ### Histories -/

/-- The limit never changes. -/
theorem Account.limit_follow (l : Account) (b : Buffer) (history : List Buffer.Act) :
    (l.follow b history).2.limit = b.limit := by
  induction history generalizing l b with
  | nil => rfl
  | cons a history ih =>
    rw [follow, ih]
    cases a <;> rfl

/-- After any history, the events are numbered from one on in the order of their additions. The
numbers given since the last clearing are those evicted since then, followed by those in the buffer,
oldest first. An addition evicts one event at most, and never its own. Without a limit, which is
also what a limit of zero means, no event is evicted and the buffer holds all events since the last
clearing; with a limit it holds the newest ones within it. It holds them newest first and in the
order of their additions, also when their own times and indices say otherwise. -/
theorem entries_of_history (limit : Option Nat) (history : List Buffer.Act) {l : Account}
    {b : Buffer} (h : Account.empty.follow (.new limit) history = (l, b)) :
    l.added.map Addition.seq = List.range' 1 l.added.length ∧
      l.sinceClear.map Addition.seq = l.evicted ++ b.events.reverse.map Buffered.seq ∧
      (∀ a ∈ l.added, a.evicted.length ≤ 1 ∧ a.seq ∉ a.evicted) ∧
      (limit = none ∨ limit = some 0 →
        (∀ a ∈ l.added, a.evicted = []) ∧ b.events = l.entries.reverse) ∧
      ∀ n, limit = some n → 0 < n → b.events = l.entries.reverse.take n := by
  have hconserved := (Conserved.start limit).follow history
  have hlimit := Account.limit_follow .empty (.new limit) history
  rw [h] at hconserved hlimit
  obtain ⟨gone, hparted⟩ := hconserved.parted
  refine ⟨hconserved.numbers, ?_, hconserved.sparing, ?_, ?_⟩
  -- The numbers of the two parts are those of the entries.
  · rw [hparted.evicted, ← List.map_append, ← hparted.entries, Account.entries, List.map_map]
    rfl
  · intro hunlimited
    have hnone : b.limit = none := by
      rcases hunlimited with rfl | rfl
      · exact hlimit
      · exact hlimit
    exact ⟨hconserved.unlimited hnone, hparted.events_eq hnone⟩
  · intro n hn hpos
    have hsome : b.limit = some n := by
      rw [hlimit, Buffer.new, hn, Option.filter_some, if_pos (decide_eq_true hpos)]
    exact hparted.events_eq_take hsome (hconserved.fits n hsome).2

/-- An event of which the time goes down when the index goes up. -/
def motion (index : Int) : DeviceEvent :=
  ⟨.number 7, "cam-1", "VideoMotion", "start", index, .null, ⟨-index, 0⟩⟩

/-- Two events, and after a clearing three more. -/
def twoRounds : List Buffer.Act :=
  [.prepend (motion 3), .prepend (motion 1), .clear, .prepend (motion 2), .prepend (motion 2),
    .prepend (motion 1)]

/-- With a limit of two, only the third event of the second round evicts one, and no eviction names
the first round. With a larger limit all are kept. -/
theorem entries_of_twoRounds :
    (∃ l b, Account.empty.follow (.new (some 2)) twoRounds = (l, b) ∧
      l.added.map Addition.evicted = [[], [], [], [], [3]] ∧
      l.sinceClear.map Addition.seq = [3] ++ b.events.reverse.map Buffered.seq ∧
      (∃ a ∈ l.added, a.evicted = [3] ∧ a.evicted.length ≤ 1 ∧ a.seq ∉ a.evicted) ∧
      b.events = l.entries.reverse.take 2 ∧
      b.events = [⟨5, motion 1⟩, ⟨4, motion 2⟩]) ∧
    ∃ l b, Account.empty.follow (.new (some 0)) twoRounds = (l, b) ∧
      (∀ a ∈ l.added, a.evicted = []) ∧ b.events = l.entries.reverse ∧
      b.events = [⟨5, motion 1⟩, ⟨4, motion 2⟩, ⟨3, motion 2⟩] := by
  obtain ⟨-, hnumbers, hsparing, -, hnewest⟩ := entries_of_history (some 2) twoRounds rfl
  obtain ⟨-, -, -, hall, -⟩ := entries_of_history (some 0) twoRounds rfl
  obtain ⟨hnone, hevents⟩ := hall (.inr rfl)
  have hlast := hsparing ⟨motion 1, ⟨5, [3]⟩⟩ List.mem_concat_self
  exact ⟨⟨_, _, rfl, rfl, hnumbers, ⟨_, List.mem_concat_self, rfl, hlast⟩,
    hnewest 2 rfl (by decide), rfl⟩, _, _, rfl, hnone, hevents, rfl⟩

end CameraFeed.Feed
