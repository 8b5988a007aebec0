import CameraFeed.Proofs.Feed.Attempts
import Mathlib.Data.List.Induction

/-! # Delays — how long a task waits

  A delay comes from what was kept since the delay before it: the power that counts it, and whether
  a connection opened meanwhile. The main statement gives each delay by the attempts alone: it is
  the unit, doubled once more than attempts were made since the last one that opened, and no longer
  than the longest delay. What a run of a task waits after its attempts are these delays. -/

namespace CameraFeed.Push

/-- A connection opens. -/
def Attempt.opens : Attempt → Bool
  | .refused _ => false
  | .opened _ => true

/-- `Client.connect` answers with the next attempt of the script and drops it. -/
theorem Client.connect_eq (c : Client) (filter : Filter) :
    c.connect filter
      = (c.script.head?.getD (.opened .silent), ⟨c.script.tail, filter :: c.asked⟩) := by
  obtain ⟨script, asked⟩ := c
  cases script <;> rfl

end CameraFeed.Push

namespace CameraFeed.Feed

open Push (Attempt Client Connection)
open Time (Span)

/-! ### Lengths of delays -/

/-- The delay after as many attempts since a connection opened. -/
def Retry.delay (r : Retry) (n : Nat) : Span :=
  (Span.ofMillis (min (Nat.pow 2 (n + 1) * max (r.first / 2) 1) (Nat.pow 2 64 - 1))).shorter
    r.longest

theorem nanos_shorter (s t : Span) : (s.shorter t).nanos = min s.nanos t.nanos := by
  rw [Span.shorter]
  split
  · omega
  · omega

theorem nanos_ofMillis (n : Nat) : (Span.ofMillis n).nanos = n * 1000000 := rfl

theorem Span.eq_of_nanos_eq {s t : Span} (h : s.nanos = t.nanos) : s = t := by
  cases s
  cases t
  exact congrArg Span.mk h

theorem nanos_delay (r : Retry) (n : Nat) :
    (r.delay n).nanos = min (min (Nat.pow 2 (n + 1) * r.unit) mostMillis * 1000000)
      r.longest.nanos := by
  rw [Retry.delay, nanos_shorter, nanos_ofMillis]
  rfl

theorem unit_pos (r : Retry) : 0 < r.unit := Nat.lt_of_lt_of_le Nat.one_pos (Nat.le_max_right _ _)

/-- One attempt more doubles a delay. -/
theorem pow_succ_mul (n unit : Nat) :
    Nat.pow 2 (n + 1) * unit = 2 * (Nat.pow 2 n * unit) := by
  rw [Nat.pow_eq, Nat.pow_succ', Nat.mul_assoc]
  rfl

theorem delay_le_longest (r : Retry) (n : Nat) : (r.delay n).nanos ≤ r.longest.nanos := by
  rw [nanos_delay]
  exact Nat.min_le_right _ _

/-- A delay is twice the one before it, unless one of the two limits is shorter. -/
theorem nanos_delay_succ (r : Retry) (n : Nat) :
    (r.delay (n + 1)).nanos
      = min (2 * (r.delay n).nanos) (min (Span.ofMillis mostMillis).nanos r.longest.nanos) := by
  rw [nanos_delay, nanos_delay, nanos_ofMillis, pow_succ_mul (n + 1)]
  omega

theorem delay_le_succ (r : Retry) (n : Nat) : (r.delay n).nanos ≤ (r.delay (n + 1)).nanos := by
  rw [nanos_delay, nanos_delay, pow_succ_mul (n + 1)]
  omega

theorem delay_mono (r : Retry) {m n : Nat} (h : m ≤ n) : (r.delay m).nanos ≤ (r.delay n).nanos := by
  induction h with
  | refl => exact Nat.le_refl _
  | step _ ih => exact Nat.le_trans ih (delay_le_succ r _)

/-- The first delay is the retry time up to a millisecond, unless the longest delay is shorter. -/
theorem exists_delay_zero {r : Retry} (hpos : 1 ≤ r.first) (hfirst : r.first ≤ mostMillis) :
    ∃ m, r.delay 0 = (Span.ofMillis m).shorter r.longest ∧ m ≤ r.first + 1 ∧ r.first ≤ m + 1 := by
  have hmost : mostMillis = 18446744073709551615 := rfl
  -- Halving and doubling again loses the odd millisecond, and one millisecond is made two.
  refine ⟨2 * max (r.first / 2) 1, ?_, by omega, by omega⟩
  have hfits : min (Nat.pow 2 (0 + 1) * max (r.first / 2) 1) (Nat.pow 2 64 - 1)
      = 2 * max (r.first / 2) 1 := by
    change min (2 * max (r.first / 2) 1) mostMillis = _
    omega
  rw [Retry.delay, hfits]

/-! ### Growth -/

theorem saturated_le (n : Nat) : saturated n ≤ mostMillis := Nat.min_le_right _ _

/-- Counting up to the limit on the way makes no difference. -/
theorem saturated_mul (a : Nat) {b : Nat} (hb : 0 < b) :
    saturated (saturated a * b) = saturated (a * b) := by
  rw [saturated, saturated, saturated]
  rcases Nat.le_total a mostMillis with ha | ha
  · rw [Nat.min_eq_left ha]
  · have hmost : mostMillis ≤ mostMillis * b := Nat.le_mul_of_pos_right _ hb
    rw [Nat.min_eq_right ha, Nat.min_eq_right hmost,
      Nat.min_eq_right (Nat.le_trans hmost (Nat.mul_le_mul_right b ha))]

/-- `g.Gave r n`: that many delays were given. The power stays behind their number from the first
delay on that is too long. -/
structure Growth.Gave (r : Retry) (n : Nat) (g : Growth) : Prop where
  base : g.base = 2
  unit : g.unit = r.unit
  longest : g.longest = r.longest
  current : ∃ k ≤ n, g.current = saturated (Nat.pow 2 (k + 1)) ∧
    (k < n → r.longest.nanos < (Span.ofMillis (saturated (Nat.pow 2 (k + 1) * r.unit))).nanos)

namespace Growth.Gave

variable {r : Retry} {n : Nat} {g : Growth}

theorem start (r : Retry) : r.growth.Gave r 0 :=
  ⟨rfl, rfl, rfl, 0, Nat.le_refl 0, rfl, fun h => absurd h (Nat.lt_irrefl 0)⟩

/-- The next delay is `r.delay n`, and after it one more was given. -/
theorem next (h : g.Gave r n) : ∃ g', g.next = some (r.delay n, g') ∧ g'.Gave r (n + 1) := by
  obtain ⟨base, unit, longest, current⟩ := g
  obtain ⟨hbase, hunit, hlongest, k, hk, hcurrent, hlate⟩ := h
  obtain rfl : base = 2 := hbase
  obtain rfl : unit = r.unit := hunit
  obtain rfl : longest = r.longest := hlongest
  obtain rfl : current = saturated (Nat.pow 2 (k + 1)) := hcurrent
  have hunlimited : Growth.unlimited ⟨2, r.unit, r.longest, saturated (Nat.pow 2 (k + 1))⟩
      = .ofMillis (saturated (Nat.pow 2 (k + 1) * r.unit)) := by
    rw [Growth.unlimited, saturated_mul _ (unit_pos r)]
  have hcount : (r.delay k).nanos
      = min (Span.ofMillis (saturated (Nat.pow 2 (k + 1) * r.unit))).nanos r.longest.nanos :=
    nanos_delay r k
  simp only [Growth.next, hunlimited]
  generalize hlength : Span.ofMillis (saturated (Nat.pow 2 (k + 1) * r.unit)) = length
    at hlate hcount
  by_cases hlong : r.longest.nanos < length.nanos
  · rw [if_pos hlong]
    -- Once the limit is reached, all later delays are as long.
    have hlater : (r.delay k).nanos ≤ (r.delay n).nanos := delay_mono r hk
    have hlimit := delay_le_longest r n
    have hdelay : r.longest = r.delay n := Span.eq_of_nanos_eq (by omega)
    refine ⟨_, congrArg (fun d => some (d, _)) hdelay, ?_⟩
    exact ⟨rfl, rfl, rfl, k, Nat.le_succ_of_le hk, rfl, fun _ => hlength ▸ hlong⟩
  · rw [if_neg hlong]
    obtain rfl : k = n := (Nat.lt_or_eq_of_le hk).resolve_left fun hlt => hlong (hlate hlt)
    have hpower : saturated (saturated (Nat.pow 2 (k + 1)) * 2) = saturated (Nat.pow 2 (k + 2)) :=
      saturated_mul _ Nat.two_pos
    have hdelay : length = r.delay k := Span.eq_of_nanos_eq (by omega)
    refine ⟨_, congrArg (fun d => some (d, _)) hdelay, ?_⟩
    exact ⟨rfl, rfl, rfl, k + 1, Nat.le_refl _, hpower, fun h => absurd h (Nat.lt_irrefl _)⟩

/-- No number exceeds 64 bits. -/
theorem within (h : g.Gave r n) (hfirst : r.first ≤ mostMillis) :
    g.current ≤ mostMillis ∧ g.unit ≤ mostMillis := by
  obtain ⟨k, -, hcurrent, -⟩ := h.current
  rw [hcurrent, h.unit, Retry.unit]
  have hone : 1 ≤ mostMillis := by decide
  exact ⟨saturated_le _, by omega⟩

end Growth.Gave

/-! ### Attempts -/

namespace Backoff

/-- The backoff after an attempt that opened a connection or did not. -/
def attempted (b : Backoff) (opens : Bool) : Backoff := if opens then b.opened else b

/-- The backoff after an attempt and the delay that follows it, unless the delays ran out. -/
def advanced (b : Backoff) (opens : Bool) : Option Backoff :=
  (b.attempted opens).next.map Prod.snd

/-- The backoff after attempts with a delay after each of them. -/
def after (b : Backoff) (history : List Bool) : Option Backoff := history.foldlM advanced b

theorem after_concat (b : Backoff) (history : List Bool) (opens : Bool) :
    b.after (history ++ [opens]) = (b.after history).bind fun b => b.advanced opens := by
  rw [after, List.foldlM_append]
  refine bind_congr fun b => ?_
  rw [List.foldlM_cons]
  exact bind_pure _

/-- The delays never run out: as many as are asked for are given. -/
theorem length_take (b : Backoff) (n : Nat) : (b.take n).1.length = n := by
  induction n generalizing b with
  | zero => rfl
  | succ n ih =>
    obtain ⟨delay, b', hnext⟩ := b.exists_next
    rw [take, hnext]
    exact congrArg (· + 1) (ih b')

end Backoff

/-- The delay after an attempt, given which attempts before it opened a connection. -/
def delayAfter (r : Retry) (history : List Bool) (opens : Bool) : Option Span :=
  ((Backoff.new r).after history).bind fun b => (b.attempted opens).next.map Prod.fst

/-- The number of attempts since the last one that opened a connection, or since the first one if
none did. The last attempt comes first. -/
def sinceOpening (log : List Bool) : Nat := (log.idxOf? true).getD (log.length - 1)

/-- The number of delays since a connection opened, when there was one after each attempt. -/
def delaysSinceOpening : List Bool → Nat
  | [] => 0
  | opens :: log => sinceOpening (opens :: log) + 1

theorem sinceOpening_cons (opens : Bool) (log : List Bool) :
    sinceOpening (opens :: log) = if opens then 0 else delaysSinceOpening log := by
  cases opens with
  | true => rfl
  | false =>
    cases log with
    | nil => rfl
    | cons next log =>
      have hskip : (false :: next :: log).idxOf? true
          = ((next :: log).idxOf? true).map (· + 1) := by
        rw [List.idxOf?_cons]
        rfl
      rw [sinceOpening, hskip, delaysSinceOpening, sinceOpening]
      cases (next :: log).idxOf? true with
      | none => rfl
      | some k => rfl

/-- `b.Gave r n`: that many delays were given since a connection opened. -/
structure Backoff.Gave (r : Retry) (n : Nat) (b : Backoff) : Prop where
  retry : b.retry = r
  hasOpened : b.hasOpened = false
  growth : b.growth.Gave r n

namespace Backoff.Gave

variable {r : Retry} {n : Nat} {b : Backoff}

theorem start (r : Retry) : (Backoff.new r).Gave r 0 := ⟨rfl, rfl, .start r⟩

/-- After an attempt that opened, the delays start over. -/
theorem attempted (h : b.Gave r n) (opens : Bool) :
    ∃ b', (b.attempted opens).next = some (r.delay (if opens then 0 else n), b') ∧
      b'.Gave r ((if opens then 0 else n) + 1) := by
  obtain ⟨retry, hasOpened, growth⟩ := b
  obtain ⟨hretry, hopened, hgrowth⟩ := h
  obtain rfl : retry = r := hretry
  obtain rfl : hasOpened = false := hopened
  -- `hasOpened` is looked at when the next delay is asked for.
  cases opens with
  | true =>
    obtain ⟨g', hnext, hgave⟩ := (Growth.Gave.start retry).next
    refine ⟨⟨retry, false, g'⟩, ?_, rfl, rfl, hgave⟩
    exact congrArg (Option.map _) hnext
  | false =>
    obtain ⟨g', hnext, hgave⟩ := hgrowth.next
    refine ⟨⟨retry, false, g'⟩, ?_, rfl, rfl, hgave⟩
    exact congrArg (Option.map _) hnext

/-- Attempts one after another. -/
theorem after (r : Retry) (history : List Bool) :
    ∃ b, (Backoff.new r).after history = some b ∧
      b.Gave r (delaysSinceOpening history.reverse) := by
  induction history using List.reverseRecOn with
  | nil => exact ⟨_, rfl, .start r⟩
  | append_singleton history opens ih =>
    obtain ⟨b, hafter, hgave⟩ := ih
    obtain ⟨b', hnext, hgave'⟩ := hgave.attempted opens
    refine ⟨b', ?_, ?_⟩
    · rw [Backoff.after_concat, hafter, Option.bind_some, Backoff.advanced, hnext]
      rfl
    · rw [List.reverse_append, List.reverse_singleton, List.singleton_append, delaysSinceOpening,
        sinceOpening_cons]
      exact hgave'

end Backoff.Gave

theorem delayAfter_eq (r : Retry) (history : List Bool) (opens : Bool) :
    delayAfter r history opens = some (r.delay (sinceOpening (opens :: history.reverse))) := by
  obtain ⟨b, hafter, hgave⟩ := Backoff.Gave.after r history
  obtain ⟨b', hnext, -⟩ := hgave.attempted opens
  rw [delayAfter, sinceOpening_cons, hafter, Option.bind_some, hnext]
  rfl

/-! ### Runs of a task -/

/-- Which ones of the first attempts open a connection. Those beyond the script do. -/
def openings (script : List Attempt) (n : Nat) : List Bool :=
  (List.range n).map fun k => script[k]?.all Attempt.opens

theorem openings_succ (script : List Attempt) (n : Nat) :
    openings script (n + 1) = openings script n ++ [script[n]?.all Attempt.opens] := by
  rw [openings, List.range_succ, List.map_append]
  rfl

/-- The backoff of a task in a stage, given which of its attempts opened a connection. -/
def Stage.Keeps (r : Retry) (made : List Bool) (b : Backoff) : Stage → Prop
  | .announcing | .connecting => (Backoff.new r).after made = some b
  | .waiting delay =>
    (Backoff.new r).after made = some b ∧
      ∃ history opens, made = history ++ [opens] ∧ delayAfter r history opens = some delay
  -- The delay after the last attempt is not asked for yet.
  | .opening _ | .reading _ | .passing _ _ | .ending _ =>
    ∃ history opens b', made = history ++ [opens] ∧ (Backoff.new r).after history = some b' ∧
      b = b'.attempted opens
  | .finished => True

/-- A task keeps what its attempts so far amount to. -/
structure Paced (r : Retry) (script : List Attempt) (t : Task) (c : Client) : Prop where
  rest : c.script = script.drop c.asked.length
  stage : t.stage.Keeps r (openings script c.asked.length) t.backoff

namespace Paced

variable {r : Retry} {script : List Attempt} {t t' : Task} {c c' : Client}

theorem tells {m : FeedMessage} (h : Paced r script t c) (htells : Tells t m t') :
    Paced r script t' c := by
  have hstages := h.stage
  refine ⟨h.rest, ?_⟩
  cases htells with
  | announced hstage | opened hstage | passed hstage =>
    rw [hstage] at hstages
    exact hstages
  | ended hstage hnext =>
    rw [hstage] at hstages
    obtain ⟨history, opens, b, hmade, hafter, hbackoff⟩ := hstages
    rw [hbackoff] at hnext
    refine ⟨?_, history, opens, hmade, ?_⟩
    · rw [hmade, Backoff.after_concat, hafter, Option.bind_some, Backoff.advanced, hnext]
      rfl
    · rw [delayAfter, hafter, Option.bind_some, hnext]
      rfl

theorem proceeds (h : Paced r script t c) (hproceeds : Proceeds t c t' c') :
    Paced r script t' c' := by
  have hstages := h.stage
  have hscript := h.rest
  -- The answer is the attempt of the script at the number of requests made.
  have hnext : (c.connect t.filter).1 = script[c.asked.length]?.getD (.opened .silent) := by
    rw [Client.connect_eq, hscript, List.head?_drop]
  have hrest : (c.connect t.filter).2.script = script.drop (c.connect t.filter).2.asked.length := by
    rw [Client.connect_eq, hscript, List.tail_drop]
    rfl
  have hopens : script[c.asked.length]?.all Attempt.opens = (c.connect t.filter).1.opens := by
    rw [hnext]
    cases script[c.asked.length]? <;> rfl
  have hmade : openings script (c.connect t.filter).2.asked.length
      = openings script c.asked.length ++ [(c.connect t.filter).1.opens] := by
    rw [← hopens, Client.connect_eq]
    exact openings_succ script c.asked.length
  cases hproceeds with
  | refused hstage hconnect =>
    rw [hstage] at hstages
    rw [hconnect] at hmade
    exact ⟨hrest, _, _, _, hmade, hstages, rfl⟩
  | opened hstage hconnect =>
    rw [hstage] at hstages
    rw [hconnect] at hmade
    exact ⟨hrest, _, _, _, hmade, hstages, rfl⟩
  | read hstage harrives =>
    rw [hstage] at hstages
    refine ⟨hscript, ?_⟩
    cases harrives with
    | ended | failed | event | noEvent => exact hstages

end Paced

/-- In every run, a task keeps what its attempts so far amount to. -/
theorem Maintained.paced {filter : Filter} {generation : Nat} {r : Retry} {script : List Attempt}
    {ds : List Delivery} {t : Task} {c : Client}
    (h : Maintained (.start filter generation r) (.ofScript script) ds t c) :
    Paced r script t c := by
  induction h with
  | start => exact ⟨rfl, rfl⟩
  | tell _ hoffer ih => exact ih.tells (Task.tells hoffer)
  | proceed _ hproceed ih => exact ih.proceeds (Task.proceeds hproceed)
  | wake _ hwake ih =>
    obtain ⟨⟨delay, hstage⟩, rfl⟩ := Task.wake?_eq_some hwake
    have hstages := ih.stage
    rw [hstage] at hstages
    exact ⟨ih.rest, hstages.1⟩

/-! ### The main statement -/

/-- The delay after an attempt is the unit, doubled once more than attempts were made since the last
one that opened, or since the first one. It is counted up to 64 bits and is at most the longest
delay. So the delays do not decrease and double up to the limits until a connection opens, and then
start over with the first one, which is the retry time up to a millisecond. They never run out,
and no number on the way exceeds 64 bits. In every run of a task, whatever it waits for is the delay
after the attempts it made. -/
theorem delays_of_attempts (r : Retry) :
    (∀ history opens, ∃ d later,
      delayAfter r history opens = some d ∧
        delayAfter r (history ++ [opens]) false = some later ∧
        d = (Span.ofMillis
          (min (Nat.pow 2 (sinceOpening (opens :: history.reverse) + 1) * max (r.first / 2) 1)
            (Nat.pow 2 64 - 1))).shorter r.longest ∧
        d.nanos ≤ r.longest.nanos ∧
        d.nanos ≤ later.nanos ∧
        later.nanos = min (2 * d.nanos) (min (Span.ofMillis mostMillis).nanos r.longest.nanos) ∧
        delayAfter r history true = delayAfter r [] opens) ∧
    (1 ≤ r.first → r.first ≤ mostMillis → ∀ opens, ∃ m,
      delayAfter r [] opens = some ((Span.ofMillis m).shorter r.longest) ∧
        m ≤ r.first + 1 ∧ r.first ≤ m + 1) ∧
    (∀ history n, ∃ b, (Backoff.new r).after history = some b ∧ (b.take n).1.length = n) ∧
    (r.first ≤ mostMillis → ∀ history, ∃ b, (Backoff.new r).after history = some b ∧
      b.growth.current ≤ mostMillis ∧ b.growth.unit ≤ mostMillis) ∧
    ∀ filter generation script ds t c,
      Maintained (.start filter generation r) (.ofScript script) ds t c →
        ∀ delay, t.stage = .waiting delay → ∃ history opens,
          openings script c.asked.length = history ++ [opens] ∧
            delayAfter r history opens = some delay := by
  have hfirst : ∀ opens, delayAfter r [] opens = some (r.delay 0) := by
    intro opens
    rw [delayAfter_eq]
    cases opens <;> rfl
  refine ⟨fun history opens => ?_, fun hpos hwithin opens => ?_, fun history n => ?_,
    fun hwithin history => ?_, fun filter generation script ds t c hrun delay hstage => ?_⟩
  · have hlater : delayAfter r (history ++ [opens]) false
        = some (r.delay (sinceOpening (opens :: history.reverse) + 1)) := by
      rw [delayAfter_eq, List.reverse_append, sinceOpening_cons]
      rfl
    have hover : delayAfter r history true = delayAfter r [] opens := by
      rw [hfirst, delayAfter_eq]
      rfl
    exact ⟨_, _, delayAfter_eq r history opens, hlater, rfl, delay_le_longest r _,
      delay_le_succ r _, nanos_delay_succ r _, hover⟩
  · rw [hfirst]
    obtain ⟨m, hdelay, hbounds⟩ := exists_delay_zero hpos hwithin
    exact ⟨m, congrArg some hdelay, hbounds⟩
  · obtain ⟨b, hafter, -⟩ := Backoff.Gave.after r history
    exact ⟨b, hafter, b.length_take n⟩
  · obtain ⟨b, hafter, hgave⟩ := Backoff.Gave.after r history
    exact ⟨b, hafter, hgave.growth.within hwithin⟩
  · have hstages := hrun.paced.stage
    rw [hstage] at hstages
    exact hstages.2

/-- Two refusals, a connection that ends and a refusal: the delays double, start over and double. -/
example : [delayAfter ⟨500, .ofMillis 3000⟩ [] false,
    delayAfter ⟨500, .ofMillis 3000⟩ [false] false,
    delayAfter ⟨500, .ofMillis 3000⟩ [false, false] true,
    delayAfter ⟨500, .ofMillis 3000⟩ [false, false, true] false]
      = [500, 1000, 500, 1000].map fun millis => some (.ofMillis millis) := by decide

/-- A task that was refused twice waits for the second delay. -/
theorem delays_of_refusals :
    ∃ ds t c, Maintained (.start .empty 7 ⟨500, .ofMillis 3000⟩)
        (.ofScript (List.replicate 2 (.refused (.webSocket .broken)))) ds t c ∧
      t.stage = .waiting (.ofMillis 1000) ∧
      ∃ history opens,
        openings (List.replicate 2 (.refused (.webSocket .broken))) c.asked.length
          = history ++ [opens] ∧
        delayAfter ⟨500, .ofMillis 3000⟩ history opens = some (.ofMillis 1000) := by
  have hstart : Maintained (.start .empty 7 ⟨500, .ofMillis 3000⟩)
      (.ofScript (List.replicate 2 (.refused (.webSocket .broken)))) []
      (.start .empty 7 ⟨500, .ofMillis 3000⟩)
      (.ofScript (List.replicate 2 (.refused (.webSocket .broken)))) := .start
  have hrefused := ((hstart.tell rfl).proceed rfl).tell rfl
  have hagain := (((hrefused.wake rfl).tell rfl).proceed rfl).tell rfl
  obtain ⟨-, -, -, -, hwaits⟩ := delays_of_attempts ⟨500, .ofMillis 3000⟩
  exact ⟨_, _, _, hagain, rfl, hwaits _ _ _ _ _ _ hagain _ rfl⟩

end CameraFeed.Feed
