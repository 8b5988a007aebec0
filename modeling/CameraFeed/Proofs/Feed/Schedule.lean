import CameraFeed.Feed.Schedule
import CameraFeed.Proofs.Feed.Steps

/-! # Schedule — the schedule of a feed is one of its runs

  `receive`, `drain` and `workAlone` decide which task acts when. Every step that they take is an
  act of the feed, so a property of all runs holds for them too. -/

namespace CameraFeed.Feed.LiveFeed

open Push (Client)

variable {Seen : Type} {note : Seen → LiveFeed → Act → Seen} {seen₀ : Seen} {f₀ : LiveFeed}

/-- Some run leads from `f₀` to `f`. -/
def Reached (note : Seen → LiveFeed → Act → Seen) (seen₀ : Seen) (f₀ f : LiveFeed) : Prop :=
  ∃ seen, Observed note seen₀ f₀ seen f

/-- A step of the first task that can take one is a step of some task. -/
theorem exists_work {f : LiveFeed} {client : Client} {next : LiveFeed × Client}
    (hwork : f.workAny client = some next) : ∃ h, f.work h client = some next := by
  obtain ⟨h, -, hstep⟩ := List.exists_of_findSome?_eq_some hwork
  exact ⟨h, hstep⟩

theorem exists_wake {f f' : LiveFeed} (hwake : f.wakeAny = some f') :
    ∃ h, f.wake h = some f' := by
  obtain ⟨h, -, hstep⟩ := List.exists_of_findSome?_eq_some hwake
  exact ⟨h, hstep⟩

theorem Reached.act {f f' : LiveFeed} (h : Reached note seen₀ f₀ f) (a : Act)
    (hact : f.act? a = some f') : Reached note seen₀ f₀ f' := by
  obtain ⟨seen, hseen⟩ := h
  exact ⟨_, hseen.act hact⟩

namespace Reached

variable {f f' : LiveFeed}

theorem workFor (h : Reached note seen₀ f₀ f) (fuel : Nat) (client : Client) :
    Reached note seen₀ f₀ (f.workFor fuel client).1 := by
  induction fuel generalizing f client with
  | zero => exact h
  | succ fuel ih =>
    rw [LiveFeed.workFor]
    cases hany : f.workAny client with
    | none => exact h
    | some next =>
      obtain ⟨k, hwork⟩ := exists_work hany
      exact ih (h.act (.work k client) (by rw [act?, hwork, Option.map_some])) next.2

theorem workOut (h : Reached note seen₀ f₀ f) (client : Client) :
    Reached note seen₀ f₀ (f.workOut client).1 :=
  h.workFor _ client

theorem receiveWithin (h : Reached note seen₀ f₀ f) (now : Time.Instant) (fuel : Nat)
    (client : Client) : Reached note seen₀ f₀ (LiveFeed.receiveWithin now fuel f client).2.1 := by
  induction fuel generalizing f client with
  | zero => exact h
  | succ fuel ih =>
    rw [LiveFeed.receiveWithin]
    cases htake : f.take now with
    | some next =>
      have hnext : Reached note seen₀ f₀ next.2 :=
        h.act (.take now) (by rw [act?, htake, Option.map_some])
      obtain ⟨update, next⟩ := next
      cases update with
      | some update => exact hnext
      | none => exact ih hnext client
    | none =>
      have hwork := h.workOut client
      dsimp only
      by_cases hclosed : f.isClosed
      · rw [if_pos hclosed]
        exact h
      · rw [if_neg hclosed]
        by_cases hempty : (f.workOut client).1.queue.isEmpty
        · rw [if_pos hempty]
          cases hany : (f.workOut client).1.wakeAny with
          | none => exact hwork
          | some next =>
            obtain ⟨k, hwake⟩ := exists_wake hany
            exact ih (hwork.act (.wake k) hwake) _
        · rw [if_neg hempty]
          exact ih hwork _

theorem receive (h : Reached note seen₀ f₀ f) (now : Time.Instant) (client : Client) :
    Reached note seen₀ f₀ (f.receive now client).2.1 :=
  h.receiveWithin now _ client

theorem receiveAll (h : Reached note seen₀ f₀ f) (now : Time.Instant) (fuel : Nat)
    (client : Client) : Reached note seen₀ f₀ (LiveFeed.receiveAll now fuel f client).2.1 := by
  induction fuel generalizing f client with
  | zero => exact h
  | succ fuel ih =>
    rw [LiveFeed.receiveAll]
    have hnext := h.receive now client
    generalize f.receive now client = received at hnext
    obtain ⟨update, next, client⟩ := received
    cases update with
    | none => exact hnext
    | some update => exact ih hnext client

theorem drain (h : Reached note seen₀ f₀ f) (now : Time.Instant) (client : Client) :
    Reached note seen₀ f₀ (f.drain now client).2.1 :=
  h.receiveAll now _ client

theorem workAlone (h : Reached note seen₀ f₀ f) (fuel : Nat) (client : Client) :
    Reached note seen₀ f₀ (LiveFeed.workAlone fuel f client).1 := by
  induction fuel generalizing f client with
  | zero => exact h
  | succ fuel ih =>
    rw [LiveFeed.workAlone]
    have hwork := h.workOut client
    dsimp only
    cases hany : (f.workOut client).1.wakeAny with
    | none => exact hwork
    | some next =>
      obtain ⟨k, hwake⟩ := exists_wake hany
      exact ih (hwork.act (.wake k) hwake) _

end Reached

end CameraFeed.Feed.LiveFeed
