import CameraFeed.Time.Relative

/-! # Zone — clocks with an offset

  A clock shows an instant at its own offset. Two clocks at different offsets that show the same
  instant are different values, but the distance from it is the same by both. -/

namespace CameraFeed.Time

/-- What a clock shows. -/
structure Reading where
  /-- The instant that a clock at Greenwich would show by the same hands. -/
  hands : Instant
  /-- The seconds that the clock runs ahead of Greenwich. -/
  offset : Int
  deriving DecidableEq, Repr

/-- The instant as a clock at an offset shows it. -/
def Instant.shownAt (t : Instant) (offset : Int) : Reading := ⟨t.later offset, offset⟩

namespace Reading

/-- The instant that a clock shows. -/
def instant (r : Reading) : Instant := r.hands.later (-r.offset)

/-- A clock shows the instant that it was set to. -/
theorem instant_shownAt (t : Instant) (offset : Int) : (t.shownAt offset).instant = t := by
  cases t
  simp only [instant, Instant.shownAt, Instant.later, Instant.mk.injEq, and_true]
  omega

/-- How what a clock shows reads at `now`. -/
def relativeText (r : Reading) (now : Instant) : String := Time.relativeText r.instant now

end Reading

end CameraFeed.Time
