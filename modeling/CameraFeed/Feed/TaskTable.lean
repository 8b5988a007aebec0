import CameraFeed.Feed.Connection

/-! # TaskTable — spawned tasks

  A task table holds every task that was spawned until its future is dropped. The caller of `spawn`
  gets a handle: the task takes its steps whether or not the handle is kept. A handle is the
  position of its task among all that were spawned, so no two tasks share one.

  A future is dropped when the task is finished, or at one of its await points after the task was
  aborted. Everything the task owns goes with it: its connection and its sender of the queue. -/

namespace CameraFeed.Feed

/-- The name of a spawned task. -/
abbrev Handle := Nat

/-- The tasks that were spawned. -/
structure TaskTable where
  /-- The tasks in the order in which they were spawned, `none` for each one that was dropped. -/
  slots : List (Option Task)

namespace TaskTable

/-- The table before the first `spawn`. -/
def empty : TaskTable := ⟨[]⟩

/-- The task of a handle, unless it was dropped. -/
def task? (r : TaskTable) (h : Handle) : Option Task := r.slots[h]?.join

/-- Adds a task and returns its handle. -/
def spawn (r : TaskTable) (t : Task) : Handle × TaskTable := (r.slots.length, ⟨r.slots ++ [some t]⟩)

/-- Replaces the task of a handle by the same task after a step. -/
def update (r : TaskTable) (h : Handle) (t : Task) : TaskTable := ⟨r.slots.set h (some t)⟩

/-- Drops the task of a handle. -/
def drop (r : TaskTable) (h : Handle) : TaskTable := ⟨r.slots.set h none⟩

/-- The tasks that were not dropped. -/
def live (r : TaskTable) : List Task := r.slots.filterMap id

/-- The connections that exist: each one is owned by a live task. -/
def connections (r : TaskTable) : List Push.Connection := r.live.filterMap Task.connection?

/-- The handles, of dropped tasks too. -/
def handles (r : TaskTable) : List Handle := List.range r.slots.length

end TaskTable

end CameraFeed.Feed
