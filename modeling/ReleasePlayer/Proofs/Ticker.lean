/-
This file proves that a ticker and its source of frames agree. As long as the source grants what it
is asked for and each frame that comes is handed to the ticker, the one frame that the source owes is
the one that the ticker waits for: a started ticker is running, a stopped one is owed nothing, and a
frame comes only to a running ticker.
-/

import ReleasePlayer.InMemory.Frames
import ReleasePlayer.Ticker

namespace ReleasePlayer

/-- A source of frames that come one by one. -/
class Scheduler (F : Type) extends FrameSource F where
  /-- Lets a frame come, if one was asked for. -/
  fire? : F → Option F

open InMemory (Frames)

instance : Scheduler Frames where
  fire? frames :=
    match frames.fire with
    | (true, left) => some left
    | (false, _) => none

namespace Ticker

/-- The source grants requests, and it owes the frame that the ticker waits for and no other. -/
structure Served (ticker : Ticker Frames) : Prop where
  granting : ticker.source.isRefusing = false
  owed : ticker.source.pending = ticker.pending.toList

theorem served_ofSource : Served (ofSource (Frames.fresh false)) := ⟨rfl, rfl⟩

/-- A stopped ticker that is started waits for a frame. -/
theorem served_start_of_stopped {ticker : Ticker Frames} (served : Served ticker)
    (stopped : ticker.pending = none) :
    Served ticker.start.1 ∧ ticker.start.1.isRunning = true := by
  obtain ⟨⟨isRefusing, granted, owed, requested, cancelled⟩, pending⟩ := ticker
  obtain ⟨granting, empty⟩ := served
  obtain rfl : pending = none := stopped
  obtain rfl : isRefusing = false := granting
  obtain rfl : owed = [] := empty
  exact ⟨⟨rfl, rfl⟩, rfl⟩

theorem served_start {ticker : Ticker Frames} (served : Served ticker) :
    Served ticker.start.1 ∧ ticker.start.1.isRunning = true := by
  cases waiting : ticker.pending with
  | none => exact served_start_of_stopped served waiting
  | some handle =>
    have unchanged : ticker.start.1 = ticker := by
      unfold start
      rw [waiting]
    rw [unchanged]
    refine ⟨served, ?_⟩
    unfold isRunning
    rw [waiting, Option.isSome_some]

theorem isRunning_stop (ticker : Ticker Frames) : ticker.stop.isRunning = false := by
  unfold stop isRunning
  split
  · rfl
  · rename_i stopped
    rw [stopped, Option.isSome_none]

theorem served_stop {ticker : Ticker Frames} (served : Served ticker) : Served ticker.stop := by
  unfold stop
  split
  · rename_i handle waiting
    refine ⟨served.granting, ?_⟩
    show ticker.source.pending.filter (· != handle) = []
    rw [served.owed, waiting]
    simp
  · exact served

/-- A frame comes only to a ticker that waits for it, and then nothing more is owed. -/
theorem served_fire {ticker : Ticker Frames} (served : Served ticker) {left : Frames}
    (fired : Scheduler.fire? ticker.source = some left) :
    ticker.isRunning = true ∧ Served { source := left, pending := none } := by
  obtain ⟨⟨isRefusing, granted, owed, requested, cancelled⟩, pending⟩ := ticker
  obtain ⟨granting, owing⟩ := served
  cases pending with
  | none =>
    obtain rfl : owed = [] := owing
    exact absurd fired (by simp [Scheduler.fire?, Frames.fire])
  | some handle =>
    obtain rfl : owed = [handle] := owing
    obtain rfl := Option.some.inj fired
    exact ⟨rfl, granting, rfl⟩

/-- After a frame a ticker goes on exactly if there is something to show. -/
theorem served_afterFrame (ticker : Ticker Frames)
    (served : Served { ticker with pending := none }) (isPlaying : Bool) :
    Served (ticker.afterFrame isPlaying).1 ∧
      (ticker.afterFrame isPlaying).1.isRunning = isPlaying := by
  cases isPlaying with
  | false => exact ⟨served, rfl⟩
  | true => exact served_start_of_stopped served rfl

end Ticker

end ReleasePlayer
