/-
This file holds a source of frames in memory. It counts what it is asked for, and its frames come
when they are made to, the oldest first.
-/

import ReleasePlayer.Surroundings

namespace ReleasePlayer.InMemory

structure Frames where
  isRefusing : Bool
  /-- The number of the frame granted last. -/
  granted : Nat
  pending : List Nat
  requested : Nat
  cancelled : Nat
deriving DecidableEq, Repr

namespace Frames

/-- A source that was not asked for anything yet. -/
def fresh (isRefusing : Bool) : Frames := ⟨isRefusing, 0, [], 0, 0⟩

/-- Lets the oldest frame come, and says whether there was one. -/
def fire (frames : Frames) : Bool × Frames :=
  match frames.pending with
  | [] => (false, frames)
  | _ :: rest => (true, { frames with pending := rest })

/-- Asks for a frame. -/
def request (frames : Frames) : Option Nat × Frames :=
  let asked := { frames with requested := frames.requested + 1 }
  if frames.isRefusing then (none, asked)
  else
    let handle := frames.granted + 1
    (some handle, { asked with granted := handle, pending := frames.pending ++ [handle] })

/-- Takes back a request. -/
def cancel (frames : Frames) (handle : Nat) : Frames :=
  { frames with
    pending := frames.pending.filter (· != handle)
    cancelled := frames.cancelled + 1 }

instance : FrameSource Frames where
  request frames := let (handle, frames) := frames.request; (handle, frames, [])
  cancel := cancel

end Frames

end ReleasePlayer.InMemory
