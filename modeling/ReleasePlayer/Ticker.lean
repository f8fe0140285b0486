/-
This file keeps the display ticking while the stream plays. A ticker asks for one frame at a time;
when it comes, it asks for the next one. A refused request stops the ticker until it is started
again.
-/

import ReleasePlayer.Surroundings

namespace ReleasePlayer

structure Ticker (F : Type) where
  source : F
  /-- The frame that was asked for and did not come yet. -/
  pending : Option Nat
deriving DecidableEq, Repr

namespace Ticker

variable {F : Type} [FrameSource F]

/-- A stopped ticker. -/
def ofSource (source : F) : Ticker F := ⟨source, none⟩

def isRunning (ticker : Ticker F) : Bool := ticker.pending.isSome

/-- Asks for a frame unless one is on its way. -/
def start (ticker : Ticker F) : Ticker F × List Log.Entry :=
  match ticker.pending with
  | some _ => (ticker, [])
  | none =>
    let (pending, source, log) := FrameSource.request ticker.source
    ({ source, pending }, log)

/-- Takes back the frame that is on its way. -/
def stop (ticker : Ticker F) : Ticker F :=
  match ticker.pending with
  | some handle => { source := FrameSource.cancel ticker.source handle, pending := none }
  | none => ticker

/-- Goes on after a frame came, as long as there is something to show. -/
def afterFrame (ticker : Ticker F) (isPlaying : Bool) : Ticker F × List Log.Entry :=
  let arrived := { ticker with pending := none }
  if isPlaying then arrived.start else (arrived, [])

end Ticker

end ReleasePlayer
