/-
This file holds a transport in memory. Its position moves only when the clock is moved, so that
whoever runs it is in charge of time.
-/

import ReleasePlayer.Surroundings

namespace ReleasePlayer.InMemory

structure Deck (α : Type) where
  source : Option String
  isLoaded : Bool
  isPaused : Bool
  position : α
  duration : Option α
  bufferedEnd : Option α
  /-- How often playing was started. -/
  playCalls : Nat
deriving DecidableEq, Repr

namespace Deck

variable {α : Type} [Scalar α]

/-- A paused deck without a source. -/
def withDuration (duration : Option α) : Deck α :=
  { source := none, isLoaded := false, isPaused := true, position := 0.0, duration,
    bufferedEnd := none, playCalls := 0 }

/-- Moves the clock while the deck plays. At the end of the stream the deck pauses. -/
def advance (deck : Deck α) (seconds : α) : Deck α :=
  if deck.isPaused then deck
  else
    let next := deck.position + seconds
    match deck.duration with
    | some duration =>
      if duration ≤ next then { deck with isPaused := true, position := duration }
      else { deck with position := next }
    | none => { deck with position := next }

/-- Says how much was fetched. -/
def buffer (deck : Deck α) (bufferedEnd : Option α) : Deck α := { deck with bufferedEnd }

instance : Transport α (Deck α) where
  setSource deck url := { deck with source := some url, isLoaded := false, position := 0.0 }
  load deck := { deck with isLoaded := deck.source.isSome }
  play deck :=
    if deck.source.isSome then
      .ok { deck with isPaused := false, playCalls := deck.playCalls + 1 }
    else .error .noSource
  pause deck := ({ deck with isPaused := true }, [])
  isPaused := Deck.isPaused
  position := Deck.position
  moveTo deck time :=
    match deck.duration with
    | some duration =>
      (Scalar.clamp? 0.0 duration time).map fun position => { deck with position }
    | none => some { deck with position := Scalar.atLeastZero time }
  duration := Deck.duration
  bufferedEnd := Deck.bufferedEnd

end Deck

end ReleasePlayer.InMemory
