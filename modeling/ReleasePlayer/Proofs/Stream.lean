/-
This file says when a stream lands exactly where it is told to go. A time that is finite, not
negative and not past the end of the stream passes every check on its way to the transport, and a
transport that lands exactly there forgets where it was before.
-/

import ReleasePlayer.InMemory.Deck
import ReleasePlayer.Proofs.Scalar.Order
import ReleasePlayer.Stream

namespace ReleasePlayer

/-- A transport that lands exactly at any time within its stream, wherever it was before. -/
class Transport.Seekable (α : outParam Type) (T : Type) [Scalar α] [Transport α T] : Prop where
  lands {transport : T} {time : α} : Scalar.isFinite time = true → (0.0 : α) ≤ time →
    (∀ duration, Transport.duration transport = some duration → time ≤ duration) →
    ∃ moved, Transport.moveTo transport time = some moved ∧ Transport.position moved = time
  overwrites {transport moved : T} {first : α} : Transport.moveTo transport first = some moved →
    ∀ second, Transport.moveTo moved second = Transport.moveTo transport second
  duration_moved {transport moved : T} {time : α} :
    Transport.moveTo transport time = some moved →
    Transport.duration moved = Transport.duration transport
  duration_paused {transport : T} :
    Transport.duration (Transport.pause transport).1 = Transport.duration transport

namespace InMemory.Deck

variable {α : Type} [Scalar α] [Scalar.Ordered α]

theorem moveTo_of_within {deck : Deck α} {time : α} (nonneg : (0.0 : α) ≤ time)
    (within : ∀ duration, deck.duration = some duration → time ≤ duration) :
    Transport.moveTo deck time = some { deck with position := time } := by
  cases known : deck.duration with
  | some duration =>
    simp only [Transport.moveTo, known]
    rw [Scalar.clamp?_of_within nonneg (within duration known)]
    rfl
  | none =>
    simp only [Transport.moveTo, known]
    rw [Scalar.atLeastZero_of_nonneg nonneg]

omit [Scalar.Ordered α] in
/-- Moving a deck changes its position only. -/
theorem eq_of_moveTo {deck moved : Deck α} {time : α}
    (landed : Transport.moveTo deck time = some moved) :
    ∃ position, moved = { deck with position } := by
  cases known : deck.duration with
  | some duration =>
    simp only [Transport.moveTo, known] at landed
    obtain ⟨position, -, rfl⟩ := Option.map_eq_some_iff.mp landed
    exact ⟨position, rfl⟩
  | none =>
    simp only [Transport.moveTo, known] at landed
    obtain rfl := Option.some.inj landed
    exact ⟨_, rfl⟩

omit [Scalar.Ordered α] in
/-- Starting a deck leaves it in its place. -/
theorem eq_of_play {deck played : Deck α} (started : Transport.play deck = .ok played) :
    played = { deck with isPaused := false, playCalls := deck.playCalls + 1 } := by
  have answer : Transport.play deck = if deck.source.isSome then
      .ok { deck with isPaused := false, playCalls := deck.playCalls + 1 } else .error .noSource := rfl
  rw [answer] at started
  split at started
  · exact (Except.ok.inj started).symm
  · cases started

instance : Transport.Seekable α (Deck α) where
  lands _ nonneg within := ⟨_, moveTo_of_within nonneg within, rfl⟩
  overwrites landed _ := by
    obtain ⟨position, rfl⟩ := eq_of_moveTo landed
    rfl
  duration_moved landed := by
    obtain ⟨position, rfl⟩ := eq_of_moveTo landed
    rfl
  duration_paused := rfl

end InMemory.Deck

namespace Stream

variable {α T : Type} [Scalar α] [Scalar.Ordered α] [Transport α T]

/-- A time within the stream needs no correction. -/
theorem target?_of_within {stream : Stream T} {time : α} (nonneg : (0.0 : α) ≤ time)
    (within : ∀ duration, stream.duration = some duration → time ≤ duration) :
    stream.target? time = some time := by
  unfold target?
  split
  · rename_i duration known
    exact Scalar.clamp?_of_within nonneg (within duration (Option.filter_eq_some_iff.mp known).1)
  · rw [Scalar.atLeastZero_of_nonneg nonneg]

/-- The stream lands exactly at a time within it. -/
theorem seek_of_within [Transport.Seekable α T] {stream : Stream T} {time : α}
    (finite : Scalar.isFinite time = true) (nonneg : (0.0 : α) ≤ time)
    (within : ∀ duration, stream.duration = some duration → time ≤ duration) :
    ∃ moved, Transport.moveTo stream.transport time = some moved ∧
      Transport.position moved = time ∧
      stream.seek time = ({ stream with transport := moved }, []) := by
  obtain ⟨moved, landed, position⟩ := Transport.Seekable.lands finite nonneg within
  refine ⟨moved, landed, position, ?_⟩
  unfold seek moveTo
  rw [if_pos finite, target?_of_within nonneg within, Option.bind_some, landed]

end Stream

end ReleasePlayer
