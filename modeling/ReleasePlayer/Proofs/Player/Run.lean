/-
This file sets a player running. Whatever a player has to react to is an input: a command, a
notification of the transport, a display frame, or a change of the stream that the player was not
told of. A run takes in one input after the other, in any order. It is a chain of steps of the stream,
steps of the sound and signals, so a statement about all runs has to be checked for each kind of step
only.
-/

import ReleasePlayer.Proofs.Player.Step

namespace ReleasePlayer

open Relation (ReflTransGen)

/-- Something that a player reacts to. -/
inductive Input (α T : Type) where
  | command (command : Command α)
  | notify (notification : Notification)
  | frame
  /-- The stream changes on its own. -/
  | drift (change : Stream T → Stream T)

namespace Player

variable {α T G S F : Type} [Scalar α] [Transport α T] [GainStage α G] [PreferenceStore S]
  [FrameSource F]

/-- The player after an input. -/
def take (player : Player α T G S F) : Input α T → Player α T G S F
  | .command command => player.perform command
  | .notify notification => player.notify notification
  | .frame => player.onFrame
  | .drift change => { player with stream := change player.stream }

/-- The player after one input after the other. -/
def takeAll (player : Player α T G S F) (inputs : List (Input α T)) : Player α T G S F :=
  inputs.foldl take player

/-! ### What inputs make a player go through -/

/-- A handler that may go through steps of any kind. -/
abbrev Reactions : Player α T G S F → Player α T G S F → Prop :=
  ReflTransGen (Step ⊔ Sounding ⊔ Signal)

omit [FrameSource F] in
theorem SoundSteps.reactions {before after : Player α T G S F} (steps : SoundSteps before after) :
    Reactions before after :=
  ReflTransGen.mono le_sup_left _ _ steps

omit [FrameSource F] in
theorem Steps.reactions {before after : Player α T G S F} (steps : Steps before after) :
    Reactions before after :=
  steps.sound.reactions

omit [FrameSource F] in
theorem reactions_signal {before after : Player α T G S F} (signal : Signal before after) :
    Reactions before after :=
  .single (Or.inr signal)

omit [FrameSource F] in
theorem reactions_swapControls (player : Player α T G S F) (before after : ControlClass) :
    Reactions player (player.swapControls before after) := by
  have both : player.swapControls before after =
      (player.queue [.swapClass .global before after]).queue
        [.swapClass (.track player.currentTrack.slug) before after] := by
    rw [queue_queue]
    rfl
  have row : Steps (player.queue [.swapClass .global before after])
      (player.swapControls before after) := by
    rw [both]
    exact .single (.queue _ (by simp [Effect.isAside]))
  exact (reactions_signal (.button player before after)).trans row.reactions

theorem reactions_startTicker (player : Player α T G S F) : Reactions player player.startTicker := by
  have told : Steps { player with ticker := player.ticker.start.1 } player.startTicker :=
    .single (.tell _ _)
  exact (reactions_signal (.ticker player _)).trans told.reactions

theorem reactions_notify (player : Player α T G S F) (notification : Notification) :
    Reactions player (player.notify notification) := by
  cases notification with
  | timeUpdate => exact (steps_updateTime player).reactions
  | progress => exact (steps_updateBuffered player).reactions
  | canPlay => exact reactions_signal (.button player .loading .play)
  | play =>
    show Reactions player (if player.isSeekDragging then player
      else (player.swapControls .play .pause).startTicker)
    split
    · exact .refl
    · exact (reactions_swapControls player .play .pause).trans (reactions_startTicker _)
  | pause =>
    have stopped : Reactions player { player with ticker := player.ticker.stop } :=
      reactions_signal (.ticker player _)
    show Reactions player (if player.isSeekDragging then
      { player with ticker := player.ticker.stop }
      else ({ player with ticker := player.ticker.stop } : Player α T G S F).swapControls
        .pause .play)
    split
    · exact stopped
    · exact stopped.trans (reactions_swapControls _ .pause .play)
  | error message =>
    have told : Steps player (player.notify (.error message)) := .single (.tell player _)
    exact told.reactions

theorem reactions_onFrame (player : Player α T G S F) : Reactions player player.onFrame := by
  have told : Steps { player.updateTime with
      ticker := (player.updateTime.ticker.afterFrame (!player.updateTime.stream.isPaused)).1 }
      player.onFrame := .single (.tell _ _)
  exact ((steps_updateTime player).reactions.trans (reactions_signal (.ticker _ _))).trans
    told.reactions

theorem reactions_take (player : Player α T G S F) (input : Input α T) :
    Reactions player (player.take input) := by
  cases input with
  | command command => exact (soundSteps_perform player command).reactions
  | notify notification => exact reactions_notify player notification
  | frame => exact reactions_onFrame player
  | drift change =>
    have drifted : Steps player (player.take (.drift change)) :=
      .single (.stream player _ player.format)
    exact drifted.reactions

theorem reactions_takeAll (player : Player α T G S F) (inputs : List (Input α T)) :
    Reactions player (player.takeAll inputs) := by
  induction inputs generalizing player with
  | nil => exact .refl
  | cons input later inductionHypothesis =>
    exact (reactions_take player input).trans (inductionHypothesis (player.take input))

omit [FrameSource F] in
/-- What each kind of step keeps is kept throughout. -/
theorem Reactions.keep (holds : Player α T G S F → Prop)
    (step : ∀ {before after}, Step before after → holds before → holds after)
    (sounding : ∀ {before after}, Sounding before after → holds before → holds after)
    (signal : ∀ {before after}, Signal before after → holds before → holds after)
    {before after : Player α T G S F} (reactions : Reactions before after) (holding : holds before) :
    holds after := by
  induction reactions with
  | refl => exact holding
  | tail _ last inductionHypothesis =>
    rcases last with (last | last) | last
    · exact step last inductionHypothesis
    · exact sounding last inductionHypothesis
    · exact signal last inductionHypothesis

end Player

end ReleasePlayer
