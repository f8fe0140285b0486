/-
This file gathers the handlers that a host or a listener calls into one type of commands, and says
what bringing the page up to date comes to. It also reads off queued effects which swaps they ask of
a control.
-/

import ReleasePlayer.Player

namespace ReleasePlayer

/-! ### Commands -/

/-- What is asked of a player from outside. The notifications of the transport and the display
frames are not among it. -/
inductive Command (α : Type) where
  | attach (format : Option StreamFormat) (endpoint : Endpoint)
  | render
  | registerLyrics (slug : String) (isOpen : Bool)
  | toggleLyrics (slug : String) (isOpen : Bool)
  | seekDown (bar : Bar α) (x : α)
  | volumeDown (bar : Bar α) (x y : α)
  | move (x y : α)
  | up
  | togglePlay
  | skipPrevious
  | skipNext
  | trackButton (slug : String)
  | toggleMute
  | toggleReplaygain

namespace Player

section Outcome

variable {α T G S F : Type}

/-- What a handler that can fail leaves behind: a failure changes nothing. -/
def orUnchanged (player : Player α T G S F)
    (outcome : Except PlaybackError (Player α T G S F)) : Player α T G S F :=
  match outcome with
  | .ok after => after
  | .error _ => player

/-- What holds of the player and of every successful outcome holds of what is left behind. -/
theorem orUnchanged_induction {holds : Player α T G S F → Prop} {player : Player α T G S F}
    {outcome : Except PlaybackError (Player α T G S F)} (unchanged : holds player)
    (succeeded : ∀ after, outcome = .ok after → holds after) :
    holds (player.orUnchanged outcome) := by
  unfold orUnchanged
  cases outcome with
  | ok after => exact succeeded after rfl
  | error _ => exact unchanged

end Outcome

variable {α T G S F : Type} [Scalar α] [Transport α T] [GainStage α G] [PreferenceStore S]
  [FrameSource F]

/-- The player after a command. -/
def perform (player : Player α T G S F) : Command α → Player α T G S F
  | .attach format endpoint => player.orUnchanged (player.attachSource format endpoint)
  | .render => player.renderInitial
  | .registerLyrics slug isOpen => player.orUnchanged (player.registerLyrics slug isOpen)
  | .toggleLyrics slug isOpen => player.orUnchanged (player.lyricsToggled slug isOpen)
  | .seekDown bar x => player.seekPointerDown bar x
  | .volumeDown bar x y => player.volumePointerDown bar x y
  | .move x y => player.pointerMove x y
  | .up => player.pointerUp
  | .togglePlay => player.togglePlay
  | .skipPrevious => player.skipPrevious
  | .skipNext => player.skipNext
  | .trackButton slug => player.orUnchanged (player.trackButton slug)
  | .toggleMute => player.toggleMute
  | .toggleReplaygain => player.toggleReplaygain

end Player

/-! ### The swaps that effects ask for -/

namespace Effect

variable {α : Type}

/-- The swap that an effect asks of a control. -/
def swapOf? (control : Control) : Effect α → Option (ControlClass × ControlClass)
  | .swapClass other before after => if other = control then some (before, after) else none
  | _ => none

/-- The swaps that effects ask of a control, in their order. -/
def swapsOf (control : Control) (effects : List (Effect α)) :
    List (ControlClass × ControlClass) :=
  effects.filterMap (swapOf? control)

@[simp]
theorem swapsOf_nil (control : Control) : swapsOf control ([] : List (Effect α)) = [] := rfl

@[simp]
theorem swapsOf_append (control : Control) (first second : List (Effect α)) :
    swapsOf control (first ++ second) = swapsOf control first ++ swapsOf control second := by
  unfold swapsOf
  rw [List.filterMap_append]

end Effect

namespace Player

/-! ### Bringing the page up to date -/

section Update

variable {α T G S F : Type}

theorem queue_queue (player : Player α T G S F) (first second : List (Effect α)) :
    (player.queue first).queue second = player.queue (first ++ second) := by
  simp only [queue, List.append_assoc]

variable [Scalar α] [Transport α T]

/-- A move of which nothing is told changes the stream only. -/
theorem seek_of_silent {player : Player α T G S F} {time : α} {stream : Stream T}
    (sought : player.stream.seek time = (stream, [])) : player.seek time = { player with stream } := by
  unfold seek
  rw [sought]
  show Player.tell _ [] = _
  unfold tell
  rw [List.append_nil]

theorem updateBuffered_eq (player : Player α T G S F) :
    ∃ effects, player.updateBuffered = player.queue effects := by
  unfold updateBuffered
  split
  · exact ⟨_, rfl⟩
  · refine ⟨[], ?_⟩
    simp only [queue, List.append_nil]

/-- Following the stream takes note of its position, and otherwise only queues and tells. -/
theorem followStream_eq (player : Player α T G S F) :
    ∃ effects log, player.followStream = { player with
      follower := (player.follower.observe player.table player.stream.position).1
      effects := player.effects ++ effects
      log := player.log ++ log } := by
  unfold followStream
  dsimp only
  split
  · rename_i follower change observed
    rw [observed]
    exact ⟨_, _, rfl⟩
  · rename_i follower observed
    rw [observed]
    exact ⟨[], [], by simp only [List.append_nil]⟩

/-- Bringing the page up to date takes note of the position of the stream, and otherwise only queues
and tells. -/
theorem updateTime_eq (player : Player α T G S F) :
    ∃ effects log, player.updateTime = { player with
      follower := (player.follower.observe player.table player.stream.position).1
      effects := player.effects ++ effects
      log := player.log ++ log } := by
  obtain ⟨effects, log, followed⟩ := player.followStream_eq
  unfold updateTime
  dsimp only
  split
  · rename_i track covering
    obtain ⟨fetched, buffered⟩ :=
      updateBuffered_eq (player.followStream.queue (timeEffects track player.stream.position))
    rw [buffered, queue_queue, followed]
    refine ⟨effects ++ (timeEffects track player.stream.position ++ fetched), log, ?_⟩
    simp only [queue, List.append_assoc]
  · exact ⟨effects, log, followed⟩

end Update

end Player

end ReleasePlayer
