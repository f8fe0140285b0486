/-
This file sets a player among the things that go on around it. A session is a player together with
the turns of its transport that the player was not told yet: whenever the transport starts to play
or stops, by whatever cause, a turn is on its way, and turns arrive in the order in which they
happened. Everything else may come between: commands, other notifications, frames, and whatever the
transport does on its own. What is proved here is that the turns on their way lead from what the
player heard last to what the transport does now.
-/

import ReleasePlayer.Proofs.Player.Command
import ReleasePlayer.Proofs.Ticker

namespace ReleasePlayer

/-! ### Turns -/

/-- A transport starts to play, or stops. -/
inductive Turn where
  | play
  | pause
deriving DecidableEq, Repr

namespace Turn

/-- The notification that tells of a turn. -/
def notification : Turn → Notification
  | play => .play
  | pause => .pause

/-- The turn after which a transport is paused, or is not. -/
def into (isPaused : Bool) : Turn := if isPaused then pause else play

theorem into_beq_pause (isPaused : Bool) : (into isPaused == pause) = isPaused := by
  cases isPaused <;> rfl

/-- The turn between two moments of a transport, if there is one. -/
def between (wasPaused isPaused : Bool) : List Turn :=
  if wasPaused = isPaused then [] else [into isPaused]

/-- Whether turns lead from one moment of a transport to another. -/
def Lead : Bool → List Turn → Bool → Prop
  | wasPaused, [], isPaused => wasPaused = isPaused
  | wasPaused, turn :: later, isPaused => turn = into (!wasPaused) ∧ Lead (!wasPaused) later isPaused

theorem lead_append_between {wasPaused isPaused : Bool} {turns : List Turn}
    (lead : Lead wasPaused turns isPaused) (next : Bool) :
    Lead wasPaused (turns ++ between isPaused next) next := by
  induction turns generalizing wasPaused with
  | nil =>
    obtain rfl : wasPaused = isPaused := lead
    unfold between
    cases wasPaused <;> cases next <;> simp [Lead]
  | cons turn later inductionHypothesis =>
    exact ⟨lead.1, inductionHypothesis lead.2⟩

end Turn

/-! ### Sessions -/

/-- A turn that a player was told of. -/
structure Delivery where
  turn : Turn
  /-- Whether the listener was dragging along the seek bar. -/
  duringSeek : Bool
deriving DecidableEq, Repr

/-- What else a transport tells. -/
inductive Remark where
  | timeUpdate
  | progress
  | canPlay
  | error (message : String)
deriving DecidableEq, Repr

/-- The notification of a remark. -/
def Remark.notification : Remark → Notification
  | timeUpdate => .timeUpdate
  | progress => .progress
  | canPlay => .canPlay
  | error message => .error message

/-- Something that goes on around a player. -/
inductive Happening (α T : Type) where
  | command (command : Command α)
  /-- The oldest turn on its way arrives. -/
  | deliver
  | remark (remark : Remark)
  /-- The transport changes on its own. -/
  | drift (change : T → T)
  | frame

/-- A player and what it was told. -/
structure Session (α T G S F : Type) where
  player : Player α T G S F
  /-- The turns that the player was not told yet, the oldest first. -/
  inFlight : List Turn
  /-- The turn that the player was told last. -/
  latest : Option Delivery

namespace Session

variable {α T G S F : Type}

/-- A player whose transport did nothing so far. -/
def start (player : Player α T G S F) : Session α T G S F := ⟨player, [], none⟩

/-- Whether the transport is paused as far as the player heard; it is at first. -/
def heardPaused (session : Session α T G S F) : Bool :=
  match session.latest with
  | some delivery => delivery.turn == .pause
  | none => true

theorem heardPaused_eq (session : Session α T G S F) :
    session.heardPaused = decide (session.latest.map Delivery.turn ≠ some .play) := by
  unfold heardPaused
  rcases session.latest with _ | ⟨_ | _, _⟩ <;> rfl

variable [Transport α T]

def isPaused (session : Session α T G S F) : Bool := session.player.stream.isPaused

/-- The session when the player becomes another: the turn in between is on its way. -/
def become (session : Session α T G S F) (after : Player α T G S F) : Session α T G S F :=
  { session with
    player := after
    inFlight := session.inFlight ++ Turn.between session.isPaused after.stream.isPaused }

variable [Scalar α] [Scheduler F]

/-- The session after the oldest turn on its way arrived. -/
def deliver (session : Session α T G S F) : Session α T G S F :=
  match session.inFlight with
  | [] => session
  | turn :: later =>
    { session with
      inFlight := later
      latest := some ⟨turn, session.player.isSeekDragging⟩ }.become
      (session.player.notify turn.notification)

/-- The session after a frame came, if one was asked for. -/
def frame (session : Session α T G S F) : Session α T G S F :=
  match Scheduler.fire? session.player.ticker.source with
  | some source => session.become { session.player with ticker.source := source }.onFrame
  | none => session

variable [GainStage α G] [PreferenceStore S]

/-- The session after something went on. -/
def step (session : Session α T G S F) : Happening α T → Session α T G S F
  | .command command => session.become (session.player.perform command)
  | .deliver => session.deliver
  | .remark remark => session.become (session.player.notify remark.notification)
  | .drift change =>
    session.become { session.player with
      stream.transport := change session.player.stream.transport }
  | .frame => session.frame

/-- The session after one thing after the other went on. -/
def run (session : Session α T G S F) (happenings : List (Happening α T)) :
    Session α T G S F :=
  happenings.foldl step session

/-- What every happening keeps is kept by a run. -/
theorem run_induction {motive : Session α T G S F → Prop}
    (kept : ∀ session happening, motive session → motive (session.step happening))
    {session : Session α T G S F} (initially : motive session)
    (happenings : List (Happening α T)) : motive (session.run happenings) := by
  induction happenings generalizing session with
  | nil => exact initially
  | cons happening later inductionHypothesis =>
    exact inductionHypothesis (kept session happening initially)

/-! ### What a player heard of its transport -/

section Told

variable {α T G S F : Type} [Transport α T]

/-- The turns on their way lead from what the player heard to what the transport does. -/
def Told (session : Session α T G S F) : Prop :=
  Turn.Lead session.heardPaused session.inFlight session.isPaused

theorem told_start {player : Player α T G S F} (paused : player.stream.isPaused = true) :
    Told (start player) := paused.symm

theorem told_become {session : Session α T G S F} (told : Told session)
    (after : Player α T G S F) : Told (session.become after) :=
  Turn.lead_append_between told after.stream.isPaused

/-- Once every turn arrived, the player knows what its transport does. -/
theorem Told.isPaused_eq {session : Session α T G S F} (told : Told session)
    (arrived : session.inFlight = []) : session.isPaused = session.heardPaused := by
  unfold Told at told
  rw [arrived] at told
  exact Eq.symm told

/-- A turn that arrives is not the one that was heard before it. -/
theorem Told.arriving {session : Session α T G S F} (told : Told session) {turn : Turn}
    {later : List Turn} (onItsWay : session.inFlight = turn :: later) :
    turn = Turn.into (!session.heardPaused) ∧
      Turn.Lead (!session.heardPaused) later session.isPaused := by
  unfold Told at told
  rw [onItsWay] at told
  exact told

variable [Scalar α] [Scheduler F]

theorem told_deliver {session : Session α T G S F} (told : Told session) :
    Told session.deliver := by
  unfold deliver
  split
  · exact told
  · rename_i turn later onItsWay
    obtain ⟨rfl, lead⟩ := told.arriving onItsWay
    refine told_become ?_ _
    show Turn.Lead (Turn.into (!session.heardPaused) == .pause) later session.isPaused
    rw [Turn.into_beq_pause]
    exact lead

end Told

theorem told_step {session : Session α T G S F} (told : Told session)
    (happening : Happening α T) : Told (session.step happening) := by
  cases happening with
  | command command => exact told_become told _
  | deliver => exact told_deliver told
  | remark remark => exact told_become told _
  | drift change => exact told_become told _
  | frame =>
    show Told session.frame
    unfold frame
    split
    · exact told_become told _
    · exact told

end Session

end ReleasePlayer
