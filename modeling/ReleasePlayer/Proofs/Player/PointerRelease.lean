/-
This file says what is left of the presses of a pointer when the pointer is released. A player
remembers one drag only, so a press takes the place of the one before it if the pointer was not released
in between. A release always ends the drag and closes the drop-down of the volume. Pressing the seek bar
pauses the stream, and the release starts it again if the seek bar was what was pressed last; a press
on the volume bar in between makes the player forget about that, and the stream stays paused.
-/

import ReleasePlayer.Proofs.Player.CurrentTrack

namespace ReleasePlayer

/-! ### Transports that can be started -/

/-- The transports that are picked out start whenever they are asked to, pause, and are neither started
nor paused by being moved. -/
structure Transport.Obliging {α T : Type} [Transport α T] (accepts : T → Prop) : Prop where
  play {transport : T} : accepts transport → ∃ played,
    Transport.play transport = .ok played ∧ Transport.isPaused played = false ∧ accepts played
  pause {transport : T} : accepts transport →
    Transport.isPaused (Transport.pause transport).1 = true ∧ accepts (Transport.pause transport).1
  moveTo {transport moved : T} {time : α} : accepts transport →
    Transport.moveTo transport time = some moved →
      Transport.isPaused moved = Transport.isPaused transport ∧ accepts moved

theorem InMemory.Deck.obliging {α : Type} [Scalar α] :
    Transport.Obliging fun deck : InMemory.Deck α => deck.source.isSome = true where
  play loaded := ⟨_, if_pos loaded, rfl, loaded⟩
  pause loaded := ⟨rfl, loaded⟩
  moveTo loaded landed := by
    obtain ⟨position, rfl⟩ := eq_of_moveTo landed
    exact ⟨rfl, loaded⟩

namespace Stream

variable {α T : Type} [Transport α T] {accepts : T → Prop} {stream : Stream T}

/-- A stream that has a source and can be started. -/
structure Ready (accepts : T → Prop) (stream : Stream T) : Prop where
  attached : stream.hasSource = true
  accepting : accepts stream.transport

theorem Ready.play (obliging : Transport.Obliging accepts) (ready : Ready accepts stream) :
    ∃ played, stream.play = .ok played ∧ played.isPaused = false ∧ Ready accepts played := by
  obtain ⟨played, started, playing, accepting⟩ := obliging.play ready.accepting
  have attached : ¬ stream.source.isNone = true := by
    have attached := ready.attached
    unfold hasSource at attached
    rw [Option.isNone_iff_eq_none]
    exact Option.isSome_iff_ne_none.mp attached
  refine ⟨{ stream with transport := played }, ?_, playing, ready.attached, accepting⟩
  unfold Stream.play
  rw [if_neg attached, started]

theorem Ready.pause (obliging : Transport.Obliging accepts) (ready : Ready accepts stream) :
    stream.pause.1.isPaused = true ∧ Ready accepts stream.pause.1 := by
  obtain ⟨paused, accepting⟩ := obliging.pause ready.accepting
  exact ⟨paused, ready.attached, accepting⟩

/-- Moving a stream neither starts nor pauses it. -/
theorem Ready.seek [Scalar α] (obliging : Transport.Obliging accepts) (ready : Ready accepts stream)
    (time : α) : (stream.seek time).1.isPaused = stream.isPaused ∧
      Ready accepts (stream.seek time).1 := by
  unfold Stream.seek
  split
  · unfold Stream.moveTo
    split
    · rename_i moved landed
      obtain ⟨target, -, landed⟩ := Option.bind_eq_some_iff.mp landed
      obtain ⟨still, accepting⟩ := obliging.moveTo ready.accepting landed
      exact ⟨still, ready.attached, accepting⟩
    · exact ⟨rfl, ready.attached, ready.accepting⟩
  · exact ⟨rfl, ready⟩

end Stream

/-! ### What a pointer does -/

inductive PointerAct (α : Type) where
  | seekDown (bar : Bar α) (x : α)
  | volumeDown (bar : Bar α) (x y : α)
  | move (x y : α)
  | up

/-- The bar that a pointer was pressed on. -/
inductive Press where
  | seek
  | volume
deriving DecidableEq, Repr

namespace PointerAct

variable {α : Type}

def command : PointerAct α → Command α
  | seekDown bar x => .seekDown bar x
  | volumeDown bar x y => .volumeDown bar x y
  | move x y => .move x y
  | up => .up

/-- The presses that were not released yet, the last one first. -/
def pressesAfter (presses : List Press) : PointerAct α → List Press
  | seekDown _ _ => .seek :: presses
  | volumeDown _ _ _ => .volume :: presses
  | move _ _ => presses
  | up => []

/-- The presses since the last release. -/
def presses (acts : List (PointerAct α)) : List Press := acts.foldl pressesAfter []

end PointerAct

namespace Player

variable {α T G S F : Type} [Scalar α] [Transport α T] [GainStage α G] [PreferenceStore S]
  {accepts : T → Prop} {player : Player α T G S F} {presses : List Press}

/-- The player after one act of the pointer after the other. -/
def point (player : Player α T G S F) (acts : List (PointerAct α)) : Player α T G S F :=
  (acts.map PointerAct.command).foldl perform player

/-- The invariant: the player remembers the last press that was not released, and its stream is paused
as long as there is one on the seek bar. -/
structure Holds (accepts : T → Prop) (presses : List Press) (player : Player α T G S F) : Prop where
  ready : player.stream.Ready accepts
  remembers : ∀ press ∈ presses.head?, player.isSeekDragging = (press == .seek)
  paused : Press.seek ∈ presses → player.stream.isPaused = true

omit [GainStage α G] [PreferenceStore S] in
theorem Holds.dragSeek (obliging : Transport.Obliging accepts) (holds : Holds accepts presses player)
    (bar : Bar α) (x : α) : Holds accepts presses (player.dragSeek bar x) := by
  obtain ⟨still, ready⟩ :=
    holds.ready.seek obliging (player.currentTrack.timeAt (bar.across x))
  have stream : (player.dragSeek bar x).stream =
      (player.stream.seek (player.currentTrack.timeAt (bar.across x))).1 := stream_updateTime _
  have drag : (player.dragSeek bar x).isSeekDragging = player.isSeekDragging := by
    obtain ⟨effects, log, updated⟩ :=
      (player.seek (player.currentTrack.timeAt (bar.across x))).updateTime_eq
    unfold Player.dragSeek
    rw [updated]
    rfl
  refine ⟨?_, ?_, ?_⟩
  · rw [stream]
    exact ready
  · rw [drag]
    exact holds.remembers
  · rw [stream, still]
    exact holds.paused

omit [Scalar α] [GainStage α G] [PreferenceStore S] in
/-- A release starts the stream if the player remembers a press on the seek bar, and otherwise leaves it
as it is. -/
theorem Holds.pointerUp (obliging : Transport.Obliging accepts)
    (holds : Holds accepts presses player) : player.pointerUp.stream.Ready accepts ∧
      player.pointerUp.stream.isPaused = (!player.isSeekDragging && player.stream.isPaused) := by
  unfold Player.pointerUp
  dsimp only
  cases player.isSeekDragging with
  | true =>
    obtain ⟨played, started, playing, ready⟩ := holds.ready.play obliging
    unfold startStream
    rw [started]
    exact ⟨ready, playing⟩
  | false => exact ⟨holds.ready, rfl⟩

/-- Whatever the pointer does, the invariant goes along. -/
theorem Holds.act (obliging : Transport.Obliging accepts) (holds : Holds accepts presses player)
    (act : PointerAct α) :
    Holds accepts (act.pressesAfter presses) (player.perform act.command) := by
  cases act with
  | seekDown bar x =>
    obtain ⟨paused, ready⟩ := holds.ready.pause obliging
    have pressed : Holds accepts (.seek :: presses)
        { player.pauseStream with drag := some (.seek bar) } :=
      ⟨ready, by rintro press ⟨⟩; rfl, fun _ => paused⟩
    exact pressed.dragSeek obliging bar x
  | volumeDown bar x y =>
    refine ⟨holds.ready, by rintro press ⟨⟩; rfl, fun member => ?_⟩
    exact holds.paused ((List.mem_cons.mp member).resolve_left (by decide))
  | move x y =>
    show Holds accepts presses (player.pointerMove x y)
    unfold pointerMove
    split
    · exact holds.dragSeek obliging _ x
    · exact ⟨holds.ready, holds.remembers, holds.paused⟩
    · exact holds
  | up =>
    exact ⟨(holds.pointerUp obliging).1, by rintro press ⟨⟩,
      fun member => absurd member List.not_mem_nil⟩

theorem Holds.point (obliging : Transport.Obliging accepts) (holds : Holds accepts presses player)
    (acts : List (PointerAct α)) :
    Holds accepts (acts.foldl PointerAct.pressesAfter presses) (player.point acts) := by
  induction acts generalizing player presses with
  | nil => exact holds
  | cons act later inductionHypothesis => exact inductionHypothesis (holds.act obliging act)

end Player

/-- Whether the drop-down of the volume is asked to be open. -/
def Effect.dropOpen? {α : Type} : Effect α → Option Bool
  | .setVolumeDropOpen isOpen => some isOpen
  | _ => none

namespace Player

variable {α T G S F : Type} [Scalar α] [Transport α T] [GainStage α G] [PreferenceStore S]
  {accepts : T → Prop} {player : Player α T G S F}

/-- Whatever the pointer did before, a release ends the drag and closes the drop-down. If the seek bar
was pressed since the release before that, the stream plays again just if it was the bar that was
pressed last. -/
theorem pointerUp_resumes_iff (obliging : Transport.Obliging accepts)
    (attached : player.stream.hasSource = true) (accepting : accepts player.stream.transport)
    (acts : List (PointerAct α)) :
    let ended := (player.point acts).pointerUp
    ended.drag = none ∧ Effect.latest Effect.dropOpen? ended.effects = some false ∧
      (Press.seek ∈ PointerAct.presses acts →
        (ended.stream.isPaused = false ↔ (PointerAct.presses acts).head? = some .seek)) := by
  intro ended
  have initially : Holds accepts [] player :=
    ⟨⟨attached, accepting⟩, by rintro press ⟨⟩, fun member => absurd member List.not_mem_nil⟩
  have holds : Holds accepts (PointerAct.presses acts) (player.point acts) :=
    initially.point obliging acts
  have paused := (holds.pointerUp obliging).2
  refine ⟨?_, ?_, fun member => ?_⟩
  · show (player.point acts).pointerUp.drag = none
    unfold pointerUp startStream
    dsimp only
    split
    · split <;> rfl
    · rfl
  · show Effect.latest Effect.dropOpen? (_ ++ [.setVolumeDropOpen false]) = some false
    unfold Effect.latest
    rw [List.filterMap_append]
    exact List.getLast?_concat
  · -- there is a last press, and by the invariant the player remembers which bar it was on
    obtain ⟨press, last⟩ := Option.ne_none_iff_exists'.mp
      (mt List.head?_eq_none_iff.mp (List.ne_nil_of_mem member))
    show (player.point acts).pointerUp.stream.isPaused = false ↔ _
    rw [paused, holds.remembers press last, holds.paused member, last]
    cases press <;> decide

end Player

/-! ### Two presses before a release -/

namespace TwoTracks

open InMemory Player

/-- The stream is attached and plays. -/
def playing : List (Command Float) :=
  [.attach (some ⟨"opus", "audio/ogg"⟩) endpoint, .togglePlay]

/-- The pointer is pressed on the volume bar, and then on the seek bar and moved along. -/
def seekLast : List (PointerAct Float) :=
  [.volumeDown bar 50.0 5.0, .seekDown bar 25.0, .move 50.0 5.0]

/-- The pointer is pressed on the seek bar, and then on the volume bar. -/
def volumeLast : List (PointerAct Float) :=
  [.seekDown bar 25.0, .volumeDown bar 50.0 5.0]

theorem pointerUp_resumes_after_seek :
    ∃ player, setUp = .ok player ∧
      let ready := playing.foldl perform player
      ready.stream.hasSource = true ∧ ready.stream.transport.source.isSome = true ∧
        Press.seek ∈ PointerAct.presses seekLast ∧
        (ready.point seekLast).stream.isPaused = true ∧
        (ready.point seekLast).pointerUp.drag = none ∧
        (ready.point seekLast).pointerUp.stream.isPaused = false := by
  obtain ⟨player, made, checked⟩ := exists_player (fun player =>
    decide ((playing.foldl perform player).stream.hasSource = true ∧
      (playing.foldl perform player).stream.transport.source.isSome = true ∧
      ((playing.foldl perform player).point seekLast).stream.isPaused = true)) (by decide +kernel)
  obtain ⟨attached, accepting, paused⟩ := of_decide_eq_true checked
  have pressed : Press.seek ∈ PointerAct.presses seekLast := List.mem_cons_self
  obtain ⟨drag, -, resumes⟩ :=
    pointerUp_resumes_iff Deck.obliging attached accepting seekLast
  exact ⟨player, made, attached, accepting, pressed, paused, drag, (resumes pressed).mpr rfl⟩

/-- The stream played before the seek bar was pressed, and is paused after the release. -/
theorem pointerUp_forgets_seek :
    ∃ player, setUp = .ok player ∧
      let ready := playing.foldl perform player
      ready.stream.hasSource = true ∧ ready.stream.isPaused = false ∧
        Press.seek ∈ PointerAct.presses volumeLast ∧
        (ready.point volumeLast).pointerUp.drag = none ∧
        (ready.point volumeLast).pointerUp.stream.isPaused = true := by
  obtain ⟨player, made, checked⟩ := exists_player (fun player =>
    decide ((playing.foldl perform player).stream.hasSource = true ∧
      (playing.foldl perform player).stream.isPaused = false ∧
      Press.seek ∈ PointerAct.presses volumeLast ∧
      ((playing.foldl perform player).point volumeLast).pointerUp.drag = none ∧
      ((playing.foldl perform player).point volumeLast).pointerUp.stream.isPaused = true))
    (by decide +kernel)
  exact ⟨player, made, of_decide_eq_true checked⟩

end TwoTracks

end ReleasePlayer
