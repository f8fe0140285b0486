/-
This file says when the ticker of a player agrees with its transport. The ticker is started by the
notification that the transport plays and stopped by the one that it pauses, and a frame that comes
goes on only while the transport plays. A drag along the seek bar breaks the symmetry: during it the
notification of playing is dropped whole, while the one of pausing still stops the ticker. So once
every turn arrived, the ticker runs exactly while the transport plays, unless the listener was
dragging along the seek bar when the player was told so.
-/

import ReleasePlayer.Proofs.Player.Session
import ReleasePlayer.Proofs.Player.Setup
import ReleasePlayer.Proofs.Player.Step

namespace ReleasePlayer

open InMemory (Frames)

/-! ### What frames and notifications do to the ticker -/

namespace Player

variable {α T G S F : Type} [Scalar α] [Transport α T]

theorem notify_remark_ticker [FrameSource F] (player : Player α T G S F) (remark : Remark) :
    (player.notify remark.notification).ticker = player.ticker := by
  cases remark with
  | timeUpdate => exact (quiet_steps (steps_updateTime player)).ticker
  | progress => exact (quiet_steps (steps_updateBuffered player)).ticker
  | canPlay => rfl
  | error message => rfl

/-- During a drag along the seek bar the notification of playing is dropped. -/
theorem notify_play_of_seek [FrameSource F] (player : Player α T G S F)
    (seeking : player.isSeekDragging = true) : player.notify .play = player := by
  unfold notify
  rw [if_pos seeking]

theorem notify_play_ticker [FrameSource F] (player : Player α T G S F)
    (outsideSeek : player.isSeekDragging = false) :
    (player.notify .play).ticker = player.ticker.start.1 := by
  unfold notify
  rw [if_neg (by rw [outsideSeek]; exact Bool.false_ne_true)]
  rfl

/-- The notification of pausing stops the ticker, whatever the listener is doing. -/
theorem notify_pause_ticker [FrameSource F] (player : Player α T G S F) :
    (player.notify .pause).ticker = player.ticker.stop := by
  unfold notify
  dsimp only
  split <;> rfl

theorem onFrame_ticker [FrameSource F] (player : Player α T G S F) :
    player.onFrame.ticker = (player.ticker.afterFrame (!player.stream.isPaused)).1 := by
  obtain ⟨effects, log, updated⟩ := player.updateTime_eq
  unfold onFrame
  rw [updated]
  rfl

end Player

namespace Session

/-! ### The invariant -/

section Ticking

variable {α T G S : Type} [Transport α T]

/-- The ticker runs only if the player heard of playing outside a drag along the seek bar, and if it
heard so and no turn is on its way, the ticker does run. -/
structure Ticking (session : Session α T G S Frames) : Prop where
  told : Told session
  served : session.player.ticker.Served
  heard : session.player.ticker.isRunning = true → session.latest = some ⟨.play, false⟩
  runs : session.inFlight = [] → session.latest = some ⟨.play, false⟩ →
    session.player.ticker.isRunning = true

theorem ticking_start {player : Player α T G S Frames} (paused : player.stream.isPaused = true)
    (stopped : player.ticker = .ofSource (Frames.fresh false)) : Ticking (start player) where
  told := told_start paused
  served := by
    show player.ticker.Served
    rw [stopped]
    exact Ticker.served_ofSource
  heard running := by
    have idle : player.ticker.isRunning = false := by rw [stopped]; rfl
    exact absurd (idle.symm.trans running) Bool.false_ne_true
  runs _ heard := by cases heard

theorem eq_nil_of_become {session : Session α T G S Frames} {after : Player α T G S Frames}
    (arrived : (session.become after).inFlight = []) : session.inFlight = [] :=
  (List.append_eq_nil_iff.mp arrived).1

theorem ticking_become {session : Session α T G S Frames} (ticking : Ticking session)
    {after : Player α T G S Frames} (ticker : after.ticker = session.player.ticker) :
    Ticking (session.become after) where
  told := told_become ticking.told after
  served := by
    show after.ticker.Served
    rw [ticker]
    exact ticking.served
  heard running := by
    have ran : after.ticker.isRunning = true := running
    rw [ticker] at ran
    exact ticking.heard ran
  runs arrived heard := by
    show after.ticker.isRunning = true
    rw [ticker]
    exact ticking.runs (eq_nil_of_become arrived) heard

variable [Scalar α]

/-- A frame comes only to a running ticker, which was told to run and goes on exactly while the
transport plays. -/
theorem ticking_frame {session : Session α T G S Frames} (ticking : Ticking session) :
    Ticking session.frame := by
  unfold frame
  split
  · rename_i left fired
    obtain ⟨ran, owed⟩ := Ticker.served_fire ticking.served fired
    obtain ⟨served, goesOn⟩ := Ticker.served_afterFrame
      { session.player.ticker with source := left } owed (!session.isPaused)
    have ticker := Player.onFrame_ticker { session.player with ticker.source := left }
    refine ⟨told_become ticking.told _, ?_, fun _ => ticking.heard ran, fun arrived heard => ?_⟩
    · show (Player.onFrame _).ticker.Served
      rw [ticker]
      exact served
    · have playing : session.isPaused = false := by
        rw [ticking.told.isPaused_eq (eq_nil_of_become arrived)]
        unfold heardPaused
        rw [show session.latest = some ⟨.play, false⟩ from heard]
        rfl
      show (Player.onFrame _).ticker.isRunning = true
      rw [ticker]
      refine goesOn.trans ?_
      rw [playing, Bool.not_false]
  · exact ticking

theorem ticking_deliver_play {session : Session α T G S Frames} (ticking : Ticking session)
    {later : List Turn} (onItsWay : session.inFlight = .play :: later) :
    Ticking session.deliver := by
  have told := told_deliver ticking.told
  have unheard : session.heardPaused = true := by
    have arriving := (ticking.told.arriving onItsWay).1
    cases heard : session.heardPaused with
    | false => rw [heard] at arriving; cases arriving
    | true => rfl
  cases seeking : session.player.isSeekDragging with
  | true =>
    -- The turn is dropped, but the ticker cannot be running: turns to playing do not repeat.
    have ignored := session.player.notify_play_of_seek seeking
    have idle : session.player.ticker.isRunning = false := by
      cases running : session.player.ticker.isRunning with
      | false => rfl
      | true =>
        unfold heardPaused at unheard
        rw [ticking.heard running] at unheard
        cases unheard
    unfold deliver at told ⊢
    rw [onItsWay] at told ⊢
    refine ⟨told, ?_, fun running => ?_, fun _ heard => ?_⟩
    · show (session.player.notify .play).ticker.Served
      rw [ignored]
      exact ticking.served
    · have ran : (session.player.notify .play).ticker.isRunning = true := running
      rw [ignored, idle] at ran
      cases ran
    · have heard : some (⟨.play, session.player.isSeekDragging⟩ : Delivery) =
        some ⟨.play, false⟩ := heard
      rw [seeking] at heard
      cases heard
  | false =>
    have started := session.player.notify_play_ticker seeking
    obtain ⟨served, running⟩ := Ticker.served_start ticking.served
    rw [← started] at served running
    unfold deliver at told ⊢
    rw [onItsWay] at told ⊢
    refine ⟨told, served, fun _ => ?_, fun _ _ => running⟩
    show some (⟨.play, session.player.isSeekDragging⟩ : Delivery) = some ⟨.play, false⟩
    rw [seeking]

theorem ticking_deliver_pause {session : Session α T G S Frames} (ticking : Ticking session)
    {later : List Turn} (onItsWay : session.inFlight = .pause :: later) :
    Ticking session.deliver := by
  have told := told_deliver ticking.told
  have stopped := session.player.notify_pause_ticker
  unfold deliver at told ⊢
  rw [onItsWay] at told ⊢
  refine ⟨told, ?_, fun running => ?_, fun _ heard => by cases heard⟩
  · show (session.player.notify .pause).ticker.Served
    rw [stopped]
    exact Ticker.served_stop ticking.served
  · have ran : (session.player.notify .pause).ticker.isRunning = true := running
    rw [stopped, Ticker.isRunning_stop] at ran
    cases ran

theorem ticking_deliver {session : Session α T G S Frames} (ticking : Ticking session) :
    Ticking session.deliver := by
  cases onItsWay : session.inFlight with
  | nil =>
    unfold deliver
    rw [onItsWay]
    exact ticking
  | cons turn later =>
    cases turn with
    | play => exact ticking_deliver_play ticking onItsWay
    | pause => exact ticking_deliver_pause ticking onItsWay

variable [GainStage α G] [PreferenceStore S]

theorem ticking_step {session : Session α T G S Frames} (ticking : Ticking session)
    (happening : Happening α T) : Ticking (session.step happening) := by
  cases happening with
  | command command =>
    exact ticking_become ticking (Player.quiet_perform session.player command).ticker
  | deliver => exact ticking_deliver ticking
  | remark remark =>
    exact ticking_become ticking (Player.notify_remark_ticker session.player remark)
  | drift change => exact ticking_become ticking rfl
  | frame => exact ticking_frame ticking

end Ticking

/-! ### When the ticker agrees with the transport -/

/-- Once every turn arrived, the ticker runs exactly if the transport plays and the player was not
told so during a drag along the seek bar. -/
theorem ticker_isRunning_iff {α T G S : Type} [Scalar α] [Transport α T] [GainStage α G]
    [PreferenceStore S] {config : Config α} {transport : T} {output : G} {store : S}
    {player : Player α T G S Frames}
    (setUp : Player.new config transport output store (Frames.fresh false) = .ok player)
    (paused : Transport.isPaused transport = true) (happenings : List (Happening α T))
    (arrived : ((start player).run happenings).inFlight = []) :
    ((start player).run happenings).player.ticker.isRunning = true ↔
      ((start player).run happenings).isPaused = false ∧
        ((start player).run happenings).latest ≠ some ⟨.play, true⟩ := by
  have isNew := Player.isNew_of_new setUp
  have atRest : player.stream.isPaused = true := by
    rw [isNew.stream]
    exact paused
  have ticking : Ticking ((start player).run happenings) :=
    run_induction (motive := Ticking) (fun _ happening ticking => ticking_step ticking happening)
      (ticking_start atRest isNew.ticker) happenings
  have heard := ticking.told.isPaused_eq arrived
  constructor
  · intro running
    have latest := ticking.heard running
    rw [heard]
    unfold heardPaused
    rw [latest]
    exact ⟨rfl, by decide⟩
  · rintro ⟨playing, outsideSeek⟩
    rw [heard] at playing
    refine ticking.runs arrived ?_
    unfold heardPaused at playing
    cases latest : ((start player).run happenings).latest with
    | none => rw [latest] at playing; cases playing
    | some delivery =>
      obtain ⟨turn, duringSeek⟩ := delivery
      cases turn with
      | pause => rw [latest] at playing; cases playing
      | play =>
        cases duringSeek with
        | false => rfl
        | true => exact absurd latest outsideSeek

/-- The listener presses the play button and the player is told; then a frame comes. -/
theorem ticker_isRunning_after_play :
    ∃ player, TwoTracks.setUp = .ok player ∧
      let happenings : List (Happening Float (InMemory.Deck Float)) :=
        [.command (.attach (some ⟨"opus", "audio/ogg"⟩) TwoTracks.endpoint),
          .command .togglePlay, .deliver, .frame]
      ((start player).run happenings).inFlight = [] ∧
        (((start player).run happenings).player.ticker.isRunning = true ↔
          ((start player).run happenings).isPaused = false ∧
            ((start player).run happenings).latest ≠ some ⟨.play, true⟩) := by
  obtain ⟨player, setUp, passed⟩ := TwoTracks.exists_player (fun player =>
    ((start player).run [.command (.attach (some ⟨"opus", "audio/ogg"⟩) TwoTracks.endpoint),
      .command .togglePlay, .deliver, .frame]).inFlight == []) (by decide +kernel)
  have arrived := eq_of_beq passed
  exact ⟨player, setUp, arrived, ticker_isRunning_iff setUp rfl _ arrived⟩

/-- The listener holds the seek bar and presses the play button. The player is told during the drag,
and when the drag ends the transport plays on while the ticker stands still. -/
theorem ticker_idle_after_play_during_seek :
    ∃ player, TwoTracks.setUp = .ok player ∧
      let session := (start player).run
        [.command (.attach (some ⟨"opus", "audio/ogg"⟩) TwoTracks.endpoint),
          .command (.seekDown TwoTracks.bar 50.0), .command .togglePlay, .deliver, .command .up]
      session.player.stream.hasSource = true ∧ session.inFlight = [] ∧
        session.player.drag = none ∧ session.isPaused = false ∧
        session.player.ticker.isRunning = false := by
  obtain ⟨player, setUp, passed⟩ := TwoTracks.exists_player (fun player =>
    let session := (start player).run
      [.command (.attach (some ⟨"opus", "audio/ogg"⟩) TwoTracks.endpoint),
        .command (.seekDown TwoTracks.bar 50.0), .command .togglePlay, .deliver, .command .up]
    session.player.stream.hasSource && session.inFlight == [] && session.player.drag.isNone &&
      !session.isPaused && !session.player.ticker.isRunning) (by decide +kernel)
  simp only [Bool.and_eq_true, Bool.not_eq_true', Option.isNone_iff_eq_none, beq_iff_eq] at passed
  obtain ⟨⟨⟨⟨attached, arrived⟩, released⟩, playing⟩, idle⟩ := passed
  exact ⟨player, setUp, attached, arrived, released, playing, idle⟩

end Session

end ReleasePlayer
