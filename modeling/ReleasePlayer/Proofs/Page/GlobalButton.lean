/-
This file follows the player's own button through a session. The page drains the effects of every
handler and starts the swaps among them; a swap that the button cannot start is dropped for good.
Hence the button tells the last turn that it took, not the last one that happened, and what is proved
here is exactly that: once everything settled, the button agrees with the transport just if the last
turn it took is of the kind of the last turn that the player was told. A turn that arrives while the
button still loads, or while it is in transition, or during a drag along the seek bar, is not taken.
-/

import ReleasePlayer.Proofs.Page.Button
import ReleasePlayer.Proofs.Player.Session
import ReleasePlayer.Proofs.Player.Setup
import ReleasePlayer.Proofs.Player.Step

namespace ReleasePlayer

open Page (Button ClassSwap)

/-! ### What turns ask of buttons -/

/-- The swap that a turn asks of the buttons. -/
def Turn.swap : Turn → ClassSwap
  | play => (.play, .pause)
  | pause => (.pause, .play)

theorem Turn.swap_snd (turn : Turn) : turn.swap.2 = turn.swap.1.next := by
  cases turn <;> rfl

/-- What the button shows after a turn; without one, that the transport is paused. -/
def Turn.shown : Option Turn → ControlClass
  | some turn => turn.swap.2
  | none => .play

theorem Turn.shown_eq (taken : Option Turn) :
    shown taken = if taken = some .play then .pause else .play := by
  rcases taken with _ | _ | _ <;> rfl

/-! ### What the button tells -/

namespace Page.Button

/-- A button is going to show the last turn that it took, or it still loads. While it shows that it
loads it took no turn. -/
def Reflects (button : Button) (isReady : Bool) (taken : Option Turn) : Prop :=
  ∃ shown aim, button.Going shown aim ∧ (shown = .loading → taken = none) ∧
    (isReady = false ∧ aim = .loading ∨ aim = Turn.shown taken)

variable {button : Button} {isReady : Bool} {taken : Option Turn}

theorem reflects_showing : Reflects (showing .loading) false none :=
  ⟨.loading, .loading, going_showing .loading, fun _ => rfl, Or.inl ⟨rfl, rfl⟩⟩

/-- The stream can start to play: the button stops loading, unless it did before. -/
theorem Reflects.ask_ready (reflects : Reflects button isReady taken) :
    Reflects (button.ask (.loading, .play)) true taken := by
  obtain ⟨shown, aim, going, idle, aimed⟩ := reflects
  by_cases loading : shown = .loading
  · subst loading
    refine ⟨.loading, .play, going.ask_shown, idle, Or.inr ?_⟩
    rw [idle rfl]
    rfl
  · have dropped : button.ask (.loading, .play) = button := going.ask_other (Ne.symm loading)
    rw [dropped]
    refine ⟨shown, aim, going, idle, Or.inr ?_⟩
    rcases aimed with ⟨-, stillLoading⟩ | aimed
    · rcases going.aim_eq with same | next
      · exact absurd (same.symm.trans stillLoading) loading
      · exact absurd (next.symm.trans stillLoading) shown.next_ne_loading
    · exact aimed

/-- The button takes a turn just if it has the class that the turn leaves. -/
theorem Reflects.ask_turn (reflects : Reflects button isReady taken) (turn : Turn) :
    Reflects (button.ask turn.swap) isReady
      (if button.classes.contains turn.swap.1.name then some turn else taken) := by
  obtain ⟨shown, aim, going, idle, aimed⟩ := reflects
  rw [going.contains]
  by_cases left : turn.swap.1 = shown
  · rw [if_pos (decide_eq_true left)]
    have swap : turn.swap = (shown, shown.next) := by
      rw [← left, ← turn.swap_snd]
    have asked := going.ask_shown
    rw [← swap] at asked
    refine ⟨shown, shown.next, asked, fun loading => ?_, Or.inr ?_⟩
    · cases turn <;> cases left.trans loading
    · rw [← left, ← turn.swap_snd]
      rfl
  · rw [going.ask_other left, decide_eq_false left]
    exact ⟨shown, aim, going, idle, aimed⟩

theorem Reflects.expire (reflects : Reflects button isReady taken) :
    Reflects button.expire isReady taken := by
  obtain ⟨shown, aim, going, idle, aimed⟩ := reflects
  obtain ⟨later, moved, going⟩ := going.expire
  refine ⟨later, aim, going, fun loading => ?_, aimed⟩
  rcases moved with rfl | rfl
  · exact idle loading
  · exact absurd loading shown.next_ne_loading

/-- A button that nothing is pending for shows the last turn that it took. -/
theorem Reflects.classes_eq (reflects : Reflects button true taken) (settled : button.pending = []) :
    button.classes = [(Turn.shown taken).name] := by
  obtain ⟨shown, aim, going, -, aimed⟩ := reflects
  rcases aimed with ⟨unready, -⟩ | rfl
  · cases unready
  · exact going.classes_eq settled

end Page.Button

/-! ### What the player asks of the button -/

namespace Player

variable {α T G S F : Type} [Scalar α] [Transport α T] [FrameSource F]

theorem swapsOf_notify_turn (player : Player α T G S F) (turn : Turn) :
    Effect.swapsOf .global (player.notify turn.notification).effects =
      Effect.swapsOf .global player.effects ++
        if player.isSeekDragging then [] else [turn.swap] := by
  cases turn with
  | play =>
    show Effect.swapsOf .global (if player.isSeekDragging then player
      else (player.swapControls .play .pause).startTicker).effects = _
    split
    · rw [List.append_nil]
    · exact Effect.swapsOf_append .global player.effects _
  | pause =>
    show Effect.swapsOf .global (if player.isSeekDragging then
      { player with ticker := player.ticker.stop }
      else ({ player with ticker := player.ticker.stop } : Player α T G S F).swapControls
        .pause .play).effects = _
    split
    · rw [List.append_nil]
    · exact Effect.swapsOf_append .global player.effects _

theorem swapsOf_notify_remark (player : Player α T G S F) (remark : Remark) :
    Effect.swapsOf .global (player.notify remark.notification).effects =
      Effect.swapsOf .global player.effects ++
        if remark = .canPlay then [(.loading, .play)] else [] := by
  cases remark with
  | timeUpdate =>
    rw [if_neg (by decide), List.append_nil]
    exact (quiet_steps (steps_updateTime player)).swaps
  | progress =>
    rw [if_neg (by decide), List.append_nil]
    exact (quiet_steps (steps_updateBuffered player)).swaps
  | canPlay => exact Effect.swapsOf_append .global player.effects _
  | error message =>
    rw [if_neg (fun same => by cases same), List.append_nil]
    rfl

theorem swapsOf_onFrame (player : Player α T G S F) :
    Effect.swapsOf .global player.onFrame.effects = Effect.swapsOf .global player.effects :=
  (quiet_steps (steps_updateTime player)).swaps

end Player

namespace Session

variable {α T G S F : Type} [Scalar α] [Transport α T] [Scheduler F]

/-- The swap that the oldest turn on its way asks of the buttons. A drag along the seek bar keeps it
from them. -/
def turnSwaps (session : Session α T G S F) : List ClassSwap :=
  match session.inFlight with
  | [] => []
  | turn :: _ => if session.player.isSeekDragging then [] else [turn.swap]

/-- The swaps that something asks of the player's own button. -/
def asks (session : Session α T G S F) : Happening α T → List ClassSwap
  | .command _ => []
  | .deliver => session.turnSwaps
  | .remark remark => if remark = .canPlay then [(.loading, .play)] else []
  | .drift _ => []
  | .frame => []

theorem swapsOf_deliver (session : Session α T G S F) :
    Effect.swapsOf .global session.deliver.player.effects =
      Effect.swapsOf .global session.player.effects ++ session.turnSwaps := by
  unfold deliver turnSwaps
  cases session.inFlight with
  | nil => exact (List.append_nil _).symm
  | cons turn later => exact Player.swapsOf_notify_turn session.player turn

theorem swapsOf_frame (session : Session α T G S F) :
    Effect.swapsOf .global session.frame.player.effects =
      Effect.swapsOf .global session.player.effects := by
  unfold frame
  split
  · exact Player.swapsOf_onFrame _
  · rfl

theorem swapsOf_step [GainStage α G] [PreferenceStore S] (session : Session α T G S F)
    (happening : Happening α T) :
    Effect.swapsOf .global (session.step happening).player.effects =
      Effect.swapsOf .global session.player.effects ++ session.asks happening := by
  cases happening with
  | command command =>
    refine Eq.trans ?_ (List.append_nil _).symm
    exact (Player.quiet_perform session.player command).swaps
  | deliver => exact swapsOf_deliver session
  | remark remark => exact Player.swapsOf_notify_remark session.player remark
  | drift change => exact (List.append_nil _).symm
  | frame => exact (swapsOf_frame session).trans (List.append_nil _).symm

end Session

/-! ### Players on a page -/

/-- Something that goes on around a player on a page. -/
inductive PageEvent (α T : Type) where
  | happening (happening : Happening α T)
  /-- The oldest swap of the player's own button ends. -/
  | swapEnds

/-- A player on a page with its own button. -/
structure Mounted (α T G S F : Type) where
  session : Session α T G S F
  button : Button
  /-- Whether the player was told that the stream can start to play. -/
  isReady : Bool
  /-- The last turn that the button took. -/
  taken : Option Turn

namespace Mounted

variable {α T G S F : Type}

/-- A player whose button still loads. -/
def start (player : Player α T G S F) : Mounted α T G S F :=
  ⟨.start player, .showing .loading, false, none⟩

/-- The turn that the button takes when the oldest one on its way arrives, if it takes it. -/
def takes? (mounted : Mounted α T G S F) : Option Turn :=
  match mounted.session.inFlight with
  | [] => none
  | turn :: _ =>
    if mounted.session.player.isSeekDragging then none
    else if mounted.button.classes.contains turn.swap.1.name then some turn
    else none

variable [Scalar α] [Transport α T] [GainStage α G] [PreferenceStore S] [Scheduler F]

/-- The player on its page after something went on. The effects are drained at once. -/
def happen (mounted : Mounted α T G S F) (happening : Happening α T) : Mounted α T G S F :=
  let session := mounted.session.step happening
  let (effects, player) := session.player.drainEffects
  { session := { session with player }
    button := mounted.button.askAll (Effect.swapsOf .global effects)
    isReady := match happening with
      | .remark .canPlay => true
      | _ => mounted.isReady
    taken := match happening with
      | .deliver => mounted.takes?.or mounted.taken
      | _ => mounted.taken }

/-- The player on its page after an event. -/
def step (mounted : Mounted α T G S F) : PageEvent α T → Mounted α T G S F
  | .happening happening => mounted.happen happening
  | .swapEnds => { mounted with button := mounted.button.expire }

/-- The player on its page after one event after the other. -/
def run (mounted : Mounted α T G S F) (events : List (PageEvent α T)) : Mounted α T G S F :=
  events.foldl step mounted

/-- Whether the button tells what the transport does: that it can be paused while it plays, and that
it can be played while it is paused. -/
def Agrees (mounted : Mounted α T G S F) : Prop :=
  (if mounted.session.isPaused then ControlClass.play else .pause).name ∈ mounted.button.classes

instance (mounted : Mounted α T G S F) : Decidable mounted.Agrees :=
  inferInstanceAs (Decidable (_ ∈ _))

/-- The invariant: turns lead to what the transport does, effects are drained, and the button tells
the last turn that it took. -/
structure Faithful (mounted : Mounted α T G S F) : Prop where
  told : mounted.session.Told
  drained : mounted.session.player.effects = []
  reflects : mounted.button.Reflects mounted.isReady mounted.taken

omit [Scalar α] [GainStage α G] [PreferenceStore S] [Scheduler F] in
theorem faithful_start {player : Player α T G S F} (paused : player.stream.isPaused = true)
    (drained : player.effects = []) : Faithful (start player) :=
  ⟨Session.told_start paused, drained, Button.reflects_showing⟩

/-- Whatever goes on, the button is asked what the session asks of it. -/
theorem happen_button {mounted : Mounted α T G S F} (drained : mounted.session.player.effects = [])
    (happening : Happening α T) :
    (mounted.happen happening).button = mounted.button.askAll (mounted.session.asks happening) := by
  show mounted.button.askAll
    (Effect.swapsOf .global (mounted.session.step happening).player.effects) = _
  rw [Session.swapsOf_step, drained, Effect.swapsOf_nil, List.nil_append]

omit [Scalar α] [GainStage α G] [PreferenceStore S] [Scheduler F] in
theorem reflects_deliver {mounted : Mounted α T G S F} (faithful : Faithful mounted) :
    (mounted.button.askAll mounted.session.turnSwaps).Reflects mounted.isReady
      (mounted.takes?.or mounted.taken) := by
  unfold Session.turnSwaps takes?
  cases mounted.session.inFlight with
  | nil => exact faithful.reflects
  | cons turn later =>
    dsimp only
    split
    · exact faithful.reflects
    · have taken := faithful.reflects.ask_turn turn
      split <;> rename_i has
      · rw [if_pos has] at taken
        exact taken
      · rw [if_neg has] at taken
        exact taken

theorem reflects_happen {mounted : Mounted α T G S F} (faithful : Faithful mounted)
    (happening : Happening α T) :
    (mounted.happen happening).button.Reflects (mounted.happen happening).isReady
      (mounted.happen happening).taken := by
  rw [happen_button faithful.drained]
  cases happening with
  | command command => exact faithful.reflects
  | deliver => exact reflects_deliver faithful
  | remark remark =>
    cases remark with
    | timeUpdate => exact faithful.reflects
    | progress => exact faithful.reflects
    | canPlay => exact faithful.reflects.ask_ready
    | error message => exact faithful.reflects
  | drift change => exact faithful.reflects
  | frame => exact faithful.reflects

theorem faithful_step {mounted : Mounted α T G S F} (faithful : Faithful mounted)
    (event : PageEvent α T) : Faithful (mounted.step event) := by
  cases event with
  | happening happening =>
    exact ⟨Session.told_step faithful.told happening, rfl, reflects_happen faithful happening⟩
  | swapEnds => exact ⟨faithful.told, faithful.drained, faithful.reflects.expire⟩

theorem faithful_run {mounted : Mounted α T G S F} (faithful : Faithful mounted)
    (events : List (PageEvent α T)) : Faithful (mounted.run events) := by
  induction events generalizing mounted with
  | nil => exact faithful
  | cons event later inductionHypothesis =>
    exact inductionHypothesis (faithful_step faithful event)

/-- Once everything settled, the button shows the last turn that it took, and it agrees with the
transport just if that turn is of the kind of the last one that the player was told. -/
theorem globalButton_agrees_iff {config : Config α} {transport : T} {output : G} {store : S}
    {frames : F} {player : Player α T G S F}
    (setUp : Player.new config transport output store frames = .ok player)
    (paused : Transport.isPaused transport = true) (events : List (PageEvent α T))
    (ready : ((start player).run events).isReady = true)
    (arrived : ((start player).run events).session.inFlight = [])
    (settled : ((start player).run events).button.pending = []) :
    ((start player).run events).button.classes =
        [(Turn.shown ((start player).run events).taken).name] ∧
      (((start player).run events).Agrees ↔
        (((start player).run events).taken = some .play ↔
          ((start player).run events).session.latest.map Delivery.turn = some .play)) := by
  have isNew := Player.isNew_of_new setUp
  have atRest : player.stream.isPaused = true := by
    rw [isNew.stream]
    exact paused
  have faithful := faithful_run (faithful_start atRest isNew.effects) events
  have heard := faithful.told.isPaused_eq arrived
  have reflects := faithful.reflects
  rw [ready] at reflects
  have classes := reflects.classes_eq settled
  refine ⟨classes, ?_⟩
  unfold Agrees
  rw [classes, List.mem_singleton, heard, Session.heardPaused_eq, Turn.shown_eq]
  by_cases toldPlay : ((start player).run events).session.latest.map Delivery.turn = some .play <;>
    by_cases tookPlay : ((start player).run events).taken = some .play <;>
    simp [toldPlay, tookPlay, ControlClass.name]

/-- The stream can start to play before the listener presses the play button: the button takes every
turn and agrees. -/
theorem globalButton_agrees_after_ready :
    ∃ player, TwoTracks.setUp = .ok player ∧
      let mounted := (start player).run
        [.happening (.command (.attach (some ⟨"opus", "audio/ogg"⟩) TwoTracks.endpoint)),
          .happening (.remark .canPlay), .swapEnds, .happening (.command .togglePlay),
          .happening .deliver, .swapEnds]
      (mounted.isReady = true ∧ mounted.session.inFlight = [] ∧ mounted.button.pending = []) ∧
        mounted.button.classes = [(Turn.shown mounted.taken).name] ∧
        (mounted.Agrees ↔ (mounted.taken = some .play ↔
          mounted.session.latest.map Delivery.turn = some .play)) := by
  obtain ⟨player, setUp, passed⟩ := TwoTracks.exists_player (fun player =>
    let mounted := (start player).run
      [.happening (.command (.attach (some ⟨"opus", "audio/ogg"⟩) TwoTracks.endpoint)),
        .happening (.remark .canPlay), .swapEnds, .happening (.command .togglePlay),
        .happening .deliver, .swapEnds]
    decide (mounted.isReady = true ∧ mounted.session.inFlight = [] ∧ mounted.button.pending = []))
    (by decide +kernel)
  obtain ⟨ready, arrived, settled⟩ := of_decide_eq_true passed
  exact ⟨player, setUp, ⟨ready, arrived, settled⟩,
    globalButton_agrees_iff setUp rfl _ ready arrived settled⟩

/-- The listener presses the play button before the stream can start to play. The button still loads
and does not take the turn; when the stream can start to play, the button goes on to tell that
nothing plays. -/
theorem globalButton_disagrees_after_early_play :
    ∃ player, TwoTracks.setUp = .ok player ∧
      let mounted := (start player).run
        [.happening (.command (.attach (some ⟨"opus", "audio/ogg"⟩) TwoTracks.endpoint)),
          .happening (.command .togglePlay), .happening .deliver, .happening (.remark .canPlay),
          .swapEnds]
      mounted.session.player.stream.hasSource = true ∧ mounted.isReady = true ∧
        mounted.session.inFlight = [] ∧ mounted.session.player.drag = none ∧
        mounted.button.pending = [] ∧ mounted.session.isPaused = false ∧
        mounted.button.classes = ["play"] ∧ ¬ mounted.Agrees := by
  obtain ⟨player, setUp, passed⟩ := TwoTracks.exists_player (fun player =>
    let mounted := (start player).run
      [.happening (.command (.attach (some ⟨"opus", "audio/ogg"⟩) TwoTracks.endpoint)),
        .happening (.command .togglePlay), .happening .deliver, .happening (.remark .canPlay),
        .swapEnds]
    decide (mounted.session.player.stream.hasSource = true ∧ mounted.isReady = true ∧
      mounted.session.inFlight = [] ∧ mounted.session.player.drag.isNone = true ∧
      mounted.button.pending = [] ∧ mounted.session.isPaused = false ∧
      mounted.button.classes = ["play"] ∧ ¬ mounted.Agrees)) (by decide +kernel)
  obtain ⟨attached, ready, arrived, released, rest⟩ := of_decide_eq_true passed
  exact ⟨player, setUp, attached, ready, arrived, Option.isNone_iff_eq_none.mp released, rest⟩

end Mounted

end ReleasePlayer
