/-
This file proves that a player never makes a misstep, whatever is done to it. In every run the guarded
handlers give what the handlers give: no track and no panel is looked up that is not there, nothing is
counted back from zero, no change of tracks starts at a track that is none, and no number is kept within
bounds that are none. Two things see to that. The follower fits the table, which is one that was
accepted; and the stream does not end before it starts. No handler takes that away, be the numbers
that it is given finite or not, and nor does the transport by going wherever it likes.
-/

import ReleasePlayer.Proofs.Player.Guarded

namespace ReleasePlayer

open InMemory (Deck)

/-! ### Guarded runs -/

namespace Guarded

section Exchanges

variable {α T G S F : Type} [Scalar α] [Transport α T] [GainStage α G] [PreferenceStore S]
  [FrameSource F]

/-- The player after an exchange. -/
def exchange (player : Player α T G S F) : Exchange α T → Option (Player α T G S F)
  | .input (.command command) => perform player command
  | .input (.notify notification) => notify player notification
  | .input .frame => onFrame player
  | .input (.drift change) => some { player with stream := change player.stream }
  | .handOver => some player.drainEffects.2

/-- The player after one exchange after the other, if none of them goes amiss. -/
def exchangeAll (player : Player α T G S F) (exchanges : List (Exchange α T)) :
    Option (Player α T G S F) :=
  exchanges.foldlM exchange player

end Exchanges

theorem exchange_eq {G S F : Type} [GainStage Float G] [PreferenceStore S] [FrameSource F]
    {player : Player Float (Deck Float) G S F} (secure : player.Secure)
    (movable : player.stream.Movable) (exchange : Exchange Float (Deck Float)) :
    Guarded.exchange player exchange = some (player.exchange exchange) := by
  cases exchange with
  | handOver => rfl
  | input input =>
    cases input with
    | command command => exact perform_eq secure movable command
    | notify notification => exact notify_eq secure notification
    | frame => exact onFrame_eq secure
    | drift change => rfl

end Guarded

/-! ### What the stream does on its own -/

namespace Exchange

variable {α : Type} [Scalar α]

/-- Whether the stream can still be moved after what it does on its own. Apart from that it may do
anything. -/
def IsMild : Exchange α (Deck α) → Prop
  | .input (.drift change) => ∀ stream, Stream.Movable stream → Stream.Movable (change stream)
  | _ => True

/-- A transport that keeps its length may go wherever it likes. -/
theorem isMild_of_duration (move : Deck α → Deck α)
    (same : ∀ deck, (move deck).duration = deck.duration) :
    IsMild (.input (.drift fun stream => { stream with transport := move stream.transport })) :=
  fun stream movable => ⟨movable.running, fun duration known =>
    movable.bounded duration ((same stream.transport).symm.trans known)⟩

end Exchange

namespace Player

section Safe

variable {α G S F : Type} [Scalar α] {player : Player α (Deck α) G S F}

theorem Round.movable {before after : Player α (Deck α) G S F} (round : Round before after)
    (movable : before.stream.Movable) : after.stream.Movable := by
  cases round with
  | rest apart kept => exact kept.position_eq.2 movable
  | update middle earlier led later kept => exact kept.position_eq.2 (led.movable movable)

/-- The player is in a track of its table and has a place for the panel of each, whatever track it
leaves next is one of the table, and its stream can be moved to any time. -/
structure InBounds (player : Player α (Deck α) G S F) : Prop where
  current : player.follower.current < player.table.size
  lyrics : player.follower.lyrics.length = player.table.size
  currentTrack : player.table.get? player.follower.current = some player.currentTrack
  previous {time : α} {change : TrackChange} :
    (player.follower.observe player.table time).2 = some change →
      ∃ track, player.table.get? change.previous = some track
  running : player.stream.isHalted = false
  movable (time : α) : ∃ moved, Transport.moveTo player.stream.transport time = some moved

/-- The invariant of all runs. -/
structure Safe (player : Player α (Deck α) G S F) : Prop extends Secure player where
  movable : player.stream.Movable

theorem Safe.inBounds [Scalar.Ordered α] (safe : player.Safe) : player.InBounds where
  current := safe.fits.current
  lyrics := safe.fits.lyrics
  currentTrack := Guarded.currentTrack_eq safe.toSecure
  previous changed :=
    TrackTable.exists_get?_of_lt (safe.fits.change_observe safe.inOrder changed).previous
  running := safe.movable.running
  movable time := by
    obtain ⟨position, moved⟩ := safe.movable.moveTo time
    exact ⟨_, moved⟩

variable [GainStage α G] [PreferenceStore S] [FrameSource F]

theorem movable_exchange (movable : player.stream.Movable) {exchange : Exchange α (Deck α)}
    (mild : exchange.IsMild) : (player.exchange exchange).stream.Movable := by
  cases exchange with
  | handOver => exact ⟨movable.running, movable.bounded⟩
  | input input =>
    cases input with
    | command command =>
      cases plain : command.isPlain with
      | true => exact (player.round_perform plain).movable movable
      | false =>
        rcases player.perform_of_not_plain plain with
          ⟨format, endpoint, rfl⟩ | ⟨follower, -, noted⟩
        · exact Chronicle.movable_attachSource movable format endpoint
        · show (player.perform command).stream.Movable
          rw [noted]
          exact movable
    | notify notification =>
      rcases notification.turn_or_remark with ⟨turn, rfl⟩ | ⟨remark, rfl⟩
      · obtain ⟨ticker, log, told⟩ := player.notify_turn_eq turn
        show (player.notify turn.notification).stream.Movable
        rw [told]
        exact movable
      · exact (player.round_remark remark).movable movable
    | frame => exact player.round_onFrame.movable movable
    | drift change => exact mild player.stream movable

variable [Scalar.Ordered α]

/-- No input takes the player out of its table. -/
theorem Secure.take {T : Type} [Transport α T] {player : Player α T G S F} (secure : player.Secure)
    (input : Input α T) : (player.take input).Secure := by
  refine (player.reactions_take input).keep Secure Secure.step ?_ ?_ secure
  · intro before after sounding secure
    cases sounding <;> exact ⟨secure.inOrder, secure.fits⟩
  · intro before after signal secure
    cases signal <;> exact ⟨secure.inOrder, secure.fits⟩

theorem Safe.exchange (safe : player.Safe) {exchange : Exchange α (Deck α)}
    (mild : exchange.IsMild) : (player.exchange exchange).Safe := by
  refine ⟨?_, movable_exchange safe.movable mild⟩
  cases exchange with
  | handOver => exact ⟨safe.inOrder, safe.fits⟩
  | input input => exact safe.toSecure.take input

omit [FrameSource F] in
theorem safe_of_new {config : Config α} {deck : Deck α}
    (bounded : ∀ duration, deck.duration = some duration → (0.0 : α) ≤ duration) {output : G}
    {store : S} {frames : F} (setUp : new config deck output store frames = .ok player) :
    player.Safe := by
  have isNew := isNew_of_new setUp
  refine ⟨⟨TrackTable.inOrder_of_ofEntries isNew.table, ?_⟩, ?_⟩
  · rw [isNew.follower]
    exact Follower.fits_start _
  · rw [isNew.stream]
    exact ⟨rfl, bounded⟩

end Safe

/-! ### Runs -/

section Runs

variable {G S F : Type} [GainStage Float G] [PreferenceStore S] [FrameSource F]
  {player : Player Float (Deck Float) G S F}

/-- A safe player stays safe, and nothing goes amiss on the way. -/
theorem Safe.exchangeAll (safe : player.Safe) {exchanges : List (Exchange Float (Deck Float))}
    (mild : ∀ exchange ∈ exchanges, exchange.IsMild) :
    (player.exchangeAll exchanges).Safe ∧
      Guarded.exchangeAll player exchanges = some (player.exchangeAll exchanges) := by
  induction exchanges generalizing player with
  | nil => exact ⟨safe, rfl⟩
  | cons exchange later inductionHypothesis =>
    have next : (player.exchange exchange).Safe := safe.exchange (mild exchange List.mem_cons_self)
    obtain ⟨reached, agreed⟩ := inductionHypothesis next fun other member =>
      mild other (List.mem_cons_of_mem _ member)
    refine ⟨reached, ?_⟩
    unfold Guarded.exchangeAll
    rw [List.foldlM_cons, Guarded.exchange_eq safe.toSecure safe.movable]
    exact agreed

/-- A player of doubles on a stream that does not end before it starts makes no misstep, neither when
it is set up nor in any run, and wherever it gets to, it is within its bounds. The stream may be
without end, or its length may be unknown. -/
theorem never_out_of_bounds {config : Config Float} {deck : Deck Float}
    (bounded : ∀ duration, deck.duration = some duration → (0.0 : Float) ≤ duration) {output : G}
    {store : S} {frames : F} (setUp : new config deck output store frames = .ok player)
    {exchanges : List (Exchange Float (Deck Float))}
    (mild : ∀ exchange ∈ exchanges, exchange.IsMild) :
    (player.exchangeAll exchanges).InBounds ∧
      Guarded.new config deck output store frames = some (.ok player) ∧
      Guarded.exchangeAll player exchanges = some (player.exchangeAll exchanges) := by
  obtain ⟨reached, agreed⟩ := (safe_of_new bounded setUp).exchangeAll mild
  refine ⟨reached.inBounds, ?_, agreed⟩
  rw [Guarded.new_eq, setUp]

end Runs

end Player

/-! ### A stream without end -/

namespace TwoTracks

open InMemory

/-- The player of the release, on a stream of some length. -/
def setUpWithin (duration : Option Float) :
    Except (SetupError Float) (Player Float (Deck Float) (Gain Float) Store Frames) :=
  Player.new config (Deck.withDuration duration) (Gain.ofHeadroom .unity) (Store.ofEntries [] false)
    (Frames.fresh false)

/-- The transport takes the stream somewhere on its own. -/
def strayTo (position : Float) : Exchange Float (Deck Float) :=
  .input (.drift fun stream => { stream with transport := { stream.transport with position } })

/-- The stream gets lost, the listener drags along the seek bar from nowhere to far beyond its end,
and the stream gets lost again. -/
def astray : List (Exchange Float (Deck Float)) :=
  [.input (.command (.attach (some ⟨"opus", "audio/ogg"⟩) endpoint)),
    .input (.command (.registerLyrics "dawn" true)), strayTo Double.undefined, .input .frame,
    .input (.command (.seekDown bar Double.undefined)), .handOver,
    .input (.command (.move Double.infinity 5.0)), strayTo Double.infinity,
    .input (.notify .timeUpdate)]

theorem astray_in_bounds :
    ∃ player, setUpWithin (some Double.infinity) = .ok player ∧
      (∀ exchange ∈ astray, exchange.IsMild) ∧
      let reached := player.exchangeAll astray
      reached.follower.current = 1 ∧ Scalar.isFinite reached.stream.position = false ∧
        reached.InBounds ∧ Guarded.exchangeAll player astray = some reached := by
  obtain ⟨player, made, checked⟩ := Player.exists_of_any (setUpWithin (some Double.infinity))
    (fun player => decide ((player.exchangeAll astray).follower.current = 1 ∧
      Scalar.isFinite (player.exchangeAll astray).stream.position = false)) (by decide +kernel)
  obtain ⟨current, lost⟩ := of_decide_eq_true checked
  have bounded (duration : Float)
      (known : (Deck.withDuration (some Double.infinity)).duration = some duration) :
      0.0 ≤ duration := by
    obtain rfl := Option.some.inj known
    decide +kernel
  have stray (position : Float) : (strayTo position).IsMild :=
    Exchange.isMild_of_duration (fun deck => { deck with position }) fun _ => rfl
  have mild : ∀ exchange ∈ astray, exchange.IsMild := by
    unfold astray
    simp only [List.forall_mem_cons]
    exact ⟨trivial, trivial, stray _, trivial, trivial, trivial, trivial, stray _, trivial,
      List.forall_mem_nil _⟩
  obtain ⟨inBounds, -, agreed⟩ := Player.never_out_of_bounds bounded made mild
  exact ⟨player, made, mild, current, lost, inBounds, agreed⟩

/-- On a stream that ends before it starts the guards are not idle. -/
example : ((setUpWithin (some (-1.0))).toOption.map fun player =>
    (Guarded.exchangeAll player astray).isNone) = some true := by
  decide +kernel

end TwoTracks

end ReleasePlayer
