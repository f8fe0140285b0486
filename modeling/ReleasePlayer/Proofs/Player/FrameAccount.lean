/-
This file accounts for the frames of a ticker. The source of frames may refuse what it is asked for,
and may change its mind about that at any time; every frame that comes is handed to the player at
once. What is proved is that the ticker and its source never lose sight of each other: the source
owes the frame that the ticker waits for and no other, and every request that was ever made was
refused, or its frame came, was taken back or is still owed. To say what came of the requests, the
source is watched: a watch notes the answers and the frames that come, and the player does the same
with it as without it.
-/

import ReleasePlayer.Proofs.Player.Round
import ReleasePlayer.Proofs.Player.TickerAgreement
import ReleasePlayer.Proofs.Player.TickerUnseen

namespace ReleasePlayer

open InMemory (Frames)

/-! ### Sources of frames under watch -/

/-- A source of frames that can be made to refuse what it is asked for, and to stop refusing. -/
class MoodyScheduler (F : Type) extends Scheduler F where
  setRefusing : F → Bool → F

instance : MoodyScheduler Frames where
  setRefusing frames isRefusing := { frames with isRefusing }

/-- A source of frames with a watch on it. -/
structure Watched (F : Type) where
  source : F
  /-- What came of the requests, in their order: the frame that was granted, or nothing. -/
  answers : List (Option Nat)
  /-- The number of frames that came. -/
  fired : Nat

namespace Watched

variable {F : Type}

/-- A source that is watched from now on. -/
def ofSource (source : F) : Watched F := ⟨source, [], 0⟩

/-- The number of requests that were refused. -/
def refused (watched : Watched F) : Nat := watched.answers.count none

instance [FrameSource F] : FrameSource (Watched F) where
  request watched :=
    let (answer, source, log) := FrameSource.request watched.source
    (answer, { watched with source, answers := watched.answers ++ [answer] }, log)
  cancel watched handle := { watched with source := FrameSource.cancel watched.source handle }

instance [MoodyScheduler F] : MoodyScheduler (Watched F) where
  fire? watched := (Scheduler.fire? watched.source).map fun left =>
    { watched with source := left, fired := watched.fired + 1 }
  setRefusing watched isRefusing :=
    { watched with source := MoodyScheduler.setRefusing watched.source isRefusing }

end Watched

/-! ### The account of a ticker -/

namespace Ticker

/-- The source owes the frame that the ticker waits for and no other, every answer was noted, and of
every request it is known what became of it. -/
structure Balanced (ticker : Ticker (Watched Frames)) : Prop where
  owed : ticker.source.source.pending = ticker.pending.toList
  noted : ticker.source.answers.length = ticker.source.source.requested
  account : ticker.source.source.requested = ticker.source.refused + ticker.source.fired +
    ticker.source.source.cancelled + ticker.source.source.pending.length

theorem balanced_ofSource (isRefusing : Bool) :
    Balanced (ofSource (Watched.ofSource (Frames.fresh isRefusing))) := ⟨rfl, rfl, rfl⟩

/-- A stopped ticker makes one request, and whether it is granted or refused the account is right. -/
theorem balanced_start_of_stopped {ticker : Ticker (Watched Frames)} (balanced : Balanced ticker)
    (stopped : ticker.pending = none) : Balanced ticker.start.1 := by
  obtain ⟨⟨⟨isRefusing, granted, owed, requested, cancelled⟩, answers, fired⟩, pending⟩ := ticker
  obtain ⟨empty, noted, account⟩ := balanced
  obtain rfl : pending = none := stopped
  obtain rfl : owed = [] := empty
  obtain rfl : answers.length = requested := noted
  have account : answers.length = answers.count none + fired + cancelled + 0 := account
  cases isRefusing with
  | true =>
    refine ⟨rfl, List.length_append, ?_⟩
    show answers.length + 1 = (answers ++ [none]).count none + fired + cancelled + 0
    rw [List.count_append, List.count_singleton_self]
    omega
  | false =>
    refine ⟨rfl, List.length_append, ?_⟩
    show answers.length + 1 = (answers ++ [some (granted + 1)]).count none + fired + cancelled + 1
    have granting : [some (granted + 1)].count none = 0 := rfl
    rw [List.count_append, granting]
    omega

theorem balanced_start {ticker : Ticker (Watched Frames)} (balanced : Balanced ticker) :
    Balanced ticker.start.1 := by
  cases waiting : ticker.pending with
  | none => exact balanced_start_of_stopped balanced waiting
  | some handle =>
    unfold start
    rw [waiting]
    exact balanced

/-- Taking back the frame that a ticker waits for takes back all that the source owes. -/
theorem balanced_stop {ticker : Ticker (Watched Frames)} (balanced : Balanced ticker) :
    Balanced ticker.stop := by
  obtain ⟨⟨⟨isRefusing, granted, owed, requested, cancelled⟩, answers, fired⟩, pending⟩ := ticker
  cases pending with
  | none => exact balanced
  | some handle =>
    obtain ⟨owing, noted, account⟩ := balanced
    obtain rfl : owed = [handle] := owing
    have none : [handle].filter (· != handle) = [] := by simp
    refine ⟨none, noted, ?_⟩
    have account : requested = answers.count Option.none + fired + cancelled + 1 := account
    show requested = answers.count Option.none + fired + (cancelled + 1) +
      ([handle].filter (· != handle)).length
    rw [none, List.length_nil]
    omega

/-- The frame that comes is the one that the ticker waits for. -/
theorem balanced_fire {ticker : Ticker (Watched Frames)} (balanced : Balanced ticker)
    {left : Watched Frames} (fired : Scheduler.fire? ticker.source = some left) :
    Balanced { source := left, pending := none } := by
  obtain ⟨⟨⟨isRefusing, granted, owed, requested, cancelled⟩, answers, count⟩, pending⟩ := ticker
  obtain ⟨owing, noted, account⟩ := balanced
  cases pending with
  | none =>
    obtain rfl : owed = [] := owing
    cases fired
  | some handle =>
    obtain rfl : owed = [handle] := owing
    obtain rfl := Option.some.inj fired
    refine ⟨rfl, noted, ?_⟩
    have account : requested = answers.count none + count + cancelled + 1 := account
    show requested = answers.count none + (count + 1) + cancelled + 0
    omega

theorem balanced_afterFrame {ticker : Ticker (Watched Frames)}
    (balanced : Balanced { ticker with pending := none }) (isPlaying : Bool) :
    Balanced (ticker.afterFrame isPlaying).1 := by
  cases isPlaying with
  | false => exact balanced
  | true => exact balanced_start_of_stopped balanced rfl

end Ticker

/-! ### Players and their frames -/

/-- Something that goes on around a player and its source of frames. -/
inductive Occasion (α T : Type) where
  | command (command : Command α)
  | notify (notification : Notification)
  /-- The stream changes on its own. -/
  | drift (change : Stream T → Stream T)
  /-- The source of frames begins to refuse what it is asked for, or stops refusing. -/
  | refuse (isRefusing : Bool)
  /-- The oldest frame comes, if one is owed, and is handed to the player. -/
  | frame

namespace Player

variable {α T G S F : Type} [Scalar α] [Transport α T]

section Running

variable [MoodyScheduler F]

/-- The player after the oldest frame came, if one was owed. -/
def fireFrame (player : Player α T G S F) : Player α T G S F :=
  match Scheduler.fire? player.ticker.source with
  | some source => { player with ticker.source := source }.onFrame
  | none => player

variable [GainStage α G] [PreferenceStore S]

/-- The player after an occasion. -/
def meet (player : Player α T G S F) : Occasion α T → Player α T G S F
  | .command command => player.perform command
  | .notify notification => player.notify notification
  | .drift change => { player with stream := change player.stream }
  | .refuse isRefusing =>
    { player with ticker.source := MoodyScheduler.setRefusing player.ticker.source isRefusing }
  | .frame => player.fireFrame

/-- The player after one occasion after the other. -/
def meetAll (player : Player α T G S F) (occasions : List (Occasion α T)) : Player α T G S F :=
  occasions.foldl meet player

end Running

/-! ### The account is kept -/

section Account

variable {player : Player α T G S (Watched Frames)}

theorem balanced_notify (balanced : player.ticker.Balanced) (notification : Notification) :
    (player.notify notification).ticker.Balanced := by
  rcases notification.turn_or_remark with ⟨_ | _, rfl⟩ | ⟨remark, rfl⟩
  · show (player.notify .play).ticker.Balanced
    cases seeking : player.isSeekDragging with
    | true =>
      rw [player.notify_play_of_seek seeking]
      exact balanced
    | false =>
      rw [player.notify_play_ticker seeking]
      exact Ticker.balanced_start balanced
  · show (player.notify .pause).ticker.Balanced
    rw [player.notify_pause_ticker]
    exact Ticker.balanced_stop balanced
  · rw [player.notify_remark_ticker remark]
    exact balanced

theorem balanced_fireFrame (balanced : player.ticker.Balanced) :
    player.fireFrame.ticker.Balanced := by
  unfold fireFrame
  split
  · rename_i left fired
    rw [onFrame_ticker]
    exact Ticker.balanced_afterFrame (Ticker.balanced_fire balanced fired) _
  · exact balanced

variable [GainStage α G] [PreferenceStore S]

theorem balanced_meet (balanced : player.ticker.Balanced) (occasion : Occasion α T) :
    (player.meet occasion).ticker.Balanced := by
  cases occasion with
  | command command =>
    have unmoved := (quiet_perform player command).ticker
    show (player.perform command).ticker.Balanced
    rw [unmoved]
    exact balanced
  | notify notification => exact balanced_notify balanced notification
  | drift change => exact balanced
  | refuse isRefusing => exact ⟨balanced.owed, balanced.noted, balanced.account⟩
  | frame => exact balanced_fireFrame balanced

theorem balanced_meetAll (balanced : player.ticker.Balanced) (occasions : List (Occasion α T)) :
    (player.meetAll occasions).ticker.Balanced := by
  induction occasions generalizing player with
  | nil => exact balanced
  | cons occasion later inductionHypothesis =>
    exact inductionHypothesis (balanced_meet balanced occasion)

end Account

/-! ### The watch changes nothing -/

/-- A player whose source of frames is watched from now on. -/
def watched {α T G S F : Type} (player : Player α T G S F) : Player α T G S (Watched F) :=
  player.withTicker ⟨.ofSource player.ticker.source, player.ticker.pending⟩

/-- A player without the watch on its source of frames. -/
def unwatched {α T G S F : Type} (player : Player α T G S (Watched F)) : Player α T G S F :=
  player.withTicker ⟨player.ticker.source.source, player.ticker.pending⟩

section Watch

/-- What leaves the ticker alone and does the same with every other does the same without the
watch. -/
theorem unwatched_of_unseen {α T G S F : Type} {player after : Player α T G S (Watched F)}
    {bare : Player α T G S F} (quiet : Quiet player after)
    (unseen : bare = after.withTicker ⟨player.ticker.source.source, player.ticker.pending⟩) :
    bare = after.unwatched := by
  unfold unwatched
  rw [quiet.ticker]
  exact unseen

theorem unwatched_updateTime (player : Player α T G S (Watched F)) :
    player.unwatched.updateTime = player.updateTime.unwatched :=
  unwatched_of_unseen (quiet_steps (steps_updateTime player)) (player.withTicker_updateTime _)

theorem unwatched_perform [GainStage α G] [PreferenceStore S] (player : Player α T G S (Watched F))
    (command : Command α) :
    player.unwatched.perform command = (player.perform command).unwatched :=
  unwatched_of_unseen (quiet_perform player command) (player.withTicker_perform _ command)

variable [MoodyScheduler F]

omit [Scalar α] [Transport α T] in
theorem unwatched_startTicker (player : Player α T G S (Watched F)) :
    player.unwatched.startTicker = player.startTicker.unwatched := by
  cases player with | mk table stream volume store ticker =>
  obtain ⟨source, _ | handle⟩ := ticker <;> rfl

omit [Scalar α] [Transport α T] in
theorem unwatched_stop (player : Player α T G S (Watched F)) :
    { player.unwatched with ticker := player.unwatched.ticker.stop } =
      ({ player with ticker := player.ticker.stop } : Player α T G S (Watched F)).unwatched := by
  cases player with | mk table stream volume store ticker =>
  obtain ⟨source, _ | handle⟩ := ticker <;> rfl

theorem unwatched_notify (player : Player α T G S (Watched F)) (notification : Notification) :
    player.unwatched.notify notification = (player.notify notification).unwatched := by
  cases notification with
  | timeUpdate => exact unwatched_updateTime player
  | progress =>
    exact unwatched_of_unseen (quiet_steps (steps_updateBuffered player))
      (player.withTicker_updateBuffered _)
  | canPlay => rfl
  | play =>
    have started := unwatched_startTicker (player.swapControls .play .pause)
    show (if player.isSeekDragging then player.unwatched
      else (player.unwatched.swapControls .play .pause).startTicker) =
        (if player.isSeekDragging then player
          else (player.swapControls .play .pause).startTicker).unwatched
    split
    · rfl
    · exact started
  | pause =>
    have stopped := unwatched_stop player
    unfold notify
    dsimp only
    rw [stopped]
    show (if player.isSeekDragging then _ else _) = unwatched (if player.isSeekDragging then _ else _)
    split <;> rfl
  | error message => rfl

omit [Scalar α] [Transport α T] in
theorem unwatched_afterFrame (player : Player α T G S (Watched F)) (isPlaying : Bool) :
    { player.unwatched with ticker := (player.unwatched.ticker.afterFrame isPlaying).1 }.tell
        (player.unwatched.ticker.afterFrame isPlaying).2 =
      (({ player with ticker := (player.ticker.afterFrame isPlaying).1 } :
        Player α T G S (Watched F)).tell (player.ticker.afterFrame isPlaying).2).unwatched := by
  cases isPlaying <;> rfl

theorem unwatched_onFrame (player : Player α T G S (Watched F)) :
    player.unwatched.onFrame = player.onFrame.unwatched := by
  have goneOn := unwatched_afterFrame player.updateTime (!player.updateTime.stream.isPaused)
  unfold onFrame
  rw [unwatched_updateTime]
  exact goneOn

theorem unwatched_fireFrame (player : Player α T G S (Watched F)) :
    player.unwatched.fireFrame = player.fireFrame.unwatched := by
  have watching : Scheduler.fire? player.ticker.source =
      (Scheduler.fire? player.ticker.source.source).map fun left =>
        { player.ticker.source with source := left, fired := player.ticker.source.fired + 1 } := rfl
  have bare : player.unwatched.ticker.source = player.ticker.source.source := rfl
  unfold fireFrame
  rw [watching, bare]
  cases Scheduler.fire? player.ticker.source.source with
  | none => rfl
  | some left =>
    exact unwatched_onFrame { player with ticker.source :=
      { player.ticker.source with source := left, fired := player.ticker.source.fired + 1 } }

variable [GainStage α G] [PreferenceStore S]

theorem unwatched_meet (player : Player α T G S (Watched F)) (occasion : Occasion α T) :
    player.unwatched.meet occasion = (player.meet occasion).unwatched := by
  cases occasion with
  | command command => exact unwatched_perform player command
  | notify notification => exact unwatched_notify player notification
  | drift change => rfl
  | refuse isRefusing => rfl
  | frame => exact unwatched_fireFrame player

/-- A player whose source of frames is watched does what it does without the watch. -/
theorem unwatched_meetAll (player : Player α T G S (Watched F)) (occasions : List (Occasion α T)) :
    player.unwatched.meetAll occasions = (player.meetAll occasions).unwatched := by
  induction occasions generalizing player with
  | nil => rfl
  | cons occasion later inductionHypothesis =>
    refine Eq.trans ?_ (inductionHypothesis (player.meet occasion))
    show (player.unwatched.meet occasion).meetAll later = _
    rw [unwatched_meet]

end Watch

/-! ### No frame is lost -/

/-- Whatever goes on around a player: its source owes exactly the frame that the ticker waits for,
and every request that was made was refused, or its frame came, was taken back or is still owed. -/
theorem frames_accounted_for [GainStage α G] [PreferenceStore S] {config : Config α} {transport : T}
    {output : G} {store : S} {isRefusing : Bool} {player : Player α T G S Frames}
    (setUp : Player.new config transport output store (Frames.fresh isRefusing) = .ok player)
    (occasions : List (Occasion α T)) :
    let after := player.meetAll occasions
    let underWatch := player.watched.meetAll occasions
    underWatch.unwatched = after ∧
      (∀ handle, after.ticker.pending = some handle → after.ticker.source.pending = [handle]) ∧
      (after.ticker.isRunning = false → after.ticker.source.pending = []) ∧
      underWatch.ticker.source.answers.length = after.ticker.source.requested ∧
      after.ticker.source.requested =
        underWatch.ticker.source.refused + underWatch.ticker.source.fired +
          after.ticker.source.cancelled + after.ticker.source.pending.length := by
  have same : (player.watched.meetAll occasions).unwatched = player.meetAll occasions :=
    (unwatched_meetAll player.watched occasions).symm
  have initially : player.watched.ticker.Balanced := by
    have stopped := (isNew_of_new setUp).ticker
    unfold watched withTicker
    rw [stopped]
    exact Ticker.balanced_ofSource isRefusing
  have balanced := balanced_meetAll initially occasions
  dsimp only
  rw [← same]
  refine ⟨rfl, fun handle waiting => ?_, fun idle => ?_, balanced.noted, balanced.account⟩
  · have waiting : (player.watched.meetAll occasions).ticker.pending = some handle := waiting
    have owed := balanced.owed
    rw [waiting] at owed
    exact owed
  · have stopped : (player.watched.meetAll occasions).ticker.pending = none :=
      Option.not_isSome_iff_eq_none.mp (by rw [← Bool.not_eq_true] at idle; exact idle)
    have owed := balanced.owed
    rw [stopped] at owed
    exact owed

/-- The source of frames refuses at first. The listener starts the stream twice and pauses it in
between; the second time the source grants what it is asked for, and a frame comes. -/
def startTwice : List (Occasion Float (InMemory.Deck Float)) :=
  [.command (.attach (some ⟨"opus", "audio/ogg"⟩) TwoTracks.endpoint), .command .togglePlay,
    .notify .play, .command .togglePlay, .notify .pause, .refuse false, .command .togglePlay,
    .notify .play, .frame, .notify .pause, .notify .play]

/-- Of the four frames asked for the first one was refused, the second one came, the third one was taken
back, and the fourth one is owed. -/
theorem frames_accounted_for_after_refusal :
    ∃ player, Player.new TwoTracks.config (InMemory.Deck.withDuration (some 360.0))
        (InMemory.Gain.ofHeadroom .amplified) (InMemory.Store.ofEntries [] false)
        (Frames.fresh true) = .ok player ∧
      let after := player.meetAll startTwice
      let underWatch := player.watched.meetAll startTwice
      (underWatch.ticker.source.answers = [none, some 1, some 2, some 3] ∧
          after.ticker.source.requested = 4 ∧ underWatch.ticker.source.refused = 1 ∧
          underWatch.ticker.source.fired = 1 ∧ after.ticker.source.cancelled = 1 ∧
          after.ticker.isRunning = true ∧ after.ticker.source.pending = [3]) ∧
        underWatch.unwatched = after ∧
        (∀ handle, after.ticker.pending = some handle → after.ticker.source.pending = [handle]) ∧
        (after.ticker.isRunning = false → after.ticker.source.pending = []) ∧
        underWatch.ticker.source.answers.length = after.ticker.source.requested ∧
        after.ticker.source.requested =
          underWatch.ticker.source.refused + underWatch.ticker.source.fired +
            after.ticker.source.cancelled + after.ticker.source.pending.length := by
  obtain ⟨player, setUp, checked⟩ := Player.exists_of_any
    (Player.new TwoTracks.config (InMemory.Deck.withDuration (some 360.0))
      (InMemory.Gain.ofHeadroom .amplified) (InMemory.Store.ofEntries [] false)
      (Frames.fresh true)) (fun player =>
    let after := player.meetAll startTwice
    let underWatch := player.watched.meetAll startTwice
    decide (underWatch.ticker.source.answers = [none, some 1, some 2, some 3] ∧
      after.ticker.source.requested = 4 ∧ underWatch.ticker.source.refused = 1 ∧
      underWatch.ticker.source.fired = 1 ∧ after.ticker.source.cancelled = 1 ∧
      after.ticker.isRunning = true ∧ after.ticker.source.pending = [3])) (by decide +kernel)
  exact ⟨player, setUp, of_decide_eq_true checked, frames_accounted_for setUp startTwice⟩

end Player

end ReleasePlayer
