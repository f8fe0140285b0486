/-
This file proves that the current track follows from the positions that a player visits. As long as
nobody but the player moves its stream, every position is looked at by the handler that led there: a
handler that moves the stream brings the page up to date after that and leaves the stream in its place.
So in a track that track is the current one, and the page was last told the time in it; in a gap the
current track is the one of the last position that belonged to any. Attaching a stream puts it at its
start without a look, which does no harm as long as it was not moved. No order of the numbers is needed
for any of this but that the stream does not end before it starts, without which it cannot be moved.
-/

import ReleasePlayer.Proofs.Player.Display
import ReleasePlayer.Proofs.Player.Handover
import ReleasePlayer.Proofs.Player.Round
import ReleasePlayer.Proofs.Stream

namespace ReleasePlayer

open InMemory (Deck)

/-! ### Positions that were visited -/

namespace TrackTable

variable {α : Type} [Scalar α]

/-- The place of the last position that belonged to a track; the first one if none did. -/
def lastCovered (table : TrackTable α) (visited : List α) : Nat :=
  ((visited.filterMap table.trackAt?).getLast?.map Track.index).getD 0

theorem lastCovered_append_of_covered {table : TrackTable α} {position : α} {track : Track α}
    (covered : table.trackAt? position = some track) (visited : List α) :
    table.lastCovered (visited ++ [position]) = track.index := by
  have last : [position].filterMap table.trackAt? = [track] := by
    rw [List.filterMap_cons_some covered]
    rfl
  unfold lastCovered
  rw [List.filterMap_append, last, List.getLast?_concat]
  rfl

theorem lastCovered_append_of_uncovered {table : TrackTable α} {position : α}
    (uncovered : table.trackAt? position = none) (visited : List α) :
    table.lastCovered (visited ++ [position]) = table.lastCovered visited := by
  have nothing : [position].filterMap table.trackAt? = [] := List.filterMap_cons_none uncovered
  unfold lastCovered
  rw [List.filterMap_append, nothing, List.append_nil]

end TrackTable

/-! ### What the page was told of the time -/

namespace Effect

variable {α : Type}

/-- Where in the track the page is told to be. -/
def seekPosition? : Effect α → Option α
  | .setSeekPosition fraction => some fraction
  | _ => none

/-- The time that the page is told, elapsed and in total. -/
def time? : Effect α → Option (String × String)
  | .setTime elapsed total => some (elapsed, total)
  | _ => none

/-- Whether an effect tells nothing of the time. -/
def IsTimeless (effect : Effect α) : Prop := effect.seekPosition? = none ∧ effect.time? = none

theorem isTimeless_of_apart {effect : Effect α} (apart : effect.isApart = true) :
    effect.IsTimeless := by
  cases effect with
  | setTime elapsed total => cases apart
  | setSeekPosition fraction => cases apart
  | _ => exact ⟨rfl, rfl⟩

/-- What effects tell last of something. -/
def latest {β : Type} (read? : Effect α → Option β) (effects : List (Effect α)) : Option β :=
  (effects.filterMap read?).getLast?

theorem latest_append_of_none {β : Type} {read? : Effect α → Option β} {later : List (Effect α)}
    (nothing : ∀ effect ∈ later, read? effect = none) (effects : List (Effect α)) :
    latest read? (effects ++ later) = latest read? effects := by
  unfold latest
  rw [List.filterMap_append, List.filterMap_eq_nil_iff.mpr nothing, List.append_nil]

/-- What the page was told last is where a time is in a track. -/
structure Tells [Scalar α] (effects : List (Effect α)) (track : Track α) (time : α) : Prop where
  seekPosition : latest seekPosition? effects = some (track.fractionAt time)
  time : latest time? effects =
    some (timeLabel (time - track.starts) (some track.length), timeLabel track.length none)

variable [Scalar α] {track : Track α} {time : α}

theorem tells_timeEffects (effects : List (Effect α)) (track : Track α) (time : α) :
    Tells (effects ++ Player.timeEffects track time) track time := by
  constructor
  · unfold latest
    rw [List.filterMap_append]
    exact List.getLast?_concat
  · unfold latest
    rw [List.filterMap_append]
    exact List.getLast?_concat

theorem Tells.append {effects later : List (Effect α)} (tells : Tells effects track time)
    (timeless : ∀ effect ∈ later, effect.IsTimeless) : Tells (effects ++ later) track time := by
  constructor
  · rw [latest_append_of_none fun effect member => (timeless effect member).1]
    exact tells.seekPosition
  · rw [latest_append_of_none fun effect member => (timeless effect member).2]
    exact tells.time

end Effect

/-! ### Streams that can be moved -/

namespace Stream

variable {α : Type} [Scalar α]

/-- Nothing keeps the stream from being moved: it does not end before it starts, as far as its end is
known. -/
structure Movable (stream : Stream (Deck α)) : Prop where
  running : stream.isHalted = false
  bounded : ∀ duration, stream.transport.duration = some duration → (0.0 : α) ≤ duration

theorem Movable.moveTo {stream : Stream (Deck α)} (movable : Movable stream) (time : α) :
    ∃ position, Transport.moveTo stream.transport time =
      some { stream.transport with position } := by
  cases known : stream.transport.duration with
  | some duration =>
    have bounds := movable.bounded duration known
    refine ⟨Scalar.clamp 0.0 duration time, ?_⟩
    simp only [Transport.moveTo, known]
    unfold Scalar.clamp?
    rw [if_pos bounds]
    rfl
  | none =>
    refine ⟨Scalar.atLeastZero time, ?_⟩
    simp only [Transport.moveTo, known]

theorem Movable.target? {stream : Stream (Deck α)} (movable : Movable stream) (time : α) :
    ∃ target, stream.target? time = some target := by
  unfold Stream.target?
  split
  · rename_i duration known
    have known : stream.transport.duration = some duration := (Option.filter_eq_some_iff.mp known).1
    unfold Scalar.clamp?
    rw [if_pos (movable.bounded duration known)]
    exact ⟨_, rfl⟩
  · exact ⟨_, rfl⟩

/-- A move changes at most the position. -/
theorem Movable.seek {stream : Stream (Deck α)} (movable : Movable stream) (time : α) :
    Movable (stream.seek time).1 := by
  unfold Stream.seek
  split
  · obtain ⟨target, kept⟩ := movable.target? time
    obtain ⟨position, moved⟩ := movable.moveTo target
    unfold Stream.moveTo
    rw [kept, Option.bind_some, moved]
    exact ⟨movable.running, movable.bounded⟩
  · exact movable

/-- Starting and pausing leave the stream in its place. -/
theorem Kept.position_eq {before after : Stream (Deck α)} (kept : Kept before after) :
    after.transport.position = before.transport.position ∧
      (before.Movable → after.Movable) := by
  cases kept with
  | same => exact ⟨rfl, id⟩
  | played started =>
    unfold Stream.play at started
    split at started
    · cases started
    · split at started
      · rename_i played playing
        obtain rfl := Except.ok.inj started
        rw [InMemory.Deck.eq_of_play playing]
        exact ⟨rfl, fun movable => ⟨movable.running, movable.bounded⟩⟩
      · cases started
  | paused => exact ⟨rfl, fun movable => ⟨movable.running, movable.bounded⟩⟩

theorem Led.movable {before after : Stream (Deck α)} (led : Led before after)
    (movable : before.Movable) : after.Movable := by
  cases led with
  | kept kept => exact kept.position_eq.2 movable
  | sought kept time => exact (kept.position_eq.2 movable).seek time

end Stream

namespace Player

variable {α G S F : Type} [Scalar α]

/-! ### What handlers tell of the time -/

/-- The player stays in its track, and nothing is told of the time. -/
structure Untimed {T : Type} (before after : Player α T G S F) : Prop where
  table : after.table = before.table
  current : after.follower.current = before.follower.current
  effects : ∃ queued, after.effects = before.effects ++ queued ∧
    ∀ effect ∈ queued, effect.IsTimeless

variable {T : Type} {before after : Player α T G S F}

omit [Scalar α] in
theorem Apart.untimed (apart : Apart before after) : Untimed before after := by
  obtain ⟨table, follower, queued, effects, quiet⟩ := apart
  exact ⟨table, by rw [follower], queued, effects,
    fun effect member => Effect.isTimeless_of_apart (quiet effect member)⟩

omit [Scalar α] in
theorem timeless_turnEffects (player : Player α T G S F) (turn : Turn) :
    ∀ effect ∈ player.turnEffects turn, effect.IsTimeless := by
  unfold turnEffects
  split <;> simp [Effect.IsTimeless, Effect.seekPosition?, Effect.time?]

end Player

namespace Player

variable {α T G S F : Type} [Scalar α] [Transport α T] {player : Player α T G S F}

theorem table_updateTime (player : Player α T G S F) : player.updateTime.table = player.table := by
  obtain ⟨effects, log, updated⟩ := player.updateTime_eq
  rw [updated]

theorem current_followStream {track : Track α}
    (covered : player.table.trackAt? player.stream.position = some track) :
    player.followStream.follower.current = track.index := by
  by_cases same : track.index = player.follower.current
  · rw [followStream_of_same covered same, same]
  · obtain ⟨log, followed⟩ := followStream_of_other covered same
    rw [followed]
    exact Follower.current_reach _ _ _

/-- In a track, bringing the page up to date makes that track the current one, and the page is told the
time in it. -/
theorem updateTime_tells {track : Track α}
    (covered : player.table.trackAt? player.stream.position = some track)
    (told : List (Effect α)) :
    player.updateTime.follower.current = track.index ∧
      Effect.Tells (told ++ player.updateTime.effects) track player.stream.position := by
  obtain ⟨table, follower, queued, effects, quiet⟩ := updateTime_of_covered covered
  refine ⟨?_, ?_⟩
  · rw [follower]
    exact current_followStream covered
  · have shown := Effect.tells_timeEffects (told ++ player.followStream.effects) track
      player.stream.position
    have kept := shown.append fun effect member => Effect.isTimeless_of_apart (quiet effect member)
    rw [effects]
    show Effect.Tells (told ++ (player.followStream.effects ++ _ ++ queued)) track _
    rw [← List.append_assoc, ← List.append_assoc]
    exact kept

omit [Scalar α] in
/-- Attaching a stream may load it, and does nothing else to it. -/
theorem stream_attachSource (player : Player α T G S F) (format : Option StreamFormat)
    (endpoint : Endpoint) :
    (player.orUnchanged (player.attachSource format endpoint)).stream = player.stream ∨
      ∃ url, (player.orUnchanged (player.attachSource format endpoint)).stream =
        (player.stream.loadSource url).1 := by
  unfold attachSource
  cases format with
  | none => exact Or.inl rfl
  | some format =>
    dsimp only
    split
    · exact Or.inl rfl
    · rename_i url _
      exact Or.inr ⟨url, rfl⟩

end Player

/-! ### Players and what they did -/

/-- A player, what its page carried out, and the positions that it visited. -/
structure Chronicle (α G S F : Type) where
  player : Player α (Deck α) G S F
  carriedOut : List (Effect α)
  visited : List α

/-- Whether a change of the stream is none of its place: it is not moved, and still can be. -/
structure Stream.LeftInPlace {α : Type} [Scalar α] (change : Stream (Deck α) → Stream (Deck α)) :
    Prop where
  position (stream : Stream (Deck α)) : (change stream).transport.position = stream.transport.position
  movable {stream : Stream (Deck α)} : stream.Movable → (change stream).Movable

namespace Chronicle

variable {α G S F : Type}

/-- All effects so far. -/
def effects (chronicle : Chronicle α G S F) : List (Effect α) :=
  chronicle.carriedOut ++ chronicle.player.effects

/-- Where the stream is. -/
def position (chronicle : Chronicle α G S F) : α := chronicle.player.stream.transport.position

/-- The chronicle when the player becomes another. -/
def become (chronicle : Chronicle α G S F) (after : Player α (Deck α) G S F) : Chronicle α G S F :=
  { chronicle with
    player := after
    visited := chronicle.visited ++ [after.stream.transport.position] }

section Exchanges

variable [Scalar α] [GainStage α G] [PreferenceStore S] [FrameSource F]

/-- The chronicle after an exchange. -/
def exchange (chronicle : Chronicle α G S F) : Exchange α (Deck α) → Chronicle α G S F
  | .input input => chronicle.become (chronicle.player.take input)
  | .handOver =>
    let (effects, player) := chronicle.player.drainEffects
    { chronicle with player, carriedOut := chronicle.carriedOut ++ effects }

/-- The chronicle after one exchange after the other. -/
def exchangeAll (chronicle : Chronicle α G S F) (exchanges : List (Exchange α (Deck α))) :
    Chronicle α G S F :=
  exchanges.foldl exchange chronicle

/-- A player that shows itself for the first time after some commands. -/
def start (player : Player α (Deck α) G S F) (early : List (Command α)) : Chronicle α G S F :=
  (Chronicle.mk (early.foldl Player.perform player) [] []).exchange (.input (.command .render))

/-- Whether an exchange leaves it to the player to move its stream: the stream is attached before
anything moved it from its start, and does not move on its own. -/
def Allows (chronicle : Chronicle α G S F) : Exchange α (Deck α) → Prop
  | .input (.command (.attach _ _)) => ∀ position ∈ chronicle.visited, position = 0.0
  | .input (.drift change) => Stream.LeftInPlace change
  | _ => True

/-- Whether each exchange is allowed when it comes. -/
def AllowsAll (chronicle : Chronicle α G S F) : List (Exchange α (Deck α)) → Prop
  | [] => True
  | exchange :: later =>
    chronicle.Allows exchange ∧ (chronicle.exchange exchange).AllowsAll later

end Exchanges

/-- The invariant: the last position that was visited is the present one, the stream can be moved, and
the player followed it. -/
structure Followed [Scalar α] (table : TrackTable α) (chronicle : Chronicle α G S F) : Prop where
  sameTable : chronicle.player.table = table
  movable : chronicle.player.stream.Movable
  here : chronicle.visited.getLast? = some chronicle.position
  inTrack : ∀ track, table.trackAt? chronicle.position = some track →
    chronicle.player.follower.current = track.index ∧
      Effect.Tells chronicle.effects track chronicle.position
  current : chronicle.player.follower.current = table.lastCovered chronicle.visited

section Steps

variable [Scalar α] {table : TrackTable α} {chronicle : Chronicle α G S F}
  {after : Player α (Deck α) G S F}

/-- A handler that neither moves the stream nor shows the time leaves everything as it was. -/
theorem Followed.rest (followed : Followed table chronicle)
    (untimed : chronicle.player.Untimed after) (movable : after.stream.Movable)
    (still : after.stream.transport.position = chronicle.position) :
    Followed table (chronicle.become after) := by
  obtain ⟨sameTable, current, queued, effects, timeless⟩ := untimed
  have place : (chronicle.become after).position = chronicle.position := still
  refine ⟨sameTable.trans followed.sameTable, movable, List.getLast?_concat, ?_, ?_⟩
  · intro track covered
    rw [place] at covered ⊢
    obtain ⟨index, tells⟩ := followed.inTrack track covered
    refine ⟨current.trans index, ?_⟩
    show Effect.Tells (chronicle.carriedOut ++ after.effects) track _
    rw [effects, ← List.append_assoc]
    exact tells.append timeless
  · show after.follower.current =
      table.lastCovered (chronicle.visited ++ [after.stream.transport.position])
    rw [still, current]
    cases covered : table.trackAt? chronicle.position with
    | none =>
      rw [TrackTable.lastCovered_append_of_uncovered covered]
      exact followed.current
    | some track =>
      rw [TrackTable.lastCovered_append_of_covered covered]
      exact (followed.inTrack track covered).1

/-- A handler that brings the page up to date follows the stream, wherever it moved it before. -/
theorem followed_update {middle : Player α (Deck α) G S F}
    (current : chronicle.player.follower.current = table.lastCovered chronicle.visited)
    (sameTable : chronicle.player.table = table) (earlier : chronicle.player.Untimed middle)
    (later : middle.updateTime.Untimed after) (movable : after.stream.Movable)
    (still : after.stream.transport.position = middle.stream.transport.position) :
    Followed table (chronicle.become after) := by
  have middleTable : middle.table = table := earlier.table.trans sameTable
  have updatedTable : middle.updateTime.table = middle.table := middle.table_updateTime
  obtain ⟨afterTable, afterCurrent, queued, effects, timeless⟩ := later
  have place : (chronicle.become after).position = middle.stream.transport.position := still
  have visited : (chronicle.become after).visited =
      chronicle.visited ++ [middle.stream.transport.position] := by
    rw [← still]
    rfl
  refine ⟨(afterTable.trans updatedTable).trans middleTable, movable, List.getLast?_concat, ?_, ?_⟩
  · intro track covered
    rw [place, ← middleTable] at covered
    obtain ⟨index, tells⟩ := Player.updateTime_tells covered chronicle.carriedOut
    refine ⟨afterCurrent.trans index, ?_⟩
    rw [place]
    show Effect.Tells (chronicle.carriedOut ++ after.effects) track _
    rw [effects, ← List.append_assoc]
    exact tells.append timeless
  · show after.follower.current = table.lastCovered (chronicle.become after).visited
    rw [visited, afterCurrent]
    cases covered : middle.table.trackAt? middle.stream.transport.position with
    | none =>
      have unchanged : middle.updateTime = middle := Player.updateTime_of_uncovered covered
      rw [middleTable] at covered
      rw [unchanged, earlier.current, current, TrackTable.lastCovered_append_of_uncovered covered]
    | some track =>
      have index := (Player.updateTime_tells covered []).1
      rw [middleTable] at covered
      rw [index, TrackTable.lastCovered_append_of_covered covered]

theorem followed_round (round : chronicle.player.Round after)
    (followed : Followed table chronicle) : Followed table (chronicle.become after) := by
  cases round with
  | rest apart kept =>
    obtain ⟨still, movable⟩ := kept.position_eq
    exact followed.rest apart.untimed (movable followed.movable) still
  | update middle earlier led later kept =>
    obtain ⟨still, movable⟩ := kept.position_eq
    exact followed_update followed.current followed.sameTable earlier.untimed later.untimed
      (movable (led.movable followed.movable)) still

theorem movable_attachSource {player : Player α (Deck α) G S F}
    (movable : player.stream.Movable) (format : Option StreamFormat) (endpoint : Endpoint) :
    (player.orUnchanged (player.attachSource format endpoint)).stream.Movable := by
  rcases player.stream_attachSource format endpoint with kept | ⟨url, loaded⟩
  · rw [kept]
    exact movable
  · rw [loaded]
    exact ⟨movable.running, movable.bounded⟩

/-- A stream that was not moved is where attaching puts it. -/
theorem followed_attach (followed : Followed table chronicle)
    (unmoved : ∀ position ∈ chronicle.visited, position = 0.0) (format : Option StreamFormat)
    (endpoint : Endpoint) :
    Followed table (chronicle.become
      (chronicle.player.orUnchanged (chronicle.player.attachSource format endpoint))) := by
  have atStart : chronicle.position = 0.0 :=
    unmoved _ (List.mem_of_getLast? followed.here)
  have apart := Player.apart_attachSource chronicle.player format endpoint
  refine followed.rest apart.untimed (movable_attachSource followed.movable _ _) ?_
  rcases chronicle.player.stream_attachSource format endpoint with kept | ⟨url, loaded⟩
  · rw [kept]
    rfl
  · rw [loaded]
    exact atStart.symm

/-- Writing to the follower has nothing to do with the time. -/
theorem followed_note (followed : Followed table chronicle) {follower : Follower}
    (current : follower.current = chronicle.player.follower.current) :
    Followed table (chronicle.become { chronicle.player with follower }) := by
  refine followed.rest ⟨rfl, current, [], (List.append_nil _).symm, ?_⟩ followed.movable rfl
  intro effect member
  exact absurd member List.not_mem_nil

variable [GainStage α G] [PreferenceStore S] [FrameSource F]

omit [FrameSource F] in
theorem followed_command (followed : Followed table chronicle) (command : Command α)
    (allowed : chronicle.Allows (.input (.command command))) :
    Followed table (chronicle.become (chronicle.player.perform command)) := by
  cases plain : command.isPlain with
  | true => exact followed_round (Player.round_perform chronicle.player plain) followed
  | false =>
    rcases chronicle.player.perform_of_not_plain plain with
      ⟨format, endpoint, rfl⟩ | ⟨follower, current, noted⟩
    · exact followed_attach followed allowed format endpoint
    · rw [noted]
      exact followed_note followed current

omit [GainStage α G] [PreferenceStore S] in
theorem followed_turn (followed : Followed table chronicle) (turn : Turn) :
    Followed table (chronicle.become (chronicle.player.notify turn.notification)) := by
  obtain ⟨ticker, log, told⟩ := chronicle.player.notify_turn_eq turn
  rw [told]
  exact followed.rest ⟨rfl, rfl, _, rfl, chronicle.player.timeless_turnEffects turn⟩
    followed.movable rfl

theorem followed_exchange (followed : Followed table chronicle)
    {exchange : Exchange α (Deck α)} (allowed : chronicle.Allows exchange) :
    Followed table (chronicle.exchange exchange) := by
  cases exchange with
  | handOver =>
    obtain ⟨sameTable, movable, here, inTrack, current⟩ := followed
    refine ⟨sameTable, movable, here, fun track covered => ?_, current⟩
    obtain ⟨index, tells⟩ := inTrack track covered
    refine ⟨index, ?_⟩
    show Effect.Tells (chronicle.carriedOut ++ chronicle.player.effects ++ []) track _
    rw [List.append_nil]
    exact tells
  | input input =>
    cases input with
    | command command => exact followed_command followed command allowed
    | notify notification =>
      rcases notification.turn_or_remark with ⟨turn, rfl⟩ | ⟨remark, rfl⟩
      · exact followed_turn followed turn
      · exact followed_round (Player.round_remark chronicle.player remark) followed
    | frame => exact followed_round (Player.round_onFrame chronicle.player) followed
    | drift change =>
      have leftInPlace : Stream.LeftInPlace change := allowed
      refine followed.rest ⟨rfl, rfl, [], (List.append_nil _).symm, ?_⟩
        (leftInPlace.movable followed.movable) (leftInPlace.position _)
      exact fun _ member => absurd member List.not_mem_nil

theorem followed_exchangeAll (followed : Followed table chronicle)
    {exchanges : List (Exchange α (Deck α))} (allowed : chronicle.AllowsAll exchanges) :
    Followed table (chronicle.exchangeAll exchanges) := by
  induction exchanges generalizing chronicle with
  | nil => exact followed
  | cons exchange later inductionHypothesis =>
    exact inductionHypothesis (followed_exchange followed allowed.1) allowed.2

end Steps

/-! ### From the start on -/

variable [Scalar α] [GainStage α G] [PreferenceStore S] [FrameSource F]

omit [FrameSource F] in
/-- What comes before a player shows itself leaves it in its first track, with a stream that can be
moved. -/
theorem ready_early {player : Player α (Deck α) G S F} (first : player.follower.current = 0)
    (movable : player.stream.Movable) {early : List (Command α)}
    (notPlain : ∀ command ∈ early, command.isPlain = false) :
    let ready := early.foldl Player.perform player
    ready.table = player.table ∧ ready.follower.current = 0 ∧ ready.stream.Movable := by
  induction early generalizing player with
  | nil => exact ⟨rfl, first, movable⟩
  | cons command later inductionHypothesis =>
    have next : (player.perform command).table = player.table ∧
        (player.perform command).follower.current = 0 ∧
        (player.perform command).stream.Movable := by
      rcases player.perform_of_not_plain (notPlain _ List.mem_cons_self) with
        ⟨format, endpoint, rfl⟩ | ⟨follower, current, noted⟩
      · have apart := Player.apart_attachSource player format endpoint
        refine ⟨apart.table, ?_, movable_attachSource movable format endpoint⟩
        exact (congrArg Follower.current apart.follower).trans first
      · rw [noted]
        exact ⟨rfl, current.trans first, movable⟩
    obtain ⟨sameTable, first, movable⟩ := next
    obtain ⟨table, current, movable⟩ := inductionHypothesis first movable fun command member =>
      notPlain command (List.mem_cons_of_mem _ member)
    exact ⟨table.trans sameTable, current, movable⟩

theorem followed_start {player : Player α (Deck α) G S F} (first : player.follower.current = 0)
    (movable : player.stream.Movable) {early : List (Command α)}
    (notPlain : ∀ command ∈ early, command.isPlain = false) :
    Followed player.table (start player early) := by
  obtain ⟨sameTable, current, movable⟩ := ready_early first movable notPlain
  unfold start
  generalize early.foldl Player.perform player = ready at sameTable current movable ⊢
  have opened : ready.Apart (ready.queue ready.openingEffects).volumeChanged :=
    (Player.apart_queue ready ready.apart_openingEffects).trans (Player.apart_volumeChanged _)
  have still := (ready.queue ready.openingEffects).volumeChanged.stream_updateTime
  show Followed player.table ((Chronicle.mk ready [] []).become
    (ready.queue ready.openingEffects).volumeChanged.updateTime)
  refine followed_update current sameTable opened.untimed (Player.Apart.refl _).untimed ?_ ?_
  · rw [still]
    exact movable
  · rw [still]

/-- A player whose stream does not end before it starts, and moves on its account alone, never fails to
move it. At every moment after it showed itself, if the position belongs to a track, that track is the
current one, and the page was last told where the position is in it; and in any case the current track
is the one of the last position visited that belonged to any, or the first track if none did. -/
theorem currentTrack_follows_positions {config : Config α} {duration : Option α}
    (bounded : ∀ length, duration = some length → (0.0 : α) ≤ length) {output : G} {store : S}
    {frames : F} {player : Player α (Deck α) G S F}
    (setUp : Player.new config (Deck.withDuration duration) output store frames = .ok player)
    {early : List (Command α)} (unplain : ∀ command ∈ early, command.isPlain = false)
    {exchanges : List (Exchange α (Deck α))}
    (allowed : (start player early).AllowsAll exchanges) :
    let ended := (start player early).exchangeAll exchanges
    ended.player.stream.isHalted = false ∧
      (∀ track, player.table.trackAt? ended.position = some track →
        ended.player.follower.current = track.index ∧
          Effect.latest Effect.seekPosition? ended.effects =
            some (track.fractionAt ended.position) ∧
          Effect.latest Effect.time? ended.effects =
            some (timeLabel (ended.position - track.starts) (some track.length),
              timeLabel track.length none)) ∧
      ended.player.follower.current = player.table.lastCovered ended.visited := by
  intro ended
  have isNew := Player.isNew_of_new setUp
  have first : player.follower.current = 0 := by
    rw [isNew.follower]
    rfl
  have movable : player.stream.Movable := by
    rw [isNew.stream]
    exact ⟨rfl, bounded⟩
  have followed : Followed player.table ended :=
    followed_exchangeAll (followed_start first movable unplain) allowed
  refine ⟨followed.movable.running, fun track covered => ?_, followed.current⟩
  obtain ⟨index, tells⟩ := followed.inTrack track covered
  exact ⟨index, tells.seekPosition, tells.time⟩

end Chronicle

/-! ### A release with a gap -/

namespace Gapped

open InMemory Player Chronicle

/-- Three tracks: the second one has no length, and the third one comes after a gap. -/
def config : Config ℚ :=
  { OneTrack.config none with
    tracks := [⟨"dawn", "Dawn", "", 0, 10⟩, ⟨"chime", "Chime", "", 10, 10⟩,
      ⟨"dusk", "Dusk", "", 12, 20⟩] }

/-- The player of the release, in memory, on an amplified output. -/
def setUp : Except (SetupError ℚ) (Player ℚ (Deck ℚ) (Gain ℚ) Store Frames) :=
  Player.new config (Deck.withDuration (some 20)) (Gain.ofHeadroom .amplified)
    (Store.ofEntries [] false) (Frames.fresh false)

/-- The listener plays the third track and then asks for the second one, on which no position lies. The
page carries out in between what is queued. -/
def wander : List (Exchange ℚ (Deck ℚ)) :=
  [.input (.command (.attach (some ⟨"opus", "audio/ogg"⟩) TwoTracks.endpoint)),
    .input (.command (.trackButton "dusk")), .handOver, .input (.notify .play),
    .input (.command (.trackButton "chime"))]

theorem currentTrack_follows_into_gap :
    ∃ player, setUp = .ok player ∧
      let inTrack := (start player []).exchangeAll (wander.take 4)
      let inGap := (start player []).exchangeAll wander
      (∃ track, player.table.trackAt? inTrack.position = some track ∧ track.slug = "dusk" ∧
        inTrack.player.follower.current = track.index ∧
        Effect.latest Effect.seekPosition? inTrack.effects =
          some (track.fractionAt inTrack.position)) ∧
      player.table.trackAt? inGap.position = none ∧ inGap.visited = [0, 0, 12, 12, 10] ∧
        inGap.player.follower.current = player.table.lastCovered [0, 0, 12, 12, 10] := by
  obtain ⟨player, made, checked⟩ := exists_of_any setUp (fun player =>
    decide ((start player []).visited = [0] ∧
      ((player.table.trackAt? ((start player []).exchangeAll (wander.take 4)).position).map
        fun track => track.slug) = some "dusk" ∧
      player.table.trackAt? ((start player []).exchangeAll wander).position = none ∧
      ((start player []).exchangeAll wander).visited = [0, 0, 12, 12, 10])) (by decide +kernel)
  obtain ⟨unmoved, inDusk, uncovered, visited⟩ := of_decide_eq_true checked
  obtain ⟨track, covered, slug⟩ := Option.map_eq_some_iff.mp inDusk
  have atStart : ∀ position ∈ (start player []).visited, position = 0.0 := by
    rw [unmoved]
    simp [Exact.zero_literal]
  have bounded : ∀ length, some (20 : ℚ) = some length → (0.0 : ℚ) ≤ length := by
    rintro length ⟨⟩
    rw [Exact.zero_literal]
    norm_num
  have early : ∀ command ∈ ([] : List (Command ℚ)), command.isPlain = false := by simp
  have whole : (start player []).AllowsAll wander :=
    ⟨atStart, trivial, trivial, trivial, trivial, trivial⟩
  have part : (start player []).AllowsAll (wander.take 4) :=
    ⟨atStart, trivial, trivial, trivial, trivial⟩
  obtain ⟨-, tells, -⟩ := currentTrack_follows_positions bounded made early part
  obtain ⟨-, -, current⟩ := currentTrack_follows_positions bounded made early whole
  obtain ⟨index, seekPosition, -⟩ := tells track covered
  rw [visited] at current
  exact ⟨player, made, ⟨track, covered, slug, index, seekPosition⟩, uncovered, visited, current⟩

end Gapped

end ReleasePlayer
