/-
This file proves that what streams is one fact, however often it is written down: the format that the
player names, the address that the stream keeps, and the source of the transport. All of them are those
of the last attachment, that is of the last call that asked for a format and found an address for it.
A call that fails, or that has no format to ask for, is not one, and leaves everything as it was. No
other handler does more to the stream than start it, pause it and move it, so going from track to track
never loads anything; and as nothing is started that has no source, a player without an attachment
never plays.
-/

import ReleasePlayer.Proofs.Player.Run
import ReleasePlayer.Proofs.Player.Setup
import ReleasePlayer.Proofs.Player.Round
import ReleasePlayer.Proofs.Stream

namespace ReleasePlayer

open InMemory (Deck)
open Relation (ReflTransGen)

/-! ### Streams that are not loaded -/

namespace Stream

section Driven

variable {α T : Type} [Scalar α] [Transport α T]

/-- The stream is started, paused or moved. -/
inductive Used : Stream T → Stream T → Prop where
  | played {before after : Stream T} (started : before.play = .ok after) : Used before after
  | paused (stream : Stream T) : Used stream stream.pause.1
  | sought (stream : Stream T) (time : α) : Used stream (stream.seek time).1

/-- Nothing else happens to the stream, so it is neither given a source nor loaded. -/
abbrev Driven : Stream T → Stream T → Prop := ReflTransGen Used

theorem Kept.driven {before after : Stream T} (kept : Kept before after) : Driven before after := by
  cases kept with
  | same => exact .refl
  | played started => exact .single (.played started)
  | paused => exact .single (.paused before)

theorem Led.driven {before after : Stream T} (led : Led before after) : Driven before after := by
  cases led with
  | kept kept => exact kept.driven
  | sought kept time => exact kept.driven.tail (.sought _ time)

end Driven

section Decks

variable {α : Type} [Scalar α] {before after : Stream (Deck α)}

/-- What a stream in memory plays, as the stream and as the deck have it. -/
structure SameSource (before after : Stream (Deck α)) : Prop where
  source : after.source = before.source
  deck : after.transport.source = before.transport.source
  isLoaded : after.transport.isLoaded = before.transport.isLoaded

omit [Scalar α] in
theorem SameSource.refl (stream : Stream (Deck α)) : SameSource stream stream := ⟨rfl, rfl, rfl⟩

omit [Scalar α] in
theorem SameSource.trans {middle : Stream (Deck α)} (earlier : SameSource before middle)
    (later : SameSource middle after) : SameSource before after :=
  ⟨later.source.trans earlier.source, later.deck.trans earlier.deck,
    later.isLoaded.trans earlier.isLoaded⟩

/-- The stream and its deck have an address, and it was loaded. -/
structure Loaded (stream : Stream (Deck α)) (url : String) : Prop where
  source : stream.source = some url
  deck : stream.transport.source = some url
  isLoaded : stream.transport.isLoaded = true

/-- Neither the stream nor its deck has a source. -/
structure Bare (stream : Stream (Deck α)) : Prop where
  source : stream.source = none
  deck : stream.transport.source = none
  isLoaded : stream.transport.isLoaded = false

/-- The stream has not played. -/
structure Unplayed (stream : Stream (Deck α)) : Prop where
  isPaused : stream.transport.isPaused = true
  playCalls : stream.transport.playCalls = 0

omit [Scalar α] in
theorem SameSource.loaded {url : String} (same : SameSource before after)
    (loaded : before.Loaded url) : after.Loaded url :=
  ⟨same.source.trans loaded.source, same.deck.trans loaded.deck,
    same.isLoaded.trans loaded.isLoaded⟩

omit [Scalar α] in
theorem SameSource.bare (same : SameSource before after) (bare : before.Bare) : after.Bare :=
  ⟨same.source.trans bare.source, same.deck.trans bare.deck, same.isLoaded.trans bare.isLoaded⟩

theorem eq_of_play (started : before.play = .ok after) :
    before.source.isSome = true ∧ after = { before with
      transport := { before.transport with
        isPaused := false
        playCalls := before.transport.playCalls + 1 } } := by
  unfold play at started
  split at started
  · cases started
  · rename_i sourced
    split at started
    · rename_i played answer
      obtain rfl := Except.ok.inj started
      rw [Deck.eq_of_play answer]
      refine ⟨?_, rfl⟩
      rwa [Option.isNone_iff_eq_none, ← ne_eq, Option.ne_none_iff_isSome] at sourced
    · cases started

/-- Moving a stream changes the position of its deck only, if it can be moved at all. -/
theorem seek_eq (stream : Stream (Deck α)) (time : α) : ∃ position isHalted,
    (stream.seek time).1 =
      { stream with transport := { stream.transport with position }, isHalted } := by
  unfold seek
  split
  · unfold moveTo
    split
    · rename_i moved landed
      obtain ⟨target, -, landed⟩ := Option.bind_eq_some_iff.mp landed
      obtain ⟨position, rfl⟩ := Deck.eq_of_moveTo landed
      exact ⟨position, stream.isHalted, rfl⟩
    · exact ⟨stream.transport.position, true, rfl⟩
  · exact ⟨stream.transport.position, stream.isHalted, rfl⟩

theorem Used.sameSource (used : Used before after) : SameSource before after := by
  cases used with
  | played started =>
    obtain ⟨-, rfl⟩ := eq_of_play started
    exact ⟨rfl, rfl, rfl⟩
  | paused => exact ⟨rfl, rfl, rfl⟩
  | sought time =>
    obtain ⟨position, isHalted, moved⟩ := before.seek_eq time
    rw [moved]
    exact ⟨rfl, rfl, rfl⟩

theorem Driven.sameSource (driven : Driven before after) : SameSource before after := by
  induction driven with
  | refl => exact .refl before
  | tail _ last inductionHypothesis => exact inductionHypothesis.trans last.sameSource

/-- A stream without a source cannot be started, so it stays as silent as it is. -/
theorem Driven.unplayed (driven : Driven before after) (sourceless : before.source = none)
    (unplayed : before.Unplayed) : after.Unplayed := by
  induction driven with
  | refl => exact unplayed
  | tail earlier last inductionHypothesis =>
    cases last with
    | played started =>
      obtain ⟨sourced, -⟩ := eq_of_play started
      rw [(Driven.sameSource earlier).source, sourceless] at sourced
      cases sourced
    | paused => exact ⟨rfl, inductionHypothesis.playCalls⟩
    | sought time =>
      rename_i middle
      obtain ⟨position, isHalted, moved⟩ := middle.seek_eq time
      rw [moved]
      exact ⟨inductionHypothesis.isPaused, inductionHypothesis.playCalls⟩

/-- The clock starts nothing. -/
theorem Unplayed.advance {stream : Stream (Deck α)} (unplayed : stream.Unplayed) (seconds : α) :
    Unplayed { stream with transport := stream.transport.advance seconds } := by
  have still : stream.transport.advance seconds = stream.transport := by
    unfold Deck.advance
    rw [if_pos unplayed.isPaused]
  rw [still]
  exact unplayed

theorem sameSource_advance (stream : Stream (Deck α)) (seconds : α) :
    SameSource stream { stream with transport := stream.transport.advance seconds } := by
  unfold Deck.advance
  split
  · exact .refl stream
  · dsimp only
    split
    · split <;> exact ⟨rfl, rfl, rfl⟩
    · exact ⟨rfl, rfl, rfl⟩

end Decks

end Stream

namespace Player

/-! ### Labels -/

section Label

variable {α T G S F : Type}

/-- What the address of a stream is made of, and the format that streams. Nothing but an attachment
writes to any of it. -/
structure Label (α : Type) where
  table : TrackTable α
  releaseSlug : Option String
  overrideSlug : Option String
  format : Option StreamFormat

def label (player : Player α T G S F) : Label α where
  table := player.table
  releaseSlug := player.releaseSlug
  overrideSlug := player.overrideSlug
  format := player.format

@[simp]
theorem label_queue (player : Player α T G S F) (effects : List (Effect α)) :
    (player.queue effects).label = player.label := rfl

variable [Transport α T]

@[simp]
theorem label_startStream (player : Player α T G S F) : player.startStream.label = player.label := by
  unfold startStream
  split <;> rfl

@[simp]
theorem label_pauseStream (player : Player α T G S F) : player.pauseStream.label = player.label := rfl

@[simp]
theorem label_togglePlay (player : Player α T G S F) : player.togglePlay.label = player.label := by
  unfold togglePlay
  split <;> simp

variable [Scalar α]

@[simp]
theorem label_seek (player : Player α T G S F) (time : α) :
    (player.seek time).label = player.label := rfl

@[simp]
theorem label_updateBuffered (player : Player α T G S F) :
    player.updateBuffered.label = player.label := by
  obtain ⟨effects, updated⟩ := player.updateBuffered_eq
  rw [updated, label_queue]

@[simp]
theorem label_updateTime (player : Player α T G S F) : player.updateTime.label = player.label := by
  obtain ⟨effects, log, updated⟩ := player.updateTime_eq
  rw [updated]
  rfl

@[simp]
theorem label_goTo (player : Player α T G S F) (index : Nat) :
    (player.goTo index).label = player.label := by
  unfold goTo
  split <;> simp

theorem label_trackButton (player : Player α T G S F) (slug : String) :
    (player.orUnchanged (player.trackButton slug)).label = player.label := by
  refine @orUnchanged_induction α T G S F (fun after => after.label = player.label) _ _ rfl
    fun after succeeded => ?_
  unfold trackButton at succeeded
  split at succeeded
  · cases succeeded
  · split at succeeded <;> obtain rfl := Except.ok.inj succeeded <;> simp

omit [Scalar α] in
theorem label_pointerUp (player : Player α T G S F) : player.pointerUp.label = player.label := by
  unfold pointerUp
  simp only [label_queue]
  split
  · exact label_startStream _
  · rfl

variable [GainStage α G] [PreferenceStore S]

theorem label_pointerMove (player : Player α T G S F) (x y : α) :
    (player.pointerMove x y).label = player.label := by
  unfold pointerMove
  split
  · exact label_updateTime _
  · rfl
  · rfl

/-- Every command but an attachment leaves the label alone. -/
theorem label_perform (player : Player α T G S F) {command : Command α}
    (other : ∀ format endpoint, command ≠ .attach format endpoint) :
    (player.perform command).label = player.label := by
  cases command with
  | attach format endpoint => exact absurd rfl (other format endpoint)
  | render => exact label_updateTime _
  | registerLyrics slug isOpen =>
    obtain ⟨follower, -, noted⟩ := player.registerLyrics_eq slug isOpen
    show (player.orUnchanged (player.registerLyrics slug isOpen)).label = player.label
    rw [noted]
    rfl
  | toggleLyrics slug isOpen =>
    obtain ⟨follower, -, noted⟩ := player.lyricsToggled_eq slug isOpen
    show (player.orUnchanged (player.lyricsToggled slug isOpen)).label = player.label
    rw [noted]
    rfl
  | seekDown bar x => exact label_updateTime _
  | volumeDown bar x y => rfl
  | move x y => exact player.label_pointerMove x y
  | up => exact player.label_pointerUp
  | togglePlay => exact player.label_togglePlay
  | skipPrevious =>
    show player.skipPrevious.label = player.label
    unfold skipPrevious
    split <;> simp
  | skipNext =>
    show player.skipNext.label = player.label
    unfold skipNext
    split <;> simp
  | trackButton slug => exact player.label_trackButton slug
  | toggleMute => rfl
  | toggleReplaygain => rfl

end Label

/-! ### Handlers -/

/-- What a host calls a player for. -/
inductive Call (α : Type) where
  | command (command : Command α)
  | notify (notification : Notification)
  | frame
  /-- The queued effects are taken. -/
  | drain

/-- Whether a call asks for a stream to be attached. -/
def Call.isAttach {α : Type} : Call α → Bool
  | .command (.attach _ _) => true
  | _ => false

section Calls

variable {α T G S F : Type} [Scalar α] [Transport α T] [GainStage α G] [PreferenceStore S]
  [FrameSource F]

/-- The player after a call. -/
def call (player : Player α T G S F) : Call α → Player α T G S F
  | .command command => player.perform command
  | .notify notification => player.notify notification
  | .frame => player.onFrame
  | .drain => player.drainEffects.2

omit [GainStage α G] [PreferenceStore S] [FrameSource F] in
theorem Round.driven {before after : Player α T G S F} (round : Round before after) :
    before.stream.Driven after.stream := by
  cases round with
  | rest apart kept => exact kept.driven
  | update middle earlier led later kept => exact led.driven.trans kept.driven

omit [FrameSource F] in
theorem driven_perform (player : Player α T G S F) {command : Command α}
    (other : ∀ format endpoint, command ≠ .attach format endpoint) :
    player.stream.Driven (player.perform command).stream := by
  cases plain : command.isPlain with
  | true => exact (player.round_perform plain).driven
  | false =>
    rcases player.perform_of_not_plain plain with ⟨format, endpoint, attach⟩ | ⟨follower, -, noted⟩
    · exact absurd attach (other format endpoint)
    · rw [noted]

/-- No call but an attachment loads the stream, or writes to the label. -/
theorem call_of_not_attach (player : Player α T G S F) {call : Call α}
    (other : call.isAttach = false) :
    player.stream.Driven (player.call call).stream ∧ (player.call call).label = player.label := by
  cases call with
  | command command =>
    have notAttach : ∀ format endpoint, command ≠ .attach format endpoint := by
      rintro format endpoint rfl
      cases other
    exact ⟨player.driven_perform notAttach, player.label_perform notAttach⟩
  | notify notification =>
    rcases notification.turn_or_remark with ⟨turn, rfl⟩ | ⟨remark, rfl⟩
    · obtain ⟨ticker, log, told⟩ := player.notify_turn_eq turn
      show player.stream.Driven (player.notify _).stream ∧ (player.notify _).label = _
      rw [told]
      exact ⟨.refl, rfl⟩
    · refine ⟨(player.round_remark remark).driven, ?_⟩
      cases remark with
      | timeUpdate => exact player.label_updateTime
      | progress => exact player.label_updateBuffered
      | canPlay => rfl
      | error message => rfl
  | frame => exact ⟨player.round_onFrame.driven, player.label_updateTime⟩
  | drain => exact ⟨.refl, rfl⟩

end Calls

/-! ### Attachments -/

/-- A format to stream, and where from. -/
structure Attachment where
  format : StreamFormat
  endpoint : Endpoint
deriving DecidableEq, Repr

section Attach

variable {α T G S F : Type} [Transport α T]

/-- The address at which a player with a label streams an attachment. -/
def Label.addressOf (label : Label α) (attachment : Attachment) : Except PlaybackError String :=
  attachment.endpoint.streamAddress label.releaseSlug label.overrideSlug label.table.first.slug
    attachment.format.name

/-- The attachment that a call comes to: it asks for one with a format, and that succeeds. -/
def attachment? (player : Player α T G S F) : Call α → Option Attachment
  | .command (.attach (some format) endpoint) =>
    match player.attachSource (some format) endpoint with
    | .ok _ => some ⟨format, endpoint⟩
    | .error _ => none
  | _ => none

/-- Attaching with a format succeeds just where there is an address, and then that is loaded. -/
theorem attachSource_some (player : Player α T G S F) (format : StreamFormat) (endpoint : Endpoint) :
    player.attachSource (some format) endpoint =
      (player.label.addressOf ⟨format, endpoint⟩).map fun url =>
        { player with stream := (player.stream.loadSource url).1, format := some format }.tell
          (Log.info ("Streaming " ++ url ++ " as " ++ format.name) ::
            (player.stream.loadSource url).2) := by
  have address : player.label.addressOf ⟨format, endpoint⟩ = endpoint.streamAddress player.releaseSlug
      player.overrideSlug player.table.first.slug format.name := rfl
  unfold attachSource
  rw [address]
  dsimp only
  cases endpoint.streamAddress player.releaseSlug player.overrideSlug player.table.first.slug
    format.name <;> rfl

variable [Scalar α] [GainStage α G] [PreferenceStore S] [FrameSource F]

/-- An attachment loads its address and names its format. -/
theorem call_of_attachment {player : Player α T G S F} {call : Call α} {attachment : Attachment}
    (attached : player.attachment? call = some attachment) : ∃ url,
      player.label.addressOf attachment = .ok url ∧
      (player.call call).stream = (player.stream.loadSource url).1 ∧
      (player.call call).label = { player.label with format := some attachment.format } := by
  unfold attachment? at attached
  split at attached
  · rename_i format endpoint
    split at attached
    · rename_i after succeeded
      obtain rfl := Option.some.inj attached
      have left : player.call (.command (.attach (some format) endpoint)) = after := by
        show player.orUnchanged (player.attachSource (some format) endpoint) = after
        rw [succeeded]
        rfl
      rw [attachSource_some] at succeeded
      cases address : player.label.addressOf ⟨format, endpoint⟩ with
      | error error =>
        rw [address] at succeeded
        cases succeeded
      | ok url =>
        rw [address] at succeeded
        obtain rfl := Except.ok.inj succeeded
        rw [left]
        exact ⟨url, rfl, rfl, rfl⟩
    · cases attached
  · cases attached

/-- A call to attach that is no attachment leaves the stream alone, and the label. -/
theorem call_of_no_attachment {player : Player α T G S F} {call : Call α}
    (isAttach : call.isAttach = true) (nothing : player.attachment? call = none) :
    (player.call call).stream = player.stream ∧ (player.call call).label = player.label := by
  unfold Call.isAttach at isAttach
  split at isAttach
  · rename_i format endpoint
    cases format with
    | none => exact ⟨rfl, rfl⟩
    | some format =>
      unfold attachment? at nothing
      dsimp only at nothing
      split at nothing
      · cases nothing
      · rename_i error failed
        show (player.orUnchanged (player.attachSource (some format) endpoint)).stream = _ ∧
          (player.orUnchanged (player.attachSource (some format) endpoint)).label = _
        rw [failed]
        exact ⟨rfl, rfl⟩
  · cases isAttach

end Attach

/-! ### Runs -/

/-- A call, or something that the deck of a player does on its own. -/
inductive Event (α : Type) where
  | call (call : Call α)
  | advance (seconds : α)
  | buffer (fetched : Option α)

section Runs

variable {α G S F : Type} [Scalar α] [GainStage α G] [PreferenceStore S] [FrameSource F]

/-- The player after an event. -/
def undergo (player : Player α (Deck α) G S F) : Event α → Player α (Deck α) G S F
  | .call call => player.call call
  | .advance seconds =>
    { player with
      stream := { player.stream with transport := player.stream.transport.advance seconds } }
  | .buffer fetched =>
    { player with
      stream := { player.stream with transport := player.stream.transport.buffer fetched } }

/-- The player after one event after the other. -/
def undergoAll (player : Player α (Deck α) G S F) (events : List (Event α)) :
    Player α (Deck α) G S F :=
  events.foldl undergo player

/-- The attachment that an event comes to. -/
def attachmentOf? (player : Player α (Deck α) G S F) : Event α → Option Attachment
  | .call call => player.attachment? call
  | _ => none

/-- The attachments of a run, in their order. -/
def attachments (player : Player α (Deck α) G S F) : List (Event α) → List Attachment
  | [] => []
  | event :: later =>
    (player.attachmentOf? event).toList ++ (player.undergo event).attachments later

/-- The player streams what was attached last, from addresses that do not change; and it was silent if
nothing was attached. -/
structure Agrees (address : Attachment → Except PlaybackError String) (last : Option Attachment)
    (player : Player α (Deck α) G S F) : Prop where
  addressOf : player.label.addressOf = address
  format : player.label.format = last.map Attachment.format
  loaded : ∀ attachment, last = some attachment →
    ∃ url, address attachment = .ok url ∧ player.stream.Loaded url
  bare : last = none → player.stream.Bare
  unplayed : last = none → player.stream.Unplayed

variable {address : Attachment → Except PlaybackError String} {last : Option Attachment}
  {player after : Player α (Deck α) G S F}

omit [Scalar α] [GainStage α G] [PreferenceStore S] [FrameSource F] in
/-- What neither loads the stream nor writes to the label leaves the agreement alone. -/
theorem Agrees.of_sameSource (agrees : player.Agrees address last)
    (same : player.stream.SameSource after.stream) (label : after.label = player.label)
    (unplayed : last = none → after.stream.Unplayed) : after.Agrees address last where
  addressOf := by rw [label, agrees.addressOf]
  format := by rw [label, agrees.format]
  loaded attachment isLast := by
    obtain ⟨url, found, loaded⟩ := agrees.loaded attachment isLast
    exact ⟨url, found, same.loaded loaded⟩
  bare nothing := same.bare (agrees.bare nothing)
  unplayed := unplayed

theorem agrees_call (agrees : player.Agrees address last) (call : Call α) :
    (player.call call).Agrees address ((player.attachment? call).or last) := by
  cases attached : player.attachment? call with
  | some attachment =>
    obtain ⟨url, found, stream, label⟩ := call_of_attachment attached
    rw [Option.some_or]
    constructor
    · rw [label, ← agrees.addressOf]
      rfl
    · rw [label]
      rfl
    · rintro _ ⟨⟩
      rw [stream, ← agrees.addressOf]
      exact ⟨url, found, rfl, rfl, rfl⟩
    · rintro ⟨⟩
    · rintro ⟨⟩
  | none =>
    rw [Option.none_or]
    cases isAttach : call.isAttach with
    | true =>
      obtain ⟨stream, label⟩ := call_of_no_attachment isAttach attached
      refine agrees.of_sameSource ?_ label ?_
      · rw [stream]
        exact .refl _
      · rw [stream]
        exact agrees.unplayed
    | false =>
      obtain ⟨driven, label⟩ := player.call_of_not_attach isAttach
      refine agrees.of_sameSource (Stream.Driven.sameSource driven) label fun nothing => ?_
      exact Stream.Driven.unplayed driven (agrees.bare nothing).source (agrees.unplayed nothing)

theorem agrees_undergo (agrees : player.Agrees address last) (event : Event α) :
    (player.undergo event).Agrees address ((player.attachmentOf? event).or last) := by
  cases event with
  | call call => exact agrees_call agrees call
  | advance seconds =>
    exact agrees.of_sameSource (player.stream.sameSource_advance seconds) rfl
      fun nothing => (agrees.unplayed nothing).advance seconds
  | buffer fetched =>
    exact agrees.of_sameSource ⟨rfl, rfl, rfl⟩ rfl
      fun nothing => ⟨(agrees.unplayed nothing).isPaused, (agrees.unplayed nothing).playCalls⟩

theorem agrees_undergoAll (agrees : player.Agrees address last) (events : List (Event α)) :
    (player.undergoAll events).Agrees address ((player.attachments events).getLast?.or last) := by
  induction events generalizing player last with
  | nil => exact agrees
  | cons event later inductionHypothesis =>
    have next := inductionHypothesis (agrees_undergo agrees event)
    have own : (player.attachmentOf? event).toList.getLast? = player.attachmentOf? event := by
      cases player.attachmentOf? event <;> rfl
    unfold attachments
    rwa [List.getLast?_append, own, Option.or_assoc]

omit [FrameSource F] in
/-- A new player streams nothing, and takes its slugs from the settings. -/
theorem agrees_new {config : Config α} {duration : Option α} {output : G} {store : S} {frames : F}
    (setUp : Player.new config (Deck.withDuration duration) output store frames = .ok player) :
    player.Agrees (fun attachment =>
      attachment.endpoint.streamAddress config.releaseSlug config.overrideSlug
        player.table.first.slug attachment.format.name) none := by
  unfold Player.new at setUp
  split at setUp
  · cases setUp
  · split at setUp
    · cases setUp
    · obtain rfl := Except.ok.inj setUp
      exact ⟨rfl, rfl, fun _ => nofun, fun _ => ⟨rfl, rfl, rfl⟩, fun _ => ⟨rfl, rfl⟩⟩

/-- Whatever happens to a player, it streams what was attached last. What is called on it after that is
an attachment, or a call to attach that changes nothing, or leaves the source and the format alone. -/
theorem source_of_last_attachment {config : Config α} {duration : Option α} {output : G} {store : S}
    {frames : F}
    (setUp : Player.new config (Deck.withDuration duration) output store frames = .ok player)
    (events : List (Event α)) :
    let reached := player.undergoAll events
    let last := (player.attachments events).getLast?
    (reached.snapshot.format = last.map fun attachment => attachment.format.name) ∧
    (reached.snapshot.format.isSome = reached.stream.hasSource) ∧
    (∀ attachment, last = some attachment → ∃ url,
      attachment.endpoint.streamAddress config.releaseSlug config.overrideSlug
        player.table.first.slug attachment.format.name = .ok url ∧ reached.stream.Loaded url) ∧
    (last = none → reached.stream.Bare ∧ reached.stream.Unplayed) ∧
    (∀ call, call.isAttach = true → reached.attachment? call = none →
      (reached.call call).stream = reached.stream ∧ (reached.call call).format = reached.format) ∧
    ∀ call, call.isAttach = false →
      reached.stream.Driven (reached.call call).stream ∧
      reached.stream.SameSource (reached.call call).stream ∧
      (reached.call call).format = reached.format := by
  intro reached last
  have agrees := agrees_undergoAll (agrees_new setUp) events
  rw [Option.or_none] at agrees
  have named : reached.snapshot.format = last.map fun attachment => attachment.format.name := by
    show reached.format.map StreamFormat.name = _
    rw [show reached.format = last.map Attachment.format from agrees.format, Option.map_map]
    rfl
  refine ⟨named, ?_, agrees.loaded, fun nothing => ⟨agrees.bare nothing, agrees.unplayed nothing⟩,
    ?_, ?_⟩
  · rw [named, Option.isSome_map]
    unfold Stream.hasSource
    cases known : last with
    | none =>
      rw [(agrees.bare known).source]
      rfl
    | some attachment =>
      obtain ⟨url, -, loaded⟩ := agrees.loaded attachment known
      rw [loaded.source]
      rfl
  · intro call isAttach nothing
    obtain ⟨stream, label⟩ := call_of_no_attachment isAttach nothing
    exact ⟨stream, congrArg Label.format label⟩
  · intro call other
    obtain ⟨driven, label⟩ := reached.call_of_not_attach other
    exact ⟨driven, Stream.Driven.sameSource driven, congrArg Label.format label⟩

end Runs

end Player

/-! ### A release that is attached twice -/

namespace TwoTracks

open InMemory Player

/-- An endpoint below which there are no addresses. -/
def nowhere : Endpoint where
  base := { endpoint.base with scheme := "data".toList, authority := none, path := .unsplit [] }

/-- The listener asks for music before there is any. Then the release is attached, first without a format
and then in one, and played, and to attach it again fails. -/
def attachings : List (Event Float) :=
  [.call (.command .togglePlay), .call (.command (.attach none endpoint)),
    .call (.command (.attach (some ⟨"opus", "audio/ogg"⟩) endpoint)),
    .call (.command (.trackButton "dusk")), .call (.notify .play), .advance 20.0,
    .call (.command (.attach (some ⟨"mp3", "audio/mpeg"⟩) nowhere))]

theorem source_of_attachings : ∃ player, setUp = .ok player ∧
    (player.undergoAll (attachings.take 2)).stream.Unplayed ∧
    (player.undergoAll attachings).snapshot.format = some "opus" ∧
    (player.undergoAll attachings).stream.Loaded
      "https://music.example/transcode/release/first-light?format=opus" := by
  obtain ⟨player, made, checked⟩ := exists_player (fun player =>
    decide ((player.attachments (attachings.take 2)).getLast? = none ∧
      (player.attachments attachings).getLast? = some ⟨⟨"opus", "audio/ogg"⟩, endpoint⟩))
    (by decide +kernel)
  obtain ⟨noneYet, opus⟩ := of_decide_eq_true checked
  obtain ⟨-, -, -, silent, -⟩ := source_of_last_attachment made (attachings.take 2)
  obtain ⟨named, -, loaded, -⟩ := source_of_last_attachment made attachings
  rw [opus] at named
  obtain ⟨url, found, loaded⟩ := loaded _ opus
  have address : endpoint.streamAddress (some "first-light") none player.table.first.slug "opus" =
      .ok "https://music.example/transcode/release/first-light?format=opus" := by
    show endpoint.address .release "first-light" "opus" = _
    decide +kernel
  obtain rfl := Except.ok.inj (found.symm.trans address)
  exact ⟨player, made, (silent noneYet).2, named, loaded⟩

end TwoTracks

end ReleasePlayer
