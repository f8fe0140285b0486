/-
This file proves that the album has no part in the volume. What a player does to its volume, its store
and its drag depends on nothing else of it, so that these make a machine of their own; the stream and
the tracks are not in it. In exact arithmetic the volume of either of two such machines follows a
ledger, whatever the factor of its album is. The two ledgers differ in whether albums are evened out
and in nothing else, and what is done to a ledger changes its volumes without asking for that. Hence
switching evening out in one of the machines alone leaves the pair as it was, and two runs that differ
in their albums and in such switches cannot be told apart by the volume.
-/

import ReleasePlayer.Proofs.Player.Handover
import ReleasePlayer.Proofs.Player.Round

namespace ReleasePlayer

/-! ### The sound of a player -/

/-- The part of a player that the volume depends on. -/
structure Sound (α G S : Type) where
  volume : VolumeControl α G
  store : S
  drag : Option (Drag α)
  volumeBar : BarAxis

namespace Sound

variable {α T G S : Type} [Scalar α] [GainStage α G] [PreferenceStore S]

/-- Stores the volume. -/
def save (sound : Sound α G S) : Sound α G S :=
  { sound with store := (Preferences.storeVolume sound.store sound.volume.volume).1 }

/-- Does something to the volume, and stores it. -/
def act (sound : Sound α G S) (action : VolumeAction α) : Sound α G S :=
  { sound with volume := sound.volume.act action }.save

/-- Picks the volume that the pointer is at. -/
def pick (sound : Sound α G S) (bar : Bar α) (x y : α) : Sound α G S :=
  sound.act (.fraction (bar.along sound.volumeBar x y))

/-- The pointer is moved. -/
def move (sound : Sound α G S) (x y : α) : Sound α G S :=
  match sound.drag with
  | some (.volume bar) => sound.pick bar x y
  | _ => sound

/-- Switches evening out on or off, and stores the switch and the volume. -/
def switch (sound : Sound α G S) : Sound α G S :=
  let volume := sound.volume.toggleReplaygain
  { sound with
    volume
    store := (Preferences.storeReplaygain sound.store volume.replaygain).1 }.save

/-- The sound after an input. -/
def take (sound : Sound α G S) : Input α T → Sound α G S
  | .command .render => sound.save
  | .command (.seekDown bar _) => { sound with drag := some (.seek bar) }
  | .command (.volumeDown bar x y) => { sound with drag := some (.volume bar) }.pick bar x y
  | .command (.move x y) => sound.move x y
  | .command .up => { sound with drag := none }
  | .command .toggleMute => sound.act .mute
  | .command .toggleReplaygain => sound.switch
  | _ => sound

/-- The sound after one input after the other. -/
def takeAll (sound : Sound α G S) (inputs : List (Input α T)) : Sound α G S := inputs.foldl take sound

end Sound

namespace Player

variable {α T G S F : Type}

/-- The sound of a player. -/
def sound (player : Player α T G S F) : Sound α G S :=
  ⟨player.volume, player.store, player.drag, player.volumeBar⟩

/-! ### The sound is a machine of its own -/

theorem sound_orUnchanged {player : Player α T G S F}
    {outcome : Except PlaybackError (Player α T G S F)}
    (kept : ∀ after, outcome = .ok after → after.sound = player.sound) :
    (player.orUnchanged outcome).sound = player.sound :=
  @orUnchanged_induction α T G S F (fun after => after.sound = player.sound) _ _ rfl kept

theorem sound_registerLyrics (player : Player α T G S F) (slug : String) (isOpen : Bool) :
    (player.orUnchanged (player.registerLyrics slug isOpen)).sound = player.sound := by
  obtain ⟨follower, -, noted⟩ := player.registerLyrics_eq slug isOpen
  rw [noted]
  rfl

theorem sound_lyricsToggled (player : Player α T G S F) (slug : String) (isOpen : Bool) :
    (player.orUnchanged (player.lyricsToggled slug isOpen)).sound = player.sound := by
  obtain ⟨follower, -, noted⟩ := player.lyricsToggled_eq slug isOpen
  rw [noted]
  rfl

variable [Transport α T]

theorem sound_startStream (player : Player α T G S F) : player.startStream.sound = player.sound := by
  unfold startStream
  split <;> rfl

theorem sound_togglePlay (player : Player α T G S F) :
    player.togglePlay.sound = player.sound := by
  unfold togglePlay
  split
  · exact sound_startStream player
  · rfl

theorem sound_pointerUp (player : Player α T G S F) :
    player.pointerUp.sound = { player.sound with drag := none } := by
  unfold pointerUp
  dsimp only
  split
  · exact sound_startStream { player with drag := none }
  · rfl

theorem sound_attachSource (player : Player α T G S F) (format : Option StreamFormat)
    (endpoint : Endpoint) :
    (player.orUnchanged (player.attachSource format endpoint)).sound = player.sound := by
  refine sound_orUnchanged fun after succeeded => ?_
  unfold attachSource at succeeded
  cases format with
  | none =>
    obtain rfl := Except.ok.inj succeeded
    rfl
  | some format =>
    dsimp only at succeeded
    split at succeeded
    · cases succeeded
    · obtain rfl := Except.ok.inj succeeded
      rfl

variable [Scalar α]

theorem sound_updateTime (player : Player α T G S F) : player.updateTime.sound = player.sound := by
  obtain ⟨effects, log, updated⟩ := player.updateTime_eq
  rw [updated]
  rfl

/-- A move of the stream and all that comes of it are not heard. -/
theorem sound_updateTime_seek (player : Player α T G S F) (time : α) :
    (player.seek time).updateTime.sound = player.sound :=
  sound_updateTime _

theorem sound_goTo (player : Player α T G S F) (index : Nat) :
    (player.goTo index).sound = player.sound := by
  unfold goTo
  split
  · exact sound_updateTime_seek player _
  · rfl

theorem sound_trackButton (player : Player α T G S F) (slug : String) :
    (player.orUnchanged (player.trackButton slug)).sound = player.sound := by
  refine sound_orUnchanged fun after succeeded => ?_
  unfold trackButton at succeeded
  split at succeeded
  · cases succeeded
  · split at succeeded
    · obtain rfl := Except.ok.inj succeeded
      exact sound_togglePlay player
    · obtain rfl := Except.ok.inj succeeded
      rw [sound_startStream, sound_goTo]

section Sounds

variable [GainStage α G] [PreferenceStore S]

theorem sound_renderInitial (player : Player α T G S F) :
    player.renderInitial.sound = player.sound.save := sound_updateTime _

theorem sound_pointerMove (player : Player α T G S F) (x y : α) :
    (player.pointerMove x y).sound = player.sound.move x y := by
  obtain ⟨_, _, _, _, _, _, _, _, _, _, _, drag, _, _⟩ := player
  rcases drag with _ | ⟨bar⟩ | ⟨bar⟩
  · rfl
  · exact sound_updateTime_seek _ _
  · rfl

theorem sound_perform (player : Player α T G S F) (command : Command α) :
    (player.perform command).sound = player.sound.take (.command command : Input α T) := by
  cases command with
  | attach format endpoint => exact sound_attachSource player format endpoint
  | render => exact sound_renderInitial player
  | registerLyrics slug isOpen => exact sound_registerLyrics player slug isOpen
  | toggleLyrics slug isOpen => exact sound_lyricsToggled player slug isOpen
  | seekDown bar x => exact sound_updateTime_seek _ _
  | volumeDown bar x y => rfl
  | move x y => exact sound_pointerMove player x y
  | up => exact sound_pointerUp player
  | togglePlay => exact sound_togglePlay player
  | skipPrevious =>
    show player.skipPrevious.sound = player.sound
    unfold skipPrevious
    split
    · rfl
    · exact sound_goTo player _
  | skipNext =>
    show player.skipNext.sound = player.sound
    unfold skipNext
    split
    · rfl
    · exact sound_goTo player _
  | trackButton slug => exact sound_trackButton player slug
  | toggleMute => rfl
  | toggleReplaygain => rfl

variable [FrameSource F]

omit [GainStage α G] [PreferenceStore S] in
theorem sound_notify (player : Player α T G S F) (notification : Notification) :
    (player.notify notification).sound = player.sound := by
  rcases notification.turn_or_remark with ⟨turn, rfl⟩ | ⟨remark, rfl⟩
  · obtain ⟨ticker, log, told⟩ := player.notify_turn_eq turn
    rw [told]
    rfl
  · cases remark with
    | timeUpdate => exact sound_updateTime player
    | progress =>
      obtain ⟨effects, updated⟩ := player.updateBuffered_eq
      show player.updateBuffered.sound = player.sound
      rw [updated]
      rfl
    | canPlay => rfl
    | error message => rfl

theorem sound_take (player : Player α T G S F) (input : Input α T) :
    (player.take input).sound = player.sound.take input := by
  cases input with
  | command command => exact sound_perform player command
  | notify notification => exact sound_notify player notification
  | frame => exact sound_updateTime player
  | drift change => rfl

theorem sound_takeAll (player : Player α T G S F) (inputs : List (Input α T)) :
    (player.takeAll inputs).sound = player.sound.takeAll inputs := by
  induction inputs generalizing player with
  | nil => rfl
  | cons input later inductionHypothesis =>
    show ((player.take input).takeAll later).sound = (player.sound.take input).takeAll later
    rw [inductionHypothesis, sound_take]

end Sounds

end Player

/-! ### Two volumes -/

section Pairs

variable {K G : Type} [Exact K] [GainStage K G]

/-- Whether albums are evened out decides nothing about the volumes of a ledger. -/
theorem Ledger.act_isOn (headroom : Headroom) (ledger : Ledger K) (isOn : Bool)
    (action : VolumeAction K) : ∃ switched,
      Ledger.act headroom { ledger with isOn } action =
        { Ledger.act headroom ledger action with isOn := switched } := by
  cases action with
  | set volume => exact ⟨isOn, rfl⟩
  | fraction fraction => exact ⟨isOn, rfl⟩
  | mute =>
    refine ⟨isOn, ?_⟩
    unfold Ledger.act
    dsimp only
    split <;> rfl
  | replaygain => exact ⟨!isOn, rfl⟩

namespace VolumeControl

/-- Two controls follow ledgers that differ at most in whether albums are evened out. -/
structure Paired (control other : VolumeControl K G) : Prop where
  headroom : other.headroom = control.headroom
  ledger : ∃ ledger isOn, control.Follows ledger ∧ other.Follows { ledger with isOn }

variable {control other : VolumeControl K G}

theorem Paired.symm (paired : Paired control other) : Paired other control := by
  obtain ⟨headroom, ledger, isOn, follows, otherFollows⟩ := paired
  exact ⟨headroom.symm, { ledger with isOn }, ledger.isOn, otherFollows, follows⟩

theorem Paired.volume_eq (paired : Paired control other) : control.volume = other.volume := by
  obtain ⟨-, ledger, isOn, follows, otherFollows⟩ := paired
  rw [follows.volume_eq, otherFollows.volume_eq]

variable [GainStage.Faithful G]

theorem Paired.act (paired : Paired control other) (action : VolumeAction K) :
    Paired (control.act action) (other.act action) := by
  obtain ⟨headroom, ledger, isOn, follows, otherFollows⟩ := paired
  obtain ⟨switched, same⟩ := ledger.act_isOn control.headroom isOn action
  refine ⟨?_, ledger.act control.headroom action, switched, follows.act action, ?_⟩
  · rw [(other.act_fixed action).1, (control.act_fixed action).1, headroom]
  · rw [← same, ← headroom]
    exact otherFollows.act action

/-- Switching evening out in one of two paired controls leaves them paired. -/
theorem Paired.switch (paired : Paired control other) : Paired control.toggleReplaygain other := by
  obtain ⟨headroom, ledger, isOn, follows, otherFollows⟩ := paired
  exact ⟨headroom, _, isOn, follows.switch, otherFollows⟩

end VolumeControl

end Pairs

/-! ### Two sounds -/

/-- Whether an input switches evening out on or off. -/
def Input.isSwitch {α T : Type} : Input α T → Bool
  | .command .toggleReplaygain => true
  | _ => false

theorem Input.eq_of_isSwitch {α T : Type} {input : Input α T} (isSwitch : input.isSwitch = true) :
    input = .command .toggleReplaygain := by
  cases input with
  | command command => cases command <;> first | rfl | cases isSwitch
  | _ => cases isSwitch

/-- Inputs without those that switch evening out on or off. -/
def withoutSwitches {α T : Type} (inputs : List (Input α T)) : List (Input α T) :=
  inputs.filter fun input => !input.isSwitch

namespace Sound

variable {K T G S : Type} [Exact K] [GainStage K G] [PreferenceStore S]

/-- Two sounds cannot be told apart by the volume, nor by what is stored of it. -/
structure Paired (alike : S → S → Prop) (sound other : Sound K G S) : Prop where
  volume : sound.volume.Paired other.volume
  store : alike sound.store other.store
  drag : other.drag = sound.drag
  volumeBar : other.volumeBar = sound.volumeBar

/-- Storing the volume again changes nothing. -/
def Saved (alike : S → S → Prop) (sound : Sound K G S) : Prop :=
  alike sound.save.store sound.store

variable {alike : S → S → Prop} {sound other : Sound K G S}
  (agreeing : PreferenceStore.Agreeing Preferences.volumeKey alike)
include agreeing

/-! ### What is stored -/

theorem saved_save (sound : Sound K G S) : Saved alike sound.save := agreeing.again _ _ _

/-- The switch is stored apart from the volume. -/
theorem alike_storeReplaygain (store : S) (isOn : Bool) :
    alike (Preferences.storeReplaygain store isOn).1 store :=
  agreeing.elsewhere (by decide) _ _ _

omit [GainStage K G] in
theorem alike_storeVolume {store other : S} (storesAlike : alike store other) (volume : K) :
    alike (Preferences.storeVolume store volume).1 (Preferences.storeVolume other volume).1 :=
  agreeing.write storesAlike _ _

theorem Saved.take (saved : Saved alike sound) (input : Input K T) :
    Saved alike (sound.take input) := by
  cases input with
  | command command =>
    cases command with
    | render => exact saved_save agreeing _
    | volumeDown bar x y => exact saved_save agreeing _
    | move x y =>
      show Saved alike (sound.move x y)
      unfold Sound.move
      split
      · exact saved_save agreeing _
      · exact saved
    | toggleMute => exact saved_save agreeing _
    | toggleReplaygain => exact saved_save agreeing _
    | _ => exact saved
  | _ => exact saved

theorem Saved.takeAll (saved : Saved alike sound) (inputs : List (Input K T)) :
    Saved alike (sound.takeAll inputs) := by
  induction inputs generalizing sound with
  | nil => exact saved
  | cons input later inductionHypothesis =>
    exact inductionHypothesis (saved.take agreeing input)

/-! ### What keeps two sounds together -/

theorem Paired.symm (paired : Paired alike sound other) : Paired alike other sound :=
  ⟨paired.volume.symm, agreeing.equivalence.symm paired.store, paired.drag.symm,
    paired.volumeBar.symm⟩

theorem Paired.save (paired : Paired alike sound other) : Paired alike sound.save other.save := by
  refine ⟨paired.volume, ?_, paired.drag, paired.volumeBar⟩
  have stored := alike_storeVolume agreeing paired.store sound.volume.volume
  unfold Sound.save
  rw [← paired.volume.volume_eq]
  exact stored

variable [GainStage.Faithful G]

theorem Paired.act (paired : Paired alike sound other) (action : VolumeAction K) :
    Paired alike (sound.act action) (other.act action) :=
  Paired.save agreeing ⟨paired.volume.act action, paired.store, paired.drag, paired.volumeBar⟩

theorem Paired.pick (paired : Paired alike sound other) (bar : Bar K) (x y : K) :
    Paired alike (sound.pick bar x y) (other.pick bar x y) := by
  unfold Sound.pick
  rw [paired.volumeBar]
  exact paired.act agreeing _

theorem Paired.move (paired : Paired alike sound other) (x y : K) :
    Paired alike (sound.move x y) (other.move x y) := by
  unfold Sound.move
  rw [paired.drag]
  split
  · exact paired.pick agreeing _ x y
  · exact paired

/-- One of the two alone switches evening out. What it stores of the volume is there already. -/
theorem Paired.switch (paired : Paired alike sound other) (otherSaved : Saved alike other) :
    Paired alike sound.switch other := by
  have volume := paired.volume.switch
  refine ⟨volume, ?_, paired.drag, paired.volumeBar⟩
  have switched := agreeing.equivalence.trans (alike_storeReplaygain agreeing sound.store
    sound.volume.toggleReplaygain.replaygain) paired.store
  have stored := alike_storeVolume agreeing switched sound.volume.toggleReplaygain.volume
  refine agreeing.equivalence.trans stored ?_
  rw [volume.volume_eq]
  exact otherSaved

theorem Paired.take (paired : Paired alike sound other) (otherSaved : Saved alike other)
    (input : Input K T) :
    Paired alike (sound.take input) (other.take input) := by
  cases input with
  | command command =>
    cases command with
    | render => exact paired.save agreeing
    | seekDown bar x => exact { paired with drag := rfl }
    | volumeDown bar x y =>
      have pressed : Paired alike { sound with drag := some (.volume bar) }
          { other with drag := some (.volume bar) } := { paired with drag := rfl }
      exact pressed.pick agreeing bar x y
    | move x y => exact paired.move agreeing x y
    | up => exact { paired with drag := rfl }
    | toggleMute => exact paired.act agreeing .mute
    | toggleReplaygain =>
      -- the one switches, and then the other
      have one := paired.switch agreeing otherSaved
      have both := (one.symm agreeing).switch agreeing (saved_save agreeing _)
      exact both.symm agreeing
    | _ => exact paired
  | _ => exact paired

/-! ### Runs -/

/-- However often one of the two alone switches evening out, they stay together. -/
theorem Paired.takeAll_switches (paired : Paired alike sound other) (otherSaved : Saved alike other)
    {inputs : List (Input K T)} (switches : ∀ input ∈ inputs, input.isSwitch = true) :
    Paired alike (sound.takeAll inputs) other := by
  induction inputs generalizing sound with
  | nil => exact paired
  | cons input later inductionHypothesis =>
    obtain rfl := Input.eq_of_isSwitch (switches input List.mem_cons_self)
    exact inductionHypothesis (paired.switch agreeing otherSaved) fun input member =>
      switches input (List.mem_cons_of_mem _ member)

/-- Two runs whose inputs differ in switches only stay together. -/
theorem Paired.takeAll (paired : Paired alike sound other) (saved : Saved alike sound)
    (otherSaved : Saved alike other) {inputs others : List (Input K T)}
    (same : withoutSwitches inputs = withoutSwitches others) :
    Paired alike (sound.takeAll inputs) (other.takeAll others) := by
  induction inputs generalizing sound other others with
  | nil =>
    have switches : ∀ input ∈ others, input.isSwitch = true := by
      have none : withoutSwitches others = [] := same.symm
      simpa [withoutSwitches] using none
    have ahead := (paired.symm agreeing).takeAll_switches agreeing saved switches
    exact ahead.symm agreeing
  | cons input later inductionHypothesis =>
    cases isSwitch : input.isSwitch with
    | true =>
      obtain rfl := Input.eq_of_isSwitch isSwitch
      exact inductionHypothesis (paired.switch agreeing otherSaved)
        (saved.take agreeing (.command .toggleReplaygain : Input K T)) otherSaved same
    | false =>
      -- the other one may switch some times before it takes in the same
      have kept : withoutSwitches others = input :: withoutSwitches later := by
        rw [← same]
        exact List.filter_cons_of_pos (by rw [isSwitch]; rfl)
      obtain ⟨switches, rest, rfl, dropped, -, remaining⟩ := List.filter_eq_cons_iff.mp kept
      have onlySwitches : ∀ input ∈ switches, input.isSwitch = true := by
        simpa using dropped
      have behind := ((paired.symm agreeing).takeAll_switches agreeing saved onlySwitches).symm
        agreeing
      have behindSaved := otherSaved.takeAll agreeing switches
      have together := inductionHypothesis (behind.take agreeing behindSaved input)
        (saved.take agreeing input) (behindSaved.take agreeing input) remaining.symm
      unfold Sound.takeAll at together ⊢
      rw [List.foldl_append]
      exact together

end Sound

/-! ### Two players -/

namespace Player

variable {K T G S F : Type} [Exact K] [Transport K T] [GainStage K G] [GainStage.Faithful G]
  [PreferenceStore S] [FrameSource F]

omit [Transport K T] [FrameSource F] in
/-- Two new players whose stores say the same volume are together, whatever their albums are. -/
theorem paired_of_new {config other : Config K} {transport otherTransport : T}
    {output otherOutput : G} {store otherStore : S} {frames otherFrames : F}
    {player otherPlayer : Player K T G S F}
    (setUp : new config transport output store frames = .ok player)
    (otherSetUp : new other otherTransport otherOutput otherStore otherFrames = .ok otherPlayer)
    (sameBar : other.volumeBar = config.volumeBar)
    (sameHeadroom : GainStage.headroom otherOutput = GainStage.headroom output)
    {alike : S → S → Prop} (agreeing : PreferenceStore.Agreeing Preferences.volumeKey alike)
    (storesAlike : alike store otherStore) :
    Sound.Paired alike player.sound otherPlayer.sound := by
  have isNew := isNew_of_new setUp
  have otherIsNew := isNew_of_new otherSetUp
  have sameVolume : (Preferences.load otherStore : Preferences K × _).1.volume =
      (Preferences.load store).1.volume := by
    show (Preferences.loadVolume otherStore).1 = (Preferences.loadVolume store).1
    unfold Preferences.loadVolume
    rw [agreeing.read storesAlike]
  have follows := isNew.follows
  have otherFollows := otherIsNew.follows
  rw [sameHeadroom, sameVolume] at otherFollows
  refine ⟨⟨?_, _, Preferences.loadReplaygain otherStore, follows, otherFollows⟩, ?_, ?_, ?_⟩
  · exact otherIsNew.inBooks.headroom.trans (sameHeadroom.trans isNew.inBooks.headroom.symm)
  · show alike player.store otherPlayer.store
    rw [isNew.store, otherIsNew.store]
    exact storesAlike
  · exact otherIsNew.drag.trans isNew.drag.symm
  · exact (volumeBar_of_new otherSetUp).trans (sameBar.trans (volumeBar_of_new setUp).symm)

/-- In exact arithmetic two players whose outputs have the same headroom, whose volume bars fill in the
same direction and whose stores said the same volume cannot be told apart by their volume once they
showed themselves, though their albums are of any loudness and either of them switches evening out as
often as it likes between what both of them take in. -/
theorem volume_independent_of_album {config other : Config K} {transport otherTransport : T}
    {output otherOutput : G} {store otherStore : S} {frames otherFrames : F}
    {player otherPlayer : Player K T G S F}
    (setUp : new config transport output store frames = .ok player)
    (otherSetUp : new other otherTransport otherOutput otherStore otherFrames = .ok otherPlayer)
    (sameBar : other.volumeBar = config.volumeBar)
    (sameHeadroom : GainStage.headroom otherOutput = GainStage.headroom output)
    {alike : S → S → Prop} (agreeing : PreferenceStore.Agreeing Preferences.volumeKey alike)
    (storesAlike : alike store otherStore) {inputs others : List (Input K T)}
    (sameInputs : withoutSwitches inputs = withoutSwitches others) :
    let ended := player.renderInitial.takeAll inputs
    let otherEnded := otherPlayer.renderInitial.takeAll others
    ended.snapshot.volume = otherEnded.snapshot.volume ∧
      ended.volume.level = otherEnded.volume.level ∧
      ended.volume.fill = otherEnded.volume.fill ∧
      PreferenceStore.read ended.store Preferences.volumeKey =
        PreferenceStore.read otherEnded.store Preferences.volumeKey := by
  intro ended otherEnded
  have started := (paired_of_new setUp otherSetUp sameBar sameHeadroom agreeing storesAlike).save
    agreeing
  have paired := started.takeAll agreeing (Sound.saved_save agreeing _)
    (Sound.saved_save agreeing _) sameInputs
  rw [← sound_renderInitial, ← sound_renderInitial, ← sound_takeAll, ← sound_takeAll] at paired
  have sameVolume : ended.volume.volume = otherEnded.volume.volume := paired.volume.volume_eq
  have sameEnd : otherEnded.volume.headroom = ended.volume.headroom := paired.volume.headroom
  refine ⟨sameVolume, congrArg VolumeLevel.ofVolume sameVolume, ?_, agreeing.read paired.store⟩
  unfold VolumeControl.fill VolumeControl.maxVolume
  rw [sameVolume, sameEnd]

end Player

namespace OneTrack

open InMemory Player

/-- The store of a listener who switched evening out off. -/
def storeSwitchedOff : Store := .ofEntries [("volume", "loud"), ("replaygain", "off")] false

/-- The listener picks a third of the volume bar, and goes to silence and back. -/
def pickAndMute : List (Input ℚ (Deck ℚ)) :=
  [.command (.volumeDown ⟨0, 0, 90, 10⟩ 30 0), .command .up, .command .toggleMute,
    .command .toggleMute]

/-- The listener does the same, but switches evening out on while the volume bar is pressed, and off
and on again during silence. -/
def pickMuteAndSwitch : List (Input ℚ (Deck ℚ)) :=
  [.command (.volumeDown ⟨0, 0, 90, 10⟩ 30 0), .command .toggleReplaygain, .command .up,
    .command .toggleMute, .command .toggleReplaygain, .command .toggleReplaygain,
    .command .toggleMute]

/-- A loud album and one that was not measured are played at gains that differ by a factor of ten, and
the listener hears of one volume. -/
theorem volume_independent_of_loud_album :
    ∃ player otherPlayer, setUp (some (-2)) store = .ok player ∧
      setUp none storeSwitchedOff = .ok otherPlayer ∧
      let ended := player.renderInitial.takeAll pickAndMute
      let otherEnded := otherPlayer.renderInitial.takeAll pickMuteAndSwitch
      ended.volume.gain = 1 / 20 ∧ otherEnded.volume.gain = 1 / 2 ∧
        ended.snapshot.volume = otherEnded.snapshot.volume ∧
        ended.volume.level = otherEnded.volume.level ∧
        ended.volume.fill = otherEnded.volume.fill ∧
        PreferenceStore.read ended.store Preferences.volumeKey =
          PreferenceStore.read otherEnded.store Preferences.volumeKey := by
  obtain ⟨player, made, gain⟩ := exists_of_any (setUp (some (-2)) store)
    (fun player => decide ((player.renderInitial.takeAll pickAndMute).volume.gain = 1 / 20))
    (by decide +kernel)
  obtain ⟨otherPlayer, otherMade, otherGain⟩ := exists_of_any (setUp none storeSwitchedOff)
    (fun player => decide ((player.renderInitial.takeAll pickMuteAndSwitch).volume.gain = 1 / 2))
    (by decide +kernel)
  exact ⟨player, otherPlayer, made, otherMade, of_decide_eq_true gain, of_decide_eq_true otherGain,
    volume_independent_of_album made otherMade rfl rfl (Store.agreeing _) ⟨rfl, by decide⟩ rfl⟩

end OneTrack

end ReleasePlayer
