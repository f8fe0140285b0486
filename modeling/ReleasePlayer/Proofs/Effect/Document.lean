/-
This file proves that a page can make out of what it is handed what the player had: effects, notifications,
controls, bars, and the state of the player all come back from the values that they are handed over as, in
whatever order the fields come. Only a number that is not finite is lost on the way, and then nothing is
made of the rest.
-/

import ReleasePlayer.Effect.Document
import ReleasePlayer.Proofs.Json.Taken

namespace ReleasePlayer

open Json (Value Shape)

/-! ### Codecs -/

/-- How the things of a type are written as values and made out of values again. -/
structure Codec (β : Type) where
  shape : Shape
  toValue : β → Value
  ofValue? : Value → Option β
  /-- The numbers within a thing. -/
  numbers : β → List Float

namespace Codec

variable {β : Type} (codec : Codec β)

/-- The value that a thing is handed over as. -/
def send (thing : β) : Value := (codec.toValue thing).settled

/-- The thing that is made out of a value. -/
def receive (value : Value) : Except Json.Fault β := codec.shape.takeAs codec.ofValue? value

/-- The document of a thing says the value that the thing is handed over as. -/
theorem document_send (thing : β) :
    (codec.send thing).document = (codec.toValue thing).document :=
  congrArg String.ofList (codec.toValue thing).written_settled

def IsFinite (thing : β) : Prop := ∀ x ∈ codec.numbers thing, x.isFinite = true

/-- A thing whose numbers are finite comes back, in whatever order its fields are handed over, and no
other thing is handed over as the same. Nothing is made out of a thing with another number. -/
structure IsFaithful : Prop where
  comes_back : ∀ thing, codec.IsFinite thing → ∀ given : Value, given.Reorders (codec.send thing) →
    codec.receive given = .ok thing
  refused : ∀ thing, ¬codec.IsFinite thing → ∀ given : Value, given.Reorders (codec.send thing) →
    ∃ fault, codec.receive given = .error fault
  apart : ∀ one other, codec.IsFinite one → codec.IsFinite other →
    (codec.send one).Reorders (codec.send other) → one = other

/-- What makes a codec faithful: the shape accepts the values, and they say the things. -/
structure Lawful : Prop where
  returns : ∀ thing, codec.shape.Returns (codec.toValue thing)
  ofValue?_toValue : ∀ thing, codec.ofValue? (codec.toValue thing) = some thing
  isFinite_toValue : ∀ thing, (codec.toValue thing).isFinite = (codec.numbers thing).all Float.isFinite

variable {codec}

namespace Lawful

variable (lawful : codec.Lawful)

include lawful

theorem isFinite_iff (thing : β) :
    (codec.toValue thing).isFinite = true ↔ codec.IsFinite thing := by
  rw [lawful.isFinite_toValue]
  exact List.all_eq_true

/-- What is made out of the value of a thing, or nothing if a number is not finite. -/
theorem toOption_receive {thing : β} {given : Value} (same : given.Reorders (codec.send thing)) :
    (codec.receive given).toOption = if (codec.toValue thing).isFinite then some thing else none := by
  unfold receive
  rw [Shape.toOption_takeAs, lawful.returns thing given same, Value.readBack]
  cases (codec.toValue thing).isFinite with
  | false => rfl
  | true => exact lawful.ofValue?_toValue thing

theorem receive_of_finite {thing : β} (finite : codec.IsFinite thing) {given : Value}
    (same : given.Reorders (codec.send thing)) : codec.receive given = .ok thing := by
  have outcome := lawful.toOption_receive same
  rw [if_pos ((lawful.isFinite_iff thing).mpr finite)] at outcome
  exact Shape.eq_ok_of_toOption outcome

theorem receive_of_not_finite {thing : β} (notFinite : ¬codec.IsFinite thing) {given : Value}
    (same : given.Reorders (codec.send thing)) : ∃ fault, codec.receive given = .error fault := by
  have outcome := lawful.toOption_receive same
  rw [if_neg fun finite => notFinite ((lawful.isFinite_iff thing).mp finite)] at outcome
  exact Shape.exists_error_of_toOption outcome

theorem isFaithful : codec.IsFaithful where
  comes_back thing finite given same := lawful.receive_of_finite finite same
  refused thing notFinite given same := lawful.receive_of_not_finite notFinite same
  apart one other oneFinite otherFinite same := by
    have back := lawful.receive_of_finite oneFinite (.same _)
    rw [lawful.receive_of_finite otherFinite same] at back
    exact (Except.ok.inj back).symm

end Lawful

end Codec

/-! ### Names and controls -/

theorem Status.returns_name (status : Status) : Status.shape.Returns (.text status.name) :=
  Shape.returns_name (by cases status <;> rfl)

theorem ControlClass.ofValue?_name (shown : ControlClass) : ofValue? (.text shown.name) = some shown := by
  cases shown <;> rfl

theorem ControlClass.returns_name (shown : ControlClass) :
    ControlClass.shape.Returns (.text shown.name) :=
  Shape.returns_name (by cases shown <;> rfl)

theorem VolumeLevel.ofValue?_name (level : VolumeLevel) : ofValue? (.text level.name) = some level := by
  cases level <;> rfl

theorem VolumeLevel.returns_name (level : VolumeLevel) :
    VolumeLevel.shape.Returns (.text level.name) :=
  Shape.returns_name (by cases level <;> rfl)

namespace Control

def codec : Codec Control := ⟨shape, toValue, ofValue?, fun _ => []⟩

theorem returns (control : Control) : shape.Returns control.toValue := by
  cases control with
  | global =>
    rintro _ ⟨⟩
    rfl
  | track slug => exact Shape.returns_carried rfl rfl (Shape.returns_text slug)

theorem ofValue?_toValue (control : Control) : ofValue? control.toValue = some control := by
  cases control <;> rfl

theorem isFinite_toValue (control : Control) : control.toValue.isFinite = true := by
  cases control <;> rfl

theorem lawful : codec.Lawful := ⟨returns, ofValue?_toValue, isFinite_toValue⟩

end Control

/-! ### Records -/

namespace Bar

def codec : Codec (Bar Float) :=
  ⟨shape, toValue, ofValue?, fun bar => [bar.left, bar.top, bar.width, bar.height]⟩

theorem returns (bar : Bar Float) : shape.Returns bar.toValue :=
  Shape.returns_record "struct BarRect"
    (.cons (Shape.returns_real bar.left) <| .cons (Shape.returns_real bar.top) <|
      .cons (Shape.returns_real bar.width) <| .cons (Shape.returns_real bar.height) .nil)
    (by decide)

theorem lawful : codec.Lawful where
  returns := returns
  ofValue?_toValue _ := rfl
  isFinite_toValue bar := by
    show bar.toValue.isFinite = _
    unfold toValue
    rw [Value.isFinite_object]
    rfl

end Bar

namespace Snapshot

def codec : Codec (Snapshot Float) :=
  ⟨shape, toValue, ofValue?, fun snapshot => [snapshot.position, snapshot.volume, snapshot.maxVolume]⟩

theorem returns (snapshot : Snapshot Float) : shape.Returns snapshot.toValue :=
  Shape.returns_record "struct PlayerState"
    (.cons (Shape.returns_count snapshot.currentTrackIndex) <|
      .cons snapshot.status.returns_name <|
      .cons (Shape.returns_real snapshot.position) <|
      .cons (Shape.returns_real snapshot.volume) <|
      .cons (Shape.returns_real snapshot.maxVolume) <|
      .cons (Shape.returns_bool snapshot.replaygainEnabled) <|
      .cons (Shape.returns_optional_text snapshot.format) .nil)
    (by decide)

theorem ofValue?_toValue (snapshot : Snapshot Float) : ofValue? snapshot.toValue = some snapshot := by
  have index : (Value.whole snapshot.currentTrackIndex).count? = some snapshot.currentTrackIndex := by
    unfold Value.count?
    exact if_pos (Int.natCast_nonneg snapshot.currentTrackIndex)
  have status : Status.ofValue? (.text snapshot.status.name) = some snapshot.status := by
    cases snapshot.status <;> rfl
  have format : (Value.ofOption .text snapshot.format).optional? Value.text? =
      some snapshot.format := by
    cases snapshot.format <;> rfl
  show (do
    return {
      currentTrackIndex := ← (Value.whole snapshot.currentTrackIndex).count?
      status := ← Status.ofValue? (.text snapshot.status.name)
      position := snapshot.position
      volume := snapshot.volume
      maxVolume := snapshot.maxVolume
      replaygainEnabled := snapshot.replaygainEnabled
      format := ← (Value.ofOption .text snapshot.format).optional? Value.text? }) = some snapshot
  rw [index, status, format]
  rfl

theorem isFinite_toValue (snapshot : Snapshot Float) :
    snapshot.toValue.isFinite =
      [snapshot.position, snapshot.volume, snapshot.maxVolume].all Float.isFinite := by
  have format : (Value.ofOption .text snapshot.format).isFinite = true := by
    cases snapshot.format <;> rfl
  unfold toValue
  rw [Value.isFinite_object]
  simp only [List.all_cons, List.all_nil, format]
  rfl

theorem lawful : codec.Lawful := ⟨returns, ofValue?_toValue, isFinite_toValue⟩

end Snapshot

/-! ### Notifications and effects -/

namespace Notification

def codec : Codec Notification := ⟨shape, toValue, ofValue?, fun _ => []⟩

theorem returns (notification : Notification) : shape.Returns notification.toValue := by
  cases notification with
  | timeUpdate => exact Shape.returns_tagged rfl .nil (by decide)
  | progress => exact Shape.returns_tagged rfl .nil (by decide)
  | canPlay => exact Shape.returns_tagged rfl .nil (by decide)
  | play => exact Shape.returns_tagged rfl .nil (by decide)
  | pause => exact Shape.returns_tagged rfl .nil (by decide)
  | error message =>
    exact Shape.returns_tagged rfl (.cons (Shape.returns_text message) .nil) (by decide)

theorem ofValue?_toValue (notification : Notification) :
    ofValue? notification.toValue = some notification := by
  cases notification <;> rfl

theorem isFinite_toValue (notification : Notification) : notification.toValue.isFinite = true := by
  cases notification <;> rfl

theorem lawful : codec.Lawful := ⟨returns, ofValue?_toValue, isFinite_toValue⟩

end Notification

namespace Effect

/-- The numbers that an effect tells the page. -/
def numbers : Effect Float → List Float
  | setSeekPosition fraction => [fraction]
  | setBuffered fraction => [fraction]
  | setVolume _ _ fill => [fill]
  | _ => []

def codec : Codec (Effect Float) := ⟨shape, toValue, ofValue?, numbers⟩

theorem returns (effect : Effect Float) : shape.Returns effect.toValue := by
  cases effect with
  | swapClass control before after =>
    exact Shape.returns_tagged rfl (.cons control.returns <|
      .cons before.returns_name <| .cons after.returns_name .nil) (by decide)
  | setTitle title =>
    exact Shape.returns_tagged rfl (.cons (Shape.returns_text title) .nil) (by decide)
  | hideTitle => exact Shape.returns_tagged rfl .nil (by decide)
  | setTime elapsed total =>
    exact Shape.returns_tagged rfl (.cons (Shape.returns_text elapsed) <|
      .cons (Shape.returns_text total) .nil) (by decide)
  | setSeekPosition fraction =>
    exact Shape.returns_tagged rfl (.cons (Shape.returns_real fraction) .nil) (by decide)
  | setBuffered fraction =>
    exact Shape.returns_tagged rfl (.cons (Shape.returns_real fraction) .nil) (by decide)
  | setSkipState flags =>
    exact Shape.returns_tagged rfl (.cons (Shape.returns_bool flags.previousDisabled) <|
      .cons (Shape.returns_bool flags.nextDisabled) .nil) (by decide)
  | hideSkipButtons => exact Shape.returns_tagged rfl .nil (by decide)
  | setVolume level title fill =>
    exact Shape.returns_tagged rfl (.cons level.returns_name <|
      .cons (Shape.returns_text title) <| .cons (Shape.returns_real fill) .nil) (by decide)
  | setReplaygain enabled =>
    exact Shape.returns_tagged rfl (.cons (Shape.returns_bool enabled) .nil) (by decide)
  | setVolumeDropOpen isOpen =>
    exact Shape.returns_tagged rfl (.cons (Shape.returns_bool isOpen) .nil) (by decide)
  | setLyricsOpen slug isOpen =>
    exact Shape.returns_tagged rfl (.cons (Shape.returns_text slug) <|
      .cons (Shape.returns_bool isOpen) .nil) (by decide)
  | setTrackDuration slug label =>
    exact Shape.returns_tagged rfl (.cons (Shape.returns_text slug) <|
      .cons (Shape.returns_text label) .nil) (by decide)
  | unavailable reason =>
    exact Shape.returns_tagged rfl (.cons (Shape.returns_text reason) .nil) (by decide)

theorem ofValue?_toValue (effect : Effect Float) : ofValue? effect.toValue = some effect := by
  cases effect with
  | swapClass control before after =>
    show (do
      guard ("swapClass" = "swapClass")
      return swapClass (← Control.ofValue? control.toValue)
        (← ControlClass.ofValue? (.text before.name)) (← ControlClass.ofValue? (.text after.name))) = _
    rw [control.ofValue?_toValue, before.ofValue?_name, after.ofValue?_name]
    rfl
  | setVolume level title fill =>
    show (do
      guard ("setVolume" = "setVolume")
      return setVolume (← VolumeLevel.ofValue? (.text level.name)) title fill) = _
    rw [level.ofValue?_name]
    rfl
  | _ => rfl

theorem isFinite_toValue (effect : Effect Float) :
    effect.toValue.isFinite = effect.numbers.all Float.isFinite := by
  cases effect with
  | swapClass control before after =>
    unfold toValue
    rw [Value.isFinite_object]
    simp only [List.all_cons, control.isFinite_toValue]
    rfl
  | _ => rfl

theorem lawful : codec.Lawful := ⟨returns, ofValue?_toValue, isFinite_toValue⟩

end Effect

/-! ### What a page is handed -/

/-- All that is handed over to a page, or that a page can hand over, comes back. -/
theorem handed_over_comes_back :
    Effect.codec.IsFaithful ∧ Notification.codec.IsFaithful ∧ Control.codec.IsFaithful ∧
      Bar.codec.IsFaithful ∧ Snapshot.codec.IsFaithful :=
  ⟨Effect.lawful.isFaithful, Notification.lawful.isFaithful, Control.lawful.isFaithful,
    Bar.lawful.isFaithful, Snapshot.lawful.isFaithful⟩

/-- The fields of a swap come in the order of their names, and the swap is made out of them; a volume
that is not a number is handed over as `null`, and nothing is made out of that. -/
theorem sorted_swap_comes_back :
    Effect.codec.receive (.object [("control", .object [("track", .text "dawn")]),
        ("from", .text "play"), ("to", .text "pause"), ("type", .text "swapClass")]) =
      .ok (.swapClass (.track "dawn") .play .pause) ∧
      ∃ fault, Effect.codec.receive (.object [("fill", .null), ("level", .text "high"),
        ("title", .text "Volume: NaN%"), ("type", .text "setVolume")]) = .error fault := by
  have faithful := handed_over_comes_back.1
  have notFinite : Double.undefined.isFinite = false := by decide +kernel
  have sent : Effect.codec.send (.setVolume .high "Volume: NaN%" Double.undefined) =
      .object [("type", .text "setVolume"), ("level", .text "high"),
        ("title", .text "Volume: NaN%"), ("fill", .null)] := by
    show Value.object [_, _, _, ("fill", (Value.real Double.undefined).settled)] = _
    rw [Value.settled_real, notFinite]
    rfl
  refine ⟨faithful.comes_back (.swapClass (.track "dawn") .play .pause) nofun _ ?_,
    faithful.refused (.setVolume .high "Volume: NaN%" Double.undefined) (fun finite => ?_) _ ?_⟩
  · exact .object (@List.perm_append_comm _ [_, _, _] [_])
  · have number := finite Double.undefined List.mem_cons_self
    rw [notFinite] at number
    cases number
  · rw [sent]
    exact .object ((@List.perm_append_comm _ [_, _, _] [_]).trans
      (.cons _ (@List.perm_append_comm _ [_] [_, _])))

end ReleasePlayer
