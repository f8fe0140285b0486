/-
This file writes and reads as JSON what goes in and out of the player: notifications, effects, the
state of the player, and the small things they are made of. A page gets every effect in this form
and can make the effect out of it again.
-/

import ReleasePlayer.Config.Document
import ReleasePlayer.Effect

namespace ReleasePlayer

open Json (Value Shape)
open Json.Shape (Field Tagged)

/-! ### Names -/

def Status.all : List Status := [.playing, .paused]

def Status.shape : Shape := .names (Status.all.map Status.name)

def Status.ofValue? : Value → Option Status := Value.named? Status.all Status.name

def ControlClass.shape : Shape := .names (ControlClass.all.map ControlClass.name)

def ControlClass.ofValue? : Value → Option ControlClass :=
  Value.named? ControlClass.all ControlClass.name

def VolumeLevel.shape : Shape := .names (VolumeLevel.all.map VolumeLevel.name)

def VolumeLevel.ofValue? : Value → Option VolumeLevel :=
  Value.named? VolumeLevel.all VolumeLevel.name

namespace Control

def shape : Shape := .choice [("globalPlayPause", none), ("track", some .text)]

def toValue : Control → Value
  | global => .text "globalPlayPause"
  | track slug => .object [("track", .text slug)]

def ofValue? : Value → Option Control
  | .text "globalPlayPause" => some global
  | .object [("track", .text slug)] => some (track slug)
  | _ => none

end Control

/-! ### Records -/

namespace Track

def shape : Shape :=
  .record "struct Track" [
    .of "slug" .text,
    .of "title" .text,
    .of "subtitle" .text,
    .of "start" .real,
    .of "end" .real,
    .of "index" .count]

def toValue (track : Track Float) : Value :=
  .object [("slug", .text track.slug), ("title", .text track.title),
    ("subtitle", .text track.subtitle), ("start", .real track.starts), ("end", .real track.ends),
    ("index", .whole track.index)]

def ofValue? : Value → Option (Track Float)
  | .object [("slug", .text slug), ("title", .text title), ("subtitle", .text subtitle),
      ("start", .real starts), ("end", .real ends), ("index", index)] => do
    return { slug, title, subtitle, starts, ends, index := ← index.count? }
  | _ => none

end Track

namespace TrackRow

def shape : Shape :=
  .record "struct TrackRow" [
    .of "slug" .text,
    .of "number" .count,
    .of "title" .text,
    .of "subtitle" .text,
    .of "duration" .text]

def toValue (row : TrackRow) : Value :=
  .object [("slug", .text row.slug), ("number", .whole row.number), ("title", .text row.title),
    ("subtitle", .text row.subtitle), ("duration", .text row.duration)]

def ofValue? : Value → Option TrackRow
  | .object [("slug", .text slug), ("number", number), ("title", .text title),
      ("subtitle", .text subtitle), ("duration", .text duration)] => do
    return { slug, number := ← number.count?, title, subtitle, duration }
  | _ => none

end TrackRow

namespace Bar

def shape : Shape :=
  .record "struct BarRect" [
    .of "left" .real,
    .of "top" .real,
    .of "width" .real,
    .of "height" .real]

def toValue (bar : Bar Float) : Value :=
  .object [("left", .real bar.left), ("top", .real bar.top), ("width", .real bar.width),
    ("height", .real bar.height)]

def ofValue? : Value → Option (Bar Float)
  | .object [("left", .real left), ("top", .real top), ("width", .real width),
      ("height", .real height)] => some { left, top, width, height }
  | _ => none

end Bar

namespace Snapshot

def shape : Shape :=
  .record "struct PlayerState" [
    .of "currentTrackIndex" .count,
    .of "status" Status.shape,
    .of "position" .real,
    .of "volume" .real,
    .of "maxVolume" .real,
    .of "replaygainEnabled" .bool,
    ⟨"format", .optional .text, .nullable⟩]

def toValue (snapshot : Snapshot Float) : Value :=
  .object [("currentTrackIndex", .whole snapshot.currentTrackIndex),
    ("status", .text snapshot.status.name), ("position", .real snapshot.position),
    ("volume", .real snapshot.volume), ("maxVolume", .real snapshot.maxVolume),
    ("replaygainEnabled", .bool snapshot.replaygainEnabled),
    ("format", .ofOption .text snapshot.format)]

def ofValue? : Value → Option (Snapshot Float)
  | .object [("currentTrackIndex", index), ("status", status), ("position", .real position),
      ("volume", .real volume), ("maxVolume", .real maxVolume),
      ("replaygainEnabled", .bool replaygainEnabled), ("format", format)] => do
    return {
      currentTrackIndex := ← index.count?
      status := ← Status.ofValue? status
      position, volume, maxVolume, replaygainEnabled
      format := ← format.optional? Value.text? }
  | _ => none

end Snapshot

/-! ### Notifications -/

namespace Notification

def shape : Shape :=
  .tagged "internally tagged enum TransportEvent" "type" [
    ⟨"timeUpdate", "", []⟩,
    ⟨"progress", "", []⟩,
    ⟨"canPlay", "", []⟩,
    ⟨"play", "", []⟩,
    ⟨"pause", "", []⟩,
    ⟨"error", "struct variant TransportEvent::Error", [.of "message" .text]⟩]

def toValue : Notification → Value
  | timeUpdate => .object [("type", .text "timeUpdate")]
  | progress => .object [("type", .text "progress")]
  | canPlay => .object [("type", .text "canPlay")]
  | play => .object [("type", .text "play")]
  | pause => .object [("type", .text "pause")]
  | error message => .object [("type", .text "error"), ("message", .text message)]

def ofValue? : Value → Option Notification
  | .object [("type", .text "timeUpdate")] => some timeUpdate
  | .object [("type", .text "progress")] => some progress
  | .object [("type", .text "canPlay")] => some canPlay
  | .object [("type", .text "play")] => some play
  | .object [("type", .text "pause")] => some pause
  | .object [("type", .text "error"), ("message", .text message)] => some (error message)
  | _ => none

end Notification

/-! ### Effects -/

namespace Effect

def shape : Shape :=
  .tagged "internally tagged enum UiEffect" "type" [
    ⟨"swapClass", "struct variant UiEffect::SwapClass",
      [.of "control" Control.shape, .of "from" ControlClass.shape, .of "to" ControlClass.shape]⟩,
    ⟨"setTitle", "struct variant UiEffect::SetTitle", [.of "title" .text]⟩,
    ⟨"hideTitle", "", []⟩,
    ⟨"setTime", "struct variant UiEffect::SetTime", [.of "elapsed" .text, .of "total" .text]⟩,
    ⟨"setSeekPosition", "struct variant UiEffect::SetSeekPosition", [.of "fraction" .real]⟩,
    ⟨"setBuffered", "struct variant UiEffect::SetBuffered", [.of "fraction" .real]⟩,
    ⟨"setSkipState", "struct variant UiEffect::SetSkipState",
      [.of "prev_disabled" .bool, .of "next_disabled" .bool]⟩,
    ⟨"hideSkipButtons", "", []⟩,
    ⟨"setVolume", "struct variant UiEffect::SetVolume",
      [.of "level" VolumeLevel.shape, .of "title" .text, .of "fill" .real]⟩,
    ⟨"setReplaygain", "struct variant UiEffect::SetReplaygain", [.of "enabled" .bool]⟩,
    ⟨"setVolumeDropOpen", "struct variant UiEffect::SetVolumeDropOpen", [.of "open" .bool]⟩,
    ⟨"setLyricsOpen", "struct variant UiEffect::SetLyricsOpen",
      [.of "slug" .text, .of "open" .bool]⟩,
    ⟨"setTrackDuration", "struct variant UiEffect::SetTrackDuration",
      [.of "slug" .text, .of "label" .text]⟩,
    ⟨"unavailable", "struct variant UiEffect::Unavailable", [.of "reason" .text]⟩]

def toValue : Effect Float → Value
  | swapClass control before after =>
    .object [("type", .text "swapClass"), ("control", control.toValue),
      ("from", .text before.name), ("to", .text after.name)]
  | setTitle title => .object [("type", .text "setTitle"), ("title", .text title)]
  | hideTitle => .object [("type", .text "hideTitle")]
  | setTime elapsed total =>
    .object [("type", .text "setTime"), ("elapsed", .text elapsed), ("total", .text total)]
  | setSeekPosition fraction =>
    .object [("type", .text "setSeekPosition"), ("fraction", .real fraction)]
  | setBuffered fraction => .object [("type", .text "setBuffered"), ("fraction", .real fraction)]
  | setSkipState flags =>
    .object [("type", .text "setSkipState"), ("prev_disabled", .bool flags.previousDisabled),
      ("next_disabled", .bool flags.nextDisabled)]
  | hideSkipButtons => .object [("type", .text "hideSkipButtons")]
  | setVolume level title fill =>
    .object [("type", .text "setVolume"), ("level", .text level.name), ("title", .text title),
      ("fill", .real fill)]
  | setReplaygain enabled =>
    .object [("type", .text "setReplaygain"), ("enabled", .bool enabled)]
  | setVolumeDropOpen isOpen =>
    .object [("type", .text "setVolumeDropOpen"), ("open", .bool isOpen)]
  | setLyricsOpen slug isOpen =>
    .object [("type", .text "setLyricsOpen"), ("slug", .text slug), ("open", .bool isOpen)]
  | setTrackDuration slug label =>
    .object [("type", .text "setTrackDuration"), ("slug", .text slug), ("label", .text label)]
  | unavailable reason => .object [("type", .text "unavailable"), ("reason", .text reason)]

/-- The effect that the fields after a tag say. -/
def ofFields? (tag : String) : List (String × Value) → Option (Effect Float)
  | [("control", control), ("from", before), ("to", after)] => do
    guard (tag = "swapClass")
    return swapClass (← Control.ofValue? control) (← ControlClass.ofValue? before)
      (← ControlClass.ofValue? after)
  | [("title", .text title)] => do guard (tag = "setTitle"); return setTitle title
  | [("elapsed", .text elapsed), ("total", .text total)] => do
    guard (tag = "setTime")
    return setTime elapsed total
  | [("fraction", .real fraction)] =>
    if tag = "setSeekPosition" then some (setSeekPosition fraction)
    else if tag = "setBuffered" then some (setBuffered fraction)
    else none
  | [("prev_disabled", .bool previousDisabled), ("next_disabled", .bool nextDisabled)] => do
    guard (tag = "setSkipState")
    return setSkipState { previousDisabled, nextDisabled }
  | [("level", level), ("title", .text title), ("fill", .real fill)] => do
    guard (tag = "setVolume")
    return setVolume (← VolumeLevel.ofValue? level) title fill
  | [("enabled", .bool enabled)] => do guard (tag = "setReplaygain"); return setReplaygain enabled
  | [("open", .bool isOpen)] => do
    guard (tag = "setVolumeDropOpen")
    return setVolumeDropOpen isOpen
  | [("slug", .text slug), ("open", .bool isOpen)] => do
    guard (tag = "setLyricsOpen")
    return setLyricsOpen slug isOpen
  | [("slug", .text slug), ("label", .text label)] => do
    guard (tag = "setTrackDuration")
    return setTrackDuration slug label
  | [("reason", .text reason)] => do guard (tag = "unavailable"); return unavailable reason
  | [] =>
    if tag = "hideTitle" then some hideTitle
    else if tag = "hideSkipButtons" then some hideSkipButtons
    else none
  | _ => none

def ofValue? : Value → Option (Effect Float)
  | .object (("type", .text tag) :: fields) => ofFields? tag fields
  | _ => none

end Effect

end ReleasePlayer
