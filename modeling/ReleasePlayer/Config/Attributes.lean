/-
This file reads settings from the text attributes that a page carries beside the player. The tracks
and the formats have to be there, as JSON; of the others a blank one is as good as none.
-/

import ReleasePlayer.Config.Document

namespace ReleasePlayer

open Json (Value Shape)

namespace Config

/-- The value of an attribute; of two with one name the later counts. -/
def attribute? (attributes : List (String × String)) (name : String) : Option String :=
  attributes.reverse.lookup name

/-- The value of an attribute that is not blank. -/
def filled? (attributes : List (String × String)) (name : String) : Option String :=
  (attribute? attributes name).filter fun text => !Text.isBlankText text

/-- Reads an attribute that has to be there and carries a JSON text. -/
def jsonAttribute {β : Type} (attributes : List (String × String)) (name : String)
    (shape : Shape) (take : Value → Option β) : Except (ConfigError Float) β :=
  match attribute? attributes name with
  | none => .error (.missingAttribute name)
  | some text =>
    match shape.readAs take text with
    | .ok taken => .ok taken
    | .error problem => .error (.invalidAttribute name (.unreadable problem))

/-- Reads an attribute that carries one of a few names; `default` stands for one that is blank. -/
def nameAttribute {β : Type} (attributes : List (String × String)) (name : String)
    (recognise : String → Option β) (default : β) : Except (ConfigError Float) β :=
  match filled? attributes name with
  | none => .ok default
  | some text =>
    match recognise text with
    | some item => .ok item
    | none => .error (.invalidAttribute name (.unknownName text))

/-- Reads the attribute that carries the loudness. -/
def loudnessAttribute (attributes : List (String × String)) :
    Except (ConfigError Float) (Option Float) :=
  match filled? attributes "loudness" with
  | none => .ok none
  | some text =>
    match Scalar.read (Text.trim text) with
    | some loudness => .ok (some loudness)
    | none => .error (.invalidAttribute "loudness" (.notANumber text))

/-- Reads settings from the attributes of a page. -/
def ofAttributes (attributes : List (String × String)) :
    Except (ConfigError Float) (Config Float) := do
  let tracks ←
    jsonAttribute attributes "tracks" (.list TrackEntry.shape) (Value.listOf? TrackEntry.ofValue?)
  let formats ←
    jsonAttribute attributes "formats" (.list StreamFormat.shape)
      (Value.listOf? StreamFormat.ofValue?)
  let loudness ← loudnessAttribute attributes
  let trialClip ← nameAttribute attributes "trialClip" TrialClip.ofName? .silence
  let volumeBar ← nameAttribute attributes "volumeBar" BarAxis.ofName? .vertical
  normalize {
    root := (filled? attributes "root").getD "/"
    tracks, formats, loudness
    releaseSlug := filled? attributes "releaseSlug"
    overrideSlug := filled? attributes "overrideSlug"
    hideTitle := attribute? attributes "hideTitle" = some "true"
    trialClip, volumeBar }

end Config

end ReleasePlayer
