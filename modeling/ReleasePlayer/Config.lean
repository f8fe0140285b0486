/-
This file holds the settings of a player. A page carries them as text attributes beside the player
or as one JSON object; either way they come out in one normal form: the root ends in a slash, and a
slug that is there is not empty. Settings are refused with the name of the attribute at fault.
-/

import ReleasePlayer.Track
import ReleasePlayer.Text.Blank
import ReleasePlayer.Text.Quoted
import ReleasePlayer.Json.Shape

namespace ReleasePlayer

/-- The clip that is loaded to try a format. -/
inductive TrialClip where
  /-- A second of silence that the server keeps for this. -/
  | silence
  /-- The first track of the release. -/
  | firstTrack
deriving DecidableEq, Repr

namespace TrialClip

/-- The name of a clip. -/
def name : TrialClip → String
  | silence => "silence"
  | firstTrack => "first-track"

/-- Recognises a clip by one of its names. -/
def ofName? (text : String) : Option TrialClip :=
  match Text.nameForm text with
  | "silence" => some silence
  | "testtrack" => some silence
  | "first-track" => some firstTrack
  | "first" => some firstTrack
  | "track" => some firstTrack
  | _ => none

def all : List TrialClip := [silence, firstTrack]

end TrialClip

/-- The direction in which a volume bar fills. -/
inductive BarAxis where
  /-- Silent at the bottom, loudest at the top. -/
  | vertical
  /-- Silent at the left, loudest at the right. -/
  | horizontal
deriving DecidableEq, Repr

namespace BarAxis

/-- The name of an axis. -/
def name : BarAxis → String
  | vertical => "vertical"
  | horizontal => "horizontal"

/-- Recognises an axis by its name. -/
def ofName? (text : String) : Option BarAxis :=
  match Text.nameForm text with
  | "vertical" => some vertical
  | "horizontal" => some horizontal
  | _ => none

def all : List BarAxis := [vertical, horizontal]

end BarAxis

/-- The settings of a player. -/
structure Config (α : Type) where
  /-- Where the site is, with a slash at its end. -/
  root : String
  tracks : List (TrackEntry α)
  /-- The formats on offer, the most preferred first. -/
  formats : List StreamFormat
  /-- The loudness of the album, if it was measured. -/
  loudness : Option α
  /-- The slug under which the whole release streams. -/
  releaseSlug : Option String
  /-- The slug that streams instead of the first track where there is no release. -/
  overrideSlug : Option String
  hideTitle : Bool
  trialClip : TrialClip
  volumeBar : BarAxis
deriving DecidableEq, Repr

/-! ### What settings are refused for -/

/-- What is wrong with an attribute. -/
inductive AttributeFault (α : Type) where
  /-- Its JSON text is refused. -/
  | unreadable (problem : Json.Problem)
  | notANumber (text : String)
  | unknownName (text : String)
  | unnamedFormat (position : Nat)
  | notFinite (value : α)
deriving DecidableEq, Repr

/-- Why settings are refused. -/
inductive ConfigError (α : Type) where
  | missingAttribute (name : String)
  | invalidAttribute (name : String) (fault : AttributeFault α)
  | unreadable (problem : Json.Problem)
deriving DecidableEq, Repr

section Messages

variable {α : Type} [Scalar α]

/-- The wording of a fault. -/
def AttributeFault.message : AttributeFault α → String
  | unreadable problem => problem.message
  | notANumber text => Text.quoted text ++ ": invalid float literal"
  | unknownName text => text
  | unnamedFormat position => "format at index " ++ toString position ++ " has no name"
  | notFinite value => Scalar.text value ++ " is not a finite number"

/-- The wording of a refusal. -/
def ConfigError.message : ConfigError α → String
  | missingAttribute name => "Missing attribute: " ++ name
  | invalidAttribute name fault => "Invalid attribute " ++ name ++ ": " ++ fault.message
  | unreadable problem => problem.message

end Messages

/-! ### The normal form -/

namespace Config

variable {α : Type} [Scalar α]

/-- The place of the first format whose name is blank. -/
def unnamedFormat? (formats : List StreamFormat) : Option Nat :=
  formats.findIdx? fun format => Text.isBlankText format.name

/-- Checks what no single attribute can be checked for. -/
def validate (config : Config α) : Except (ConfigError α) Unit :=
  match unnamedFormat? config.formats with
  | some position => .error (.invalidAttribute "formats" (.unnamedFormat position))
  | none =>
    match config.loudness with
    | some loudness =>
      if Scalar.isFinite loudness then .ok ()
      else .error (.invalidAttribute "loudness" (.notFinite loudness))
    | none => .ok ()

/-- A root with the slash at its end. -/
def closedRoot (root : String) : String :=
  if root.toList.getLast? = some '/' then root else root ++ "/"

/-- An empty slug is as good as none. -/
def slug? (slug : Option String) : Option String := slug.filter fun text => !text.isEmpty

/-- The normal form of settings. -/
def normal (config : Config α) : Config α :=
  { config with
    root := closedRoot config.root
    releaseSlug := slug? config.releaseSlug
    overrideSlug := slug? config.overrideSlug }

/-- The normal form of settings, if they are valid. -/
def normalize (config : Config α) : Except (ConfigError α) (Config α) :=
  config.normal.validate.map fun _ => config.normal

end Config

end ReleasePlayer
