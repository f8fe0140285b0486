/-
This file says how the surroundings of a page behave: what is there at all, what the media player of
the page can play, and what fails. Exceptions carry a name and a message.
-/

import ReleasePlayer.Log
import ReleasePlayer.Negotiation

namespace ReleasePlayer.Page

/-- An exception. -/
structure Thrown where
  name : String
  message : String
deriving DecidableEq, Repr

/-- The text of an exception in a message. -/
def Thrown.text (thrown : Thrown) : String :=
  "JsValue(" ++ thrown.name ++ ": " ++ thrown.message ++ ")"

namespace Thrown

def noAudioDevice : Thrown := ⟨"NotSupportedError", "no audio device"⟩

def cannotConnect : Thrown := ⟨"InvalidAccessError", "cannot connect"⟩

def denied : Thrown := ⟨"SecurityError", "denied"⟩

def quotaExceeded : Thrown := ⟨"QuotaExceededError", "The quota has been exceeded."⟩

def noSource : Thrown := ⟨"NotSupportedError", "no source"⟩

def playRefused : Thrown := ⟨"NotAllowedError", "play() was refused"⟩

def cannotPause : Thrown := ⟨"InvalidStateError", "cannot pause"⟩

def noFrames : Thrown := ⟨"TypeError", "no frames"⟩

def tooManyAudios : Thrown := ⟨"Error", "too many audio elements"⟩

end Thrown

/-- What there is for amplifying. -/
inductive AudioGraph where
  | missing
  | works
  /-- It cannot be created. -/
  | noDevice
  /-- It can be created but not connected. -/
  | noConnection
deriving DecidableEq, Repr

/-- What comes of starting to play. -/
inductive PlayAnswer where
  | plays
  /-- It throws at once. -/
  | throws
  /-- It is counted, but refused afterwards. -/
  | rejects
deriving DecidableEq, Repr

/-- What comes of loading a clip that cannot be played. -/
inductive TrialFailure where
  | code (value : Nat)
  /-- Nothing is said about it. -/
  | unknown
deriving DecidableEq, Repr

/-- The surroundings of a page. -/
structure Environment where
  origin : String
  audioGraph : AudioGraph
  /-- Whether the storage of the page can be opened. -/
  hasStorage : Bool
  readThrows : Bool
  quotaExceeded : Bool
  /-- What is said about media types, if not "maybe". -/
  codecs : List (String × String)
  /-- The formats whose clips cannot be played. -/
  trials : List (String × TrialFailure)
  play : PlayAnswer
  pauseThrows : Bool
  frameThrows : Bool
  hasWindow : Bool
  hasDocument : Bool
  hasBody : Bool
  /-- How many audio elements can be created. -/
  audioLimit : Option Nat
deriving DecidableEq, Repr

/-- Surroundings in which everything works, without an amplifier. -/
def Environment.plain : Environment where
  origin := "https://music.example"
  audioGraph := .missing
  hasStorage := true
  readThrows := false
  quotaExceeded := false
  codecs := []
  trials := []
  play := .plays
  pauseThrows := false
  frameThrows := false
  hasWindow := true
  hasDocument := true
  hasBody := true
  audioLimit := none

namespace Environment

/-- What is said about a media type. -/
def support (environment : Environment) (mime : String) : CodecSupport :=
  .ofAnswer ((environment.codecs.lookup mime).getD "maybe")

/-- What follows the last `format=` in an address. -/
def formatIn (url : String) : String :=
  match (url.splitOn "format=").getLast? with
  | some format => format
  | none => url

/-- What comes of loading the clip at an address. -/
def trial (environment : Environment) (format : StreamFormat) (url : String) :
    Except PlaybackError Unit :=
  match environment.trials.lookup (formatIn url) with
  | none => .ok ()
  | some (.code value) =>
    .error (.trialFailed format.name ("media error code " ++ toString value))
  | some .unknown => .error (.trialFailed format.name "unknown error")

/-- Whether one more audio element can be created. -/
def allowsAudio (environment : Environment) (count : Nat) : Bool :=
  match environment.audioLimit with
  | some limit => decide (count < limit)
  | none => true

end Environment

end ReleasePlayer.Page
