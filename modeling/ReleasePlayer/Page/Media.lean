/-
This file holds what the player uses of its page: an audio element, an output, a storage and display
frames. Whatever throws on a page is told or turned into a failure here, so that the player need not
know of it.
-/

import ReleasePlayer.Keyed
import ReleasePlayer.Page.Environment
import ReleasePlayer.Scalar.Double
import ReleasePlayer.Surroundings

namespace ReleasePlayer.Page

/-! ### The audio element -/

structure AudioElement where
  source : Option String
  isPaused : Bool
  time : Float
  duration : Float
  /-- The code of the last failure. -/
  errorCode : Option Nat
  buffered : List (Float × Float)
  loads : Nat
  plays : Nat
  pauses : Nat
  playAnswer : PlayAnswer
  pauseThrows : Bool
  /-- How often playing was refused after it was counted, and not told yet. -/
  refusals : Nat

namespace AudioElement

/-- A new audio element. -/
def fresh (environment : Environment) : AudioElement where
  source := none
  isPaused := true
  time := 0.0
  duration := Double.undefined
  errorCode := none
  buffered := []
  loads := 0
  plays := 0
  pauses := 0
  playAnswer := environment.play
  pauseThrows := environment.pauseThrows
  refusals := 0

/-- Starts to play. -/
def play (audio : AudioElement) : Except PlaybackError AudioElement :=
  match audio.playAnswer with
  | .plays => .ok { audio with isPaused := false, plays := audio.plays + 1 }
  | .rejects => .ok { audio with plays := audio.plays + 1, refusals := audio.refusals + 1 }
  | .throws => .error (.transport Thrown.noSource.text)

/-- Pauses. -/
def pause (audio : AudioElement) : AudioElement × List Log.Entry :=
  if audio.pauseThrows then (audio, [Log.warn ("Can't pause: " ++ Thrown.cannotPause.text)])
  else ({ audio with isPaused := true, pauses := audio.pauses + 1 }, [])

/-- What is told of the last failure. -/
def failure (audio : AudioElement) : String :=
  match audio.errorCode with
  | some code => "media error code " ++ toString code
  | none => "unknown error"

/-- Tells of the refusals that were not told yet. -/
def tellRefusals (audio : AudioElement) : AudioElement × List Log.Entry :=
  ({ audio with refusals := 0 },
    List.replicate audio.refusals
      (Log.warn ("Playback was refused: " ++ Thrown.playRefused.text)))

instance : Transport Float AudioElement where
  setSource audio url := { audio with source := some url }
  load audio := { audio with loads := audio.loads + 1, time := 0.0, isPaused := true }
  play := play
  pause := pause
  isPaused := AudioElement.isPaused
  position := AudioElement.time
  moveTo audio time := some { audio with time }
  duration audio := if audio.duration.isFinite then some audio.duration else none
  bufferedEnd audio := audio.buffered.getLast?.map (·.2)

end AudioElement

/-! ### The output -/

/-- The output of a page: the volume of the audio element, or a graph with a gain. -/
inductive Output where
  | element (volume : Float)
  | graph (gain : Float)

namespace Output

/-- The volume of the audio element. A graph leaves it alone. -/
def elementVolume : Output → Float
  | element volume => volume
  | graph _ => 1.0

/-- The gain of the graph, if there is one. -/
def graphGain? : Output → Option Float
  | element _ => none
  | graph gain => some gain

/-- Connects an audio element to the best output there is. -/
def connect (environment : Environment) : Output × List Log.Entry :=
  let plain := Log.debug "Using element volume, output limited to 100%"
  let failed (thrown : Thrown) : Output × List Log.Entry :=
    (element 1.0, [Log.warn ("Can't build an amplification graph: " ++ thrown.text), plain])
  match environment.audioGraph with
  | .missing => (element 1.0, [plain])
  | .works => (graph 1.0, [])
  | .noDevice => failed .noAudioDevice
  | .noConnection => failed .cannotConnect

instance : GainStage Float Output where
  headroom
    | element _ => .unity
    | graph _ => .amplified
  setGain
    | element _, gain => element (Scalar.clamp 0.0 1.0 gain)
    | graph _, gain => graph gain.toFloat32.toFloat
  gain
    | element volume => volume
    | graph gain => gain

end Output

/-! ### The storage -/

structure Storage where
  entries : List (String × String)
  isOpen : Bool
  readThrows : Bool
  quotaExceeded : Bool
deriving DecidableEq, Repr

namespace Storage

/-- The storage of a page before it is opened. -/
def closed (environment : Environment) (entries : List (String × String)) : Storage where
  entries
  isOpen := false
  readThrows := environment.readThrows
  quotaExceeded := environment.quotaExceeded

/-- Opens the storage, if that is possible. -/
def opened (storage : Storage) (environment : Environment) : Storage × List Log.Entry :=
  if environment.hasStorage then ({ storage with isOpen := true }, [])
  else
    (storage, [Log.warn "localStorage is unavailable, preferences will not persist"])

instance : PreferenceStore Storage where
  read storage key :=
    if storage.isOpen && !storage.readThrows then storage.entries.lookup key else none
  write storage key value :=
    if !storage.isOpen then .error (.storage "localStorage is unavailable")
    else if storage.quotaExceeded then .error (.storage Thrown.quotaExceeded.text)
    else .ok { storage with entries := Keyed.put storage.entries key value }

end Storage

/-! ### Display frames -/

structure DisplayFrames where
  /-- The number of the frame granted last. -/
  granted : Nat
  pending : List Nat
  hasWindow : Bool
  throws : Bool
deriving DecidableEq, Repr

namespace DisplayFrames

/-- Frames that nobody asked for yet. -/
def fresh (environment : Environment) : DisplayFrames where
  granted := 0
  pending := []
  hasWindow := environment.hasWindow
  throws := environment.frameThrows

instance : FrameSource DisplayFrames where
  request frames :=
    if !frames.hasWindow then (none, frames, [])
    else if frames.throws then
      (none, frames, [Log.warn ("Can't request animation frame: " ++ Thrown.noFrames.text)])
    else
      let handle := frames.granted + 1
      (some handle,
        { frames with granted := handle, pending := frames.pending ++ [handle] }, [])
  cancel frames handle :=
    if frames.hasWindow then { frames with pending := frames.pending.filter (· != handle) }
    else frames

end DisplayFrames

end ReleasePlayer.Page
