/-
This file holds the one stream of a player: a transport and the address it plays. Going from track
to track is moving within the stream; it is never loaded anew for that.
-/

import ReleasePlayer.Surroundings

namespace ReleasePlayer

/-- Whether the stream plays. -/
inductive Status where
  | playing
  | paused
deriving DecidableEq, Repr

/-- The name of a status. -/
def Status.name : Status → String
  | playing => "playing"
  | paused => "paused"

structure Stream (T : Type) where
  transport : T
  /-- The address that was loaded. -/
  source : Option String
  /-- Whether a move was asked for between bounds that are no bounds. Nothing after that counts. -/
  isHalted : Bool
deriving DecidableEq, Repr

namespace Stream

variable {α T : Type} [Scalar α] [Transport α T]

/-- A stream without a source. -/
def ofTransport (transport : T) : Stream T := ⟨transport, none, false⟩

def hasSource (stream : Stream T) : Bool := stream.source.isSome

/-- Loads an address. -/
def loadSource (stream : Stream T) (url : String) : Stream T × List Log.Entry :=
  ({ stream with
      transport := Transport.load (Transport.setSource stream.transport url)
      source := some url },
    [Log.debug ("Loading stream " ++ url)])

/-- Starts or goes on to play. -/
def play (stream : Stream T) : Except PlaybackError (Stream T) :=
  if stream.source.isNone then .error .noSource
  else
    match Transport.play stream.transport with
    | .ok transport => .ok { stream with transport }
    | .error error => .error error

/-- Pauses. -/
def pause (stream : Stream T) : Stream T × List Log.Entry :=
  let (transport, log) := Transport.pause stream.transport
  ({ stream with transport }, log)

def isPaused (stream : Stream T) : Bool := Transport.isPaused stream.transport

/-- Plays if paused, and the other way round. -/
def toggle (stream : Stream T) : Except PlaybackError (Stream T × List Log.Entry) :=
  if stream.isPaused then stream.play.map fun played => (played, [])
  else .ok stream.pause

def status (stream : Stream T) : Status := if stream.isPaused then .paused else .playing

def position (stream : Stream T) : α := Transport.position stream.transport

def duration (stream : Stream T) : Option α := Transport.duration stream.transport

def bufferedEnd (stream : Stream T) : Option α := Transport.bufferedEnd stream.transport

/-- Keeps a time within the stream, as far as its length is known and finite. -/
def target? (stream : Stream T) (time : α) : Option α :=
  match stream.duration.filter Scalar.isFinite with
  | some duration => Scalar.clamp? 0.0 duration time
  | none => some (Scalar.atLeastZero time)

/-- Moves the transport to a time, if there is one to move to. -/
def moveTo (stream : Stream T) (time : Option α) : Stream T :=
  match time.bind (Transport.moveTo stream.transport) with
  | some transport => { stream with transport }
  | none => { stream with isHalted := true }

/-- Moves to a time. One that is not finite is ignored. -/
def seek (stream : Stream T) (time : α) : Stream T × List Log.Entry :=
  if Scalar.isFinite time then (stream.moveTo (stream.target? time), [])
  else
    (stream, [Log.warn ("Ignoring seek to non-finite position " ++ Scalar.text time)])

end Stream

end ReleasePlayer
