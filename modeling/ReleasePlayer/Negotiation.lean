/-
This file picks the format of a stream. What a runtime says about its codecs is only a hint, so each
format that it does not rule out is tried with a short clip, one after the other in order of
preference. The first clip that can be played decides.
-/

import ReleasePlayer.Endpoint
import ReleasePlayer.Log

namespace ReleasePlayer

/-- What a runtime says about a media type. -/
inductive CodecSupport where
  | no
  | maybe
  | probably
deriving DecidableEq, Repr

namespace CodecSupport

/-- The name of an answer. -/
def name : CodecSupport → String
  | no => "no"
  | maybe => "maybe"
  | probably => "probably"

/-- Reads an answer; a blank one rules the type out. -/
def ofAnswer (answer : String) : CodecSupport :=
  match Text.trim answer with
  | "" => no
  | "probably" => probably
  | _ => maybe

/-- Whether a trial is worth it. -/
def isPossible (support : CodecSupport) : Bool := support != no

end CodecSupport

/-- A way to find out what a runtime plays: `query` asks it about a media type, `trial` has it load
a clip in a format. Either may change the state `P` of the runtime. -/
structure Probe (P : Type) where
  query : P → String → CodecSupport × P
  trial : P → StreamFormat → String → Except PlaybackError Unit × P

/-- How a negotiation ends. -/
structure Negotiation (P : Type) where
  selected : Option StreamFormat
  runtime : P
  log : List Log.Entry

namespace Negotiation

variable {P : Type}

/-- Puts what was told earlier in front. -/
def after (log : List Log.Entry) (rest : Negotiation P) : Negotiation P :=
  { rest with log := log ++ rest.log }

/-- Goes through the formats in their order. `total` is the number of all formats on offer. -/
def run (probe : Probe P) (address : String → Except PlaybackError String) (total : Nat) :
    List StreamFormat → P → Negotiation P
  | [], runtime =>
    { selected := none, runtime
      log := [Log.error ("No playable format among " ++ toString total ++
        " candidates, player left without a source")] }
  | format :: more, runtime =>
    let (support, runtime) := probe.query runtime format.mime
    if !support.isPossible then
      (run probe address total more runtime).after
        [Log.debug ("Skipping " ++ format.name ++ " (" ++ format.mime ++ " unsupported)")]
    else
      match address format.name with
      | .error error =>
        (run probe address total more runtime).after
          [Log.error ("Can't build trial URL for " ++ format.name ++ ": " ++ error.message)]
      | .ok url =>
        let trying := Log.debug ("Trying " ++ format.name ++ "...")
        let (outcome, runtime) := probe.trial runtime format url
        match outcome with
        | .ok () =>
          { selected := some format, runtime
            log := [trying, Log.info ("Successfully loaded " ++ format.name)] }
        | .error error =>
          (run probe address total more runtime).after
            [trying, Log.error ("Can't play media format: " ++ error.message)]

/-- Picks a format of those that an endpoint offers. -/
def select (probe : Probe P) (endpoint : Endpoint) (clip : TrialClip) (first : String)
    (formats : List StreamFormat) (runtime : P) : Negotiation P :=
  run probe (endpoint.trialAddress clip first) formats.length formats runtime

end Negotiation

end ReleasePlayer
