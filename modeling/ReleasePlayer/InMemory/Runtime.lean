/-
This file holds a runtime that follows a script: it says what it was told to say about media types,
fails the trials that it was told to fail, and notes what it was asked.
-/

import ReleasePlayer.Negotiation

namespace ReleasePlayer.InMemory

structure Runtime where
  /-- What is said about media types, if not "maybe". -/
  answers : List (String × String)
  /-- The trials that fail, by the name of the format. -/
  failures : List (String × PlaybackError)
  /-- The media types asked about. -/
  queries : List String
  /-- The addresses of the clips loaded. -/
  trials : List String
deriving DecidableEq, Repr

namespace Runtime

/-- A runtime that was not asked anything yet. -/
def fresh (answers : List (String × String)) (failures : List (String × PlaybackError)) :
    Runtime := ⟨answers, failures, [], []⟩

/-- What comes of a trial. -/
def outcome (runtime : Runtime) (format : StreamFormat) : Except PlaybackError Unit :=
  match runtime.failures.lookup format.name with
  | some error => .error error
  | none => .ok ()

/-- Asking the runtime. -/
def probe : Probe Runtime where
  query runtime mime :=
    (.ofAnswer ((runtime.answers.lookup mime).getD "maybe"),
      { runtime with queries := runtime.queries ++ [mime] })
  trial runtime format url :=
    (runtime.outcome format, { runtime with trials := runtime.trials ++ [url] })

end Runtime

end ReleasePlayer.InMemory
