/-
This file puts a player on a page: reads the settings, creates what the player needs, shows its
first state, picks a format, attaches the stream, and listens for events.
-/

import ReleasePlayer.Config.Attributes
import ReleasePlayer.Page

namespace ReleasePlayer.Page

/-! ### Listeners -/

/-- The listeners for one event at a part of the player, which may be missing. -/
def listenAt (id : Option Nat) (event : String) (reaction : Nat → Reaction) : List Listener :=
  match id with
  | some id => [⟨.element id, event, reaction id⟩]
  | none => []

/-- The listeners at the audio element. -/
def audioListeners : List Listener :=
  [⟨.audio, "timeupdate", .notify .timeUpdate⟩,
    ⟨.audio, "progress", .notify .progress⟩,
    ⟨.audio, "canplay", .notify .canPlay⟩,
    ⟨.audio, "play", .notify .play⟩,
    ⟨.audio, "pause", .notify .pause⟩,
    ⟨.audio, "error", .audioFailed⟩]

/-- The listeners at the window. -/
def windowListeners : List Listener :=
  [⟨.window, "mouseup", .pointerUp⟩, ⟨.window, "mousemove", .pointerMove⟩]

/-- The listeners at a row. -/
def rowListeners (slug : String) (row : Row) : List Listener :=
  listenAt row.button "click" (fun _ => .trackButton slug) ++
    listenAt row.lyrics "toggle" (.lyricsToggled slug)

/-- The listeners at the parts of the player. -/
def widgetListeners (widget : Widget) : List Listener :=
  listenAt widget.seekbar "mousedown" .seekPointerDown ++
    listenAt widget.volumebar "mousedown" .volumePointerDown ++
    listenAt widget.voldrop "click" (fun _ => .toggleMute) ++
    listenAt widget.voldropContents "click" (fun _ => .swallow) ++
    listenAt widget.skipPrevious "click" (fun _ => .skipPrevious) ++
    listenAt widget.skipNext "click" (fun _ => .skipNext) ++
    listenAt widget.replaygain "click" (fun _ => .toggleReplaygain) ++
    listenAt widget.playToggle "click" (fun _ => .togglePlay) ++
    widget.rows.flatMap fun (slug, row) => rowListeners slug row

/-! ### Mounting -/

/-- A stage of mounting: it changes the page, and may end the mounting with an error. -/
abbrev Mounting := ExceptT MountError (StateM Page)

/-- Ends the mounting with an error that is told. -/
def failWith {β : Type} (message : String) : Mounting β := do
  modify (·.tell [Log.error message])
  throw (.reported message)

/-- Creates one more audio element. -/
def createAudio : Mounting AudioElement := do
  let page ← get
  if page.environment.allowsAudio page.audioCount then
    set { page with audioCount := page.audioCount + 1 }
    return .fresh page.environment
  else throw (.thrown .tooManyAudios)

/-- Reads the settings. -/
def readSettings (attributes : List (String × String)) : Mounting (Config Float) :=
  match Config.ofAttributes attributes with
  | .ok config => pure config
  | .error error => failWith error.message

/-- Says on the document that scripts run. -/
def markBody : Mounting Unit :=
  modify fun page =>
    { page with
      document := page.document.update? page.document.body? fun element =>
        element.addClass "yesscript" }

/-- Creates the player with all that it needs. -/
def createPlayer (config : Config Float) : Mounting PagePlayer := do
  let audio ← createAudio
  let page ← get
  let (output, outputLog) := Output.connect page.environment
  let (storage, storageLog) := page.storage.opened page.environment
  set ({ page with audio := some audio, output := some output }.tell (outputLog ++ storageLog))
  match Player.new config audio output storage (DisplayFrames.fresh page.environment) with
  | .ok player =>
    modify (·.settle player)
    return player
  | .error error => failWith error.message

/-- Finds the parts of the player on the page. -/
def findWidget : Mounting Widget := do
  match Widget.find? (← get).document with
  | some widget =>
    modify fun page => { page with widget := some widget }
    return widget
  | none => throw (.reported "#player-widget not found")

/-- Tells the player of a lyrics panel. Panels of unknown tracks are ignored. -/
def registerPanel (panel : String × Bool) : Mounting Unit :=
  modify fun page =>
    (page.attempt (fun message => Log.debug ("Ignoring lyrics panel: " ++ message))
      (·.registerLyrics panel.1 panel.2)).1

/-- Loads a clip with an audio element of its own. -/
def tryClip (page : Page) (format : StreamFormat) (url : String) :
    Except PlaybackError Unit × Page :=
  if page.environment.allowsAudio page.audioCount then
    (page.environment.trial format url,
      { page with audioCount := page.audioCount + 1, trials := page.trials ++ [url] })
  else (.error (.transport Thrown.tooManyAudios.text), page)

/-- Finding out what the page can play. -/
def probe : Probe Page where
  query page mime := (page.environment.support mime, page)
  trial := tryClip

/-- Picks a format. -/
def pickFormat (config : Config Float) (endpoint : Endpoint) (first : String) :
    Mounting (Option StreamFormat) := do
  let _ ← createAudio
  let outcome :=
    Negotiation.select probe endpoint config.trialClip first config.formats (← get)
  set (outcome.runtime.tell outcome.log)
  return outcome.selected

/-- Attaches the stream. -/
def attach (format : Option StreamFormat) (endpoint : Endpoint) : Mounting Unit := do
  match (← get).attempt Log.error (·.attachSource format endpoint) with
  | (page, none) => set page
  | (page, some error) =>
    set page
    throw (.reported error.message)

/-- Puts a player on the page. -/
def mounting (attributes : List (String × String)) : Mounting Unit := do
  let config ← readSettings attributes
  let environment := (← get).environment
  if !environment.hasWindow then throw (.reported "No window")
  if !environment.hasDocument then throw (.reported "No document")
  markBody
  let player ← createPlayer config
  let widget ← findWidget
  (widget.panels (← get).document).forM registerPanel
  modify (·.dispatch Player.renderInitial)
  match Endpoint.ofOrigin environment.origin config.root with
  | .error error => failWith error.message
  | .ok endpoint =>
    let format ← pickFormat config endpoint player.table.first.slug
    attach format endpoint
    modify fun page =>
      { page with
        listeners := audioListeners ++ windowListeners ++ widgetListeners widget
        isMounted := true }

/-- Puts a player on the page, or says why that cannot be done. -/
def mount (page : Page) (attributes : List (String × String)) : Page × Option MountError :=
  match (mounting attributes).run page with
  | (.ok (), mounted) => (mounted, none)
  | (.error error, failed) => (failed, some error)

end ReleasePlayer.Page
