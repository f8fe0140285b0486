/-
This file holds a page with a player on it. Events reach the player through listeners; what the
player then queues is shown on the document and handed to whoever listens for it. Swaps of classes
end some time after they were started, and refusals to play are told after the step in which they
arose.
-/

import ReleasePlayer.Page.Media
import ReleasePlayer.Page.Widget
import ReleasePlayer.Player

namespace ReleasePlayer

/-- A player on a page. -/
abbrev Page.PagePlayer :=
  Player Float Page.AudioElement Page.Output Page.Storage Page.DisplayFrames

/-- Where an event can be listened for. -/
inductive Page.Place where
  | element (id : Nat)
  | window
  | audio
deriving DecidableEq, Repr

/-- What a listener does. -/
inductive Page.Reaction where
  | notify (notification : Notification)
  /-- The audio element failed. -/
  | audioFailed
  | pointerUp
  | pointerMove
  | seekPointerDown (bar : Nat)
  | volumePointerDown (bar : Nat)
  | toggleMute
  /-- Keeps an event from going further. -/
  | swallow
  | skipPrevious
  | skipNext
  | toggleReplaygain
  | togglePlay
  | trackButton (slug : String)
  | lyricsToggled (slug : String) (panel : Nat)
deriving DecidableEq, Repr

/-- A listener: where it listens, for what, and what it does. -/
structure Page.Listener where
  place : Page.Place
  event : String
  reaction : Page.Reaction
deriving DecidableEq, Repr

/-- An event. Events of the mouse have a position and go on to the elements around their target. -/
structure Page.Event where
  name : String
  pointer : Option (Float × Float)

/-- What became of an event. -/
structure Page.Outcome where
  isPrevented : Bool
  isStopped : Bool
deriving DecidableEq, Repr

/-- Why a player could not be put on its page. -/
inductive Page.MountError where
  | reported (message : String)
  | thrown (exception : Page.Thrown)
deriving DecidableEq, Repr

structure Page where
  environment : Page.Environment
  document : Page.Document
  /-- How many audio elements were created. -/
  audioCount : Nat
  /-- The first of them, as long as no player has it. -/
  audio : Option Page.AudioElement
  /-- Its output, as long as no player has it. -/
  output : Option Page.Output
  /-- The storage, as long as no player has it. -/
  storage : Page.Storage
  player : Option Page.PagePlayer
  widget : Option Page.Widget
  isMounted : Bool
  listeners : List Page.Listener
  /-- Whether somebody listens for effects. -/
  hasCallback : Bool
  /-- The time in milliseconds. -/
  clock : Nat
  swaps : List Page.Swap
  /-- What was told since the last report. -/
  console : List Log.Entry
  /-- The clips loaded since the last report. -/
  trials : List String
  /-- The effects handed over since the last report. -/
  handedOver : List (Effect Float)
  /-- The document at the last report. -/
  reported : Page.Document

namespace Page

/-- A page without a player. -/
def start (environment : Environment) (content : List Markup)
    (entries : List (String × String)) : Page :=
  let document := Document.ofPage environment.hasBody content
  { environment, document
    audioCount := 0
    audio := none
    output := none
    storage := .closed environment entries
    player := none
    widget := none
    isMounted := false
    listeners := []
    hasCallback := false
    clock := 0
    swaps := []
    console := []
    trials := []
    handedOver := []
    reported := document }

/-! ### Looking at a page -/

/-- The audio element of the player. -/
def audio? (page : Page) : Option AudioElement :=
  match page.player with
  | some player => some player.stream.transport
  | none => page.audio

/-- The output of the player. -/
def output? (page : Page) : Option Output :=
  match page.player with
  | some player => some player.volume.output
  | none => page.output

/-- What the storage holds. -/
def entries (page : Page) : List (String × String) :=
  match page.player with
  | some player => player.store.entries
  | none => page.storage.entries

/-- How many frames are on their way. -/
def pendingFrames (page : Page) : Nat :=
  match page.player with
  | some player => player.ticker.source.pending.length
  | none => 0

/-- The state of a player that was put on the page. -/
def snapshot? (page : Page) : Option (Snapshot Float) :=
  if page.isMounted then page.player.map Player.snapshot else none

/-- Whether the player was asked for a move between bounds that are no bounds. -/
def isHalted (page : Page) : Bool := page.player.any fun player => player.stream.isHalted

/-! ### Running the player -/

/-- Tells something. -/
def tell (page : Page) (log : List Log.Entry) : Page :=
  { page with console := page.console ++ log }

/-- Shows effects, and hands them over to whoever listens. -/
def render (page : Page) (effects : List (Effect Float)) : Page :=
  let (document, started) :=
    match page.widget with
    | some widget => widget.applyAll page.document page.clock effects
    | none => (page.document, [])
  { page with
    document
    swaps := page.swaps ++ started
    handedOver := if page.hasCallback then page.handedOver ++ effects else page.handedOver }

/-- Takes over the player, with what it told and what it queued. -/
def settle (page : Page) (player : PagePlayer) : Page :=
  let (log, player) := player.drainLog
  let (effects, player) := player.drainEffects
  ({ page with player := some player }.tell log).render effects

/-- Has the player do something. -/
def dispatch (page : Page) (handle : PagePlayer → PagePlayer) : Page :=
  match page.player with
  | some player => page.settle (handle player)
  | none => page

/-- Has the player do something that may fail; `level` is how loud a failure is told. -/
def attempt (page : Page) (level : String → Log.Entry)
    (handle : PagePlayer → Except PlaybackError PagePlayer) : Page × Option PlaybackError :=
  match page.player with
  | none => (page, none)
  | some player =>
    match handle player with
    | .ok player => (page.settle player, none)
    | .error error => (page.tell [level error.message], some error)

/-! ### Events -/

/-- The rectangle of an element. -/
def barOf (page : Page) (id : Nat) : Bar Float :=
  ((page.document.get? id).map Element.bar).getD Bar.zero

/-- Whether a reaction keeps the page from reacting to the event on its own. -/
def Reaction.prevents : Reaction → Bool
  | notify _ | audioFailed | pointerUp | pointerMove | lyricsToggled _ _ => false
  | _ => true

/-- Whether a reaction keeps the event from the elements further out. -/
def Reaction.stops : Reaction → Bool
  | swallow => true
  | _ => false

/-- What the player does at a reaction. -/
def react (page : Page) (event : Event) : Reaction → Page
  | .notify notification => page.dispatch (·.notify notification)
  | .audioFailed =>
    match page.audio? with
    | some audio => page.dispatch (·.notify (.error audio.failure))
    | none => page
  | .pointerUp => page.dispatch Player.pointerUp
  | .pointerMove =>
    match event.pointer with
    | some (x, y) => page.dispatch (·.pointerMove x y)
    | none => page
  | .seekPointerDown bar =>
    match event.pointer with
    | some (x, _) => page.dispatch (·.seekPointerDown (page.barOf bar) x)
    | none => page
  | .volumePointerDown bar =>
    match event.pointer with
    | some (x, y) => page.dispatch (·.volumePointerDown (page.barOf bar) x y)
    | none => page
  | .toggleMute => page.dispatch Player.toggleMute
  | .swallow => page
  | .skipPrevious => page.dispatch Player.skipPrevious
  | .skipNext => page.dispatch Player.skipNext
  | .toggleReplaygain => page.dispatch Player.toggleReplaygain
  | .togglePlay => page.dispatch Player.togglePlay
  | .trackButton slug => (page.attempt Log.warn (·.trackButton slug)).1
  | .lyricsToggled slug panel =>
    let isOpen := (page.document.get? panel).any Element.isOpen
    (page.attempt Log.warn (·.lyricsToggled slug isOpen)).1

/-- Brings an event to the listeners at one place. -/
def deliverAt (page : Page) (event : Event) (outcome : Outcome) (place : Place) :
    Page × Outcome :=
  (page.listeners.filter fun listener =>
      listener.place = place ∧ listener.event = event.name).foldl
    (fun (page, outcome) listener =>
      (page.react event listener.reaction,
        { isPrevented := outcome.isPrevented || listener.reaction.prevents
          isStopped := outcome.isStopped || listener.reaction.stops }))
    (page, outcome)

/-- Brings an event to places one after the other, until it is stopped. -/
def deliver (page : Page) (event : Event) : List Place → Outcome → Page × Outcome
  | [], outcome => (page, outcome)
  | place :: outer, outcome =>
    if outcome.isStopped then (page, outcome)
    else
      let (page, outcome) := page.deliverAt event outcome place
      page.deliver event outer outcome

/-- The places to which an event goes from its target. -/
def pathOf (page : Page) (event : Event) (target : Place) : List Place :=
  match target with
  | .element id =>
    if event.pointer.isSome then
      .element id :: (page.document.ancestors id).map .element ++ [.window]
    else [target]
  | _ => [target]

/-- The place that a word or a selector names. -/
def place? (page : Page) (target : String) : Option Place :=
  if target = "window" then some .window
  else if target = "audio" then some .audio
  else (page.document.select? target).map .element

/-- Sends an event. -/
def send (page : Page) (event : Event) (target : Place) : Page × Outcome :=
  page.deliver event (page.pathOf event target) ⟨false, false⟩

/-- Opens or closes a panel as a visitor does. -/
def toggleLyrics (page : Page) (id : Nat) (isOpen : Bool) : Page :=
  let toggled :=
    { page with document := page.document.update id fun element => element.setOpen isOpen }
  (toggled.send ⟨"toggle", none⟩ (.element id)).1

/-! ### Time and surroundings -/

/-- Tells of refusals to play, as it is done after every step. -/
def tellRefusals (page : Page) : Page :=
  match page.player with
  | none => page
  | some player =>
    let (audio, log) := player.stream.transport.tellRefusals
    { page with
      player := some { player with stream := { player.stream with transport := audio } } }.tell log

/-- Lets all frames come that are on their way, and says how many there were. -/
def runFrames (page : Page) : Page × Nat :=
  match page.player with
  | none => (page, 0)
  | some player =>
    let frames := player.ticker.source
    let taken := { player with
      ticker := { player.ticker with source := { frames with pending := [] } } }
    (frames.pending.foldl (fun page _ => page.dispatch Player.onFrame)
      { page with player := some taken }, frames.pending.length)

/-- Lets time pass. Swaps that are due end. -/
def wait (page : Page) (milliseconds : Nat) : Page :=
  let clock := page.clock + milliseconds
  let (ended, still) := page.swaps.partition fun swap => swap.due ≤ clock
  { page with
    clock
    swaps := still
    document := ended.foldl (fun document swap => swap.finish document) page.document }

/-- Changes the audio element of the player. -/
def updateAudio (page : Page) (change : AudioElement → AudioElement) : Page :=
  { page with
    audio := page.audio.map change
    player := page.player.map fun player =>
      { player with
        stream := { player.stream with transport := change player.stream.transport } } }

/-- Changes the surroundings. -/
def setEnvironment (page : Page) (environment : Environment) : Page :=
  let withAudio := page.updateAudio fun audio =>
    { audio with playAnswer := environment.play, pauseThrows := environment.pauseThrows }
  { withAudio with
    environment
    player := withAudio.player.map fun player =>
      { player with
        store := { player.store with
          readThrows := environment.readThrows
          quotaExceeded := environment.quotaExceeded }
        ticker := { player.ticker with
          source := { player.ticker.source with
            hasWindow := environment.hasWindow
            throws := environment.frameThrows } } } }

/-! ### Reports -/

/-- What is new on a page since the last report. -/
structure Report where
  changes : List (Nat × Element)
  console : List Log.Entry
  trials : List String
  effects : List (Effect Float)

/-- Reports what is new. -/
def report (page : Page) : Report × Page :=
  ({ changes := page.document.changesSince page.reported
     console := page.console
     trials := page.trials
     effects := page.handedOver },
    { page with console := [], trials := [], handedOver := [], reported := page.document })

end Page

end ReleasePlayer
