/-
This file holds the parts of the page that belong to the player, and shows effects on them. Every
part may be missing; what is missing shows nothing.
-/

import ReleasePlayer.Page.Selector

namespace ReleasePlayer.Page

/-- The parts of a row of a track. -/
structure Row where
  button : Option Nat
  lyrics : Option Nat
  duration : Option Nat
deriving DecidableEq, Repr

/-- The parts of the player on the page. -/
structure Widget where
  root : Nat
  seekbar : Option Nat
  seekPosition : Option Nat
  seekBuffered : Option Nat
  volumebar : Option Nat
  volumePosition : Option Nat
  voldrop : Option Nat
  voldropContents : Option Nat
  volicon : Option Nat
  replaygain : Option Nat
  playToggle : Option Nat
  skipPrevious : Option Nat
  skipNext : Option Nat
  trackName : Option Nat
  timeCurrent : Option Nat
  timeTotal : Option Nat
  rows : List (String × Row)
deriving DecidableEq, Repr

/-- A swap of classes that was started: the button, the classes, and when it is to end. -/
structure Swap where
  element : Nat
  before : ControlClass
  after : ControlClass
  due : Nat
deriving DecidableEq, Repr

namespace Widget

/-! ### Finding the parts -/

/-- Whether an element is a panel of details. -/
def isDetails (document : Document) (id : Nat) : Bool :=
  (document.get? id).any fun element => element.tag == "details"

/-- The rows of the tracks; of two rows with one slug the later counts. -/
def findRows (document : Document) : List (String × Row) :=
  (document.selectAll ".track[data-track-slug]").foldl (fun rows id =>
    match (document.get? id).bind fun element => element.attribute? "data-track-slug" with
    | none => rows
    | some slug =>
      Keyed.put rows slug {
        button := document.selectWithin? id ".player-control"
        lyrics := (document.selectWithin? id ".lyrics").filter (isDetails document)
        duration := document.selectWithin? id ".track-duration" }) []

/-- Finds the parts of the player in a document. -/
def find? (document : Document) : Option Widget := do
  let root ← document.select? "#player-widget"
  let within := document.selectWithin? root
  let below (outer : Option Nat) (selector : String) : Option Nat :=
    outer.bind fun id => document.selectWithin? id selector
  let seekbar := within ".seekbar"
  let volumebar := within ".volumebar"
  let voldrop := within ".voldrop"
  return {
    root, seekbar, volumebar, voldrop
    seekPosition := below seekbar ".position"
    seekBuffered := below seekbar ".buffered"
    volumePosition := below volumebar ".position"
    voldropContents := below voldrop ".contents"
    volicon := within ".volicon"
    replaygain := within ".replaygain, .replaygain-off"
    playToggle := within ".play-toggle"
    skipPrevious := within ".skip-prev"
    skipNext := within ".skip-next"
    trackName := within ".track-name"
    timeCurrent := within ".play-position .current"
    timeTotal := within ".play-position .total"
    rows := findRows document }

/-- The row of a track. -/
def row? (widget : Widget) (slug : String) : Option Row := widget.rows.lookup slug

/-- The lyrics panels on the page, and whether they are open. -/
def panels (widget : Widget) (document : Document) : List (String × Bool) :=
  widget.rows.filterMap fun (slug, row) =>
    row.lyrics.map fun id => (slug, (document.get? id).any Element.isOpen)

/-- The element of a button. -/
def control? (widget : Widget) : Control → Option Nat
  | .global => widget.playToggle
  | .track slug => (widget.row? slug).bind Row.button

/-! ### Showing effects -/

/-- A fraction as a width. -/
def widthText (fraction : Float) : String := Scalar.text (fraction * 100.0) ++ "%"

/-- Makes a part as wide as a fraction of its surroundings. -/
def setWidth (document : Document) (id : Option Nat) (fraction : Float) : Document :=
  document.update? id fun element => element.setStyle "width" (widthText fraction)

/-- Hides a part. -/
def hide (document : Document) (id : Option Nat) : Document :=
  document.update? id fun element => element.setStyle "display" "none"

/-- Switches a class of a part on or off. -/
def setClass (document : Document) (id : Option Nat) (name : String) (isOn : Bool) : Document :=
  document.update? id fun element => element.switchClass name isOn

/-- Gives the volume icon the class of a level and of no other. -/
def showLevel (level : VolumeLevel) (element : Element) : Element :=
  (VolumeLevel.all.foldl (fun shown other => shown.removeClass other.name) element).addClass
    level.name

/-- Shows an effect that is shown at once. -/
def display (widget : Widget) (document : Document) : Effect Float → Document
  | .swapClass _ _ _ => document
  | .setTitle title => document.setText? widget.trackName title
  | .hideTitle => hide document widget.trackName
  | .setTime elapsed total =>
    (document.setText? widget.timeCurrent elapsed).setText? widget.timeTotal total
  | .setSeekPosition fraction => setWidth document widget.seekPosition fraction
  | .setBuffered fraction => setWidth document widget.seekBuffered fraction
  | .setSkipState flags =>
    setClass (setClass document widget.skipPrevious "disabled" flags.previousDisabled)
      widget.skipNext "disabled" flags.nextDisabled
  | .hideSkipButtons => hide (hide document widget.skipPrevious) widget.skipNext
  | .setVolume level title fill =>
    let shown := document.update? widget.volicon (showLevel level)
    let titled := shown.update? widget.voldrop fun element => element.setAttribute "title" title
    setWidth titled widget.volumePosition fill
  | .setReplaygain enabled =>
    setClass (setClass document widget.replaygain "replaygain" enabled) widget.replaygain
      "replaygain-off" (!enabled)
  | .setVolumeDropOpen isOpen => setClass document widget.voldrop "open" isOpen
  | .setLyricsOpen slug isOpen =>
    document.update? ((widget.row? slug).bind Row.lyrics) fun element => element.setOpen isOpen
  | .setTrackDuration slug label =>
    document.setText? ((widget.row? slug).bind Row.duration) label
  | .unavailable reason =>
    document.update widget.root fun element =>
      (element.addClass "unavailable").setAttribute "title" reason

/-- Starts a swap of classes at a time, if the button is there and has the class. -/
def startSwap (widget : Widget) (document : Document) (clock : Nat) (control : Control)
    (before after : ControlClass) : Document × List Swap :=
  match widget.control? control with
  | none => (document, [])
  | some id =>
    match (document.get? id).bind fun element => element.classes.startSwap? before with
    | none => (document, [])
    | some classes =>
      (document.update id fun element => element.setClasses classes,
        [⟨id, before, after, clock + swapDelay⟩])

/-- Shows an effect. -/
def apply (widget : Widget) (document : Document) (clock : Nat) (effect : Effect Float) :
    Document × List Swap :=
  match effect with
  | .swapClass control before after => widget.startSwap document clock control before after
  | other => (widget.display document other, [])

/-- Shows effects one after the other. -/
def applyAll (widget : Widget) (document : Document) (clock : Nat)
    (effects : List (Effect Float)) : Document × List Swap :=
  effects.foldl (fun (document, swaps) effect =>
    let (document, started) := widget.apply document clock effect
    (document, swaps ++ started)) (document, [])

end Widget

/-- Ends a swap. -/
def Swap.finish (swap : Swap) (document : Document) : Document :=
  document.update swap.element fun element =>
    element.setClasses (element.classes.endSwap swap.before swap.after)

end ReleasePlayer.Page
