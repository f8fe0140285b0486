/-
This file ties a player on a page with panels to the page of the program. Such a player is carried by a
page if the player on the page differs from it at most in its store, its ticker and what it told, and if
the elements of the panels are open where its panels are. What the player takes in, a visitor who opens
or closes a panel, the notice of that, and time that passes keep both in step; so what is proved of a
player on a page with panels, whatever goes on around it, holds of the page of the program.
-/

import ReleasePlayer.Proofs.Page.Run
import ReleasePlayer.Proofs.Player.FailuresUnseen

namespace ReleasePlayer.Page

/-! ### Notices -/

/-- The listener that tells the player of the lyrics panel of a track. -/
def lyricsListener (slug : String) (id : Nat) : Listener :=
  ⟨.element id, "toggle", .lyricsToggled slug id⟩

/-- The element of a panel has this listener, and no other for the same event. -/
def Hears (listeners : List Listener) (slug : String) (id : Nat) : Prop :=
  (listeners.filter fun listener => listener.place = .element id ∧ listener.event = "toggle") =
    [lyricsListener slug id]

variable {page : Page} {widget : Widget} {slug : String} {id : Nat}

/-- A notice tells the player what the panel is by then. -/
theorem send_toggle (hears : Hears page.listeners slug id) :
    (page.send ⟨"toggle", none⟩ (.element id)).1 = (page.attempt Log.warn
      (·.lyricsToggled slug ((page.document.get? id).any Element.isOpen))).1 := by
  have path : page.pathOf ⟨"toggle", none⟩ (.element id) = [.element id] := rfl
  unfold send
  rw [path]
  unfold deliver deliverAt
  rw [hears]
  rfl

/-! ### Pages that carry a player with panels -/

/-- A page carries a player with panels: the player on the page is its twin, nothing is left to be shown,
and the elements of the panels are open where the panels are. -/
structure Carries (page : Page) (widget : Widget)
    (lyrics : LyricsPage Float AudioElement Output Storage DisplayFrames) : Prop where
  shown : page.widget = some widget
  player : ∃ player, page.player = some player ∧ lyrics.player.Twin player
  drained : lyrics.player.effects = []
  panels : lyrics.panels.isOpen? = widget.panel? page.document

variable {lyrics : LyricsPage Float AudioElement Output Storage DisplayFrames}
  {next after : PagePlayer} {panels : Panels}

/-- What the player queued is shown on the page as it is carried out. -/
theorem carries_settle (shown : page.widget = some widget) (apart : widget.PanelsApart)
    (twin : next.Twin after) (same : panels.isOpen? = widget.panel? page.document) :
    Carries (page.settle after) widget (LyricsPage.carryOut ⟨next, panels⟩) := by
  have handed : Player.Twin { next with effects := [] } { after with log := [], effects := [] } := by
    obtain ⟨store, ticker, log, rfl⟩ := twin
    exact ⟨store, ticker, [], rfl⟩
  refine ⟨shown, ⟨_, rfl, handed⟩, rfl, ?_⟩
  let told := ({ page with player := some { after with log := [], effects := [] } } : Page).tell
    after.log
  have shownThere : told.widget = some widget := shown
  show (panels.afterAll next.effects).isOpen? = _
  rw [← twin.effects, widget.panel?_applyAll apart same page.clock after.effects, settle_eq,
    document_render shownThere]
  rfl

/-- Where nothing is queued there is nothing to be shown. -/
theorem carries_of_quiet (shown : page.widget = some widget) (known : page.player = some after)
    (twin : next.Twin after) (quiet : after.effects = [])
    (same : panels.isOpen? = widget.panel? page.document) :
    Carries page widget (LyricsPage.carryOut ⟨next, panels⟩) := by
  have nothing : next.effects = [] := twin.effects.symm.trans quiet
  have unchanged : { next with effects := [] } = next := by
    rw [← nothing]
  unfold LyricsPage.carryOut Player.drainEffects
  dsimp only
  rw [nothing, unchanged]
  exact ⟨shown, ⟨after, known, twin⟩, nothing, same⟩

namespace Carries

/-- The player takes in the same on both sides. -/
theorem take (carries : Carries page widget lyrics) (apart : widget.PanelsApart)
    (input : Input Float AudioElement) (unrelated : input.tellsLyrics = false) :
    Carries (page.dispatch (·.take input)) widget (lyrics.step (.input input unrelated)) := by
  obtain ⟨shown, ⟨player, known, twin⟩, drained, same⟩ := carries
  unfold dispatch
  rw [known]
  exact carries_settle shown apart (twin.exchange (.input input)) same

/-- A visitor opens a panel that is closed, or closes one that is open. -/
theorem flip (carries : Carries page widget lyrics) (apart : widget.PanelsApart)
    (placed : widget.lyrics? slug = some id) {wasOpen : Bool}
    (there : widget.panel? page.document slug = some wasOpen) :
    Carries { page with document := page.document.update id fun element => element.setOpen !wasOpen }
      widget (lyrics.step (.flip slug)) := by
  obtain ⟨shown, player, drained, same⟩ := carries
  have panel : lyrics.panels.isOpen? slug = some wasOpen := by rw [same, there]
  refine ⟨shown, player, drained, ?_⟩
  show (lyrics.panels.flip slug).isOpen? = _
  have opened := widget.panel?_setOpen apart page.document slug (!wasOpen)
  rw [placed] at opened
  funext other
  rw [Panels.flip_of_some panel, Panels.isOpen?_set_eq, same]
  exact (opened other).symm

/-- A notice that is owed arrives. -/
theorem deliver (carries : Carries page widget lyrics) (apart : widget.PanelsApart)
    (placed : widget.lyrics? slug = some id) (there : (page.document.get? id).isSome = true)
    (hears : Hears page.listeners slug id) (owed : slug ∈ lyrics.panels.pending) :
    Carries (page.send ⟨"toggle", none⟩ (.element id)).1 widget (lyrics.step (.deliver slug)) := by
  obtain ⟨shown, ⟨player, known, twin⟩, drained, same⟩ := carries
  obtain ⟨element, found⟩ := Option.isSome_iff_exists.mp there
  have panel : lyrics.panels.isOpen? slug = some element.isOpen := by
    rw [same, Widget.panel?_of_some placed]
    unfold Document.isOpen?
    rw [found, Option.map_some]
  have delivered : lyrics.step (.deliver slug) = LyricsPage.carryOut
      ⟨lyrics.player.perform (.toggleLyrics slug element.isOpen), lyrics.panels.settle slug⟩ := by
    show lyrics.deliver slug = _
    unfold LyricsPage.deliver
    rw [if_pos owed, panel]
  have told : (lyrics.player.perform (.toggleLyrics slug element.isOpen)).Twin
      (player.orUnchanged (player.lyricsToggled slug element.isOpen)) :=
    twin.perform (.toggleLyrics slug element.isOpen)
  rw [send_toggle hears, found, Option.any_some, delivered]
  unfold attempt
  rw [known]
  dsimp only
  cases outcome : player.lyricsToggled slug element.isOpen with
  | ok after =>
    rw [outcome] at told
    exact carries_settle shown apart told same
  | error error =>
    rw [outcome] at told
    exact carries_of_quiet shown known told (twin.effects.trans drained) same

/-- A visitor opens or closes a panel, and the notice of that arrives at once. -/
theorem toggleLyrics (carries : Carries page widget lyrics) (apart : widget.PanelsApart)
    (placed : widget.lyrics? slug = some id) (hears : Hears page.listeners slug id) {wasOpen : Bool}
    (there : widget.panel? page.document slug = some wasOpen) :
    Carries (page.toggleLyrics id !wasOpen) widget (lyrics.run [.flip slug, .deliver slug]) := by
  have panel : lyrics.panels.isOpen? slug = some wasOpen := by rw [carries.panels, there]
  have owed : slug ∈ (lyrics.panels.flip slug).pending := by
    rw [Panels.flip_of_some panel]
    exact Panels.mem_pending_of_change panel
  have placed' : ((page.document.update id fun element => element.setOpen !wasOpen).get? id).isSome =
      true := by
    rw [Widget.panel?_of_some placed] at there
    rw [Document.get?_update, if_pos rfl, Option.isSome_map]
    exact Option.isSome_map.symm.trans (Option.isSome_of_eq_some there)
  exact (carries.flip apart placed there).deliver apart placed placed' hears owed

/-- Time passes. -/
theorem wait (carries : Carries page widget lyrics) (milliseconds : Nat) :
    Carries (page.wait milliseconds) widget lyrics := by
  obtain ⟨shown, player, drained, same⟩ := carries
  have ended (swaps : List Swap) (document : Document) (id : Nat) :
      (swaps.foldl (fun document swap => swap.finish document) document).isOpen? id =
        document.isOpen? id := by
    induction swaps generalizing document with
    | nil => rfl
    | cons swap more inductionHypothesis =>
      rw [List.foldl_cons, inductionHypothesis]
      exact document.map_get?_update
        (fun element => element.isOpen_setClasses (element.classes.endSwap swap.before swap.after))
        swap.element id
  rw [wait_eq]
  exact ⟨shown, player, drained, same.trans (widget.panel?_congr (ended _ _)).symm⟩

end Carries

/-! ### Runs -/

/-- What goes on at a page, beside what goes on around the player with panels that it carries. -/
inductive Along (widget : Widget) (page : Page)
    (lyrics : LyricsPage Float AudioElement Output Storage DisplayFrames) :
    List (LyricsEvent Float AudioElement) → Page → Prop where
  | start : Along widget page lyrics [] page
  | take {events : List (LyricsEvent Float AudioElement)} {middle : Page}
      (before : Along widget page lyrics events middle) (input : Input Float AudioElement)
      (unrelated : input.tellsLyrics = false) :
      Along widget page lyrics (events ++ [.input input unrelated]) (middle.dispatch (·.take input))
  /-- A visitor opens or closes a panel, of which the player is told at once. -/
  | toggle {events : List (LyricsEvent Float AudioElement)} {middle : Page} {slug : String} {id : Nat}
      {wasOpen : Bool} (before : Along widget page lyrics events middle)
      (placed : widget.lyrics? slug = some id) (hears : Hears middle.listeners slug id)
      (there : widget.panel? middle.document slug = some wasOpen) :
      Along widget page lyrics (events ++ [.flip slug, .deliver slug])
        (middle.toggleLyrics id !wasOpen)
  /-- The notice of a panel that the player opened or closed arrives. -/
  | deliver {events : List (LyricsEvent Float AudioElement)} {middle : Page} {slug : String} {id : Nat}
      (before : Along widget page lyrics events middle) (placed : widget.lyrics? slug = some id)
      (there : (middle.document.get? id).isSome = true) (hears : Hears middle.listeners slug id)
      (owed : slug ∈ (lyrics.run events).panels.pending) :
      Along widget page lyrics (events ++ [.deliver slug])
        (middle.send ⟨"toggle", none⟩ (.element id)).1
  | wait {events : List (LyricsEvent Float AudioElement)} {middle : Page}
      (before : Along widget page lyrics events middle) (milliseconds : Nat) :
      Along widget page lyrics events (middle.wait milliseconds)

variable {later : Page} {events : List (LyricsEvent Float AudioElement)}

/-- Whatever goes on, the page carries the player with panels on. -/
theorem Carries.along (carries : Carries page widget lyrics) (apart : widget.PanelsApart)
    (along : Along widget page lyrics events later) :
    Carries later widget (lyrics.run events) := by
  induction along with
  | start => exact carries
  | take _ input unrelated inductionHypothesis =>
    rw [LyricsPage.run_append]
    exact inductionHypothesis.take apart input unrelated
  | toggle _ placed hears there inductionHypothesis =>
    rw [LyricsPage.run_append]
    exact inductionHypothesis.toggleLyrics apart placed hears there
  | deliver _ placed there hears owed inductionHypothesis =>
    rw [LyricsPage.run_append]
    exact inductionHypothesis.deliver apart placed there hears owed
  | wait _ milliseconds inductionHypothesis => exact inductionHypothesis.wait milliseconds

/-- Whatever goes on at a page, its player holds a panel for what its element is, unless a notice of it
is owed. -/
theorem Carries.panel?_follower (carries : Carries page widget lyrics) (apart : widget.PanelsApart)
    {table : TrackTable Float} (inOrder : table.InOrder) (inStep : lyrics.InStep table)
    (along : Along widget page lyrics events later) {track : Track Float}
    (found : table.ofSlug? slug = some track) {isOpen : Bool}
    (panel : widget.panel? later.document slug = some isOpen)
    (settled : slug ∉ (lyrics.run events).panels.pending) :
    ∃ player, later.player = some player ∧
      player.follower.panel? track.index = some isOpen := by
  obtain ⟨-, ⟨player, known, twin⟩, -, same⟩ := carries.along apart along
  have agree := (LyricsPage.inStep_run inOrder inStep events).agree
  refine ⟨player, known, ?_⟩
  rw [twin.follower, ← panel, ← same]
  refine agree.same slug track found settled ?_
  rw [same, panel]
  rfl

end ReleasePlayer.Page
