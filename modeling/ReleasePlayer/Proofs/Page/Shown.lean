/-
This file ties the buttons and panels that are followed on their own to the page of the program. The
button of a control is read off its element and off the swaps that did not end yet; then an effect that
is shown asks the button for a swap, or leaves it alone, and time that passes lets as many of its swaps
end as are due. The lyrics panels are read off the elements in the same way, and each effect opens or
closes them as it does the panels of a page. What is assumed of the page is that no part of the player
stands for two things at once.
-/

import Mathlib.Data.List.Induction
import Mathlib.Logic.Function.Iterate
import ReleasePlayer.Page
import ReleasePlayer.Proofs.Page.Element
import ReleasePlayer.Proofs.Page.LyricsPanels
import ReleasePlayer.Proofs.Player.Command

namespace ReleasePlayer.Page

/-! ### What is seen of a document -/

namespace Document

theorem get?_update (document : Document) (id : Nat) (change : Element → Element) (other : Nat) :
    (document.update id change).get? other =
      if id = other then (document.get? other).map change else document.get? other := by
  refine (List.getElem?_modify change id document.elements other).trans ?_
  split
  · rfl
  · exact Option.map_id'

/-- The classes of an element. -/
def classes? (document : Document) (id : Nat) : Option Classes := (document.get? id).map Element.classes

/-- Whether an element is an open panel. -/
def isOpen? (document : Document) (id : Nat) : Option Bool := (document.get? id).map Element.isOpen

section Views

variable {β : Type} {view : Element → β} {change : Element → Element}

/-- What no change of an element touches is seen as before. -/
theorem map_get?_update (keeps : ∀ element, view (change element) = view element)
    (document : Document) (id other : Nat) :
    ((document.update id change).get? other).map view = (document.get? other).map view := by
  rw [get?_update]
  split
  · rw [Option.map_map]
    exact congrArg (fun seen => (document.get? other).map seen) (funext keeps)
  · rfl

theorem map_get?_update? (keeps : ∀ element, view (change element) = view element)
    (document : Document) (id : Option Nat) (other : Nat) :
    ((document.update? id change).get? other).map view = (document.get? other).map view := by
  cases id with
  | none => rfl
  | some id => exact map_get?_update keeps document id other

/-- A change of one element is not seen at another. -/
theorem get?_update?_of_ne (document : Document) {id : Option Nat} {other : Nat}
    (apart : id ≠ some other) (change : Element → Element) :
    (document.update? id change).get? other = document.get? other := by
  cases id with
  | none => rfl
  | some id => exact (document.get?_update id change other).trans (if_neg (mt (congrArg some) apart))

theorem map_get?_setText? (keeps : ∀ (element : Element) children parent,
      view { element with children, parent } = view element)
    (document : Document) (id : Option Nat) (content : String) (other : Nat) :
    ((document.setText? id content).get? other).map view = (document.get? other).map view := by
  cases id with
  | none => rfl
  | some id =>
    show ((document.elements.mapIdx _)[other]?).map view = _
    rw [List.getElem?_mapIdx, Option.map_map]
    refine congrArg (fun seen => (document.get? other).map seen) (funext fun element => ?_)
    dsimp only [Function.comp]
    split
    · exact keeps element _ element.parent
    · split
      · exact keeps element element.children none
      · rfl

end Views

theorem classes?_update (document : Document) (id : Nat) {change : Classes → Classes}
    (plain : ∀ classes : Classes, classes.IsPlain → (change classes).IsPlain) (other : Nat) :
    (document.update id fun element => element.setClasses (change element.classes)).classes? other =
      if id = other then (document.classes? other).map change else document.classes? other := by
  unfold classes?
  rw [get?_update]
  split
  · rw [Option.map_map, Option.map_map]
    refine congrArg (fun seen => (document.get? other).map seen) (funext fun element => ?_)
    exact element.classes_setClasses (plain _ element.isPlain_classes)
  · rfl

end Document

/-! ### Parts of the player -/

namespace Widget

/-- The parts whose classes tell something else than the class of a control. -/
def marked (widget : Widget) : List (Option Nat) :=
  [some widget.root, widget.skipPrevious, widget.skipNext, widget.volicon, widget.voldrop,
    widget.replaygain]

/-- An element stands for a control, for no other control and for nothing else that changes its
classes. -/
structure Stands (widget : Widget) (control : Control) (id : Nat) : Prop where
  placed : widget.control? control = some id
  alone : ∀ other, widget.control? other = some id → other = control
  apart : some id ∉ widget.marked

/-- The element of the lyrics panel of a track. -/
def lyrics? (widget : Widget) (slug : String) : Option Nat := (widget.row? slug).bind Row.lyrics

/-- No two tracks have the same lyrics panel. -/
def PanelsApart (widget : Widget) : Prop :=
  ∀ slug other id, widget.lyrics? slug = some id → widget.lyrics? other = some id → other = slug

/-- Whether the lyrics panel of a track is open, if it has one. -/
def panel? (widget : Widget) (document : Document) (slug : String) : Option Bool :=
  (widget.lyrics? slug).bind document.isOpen?

variable {widget : Widget} {document : Document}

/-- An effect that is shown at once leaves the class of a control alone. -/
theorem Stands.classes?_display {control : Control} {id : Nat} (stands : widget.Stands control id)
    (effect : Effect Float) :
    (widget.display document effect).classes? id = document.classes? id := by
  have apart := stands.apart
  simp only [marked, List.mem_cons, List.not_mem_nil, or_false, not_or] at apart
  obtain ⟨root, previous, next, volicon, voldrop, replaygain⟩ := apart
  have text (shown : Document) (part : Option Nat) (content : String) :
      (shown.setText? part content).classes? id = shown.classes? id :=
    shown.map_get?_setText? (fun _ _ _ => rfl) part content id
  have style (shown : Document) (part : Option Nat) (name value : String) :
      (shown.update? part fun element => element.setStyle name value).classes? id =
        shown.classes? id :=
    shown.map_get?_update? (fun element => show (element.setStyle name value).classes = _ from rfl)
      part id
  have elsewhere (shown : Document) {part : Option Nat} (apart : some id ≠ part)
      (change : Element → Element) : (shown.update? part change).classes? id = shown.classes? id :=
    congrArg (Option.map Element.classes) (shown.get?_update?_of_ne apart.symm change)
  cases effect with
  | swapClass other before after => rfl
  | setTitle title => exact text _ _ _
  | hideTitle => exact style _ _ _ _
  | setTime elapsed total => exact (text _ _ _).trans (text _ _ _)
  | setSeekPosition fraction => exact style _ _ _ _
  | setBuffered fraction => exact style _ _ _ _
  | setSkipState flags => exact (elsewhere _ next _).trans (elsewhere _ previous _)
  | hideSkipButtons => exact (style _ _ _ _).trans (style _ _ _ _)
  | setVolume level title fill =>
    exact (style _ _ _ _).trans ((elsewhere _ voldrop _).trans (elsewhere _ volicon _))
  | setReplaygain enabled => exact (elsewhere _ replaygain _).trans (elsewhere _ replaygain _)
  | setVolumeDropOpen isOpen => exact elsewhere _ voldrop _
  | setLyricsOpen slug isOpen =>
    exact document.map_get?_update? (fun element => element.classes_setOpen isOpen) _ id
  | setTrackDuration slug label => exact text _ _ _
  | unavailable reason => exact elsewhere document root _

theorem isOpen_showLevel (level : VolumeLevel) (element : Element) :
    (showLevel level element).isOpen = element.isOpen := by
  have cleared (levels : List VolumeLevel) (element : Element) :
      (levels.foldl (fun shown other => shown.removeClass other.name) element).isOpen =
        element.isOpen := by
    induction levels generalizing element with
    | nil => rfl
    | cons other more inductionHypothesis =>
      rw [List.foldl_cons, inductionHypothesis]
      exact element.isOpen_setClasses _
  unfold showLevel Element.addClass
  rw [Element.isOpen_setClasses, cleared]

/-- Only effects on lyrics open or close anything. -/
theorem isOpen?_display {effect : Effect Float}
    (other : ∀ slug isOpen, effect ≠ .setLyricsOpen slug isOpen) (id : Nat) :
    (widget.display document effect).isOpen? id = document.isOpen? id := by
  have text (shown : Document) (part : Option Nat) (content : String) :
      (shown.setText? part content).isOpen? id = shown.isOpen? id :=
    shown.map_get?_setText? (fun _ _ _ => rfl) part content id
  have change (shown : Document) (part : Option Nat) {change : Element → Element}
      (keeps : ∀ element, (change element).isOpen = element.isOpen) :
      (shown.update? part change).isOpen? id = shown.isOpen? id :=
    shown.map_get?_update? keeps part id
  have switch (shown : Document) (part : Option Nat) (name : String) (isOn : Bool) :
      (setClass shown part name isOn).isOpen? id = shown.isOpen? id :=
    change shown part fun element => element.isOpen_switchClass name isOn
  have style (shown : Document) (part : Option Nat) (name value : String) :
      (shown.update? part fun element => element.setStyle name value).isOpen? id =
        shown.isOpen? id :=
    change shown part fun _ => rfl
  cases effect with
  | swapClass control before after => rfl
  | setTitle title => exact text _ _ _
  | hideTitle => exact style _ _ _ _
  | setTime elapsed total => exact (text _ _ _).trans (text _ _ _)
  | setSeekPosition fraction => exact style _ _ _ _
  | setBuffered fraction => exact style _ _ _ _
  | setSkipState flags => exact (switch _ _ _ _).trans (switch _ _ _ _)
  | hideSkipButtons => exact (style _ _ _ _).trans (style _ _ _ _)
  | setVolume level title fill =>
    refine (style _ _ _ _).trans (Eq.trans (change _ _ ?_) (change _ _ ?_))
    · exact fun element => element.isOpen_setAttribute (by decide) title
    · exact isOpen_showLevel level
  | setReplaygain enabled => exact (switch _ _ _ _).trans (switch _ _ _ _)
  | setVolumeDropOpen isOpen => exact switch _ _ _ _
  | setLyricsOpen slug isOpen => exact absurd rfl (other slug isOpen)
  | setTrackDuration slug label => exact text _ _ _
  | unavailable reason =>
    refine change document (some widget.root) fun element => ?_
    exact ((element.addClass "unavailable").isOpen_setAttribute (by decide) reason).trans
      (element.isOpen_setClasses _)

/-! ### Panels on a page -/

theorem panel?_of_none {slug : String} (missing : widget.lyrics? slug = none)
    (document : Document) : widget.panel? document slug = none := by
  unfold panel?
  rw [missing, Option.bind_none]

theorem panel?_of_some {slug : String} {id : Nat} (lyrics : widget.lyrics? slug = some id)
    (document : Document) : widget.panel? document slug = document.isOpen? id := by
  unfold panel?
  rw [lyrics, Option.bind_some]

/-- A panel that is opened or closed is so afterwards, if it is there, and the others are as before. -/
theorem panel?_setOpen (apart : widget.PanelsApart) (document : Document) (slug : String)
    (isOpen : Bool) (other : String) :
    widget.panel? (document.update? (widget.lyrics? slug) fun element => element.setOpen isOpen)
        other =
      if other = slug then (widget.panel? document slug).map fun _ => isOpen
      else widget.panel? document other := by
  cases lyrics : widget.lyrics? slug with
  | none =>
    rw [panel?_of_none lyrics]
    split
    · rename_i this
      rw [this]
      exact panel?_of_none lyrics _
    · rfl
  | some id =>
    split
    · rename_i this
      rw [this, panel?_of_some lyrics, panel?_of_some lyrics]
      unfold Document.isOpen? Document.update?
      rw [Document.get?_update, if_pos rfl, Option.map_map, Option.map_map]
      exact congrArg (fun seen => (document.get? id).map seen)
        (funext fun element => element.isOpen_setOpen isOpen)
    · rename_i elsewhere
      cases place : widget.lyrics? other with
      | none => rw [panel?_of_none place, panel?_of_none place]
      | some there =>
        have different : id ≠ there := fun same =>
          elsewhere (apart slug other id lyrics (same ▸ place))
        rw [panel?_of_some place, panel?_of_some place]
        unfold Document.isOpen? Document.update?
        rw [Document.get?_update, if_neg different]

theorem panel?_congr {shown : Document} (same : ∀ id, shown.isOpen? id = document.isOpen? id) :
    widget.panel? shown = widget.panel? document :=
  funext fun slug => congrArg ((widget.lyrics? slug).bind ·) (funext same)

/-- An effect that is shown does to the panels on the page what it does to panels that are followed. -/
theorem panel?_display (apart : widget.PanelsApart) {panels : Panels}
    (same : panels.isOpen? = widget.panel? document) (effect : Effect Float) :
    (panels.after effect).isOpen? = widget.panel? (widget.display document effect) := by
  by_cases lyrics : ∃ slug isOpen, effect = .setLyricsOpen slug isOpen
  · obtain ⟨slug, isOpen, rfl⟩ := lyrics
    funext other
    refine (panels.isOpen?_set_eq slug isOpen other).trans ?_
    rw [same]
    exact (panel?_setOpen apart document slug isOpen other).symm
  · have others : ∀ slug isOpen, effect ≠ .setLyricsOpen slug isOpen :=
      fun slug isOpen this => lyrics ⟨slug, isOpen, this⟩
    have untouched : panels.after effect = panels := by
      unfold Panels.after
      split
      · exact absurd rfl (others _ _)
      · rfl
    rw [untouched, same]
    exact (panel?_congr (isOpen?_display others)).symm

/-- A swap opens and closes nothing. -/
theorem isOpen?_startSwap (document : Document) (clock : Nat) (control : Control)
    (before after : ControlClass) (id : Nat) :
    (widget.startSwap document clock control before after).1.isOpen? id = document.isOpen? id := by
  unfold startSwap
  split
  · rfl
  · split
    · rfl
    · rename_i started _
      exact document.map_get?_update (fun element => element.isOpen_setClasses started) _ id

theorem panel?_apply (apart : widget.PanelsApart) {panels : Panels}
    (same : panels.isOpen? = widget.panel? document) (clock : Nat) (effect : Effect Float) :
    (panels.after effect).isOpen? = widget.panel? (widget.apply document clock effect).1 := by
  cases effect with
  | swapClass control before after =>
    refine same.trans (panel?_congr ?_).symm
    exact isOpen?_startSwap document clock control before after
  | _ => exact panel?_display apart same _

/-- Of effects that are shown one after the other, the last one is shown on what the others left. -/
theorem applyAll_concat (widget : Widget) (document : Document) (clock : Nat)
    (effects : List (Effect Float)) (last : Effect Float) :
    widget.applyAll document clock (effects ++ [last]) =
      let before := widget.applyAll document clock effects
      let shown := widget.apply before.1 clock last
      (shown.1, before.2 ++ shown.2) :=
  List.foldl_concat _ _ _ _

/-- The panels on the page go along with effects that are shown one after the other. -/
theorem panel?_applyAll (apart : widget.PanelsApart) {panels : Panels}
    (same : panels.isOpen? = widget.panel? document) (clock : Nat) (effects : List (Effect Float)) :
    (panels.afterAll effects).isOpen? =
      widget.panel? (widget.applyAll document clock effects).1 := by
  induction effects using List.reverseRecOn with
  | nil => exact same
  | append_singleton effects last inductionHypothesis =>
    rw [Panels.afterAll_append, applyAll_concat]
    exact panel?_apply apart inductionHypothesis clock last

end Widget

/-! ### Buttons on a page -/

/-- The swaps of an element, in the order in which they were started. -/
def swapsAt (swaps : List Swap) (id : Nat) : List ClassSwap :=
  (swaps.filter fun swap => swap.element = id).map fun swap => (swap.before, swap.after)

theorem swapsAt_append (first second : List Swap) (id : Nat) :
    swapsAt (first ++ second) id = swapsAt first id ++ swapsAt second id := by
  unfold swapsAt
  rw [List.filter_append, List.map_append]

/-- An element as a button, with those of some swaps that are its own. -/
def Document.button? (document : Document) (swaps : List Swap) (id : Nat) : Option Button :=
  (document.classes? id).map fun classes => ⟨classes, swapsAt swaps id⟩

theorem Document.button?_of_get? {document : Document} {id : Nat} {element : Element}
    (found : document.get? id = some element) (swaps : List Swap) :
    document.button? swaps id = some ⟨element.classes, swapsAt swaps id⟩ := by
  unfold Document.button? Document.classes?
  rw [found]
  rfl

theorem Document.button?_of_none {document : Document} {id : Nat}
    (missing : document.get? id = none) (swaps : List Swap) : document.button? swaps id = none := by
  unfold Document.button? Document.classes?
  rw [missing]
  rfl

namespace Widget

variable {widget : Widget} {control : Control} {id : Nat}

/-- The element of a control takes a swap, or drops it, as a button does. -/
theorem button?_startSwap (placed : widget.control? control = some id) (document : Document)
    (clock : Nat) (before after : ControlClass) (swaps : List Swap) :
    let shown := widget.startSwap document clock control before after
    shown.1.button? (swaps ++ shown.2) id =
      (document.button? swaps id).map (·.ask (before, after)) := by
  unfold startSwap
  rw [placed]
  dsimp only
  cases found : document.get? id with
  | none =>
    rw [Option.bind_none]
    dsimp only
    rw [Document.button?_of_none found, Document.button?_of_none found]
    rfl
  | some element =>
    rw [Option.bind_some, Document.button?_of_get? found, Option.map_some]
    cases starts : element.classes.startSwap? before with
    | none =>
      dsimp only
      rw [Button.ask_of_none starts, List.append_nil, Document.button?_of_get? found]
    | some started =>
      have plain : started.IsPlain := element.isPlain_classes.startSwap? starts
      have own : swapsAt [⟨id, before, after, clock + swapDelay⟩] id = [(before, after)] := by
        simp [swapsAt]
      have changed : (document.update id fun element => element.setClasses started).get? id =
          some (element.setClasses started) := by
        rw [Document.get?_update, if_pos rfl, found, Option.map_some]
      dsimp only
      rw [Button.ask_of_some starts, Document.button?_of_get? changed,
        element.classes_setClasses plain, swapsAt_append, own]

/-- A swap of another control leaves the element alone. -/
theorem button?_startSwap_of_ne {other : Control} (elsewhere : widget.control? other ≠ some id)
    (document : Document) (clock : Nat) (before after : ControlClass) (swaps : List Swap) :
    let shown := widget.startSwap document clock other before after
    shown.1.button? (swaps ++ shown.2) id = document.button? swaps id := by
  unfold startSwap
  dsimp only
  split
  · rw [List.append_nil]
  · rename_i place placed
    have apart : place ≠ id := fun same => elsewhere (same ▸ placed)
    split
    · rw [List.append_nil]
    · rename_i started _
      have own : swapsAt [⟨place, before, after, clock + swapDelay⟩] id = [] := by
        simp [swapsAt, apart]
      unfold Document.button? Document.classes?
      rw [Document.get?_update, if_neg apart, swapsAt_append, own, List.append_nil]

/-- An effect that is shown asks the element of a control for what it asks of the control. -/
theorem Stands.button?_apply (stands : widget.Stands control id) (document : Document) (clock : Nat)
    (effect : Effect Float) (swaps : List Swap) :
    let shown := widget.apply document clock effect
    shown.1.button? (swaps ++ shown.2) id =
      (document.button? swaps id).map (·.askAll (Effect.swapsOf control [effect])) := by
  have quiet (nothing : Effect.swapsOf control [effect] = [])
      (displayed : widget.apply document clock effect = (widget.display document effect, [])) :
      let shown := widget.apply document clock effect
      shown.1.button? (swaps ++ shown.2) id =
        (document.button? swaps id).map (·.askAll (Effect.swapsOf control [effect])) := by
    rw [nothing, displayed]
    dsimp only
    unfold Document.button?
    rw [stands.classes?_display, List.append_nil]
    exact Option.map_id'.symm
  cases effect with
  | swapClass other before after =>
    by_cases same : other = control
    · subst same
      have asked : Effect.swapsOf other [(.swapClass other before after : Effect Float)] =
          [(before, after)] := by
        simp [Effect.swapsOf, Effect.swapOf?]
      rw [asked]
      exact button?_startSwap stands.placed document clock before after swaps
    · have asked : Effect.swapsOf control [(.swapClass other before after : Effect Float)] = [] := by
        simp [Effect.swapsOf, Effect.swapOf?, same]
      rw [asked]
      refine Eq.trans ?_ Option.map_id'.symm
      exact button?_startSwap_of_ne (fun placed => same (stands.alone other placed)) document clock
        before after swaps
  | _ => exact quiet rfl rfl

/-- Effects that are shown one after the other ask the element of a control for all that they ask of the
control. -/
theorem Stands.button?_applyAll (stands : widget.Stands control id) (document : Document)
    (clock : Nat) (effects : List (Effect Float)) (swaps : List Swap) :
    let shown := widget.applyAll document clock effects
    shown.1.button? (swaps ++ shown.2) id =
      (document.button? swaps id).map (·.askAll (Effect.swapsOf control effects)) := by
  dsimp only
  induction effects using List.reverseRecOn with
  | nil =>
    show document.button? (swaps ++ []) id = _
    rw [List.append_nil]
    exact Option.map_id'.symm
  | append_singleton effects last inductionHypothesis =>
    have shown := stands.button?_apply (widget.applyAll document clock effects).1 clock last
      (swaps ++ (widget.applyAll document clock effects).2)
    dsimp only at shown
    rw [applyAll_concat, ← List.append_assoc, shown, inductionHypothesis, Option.map_map,
      Effect.swapsOf_append]
    refine congrArg (fun asked => (document.button? swaps id).map asked) (funext fun button => ?_)
    exact List.foldl_append.symm

theorem due_of_mem_apply {document : Document} {clock : Nat} {effect : Effect Float} {swap : Swap}
    (member : swap ∈ (widget.apply document clock effect).2) : swap.due = clock + swapDelay := by
  cases effect with
  | swapClass control before after =>
    have member : swap ∈ (widget.startSwap document clock control before after).2 := member
    unfold startSwap at member
    split at member
    · cases member
    · split at member
      · cases member
      · rw [List.mem_singleton.mp member]
  | _ => cases member

/-- All swaps that are started end at the same time. -/
theorem due_of_mem_applyAll {document : Document} {clock : Nat} {effects : List (Effect Float)}
    {swap : Swap} (member : swap ∈ (widget.applyAll document clock effects).2) :
    swap.due = clock + swapDelay := by
  induction effects using List.reverseRecOn with
  | nil => cases member
  | append_singleton effects last inductionHypothesis =>
    rw [applyAll_concat] at member
    exact (List.mem_append.mp member).elim inductionHypothesis due_of_mem_apply

end Widget

/-! ### The end of swaps -/

/-- The end of a swap is the end of the oldest swap of its own button, and leaves the others alone. -/
theorem Swap.button?_finish (swap : Swap) (document : Document) (later : List Swap) (id : Nat) :
    (swap.finish document).button? later id =
      if swap.element = id then (document.button? (swap :: later) id).map Button.expire
      else document.button? (swap :: later) id := by
  have ended : (swap.finish document).classes? id = if swap.element = id then
      (document.classes? id).map fun classes => classes.endSwap swap.before swap.after
      else document.classes? id :=
    document.classes?_update swap.element
      (fun classes plain => plain.endSwap swap.before swap.after) id
  unfold Document.button?
  rw [ended]
  split
  · rename_i own
    have oldest : swapsAt (swap :: later) id = (swap.before, swap.after) :: swapsAt later id := by
      simp [swapsAt, own]
    rw [oldest, Option.map_map, Option.map_map]
    rfl
  · rename_i elsewhere
    have none : swapsAt (swap :: later) id = swapsAt later id := by
      simp [swapsAt, elsewhere]
    rw [none]

/-- Swaps that end in the order in which they were started end those of a button one by one. -/
theorem button?_foldl_finish (document : Document) (ended later : List Swap) (id : Nat) :
    (ended.foldl (fun document swap => swap.finish document) document).button? later id =
      (document.button? (ended ++ later) id).map
        Button.expire^[ended.countP fun swap => swap.element = id] := by
  induction ended generalizing document with
  | nil => exact Option.map_id'.symm
  | cons swap more inductionHypothesis =>
    rw [List.foldl_cons, inductionHypothesis, swap.button?_finish, List.countP_cons]
    by_cases own : swap.element = id
    · rw [if_pos own, if_pos (decide_eq_true own), Option.map_map, ← Function.iterate_succ]
      rfl
    · rw [if_neg own, if_neg (by simpa using own)]
      rfl

/-- Of swaps in the order of their ends, those that are due come first. -/
theorem filter_due_append {swaps : List Swap}
    (inOrder : swaps.Pairwise fun earlier later => earlier.due ≤ later.due) (clock : Nat) :
    (swaps.filter fun swap => swap.due ≤ clock) ++
      (swaps.filter fun swap => !decide (swap.due ≤ clock)) = swaps := by
  induction swaps with
  | nil => rfl
  | cons swap more inductionHypothesis =>
    obtain ⟨first, others⟩ := List.pairwise_cons.mp inOrder
    by_cases due : swap.due ≤ clock
    · rw [List.filter_cons_of_pos (by simpa using due), List.filter_cons_of_neg (by simpa using due),
        List.cons_append, inductionHypothesis others]
    · have none : ∀ other ∈ more, ¬ other.due ≤ clock := fun other member early =>
        due ((first other member).trans early)
      rw [List.filter_cons_of_neg (by simpa using due), List.filter_cons_of_pos (by simpa using due),
        List.filter_eq_nil_iff.mpr (by simpa using none),
        List.filter_eq_self.mpr (by simpa using none), List.nil_append]

end ReleasePlayer.Page
