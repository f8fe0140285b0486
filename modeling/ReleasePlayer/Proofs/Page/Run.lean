/-
This file runs a page. Whatever goes on at a page, be it events that reach listeners, calls from outside,
frames, time that passes or changes around it, is a chain of steps of few kinds: the player takes in an
input and what it queued is shown, a visitor opens or closes a panel, time passes, or nothing is shown at
all. So the element of a control only ever moves as a button does: it is asked for the swaps that the
player queued for the control, in their order, and its own swaps end one by one. As the player asks its
own button to go on from class to class only, the element of that button shows exactly one class at any
time.
-/

import ReleasePlayer.Proofs.Page.GlobalButton
import ReleasePlayer.Proofs.Page.OneClass
import ReleasePlayer.Proofs.Page.Shown

namespace ReleasePlayer

open Relation (ReflTransGen)

/-! ### What a player asks of its own button -/

namespace Player

variable {α T G S F : Type} [Scalar α] [Transport α T] [GainStage α G] [PreferenceStore S]
  [FrameSource F]

/-- Whatever a player takes in, it asks its button to go on to the next class only. -/
theorem onward_take {player : Player α T G S F} (drained : player.effects = [])
    (input : Input α T) :
    ∀ swap ∈ Effect.swapsOf .global (player.take input).effects, swap.2 = swap.1.next := by
  have nothing : ∀ swap ∈ Effect.swapsOf .global player.effects, swap.2 = swap.1.next := by
    rw [drained]
    exact fun _ member => absurd member List.not_mem_nil
  cases input with
  | command command =>
    rw [take, (quiet_perform player command).swaps]
    exact nothing
  | notify notification =>
    rw [take]
    rcases notification.turn_or_remark with ⟨turn, rfl⟩ | ⟨remark, rfl⟩
    · rw [swapsOf_notify_turn]
      refine List.forall_mem_append.mpr ⟨nothing, ?_⟩
      split
      · exact List.forall_mem_nil _
      · exact List.forall_mem_singleton.mpr turn.swap_snd
    · rw [swapsOf_notify_remark]
      refine List.forall_mem_append.mpr ⟨nothing, ?_⟩
      split
      · exact List.forall_mem_singleton.mpr rfl
      · exact List.forall_mem_nil _
  | frame =>
    rw [take, swapsOf_onFrame]
    exact nothing
  | drift change => exact nothing

end Player

namespace Page

/-! ### Pages -/

/-- An element of the page as a button. -/
def button? (page : Page) (id : Nat) : Option Button := page.document.button? page.swaps id

/-- Swaps stand in the order in which they end, and none ends later than one that is started now. -/
structure Timely (page : Page) : Prop where
  inOrder : page.swaps.Pairwise fun earlier later => earlier.due ≤ later.due
  ahead : ∀ swap ∈ page.swaps, swap.due ≤ page.clock + swapDelay

variable {page : Page} {widget : Widget} {control : Control} {id : Nat}

theorem document_render (shown : page.widget = some widget) (effects : List (Effect Float)) :
    (page.render effects).document = (widget.applyAll page.document page.clock effects).1 := by
  unfold render
  rw [shown]

/-- What a page shows, it asks of the element of a control as it is asked of the control. -/
theorem button?_render (shown : page.widget = some widget) (stands : widget.Stands control id)
    (effects : List (Effect Float)) :
    (page.render effects).button? id =
      (page.button? id).map (·.askAll (Effect.swapsOf control effects)) := by
  unfold button? render
  rw [shown]
  exact stands.button?_applyAll page.document page.clock effects page.swaps

theorem wait_eq (page : Page) (milliseconds : Nat) :
    page.wait milliseconds = { page with
      clock := page.clock + milliseconds
      swaps := page.swaps.filter fun swap => !decide (swap.due ≤ page.clock + milliseconds)
      document := (page.swaps.filter fun swap => swap.due ≤ page.clock + milliseconds).foldl
        (fun document swap => swap.finish document) page.document } := by
  unfold wait
  dsimp only
  rw [List.partition_eq_filter_filter]
  rfl

/-- While time passes, as many swaps of a button end as are due by then. -/
theorem Timely.button?_wait (timely : page.Timely) (milliseconds id : Nat) :
    (page.wait milliseconds).button? id =
      (page.button? id).map Button.expire^[page.swaps.countP fun swap =>
        swap.element = id ∧ swap.due ≤ page.clock + milliseconds] := by
  have parts := filter_due_append timely.inOrder (page.clock + milliseconds)
  have count : (page.swaps.filter fun swap => swap.due ≤ page.clock + milliseconds).countP
        (fun swap => swap.element = id) =
      page.swaps.countP fun swap => swap.element = id ∧ swap.due ≤ page.clock + milliseconds := by
    rw [List.countP_filter]
    refine List.countP_congr fun swap _ => ?_
    simp
  unfold button?
  rw [wait_eq]
  dsimp only
  rw [button?_foldl_finish, count, parts]

theorem timely_render (timely : page.Timely) (shown : List (Effect Float)) :
    (page.render shown).Timely := by
  unfold render
  cases found : page.widget with
  | none =>
    dsimp only
    rw [List.append_nil]
    exact ⟨timely.inOrder, timely.ahead⟩
  | some widget =>
    have due : ∀ swap ∈ (widget.applyAll page.document page.clock shown).2,
        swap.due = page.clock + swapDelay := fun swap => widget.due_of_mem_applyAll
    refine ⟨List.pairwise_append.mpr ⟨timely.inOrder, ?_, ?_⟩, ?_⟩
    · refine List.pairwise_of_forall_mem_list fun swap started other startedToo => ?_
      rw [due swap started, due other startedToo]
    · intro swap member other started
      rw [due other started]
      exact timely.ahead swap member
    · refine List.forall_mem_append.mpr ⟨timely.ahead, fun swap started => ?_⟩
      exact (due swap started).le

theorem timely_wait (timely : page.Timely) (milliseconds : Nat) :
    (page.wait milliseconds).Timely := by
  rw [wait_eq]
  refine ⟨timely.inOrder.filter _, fun swap member => ?_⟩
  have soon := timely.ahead swap (List.mem_filter.mp member).1
  dsimp only
  omega

/-! ### Pages that are settled -/

/-- Swaps on a page end in order, and everything that was queued is shown. -/
structure Settled (page : Page) : Prop where
  timely : page.Timely
  drained : ∀ player, page.player = some player → player.effects = []

/-- Of a page, its swaps, its clock and what its player queued decide whether it is settled. -/
theorem Settled.of_same {later : Page} (settled : page.Settled) (swaps : later.swaps = page.swaps)
    (clock : later.clock = page.clock)
    (queued : later.player.map Player.effects = page.player.map Player.effects) :
    later.Settled := by
  refine ⟨⟨?_, ?_⟩, fun player known => ?_⟩
  · rw [swaps]
    exact settled.timely.inOrder
  · rw [swaps, clock]
    exact settled.timely.ahead
  · rw [known] at queued
    obtain ⟨before, knownBefore, same⟩ := Option.map_eq_some_iff.mp queued.symm
    exact same.symm.trans (settled.drained before knownBefore)

/-- A player is taken over by showing what it queued, apart from what it told. -/
theorem settle_eq (page : Page) (player : PagePlayer) :
    page.settle player =
      ({ page with player := some { player with log := [], effects := [] } }.tell
        player.log).render player.effects := rfl

theorem settled_settle (timely : page.Timely) (player : PagePlayer) :
    (page.settle player).Settled := by
  let told := ({ page with player := some { player with log := [], effects := [] } } : Page).tell
    player.log
  have stillTimely : told.Timely := ⟨timely.inOrder, timely.ahead⟩
  refine ⟨timely_render stillTimely player.effects, ?_⟩
  rintro drained ⟨⟩
  rfl

theorem Settled.dispatch (settled : page.Settled) (handle : PagePlayer → PagePlayer) :
    (page.dispatch handle).Settled := by
  unfold Page.dispatch
  split
  · exact settled_settle settled.timely _
  · exact settled

/-! ### What goes on at a page -/

/-- Nothing of what goes on shows on the page, and the player queues nothing. -/
structure Aside (page later : Page) : Prop where
  document : later.document = page.document
  swaps : later.swaps = page.swaps
  clock : later.clock = page.clock
  widget : later.widget = page.widget
  hasCallback : later.hasCallback = page.hasCallback
  handedOver : later.handedOver = page.handedOver
  queued : later.player.map Player.effects = page.player.map Player.effects

/-- A step of a page. -/
inductive Step : Page → Page → Prop where
  | aside {page later : Page} (same : Aside page later) : Step page later
  /-- The player takes in an input, and the page shows what it queued. -/
  | take (page : Page) (input : Input Float AudioElement) : Step page (page.dispatch (·.take input))
  /-- A visitor opens or closes a panel. -/
  | panel (page : Page) (id : Nat) (isOpen : Bool) : Step page
      { page with document := page.document.update id fun element => element.setOpen isOpen }
  | wait (page : Page) (milliseconds : Nat) : Step page (page.wait milliseconds)

/-- One step after the other. -/
abbrev Steps : Page → Page → Prop := ReflTransGen Step

theorem steps_attempt (page : Page) (level : String → Log.Entry)
    {handle : PagePlayer → Except PlaybackError PagePlayer} (command : Command Float)
    (performs : ∀ player : PagePlayer, player.perform command = player.orUnchanged (handle player)) :
    Steps page (page.attempt level handle).1 := by
  unfold attempt
  cases known : page.player with
  | none => exact .refl
  | some player =>
    dsimp only
    cases outcome : handle player with
    | error error =>
      have told : Aside page (page.tell [level error.message]) :=
        ⟨rfl, rfl, rfl, rfl, rfl, rfl, rfl⟩
      exact .single (.aside told)
    | ok after =>
      have performed : player.take (.command command) = after := by
        show player.perform command = after
        rw [performs, outcome]
        rfl
      have taken : page.dispatch (·.take (.command command)) = page.settle after := by
        unfold dispatch
        rw [known, ← performed]
      dsimp only
      rw [← taken]
      exact .single (.take page _)

theorem steps_react (page : Page) (event : Event) (reaction : Reaction) :
    Steps page (page.react event reaction) := by
  cases reaction with
  | notify notification => exact .single (.take page (.notify notification))
  | audioFailed =>
    unfold react
    dsimp only
    split
    · exact .single (.take page (.notify _))
    · exact .refl
  | pointerUp => exact .single (.take page (.command .up))
  | pointerMove =>
    unfold react
    dsimp only
    split
    · exact .single (.take page (.command (.move _ _)))
    · exact .refl
  | seekPointerDown bar =>
    unfold react
    dsimp only
    split
    · exact .single (.take page (.command (.seekDown _ _)))
    · exact .refl
  | volumePointerDown bar =>
    unfold react
    dsimp only
    split
    · exact .single (.take page (.command (.volumeDown _ _ _)))
    · exact .refl
  | toggleMute => exact .single (.take page (.command .toggleMute))
  | swallow => exact .refl
  | skipPrevious => exact .single (.take page (.command .skipPrevious))
  | skipNext => exact .single (.take page (.command .skipNext))
  | toggleReplaygain => exact .single (.take page (.command .toggleReplaygain))
  | togglePlay => exact .single (.take page (.command .togglePlay))
  | trackButton slug => exact steps_attempt page Log.warn (.trackButton slug) fun _ => rfl
  | lyricsToggled slug panel =>
    exact steps_attempt page Log.warn (.toggleLyrics slug _) fun _ => rfl

/-- An event that is brought to listeners one after the other. -/
theorem steps_deliver (page : Page) (event : Event) (places : List Place) (outcome : Outcome) :
    Steps page (page.deliver event places outcome).1 := by
  have each (listeners : List Listener) (page : Page) (outcome : Outcome) : Steps page
      (listeners.foldl (fun (reached : Page × Outcome) listener =>
        (reached.1.react event listener.reaction,
          (⟨reached.2.isPrevented || listener.reaction.prevents,
            reached.2.isStopped || listener.reaction.stops⟩ : Outcome))) (page, outcome)).1 := by
    induction listeners generalizing page outcome with
    | nil => exact .refl
    | cons listener more inductionHypothesis =>
      exact (steps_react page event listener.reaction).trans (inductionHypothesis _ _)
  induction places generalizing page outcome with
  | nil => exact .refl
  | cons place outer inductionHypothesis =>
    unfold deliver
    split
    · exact .refl
    · exact (each _ page outcome).trans (inductionHypothesis _ _)

theorem steps_send (page : Page) (event : Event) (target : Place) :
    Steps page (page.send event target).1 :=
  steps_deliver page event _ _

theorem steps_toggleLyrics (page : Page) (id : Nat) (isOpen : Bool) :
    Steps page (page.toggleLyrics id isOpen) :=
  (ReflTransGen.single (.panel page id isOpen)).trans (steps_send _ _ _)

theorem steps_runFrames (page : Page) : Steps page page.runFrames.1 := by
  have each {Frame : Type} (frames : List Frame) (page : Page) :
      Steps page (frames.foldl (fun page _ => page.dispatch Player.onFrame) page) := by
    induction frames generalizing page with
    | nil => exact .refl
    | cons frame more inductionHypothesis =>
      exact (ReflTransGen.single (.take page .frame)).trans (inductionHypothesis _)
  unfold runFrames
  split
  · exact .refl
  · rename_i player known
    refine ReflTransGen.trans ?_ (each player.ticker.source.pending _)
    refine .single (.aside ⟨rfl, rfl, rfl, rfl, rfl, rfl, ?_⟩)
    rw [known]
    rfl

theorem steps_tellRefusals (page : Page) : Steps page page.tellRefusals := by
  unfold tellRefusals
  split
  · exact .refl
  · rename_i player known
    refine .single (.aside ⟨rfl, rfl, rfl, rfl, rfl, rfl, ?_⟩)
    rw [known]
    rfl

theorem steps_updateAudio (page : Page) (change : AudioElement → AudioElement) :
    Steps page (page.updateAudio change) := by
  refine .single (.aside ⟨rfl, rfl, rfl, rfl, rfl, rfl, ?_⟩)
  unfold updateAudio
  cases page.player <;> rfl

theorem steps_setEnvironment (page : Page) (environment : Environment) :
    Steps page (page.setEnvironment environment) := by
  refine .single (.aside ⟨rfl, rfl, rfl, rfl, rfl, rfl, ?_⟩)
  unfold setEnvironment updateAudio
  cases page.player <;> rfl

/-- Something that goes on at a page between two reports, while nobody starts to listen for effects. -/
inductive Happening where
  | send (event : Event) (target : Place)
  /-- The player is asked for something from outside. -/
  | call (command : Command Float)
  /-- The player is asked for the button of a track from outside, which may fail. -/
  | trackButton (slug : String)
  /-- A visitor opens or closes a panel. -/
  | toggleLyrics (id : Nat) (isOpen : Bool)
  | frames
  | refusals
  | wait (milliseconds : Nat)
  | audio (change : AudioElement → AudioElement)
  | environment (environment : Environment)

/-- The page after something went on. -/
def meet (page : Page) : Happening → Page
  | .send event target => (page.send event target).1
  | .call command => page.dispatch (·.perform command)
  | .trackButton slug => (page.attempt Log.error (·.trackButton slug)).1
  | .toggleLyrics id isOpen => page.toggleLyrics id isOpen
  | .frames => page.runFrames.1
  | .refusals => page.tellRefusals
  | .wait milliseconds => page.wait milliseconds
  | .audio change => page.updateAudio change
  | .environment environment => page.setEnvironment environment

/-- The page after one thing went on after the other. -/
def meetAll (page : Page) (happenings : List Happening) : Page := happenings.foldl meet page

theorem steps_meet (page : Page) (happening : Happening) : Steps page (page.meet happening) := by
  cases happening with
  | send event target => exact steps_send page event target
  | call command => exact .single (.take page (.command command))
  | trackButton slug => exact steps_attempt page Log.error (.trackButton slug) fun _ => rfl
  | toggleLyrics id isOpen => exact steps_toggleLyrics page id isOpen
  | frames => exact steps_runFrames page
  | refusals => exact steps_tellRefusals page
  | wait milliseconds => exact .single (.wait page milliseconds)
  | audio change => exact steps_updateAudio page change
  | environment environment => exact steps_setEnvironment page environment

/-- Whatever goes on at a page is made of these steps. -/
theorem steps_meetAll (page : Page) (happenings : List Happening) :
    Steps page (page.meetAll happenings) := by
  induction happenings generalizing page with
  | nil => exact .refl
  | cons happening more inductionHypothesis =>
    exact (steps_meet page happening).trans (inductionHypothesis _)

/-! ### What steps keep -/

variable {later middle : Page}

theorem Step.widget_eq (step : Step page later) : later.widget = page.widget := by
  cases step with
  | aside same => exact same.widget
  | take input =>
    unfold dispatch
    split <;> rfl
  | panel id isOpen => rfl
  | wait milliseconds => rfl

theorem Settled.step (settled : page.Settled) (step : Step page later) : later.Settled := by
  cases step with
  | aside same => exact settled.of_same same.swaps same.clock same.queued
  | take input => exact settled.dispatch _
  | panel id isOpen => exact settled.of_same rfl rfl rfl
  | wait milliseconds => exact ⟨timely_wait settled.timely milliseconds, settled.drained⟩

/-! ### Moves of a button -/

/-- Something that moves a button. -/
inductive Move where
  | ask (swap : ClassSwap)
  | expire
deriving DecidableEq, Repr

/-- The swap that a move asks for. -/
def Move.asked? : Move → Option ClassSwap
  | ask swap => some swap
  | expire => none

namespace Button

/-- The button after a move. -/
def move (button : Button) : Move → Button
  | .ask swap => button.ask swap
  | .expire => button.expire

/-- The button after one move after the other. -/
def moveAll (button : Button) (moves : List Move) : Button := moves.foldl move button

theorem moveAll_append (button : Button) (first second : List Move) :
    button.moveAll (first ++ second) = (button.moveAll first).moveAll second :=
  List.foldl_append

theorem moveAll_asks (button : Button) (swaps : List ClassSwap) :
    button.moveAll (swaps.map .ask) = button.askAll swaps :=
  List.foldl_map

theorem moveAll_ends (button : Button) (count : Nat) :
    button.moveAll (List.replicate count .expire) = Button.expire^[count] button := by
  induction count generalizing button with
  | zero => rfl
  | succ count inductionHypothesis => exact inductionHypothesis button.expire

end Button

theorem asked?_asks (swaps : List ClassSwap) :
    (swaps.map Move.ask).filterMap Move.asked? = swaps := by
  rw [List.filterMap_map]
  exact List.filterMap_some

theorem asked?_ends (count : Nat) : (List.replicate count Move.expire).filterMap Move.asked? = [] :=
  List.filterMap_eq_nil_iff.mpr fun _ member => List.eq_of_mem_replicate member ▸ rfl

/-! ### Moves of an element -/

/-- A settled page on which an element stands for a control. -/
structure Ready (page : Page) (control : Control) (id : Nat) : Prop where
  settled : page.Settled
  shown : ∃ widget, page.widget = some widget ∧ widget.Stands control id

/-- From one page to a later one, effects were handed over to whoever listens, the element of a control
moved as a button does that is asked for what these effects ask of the control, and the player asked its
own button to go on to the next class only. -/
structure Moved (control : Control) (id : Nat) (page later : Page) (effects : List (Effect Float)) :
    Prop where
  hasCallback : later.hasCallback = page.hasCallback
  handedOver : later.handedOver = page.handedOver ++ if page.hasCallback then effects else []
  button : ∃ moves : List Move, moves.filterMap Move.asked? = Effect.swapsOf control effects ∧
    later.button? id = (page.button? id).map (·.moveAll moves)
  onward : ∀ swap ∈ Effect.swapsOf .global effects, swap.2 = swap.1.next

/-- Nothing is asked of a button that only has swaps to end. -/
theorem moved_of_ends (hasCallback : later.hasCallback = page.hasCallback)
    (handedOver : later.handedOver = page.handedOver) (count : Nat)
    (button : later.button? id = (page.button? id).map Button.expire^[count]) :
    Moved control id page later [] where
  hasCallback := hasCallback
  handedOver := by rw [handedOver, ite_self, List.append_nil]
  button := by
    refine ⟨List.replicate count .expire, asked?_ends count, button.trans ?_⟩
    exact congrArg (fun moved => (page.button? id).map moved)
      (funext fun before => (before.moveAll_ends count).symm)
  onward := fun _ member => absurd member List.not_mem_nil

theorem moved_of_same (hasCallback : later.hasCallback = page.hasCallback)
    (handedOver : later.handedOver = page.handedOver) (button : later.button? id = page.button? id) :
    Moved control id page later [] :=
  moved_of_ends hasCallback handedOver 0 (button.trans Option.map_id'.symm)

theorem Moved.trans {first second : List (Effect Float)}
    (earlier : Moved control id page middle first) (next : Moved control id middle later second) :
    Moved control id page later (first ++ second) where
  hasCallback := next.hasCallback.trans earlier.hasCallback
  handedOver := by
    rw [next.handedOver, earlier.handedOver, earlier.hasCallback, List.append_assoc]
    split <;> rfl
  button := by
    obtain ⟨moves, asked, moved⟩ := earlier.button
    obtain ⟨more, askedThen, movedThen⟩ := next.button
    refine ⟨moves ++ more, ?_, ?_⟩
    · rw [List.filterMap_append, asked, askedThen, Effect.swapsOf_append]
    · rw [movedThen, moved, Option.map_map]
      exact congrArg (fun moved => (page.button? id).map moved)
        (funext fun before => (before.moveAll_append moves more).symm)
  onward := by
    rw [Effect.swapsOf_append]
    exact List.forall_mem_append.mpr ⟨earlier.onward, next.onward⟩

/-- What the player does at an input is shown at once. -/
theorem Ready.moved_take (ready : page.Ready control id) (input : Input Float AudioElement) :
    ∃ effects, Moved control id page (page.dispatch (·.take input)) effects := by
  obtain ⟨settled, widget, shown, stands⟩ := ready
  unfold dispatch
  cases known : page.player with
  | none => exact ⟨[], moved_of_same rfl rfl rfl⟩
  | some player =>
    dsimp only
    rw [settle_eq]
    generalize taken : player.take input = after
    let told := ({ page with player := some { after with log := [], effects := [] } } : Page).tell
      after.log
    have moved : (told.render after.effects).button? id =
        (told.button? id).map (·.askAll (Effect.swapsOf control after.effects)) :=
      button?_render shown stands after.effects
    refine ⟨after.effects, rfl, ?_, ⟨_, asked?_asks _, moved.trans ?_⟩, ?_⟩
    · show (if page.hasCallback then page.handedOver ++ after.effects
        else page.handedOver) = _
      cases page.hasCallback
      · exact (List.append_nil _).symm
      · rfl
    · exact congrArg (fun asked => (page.button? id).map asked)
        (funext fun button => (button.moveAll_asks _).symm)
    · rw [← taken]
      exact player.onward_take (settled.drained player known) input

/-- Each step moves the element of a control as a button. -/
theorem Ready.moved_step (ready : page.Ready control id) (step : Step page later) :
    ∃ effects, Moved control id page later effects := by
  cases step with
  | aside same =>
    obtain ⟨document, swaps, -, -, hasCallback, handedOver, -⟩ := same
    refine ⟨[], moved_of_same hasCallback handedOver ?_⟩
    unfold button?
    rw [document, swaps]
  | take input => exact ready.moved_take input
  | panel place isOpen =>
    refine ⟨[], moved_of_same rfl rfl ?_⟩
    have same : (page.document.update place fun element => element.setOpen isOpen).classes? id =
        page.document.classes? id :=
      page.document.map_get?_update (fun element => element.classes_setOpen isOpen) place id
    unfold button? Document.button?
    rw [same]
  | wait milliseconds =>
    exact ⟨[], moved_of_ends rfl rfl _ (ready.settled.timely.button?_wait milliseconds id)⟩

theorem Ready.step (ready : page.Ready control id) (step : Step page later) :
    later.Ready control id := by
  refine ⟨ready.settled.step step, ?_⟩
  rw [step.widget_eq]
  exact ready.shown

theorem Ready.moved_steps (ready : page.Ready control id) (steps : Steps page later) :
    later.Ready control id ∧ ∃ effects, Moved control id page later effects := by
  induction steps with
  | refl => exact ⟨ready, [], moved_of_same rfl rfl rfl⟩
  | tail _ last inductionHypothesis =>
    obtain ⟨stillReady, effects, moved⟩ := inductionHypothesis
    obtain ⟨more, movedThen⟩ := stillReady.moved_step last
    exact ⟨stillReady.step last, effects ++ more, moved.trans movedThen⟩

/-- Whatever goes on at a page, the element of a control moves as a button does: it is asked for the
swaps that the effects handed over ask of the control, in their order, and its own swaps end one by
one. -/
theorem Ready.moved_meetAll (ready : page.Ready control id) (happenings : List Happening) :
    ∃ effects, Moved control id page (page.meetAll happenings) effects :=
  (ready.moved_steps (steps_meetAll page happenings)).2

/-! ### The player's own button -/

/-- A move as what happens to a button that only goes on from class to class. -/
def Move.event : Move → ButtonEvent
  | ask swap => .ask swap.1
  | expire => .expire

theorem Button.moveAll_eq_happenAll (button : Button) {moves : List Move}
    (onward : ∀ swap ∈ moves.filterMap Move.asked?, swap.2 = swap.1.next) :
    button.moveAll moves = button.happenAll (moves.map Move.event) := by
  induction moves generalizing button with
  | nil => rfl
  | cons move more inductionHypothesis =>
    cases move with
    | ask swap =>
      obtain ⟨next, others⟩ := List.forall_mem_cons.mp onward
      have asked : button.ask swap = button.ask (swap.1, swap.1.next) :=
        congrArg button.ask (Prod.ext rfl next)
      show (button.ask swap).moveAll more = _
      rw [inductionHypothesis _ others, asked]
      rfl
    | expire => exact inductionHypothesis button.expire onward

/-- Whatever goes on at a page, the element of the player's own button has exactly one of the three
classes if it had one at first, and it is not in transition unless one of its swaps is pending. -/
theorem Ready.existsUnique_class (ready : page.Ready .global id) {element : Element}
    (before : page.document.get? id = some element) (quiet : swapsAt page.swaps id = [])
    (one : ∃! shown : ControlClass, shown.name ∈ element.classes)
    (still : Classes.transition ∉ element.classes) (happenings : List Happening) :
    ∃ after, (page.meetAll happenings).document.get? id = some after ∧
      (∃! shown : ControlClass, shown.name ∈ after.classes) ∧
      (swapsAt (page.meetAll happenings).swaps id = [] → Classes.transition ∉ after.classes) := by
  obtain ⟨effects, moved⟩ := ready.moved_meetAll happenings
  obtain ⟨moves, asked, button⟩ := moved.button
  have onward := moved.onward
  rw [← asked] at onward
  obtain ⟨shown, shows⟩ := Classes.exists_shows one
  have initially : Button.ShowsOne ⟨element.classes, []⟩ shown :=
    ⟨shows, ⟨shown, Button.lined_nil shown⟩, fun _ => still⟩
  obtain ⟨shownThen, kept⟩ := initially.happenAll (moves.map Move.event)
  have start : page.button? id = some ⟨element.classes, []⟩ := by
    unfold button?
    rw [Document.button?_of_get? before, quiet]
  rw [start, Option.map_some, Button.moveAll_eq_happenAll _ onward] at button
  generalize page.meetAll happenings = later at button ⊢
  cases found : later.document.get? id with
  | none =>
    unfold button? at button
    rw [Document.button?_of_none found] at button
    cases button
  | some after =>
    unfold button? at button
    rw [Document.button?_of_get? found] at button
    rw [← Option.some.inj button] at kept
    exact ⟨after, rfl, kept.shows.existsUnique, kept.still⟩

end Page

end ReleasePlayer
