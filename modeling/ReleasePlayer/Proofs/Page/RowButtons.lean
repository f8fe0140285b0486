/-
This file follows the buttons in the rows of the tracks through a session. Two things ask them to
change: a change of tracks, which takes the row left to where it can be played and the row reached to
where it can be paused without looking at the transport, and a turn that is told, which asks the row of
the track that is the current one by then. A swap is dropped if the button does not have the class that
it leaves, so a row shows the last swap that it took. Rows that are asked for a swap only when none of
theirs is pending take each swap or show its class already. Among such rows those of other tracks show
that they can be played, and all rows tell what is playing just if the last thing that the row of the
current track was asked for, which may have been reaching the track, agrees with the last turn that was
told.
-/

import ReleasePlayer.Proofs.Page.GlobalButton
import ReleasePlayer.Proofs.Player.Round
import ReleasePlayer.Proofs.TrackTable.Search

namespace ReleasePlayer

open Page (Button ClassSwap)

/-! ### Rows -/

/-- The button in the row of a track, and what was asked of it. -/
structure Row where
  button : Button
  /-- The class to which the last swap leads that was asked for. -/
  asked : ControlClass
  /-- The class to which the last swap leads that the button took. -/
  taken : ControlClass
  /-- Whether a swap was asked for while another one was pending. -/
  isHurried : Bool
deriving DecidableEq, Repr

namespace Row

/-- A row that can be played. -/
def start : Row := ⟨.showing .play, .play, .play, false⟩

/-- The row after a swap was asked for. -/
def ask (row : Row) (swap : ClassSwap) : Row where
  button := row.button.ask swap
  asked := swap.2
  taken := if row.button.classes.contains swap.1.name then swap.2 else row.taken
  isHurried := row.isHurried || !row.button.pending.isEmpty

/-- The row after its oldest swap ended. -/
def expire (row : Row) : Row := { row with button := row.button.expire }

/-- The button is going to where the last swap leads that it took. Without hurry that is where the last
swap leads that was asked for. -/
structure Steady (row : Row) : Prop where
  going : ∃ shown, shown ≠ .loading ∧ row.button.Going shown row.taken
  unhurried : row.isHurried = false → row.taken = row.asked

variable {row : Row}

theorem steady_start : Steady start :=
  ⟨⟨.play, by decide, Button.going_showing .play⟩, fun _ => rfl⟩

/-- A button that does not show the class that a turn leaves shows the one that the turn reaches. -/
theorem eq_swap_snd {shown : ControlClass} (loaded : shown ≠ .loading) {turn : Turn}
    (other : turn.swap.1 ≠ shown) : shown = turn.swap.2 := by
  cases shown with
  | loading => exact absurd rfl loaded
  | play => cases turn with
    | play => exact absurd rfl other
    | pause => rfl
  | pause => cases turn with
    | play => rfl
    | pause => exact absurd rfl other

theorem Steady.ask (steady : Steady row) (turn : Turn) : Steady (row.ask turn.swap) := by
  obtain ⟨⟨shown, loaded, going⟩, unhurried⟩ := steady
  have takes := going.contains turn.swap.1
  by_cases left : turn.swap.1 = shown
  · have swap : turn.swap = (shown, shown.next) := by rw [← left, ← turn.swap_snd]
    have taken : (row.ask turn.swap).taken = turn.swap.2 := by
      unfold Row.ask
      rw [takes, decide_eq_true left]
      rfl
    refine ⟨⟨shown, loaded, ?_⟩, fun _ => taken⟩
    rw [taken, swap]
    exact going.ask_shown
  · have kept : (row.ask turn.swap).taken = row.taken := by
      unfold Row.ask
      rw [takes, decide_eq_false left]
      rfl
    refine ⟨⟨shown, loaded, ?_⟩, fun calm => ?_⟩
    · rw [kept]
      have dropped : (row.ask turn.swap).button = row.button := going.ask_other left
      rw [dropped]
      exact going
    · -- nothing was pending, so the row shows already what it was asked for
      have settled : row.button.pending = [] := by
        simp only [Row.ask, Bool.or_eq_false_iff, Bool.not_eq_false', List.isEmpty_iff] at calm
        exact calm.2
      rw [kept, going.aim_of_settled settled]
      exact eq_swap_snd loaded left

theorem Steady.expire (steady : Steady row) : Steady row.expire := by
  obtain ⟨⟨shown, loaded, going⟩, unhurried⟩ := steady
  obtain ⟨later, moved, going⟩ := going.expire
  refine ⟨⟨later, ?_, going⟩, unhurried⟩
  rcases moved with rfl | rfl
  · exact loaded
  · exact shown.next_ne_loading

theorem Steady.classes_eq (steady : Steady row) (settled : row.button.pending = []) :
    row.button.classes = [row.taken.name] := by
  obtain ⟨shown, -, going⟩ := steady.going
  exact going.classes_eq settled

/-- A row never shows that it loads, once its swaps ended. -/
theorem Steady.taken_ne_loading (steady : Steady row) (settled : row.button.pending = []) :
    row.taken ≠ .loading := by
  obtain ⟨shown, loaded, going⟩ := steady.going
  rw [going.aim_of_settled settled]
  exact loaded

end Row

/-! ### What effects ask of rows -/

/-- A swap that is asked of the row with a slug. -/
abbrev RowSwap := String × ClassSwap

/-- The swap that an effect asks of a row. -/
def Effect.rowSwap? {α : Type} : Effect α → Option RowSwap
  | .swapClass (.track slug) before after => some (slug, before, after)
  | _ => none

/-- The swaps that effects ask of rows, in their order. -/
def Effect.rowSwaps {α : Type} (effects : List (Effect α)) : List RowSwap :=
  effects.filterMap rowSwap?

namespace Effect

variable {α : Type}

theorem rowSwaps_append (first second : List (Effect α)) :
    rowSwaps (first ++ second) = rowSwaps first ++ rowSwaps second :=
  List.filterMap_append

theorem rowSwaps_apart {effects : List (Effect α)}
    (apart : ∀ effect ∈ effects, effect.isApart = true) : rowSwaps effects = [] := by
  refine List.filterMap_eq_nil_iff.mpr fun effect member => ?_
  have apart := apart effect member
  cases effect with
  | swapClass control before after =>
    cases control with
    | global => rfl
    | track slug => cases apart
  | _ => rfl

theorem rowSwaps_lyricsEffects (table : TrackTable α) (index : Option Nat) (isOpen : Bool) :
    rowSwaps (Player.lyricsEffects table index isOpen) = [] := by
  unfold Player.lyricsEffects
  split <;> rfl

end Effect

/-- The rows after a swap was asked of one of them. -/
def askRow (rows : String → Row) (asked : RowSwap) : String → Row :=
  fun slug => if slug = asked.1 then (rows slug).ask asked.2 else rows slug

theorem askRow_same (rows : String → Row) (slug : String) (swap : ClassSwap) :
    askRow rows (slug, swap) slug = (rows slug).ask swap := if_pos rfl

theorem askRow_other (rows : String → Row) {slug other : String} (swap : ClassSwap)
    (apart : other ≠ slug) : askRow rows (slug, swap) other = rows other := if_neg apart

theorem steady_askRow {rows : String → Row} (steady : ∀ slug, (rows slug).Steady) (slug : String)
    (turn : Turn) (other : String) : (askRow rows (slug, turn.swap) other).Steady := by
  unfold askRow
  split
  · exact (steady other).ask turn
  · exact steady other

/-! ### What a handler asks of rows -/

namespace Player

variable {α T G S F : Type}

/-- What a handler asks of rows: nothing, or a turn of the row of the current track, or that the row of
the track left can be played and the row of the track reached can be paused. -/
inductive Shift [Scalar α] (before after : Player α T G S F) : Prop where
  | stays (table : after.table = before.table)
      (current : after.follower.current = before.follower.current)
      (swaps : Effect.rowSwaps after.effects = Effect.rowSwaps before.effects) : Shift before after
  | turns (table : after.table = before.table)
      (current : after.follower.current = before.follower.current) (turn : Turn)
      (swaps : Effect.rowSwaps after.effects = Effect.rowSwaps before.effects ++
        [(before.currentTrack.slug, turn.swap)]) : Shift before after
  | moves (table : after.table = before.table) (track : Track α)
      (apart : track.index ≠ before.follower.current)
      (placed : before.table.get? track.index = some track)
      (current : after.follower.current = track.index)
      (swaps : Effect.rowSwaps after.effects = Effect.rowSwaps before.effects ++
        [(before.currentTrack.slug, Turn.pause.swap), (track.slug, Turn.play.swap)]) :
      Shift before after

variable [Scalar α] {before after : Player α T G S F}

omit [Scalar α] in
theorem Apart.rowSwaps (apart : Apart before after) :
    Effect.rowSwaps after.effects = Effect.rowSwaps before.effects := by
  obtain ⟨queued, effects, quiet⟩ := apart.effects
  rw [effects, Effect.rowSwaps_append, Effect.rowSwaps_apart quiet, List.append_nil]

theorem Apart.shift (apart : Apart before after) : Shift before after :=
  .stays apart.table (by rw [apart.follower]) apart.rowSwaps

/-- What happens apart from the track before and after a handler asks nothing. -/
theorem Shift.between {middle shifted : Player α T G S F} (earlier : Apart before middle)
    (shift : Shift middle shifted) (later : Apart shifted after) : Shift before after := by
  have follower := earlier.follower
  have track : middle.currentTrack = before.currentTrack := by
    unfold currentTrack
    rw [earlier.table, earlier.follower]
  cases shift with
  | stays table current swaps =>
    refine .stays (later.table.trans (table.trans earlier.table)) ?_ ?_
    · rw [later.follower, current, follower]
    · rw [later.rowSwaps, swaps, earlier.rowSwaps]
  | turns table current turn swaps =>
    refine .turns (later.table.trans (table.trans earlier.table)) ?_ turn ?_
    · rw [later.follower, current, follower]
    · rw [later.rowSwaps, swaps, earlier.rowSwaps, track]
  | moves table reached apart placed current swaps =>
    refine .moves (later.table.trans (table.trans earlier.table)) reached ?_ ?_ ?_ ?_
    · rw [← follower]
      exact apart
    · rw [← earlier.table]
      exact placed
    · rw [later.follower, current]
    · rw [later.rowSwaps, swaps, earlier.rowSwaps, track]

variable [Transport α T] {player : Player α T G S F}

omit [Scalar α] [Transport α T] in
theorem currentTrack_of_placed {track : Track α}
    (placed : player.table.get? player.follower.current = some track) :
    player.currentTrack = track := by
  unfold currentTrack
  rw [placed]
  rfl

omit [Scalar α] [Transport α T] in
theorem rowSwaps_changeEffects {index : Nat} {left track : Track α}
    (placed : player.table.get? player.follower.current = some left)
    (reached : player.table.get? index = some track) :
    Effect.rowSwaps ((player.reached index).changeEffects (player.follower.moveTo index).2) =
      [(left.slug, Turn.pause.swap), (track.slug, Turn.play.swap)] := by
  have there : (player.reached index).follower.current = index :=
    Follower.current_reach _ _ _
  have current : (player.reached index).currentTrack = track := by
    refine currentTrack_of_placed ?_
    rw [there]
    exact reached
  have leaving : leftEffects player.table player.follower.current =
      [.swapClass (.track left.slug) .pause .play] := by
    unfold leftEffects
    rw [placed]
  have previous : (player.follower.moveTo index).2.previous = player.follower.current := rfl
  have sameTable : (player.reached index).table = player.table := rfl
  unfold changeEffects
  rw [Effect.rowSwaps_append, Effect.rowSwaps_append, Effect.rowSwaps_append,
    Effect.rowSwaps_lyricsEffects, Effect.rowSwaps_lyricsEffects, sameTable, previous, leaving,
    current]
  rfl

variable [Scalar.Ordered α]

/-- In a track, a player asks for a change of tracks just if it was in another one. -/
theorem shift_of_covered (inOrder : player.table.InOrder) {left track : Track α}
    (placed : player.table.get? player.follower.current = some left)
    (covered : player.table.trackAt? player.stream.position = some track) :
    Shift player (player.followStream.queue (timeEffects track player.stream.position)) := by
  have shown : Effect.rowSwaps (timeEffects track player.stream.position) = [] := rfl
  by_cases same : track.index = player.follower.current
  · rw [followStream_of_same covered same]
    refine .stays rfl rfl ?_
    unfold queue
    rw [Effect.rowSwaps_append, shown, List.append_nil]
  · obtain ⟨log, followed⟩ := followStream_of_other covered same
    have reached := (inOrder.trackAt?_eq_some_iff.mp covered).1
    rw [followed]
    refine .moves rfl track same reached (Follower.current_reach _ _ _) ?_
    show Effect.rowSwaps (player.effects ++ _ ++ _) = _
    rw [Effect.rowSwaps_append, Effect.rowSwaps_append, shown, List.append_nil,
      rowSwaps_changeEffects placed reached, currentTrack_of_placed placed]

theorem shift_updateTime (inOrder : player.table.InOrder) {left : Track α}
    (placed : player.table.get? player.follower.current = some left) :
    Shift player player.updateTime := by
  cases covered : player.table.trackAt? player.stream.position with
  | none =>
    rw [updateTime_of_uncovered covered]
    exact (Apart.refl player).shift
  | some track =>
    exact Shift.between (.refl player) (shift_of_covered inOrder placed covered)
      (updateTime_of_covered covered)

theorem Round.shift (round : Round before after) (inOrder : before.table.InOrder) {left : Track α}
    (placed : before.table.get? before.follower.current = some left) : Shift before after := by
  cases round with
  | rest apart kept => exact apart.shift
  | update middle earlier led later kept =>
    rw [← earlier.table] at inOrder
    rw [← earlier.table, ← earlier.follower] at placed
    exact Shift.between earlier (shift_updateTime inOrder placed) later

theorem shift_perform [GainStage α G] [PreferenceStore S] (inOrder : player.table.InOrder)
    {left : Track α} (placed : player.table.get? player.follower.current = some left)
    (command : Command α) : Shift player (player.perform command) := by
  cases plain : command.isPlain with
  | true => exact (round_perform player plain).shift inOrder placed
  | false =>
    rcases player.perform_of_not_plain plain with ⟨format, endpoint, rfl⟩ | ⟨follower, current, noted⟩
    · exact (apart_attachSource player format endpoint).shift
    · rw [noted]
      exact .stays rfl current rfl

omit [Scalar.Ordered α] in
theorem shift_turn [FrameSource F] (player : Player α T G S F) (turn : Turn) :
    Shift player (player.notify turn.notification) := by
  obtain ⟨ticker, log, told⟩ := player.notify_turn_eq turn
  rw [told]
  unfold turnEffects
  split
  · refine .stays rfl rfl ?_
    rw [List.append_nil]
  · exact .turns rfl rfl turn (Effect.rowSwaps_append _ _)

end Player

/-! ### What a session asks of rows -/

theorem Session.shift_step {α T G S F : Type} [Scalar α] [Scalar.Ordered α] [Transport α T]
    [GainStage α G] [PreferenceStore S] [Scheduler F] {session : Session α T G S F}
    (inOrder : session.player.table.InOrder) {left : Track α}
    (placed : session.player.table.get? session.player.follower.current = some left)
    (happening : Happening α T) :
    session.player.Shift (session.step happening).player := by
  cases happening with
  | command command => exact Player.shift_perform inOrder placed command
  | deliver =>
    show session.player.Shift session.deliver.player
    unfold deliver
    split
    · exact (Player.Apart.refl _).shift
    · exact Player.shift_turn _ _
  | remark remark => exact (Player.round_remark _ remark).shift inOrder placed
  | drift change => exact .stays rfl rfl rfl
  | frame =>
    show session.player.Shift session.frame.player
    unfold frame
    split
    · rename_i source _
      have fired : session.player.Apart { session.player with ticker.source := source } :=
        .of_same rfl rfl rfl
      exact (Player.Round.after_apart fired rfl (Player.round_onFrame _)).shift inOrder placed
    · exact (Player.Apart.refl _).shift

/-! ### Slugs -/

namespace TrackTable

variable {α : Type} {table : TrackTable α}

/-- The slugs of the tracks. -/
def slugs (table : TrackTable α) : List String := table.toList.map fun track => track.slug

theorem slugs_getElem? (table : TrackTable α) (index : Nat) :
    table.slugs[index]? = (table.get? index).map fun track => track.slug :=
  List.getElem?_map

/-- Different tracks have different slugs. -/
theorem slug_ne (distinct : table.slugs.Nodup) {index place : Nat} {track other : Track α}
    (found : table.get? index = some track) (foundToo : table.get? place = some other)
    (apart : index ≠ place) : track.slug ≠ other.slug := by
  intro same
  have slug : table.slugs[index]? = some track.slug := by rw [slugs_getElem?, found, Option.map_some]
  have slugToo : table.slugs[place]? = some track.slug := by
    rw [slugs_getElem?, foundToo, Option.map_some, same]
  obtain ⟨within, -⟩ := List.getElem?_eq_some_iff.mp slug
  exact apart ((List.getElem?_inj within distinct).mp (slug.trans slugToo.symm))

end TrackTable

/-! ### Players on a page with rows -/

/-- Something that goes on around a player on a page with rows. -/
inductive RowEvent (α T : Type) where
  | happening (happening : Happening α T)
  /-- The oldest swap of the row with a slug ends. -/
  | swapEnds (slug : String)

/-- A player on a page with rows. -/
structure Listing (α T G S F : Type) where
  session : Session α T G S F
  rows : String → Row

namespace Listing

variable {α T G S F : Type}

/-- A player on a page on which every row can be played. -/
def start (player : Player α T G S F) : Listing α T G S F := ⟨.start player, fun _ => .start⟩

section Run

variable [Scalar α] [Transport α T] [GainStage α G] [PreferenceStore S] [Scheduler F]

/-- The player on its page after something went on. The effects are drained at once. -/
def happen (listing : Listing α T G S F) (happening : Happening α T) : Listing α T G S F :=
  let session := listing.session.step happening
  let (effects, player) := session.player.drainEffects
  { session := { session with player }
    rows := (Effect.rowSwaps effects).foldl askRow listing.rows }

/-- The player on its page after an event. -/
def step (listing : Listing α T G S F) : RowEvent α T → Listing α T G S F
  | .happening happening => listing.happen happening
  | .swapEnds ended => { listing with
      rows := fun slug => if slug = ended then (listing.rows slug).expire else listing.rows slug }

/-- The player on its page after one event after the other. -/
def run (listing : Listing α T G S F) (events : List (RowEvent α T)) : Listing α T G S F :=
  events.foldl step listing

end Run

/-- What a row should show. -/
def due [Transport α T] (listing : Listing α T G S F) (track : Track α) : ControlClass :=
  if track.index = listing.session.player.follower.current ∧ listing.session.isPaused = false then
    .pause
  else .play

/-- Whether each row tells whether its track is playing. -/
def Agrees [Transport α T] (listing : Listing α T G S F) : Prop :=
  ∀ track ∈ listing.session.player.table.toList,
    ∀ shown ∈ [ControlClass.play, .pause],
      shown.name ∈ (listing.rows track.slug).button.classes ↔ shown = listing.due track

instance [Transport α T] (listing : Listing α T G S F) : Decidable listing.Agrees :=
  inferInstanceAs (Decidable (∀ track ∈ _, ∀ shown ∈ _, _ ∈ _ ↔ _ = _))

/-- Whether each row of a table has no swap pending. -/
def Settled (listing : Listing α T G S F) (table : TrackTable α) : Prop :=
  ∀ track ∈ table.toList, (listing.rows track.slug).button.pending = []

instance (listing : Listing α T G S F) (table : TrackTable α) : Decidable (listing.Settled table) :=
  inferInstanceAs (Decidable (∀ track ∈ _, _ = _))

/-- Whether no row of a table was asked for a swap while one of its own was pending. -/
def Calm (listing : Listing α T G S F) (table : TrackTable α) : Prop :=
  ∀ track ∈ table.toList, (listing.rows track.slug).isHurried = false

instance (listing : Listing α T G S F) (table : TrackTable α) : Decidable (listing.Calm table) :=
  inferInstanceAs (Decidable (∀ track ∈ _, _ = _))

/-- The rows of a table: each row is going to where the last swap leads that it took, and a row of
another track than the current one was last asked to show that it can be played. -/
structure Orderly (table : TrackTable α) (current : Nat) (rows : String → Row) : Prop where
  placed : ∃ track, table.get? current = some track
  steady : ∀ slug, (rows slug).Steady
  others : ∀ index track, table.get? index = some track → index ≠ current →
    (rows track.slug).asked = .play

section Orderly

variable {table : TrackTable α} {current : Nat} {rows : String → Row}

theorem orderly_start (table : TrackTable α) : Orderly table 0 fun _ => Row.start :=
  ⟨⟨table.first, rfl⟩, fun _ => Row.steady_start, fun _ _ _ _ => rfl⟩

/-- Whatever is asked of the row of the current track, the other rows stay as they are. -/
theorem Orderly.ask_current (distinct : table.slugs.Nodup)
    (orderly : Orderly table current rows) {left : Track α}
    (placed : table.get? current = some left) (turn : Turn) :
    Orderly table current (askRow rows (left.slug, turn.swap)) := by
  refine ⟨⟨left, placed⟩, steady_askRow orderly.steady left.slug turn, ?_⟩
  intro index track found apart
  rw [askRow_other rows _ (TrackTable.slug_ne distinct found placed apart)]
  exact orderly.others index track found apart

/-- A change of tracks asks the row left to show that it can be played. -/
theorem Orderly.move (distinct : table.slugs.Nodup)
    (orderly : Orderly table current rows) {left reached : Track α}
    (placed : table.get? current = some left) {next : Nat} (found : table.get? next = some reached) :
    Orderly table next (askRow (askRow rows (left.slug, Turn.pause.swap))
      (reached.slug, Turn.play.swap)) := by
  have first := orderly.ask_current distinct placed .pause
  refine ⟨⟨reached, found⟩, steady_askRow first.steady reached.slug .play, ?_⟩
  intro index track there apart
  rw [askRow_other _ _ (TrackTable.slug_ne distinct there found apart)]
  by_cases here : index = current
  · subst here
    obtain rfl := Option.some.inj (placed.symm.trans there)
    rw [askRow_same]
    rfl
  · exact first.others index track there here

theorem Orderly.shift [Scalar α] (distinct : table.slugs.Nodup)
    {before after : Player α T G S F} (same : before.table = table)
    (drained : before.effects = [])
    (orderly : Orderly table before.follower.current rows) (shift : before.Shift after) :
    after.table = table ∧ Orderly table after.follower.current
      ((Effect.rowSwaps after.effects).foldl askRow rows) := by
  obtain ⟨left, placed⟩ := orderly.placed
  have current : before.currentTrack = left := by
    refine Player.currentTrack_of_placed ?_
    rw [same]
    exact placed
  have nothing : Effect.rowSwaps before.effects = [] := by
    rw [drained]
    rfl
  cases shift with
  | stays sameTable stayed swaps =>
    rw [swaps, nothing, stayed]
    exact ⟨sameTable.trans same, orderly⟩
  | turns sameTable stayed turn swaps =>
    rw [swaps, nothing, stayed, current]
    exact ⟨sameTable.trans same, orderly.ask_current distinct placed turn⟩
  | moves sameTable track apart found moved swaps =>
    rw [same] at found
    rw [swaps, nothing, moved, current]
    exact ⟨sameTable.trans same, orderly.move distinct placed found⟩

theorem Orderly.expire (orderly : Orderly table current rows) (ended : String) :
    Orderly table current
      fun slug => if slug = ended then (rows slug).expire else rows slug := by
  refine ⟨orderly.placed, ?_, ?_⟩
  · intro slug
    split
    · exact (orderly.steady slug).expire
    · exact orderly.steady slug
  · intro index track found apart
    have asked := orderly.others index track found apart
    split
    · exact asked
    · exact asked

end Orderly

/-- The invariant: turns lead to what the transport does, effects are drained, and the rows are
orderly. -/
structure Faithful [Transport α T] (table : TrackTable α) (listing : Listing α T G S F) : Prop where
  told : listing.session.Told
  drained : listing.session.player.effects = []
  sameTable : listing.session.player.table = table
  orderly : Orderly table listing.session.player.follower.current listing.rows

section Runs

variable [Scalar α] [Scalar.Ordered α] [Transport α T] [GainStage α G] [PreferenceStore S]
  [Scheduler F] {table : TrackTable α} {listing : Listing α T G S F}

theorem faithful_step (inOrder : table.InOrder)
    (distinct : table.slugs.Nodup)
    (faithful : Faithful table listing) (event : RowEvent α T) :
    Faithful table (listing.step event) := by
  obtain ⟨told, drained, same, orderly⟩ := faithful
  cases event with
  | happening happening =>
    obtain ⟨left, placed⟩ := orderly.placed
    have shift := Session.shift_step (by rw [same]; exact inOrder) (by rw [same]; exact placed)
      happening
    obtain ⟨kept, orderly⟩ := orderly.shift distinct same drained shift
    exact ⟨Session.told_step told happening, rfl, kept, orderly⟩
  | swapEnds slug => exact ⟨told, drained, same, orderly.expire slug⟩

theorem faithful_run (inOrder : table.InOrder)
    (distinct : table.slugs.Nodup)
    (faithful : Faithful table listing) (events : List (RowEvent α T)) :
    Faithful table (listing.run events) := by
  induction events generalizing listing with
  | nil => exact faithful
  | cons event later inductionHypothesis =>
    exact inductionHypothesis (faithful_step inOrder distinct faithful event)

end Runs

/-! ### What settled rows tell -/

section Settled

variable [Transport α T] {table : TrackTable α} {listing : Listing α T G S F}

/-- Whether the last turn that the player was told is one to play. -/
def isToldPlay (listing : Listing α T G S F) : Prop :=
  listing.session.latest.map Delivery.turn = some .play

instance (listing : Listing α T G S F) : Decidable listing.isToldPlay :=
  inferInstanceAs (Decidable (_ = _))

/-- A button that shows one class tells a class just if that is the one it shows. -/
theorem tells_iff {taken due : ControlClass} (loaded : taken ≠ .loading) (dueLoaded : due ≠ .loading) :
    (∀ shown ∈ [ControlClass.play, .pause], shown.name ∈ [taken.name] ↔ shown = due) ↔
      taken = due := by
  cases taken <;> cases due <;> first | contradiction | decide

theorem due_ne_loading (listing : Listing α T G S F) (track : Track α) :
    listing.due track ≠ .loading := by
  unfold due
  split <;> decide

/-- Once every turn arrived, what a row should show is known from the last one. -/
theorem Faithful.due_eq (faithful : Faithful table listing)
    (arrived : listing.session.inFlight = []) (track : Track α) :
    listing.due track =
      if track.index = listing.session.player.follower.current ∧ listing.isToldPlay then .pause
      else .play := by
  have heard : listing.session.isPaused = false ↔ listing.isToldPlay := by
    rw [faithful.told.isPaused_eq arrived, Session.heardPaused_eq, decide_eq_false_iff_not, not_not]
    rfl
  unfold due
  exact if_congr (and_congr Iff.rfl heard) rfl rfl

theorem Faithful.agrees_iff (faithful : Faithful table listing)
    (arrived : listing.session.inFlight = [])
    (settled : listing.Settled table) :
    listing.Agrees ↔ ∀ track ∈ table.toList, ((listing.rows track.slug).taken = .pause ↔
      track.index = listing.session.player.follower.current ∧ listing.isToldPlay) := by
  unfold Agrees
  rw [faithful.sameTable]
  refine forall₂_congr fun track member => ?_
  have steady := faithful.orderly.steady track.slug
  have loaded := steady.taken_ne_loading (settled track member)
  rw [steady.classes_eq (settled track member), tells_iff loaded (listing.due_ne_loading track),
    faithful.due_eq arrived]
  split <;> rename_i plays
  · simp only [plays, and_self, iff_true]
  · rw [iff_false_right plays]
    cases taken : (listing.rows track.slug).taken with
    | loading => exact absurd taken loaded
    | play => decide
    | pause => decide

/-- A row that was not hurried shows that it can be played unless its track is the current one. -/
theorem Faithful.taken_of_calm [Scalar α] (faithful : Faithful table listing)
    (inOrder : table.InOrder) {track : Track α} (member : track ∈ table.toList)
    (calm : (listing.rows track.slug).isHurried = false)
    (other : track.index ≠ listing.session.player.follower.current) :
    (listing.rows track.slug).taken = .play := by
  rw [(faithful.orderly.steady track.slug).unhurried calm]
  exact faithful.orderly.others track.index track (inOrder.get?_index member) other

/-- Rows that were not hurried tell what is playing just if the row of the current track was last asked
to show what the player was last told. -/
theorem Faithful.agrees_iff_of_calm [Scalar α] (faithful : Faithful table listing)
    (inOrder : table.InOrder) (arrived : listing.session.inFlight = [])
    (settled : listing.Settled table) (calm : listing.Calm table) :
    listing.Agrees ↔
      ((listing.rows listing.session.player.currentTrack.slug).asked = .pause ↔
        listing.isToldPlay) := by
  obtain ⟨here, placed⟩ := faithful.orderly.placed
  have isHere : listing.session.player.currentTrack = here := by
    refine Player.currentTrack_of_placed ?_
    rw [faithful.sameTable]
    exact placed
  have hereIndex := inOrder.index placed
  have hereMember := TrackTable.mem_of_get? placed
  have hereTaken := (faithful.orderly.steady here.slug).unhurried (calm here hereMember)
  rw [faithful.agrees_iff arrived settled, isHere]
  constructor
  · intro agrees
    rw [← hereTaken, agrees here hereMember, and_iff_right hereIndex]
  · intro agrees track member
    by_cases current : track.index = listing.session.player.follower.current
    · have found := inOrder.get?_index member
      rw [current] at found
      obtain rfl := Option.some.inj (placed.symm.trans found)
      rw [hereTaken, agrees, and_iff_right current]
    · rw [faithful.taken_of_calm inOrder member (calm track member) current]
      simp [current]

end Settled

section Result

variable [Scalar α] [Scalar.Ordered α] [Transport α T] [GainStage α G] [PreferenceStore S]
  [Scheduler F]

/-- Once everything settled, each row shows the class of the last swap that it took, and the rows tell
what is playing just if the row of the current track took one to where it can be paused exactly when
the last turn told was one to play, and no other row did. As long as no row is asked for a swap while
one of its own is pending, the other rows did not, and the rows tell what is playing just if what the
row of the current track was asked for last, which may be that the track was reached, agrees with the
last turn told. -/
theorem rowButtons_agree_iff {config : Config α} {transport : T} {output : G} {store : S}
    {frames : F} {player : Player α T G S F}
    (setUp : Player.new config transport output store frames = .ok player)
    (paused : Transport.isPaused transport = true)
    (distinct : player.table.slugs.Nodup)
    (events : List (RowEvent α T))
    (arrived : ((start player).run events).session.inFlight = [])
    (settled : ((start player).run events).Settled player.table) :
    let listing := (start player).run events
    let current := listing.session.player.currentTrack
    (∀ track ∈ player.table.toList, (listing.rows track.slug).button.classes =
        [(listing.rows track.slug).taken.name]) ∧
      (listing.Agrees ↔ ∀ track ∈ player.table.toList, ((listing.rows track.slug).taken = .pause ↔
        track.index = listing.session.player.follower.current ∧ listing.isToldPlay)) ∧
      (listing.Calm player.table →
        (∀ track ∈ player.table.toList, track.index ≠ listing.session.player.follower.current →
            (listing.rows track.slug).button.classes = [ControlClass.play.name]) ∧
          (listing.Agrees ↔
            ((listing.rows current.slug).asked = .pause ↔ listing.isToldPlay))) := by
  intro listing current
  have isNew := Player.isNew_of_new setUp
  have inOrder := TrackTable.inOrder_of_ofEntries isNew.table
  have atRest : player.stream.isPaused = true := by
    rw [isNew.stream]
    exact paused
  have initially : Faithful player.table (start player) := by
    refine ⟨Session.told_start atRest, isNew.effects, rfl, ?_⟩
    show Orderly player.table player.follower.current _
    rw [isNew.follower]
    exact orderly_start player.table
  have faithful : Faithful player.table listing :=
    faithful_run inOrder distinct initially events
  refine ⟨fun track member => ?_, faithful.agrees_iff arrived settled, fun calm => ⟨?_, ?_⟩⟩
  · exact (faithful.orderly.steady track.slug).classes_eq (settled track member)
  · intro track member other
    rw [(faithful.orderly.steady track.slug).classes_eq (settled track member),
      faithful.taken_of_calm inOrder member (calm track member) other]
  · exact faithful.agrees_iff_of_calm inOrder arrived settled calm

end Result

/-- The listener plays the first track and skips to the second one after the row of the first one took
the turn. -/
def playAndSkip : List (RowEvent Float (InMemory.Deck Float)) :=
  [.happening (.command (.attach (some ⟨"opus", "audio/ogg"⟩) TwoTracks.endpoint)),
    .happening (.command .togglePlay), .happening .deliver, .swapEnds "dawn",
    .happening (.command .skipNext), .swapEnds "dawn", .swapEnds "dusk"]

theorem rowButtons_agree_after_skip :
    ∃ player, TwoTracks.setUp = .ok player ∧
      let listing := (start player).run playAndSkip
      (listing.session.inFlight = [] ∧ listing.Settled player.table ∧
          listing.Calm player.table) ∧
        listing.session.player.follower.current = 1 ∧ listing.session.isPaused = false ∧
        listing.Agrees := by
  obtain ⟨player, setUp, passed⟩ := TwoTracks.exists_player (fun player =>
    let listing := (start player).run playAndSkip
    decide (player.table.slugs.Nodup ∧
      (listing.session.inFlight = [] ∧ listing.Settled player.table ∧ listing.Calm player.table) ∧
      (listing.session.player.follower.current = 1 ∧ listing.session.isPaused = false) ∧
      ((listing.rows listing.session.player.currentTrack.slug).asked = .pause ↔
        listing.isToldPlay))) (by decide +kernel)
  obtain ⟨distinct, rest, ⟨moved, playing⟩, same⟩ := of_decide_eq_true passed
  obtain ⟨arrived, settled, calm⟩ := rest
  have result := rowButtons_agree_iff setUp rfl distinct playAndSkip arrived settled
  exact ⟨player, setUp, ⟨arrived, settled, calm⟩, moved, playing, (result.2.2 calm).2.mpr same⟩

/-- The listener skips to the second track without playing anything, and the row of that track goes on
to tell that it can be paused. -/
theorem rowButtons_disagree_after_paused_skip :
    ∃ player, TwoTracks.setUp = .ok player ∧
      player.table.slugs.Nodup ∧
      let listing := (start player).run
        [.happening (.command (.attach (some ⟨"opus", "audio/ogg"⟩) TwoTracks.endpoint)),
          .happening (.command .skipNext), .swapEnds "dusk"]
      listing.session.inFlight = [] ∧ listing.session.player.drag = none ∧
        listing.Settled player.table ∧ listing.Calm player.table ∧
        listing.session.player.follower.current = 1 ∧ listing.session.isPaused = true ∧
        (listing.rows "dusk").button.classes = ["pause"] ∧ ¬ listing.Agrees := by
  obtain ⟨player, setUp, passed⟩ := TwoTracks.exists_player (fun player =>
    let listing := (start player).run
      [.happening (.command (.attach (some ⟨"opus", "audio/ogg"⟩) TwoTracks.endpoint)),
        .happening (.command .skipNext), .swapEnds "dusk"]
    decide (player.table.slugs.Nodup ∧
      listing.session.inFlight = [] ∧ listing.session.player.drag.isNone = true ∧
      listing.Settled player.table ∧ listing.Calm player.table ∧
      listing.session.player.follower.current = 1 ∧ listing.session.isPaused = true ∧
      (listing.rows "dusk").button.classes = ["pause"] ∧ ¬ listing.Agrees)) (by decide +kernel)
  obtain ⟨distinct, arrived, released, rest⟩ := of_decide_eq_true passed
  exact ⟨player, setUp, distinct, arrived, Option.isNone_iff_eq_none.mp released, rest⟩

end Listing

end ReleasePlayer
