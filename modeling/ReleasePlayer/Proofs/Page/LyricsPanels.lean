/-
This file keeps the lyrics panels of a page beside those that the follower keeps. Either side may open
or close a panel at any time: the listener does it on the page, which then owes the player a notice, and
the player does it when it changes tracks, which the page carries out at once. A panel that the player
opens or closes is the same on both sides right after that, whatever was on its way, and a notice that
arrives brings what the panel is by then. So two sides differ in a panel only as long as a notice of it
is on its way, and which notice arrives first does not matter.
-/

import ReleasePlayer.Proofs.Player.Round
import ReleasePlayer.Proofs.Player.Run
import ReleasePlayer.Proofs.Player.Setup
import ReleasePlayer.Proofs.TrackTable.Search

namespace ReleasePlayer

/-! ### Panels of a page -/

/-- The lyrics panels of a page, by the slugs of their tracks. -/
structure Panels where
  /-- Whether a panel is open, if there is one. -/
  isOpen? : String → Option Bool
  /-- The panels whose change the player was not told yet. -/
  pending : List String

namespace Panels

/-- A page without panels. -/
def blank : Panels := ⟨fun _ => none, []⟩

/-- Adds a panel. -/
def add (panels : Panels) (slug : String) (isOpen : Bool) : Panels :=
  { panels with isOpen? := fun other => if other = slug then some isOpen else panels.isOpen? other }

/-- Opens or closes a panel, if there is one. A notice of that is due if the panel changed. -/
def set (panels : Panels) (slug : String) (isOpen : Bool) : Panels :=
  match panels.isOpen? slug with
  | some wasOpen =>
    { panels.add slug isOpen with
      pending := if wasOpen = isOpen then panels.pending else panels.pending ++ [slug] }
  | none => panels

/-- The listener opens a panel that is closed, or closes one that is open. -/
def flip (panels : Panels) (slug : String) : Panels :=
  match panels.isOpen? slug with
  | some wasOpen => panels.set slug (!wasOpen)
  | none => panels

/-- Takes back a notice. -/
def settle (panels : Panels) (slug : String) : Panels :=
  { panels with pending := panels.pending.erase slug }

variable {α : Type}

/-- The panels after an effect. -/
def after (panels : Panels) : Effect α → Panels
  | .setLyricsOpen slug isOpen => panels.set slug isOpen
  | _ => panels

/-- The panels after one effect after the other. -/
def afterAll (panels : Panels) (effects : List (Effect α)) : Panels := effects.foldl after panels

theorem afterAll_append (panels : Panels) (first second : List (Effect α)) :
    panels.afterAll (first ++ second) = (panels.afterAll first).afterAll second :=
  List.foldl_append

theorem after_apart (panels : Panels) {effect : Effect α} (apart : effect.isApart = true) :
    panels.after effect = panels := by
  cases effect with
  | setLyricsOpen slug isOpen => cases apart
  | _ => rfl

theorem afterAll_apart (panels : Panels) {effects : List (Effect α)}
    (apart : ∀ effect ∈ effects, effect.isApart = true) : panels.afterAll effects = panels := by
  induction effects with
  | nil => rfl
  | cons effect later inductionHypothesis =>
    show (panels.after effect).afterAll later = panels
    rw [panels.after_apart (apart effect List.mem_cons_self)]
    exact inductionHypothesis fun other member => apart other (List.mem_cons_of_mem _ member)

theorem isOpen?_set_eq (panels : Panels) (slug : String) (isOpen : Bool) (other : String) :
    (panels.set slug isOpen).isOpen? other =
      if other = slug then (panels.isOpen? slug).map fun _ => isOpen else panels.isOpen? other := by
  unfold set
  cases there : panels.isOpen? slug with
  | some wasOpen => rfl
  | none =>
    dsimp only
    split
    · rename_i this
      rw [this, there]
      rfl
    · rfl

theorem isOpen?_set {panels : Panels} {slug : String} {wasOpen : Bool}
    (there : panels.isOpen? slug = some wasOpen) (isOpen : Bool) (other : String) :
    (panels.set slug isOpen).isOpen? other =
      if other = slug then some isOpen else panels.isOpen? other := by
  rw [isOpen?_set_eq, there, Option.map_some]

theorem not_mem_pending_of_set {panels : Panels} {slug other : String} {isOpen : Bool}
    (settled : other ∉ (panels.set slug isOpen).pending) : other ∉ panels.pending := by
  intro pending
  refine settled ?_
  unfold set
  split
  · dsimp only
    split
    · exact pending
    · exact List.mem_append_left _ pending
  · exact pending

theorem isOpen?_settle {panels : Panels} {slug : String} {isOpen : Bool}
    (there : panels.isOpen? slug = some isOpen) (other : String) :
    (panels.settle slug).isOpen? other =
      if other = slug then some isOpen else panels.isOpen? other := by
  split
  · rename_i this
    rw [this]
    exact there
  · rfl

theorem not_mem_pending_of_settle {panels : Panels} {slug other : String} (elsewhere : other ≠ slug)
    (settled : other ∉ (panels.settle slug).pending) : other ∉ panels.pending :=
  fun pending => settled ((List.mem_erase_of_ne elsewhere).mpr pending)

/-- No panel comes or goes. -/
theorem isSome_isOpen?_set {panels : Panels} {slug : String} {wasOpen : Bool}
    (there : panels.isOpen? slug = some wasOpen) (isOpen : Bool) (other : String) :
    ((panels.set slug isOpen).isOpen? other).isSome = (panels.isOpen? other).isSome := by
  rw [isOpen?_set there]
  split
  · rename_i this
    rw [this, there]
    rfl
  · rfl

/-- A panel that changed is owed a notice. -/
theorem mem_pending_of_change {panels : Panels} {slug : String} {wasOpen : Bool}
    (there : panels.isOpen? slug = some wasOpen) :
    slug ∈ (panels.set slug (!wasOpen)).pending := by
  have changed : wasOpen ≠ !wasOpen := by cases wasOpen <;> decide
  unfold set
  rw [there]
  dsimp only
  rw [if_neg changed]
  exact List.mem_append_right _ (List.mem_singleton_self slug)

theorem flip_of_some {panels : Panels} {slug : String} {wasOpen : Bool}
    (there : panels.isOpen? slug = some wasOpen) : panels.flip slug = panels.set slug (!wasOpen) := by
  unfold flip
  rw [there]

theorem flip_of_none {panels : Panels} {slug : String} (missing : panels.isOpen? slug = none) :
    panels.flip slug = panels := by
  unfold flip
  rw [missing]

end Panels

/-! ### Both sides -/

/-- The panels that the follower keeps stand for panels of the page, each panel of a track on the page
is kept, and one of which no notice is on its way is kept as it is. -/
structure Agree {α : Type} (table : TrackTable α) (kept : Nat → Option Bool) (panels : Panels) :
    Prop where
  backed : ∀ index, (kept index).isSome = true → ∃ track, table.get? index = some track ∧
    table.ofSlug? track.slug = some track ∧ (panels.isOpen? track.slug).isSome = true
  noted : ∀ slug track, table.ofSlug? slug = some track →
    (panels.isOpen? slug).isSome = true → (kept track.index).isSome = true
  same : ∀ slug track, table.ofSlug? slug = some track → slug ∉ panels.pending →
    (panels.isOpen? slug).isSome = true → kept track.index = panels.isOpen? slug

section Agree

variable {α : Type} [Scalar α] {table : TrackTable α}

omit [Scalar α] in
theorem TrackTable.slug_of_ofSlug? {slug : String} {track : Track α}
    (found : table.ofSlug? slug = some track) : track.slug = slug := by
  simpa using List.find?_some found

theorem TrackTable.InOrder.get?_of_ofSlug? (inOrder : table.InOrder) {slug : String}
    {track : Track α} (found : table.ofSlug? slug = some track) :
    table.get? track.index = some track :=
  inOrder.get?_index (List.mem_of_find?_eq_some found)

/-- Slugs that stand for the same track are the same. -/
theorem TrackTable.InOrder.slug_eq (inOrder : table.InOrder) {slug other : String}
    {track track' : Track α} (found : table.ofSlug? slug = some track)
    (found' : table.ofSlug? other = some track') (same : track'.index = track.index) :
    other = slug := by
  have placed := inOrder.get?_of_ofSlug? found
  have placed' := inOrder.get?_of_ofSlug? found'
  rw [same] at placed'
  obtain rfl := Option.some.inj (placed.symm.trans placed')
  exact (TrackTable.slug_of_ofSlug? found').symm.trans (TrackTable.slug_of_ofSlug? found)

omit [Scalar α] in
theorem agree_blank (table : TrackTable α) {kept : Nat → Option Bool}
    (nothing : ∀ index, kept index = none) : Agree table kept .blank where
  backed index there := by
    rw [nothing] at there
    cases there
  noted slug track _ there := by cases there
  same slug track _ _ there := by cases there

variable {kept : Nat → Option Bool} {panels : Panels}

/-- A panel that becomes the same on both sides leaves the others as they were. -/
theorem Agree.write (inOrder : table.InOrder) (agree : Agree table kept panels) {slug : String}
    {track : Track α} (found : table.ofSlug? slug = some track) (isOpen : Bool) {after : Panels}
    (known : ∀ other, after.isOpen? other =
      if other = slug then some isOpen else panels.isOpen? other)
    (settled : ∀ other, other ≠ slug → other ∉ after.pending → other ∉ panels.pending) :
    Agree table (fun index => if index = track.index then some isOpen else kept index) after := by
  refine ⟨?_, ?_, ?_⟩
  · intro index there
    by_cases here : index = track.index
    · have named := TrackTable.slug_of_ofSlug? found
      refine ⟨track, ?_, ?_, ?_⟩
      · rw [here]
        exact inOrder.get?_of_ofSlug? found
      · rw [named]
        exact found
      · rw [named, known, if_pos rfl]
        rfl
    · rw [if_neg here] at there
      obtain ⟨track', placed', first, panel⟩ := agree.backed index there
      refine ⟨track', placed', first, ?_⟩
      rw [known]
      split
      · rfl
      · exact panel
  · intro other track' found' there
    split
    · rfl
    · rename_i elsewhere
      by_cases this : other = slug
      · subst this
        obtain rfl := Option.some.inj (found.symm.trans found')
        exact absurd rfl elsewhere
      · rw [known, if_neg this] at there
        exact agree.noted other track' found' there
  · intro other track' found' quiet there
    by_cases this : other = slug
    · subst this
      obtain rfl := Option.some.inj (found.symm.trans found')
      rw [if_pos rfl, known, if_pos rfl]
    · rw [known, if_neg this] at there ⊢
      rw [if_neg (mt (inOrder.slug_eq found found') this)]
      exact agree.same other track' found' (settled other this quiet) there

omit [Scalar α] in
/-- The listener may open or close any panel: a notice of it is on its way then. -/
theorem Agree.flip (agree : Agree table kept panels) (slug : String) :
    Agree table kept (panels.flip slug) := by
  cases there : panels.isOpen? slug with
  | none =>
    rw [Panels.flip_of_none there]
    exact agree
  | some wasOpen =>
    have notice := Panels.mem_pending_of_change there
    rw [Panels.flip_of_some there]
    refine ⟨?_, ?_, ?_⟩
    · intro index kept
      obtain ⟨track, placed, first, panel⟩ := agree.backed index kept
      refine ⟨track, placed, first, ?_⟩
      rw [Panels.isSome_isOpen?_set there]
      exact panel
    · intro other track found panel
      rw [Panels.isSome_isOpen?_set there] at panel
      exact agree.noted other track found panel
    · intro other track found quiet panel
      have elsewhere : other ≠ slug := by
        rintro rfl
        exact quiet notice
      rw [Panels.isSome_isOpen?_set there] at panel
      rw [Panels.isOpen?_set there, if_neg elsewhere]
      exact agree.same other track found (Panels.not_mem_pending_of_set quiet) panel

omit [Scalar α] in
/-- A notice of a panel that is not there, or that stands for no track, brings nothing. -/
theorem Agree.settle (agree : Agree table kept panels) {slug : String}
    (unknown : ∀ track, table.ofSlug? slug = some track → panels.isOpen? slug = none) :
    Agree table kept (panels.settle slug) := by
  refine ⟨agree.backed, agree.noted, ?_⟩
  intro other track found quiet panel
  have elsewhere : other ≠ slug := by
    rintro rfl
    have there : (panels.isOpen? other).isSome = true := panel
    rw [unknown track found] at there
    cases there
  exact agree.same other track found (Panels.not_mem_pending_of_settle elsewhere quiet) panel

omit [Scalar α] in
/-- A panel may be put on the page for something that is no track. -/
theorem Agree.add_unknown (agree : Agree table kept panels) {slug : String}
    (unknown : table.ofSlug? slug = none) (isOpen : Bool) :
    Agree table kept (panels.add slug isOpen) := by
  have elsewhere {other : String} {track : Track α} (found : table.ofSlug? other = some track) :
      (panels.add slug isOpen).isOpen? other = panels.isOpen? other := by
    refine if_neg ?_
    rintro rfl
    rw [unknown] at found
    cases found
  refine ⟨?_, ?_, ?_⟩
  · intro index there
    obtain ⟨track, placed, first, panel⟩ := agree.backed index there
    rw [← elsewhere first] at panel
    exact ⟨track, placed, first, panel⟩
  · intro other track found panel
    rw [elsewhere found] at panel
    exact agree.noted other track found panel
  · intro other track found quiet panel
    rw [elsewhere found] at panel ⊢
    exact agree.same other track found quiet panel

/-! ### The lyrics go along -/

/-- An effect opens or closes the panel of the page that stands for the one kept. -/
theorem Agree.lyrics (inOrder : table.InOrder) (agree : Agree table kept panels) {index : Nat}
    (there : (kept index).isSome = true) (isOpen : Bool) :
    Agree table (fun other => if other = index then some isOpen else kept other)
      (panels.afterAll (Player.lyricsEffects table (some index) isOpen)) := by
  obtain ⟨track, placed, first, panel⟩ := agree.backed index there
  obtain ⟨wasOpen, panel⟩ := Option.isSome_iff_exists.mp panel
  have effects : Player.lyricsEffects table (some index) isOpen =
      [.setLyricsOpen track.slug isOpen] := by
    unfold Player.lyricsEffects
    rw [Option.bind_some, placed]
  obtain rfl := inOrder.index placed
  rw [effects]
  exact agree.write inOrder first isOpen (Panels.isOpen?_set panel isOpen)
    fun other _ quiet => Panels.not_mem_pending_of_set quiet

omit [Scalar α] in
theorem Agree.congr {other : Nat → Option Bool} (agree : Agree table kept panels)
    (same : ∀ index, other index = kept index) : Agree table other panels := by
  rw [funext same]
  exact agree

/-- The panel that is closed as its track is left is closed on the page too. -/
theorem Agree.leave (inOrder : table.InOrder) {follower : Follower}
    (agree : Agree table follower.panel? panels) :
    Agree table follower.leave.1.panel? (panels.afterAll (Player.lyricsEffects table
      (if follower.isOpen follower.current then some follower.current else none) false)) := by
  by_cases isOpen : follower.panel? follower.current = some true
  · have closes : follower.isOpen follower.current = true := beq_iff_eq.mpr isOpen
    rw [if_pos closes]
    refine (agree.lyrics inOrder (Option.isSome_of_eq_some isOpen) false).congr fun index => ?_
    rw [follower.panel?_leave]
    split
    · rename_i here
      rw [here, isOpen]
      rfl
    · rfl
  · have stays : ¬ follower.isOpen follower.current = true := mt beq_iff_eq.mp isOpen
    rw [if_neg stays]
    refine agree.congr fun index => ?_
    rw [follower.panel?_leave]
    split
    · rename_i here
      rw [here]
      cases panel : follower.panel? follower.current with
      | none => rfl
      | some wasOpen =>
        cases wasOpen with
        | false => rfl
        | true => exact absurd panel isOpen
    · rfl

/-- The panel that is opened as its track is reached is opened on the page too. -/
theorem Agree.reach (inOrder : table.InOrder) {follower : Follower}
    (agree : Agree table follower.panel? panels) (index : Nat) (wanted : Bool) :
    Agree table (follower.reach index wanted).panel? (panels.afterAll (Player.lyricsEffects table
      (if wanted && (follower.panel? index).isSome then some index else none) true)) := by
  by_cases opens : (wanted && (follower.panel? index).isSome) = true
  · rw [if_pos opens]
    obtain ⟨wished, there⟩ := Bool.and_eq_true_iff.mp opens
    refine (agree.lyrics inOrder there true).congr fun other => ?_
    rw [follower.panel?_reach]
    by_cases here : other = index
    · obtain ⟨wasOpen, panel⟩ := Option.isSome_iff_exists.mp there
      rw [if_pos ⟨here, wished⟩, if_pos here, here, panel]
      rfl
    · rw [if_neg fun both => here both.1, if_neg here]
  · rw [if_neg opens]
    refine agree.congr fun other => ?_
    rw [follower.panel?_reach]
    split
    · rename_i both
      obtain ⟨rfl, wished⟩ := both
      rw [wished, Bool.true_and] at opens
      rw [Option.not_isSome_iff_eq_none.mp opens]
      rfl
    · rfl

theorem Agree.moveTo (inOrder : table.InOrder) {follower : Follower}
    (agree : Agree table follower.panel? panels) (index : Nat) :
    let change := (follower.moveTo index).2
    let closed := panels.afterAll (Player.lyricsEffects table change.closeLyrics false)
    Agree table (follower.moveTo index).1.panel?
      (closed.afterAll (Player.lyricsEffects table change.openLyrics true)) :=
  (agree.leave inOrder).reach inOrder index follower.leave.2

end Agree

/-! ### What handlers do to panels -/

namespace Player

variable {α T G S F : Type}

/-- The two sides agree after a handler and its effects if they did before it. -/
structure Harmless (before after : Player α T G S F) : Prop where
  table : after.table = before.table
  carried : ∃ queued, after.effects = before.effects ++ queued ∧ ∀ panels : Panels,
    Agree before.table before.follower.panel? panels →
    Agree before.table after.follower.panel? (panels.afterAll queued)

variable {before after : Player α T G S F}

theorem Harmless.trans {middle : Player α T G S F} (earlier : Harmless before middle)
    (later : Harmless middle after) : Harmless before after := by
  obtain ⟨table, queued, effects, carried⟩ := earlier
  obtain ⟨laterTable, more, laterEffects, laterCarried⟩ := later
  refine ⟨laterTable.trans table, queued ++ more, ?_, fun panels agree => ?_⟩
  · rw [laterEffects, effects, List.append_assoc]
  · have next := laterCarried (panels.afterAll queued) (by rw [table]; exact carried panels agree)
    rw [table] at next
    rw [Panels.afterAll_append]
    exact next

theorem Apart.harmless (apart : Apart before after) : Harmless before after := by
  obtain ⟨table, follower, queued, effects, quiet⟩ := apart
  refine ⟨table, queued, effects, fun panels agree => ?_⟩
  rw [follower, panels.afterAll_apart quiet]
  exact agree

/-- Effects that show nothing of lyrics are harmless. -/
theorem harmless_queue (player : Player α T G S F) {effects : List (Effect α)}
    (quiet : ∀ panels : Panels, panels.afterAll effects = panels) :
    Harmless player (player.queue effects) := by
  refine ⟨rfl, effects, rfl, fun panels agree => ?_⟩
  rw [quiet]
  exact agree

theorem harmless_turn [Transport α T] [Scalar α] [FrameSource F] (player : Player α T G S F)
    (turn : Turn) : Harmless player (player.notify turn.notification) := by
  obtain ⟨ticker, log, told⟩ := player.notify_turn_eq turn
  have shown : Harmless player (player.queue (player.turnEffects turn)) := by
    refine harmless_queue player fun panels => ?_
    unfold turnEffects
    split <;> rfl
  rw [told]
  exact shown.trans (Apart.harmless (.of_same rfl rfl rfl))

theorem afterAll_leftEffects (table : TrackTable α) (index : Nat) (panels : Panels) :
    panels.afterAll (leftEffects table index) = panels := by
  unfold leftEffects
  split <;> rfl

variable [Scalar α] [Transport α T] {player : Player α T G S F}

omit [Transport α T] in
/-- A change of tracks takes the panels along on both sides. -/
theorem harmless_reached (inOrder : player.table.InOrder) (index : Nat) :
    Harmless player ((player.reached index).queue
      ((player.reached index).changeEffects (player.follower.moveTo index).2)) := by
  refine ⟨rfl, _, rfl, fun panels agree => ?_⟩
  unfold changeEffects
  rw [Panels.afterAll_append, Panels.afterAll_append, Panels.afterAll_append, afterAll_leftEffects]
  exact agree.moveTo inOrder index

theorem harmless_followStream (inOrder : player.table.InOrder) {track : Track α}
    (covered : player.table.trackAt? player.stream.position = some track) :
    Harmless player player.followStream := by
  by_cases same : track.index = player.follower.current
  · rw [followStream_of_same covered same]
    exact (Apart.refl player).harmless
  · obtain ⟨log, followed⟩ := followStream_of_other covered same
    rw [followed]
    exact (harmless_reached inOrder track.index).trans (Apart.harmless (.of_same rfl rfl rfl))

theorem harmless_updateTime (inOrder : player.table.InOrder) :
    Harmless player player.updateTime := by
  cases covered : player.table.trackAt? player.stream.position with
  | none =>
    rw [updateTime_of_uncovered covered]
    exact (Apart.refl player).harmless
  | some track =>
    have followed := harmless_followStream inOrder covered
    have shown := followed.trans (harmless_queue player.followStream
      (fun _ => rfl : ∀ panels : Panels,
        panels.afterAll (timeEffects track player.stream.position) = panels))
    exact shown.trans (updateTime_of_covered covered).harmless

theorem Round.harmless (round : Round before after) (inOrder : before.table.InOrder) :
    Harmless before after := by
  cases round with
  | rest apart kept => exact apart.harmless
  | update middle earlier led later kept =>
    rw [← earlier.table] at inOrder
    exact (earlier.harmless.trans (harmless_updateTime inOrder)).trans later.harmless

end Player

/-- Whether an input tells of the lyrics of a track. -/
def Input.tellsLyrics {α T : Type} : Input α T → Bool
  | .command (.registerLyrics _ _) => true
  | .command (.toggleLyrics _ _) => true
  | _ => false

theorem Player.harmless_take {α T G S F : Type} [Scalar α] [Transport α T] [GainStage α G]
    [PreferenceStore S] [FrameSource F] {player : Player α T G S F} (inOrder : player.table.InOrder)
    {input : Input α T} (unrelated : input.tellsLyrics = false) :
    player.Harmless (player.take input) := by
  cases input with
  | command command =>
    cases plain : command.isPlain with
    | true => exact (round_perform player plain).harmless inOrder
    | false =>
      cases command with
      | attach format endpoint => exact (apart_attachSource player format endpoint).harmless
      | registerLyrics slug isOpen => cases unrelated
      | toggleLyrics slug isOpen => cases unrelated
      | _ => cases plain
  | notify notification =>
    rcases notification.turn_or_remark with ⟨turn, rfl⟩ | ⟨remark, rfl⟩
    · exact harmless_turn player turn
    · exact (round_remark player remark).harmless inOrder
  | frame => exact (round_onFrame player).harmless inOrder
  | drift change => exact Apart.harmless (.of_same rfl rfl rfl)

/-! ### Players on a page with panels -/

/-- Something that goes on around a player on a page with panels. -/
inductive LyricsEvent (α T : Type) where
  /-- The player takes in something that has nothing to do with its panels. -/
  | input (input : Input α T) (unrelated : input.tellsLyrics = false)
  /-- The listener opens or closes a panel. -/
  | flip (slug : String)
  /-- A notice that a panel changed arrives. -/
  | deliver (slug : String)

/-- A player on a page with panels. -/
structure LyricsPage (α T G S F : Type) where
  player : Player α T G S F
  panels : Panels

namespace LyricsPage

variable {α T G S F : Type}

/-- The page carries out what is queued. -/
def carryOut (page : LyricsPage α T G S F) : LyricsPage α T G S F :=
  let (effects, player) := page.player.drainEffects
  ⟨player, page.panels.afterAll effects⟩

/-- A panel is put on the page, and the player is told of it. -/
def mount [Scalar α] [Transport α T] [GainStage α G] [PreferenceStore S] [FrameSource F]
    (page : LyricsPage α T G S F) (panel : String × Bool) : LyricsPage α T G S F :=
  ⟨page.player.perform (.registerLyrics panel.1 panel.2), page.panels.add panel.1 panel.2⟩

/-- A player on a page with some panels, each open or not. -/
def start [Scalar α] [Transport α T] [GainStage α G] [PreferenceStore S] [FrameSource F]
    (player : Player α T G S F) (panels : List (String × Bool)) : LyricsPage α T G S F :=
  panels.foldl mount ⟨player, .blank⟩

variable [Scalar α] [Transport α T] [GainStage α G] [PreferenceStore S] [FrameSource F]

/-- A notice of a panel arrives, if one is on its way: the player is told what the panel is now. -/
def deliver (page : LyricsPage α T G S F) (slug : String) : LyricsPage α T G S F :=
  if slug ∈ page.panels.pending then
    match page.panels.isOpen? slug with
    | some isOpen =>
      carryOut ⟨page.player.perform (.toggleLyrics slug isOpen), page.panels.settle slug⟩
    | none => { page with panels := page.panels.settle slug }
  else page

/-- The page after an event. -/
def step (page : LyricsPage α T G S F) : LyricsEvent α T → LyricsPage α T G S F
  | .input input _ => carryOut { page with player := page.player.take input }
  | .flip slug => { page with panels := page.panels.flip slug }
  | .deliver slug => page.deliver slug

/-- The page after one event after the other. -/
def run (page : LyricsPage α T G S F) (events : List (LyricsEvent α T)) : LyricsPage α T G S F :=
  events.foldl step page

theorem run_append (page : LyricsPage α T G S F) (first second : List (LyricsEvent α T)) :
    page.run (first ++ second) = (page.run first).run second :=
  List.foldl_append

/-- The invariant: what is queued is carried out, and the two sides agree. -/
structure InStep (table : TrackTable α) (page : LyricsPage α T G S F) : Prop where
  sameTable : page.player.table = table
  drained : page.player.effects = []
  agree : Agree table page.player.follower.panel? page.panels

section Steps

variable {table : TrackTable α} {page : LyricsPage α T G S F}

omit [Scalar α] [Transport α T] [GainStage α G] [PreferenceStore S] [FrameSource F] in
theorem inStep_carryOut (sameTable : page.player.table = table)
    (agree : Agree table page.player.follower.panel?
      (page.panels.afterAll page.player.effects)) : InStep table page.carryOut :=
  ⟨sameTable, rfl, agree⟩

/-- The panels of a page that is set up are noted one after the other. -/
theorem inStep_mount (inOrder : table.InOrder) (inStep : InStep table page)
    (length : page.player.follower.lyrics.length = table.size) (panel : String × Bool) :
    InStep table (page.mount panel) ∧
      (page.mount panel).player.follower.lyrics.length = table.size := by
  obtain ⟨rfl, drained, agree⟩ := inStep
  obtain ⟨slug, isOpen⟩ := panel
  unfold mount Player.perform Player.registerLyrics Player.indexOf
  dsimp only
  cases found : page.player.table.ofSlug? slug with
  | none => exact ⟨⟨rfl, drained, agree.add_unknown found isOpen⟩, length⟩
  | some track =>
    have placed := inOrder.get?_of_ofSlug? found
    have within : track.index < page.player.follower.lyrics.length := by
      rw [length]
      exact (List.getElem?_eq_some_iff.mp placed).1
    have noted := agree.write inOrder found isOpen (fun _ => rfl :
      ∀ other, (page.panels.add slug isOpen).isOpen? other =
        if other = slug then some isOpen else page.panels.isOpen? other) fun _ _ quiet => quiet
    refine ⟨⟨rfl, drained, noted.congr ?_⟩, ?_⟩
    · exact fun index => Follower.panel?_register_of_lt _ within isOpen index
    · exact (List.length_set).trans length

theorem inStep_start (inOrder : table.InOrder) {player : Player α T G S F}
    (sameTable : player.table = table) (drained : player.effects = [])
    (fresh : player.follower = .start table.size) (panels : List (String × Bool)) :
    InStep table (start player panels) := by
  have nothing (index : Nat) : player.follower.panel? index = none := by
    rw [fresh]
    unfold Follower.panel? Follower.start
    rw [List.getElem?_replicate]
    split <;> rfl
  have initially : InStep table ⟨player, .blank⟩ ∧ player.follower.lyrics.length = table.size := by
    refine ⟨⟨sameTable, drained, agree_blank table nothing⟩, ?_⟩
    rw [fresh]
    exact List.length_replicate
  have mounted : ∀ page : LyricsPage α T G S F, InStep table page ∧
      page.player.follower.lyrics.length = table.size →
      InStep table (panels.foldl mount page) := by
    induction panels with
    | nil => exact fun page inStep => inStep.1
    | cons panel later inductionHypothesis =>
      exact fun page inStep => inductionHypothesis _ (inStep_mount inOrder inStep.1 inStep.2 panel)
  exact mounted _ initially

omit [FrameSource F] in
theorem inStep_deliver (inOrder : table.InOrder) (inStep : InStep table page) (slug : String) :
    InStep table (page.deliver slug) := by
  obtain ⟨rfl, drained, agree⟩ := inStep
  unfold deliver
  split
  · split
    · rename_i isOpen panel
      unfold Player.perform Player.lyricsToggled Player.indexOf
      dsimp only
      cases found : page.player.table.ofSlug? slug with
      | none =>
        refine inStep_carryOut rfl ?_
        show Agree _ _ ((page.panels.settle slug).afterAll page.player.effects)
        rw [drained]
        refine agree.settle fun track there => ?_
        rw [found] at there
        cases there
      | some track =>
        refine inStep_carryOut rfl ?_
        show Agree _ _ ((page.panels.settle slug).afterAll page.player.effects)
        rw [drained]
        have there := agree.noted slug track found (Option.isSome_of_eq_some panel)
        have told := agree.write inOrder found isOpen (Panels.isOpen?_settle panel)
          fun other elsewhere => Panels.not_mem_pending_of_settle elsewhere
        exact told.congr (Follower.panel?_setOpen_of_isSome _ there isOpen)
    · rename_i missing
      exact ⟨rfl, drained, agree.settle fun _ _ => missing⟩
  · exact ⟨rfl, drained, agree⟩

theorem inStep_step (inOrder : table.InOrder) (inStep : InStep table page)
    (event : LyricsEvent α T) : InStep table (page.step event) := by
  cases event with
  | input input unrelated =>
    obtain ⟨rfl, drained, agree⟩ := inStep
    obtain ⟨same, queued, effects, carried⟩ := Player.harmless_take inOrder unrelated
    refine inStep_carryOut same ?_
    show Agree _ _ (page.panels.afterAll (page.player.take input).effects)
    rw [effects, drained]
    exact carried page.panels agree
  | flip slug => exact { inStep with agree := inStep.agree.flip slug }
  | deliver slug => exact inStep_deliver inOrder inStep slug

theorem inStep_run (inOrder : table.InOrder) (inStep : InStep table page)
    (events : List (LyricsEvent α T)) : InStep table (page.run events) := by
  induction events generalizing page with
  | nil => exact inStep
  | cons event later inductionHypothesis =>
    exact inductionHypothesis (inStep_step inOrder inStep event)

end Steps

/-- Whatever goes on around a player on a page with panels, and in whatever order notices arrive, a
panel of a track is the same for the follower as on the page unless a notice of it is on its way. -/
theorem panels_agree_unless_pending [Scalar.Ordered α] {config : Config α} {transport : T} {output : G}
    {store : S} {frames : F} {player : Player α T G S F}
    (setUp : Player.new config transport output store frames = .ok player)
    (panels : List (String × Bool)) (events : List (LyricsEvent α T)) :
    let page := (start player panels).run events
    ∀ slug isOpen track, page.panels.isOpen? slug = some isOpen →
      player.table.ofSlug? slug = some track → slug ∉ page.panels.pending →
      page.player.follower.panel? track.index = some isOpen := by
  intro page slug isOpen track panel found settled
  have isNew := Player.isNew_of_new setUp
  have inOrder := TrackTable.inOrder_of_ofEntries isNew.table
  have started := inStep_start inOrder rfl isNew.effects isNew.follower panels
  have inStep := inStep_run inOrder started events
  rw [← panel]
  exact inStep.agree.same slug track found settled (Option.isSome_of_eq_some panel)

/-- The listener opens the lyrics of the second track, skips to it, by which the player closes those of
the first one, and closes them again. Both notices of the second track arrive, the one of the first does
not. -/
def crossingNotices : List (LyricsEvent Float (InMemory.Deck Float)) :=
  [.flip "dusk", .input (.command .skipNext) rfl, .flip "dusk", .deliver "dusk", .deliver "dusk"]

theorem panels_agree_after_crossing_notices :
    ∃ player, TwoTracks.setUp = .ok player ∧
      let page := (start player [("dawn", true), ("dusk", false)]).run crossingNotices
      page.player.follower.current = 1 ∧ page.panels.pending = ["dawn"] ∧
        ∃ track, player.table.ofSlug? "dusk" = some track ∧
          page.panels.isOpen? "dusk" = some false ∧
          page.player.follower.panel? track.index = some false := by
  obtain ⟨player, setUp, passed⟩ := TwoTracks.exists_player (fun player =>
    let page := (start player [("dawn", true), ("dusk", false)]).run crossingNotices
    decide ((page.player.follower.current = 1 ∧ page.panels.pending = ["dawn"]) ∧
      (player.table.ofSlug? "dusk").isSome = true ∧ page.panels.isOpen? "dusk" = some false))
    (by decide +kernel)
  obtain ⟨⟨moved, pending⟩, there, panel⟩ := of_decide_eq_true passed
  obtain ⟨track, found⟩ := Option.isSome_iff_exists.mp there
  have settled : "dusk" ∉ ((start player [("dawn", true), ("dusk", false)]).run
      crossingNotices).panels.pending := by
    rw [pending]
    decide
  exact ⟨player, setUp, moved, pending, track, found, panel,
    panels_agree_unless_pending setUp _ crossingNotices "dusk" false track panel found settled⟩

end LyricsPage

end ReleasePlayer
